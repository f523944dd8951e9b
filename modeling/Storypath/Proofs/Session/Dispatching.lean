import Storypath.Proofs.Session.Sending
import Storypath.Proofs.Session.StateFile

/-! What a dispatched event can come to. It is ignored, or fails before anything is sent, or a plan
is sent and the state kept; each of these says what was sent and what became of the disk. Main
statement: an attempt that fails changes no file. -/
namespace Storypath

open HoldsDisk (disk faulty)

def ReaderEvent.target? (player : Player) : ReaderEvent → Option Target
  | .follow => some (.ofLabel player.startLabel)
  | .message text => if text = player.startKeyword then some (.ofLabel player.startLabel) else none
  | .postback data => some (.ofReference data)

def ReaderEvent.leaves : ReaderEvent → List String → List String
  | .postback _, _ => []
  | _, tappable => tappable

/-- What comes of delivering statements: they cannot be planned, a message is refused, or all are
taken and the state is kept or not. -/
inductive Delivering (player : Player) (client : Client) (state : ReaderState)
    (statements : List Statement) (d : Disk) : Attempt → Disk → Prop
  | unplanned {fault : DurationFault} (planned : Delivery.plan statements = .error fault) :
    Delivering player client state statements d ⟨[], .error (.duration fault)⟩ d
  | refused {plan before : List Scheduled} {fault : Fault}
    (planned : Delivery.plan statements = .ok plan)
    (refuses : Session.Refuses client state.userId [] plan before fault) :
    Delivering player client state statements d
      ⟨before.map (Push.mk state.userId), .error fault⟩ d
  | sent {plan : List Scheduled} {answer : Except Fault Unit} {d' : Disk}
    (planned : Delivery.plan statements = .ok plan)
    (takes : Session.TakesAll client state.userId [] plan)
    (keeping : Keeping player.stateFolder
      { state with tappable := (lastOffers? plan).getD state.tappable } d answer d') :
    Delivering player client state statements d
      ⟨plan.map (Push.mk state.userId),
        answer.map fun _ => .delivered plan.length ((lastOffers? plan).getD state.tappable)⟩ d'

theorem Delivering.not_ignored {player : Player} {client : Client} {state : ReaderState}
    {statements : List Statement} {d d' : Disk} {attempt : Attempt}
    (delivering : Delivering player client state statements d attempt d') (reason : IgnoreReason) :
    attempt.result ≠ .ok (.ignored reason) := by
  cases delivering with
  | unplanned | refused => simp
  | sent _ _ keeping => cases keeping <;> simp [Except.map]

inductive Unread (faults : Prop) (player : Player) (user : String) (event : ReaderEvent)
    (d : Disk) : Fault → Prop
  | script (may : faults) (failure : FileFailure) :
    Unread faults player user event d (.source player.scriptPath failure)
  | segment {target : Target} {fault : Fault} (asked : event.target? player = some target)
    (segment : player.segment d target = .error fault) : Unread faults player user event d fault
  | file (may : faults) (failure : FileFailure) :
    Unread faults player user event d (.stateRead failure)
  | state {fault : Fault} (state : player.stateOf d user = .error fault) :
    Unread faults player user event d fault

/-- The state in which a reader is found. Where requests may be refused a state may be missed. -/
def Found (faults : Prop) (player : Player) (user : String) (d : Disk) (state : ReaderState) :
    Prop :=
  player.stateOf d user = .ok state ∨ faults ∧ state = .empty user

/-- What can come of an event. -/
inductive Happened (faults : Prop) (player : Player) (client : Client) (user : String)
    (event : ReaderEvent) (d : Disk) : Attempt → Disk → Prop
  | ignored (reason : IgnoreReason) :
    Happened faults player client user event d ⟨[], .ok (.ignored reason)⟩ d
  | unread {fault : Fault} (unread : Unread faults player user event d fault) :
    Happened faults player client user event d ⟨[], .error fault⟩ d
  | answered {target : Target} {statements : List Statement} {state : ReaderState}
    {attempt : Attempt} {d' : Disk} (asked : event.target? player = some target)
    (segment : player.segment d target = .ok statements)
    (found : Found faults player user d state)
    (tapped : ∀ data, event = .postback data → data ∈ state.tappable)
    (delivering : Delivering player client { state with tappable := event.leaves state.tappable }
      statements d attempt d') :
    Happened faults player client user event d attempt d'

section ends

variable {σ : Type} [Files (StateM σ)] [HoldsDisk σ]

theorem deliver_ends (player : Player) (client : Client) (state : ReaderState)
    (statements : List Statement) (s : σ) :
    Ends (Session.deliver player client state statements) s fun attempt s' =>
      Delivering player client state statements (disk s) attempt (disk s') := by
  unfold Session.deliver
  cases planned : Delivery.plan statements with
  | error fault => exact .pure (.unplanned planned)
  | ok plan =>
    rcases Session.send_eq client state.userId [] state.tappable plan with
      ⟨before, fault, refuses, sent⟩ | ⟨takes, sent⟩
    · simp only [sent]
      exact .pure (.refused planned refuses)
    · simp only [sent]
      refine .bind (save_ends player.stateFolder _ s) fun answer s₁ keeping => ?_
      have sent := Delivering.sent planned takes keeping
      cases answer <;> exact .pure sent

theorem segment_ends (player : Player) (user : String) {event : ReaderEvent} {target : Target}
    (asked : event.target? player = some target) (s : σ) :
    Ends (resolveFile player.scriptPath target player.options) s fun answer s' =>
      disk s' = disk s ∧ match answer with
        | .error fault => Unread (faulty σ) player user event (disk s) fault
        | .ok statements => player.segment (disk s) target = .ok statements := by
  refine (reads_script player.scriptPath target player.options s).mono ?_
  refine fun answer s' ⟨kept, read⟩ => ⟨kept, ?_⟩
  rcases read with read | ⟨faults, failure, rfl⟩
  · have segment : player.segment (disk s) target = answer := congrArg Prod.fst read
    cases answer with
    | error fault => exact .segment asked segment
    | ok statements => exact segment
  · exact .script faults failure

theorem state_ends (player : Player) (user : String) (event : ReaderEvent) (s : σ) :
    Ends (ReaderState.load player.stateFolder user) s fun answer s' =>
      disk s' = disk s ∧ match answer with
        | .error fault => Unread (faulty σ) player user event (disk s) fault
        | .ok state => Found (faulty σ) player user (disk s) state := by
  refine (reads_state player.stateFolder user s).mono fun answer s' ⟨kept, read⟩ => ?_
  refine ⟨kept, ?_⟩
  rcases read with read | ⟨faults, rfl | ⟨failure, rfl⟩⟩
  · have state : player.stateOf (disk s) user = answer := congrArg Prod.fst read
    cases answer with
    | error fault => exact .state state
    | ok _ => exact .inl state
  · exact .inr ⟨faults, rfl⟩
  · exact .file faults failure

variable (player : Player) (client : Client) (user : String)

theorem start_ends {event : ReaderEvent}
    (asked : event.target? player = some (.ofLabel player.startLabel))
    (other : ∀ data, event ≠ .postback data) (s : σ) :
    Ends (Session.start player client user) s fun attempt s' =>
      Happened (faulty σ) player client user event (disk s) attempt (disk s') := by
  refine .bind (segment_ends player user asked s) fun answer s₁ ⟨kept, read⟩ => ?_
  cases answer with
  | error fault => exact .pure (by rw [kept]; exact .unread read)
  | ok statements =>
    refine .bind (state_ends player user event s₁) fun answer s₂ ⟨kept', found⟩ => ?_
    rw [kept] at kept' found
    cases answer with
    | error fault => exact .pure (by rw [kept']; exact .unread found)
    | ok state =>
      refine (deliver_ends player client state statements s₂).mono fun attempt s' delivering => ?_
      rw [kept'] at delivering
      have keeps : event.leaves state.tappable = state.tappable := by
        cases event with
        | postback data => exact absurd rfl (other data)
        | _ => rfl
      exact .answered asked read found (fun data same => absurd same (other data))
        (keeps.symm ▸ delivering)

theorem choose_ends (data : String) (s : σ) :
    Ends (Session.choose player client user data) s fun attempt s' =>
      Happened (faulty σ) player client user (.postback data) (disk s) attempt (disk s') := by
  have asked : (ReaderEvent.postback data).target? player = some (.ofReference data) := rfl
  refine .bind (state_ends player user (.postback data) s) fun answer s₁ ⟨kept, found⟩ => ?_
  cases answer with
  | error fault => exact .pure (by rw [kept]; exact .unread found)
  | ok state =>
    by_cases tapped : state.tappable.contains data = true
    · simp only [tapped, if_true]
      refine .bind (segment_ends player user asked s₁) fun answer s₂ ⟨kept', read⟩ => ?_
      rw [kept] at kept' read
      cases answer with
      | error fault => exact .pure (by rw [kept']; exact .unread read)
      | ok statements =>
        refine (deliver_ends player client _ statements s₂).mono fun attempt s' delivering => ?_
        rw [kept'] at delivering
        refine .answered asked read found (fun data' same => ?_) delivering
        obtain rfl := ReaderEvent.postback.inj same
        simpa using tapped
    · simp only [tapped]
      exact .pure (kept ▸ .ignored .notTappable)

theorem dispatch_ends (event : ReaderEvent) (s : σ) :
    Ends (Session.dispatch player client user event) s fun attempt s' =>
      Happened (faulty σ) player client user event (disk s) attempt (disk s') := by
  cases event with
  | follow => exact start_ends player client user rfl (by simp) s
  | message text =>
    unfold Session.dispatch
    by_cases keyword : text = player.startKeyword
    · simp only [keyword, if_true]
      exact start_ends player client user (by simp [ReaderEvent.target?]) (by simp) s
    · simp only [keyword, if_false]
      exact .pure (.ignored .notStartKeyword)
  | postback data => exact choose_ends player client user data s

theorem happened_of_dispatched {player : Player} {client : Client} {user : String}
    {event : ReaderEvent} {s s' : σ} {attempt : Attempt}
    (dispatched : (Session.dispatch player client user event : StateM σ Attempt).run s =
      (attempt, s')) :
    Happened (faulty σ) player client user event (disk s) attempt (disk s') := by
  have ends := dispatch_ends player client user event s
  rwa [Ends, dispatched] at ends

end ends

namespace Disk

variable (d : Disk) (player : Player) (client : Client) (user : String)

theorem run_script (target : Target) :
    d.run (resolveFile player.scriptPath target player.options) = (player.segment d target, d) :=
  Prod.ext rfl (reads_script player.scriptPath target player.options d).1

theorem run_state :
    d.run (ReaderState.load player.stateFolder user) = (player.stateOf d user, d) :=
  Prod.ext rfl (reads_state player.stateFolder user d).1

theorem run_deliver (state : ReaderState) (statements : List Statement) :
    d.run (Session.deliver player client state statements) =
      match Delivery.plan statements with
      | .error fault => (⟨[], .error (.duration fault)⟩, d)
      | .ok plan =>
        match Session.send client state.userId [] state.tappable plan with
        | (pushed, .error fault) => (⟨pushed, .error fault⟩, d)
        | (pushed, .ok tappable) =>
          let kept := d.run ({ state with tappable := tappable }.save player.stateFolder)
          (⟨pushed, kept.1.map fun _ => .delivered plan.length tappable⟩, kept.2) := by
  unfold Session.deliver
  cases Delivery.plan statements with
  | error fault => rfl
  | ok plan =>
    rcases sent : Session.send client state.userId [] state.tappable plan with
      ⟨pushed, fault | tappable⟩ <;> simp only [sent]
    · rfl
    · rw [run_bind]
      cases (d.run ({ state with tappable := tappable }.save player.stateFolder)).1 <;> rfl

theorem run_start :
    d.run (Session.start player client user) =
      match player.segment d (.ofLabel player.startLabel), player.stateOf d user with
      | .error fault, _ => (⟨[], .error fault⟩, d)
      | .ok _, .error fault => (⟨[], .error fault⟩, d)
      | .ok statements, .ok state => d.run (Session.deliver player client state statements) := by
  rw [Session.start, run_bind, run_script]
  cases player.segment d (.ofLabel player.startLabel) with
  | error fault => rfl
  | ok statements =>
    simp only [run_bind, run_state]
    cases player.stateOf d user <;> rfl

theorem run_choose (data : String) :
    d.run (Session.choose player client user data) =
      match player.stateOf d user with
      | .error fault => (⟨[], .error fault⟩, d)
      | .ok state =>
        if data ∈ state.tappable then
          match player.segment d (.ofReference data) with
          | .error fault => (⟨[], .error fault⟩, d)
          | .ok statements =>
            d.run (Session.deliver player client { state with tappable := [] } statements)
        else (⟨[], .ok (.ignored .notTappable)⟩, d) := by
  rw [Session.choose, run_bind, run_state]
  cases player.stateOf d user with
  | error fault => rfl
  | ok state =>
    by_cases tapped : data ∈ state.tappable
    · have contains : state.tappable.contains data = true := List.contains_iff_mem.mpr tapped
      simp only [contains, tapped, if_true, run_bind, run_script]
      cases player.segment d (.ofReference data) <;> rfl
    · have contains : state.tappable.contains data = false := by simpa using tapped
      simp only [contains, if_neg tapped]
      rfl

end Disk
end Storypath
