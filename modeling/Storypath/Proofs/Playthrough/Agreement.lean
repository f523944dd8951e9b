import Mathlib
import Storypath.Proofs.Delivery.Planning
import Storypath.Proofs.Playthrough.Course
import Storypath.Proofs.Session.Isolation

/-! A playthrough, and a reader who makes the same choices. Both follow one course: the playthrough
keeps what is offered in memory, the reader's player keeps it in a file between two events. Main
statement: the one succeeds where the other does, and the reader is sent what the playthrough
shows. -/
namespace Storypath

open Playthrough (offered next? visited Completes)

/-- A statement that can be delivered whole: it waits for a time that can be read, and all branches
of a choice have a text. -/
@[mk_iff]
structure Statement.Deliverable (s : Statement) : Prop where
  waits : s.CanWait
  labelled : ∀ b ∈ s.branches, b.buttonText ≠ ""

def Observation.message? : Observation → Option Message
  | .text t => some (.text t)
  | .choices prompt entries =>
    some (.buttons prompt prompt (entries.map fun e => ⟨e.text, e.target, e.text⟩))
  | .pause _ | .ending => none

section messages

variable {statements : List Statement} {plan : List Scheduled}

theorem Button.ofBranches_eq {branches : List Branch}
    (labelled : ∀ b ∈ branches, b.buttonText ≠ "") :
    Button.ofBranches branches =
      branches.map fun b => ⟨b.buttonText, b.targetLabel, b.buttonText⟩ := by
  rw [ofBranches, List.takeWhile_eq_self_iff.mpr]
  intro b mem
  simpa using labelled b mem

theorem Statement.Deliverable.message?_eq {s : Statement} (deliverable : s.Deliverable) :
    s.message? = (Observation.ofStatement s).message? := by
  cases s with
  | text t => rfl
  | pause literal => rfl
  | choice prompt branches =>
    have labelled : ∀ b ∈ branches, b.buttonText ≠ "" := deliverable.labelled
    simp [message?, effect, Observation.ofStatement, Observation.message?,
      Button.ofBranches_eq labelled]

theorem filterMap_message? (deliverable : ∀ s ∈ statements, s.Deliverable) :
    statements.filterMap Statement.message? =
      (statements.map Observation.ofStatement).filterMap Observation.message? := by
  rw [List.filterMap_map]
  exact List.filterMap_congr fun s mem => (deliverable s mem).message?_eq

theorem offered_eq (deliverable : ∀ s ∈ statements, s.Deliverable) :
    offered statements =
      ((statements.filterMap Statement.message?).filterMap Message.offers?).getLast?.getD [] := by
  unfold offered
  generalize ([] : List String) = targets
  induction statements generalizing targets with
  | nil => rfl
  | cons s rest ih =>
    obtain ⟨first, later⟩ := List.forall_mem_cons.mp deliverable
    rw [List.foldl_cons, ih later]
    cases s with
    | text t => simp [Statement.message?, Statement.effect, Message.offers?]
    | pause literal => rfl
    | choice prompt branches =>
      have labelled : ∀ b ∈ branches, b.buttonText ≠ "" := first.labelled
      simp [Statement.message?, Statement.effect, Message.offers?,
        Button.ofBranches_eq labelled, List.getLast?_cons, Function.comp_def]

theorem lastOffers?_plan (deliverable : ∀ s ∈ statements, s.Deliverable)
    (planned : Delivery.plan statements = .ok plan) :
    (lastOffers? plan).getD [] = offered statements := by
  rw [offered_eq deliverable, ← Delivery.map_message_plan planned, List.filterMap_map]
  rfl

end messages

structure Awaits (player : Player) (d : Disk) (user : String) : Prop where
  valid : ReaderState.isUserId user = true
  no_file : ∀ content, d.standing (d.placeOf (player.statePath user)) ≠ .file content
  saves : ∀ tappable, (d.run (ReaderState.save player.stateFolder
    ⟨ReaderState.schema, user, tappable⟩)).1 = .ok ()

/-- A later disk, on which the script is as before and some choices are kept for the user. -/
structure Serving (player : Player) (d : Disk) (user source : String) (tappable : List String)
    (d' : Disk) : Prop where
  stage : player.Stage d d'
  apart : d'.placeOf player.scriptPath ≠ d'.placeOf (player.statePath user)
  text : (d'.run (readText player.scriptPath)).1 = .ok source
  state : player.stateOf d' user = .ok ⟨ReaderState.schema, user, tappable⟩

def Attempt.Delivered (attempt : Attempt) : Prop :=
  ∃ n tappable, attempt.result = .ok (.delivered n tappable)

namespace Awaits

variable {player : Player} {d d' : Disk} {user source : String} {tappable : List String}
  (awaits : Awaits player d user)
include awaits

theorem stateOf : player.stateOf d user = .ok (.empty user) := by
  rw [Player.stateOf_of_no_file awaits.valid awaits.no_file, if_neg]
  intro folder
  obtain ⟨keeps, ⟨fault, refused, -⟩ | ⟨-, -, kept, -⟩⟩ := Player.spares_of_keeping
    (d.keeping_run player.stateFolder ⟨ReaderState.schema, user, []⟩)
  · rw [awaits.saves []] at refused
    simp at refused
  · rw [Disk.read_of_isFolder (keeps.isFolder folder)] at kept
    simp at kept

theorem serving (text : (d.run (readText player.scriptPath)).1 = .ok source) :
    Serving player d user source [] d where
  stage := .inl rfl
  apart same := by
    rw [Player.text_eq] at text
    cases read : d.read player.scriptPath with
    | error failure => simp [read, Except.bind] at text
    | ok content => exact awaits.no_file content (same ▸ (Disk.read_eq_ok_iff.mp read).2)
  text := text
  state := awaits.stateOf

theorem save (serving : Serving player d user source tappable d') (offers : List String) :
    ∃ d'', d'.run (ReaderState.save player.stateFolder ⟨ReaderState.schema, user, offers⟩) =
      (.ok (), d'') ∧ Serving player d user source offers d'' := by
  obtain ⟨same, settled⟩ := serving.stage.save ⟨ReaderState.schema, user, offers⟩ awaits.valid
  have keeping := d'.keeping_run player.stateFolder ⟨ReaderState.schema, user, offers⟩
  rcases saved : d'.run (ReaderState.save player.stateFolder ⟨ReaderState.schema, user, offers⟩)
    with ⟨answer, d''⟩
  rw [saved] at same settled keeping
  -- What others have kept, or the user before, does not make keeping fail.
  have granted : answer = .ok () := by
    rcases same with same | ⟨-, _, _, refused, -⟩
    · exact same.trans (awaits.saves offers)
    · simp [awaits.saves offers] at refused
  subst granted
  obtain ⟨keeps, ⟨fault, refused, -⟩ | ⟨-, -, kept, spares⟩⟩ := Player.spares_of_keeping keeping
  · simp at refused
  refine ⟨d'', rfl, .inr settled, ?_, ?_, Player.stateOf_of_read awaits.valid rfl kept⟩
  · rw [keeps.placeOf_eq, keeps.placeOf_eq]
    exact serving.apart
  · have text := serving.text
    rw [Player.text_eq] at text ⊢
    cases read : d'.read player.scriptPath with
    | error failure => simp [read, Except.bind] at text
    | ok content => rwa [(spares _ serving.apart).read read, ← read]

theorem deliver {statements : List Statement}
    (serving : Serving player d user source tappable d')
    (deliverable : ∀ s ∈ statements, s.Deliverable) :
    ∃ plan d'', Delivery.plan statements = .ok plan ∧
      d'.run (Session.deliver player .accepting ⟨ReaderState.schema, user, []⟩ statements) =
        (⟨plan.map (Push.mk user), .ok (.delivered plan.length (offered statements))⟩, d'') ∧
      Serving player d user source (offered statements) d'' := by
  obtain ⟨plan, planned⟩ := Delivery.plan_ok_iff.mpr fun s mem => (deliverable s mem).waits
  obtain ⟨d'', saved, serving'⟩ := awaits.save serving (offered statements)
  refine ⟨plan, d'', planned, ?_, serving'⟩
  have sent : Session.send .accepting user [] [] plan =
      (plan.map (Push.mk user), .ok (offered statements)) := by
    rcases Session.send_eq .accepting user [] [] plan with ⟨_, _, refuses, -⟩ | ⟨-, sent⟩
    · obtain ⟨_, _, -, refused⟩ := refuses.refused
      simp [Client.accepting] at refused
    · rw [sent, lastOffers?_plan deliverable planned]
      rfl
  rw [Disk.run_deliver]
  simp only [planned, sent, saved]
  rfl

end Awaits

section

variable {player : Player} {d d' : Disk} {user source : String} {statements : List Statement}

theorem Serving.segment {tappable : List String}
    (serving : Serving player d user source tappable d') (target : Target) :
    player.segment d' target = (resolveTarget source target player.options).mapError .script := by
  rw [Player.segment_eq, serving.text]

def Action.dispatched (a : Action) (player : Player) (user : String) (d : Disk) : Attempt × Disk :=
  d.run (Session.dispatch player .accepting user (.postback a.target))

theorem Serving.not_delivered
    (serving : Serving player d user source (offered statements) d') {a : Action}
    (stuck : next? source player.options statements a = none) :
    ¬ (a.dispatched player user d').1.Delivered := by
  rintro ⟨n, tappable, delivered⟩
  rw [Action.dispatched, Session.dispatch, Disk.run_choose, serving.state] at delivered
  by_cases mem : a.target ∈ offered statements
  · simp only [mem, if_true, serving.segment] at delivered
    cases resolved : resolveTarget source (.ofReference a.target) player.options with
    | error fault => simp [resolved, Except.mapError] at delivered
    | ok next =>
      have leads := Playthrough.next?_eq_some_iff.mpr ⟨mem, resolved⟩
      simp [stuck] at leads
  · simp [mem] at delivered

theorem Serving.delivered (awaits : Awaits player d user)
    (serving : Serving player d user source (offered statements) d') {a : Action}
    {next : List Statement} (leads : next? source player.options statements a = some next)
    (deliverable : ∀ s ∈ next, s.Deliverable) :
    ∃ plan d'', Delivery.plan next = .ok plan ∧
      a.dispatched player user d' =
        (⟨plan.map (Push.mk user), .ok (.delivered plan.length (offered next))⟩, d'') ∧
      Serving player d user source (offered next) d'' := by
  obtain ⟨mem, resolved⟩ := Playthrough.next?_eq_some_iff.mp leads
  have resolved : resolveTarget source (.ofReference a.target) player.options = .ok next := resolved
  obtain ⟨plan, d'', planned, delivered, serving'⟩ := awaits.deliver serving deliverable
  refine ⟨plan, d'', planned, ?_, serving'⟩
  rw [Action.dispatched, Session.dispatch, Disk.run_choose, serving.state]
  simp only [mem, if_true, serving.segment, resolved, Except.mapError]
  exact delivered

def choices (user : String) (actions : List Action) : List Request :=
  actions.map fun a => ⟨user, .postback a.target, .accepting⟩

def journey (user : String) (actions : List Action) : List Request :=
  ⟨user, .follow, .accepting⟩ :: choices user actions

/-- Requests that have all been delivered, after which the user has nothing to choose. -/
structure PlayedOut (player : Player) (user : String) (served : List (String × Attempt) × Disk) :
    Prop where
  delivered : ∀ answer ∈ served.1, answer.2.Delivered
  state : ∃ state, player.stateOf served.2 user = .ok state ∧ state.tappable = []

def messagesSent (served : List (String × Attempt)) : List Message :=
  served.flatMap fun answer => answer.2.pushed.map fun push => push.scheduled.message

theorem playedOut_cons {answer : String × Attempt} {later : List (String × Attempt)} :
    PlayedOut player user (answer :: later, d) ↔
      answer.2.Delivered ∧ PlayedOut player user (later, d) := by
  constructor
  · intro played
    obtain ⟨first, rest⟩ := List.forall_mem_cons.mp played.delivered
    exact ⟨first, rest, played.state⟩
  · intro ⟨first, rest⟩
    exact ⟨List.forall_mem_cons.mpr ⟨first, rest.delivered⟩, rest.state⟩

theorem messagesSent_cons {user : String} {plan : List Scheduled} {result : Except Fault Outcome}
    {later : List (String × Attempt)} (planned : Delivery.plan statements = .ok plan) :
    messagesSent ((user, ⟨plan.map (Push.mk user), result⟩) :: later) =
      statements.filterMap Statement.message? ++ messagesSent later := by
  rw [← Delivery.map_message_plan planned]
  simp [messagesSent, Function.comp_def]

/-- From a segment on, the choices of a reader are all delivered and leave nothing to choose just
if the course completes, and what is sent are the messages of the segments to which they lead. -/
theorem Serving.serve (awaits : Awaits player d user)
    (serving : Serving player d user source (offered statements) d') {actions : List Action}
    (deliverable : ∀ segment ∈ (visited source player.options statements actions).tail,
      ∀ s ∈ segment, s.Deliverable) :
    (PlayedOut player user (player.serve d' (choices user actions)) ↔
        Completes source player.options statements actions) ∧
      (Completes source player.options statements actions →
        messagesSent (player.serve d' (choices user actions)).1 =
          (visited source player.options statements actions).tail.flatten.filterMap
            Statement.message?) := by
  -- What carries the induction is that the file holds what the segment before offers.
  induction actions generalizing d' statements with
  | nil =>
    refine ⟨⟨fun played => ?_, fun none => ?_⟩, fun _ => rfl⟩
    · obtain ⟨state, found, empty⟩ := played.state
      obtain rfl := Except.ok.inj (serving.state.symm.trans found)
      exact empty
    · exact ⟨by simp [choices, Player.serve], _, serving.state, none⟩
  | cons a actions ih =>
    cases leads : next? source player.options statements a with
    | none =>
      have stuck := serving.not_delivered leads
      have incomplete : ¬ Completes source player.options statements (a :: actions) := by
        simp [Completes, leads]
      refine ⟨⟨fun played => ?_, fun completes => absurd completes incomplete⟩,
        fun completes => absurd completes incomplete⟩
      exact absurd (playedOut_cons.mp played).1 stuck
    | some next =>
      rw [Playthrough.visited_cons leads, List.tail_cons] at deliverable ⊢
      rw [Playthrough.visited_eq_cons] at deliverable ⊢
      obtain ⟨first, later⟩ := List.forall_mem_cons.mp deliverable
      obtain ⟨plan, d'', planned, delivered, serving'⟩ := serving.delivered awaits leads first
      obtain ⟨played, shown⟩ := ih serving' later
      have served : player.serve d' (choices user (a :: actions)) =
          ((user, ⟨plan.map (Push.mk user), .ok (.delivered plan.length (offered next))⟩) ::
              (player.serve d'' (choices user actions)).1,
            (player.serve d'' (choices user actions)).2) := by
        rw [Action.dispatched] at delivered
        simp only [choices, List.map_cons, Player.serve, delivered]
      rw [Playthrough.completes_cons leads, served]
      refine ⟨?_, fun completes => ?_⟩
      · rw [playedOut_cons, ← played]
        exact and_iff_right ⟨_, _, rfl⟩
      · rw [messagesSent_cons planned, shown completes, List.flatten_cons, List.filterMap_append]

end

theorem not_playedOut_of_segment {player : Player} {d : Disk} {user : String} {fault : Fault}
    {actions : List Action} (segment : player.segment d (.ofLabel player.startLabel) = .error fault) :
    ¬ PlayedOut player user (player.serve d (journey user actions)) := by
  intro played
  obtain ⟨n, tappable, delivered⟩ := played.delivered _ (List.mem_cons_self ..)
  rw [Session.dispatch, Disk.run_start, segment] at delivered
  simp at delivered

theorem Awaits.serve {player : Player} {d : Disk} {user source : String}
    (awaits : Awaits player d user) (text : (d.run (readText player.scriptPath)).1 = .ok source)
    {actions : List Action}
    (deliverable : ∀ first, resolve source player.startLabel player.options = .ok first →
      ∀ segment ∈ visited source player.options first actions, ∀ s ∈ segment, s.Deliverable) :
    (PlayedOut player user (player.serve d (journey user actions)) ↔
        ∃ first, resolve source player.startLabel player.options = .ok first ∧
          Completes source player.options first actions) ∧
      ∀ first, resolve source player.startLabel player.options = .ok first →
        Completes source player.options first actions →
        messagesSent (player.serve d (journey user actions)).1 =
          (visited source player.options first actions).flatten.filterMap Statement.message? := by
  have serving := awaits.serving text
  cases resolved : resolve source player.startLabel player.options with
  | error fault =>
    have resolved : resolveTarget source (.ofLabel player.startLabel) player.options =
      .error fault := resolved
    have segment : player.segment d (.ofLabel player.startLabel) = .error (.script fault) := by
      rw [serving.segment, resolved, Except.mapError]
    exact ⟨⟨fun played => absurd played (not_playedOut_of_segment segment), by simp⟩, by simp⟩
  | ok first =>
    have deliverable := deliverable first resolved
    rw [Playthrough.visited_eq_cons] at deliverable
    obtain ⟨now, later⟩ := List.forall_mem_cons.mp deliverable
    obtain ⟨plan, d', planned, delivered, serving'⟩ := awaits.deliver serving now
    obtain ⟨played, shown⟩ := serving'.serve awaits later
    have resolved : resolveTarget source (.ofLabel player.startLabel) player.options =
      .ok first := resolved
    have segment : player.segment d (.ofLabel player.startLabel) = .ok first := by
      rw [serving.segment, resolved, Except.mapError]
    have followed := d.run_start player .accepting user
    simp only [segment, awaits.stateOf] at followed
    have served : player.serve d (journey user actions) =
        ((user, ⟨plan.map (Push.mk user), .ok (.delivered plan.length (offered first))⟩) ::
            (player.serve d' (choices user actions)).1,
          (player.serve d' (choices user actions)).2) := by
      have delivered := followed.trans delivered
      simp only [journey, Player.serve, Session.dispatch, delivered]
    have whole : (⟨plan.map (Push.mk user),
        .ok (.delivered plan.length (offered first))⟩ : Attempt).Delivered := ⟨_, _, rfl⟩
    rw [served]
    refine ⟨by simp [playedOut_cons, whole, played], ?_⟩
    · intro other same completes
      obtain rfl := Except.ok.inj same
      rw [messagesSent_cons planned, shown completes, Playthrough.visited_eq_cons first,
        List.flatten_cons, List.filterMap_append, List.tail_cons]

/-- Fix a script, a label to start from and whether it is read strictly. Playing a case succeeds
just if the events of a reader who follows and makes the same choices are all delivered and leave
nothing to choose. What the reader is sent then are the messages of all that the case has shown. -/
theorem runCase_agrees {player : Player} {d : Disk} {user folder : String} {c : Case}
    (awaits : Awaits player d user)
    (script : (d.run (readText (Path.join folder c.script))).1 =
      (d.run (readText player.scriptPath)).1)
    (label : player.startLabel = c.startLabel)
    (options : player.options = Playthrough.scriptOptions c)
    (few : c.actions.length < Playthrough.maxSteps)
    (deliverable : ∀ source first, (d.run (readText player.scriptPath)).1 = .ok source →
      resolve source c.startLabel (Playthrough.scriptOptions c) = .ok first →
      ∀ segment ∈ visited source (Playthrough.scriptOptions c) first c.actions,
        ∀ s ∈ segment, s.Deliverable) :
    ((∃ report, (d.run (Playthrough.runCase folder c)).1 = .ok report) ↔
        PlayedOut player user (player.serve d (journey user c.actions))) ∧
      ∀ report, (d.run (Playthrough.runCase folder c)).1 = .ok report →
        messagesSent (player.serve d (journey user c.actions)).1 =
          report.observed.filterMap Observation.message? := by
  rw [d.run_runCase, script]
  cases text : (d.run (readText player.scriptPath)).1 with
  | error failure =>
    have segment : player.segment d (.ofLabel player.startLabel) =
        .error (.source player.scriptPath failure) := by
      rw [Player.segment_eq, text]
    exact ⟨⟨by simp, fun played => absurd played (not_playedOut_of_segment segment)⟩, by simp⟩
  | ok source =>
    have deliverable := deliverable source
    rw [← label, ← options] at deliverable
    obtain ⟨played, shown⟩ := awaits.serve text fun first => deliverable first text
    simp only [Playthrough.play_eq_ok_iff few, ← label, ← options]
    refine ⟨?_, ?_⟩
    · rw [played]
      constructor
      · rintro ⟨report, first, resolved, completes, -⟩
        exact ⟨first, resolved, completes⟩
      · rintro ⟨first, resolved, completes⟩
        exact ⟨_, first, resolved, completes, rfl⟩
    · rintro report ⟨first, resolved, completes, rfl⟩
      have whole : ∀ s ∈ (visited source player.options first c.actions).flatten,
          s.Deliverable := by
        intro s mem
        obtain ⟨segment, visits, mem⟩ := List.mem_flatten.mp mem
        exact deliverable first text resolved segment visits s mem
      rw [shown first resolved completes, filterMap_message? whole, List.filterMap_append]
      simp [Observation.message?]

def madeDisk : Disk := ⟨[], .folder [("s", .folder []), ("a", .file partingStory.toUTF8)]⟩

theorem awaits_partingDisk : Awaits askingPlayer partingDisk "u" where
  valid := rfl
  no_file := by
    intro content
    have place : partingDisk.placeOf (askingPlayer.statePath "u") = ["s", "u.json"] := rfl
    rw [place]
    exact Standing.noConfusion
  saves tappable := by
    have valid : ReaderState.isUserId "u" = true := rfl
    have made : partingDisk.run (makeFolders "s") = (.ok (), madeDisk) := rfl
    have free : madeDisk.block? (askingPlayer.statePath "u") = none := rfl
    have nothing : madeDisk.standing (madeDisk.placeOf (askingPlayer.statePath "u")) = .nothing :=
      rfl
    rw [@Player.run_save askingPlayer ⟨ReaderState.schema, "u", tappable⟩ valid,
      show askingPlayer.stateFolder = "s" from rfl, made]
    rcases madeDisk.write_eq (askingPlayer.statePath "u")
        (ReaderState.toJson ⟨ReaderState.schema, "u", tappable⟩).render.toUTF8 with
      ⟨failure, -, block | ⟨-, folder, -⟩⟩ | ⟨d', written, -⟩
    · simp [free] at block
    · simp [nothing] at folder
    · simp only [written]

theorem runCase_agrees_partingCase :
    Awaits askingPlayer partingDisk "u" ∧
      PlayedOut askingPlayer "u" (askingPlayer.serve partingDisk (journey "u" [⟨"b"⟩])) ∧
      messagesSent (askingPlayer.serve partingDisk (journey "u" [⟨"b"⟩])).1 =
        [.buttons "Go?" "Go?" [⟨"Yes", "b", "Yes"⟩], .text "Bye"] := by
  have text : (partingDisk.run (readText "a")).1 = .ok partingStory := by
    rw [Player.text_eq, show partingDisk.read "a" = .ok partingStory.toUTF8 from rfl, Except.bind,
      fromUTF8?_toUTF8]
  have first : resolve partingStory "*a" (Playthrough.scriptOptions partingCase) =
      .ok [.choice "Go?" [⟨"b", "Yes"⟩]] := by cbv
  have leads : next? partingStory (Playthrough.scriptOptions partingCase)
      [.choice "Go?" [⟨"b", "Yes"⟩]] ⟨"b"⟩ = some [.text "Bye"] := by cbv
  have course : visited partingStory (Playthrough.scriptOptions partingCase)
      [.choice "Go?" [⟨"b", "Yes"⟩]] [⟨"b"⟩] = [[.choice "Go?" [⟨"b", "Yes"⟩]], [.text "Bye"]] := by
    rw [Playthrough.visited_cons leads]
    rfl
  have deliverable : ∀ segment ∈ visited partingStory (Playthrough.scriptOptions partingCase)
      [.choice "Go?" [⟨"b", "Yes"⟩]] [⟨"b"⟩], ∀ s ∈ segment, s.Deliverable := by
    simp [course, Statement.deliverable_iff, Statement.CanWait, Statement.branches]
  have report : (partingDisk.run (Playthrough.runCase "" partingCase)).1 =
      .ok ⟨[.choices "Go?" [⟨"b", "Yes"⟩], .text "Bye", .ending], 1, 2⟩ := by
    rw [Disk.run_runCase, show Path.join "" partingCase.script = "a" from rfl, text]
    refine (Playthrough.play_eq_ok_iff (by decide)).mpr ⟨_, first, ?_, ?_⟩
    · exact (Playthrough.completes_cons leads).mpr rfl
    · rw [show partingCase.actions = [⟨"b"⟩] from rfl, course]
      rfl
  have agrees := @runCase_agrees askingPlayer partingDisk "u" "" partingCase awaits_partingDisk rfl
    rfl rfl (by decide) (by
      intro source begun given resolved
      obtain rfl := Except.ok.inj (text.symm.trans given)
      obtain rfl := Except.ok.inj (first.symm.trans resolved)
      exact deliverable)
  exact ⟨awaits_partingDisk, agrees.1.mp ⟨_, report⟩, agrees.2 _ report⟩

end Storypath
