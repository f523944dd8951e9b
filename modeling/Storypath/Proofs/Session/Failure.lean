import Mathlib
import Storypath.Proofs.Session.Dispatching

/-! Attempts that fail. What has been sent then is told by the stage that failed, no file has been
changed, and a choice can be tapped again. -/
namespace Storypath

open HoldsDisk (disk faulty)

/-- The user to whom messages are sent: the one who is named in the state that is found. -/
def Addressed (faults : Prop) (player : Player) (user : String) (d : Disk) (addressee : String) :
    Prop :=
  ∃ state, Found faults player user d state ∧ state.userId = addressee

/-- How an attempt can fail, what has been sent by then, and why it failed. -/
inductive Failed (faults : Prop) (player : Player) (client : Client) (user : String)
    (event : ReaderEvent) (d : Disk) : List Push → Fault → Prop
  | unread {fault : Fault} (unread : Unread faults player user event d fault) :
    Failed faults player client user event d [] fault
  | unplanned {target : Target} {statements : List Statement} {fault : DurationFault}
    (asked : event.target? player = some target)
    (segment : player.segment d target = .ok statements)
    (planned : Delivery.plan statements = .error fault) :
    Failed faults player client user event d [] (.duration fault)
  | refused {target : Target} {statements : List Statement} {addressee : String}
    {plan before : List Scheduled} {fault : Fault} (asked : event.target? player = some target)
    (segment : player.segment d target = .ok statements)
    (planned : Delivery.plan statements = .ok plan)
    (addressed : Addressed faults player user d addressee)
    (refuses : Session.Refuses client addressee [] plan before fault) :
    Failed faults player client user event d (before.map (Push.mk addressee)) fault
  | unsaved {target : Target} {statements : List Statement} {addressee : String}
    {plan : List Scheduled} {fault : Fault} (asked : event.target? player = some target)
    (segment : player.segment d target = .ok statements)
    (planned : Delivery.plan statements = .ok plan)
    (addressed : Addressed faults player user d addressee)
    (takes : Session.TakesAll client addressee [] plan)
    (saving : fault = .user addressee ∧ ReaderState.isUserId addressee = false ∨
      ∃ failure, fault = .stateWrite failure) :
    Failed faults player client user event d (plan.map (Push.mk addressee)) fault

variable {faults : Prop} {player : Player} {client : Client} {user : String}
  {event : ReaderEvent} {d d' : Disk} {pushed : List Push} {fault : Fault}

theorem Happened.failed
    (happened : Happened faults player client user event d ⟨pushed, .error fault⟩ d') :
    Failed faults player client user event d pushed fault ∧ Prepares d player.stateFolder d' ∧
      ∀ data, event = .postback data → d' = d := by
  have same : Prepares d player.stateFolder d := ⟨.refl _ _, fun _ => rfl⟩
  generalize result : Attempt.mk pushed (.error fault) = attempt at happened
  cases happened with
  | ignored reason => simp at result
  | unread unread =>
    obtain ⟨rfl, fault'⟩ := Attempt.mk.inj result
    obtain rfl := Except.error.inj fault'
    exact ⟨.unread unread, same, fun _ _ => rfl⟩
  | @answered target statements state _ _ asked segment found tapped delivering =>
    cases delivering with
    | unplanned planned =>
      obtain ⟨rfl, fault'⟩ := Attempt.mk.inj result
      obtain rfl := Except.error.inj fault'
      exact ⟨.unplanned asked segment planned, same, fun _ _ => rfl⟩
    | refused planned refuses =>
      obtain ⟨rfl, fault'⟩ := Attempt.mk.inj result
      obtain rfl := Except.error.inj fault'
      exact ⟨.refused asked segment planned ⟨state, found, rfl⟩ refuses, same, fun _ _ => rfl⟩
    | @sent plan answer _ planned takes keeping =>
      obtain ⟨rfl, fault'⟩ := Attempt.mk.inj result
      cases keeping with
      | rejected rejected =>
        obtain rfl := Except.error.inj fault'
        exact ⟨.unsaved asked segment planned ⟨state, found, rfl⟩ takes (.inl ⟨rfl, rejected⟩),
          same, fun _ _ => rfl⟩
      | refused failure prepares =>
        obtain rfl := Except.error.inj fault'
        refine ⟨.unsaved asked segment planned ⟨state, found, rfl⟩ takes (.inr ⟨failure, rfl⟩),
          prepares, fun data postback => ?_⟩
        have tappable : state.tappable ≠ [] := List.ne_nil_of_mem (tapped data postback)
        rcases found with found | ⟨-, rfl⟩
        · exact prepares.same (Player.folder_of_tappable found tappable)
        · exact absurd rfl tappable
      | done => simp [Except.map] at fault'

/-- An attempt that fails leaves every file as it was. Nothing has been sent if reading or planning
failed, the messages before the first that was refused if one was, and all if the state was not
kept. A choice that failed leaves the whole disk as it was and can be tapped again. -/
theorem dispatch_failed {σ : Type} [Files (StateM σ)] [HoldsDisk σ] {s s' : σ}
    (failed : (Session.dispatch player client user event : StateM σ Attempt).run s =
      (⟨pushed, .error fault⟩, s')) :
    (∀ place, (disk s').file? place = (disk s).file? place) ∧
      Failed (faulty σ) player client user event (disk s) pushed fault ∧
      ∀ data, event = .postback data → disk s' = disk s := by
  have ends := dispatch_ends player client user event s
  rw [Ends, failed] at ends
  obtain ⟨how, prepares, retry⟩ := ends.failed
  refine ⟨fun place => ?_, how, retry⟩
  rw [Disk.file?_eq, Disk.file?_eq]
  rcases prepares.grows.standing place with same | ⟨nothing, folder, -⟩
  · rw [same]
  · rw [nothing, folder]

def blockedPlayer : Player := ⟨"a", "s", "*a", "go", {}⟩

def blockedDisk : Disk := ⟨[], .folder [("a", .file "*a\nHi\n@end".toUTF8), ("s", .file .empty)]⟩

theorem dispatch_blocked :
    blockedDisk.run (Session.dispatch blockedPlayer .accepting "u" .follow) =
        (⟨[⟨"u", 2000000000, .text "Hi"⟩], .error (.stateWrite .alreadyExists)⟩, blockedDisk) ∧
      Failed False blockedPlayer .accepting "u" .follow blockedDisk
        [⟨"u", 2000000000, .text "Hi"⟩] (.stateWrite .alreadyExists) := by
  have segment : blockedPlayer.segment blockedDisk (.ofLabel "*a") = .ok [.text "Hi"] := by cbv
  have state : blockedPlayer.stateOf blockedDisk "u" = .ok (.empty "u") := rfl
  have failed : blockedDisk.run (Session.dispatch blockedPlayer .accepting "u" .follow) =
      (⟨[⟨"u", 2000000000, .text "Hi"⟩], .error (.stateWrite .alreadyExists)⟩, blockedDisk) := by
    rw [Session.dispatch, Disk.run_start, show blockedPlayer.startLabel = "*a" from rfl, segment,
      state]
    rfl
  exact ⟨failed, (dispatch_failed failed).2.1⟩

end Storypath
