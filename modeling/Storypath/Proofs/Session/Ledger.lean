import Mathlib
import Storypath.Proofs.Session.Dispatching

/-! What readers may tap over a run. A ledger is kept beside the disk, from nothing but the
attempts that are seen: what is delivered sets or clears the choices of its reader. Main
statement: the files of states agree with the ledger however many readers take turns, whatever
their clients refuse, and however the script is changed on the way. -/
namespace Storypath

abbrev Ledger := String → List String

/-- A ledger after an attempt. What is delivered sets the choices of its reader to the last that
it offers; without an offer a choice that was tapped clears them. Nothing else changes them. -/
def Ledger.after (tappable : Ledger) (user : String) (event : ReaderEvent) (attempt : Attempt) :
    Ledger :=
  match attempt.result with
  | .ok (.delivered _ _) =>
    Function.update tappable user
      ((lastOffers? (attempt.pushed.map (·.scheduled))).getD (event.leaves (tappable user)))
  | _ => tappable

/-- The ledger and the disk after events of some readers, in any order and each with a client of
its own, and changes of the script between them. -/
inductive Reached (player : Player) (d : Disk) : Ledger → Disk → Prop
  | start : Reached player d (fun _ => []) d
  | dispatch {tappable : Ledger} {d₁ d₂ : Disk} (reached : Reached player d tappable d₁)
    (client : Client) (user : String) (event : ReaderEvent) {attempt : Attempt}
    (dispatched : d₁.run (Session.dispatch player client user event) = (attempt, d₂)) :
    Reached player d (tappable.after user event attempt) d₂
  | edit {tappable : Ledger} {d₁ d₂ : Disk} (reached : Reached player d tappable d₁)
    (content : ByteArray) (written : d₁.write player.scriptPath content = .ok d₂) :
    Reached player d tappable d₂

structure Fresh (player : Player) (d : Disk) : Prop where
  no_file : ∀ user, ReaderState.isUserId user = true →
    ∀ content, d.standing (d.placeOf (player.statePath user)) ≠ .file content
  script : ∀ user, ReaderState.isUserId user = true →
    d.placeOf player.scriptPath ≠ d.placeOf (player.statePath user)

def Holds (player : Player) (d : Disk) (user : String) (tappable : List String) : Prop :=
  tappable = [] ∧ (∀ content, d.standing (d.placeOf (player.statePath user)) ≠ .file content) ∨
    d.read (player.statePath user) =
      .ok (ReaderState.toJson ⟨ReaderState.schema, user, tappable⟩).render.toUTF8

section

variable {player : Player} {d d' : Disk} {user : String} {tappable : List String}

theorem Holds.spared (holds : Holds player d user tappable)
    (spares : d.Spares d' (player.statePath user)) : Holds player d' user tappable := by
  rcases holds with ⟨rfl, none⟩ | kept
  · refine .inl ⟨rfl, fun content file => none content ?_⟩
    rw [spares.keeps.placeOf_eq] at file
    exact (spares.file content).mp file
  · exact .inr (spares.read kept)

theorem Holds.stateOf (holds : Holds player d user tappable)
    (valid : ReaderState.isUserId user = true) :
    player.stateOf d user = .ok ⟨ReaderState.schema, user, tappable⟩ ∨
      ∃ failure, player.stateOf d user = .error (.stateRead failure) := by
  rcases holds with ⟨rfl, none⟩ | kept
  · rw [Player.stateOf_of_no_file valid none]
    split
    · exact .inr ⟨_, rfl⟩
    · exact .inl rfl
  · exact .inl (Player.stateOf_of_read valid rfl kept)

theorem Holds.found (holds : Holds player d user tappable) {state : ReaderState}
    (valid : ReaderState.isUserId user = true) (found : player.stateOf d user = .ok state) :
    state = ⟨ReaderState.schema, user, tappable⟩ := by
  rcases holds.stateOf valid with same | ⟨failure, refused⟩
  · exact Except.ok.inj (found.symm.trans same)
  · simp [refused] at found

end

structure Agrees (player : Player) (d : Disk) (tappable : Ledger) (d' : Disk) : Prop where
  keeps : d.KeepsFolders d'
  holds : ∀ user, ReaderState.isUserId user = true → Holds player d' user (tappable user)

namespace Agrees

variable {player : Player} {d d₁ d₂ : Disk} {tappable : Ledger}

theorem spared (agrees : Agrees player d tappable d₁) (keeps : d₁.KeepsFolders d₂)
    (spares : ∀ user, ReaderState.isUserId user = true →
      d₁.Spares d₂ (player.statePath user)) : Agrees player d tappable d₂ where
  keeps := agrees.keeps.trans keeps
  holds user valid := (agrees.holds user valid).spared (spares user valid)

/-- What an attempt reports is what the ledger has after it, and the files agree with that. -/
theorem happened (agrees : Agrees player d tappable d₁) {client : Client} {user : String}
    {event : ReaderEvent} {attempt : Attempt}
    (happened : Happened False player client user event d₁ attempt d₂) :
    Agrees player d (tappable.after user event attempt) d₂ ∧
      ∀ n offers, attempt.result = .ok (.delivered n offers) →
        n = attempt.pushed.length ∧ offers = tappable.after user event attempt user := by
  cases happened with
  | ignored reason => exact ⟨agrees, by simp⟩
  | unread unread => exact ⟨agrees, by simp⟩
  | @answered target statements state _ _ asked segment found tapped delivering =>
    cases delivering with
    | unplanned planned => exact ⟨agrees, by simp⟩
    | refused planned refuses => exact ⟨agrees, by simp⟩
    | @sent plan answer _ planned takes keeping =>
      obtain ⟨keeps, ⟨fault, rfl, spares⟩ | ⟨rfl, -, kept, spares⟩⟩ :=
        Player.spares_of_keeping keeping
      · exact ⟨agrees.spared keeps fun user _ => spares _, by simp [Except.map]⟩
      · have found := found.resolve_right fun missed => missed.1
        have valid := Player.isUserId_of_stateOf found
        obtain rfl := (agrees.holds user valid).found valid found
        have after : tappable.after user event
            ⟨plan.map (Push.mk user), .ok (.delivered plan.length
              ((lastOffers? plan).getD (event.leaves (tappable user))))⟩ =
            Function.update tappable user
              ((lastOffers? plan).getD (event.leaves (tappable user))) := by
          simp [Ledger.after, Function.comp_def]
        refine ⟨⟨agrees.keeps.trans keeps, fun other valid' => ?_⟩, fun n offers result => ?_⟩
        · change Holds player d₂ other (tappable.after user event
            ⟨plan.map (Push.mk user), .ok (.delivered plan.length
              ((lastOffers? plan).getD (event.leaves (tappable user))))⟩ other)
          rw [after]
          by_cases same : other = user
          · subst same
            rw [Function.update_self]
            exact .inr kept
          · rw [Function.update_of_ne same]
            exact (agrees.holds other valid').spared
              (spares _ (Player.placeOf_statePath_ne valid valid' same))
        · obtain ⟨rfl, rfl⟩ := Outcome.delivered.inj (Except.ok.inj result)
          refine ⟨by simp, ?_⟩
          exact ((congrFun after user).trans (Function.update_self ..)).symm

end Agrees

theorem agrees_of_reached {player : Player} {d d' : Disk} {tappable : Ledger}
    (fresh : Fresh player d) (reached : Reached player d tappable d') :
    Agrees player d tappable d' := by
  induction reached with
  | start => exact ⟨.refl d, fun user valid => .inl ⟨rfl, fresh.no_file user valid⟩⟩
  | @dispatch tappable d₁ d₂ _ client user event attempt dispatched agrees =>
    have ends := dispatch_ends player client user event d₁
    rw [Ends, ← Disk.run, dispatched] at ends
    exact (agrees.happened ends).1
  | @edit tappable d₁ d₂ _ content written agrees =>
    have writes := Disk.write_ok written
    refine agrees.spared writes.keeps fun user valid => writes.spares _ ?_
    rw [agrees.keeps.placeOf_eq, agrees.keeps.placeOf_eq]
    exact (fresh.script user valid).symm

def askingPlayer : Player := ⟨"a", "s", "*a", "go", {}⟩

def askingDisk : Disk :=
  ⟨[], .folder [("a", .file "*a\n@buttons\nGo?\n- [b] Yes\n@end\n".toUTF8)]⟩

def askedDisk : Disk :=
  ⟨[], .folder [("s", .folder [("u.json", .file
      (ReaderState.toJson ⟨ReaderState.schema, "u", ["b"]⟩).render.toUTF8)]),
    ("a", .file "*a\n@buttons\nGo?\n- [b] Yes\n@end\n".toUTF8)]⟩

def question : Push := ⟨"u", 2000000000, .buttons "Go?" "Go?" [⟨"Yes", "b", "Yes"⟩]⟩

theorem fresh_askingDisk : Fresh askingPlayer askingDisk := by
  have place {user : String} (valid : ReaderState.isUserId user = true) :
      askingDisk.placeOf (askingPlayer.statePath user) = ["s", user ++ ".json"] :=
    Player.placeOf_statePath valid
  refine ⟨fun user valid content => ?_, fun user valid => ?_⟩
  · rw [place valid]
    exact Standing.noConfusion
  · rw [place valid]
    have short : askingDisk.placeOf askingPlayer.scriptPath = ["a"] := rfl
    simp [short]

theorem run_askingDisk :
    askingDisk.run (Session.dispatch askingPlayer .accepting "u" .follow) =
      (⟨[question], .ok (.delivered 1 ["b"])⟩, askedDisk) := by
  have segment : askingPlayer.segment askingDisk (.ofLabel "*a") =
      .ok [.choice "Go?" [⟨"b", "Yes"⟩]] := by cbv
  have state : askingPlayer.stateOf askingDisk "u" = .ok (.empty "u") := rfl
  rw [Session.dispatch, Disk.run_start, show askingPlayer.startLabel = "*a" from rfl, segment,
    state]
  rfl

theorem reached_askedDisk :
    Reached askingPlayer askingDisk (Function.update (fun _ => []) "u" ["b"]) askedDisk :=
  Reached.dispatch .start _ _ _ run_askingDisk

end Storypath
