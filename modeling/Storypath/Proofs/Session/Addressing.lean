import Mathlib
import Storypath.Proofs.Session.Isolation

/-! Whom an event concerns. The user whose state is found need not be the one whose file it is, as
the file may name anyone; messages go to the user who is named, and so does the state that is kept.
Main statement: where the file of a user names that user, an event concerns no other. -/
namespace Storypath

open HoldsDisk (disk faulty)

/-- All that is sent is sent to a user, and no file is changed but that user's. -/
structure Concerns (player : Player) (user : String) (d : Disk) (attempt : Attempt) (d' : Disk) :
    Prop where
  pushed : ∀ push ∈ attempt.pushed, push.user = user
  files : ∀ place ≠ d.placeOf (player.statePath user), d'.file? place = d.file? place

/-- The file of a user names that user, if a state can be read from it. -/
def NamesOwner (player : Player) (d : Disk) (user : String) : Prop :=
  ∀ state, player.stateOf d user = .ok state → state.userId = user

section

variable {player : Player} {client : Client} {user : String} {event : ReaderEvent}
  {state : ReaderState} {statements : List Statement} {d d' : Disk} {attempt : Attempt}

theorem Delivering.concerns
    (delivering : Delivering player client state statements d attempt d') :
    Concerns player state.userId d attempt d' where
  pushed _ sent := delivering.addressed sent
  files place other := by
    cases delivering with
    | unplanned planned => rfl
    | refused planned refuses => rfl
    | sent planned takes keeping => exact Player.file?_of_keeping keeping other

/-- An event concerns the user who is named in the state that is found. -/
theorem Happened.concerns {faults : Prop}
    (happened : Happened faults player client user event d attempt d') :
    ∃ addressee, (addressee = user ∨
        ∃ state, player.stateOf d user = .ok state ∧ state.userId = addressee) ∧
      Concerns player addressee d attempt d' := by
  cases happened with
  | ignored reason => exact ⟨user, .inl rfl, by simp, fun _ _ => rfl⟩
  | unread unread => exact ⟨user, .inl rfl, by simp, fun _ _ => rfl⟩
  | @answered _ _ state _ _ asked segment found tapped delivering =>
    refine ⟨state.userId, ?_, delivering.concerns⟩
    rcases found with found | ⟨-, rfl⟩
    · exact .inr ⟨state, found, rfl⟩
    · exact .inl rfl

end

/-- An event concerns one user only, the one who is named in the state that is found. So it concerns
the user for whom it is dispatched, if that user's file names its owner. -/
theorem dispatch_concerns {σ : Type} [Files (StateM σ)] [HoldsDisk σ] {player : Player}
    {client : Client} {user : String} {event : ReaderEvent} {s s' : σ} {attempt : Attempt}
    (dispatched : (Session.dispatch player client user event : StateM σ Attempt).run s =
      (attempt, s')) :
    (∃ addressee, (addressee = user ∨
        ∃ state, player.stateOf (disk s) user = .ok state ∧ state.userId = addressee) ∧
      Concerns player addressee (disk s) attempt (disk s')) ∧
    (NamesOwner player (disk s) user → Concerns player user (disk s) attempt (disk s')) := by
  obtain ⟨addressee, whose, concerns⟩ := (happened_of_dispatched dispatched).concerns
  refine ⟨⟨addressee, whose, concerns⟩, fun names => ?_⟩
  rcases whose with rfl | ⟨state, found, rfl⟩
  · exact concerns
  · rwa [names state found] at concerns

def blankFile (user : String) : Node :=
  .file (ReaderState.toJson ⟨ReaderState.schema, user, []⟩).render.toUTF8

def copiedDisk : Disk := greeterDisk [("s", .folder [("u.json", blankFile "v")])]

/-- The greeting goes to the user whom the copy names, and that user's file is written. -/
theorem not_concerns_copiedDisk :
    copiedDisk.run (Session.dispatch (greeter "s") .accepting "u" .follow) =
        (⟨[greeting "v"], .ok (.delivered 1 [])⟩,
          greeterDisk [("s", .folder [("v.json", blankFile "v"), ("u.json", blankFile "v")])]) ∧
      ¬ ∀ (player : Player) (client : Client) (user : String) (event : ReaderEvent) (d : Disk),
        Concerns player user d (d.run (Session.dispatch player client user event)).1
          (d.run (Session.dispatch player client user event)).2 := by
  have state : (greeter "s").stateOf copiedDisk "u" = .ok ⟨ReaderState.schema, "v", []⟩ :=
    Player.stateOf_of_read rfl rfl rfl
  have ended : copiedDisk.run (Session.dispatch (greeter "s") .accepting "u" .follow) =
      (⟨[greeting "v"], .ok (.delivered 1 [])⟩,
        greeterDisk [("s", .folder [("v.json", blankFile "v"), ("u.json", blankFile "v")])]) := by
    rw [run_greeter "u" rfl, state]
    rfl
  refine ⟨ended, fun always => ?_⟩
  have concerns := always (greeter "s") .accepting "u" .follow copiedDisk
  rw [ended] at concerns
  have named : "v" = "u" := concerns.pushed (greeting "v") (List.mem_singleton_self _)
  simp at named

theorem concerns_greeterDisk :
    ∃ d', (greeterDisk []).run (Session.dispatch (greeter "s") .accepting "u" .follow) =
        (⟨[greeting "u"], .ok (.delivered 1 [])⟩, d') ∧
      NamesOwner (greeter "s") (greeterDisk []) "u" ∧
      Concerns (greeter "s") "u" (greeterDisk []) ⟨[greeting "u"], .ok (.delivered 1 [])⟩ d' := by
  have names : NamesOwner (greeter "s") (greeterDisk []) "u" := by
    intro state found
    obtain rfl : ReaderState.empty "u" = state := Except.ok.inj found
    rfl
  have dispatched : (greeterDisk []).run
      (Session.dispatch (greeter "s") .accepting "u" .follow) =
        (⟨[greeting "u"], .ok (.delivered 1 [])⟩,
          greeterDisk [("s", .folder [("u.json", blankFile "u")])]) :=
    (run_greeter "u" rfl).trans rfl
  exact ⟨_, dispatched, names, (dispatch_concerns dispatched).2 names⟩

end Storypath
