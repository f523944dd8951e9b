import Mathlib
import Storypath.Proofs.Session.Ledger
import Storypath.Proofs.Session.Sharing

/-! Readers who take turns. The run of all is compared with the run of one of them alone: as long
as the file of that reader is the same on both disks, each event of the reader comes to the same
on both, and the events of others leave the file alone. Main statement: what a reader gets is not
told by who else is served. -/
namespace Storypath

structure Request where
  user : String
  event : ReaderEvent
  client : Client

def Player.serve (player : Player) (d : Disk) : List Request → List (String × Attempt) × Disk
  | [] => ([], d)
  | r :: rest =>
    let first := d.run (Session.dispatch player r.client r.user r.event)
    let later := player.serve first.2 rest
    ((r.user, first.1) :: later.1, later.2)

/-- Making the folder of states changes nothing of what is found of any reader's state. -/
def Unseen (player : Player) (d : Disk) : Prop :=
  ∀ user, ReaderState.isUserId user = true →
    player.stateOf (player.prepared d) user = player.stateOf d user

/-- It is not seen if nothing stands where state files would, and the path of the folder does not
lead through one of these places. -/
theorem unseen_of_not_onWay {player : Player} {d : Disk}
    (nothing : ∀ user, ReaderState.isUserId user = true →
      d.standing (d.placeOf (player.statePath user)) = .nothing)
    (apart : ∀ user, ReaderState.isUserId user = true →
      ¬ d.OnWay player.stateFolder (d.placeOf (player.statePath user))) : Unseen player d := by
  intro user valid
  have grows : d.Grows player.stateFolder (player.prepared d) :=
    d.grows_makeFolders player.stateFolder
  have still : (player.prepared d).standing ((player.prepared d).placeOf (player.statePath user)) =
      .nothing := by
    rw [grows.keepsFolders.placeOf_eq]
    rcases grows.standing (d.placeOf (player.statePath user)) with same | ⟨-, -, onWay⟩
    · rw [same, nothing user valid]
    · exact absurd onWay (apart user valid)
  rw [Player.stateOf_of_nothing valid still, Player.stateOf_of_nothing valid (nothing user valid)]

structure Alike (player : Player) (d : Disk) (attempt attempt' : Attempt) : Prop where
  pushed : attempt'.pushed = attempt.pushed
  result : attempt'.result = attempt.result ∨ ¬ player.CanKeep d ∧
    ∃ failure failure', attempt.result = .error (.stateWrite failure) ∧
      attempt'.result = .error (.stateWrite failure')

/-- What an event comes to on two disks: the same and both stay as they are, or the same up to the
result of keeping one state on both. -/
inductive Paired (player : Player) (user : String) (d d' : Disk) :
    Attempt × Disk → Attempt × Disk → Prop
  | quiet (attempt : Attempt) : Paired player user d d' (attempt, d) (attempt, d')
  | kept {found : ReaderState} {target : Target} {statements : List Statement}
    (loaded : player.stateOf d user = .ok found)
    (segment : player.segment d target = .ok statements) (state : ReaderState)
    (named : state.userId = found.userId) (current : state.schemaVersion = found.schemaVersion)
    (pushed : List Push) (outcome : Outcome) :
    Paired player user d d'
      (⟨pushed, (d.run (state.save player.stateFolder)).1.map fun _ => outcome⟩,
        (d.run (state.save player.stateFolder)).2)
      (⟨pushed, (d'.run (state.save player.stateFolder)).1.map fun _ => outcome⟩,
        (d'.run (state.save player.stateFolder)).2)

section paired

variable {player : Player} {d d' : Disk} {user : String}

theorem deliver_paired (client : Client) {found : ReaderState} {target : Target}
    {statements : List Statement} (loaded : player.stateOf d user = .ok found)
    (segment : player.segment d target = .ok statements) (tappable : List String) :
    Paired player user d d'
      (d.run (Session.deliver player client { found with tappable := tappable } statements))
      (d'.run (Session.deliver player client { found with tappable := tappable } statements)) := by
  rw [Disk.run_deliver, Disk.run_deliver]
  cases Delivery.plan statements with
  | error fault => exact .quiet _
  | ok plan =>
    rcases sent : Session.send client found.userId [] tappable plan with
      ⟨pushed, fault | offers⟩ <;> simp only [sent]
    · exact .quiet _
    · exact .kept loaded segment ⟨found.schemaVersion, found.userId, offers⟩ rfl rfl pushed _

theorem dispatch_paired (client : Client) (event : ReaderEvent)
    (segment : ∀ target, player.segment d' target = player.segment d target)
    (state : player.stateOf d' user = player.stateOf d user) :
    Paired player user d d' (d.run (Session.dispatch player client user event))
      (d'.run (Session.dispatch player client user event)) := by
  have start : Paired player user d d' (d.run (Session.start player client user))
      (d'.run (Session.start player client user)) := by
    rw [Disk.run_start, Disk.run_start, segment, state]
    cases segment : player.segment d (.ofLabel player.startLabel) with
    | error fault => exact .quiet _
    | ok statements =>
      cases loaded : player.stateOf d user with
      | error fault => exact .quiet _
      | ok found => exact deliver_paired client loaded segment found.tappable
  cases event with
  | follow => exact start
  | message text =>
    unfold Session.dispatch
    by_cases keyword : text = player.startKeyword
    · simpa only [keyword, if_true] using start
    · simpa only [keyword, if_false] using .quiet _
  | postback data =>
    rw [Session.dispatch, Disk.run_choose, Disk.run_choose, state]
    cases loaded : player.stateOf d user with
    | error fault => exact .quiet _
    | ok found =>
      by_cases tapped : data ∈ found.tappable
      · simp only [if_pos tapped, segment]
        cases segment : player.segment d (.ofReference data) with
        | error fault => exact .quiet _
        | ok statements => exact deliver_paired client loaded segment []
      · simp only [if_neg tapped]
        exact .quiet _

end paired

/-- A disk that has been served from one without state files: on which stage it is, that the
script is as it was, and that each reader's file holds a state of that reader. -/
structure Held (player : Player) (d d' : Disk) : Prop where
  stage : player.Stage d d'
  script : d'.read player.scriptPath = d.read player.scriptPath
  holds : ∀ user, ReaderState.isUserId user = true → ∃ tappable, Holds player d' user tappable

namespace Held

variable {player : Player} {d d₁ d₂ : Disk} {user : String}

theorem start (fresh : Fresh player d) : Held player d d :=
  ⟨.inl rfl, rfl, fun user valid => ⟨[], .inl ⟨rfl, fresh.no_file user valid⟩⟩⟩

theorem keeps (held : Held player d d₁) : d.KeepsFolders d₁ := held.stage.keeps

theorem named (held : Held player d d₁) {found state : ReaderState}
    (loaded : player.stateOf d₁ user = .ok found) (named : state.userId = found.userId)
    (current : state.schemaVersion = found.schemaVersion) :
    state = ⟨ReaderState.schema, user, state.tappable⟩ := by
  have valid := Player.isUserId_of_stateOf loaded
  obtain ⟨tappable, holds⟩ := held.holds user valid
  obtain rfl := holds.found valid loaded
  obtain ⟨schema, id, offers⟩ := state
  obtain rfl : id = user := named
  obtain rfl : schema = ReaderState.schema := current
  rfl

theorem save (held : Held player d d₁) (fresh : Fresh player d)
    (valid : ReaderState.isUserId user = true) {target : Target} {statements : List Statement}
    (segment : player.segment d₁ target = .ok statements) (tappable : List String)
    {answer : Except Fault Unit}
    (saved : d₁.run (ReaderState.save player.stateFolder ⟨ReaderState.schema, user, tappable⟩) =
      (answer, d₂)) :
    Held player d d₂ ∧ ∀ other, ReaderState.isUserId other = true → other ≠ user →
      d₁.Spares d₂ (player.statePath other) := by
  have keeping := save_ends player.stateFolder ⟨ReaderState.schema, user, tappable⟩ d₁
  have settled := (held.stage.save ⟨ReaderState.schema, user, tappable⟩ valid).2
  rw [saved] at settled
  rw [Ends, ← Disk.run, saved] at keeping
  obtain ⟨-, spares⟩ := Player.spares_of_keeping keeping
  have others : ∀ path, d₁.placeOf path ≠ d₁.placeOf (player.statePath user) →
      d₁.Spares d₂ path := by
    rcases spares with ⟨-, -, spares⟩ | ⟨-, -, -, spares⟩
    · exact fun path _ => spares path
    · exact spares
  have readers : ∀ other, ReaderState.isUserId other = true → other ≠ user →
      d₁.Spares d₂ (player.statePath other) := fun other valid' ne =>
    others _ (Player.placeOf_statePath_ne valid valid' ne)
  refine ⟨⟨.inr settled, ?_, fun other valid' => ?_⟩, readers⟩
  · obtain ⟨content, read⟩ := Player.read_of_segment segment
    have apart : d₁.placeOf player.scriptPath ≠ d₁.placeOf (player.statePath user) := by
      rw [held.keeps.placeOf_eq, held.keeps.placeOf_eq]
      exact fresh.script user valid
    rw [← held.script, (others _ apart).read read, read]
  · by_cases same : other = user
    · subst same
      rcases spares with ⟨-, -, spares⟩ | ⟨-, -, kept, -⟩
      · obtain ⟨before, holds⟩ := held.holds other valid
        exact ⟨before, holds.spared (spares _)⟩
      · exact ⟨tappable, .inr kept⟩
    · obtain ⟨before, holds⟩ := held.holds other valid'
      exact ⟨before, holds.spared (readers other valid' same)⟩

theorem of_paired (held : Held player d d₁) (fresh : Fresh player d) {d' : Disk}
    {ended ended' : Attempt × Disk} (paired : Paired player user d₁ d' ended ended') :
    Held player d ended.2 ∧ ∀ other, ReaderState.isUserId other = true → other ≠ user →
      d₁.Spares ended.2 (player.statePath other) := by
  cases paired with
  | quiet attempt => exact ⟨held, fun other _ _ => .refl d₁ _⟩
  | kept loaded segment state named current pushed outcome =>
    rw [held.named loaded named current]
    exact held.save fresh (Player.isUserId_of_stateOf loaded) segment _ rfl

theorem step (held : Held player d d₁) (fresh : Fresh player d) (client : Client)
    (user : String) (event : ReaderEvent) :
    Held player d (d₁.run (Session.dispatch player client user event)).2 ∧
      ∀ other, ReaderState.isUserId other = true → other ≠ user →
        d₁.Spares (d₁.run (Session.dispatch player client user event)).2
          (player.statePath other) :=
  held.of_paired fresh (dispatch_paired client event (fun _ => rfl) rfl)

theorem stateOf_of_no_file (held : Held player d d₁) (fresh : Fresh player d)
    (unseen : Unseen player d) (valid : ReaderState.isUserId user = true)
    (none : ∀ content, d₁.standing (d₁.placeOf (player.statePath user)) ≠ .file content) :
    player.stateOf d₁ user = player.stateOf d user := by
  rcases held.stage with rfl | settled
  · rfl
  have prepared : d.Spares (player.prepared d) (player.statePath user) :=
    (d.grows_makeFolders player.stateFolder).spares _
  have absent : ∀ content, (player.prepared d).standing
      ((player.prepared d).placeOf (player.statePath user)) ≠ .file content := by
    intro content
    rw [prepared.keeps.placeOf_eq]
    exact fun file => fresh.no_file user valid content ((prepared.file content).mp file)
  have folder : d₁.isFolder (player.statePath user) =
      (player.prepared d).isFolder (player.statePath user) :=
    Bool.eq_iff_iff.mpr ⟨settled.back.isFolder, settled.keeps.isFolder⟩
  rw [← unseen user valid, Player.stateOf_of_no_file valid none,
    Player.stateOf_of_no_file valid absent, folder]

theorem stateOf_eq (held : Held player d d₁) (held' : Held player d d₂) (fresh : Fresh player d)
    (unseen : Unseen player d) (same : ReaderState.isUserId user = true →
      d₂.file? (d.placeOf (player.statePath user)) = d₁.file? (d.placeOf (player.statePath user))) :
    player.stateOf d₂ user = player.stateOf d₁ user := by
  cases valid : ReaderState.isUserId user with
  | false => rw [Player.stateOf_of_not_isUserId valid, Player.stateOf_of_not_isUserId valid]
  | true =>
    have same := same valid
    have file (d' : Disk) (keeps : d.KeepsFolders d') (content : ByteArray) :
        d'.standing (d'.placeOf (player.statePath user)) = .file content ↔
          d'.file? (d.placeOf (player.statePath user)) = some content := by
      rw [keeps.placeOf_eq, Disk.file?_eq_some_iff]
    obtain ⟨tappable, holds⟩ := held.holds user valid
    obtain ⟨tappable', holds'⟩ := held'.holds user valid
    rcases holds with ⟨-, none⟩ | kept <;> rcases holds' with ⟨-, none'⟩ | kept'
    · rw [held.stateOf_of_no_file fresh unseen valid none,
        held'.stateOf_of_no_file fresh unseen valid none']
    · have there := (file d₂ held'.keeps _).mp (Disk.read_eq_ok_iff.mp kept').2
      exact absurd ((file d₁ held.keeps _).mpr (same ▸ there)) (none _)
    · have there := (file d₁ held.keeps _).mp (Disk.read_eq_ok_iff.mp kept).2
      exact absurd ((file d₂ held'.keeps _).mpr (same.trans there)) (none' _)
    · have there := (file d₁ held.keeps _).mp (Disk.read_eq_ok_iff.mp kept).2
      have there' := (file d₂ held'.keeps _).mp (Disk.read_eq_ok_iff.mp kept').2
      rw [same, there] at there'
      rw [← Option.some.inj there'] at kept'
      rw [Player.stateOf_of_read valid rfl kept, Player.stateOf_of_read valid rfl kept']

theorem file?_save (held : Held player d d₁) {tappable : List String} {answer : Except Fault Unit}
    (saved : d₁.run (ReaderState.save player.stateFolder ⟨ReaderState.schema, user, tappable⟩) =
      (answer, d₂)) :
    d₂.file? (d.placeOf (player.statePath user)) =
      match answer with
      | .ok _ => some (ReaderState.toJson ⟨ReaderState.schema, user, tappable⟩).render.toUTF8
      | .error _ => d₁.file? (d.placeOf (player.statePath user)) := by
  have keeping := save_ends player.stateFolder ⟨ReaderState.schema, user, tappable⟩ d₁
  rw [Ends, ← Disk.run, saved] at keeping
  obtain ⟨keeps, ⟨fault, rfl, spares⟩ | ⟨rfl, -, kept, -⟩⟩ := Player.spares_of_keeping keeping
  · rw [← held.keeps.placeOf_eq]
    exact (spares _).file?_eq
  · rw [← (held.keeps.trans keeps).placeOf_eq, Disk.file?_eq_some_iff]
    exact (Disk.read_eq_ok_iff.mp kept).2

/-- On two disks on which a reader's file is the same, an event of the reader comes to the same,
and the file stays the same. -/
theorem alike (held : Held player d d₁) (held' : Held player d d₂) (fresh : Fresh player d)
    (unseen : Unseen player d) (same : ReaderState.isUserId user = true →
      d₂.file? (d.placeOf (player.statePath user)) = d₁.file? (d.placeOf (player.statePath user)))
    (client : Client) (event : ReaderEvent) :
    Alike player d (d₁.run (Session.dispatch player client user event)).1
        (d₂.run (Session.dispatch player client user event)).1 ∧
      (ReaderState.isUserId user = true →
        (d₂.run (Session.dispatch player client user event)).2.file?
            (d.placeOf (player.statePath user)) =
          (d₁.run (Session.dispatch player client user event)).2.file?
            (d.placeOf (player.statePath user))) := by
  have paired : Paired player user d₁ d₂ (d₁.run (Session.dispatch player client user event))
      (d₂.run (Session.dispatch player client user event)) :=
    dispatch_paired client event
      (Player.segment_congr (held'.script.trans held.script.symm))
      (held.stateOf_eq held' fresh unseen same)
  generalize d₁.run (Session.dispatch player client user event) = first at paired
  generalize d₂.run (Session.dispatch player client user event) = second at paired
  cases paired with
  | quiet attempt => exact ⟨⟨rfl, .inl rfl⟩, same⟩
  | kept loaded segment state named current pushed outcome =>
    have valid := Player.isUserId_of_stateOf loaded
    rw [held.named loaded named current]
    rcases saved : d₁.run (ReaderState.save player.stateFolder
      ⟨ReaderState.schema, user, state.tappable⟩) with ⟨answer, e₁⟩
    rcases saved' : d₂.run (ReaderState.save player.stateFolder
      ⟨ReaderState.schema, user, state.tappable⟩) with ⟨answer', e₂⟩
    have sameKeeping : player.SameKeeping d answer answer' := by
      have keeping := held.stage.sameKeeping held'.stage
        ⟨ReaderState.schema, user, state.tappable⟩ valid
      rwa [saved, saved'] at keeping
    have file₁ := held.file?_save saved
    have file₂ := held'.file?_save saved'
    rcases sameKeeping with rfl | ⟨refused, failure, failure', rfl, rfl⟩
    · refine ⟨⟨rfl, .inl rfl⟩, fun _ => ?_⟩
      rw [file₁, file₂]
      cases answer' with
      | error fault => exact same valid
      | ok _ => rfl
    · refine ⟨⟨rfl, .inr ⟨refused, failure, failure', rfl, rfl⟩⟩, fun _ => ?_⟩
      exact file₂.trans ((same valid).trans file₁.symm)

end Held

theorem Delivering.addressed {player : Player} {client : Client} {state : ReaderState}
    {statements : List Statement} {d d' : Disk} {attempt : Attempt}
    (delivering : Delivering player client state statements d attempt d') {push : Push}
    (sent : push ∈ attempt.pushed) : push.user = state.userId := by
  cases delivering with
  | unplanned planned => simp at sent
  | refused | sent =>
    obtain ⟨s, -, rfl⟩ := List.mem_map.mp sent
    rfl

theorem Held.addressed {player : Player} {d d₁ : Disk} (held : Held player d d₁) (client : Client)
    (user : String) (event : ReaderEvent) {push : Push}
    (sent : push ∈ (d₁.run (Session.dispatch player client user event)).1.pushed) :
    push.user = user := by
  have happened := dispatch_ends player client user event d₁
  rw [Ends, ← Disk.run] at happened
  generalize d₁.run (Session.dispatch player client user event) = ended at happened sent
  obtain ⟨attempt, d₂⟩ := ended
  cases happened with
  | ignored | unread => simp at sent
  | answered asked segment found tapped delivering =>
    have found := found.resolve_right fun missed => missed.1
    have named := delivering.addressed sent
    rw [held.named found rfl rfl] at named
    exact named

theorem serve_addressed {player : Player} {d d₁ : Disk} (fresh : Fresh player d)
    (requests : List Request) (held : Held player d d₁) :
    ∀ answer ∈ (player.serve d₁ requests).1, ∀ push ∈ answer.2.pushed, push.user = answer.1 := by
  induction requests generalizing d₁ with
  | nil => simp [Player.serve]
  | cons r rest ih =>
    intro answer h push sent
    rcases List.mem_cons.mp h with rfl | h
    · exact held.addressed r.client r.user r.event sent
    · exact ih (held.step fresh r.client r.user r.event).1 answer h push sent

/-- What one user gets out of a run is what the user gets out of the run of that user's events
alone. -/
theorem serve_alike {player : Player} {d d₁ d₂ : Disk} {user : String} (fresh : Fresh player d)
    (unseen : Unseen player d) (requests : List Request) (held : Held player d d₁)
    (held' : Held player d d₂) (same : ReaderState.isUserId user = true →
      d₂.file? (d.placeOf (player.statePath user)) = d₁.file? (d.placeOf (player.statePath user))) :
    List.Forall₂ (Alike player d)
        (((player.serve d₁ requests).1.filter (·.1 = user)).map (·.2))
        ((player.serve d₂ (requests.filter (·.user = user))).1.map (·.2)) ∧
      (ReaderState.isUserId user = true →
        (player.serve d₂ (requests.filter (·.user = user))).2.file?
            (d.placeOf (player.statePath user)) =
          (player.serve d₁ requests).2.file? (d.placeOf (player.statePath user))) := by
  induction requests generalizing d₁ d₂ with
  | nil => exact ⟨.nil, same⟩
  | cons r rest ih =>
    have step := held.step fresh r.client r.user r.event
    by_cases own : r.user = user
    · obtain ⟨id, event, client⟩ := r
      obtain rfl : id = user := own
      have alike := held.alike held' fresh unseen same client event
      have step' := held'.step fresh client id event
      have later := ih step.1 step'.1 alike.2
      simp only [Player.serve, List.filter_cons, decide_true, if_true, List.map_cons]
      exact ⟨.cons alike.1 later.1, later.2⟩
    · have later := ih step.1 held' fun valid => by
        have spares := step.2 user valid fun h => own h.symm
        rw [same valid, ← held.keeps.placeOf_eq, spares.file?_eq]
      simpa [Player.serve, own] using later

/-- What serving one user would be if no other could influence it in any way. -/
def Isolated (player : Player) (d : Disk) (requests : List Request) (user : String) : Prop :=
  (player.serve d requests).1.filter (·.1 = user) =
      (player.serve d (requests.filter (·.user = user))).1 ∧
    (ReaderState.isUserId user = true →
      (player.serve d requests).2.file? (d.placeOf (player.statePath user)) =
        (player.serve d (requests.filter (·.user = user))).2.file?
          (d.placeOf (player.statePath user)))

def greeter (stateFolder : String) : Player := ⟨"a", stateFolder, "*a", "go", {}⟩

def greeterDisk (items : List (String × Node)) : Disk :=
  ⟨[], .folder (items ++ [("a", .file "*a\nHi\n@end".toUTF8), ("f", .file .empty)])⟩

def greeting (user : String) : Push := ⟨user, 2000000000, .text "Hi"⟩

def arrivals : List Request := [⟨"u", .follow, .accepting⟩, ⟨"b", .follow, .accepting⟩]

def detour : List (String × Node) :=
  [("s", .folder [("u.json",
      .file (ReaderState.toJson ⟨ReaderState.schema, "u", []⟩).render.toUTF8),
    ("b.json", .folder [])])]

theorem run_greeter {stateFolder : String} {d : Disk} (user : String)
    (read : d.read "a" = .ok "*a\nHi\n@end".toUTF8) :
    d.run (Session.dispatch (greeter stateFolder) .accepting user .follow) =
      match (greeter stateFolder).stateOf d user with
      | .error fault => (⟨[], .error fault⟩, d)
      | .ok state =>
        d.run (Session.deliver (greeter stateFolder) .accepting state [.text "Hi"]) := by
  have segment : (greeter stateFolder).segment d (.ofLabel "*a") = .ok [.text "Hi"] := by
    rw [Player.segment_eq, Player.text_eq, show (greeter stateFolder).scriptPath = "a" from rfl,
      read, Except.bind, fromUTF8?_toUTF8, show (greeter stateFolder).options = {} from rfl]
    cbv
  rw [Session.dispatch, Disk.run_start, show (greeter stateFolder).startLabel = "*a" from rfl,
    segment]
  cases (greeter stateFolder).stateOf d user <;> rfl

theorem fresh_greeter {stateFolder : String} (place : Place)
    (led : (greeterDisk []).placeOf stateFolder = place) (deep : place ≠ [])
    (nothing : ∀ name, (greeterDisk []).standing (place ++ [name]) = .nothing) :
    Fresh (greeter stateFolder) (greeterDisk []) := by
  have file {user : String} (valid : ReaderState.isUserId user = true) :
      (greeterDisk []).placeOf ((greeter stateFolder).statePath user) =
        place ++ [user ++ ".json"] :=
    led ▸ Player.placeOf_statePath valid
  refine ⟨fun user valid content => ?_, fun user valid same => ?_⟩
  · rw [file valid, nothing]
    exact Standing.noConfusion
  · have script : (greeterDisk []).placeOf "a" = [] ++ ["a"] := rfl
    rw [file valid, greeter, script] at same
    exact deep (List.append_inj_left' same rfl).symm

theorem serve_detour :
    ((greeter "s/b.json/..").serve (greeterDisk []) arrivals).1.filter (·.1 = "b") =
        [("b", ⟨[], .error (.stateRead .isDirectory)⟩)] ∧
      ((greeter "s/b.json/..").serve (greeterDisk []) (arrivals.filter (·.user = "b"))).1 =
        [("b", ⟨[greeting "b"], .error (.stateWrite .isDirectory)⟩)] := by
  have first : (greeterDisk []).run
      (Session.dispatch (greeter "s/b.json/..") .accepting "u" .follow) =
        (⟨[greeting "u"], .ok (.delivered 1 [])⟩, greeterDisk detour) :=
    (run_greeter "u" rfl).trans rfl
  have second : (greeterDisk detour).run
      (Session.dispatch (greeter "s/b.json/..") .accepting "b" .follow) =
        (⟨[], .error (.stateRead .isDirectory)⟩, greeterDisk detour) :=
    (run_greeter "b" rfl).trans rfl
  have alone : (greeterDisk []).run
      (Session.dispatch (greeter "s/b.json/..") .accepting "b" .follow) =
        (⟨[greeting "b"], .error (.stateWrite .isDirectory)⟩,
          greeterDisk [("s", .folder [("b.json", .folder [])])]) :=
    (run_greeter "b" rfl).trans rfl
  constructor <;> simp [arrivals, Player.serve, first, second, alone]

theorem serve_deadEnd :
    ((greeter "n/../f/x").serve (greeterDisk []) arrivals).1.filter (·.1 = "b") =
        [("b", ⟨[greeting "b"], .error (.stateWrite .notDirectory)⟩)] ∧
      ((greeter "n/../f/x").serve (greeterDisk []) (arrivals.filter (·.user = "b"))).1 =
        [("b", ⟨[greeting "b"], .error (.stateWrite .alreadyExists)⟩)] := by
  have first : (greeterDisk []).run
      (Session.dispatch (greeter "n/../f/x") .accepting "u" .follow) =
        (⟨[greeting "u"], .error (.stateWrite .alreadyExists)⟩, greeterDisk [("n", .folder [])]) :=
    (run_greeter "u" rfl).trans rfl
  have second : (greeterDisk [("n", .folder [])]).run
      (Session.dispatch (greeter "n/../f/x") .accepting "b" .follow) =
        (⟨[greeting "b"], .error (.stateWrite .notDirectory)⟩, greeterDisk [("n", .folder [])]) :=
    (run_greeter "b" rfl).trans rfl
  have alone : (greeterDisk []).run
      (Session.dispatch (greeter "n/../f/x") .accepting "b" .follow) =
        (⟨[greeting "b"], .error (.stateWrite .alreadyExists)⟩, greeterDisk [("n", .folder [])]) :=
    (run_greeter "b" rfl).trans rfl
  constructor <;> simp [arrivals, Player.serve, first, second, alone]

/-- Readers can influence each other where the path of the folder of states leads through the
place of a state file, and where that folder cannot be made. -/
theorem not_isolated :
    (Fresh (greeter "s/b.json/..") (greeterDisk []) ∧
        ¬ Isolated (greeter "s/b.json/..") (greeterDisk []) arrivals "b") ∧
      Fresh (greeter "n/../f/x") (greeterDisk []) ∧
        ¬ Isolated (greeter "n/../f/x") (greeterDisk []) arrivals "b" := by
  refine ⟨⟨fresh_greeter ["s"] rfl (by simp) fun _ => rfl, ?_⟩,
    fresh_greeter ["f", "x"] rfl (by simp) fun _ => rfl, ?_⟩
  · rintro ⟨same, -⟩
    rw [serve_detour.1, serve_detour.2] at same
    simp at same
  · rintro ⟨same, -⟩
    rw [serve_deadEnd.1, serve_deadEnd.2] at same
    simp at same

/-- Readers do not influence each other: whoever takes turns, each gets the messages, the results
and the file of states that the reader gets alone, and messages of no one else. Only why the folder
of states cannot be made, if it cannot, may be told differently. -/
theorem serve_isolated {player : Player} {d : Disk} (fresh : Fresh player d)
    (unseen : Unseen player d) (requests : List Request) :
    (∀ user,
      List.Forall₂ (Alike player d)
          (((player.serve d requests).1.filter (·.1 = user)).map (·.2))
          ((player.serve d (requests.filter (·.user = user))).1.map (·.2)) ∧
        (ReaderState.isUserId user = true →
          (player.serve d (requests.filter (·.user = user))).2.file?
              (d.placeOf (player.statePath user)) =
            (player.serve d requests).2.file? (d.placeOf (player.statePath user)))) ∧
      ∀ answer ∈ (player.serve d requests).1, ∀ push ∈ answer.2.pushed, push.user = answer.1 :=
  ⟨fun _ => serve_alike fresh unseen requests (.start fresh) (.start fresh) fun _ => rfl,
    serve_addressed fresh requests (.start fresh)⟩

theorem unseen_greeter : Unseen (greeter "s") (greeterDisk []) := by
  have file {user : String} (valid : ReaderState.isUserId user = true) :
      (greeterDisk []).placeOf ((greeter "s").statePath user) = ["s", user ++ ".json"] :=
    Player.placeOf_statePath valid
  refine unseen_of_not_onWay (fun user valid => ?_) fun user valid => ?_
  · rw [file valid]
    rfl
  · rw [file valid]
    rintro ⟨names, front, led⟩
    rw [show (Path.ofText (greeter "s").stateFolder).names = ["s"] from rfl] at front
    rcases List.prefix_cons_iff.mp front with rfl | ⟨more, rfl, none⟩
    · have led : [] = ["s", user ++ ".json"] := led
      simp at led
    · obtain rfl := List.prefix_nil.mp none
      have led : ["s"] = ["s", user ++ ".json"] := led
      simp at led

theorem serve_isolated_arrivals :
    Fresh (greeter "s") (greeterDisk []) ∧ Unseen (greeter "s") (greeterDisk []) ∧
      List.Forall₂ (Alike (greeter "s") (greeterDisk []))
        ((((greeter "s").serve (greeterDisk []) arrivals).1.filter (·.1 = "b")).map (·.2))
        (((greeter "s").serve (greeterDisk []) [⟨"b", .follow, .accepting⟩]).1.map (·.2)) := by
  have fresh : Fresh (greeter "s") (greeterDisk []) :=
    fresh_greeter ["s"] rfl (by simp) fun _ => rfl
  exact ⟨fresh, unseen_greeter, ((serve_isolated fresh unseen_greeter arrivals).1 "b").1⟩

end Storypath
