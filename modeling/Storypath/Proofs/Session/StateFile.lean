import Storypath.Proofs.Disk.Requests
import Storypath.Proofs.Json.Record
import Storypath.Proofs.Json.RoundTrip
import Storypath.Session.Dispatch

/-! The files of a player: the script that is read, and the states that are read and kept. What is
read is what stands on the disk, unless reading is refused; what is kept changes one file, and
makes the folder that it lies in. -/
namespace Storypath

namespace ReaderState

open Json (Value)

theorem closed_toJson (s : ReaderState) : s.toJson.Closed := by
  simp [toJson]

theorem ofJson?_toJson (s : ReaderState) : ofJson? s.toJson = some s := by
  have texts : (Value.array (s.tappable.map Value.ofString)).list? Value.text? = some s.tappable :=
    Value.list?_map fun text _ => Value.text?_ofString text
  have fields : s.toJson.fields? ["schemaVersion", "userId", "tappable"] =
      some [some (.ofString s.schemaVersion), some (.ofString s.userId),
        some (.array (s.tappable.map Value.ofString))] := Value.fields?_ofMembers rfl (by simp)
  simp [ofJson?, fields, texts]

theorem ofText_render {s : ReaderState} (current : s.schemaVersion = schema) :
    ofText s.toJson.render = .ok s := by
  rw [ofText, Json.parse?_render (closed_toJson s), Option.bind_some, ofJson?_toJson]
  simp [current]

end ReaderState

def Player.segment (player : Player) (d : Disk) (target : Target) :
    Except Fault (List Statement) :=
  (d.run (resolveFile player.scriptPath target player.options)).1

def Player.stateOf (player : Player) (d : Disk) (user : String) : Except Fault ReaderState :=
  (d.run (ReaderState.load player.stateFolder user)).1

theorem fromUTF8?_toUTF8 (text : String) : String.fromUTF8? text.toUTF8 = some text :=
  dif_pos text.isValidUTF8

def Player.statePath (player : Player) (user : String) : String :=
  Path.join player.stateFolder (user ++ ".json")

open HoldsDisk (disk faulty)

section requests

variable {σ : Type} [Files (StateM σ)] [HoldsDisk σ]

theorem reads_script (path : String) (target : Target) (options : ScriptOptions) (s : σ) :
    Reads (resolveFile path target options) (resolveFile path target options)
      (fun answer => ∃ failure, answer = .error (.source path failure)) s := by
  have load : Reads (loadScript path) (loadScript path)
      (fun answer => ∃ failure, answer = .error (.source path failure)) s := by
    refine (Reads.readText path s).bind (fun _ _ => .pure) ?_
    rintro _ s' ⟨failure, rfl⟩
    exact .pure ⟨rfl, failure, rfl⟩
  refine load.bind (fun answer s' => ?_) ?_
  · cases answer <;> exact .pure
  · rintro _ s' ⟨failure, rfl⟩
    exact .pure ⟨rfl, failure, rfl⟩

def StateRefused (user : String) (answer : Except Fault ReaderState) : Prop :=
  answer = .ok (.empty user) ∨ ∃ failure, answer = .error (.stateRead failure)

theorem reads_state (folder user : String) (s : σ) :
    Reads (ReaderState.load folder user) (ReaderState.load folder user) (StateRefused user) s := by
  unfold ReaderState.load
  cases ReaderState.path folder user with
  | error fault => exact .pure
  | ok path =>
    refine (Reads.isThere path s).bind (fun there s' => ?_) ?_
    · cases there with
      | false => exact .pure
      | true =>
        refine (Reads.readText path s').bind (fun answer s'' => ?_) ?_
        · cases answer <;> exact .pure
        · rintro _ s'' ⟨failure, rfl⟩
          exact .pure ⟨rfl, .inr ⟨failure, rfl⟩⟩
    · rintro _ s' rfl
      exact .pure ⟨rfl, .inl rfl⟩

/-- A disk on which a folder is needed, and one on which at most that folder and those above it
have been made. -/
structure Prepares (d : Disk) (folder : String) (d' : Disk) : Prop where
  grows : d.Grows folder d'
  same : folder = "" ∨ d.isFolder folder = true → d' = d

inductive Keeping (folder : String) (state : ReaderState) (d : Disk) :
    Except Fault Unit → Disk → Prop
  | rejected (rejected : ReaderState.isUserId state.userId = false) :
    Keeping folder state d (.error (.user state.userId)) d
  | refused (failure : FileFailure) {d' : Disk} (prepares : Prepares d folder d') :
    Keeping folder state d (.error (.stateWrite failure)) d'
  | done {path : String} {d' d'' : Disk}
    (named : ReaderState.path folder state.userId = .ok path) (prepares : Prepares d folder d')
    (written : d'.write path state.toJson.render.toUTF8 = .ok d'') :
    Keeping folder state d (.ok ()) d''

theorem path_of_isUserId (folder : String) {user : String}
    (valid : ReaderState.isUserId user = true) :
    ReaderState.path folder user = .ok (Path.join folder (user ++ ".json")) := by
  simp [ReaderState.path, valid]

theorem save_ends (folder : String) (state : ReaderState) (s : σ) :
    Ends (state.save folder) s fun answer s' => Keeping folder state (disk s) answer (disk s') := by
  unfold ReaderState.save
  cases valid : ReaderState.isUserId state.userId with
  | false =>
    simp only [ReaderState.path, valid]
    exact .pure (.rejected valid)
  | true =>
    have named := path_of_isUserId folder valid
    simp only [named]
    refine .bind (makeFolders_ends folder s) fun answer s₁ made => ?_
    have prepares : Prepares (disk s) folder (disk s₁) := by
      rcases made with ⟨rfl, -, rfl⟩ | ⟨ne, made⟩
      · exact ⟨.refl _ _, fun _ => rfl⟩
      · exact ⟨made.grows, fun there => made.same (there.resolve_left ne)⟩
    cases answer with
    | error failure => exact .pure (.refused failure prepares)
    | ok _ =>
      refine .bind (HoldsDisk.write s₁ _ _) fun answer s₂ asked => .pure ?_
      rcases asked with granted | ⟨-, ⟨failure, rfl⟩, kept⟩
      · rcases written : (disk s₁).write (Path.join folder (state.userId ++ ".json"))
            state.toJson.render.toUTF8 with failure | d'
        · obtain ⟨rfl, kept⟩ := Prod.mk.inj (written ▸ granted)
          exact kept ▸ .refused failure prepares
        · obtain ⟨rfl, kept⟩ := Prod.mk.inj (written ▸ granted)
          exact kept ▸ .done named prepares written
      · exact kept ▸ .refused failure prepares

end requests

theorem Disk.keeping_run (d : Disk) (folder : String) (state : ReaderState) :
    Keeping folder state d (d.run (state.save folder)).1 (d.run (state.save folder)).2 :=
  save_ends folder state d

namespace Player

variable {player : Player} {d : Disk} {user : String}

theorem text_eq (d : Disk) (path : String) :
    (d.run (readText path)).1 =
      (d.read path).bind fun content =>
        match String.fromUTF8? content with
        | some text => .ok text
        | none => .error .notText := by
  rw [readText, Disk.run_bind, Disk.run_read]
  cases d.read path with
  | error failure => rfl
  | ok content =>
    simp only [Except.bind]
    cases String.fromUTF8? content <;> rfl

theorem text_of_read {path text : String} (read : d.read path = .ok text.toUTF8) :
    (d.run (readText path)).1 = .ok text := by
  rw [text_eq, read, Except.bind, fromUTF8?_toUTF8]

theorem segment_eq (d : Disk) (target : Target) :
    player.segment d target =
      match (d.run (readText player.scriptPath)).1 with
      | .error failure => .error (.source player.scriptPath failure)
      | .ok source => (resolveTarget source target player.options).mapError .script := by
  rw [segment, resolveFile, Disk.run_bind, loadScript, Disk.run_bind]
  cases (d.run (readText player.scriptPath)).1 <;> rfl

theorem segment_congr {d' : Disk} (same : d'.read player.scriptPath = d.read player.scriptPath)
    (target : Target) : player.segment d' target = player.segment d target := by
  rw [segment_eq, segment_eq, text_eq, text_eq, same]

theorem read_of_segment {target : Target} {statements : List Statement}
    (segment : player.segment d target = .ok statements) :
    ∃ content, d.read player.scriptPath = .ok content := by
  rw [segment_eq, text_eq] at segment
  cases h : d.read player.scriptPath with
  | error failure => simp [h, Except.bind] at segment
  | ok content => exact ⟨content, rfl⟩

theorem resolved_of_segment {target : Target} {statements : List Statement}
    (segment : player.segment d target = .ok statements) :
    ∃ source, resolveTarget source target player.options = .ok statements := by
  rw [segment_eq] at segment
  split at segment
  · simp at segment
  · next source _ =>
    refine ⟨source, ?_⟩
    cases resolved : resolveTarget source target player.options with
    | error fault =>
      rw [resolved] at segment
      cases segment
    | ok result =>
      rw [resolved] at segment
      cases segment
      rfl

theorem no_slash_stateFile (valid : ReaderState.isUserId user = true) :
    '/' ∉ (user ++ ".json").toList := by
  intro h
  have : '/' ∈ user.toList := by simpa using h
  unfold ReaderState.isUserId at valid
  have all := List.all_eq_true.mp (Bool.and_eq_true_iff.mp valid).2 '/' this
  revert all
  decide

theorem proper_stateFile (user : String) :
    user ++ ".json" ≠ "" ∧ user ++ ".json" ≠ "." ∧ user ++ ".json" ≠ ".." := by
  have long : 5 ≤ (user ++ ".json").length := by
    rw [String.length_append]
    exact Nat.le_add_left 5 _
  refine ⟨?_, ?_, ?_⟩ <;> intro same <;> rw [same] at long <;> exact absurd long (by decide)

/-- Each reader's file has a place of its own in the folder of states. -/
theorem placeOf_statePath (valid : ReaderState.isUserId user = true) :
    d.placeOf (player.statePath user) = d.placeOf player.stateFolder ++ [user ++ ".json"] :=
  have proper := proper_stateFile user
  d.placeOf_join (no_slash_stateFile valid) _ proper.1 proper.2.1 proper.2.2

theorem placeOf_statePath_ne {other : String} (valid : ReaderState.isUserId user = true)
    (valid' : ReaderState.isUserId other = true) (ne : other ≠ user) :
    d.placeOf (player.statePath other) ≠ d.placeOf (player.statePath user) := by
  rw [placeOf_statePath valid, placeOf_statePath valid']
  intro same
  have names := List.append_cancel_left same
  exact ne (by simpa using names)

theorem stateOf_eq (valid : ReaderState.isUserId user = true) :
    player.stateOf d user =
      if d.isThere (player.statePath user) then
        match (d.run (readText (player.statePath user))).1 with
        | .error failure => .error (.stateRead failure)
        | .ok text => ReaderState.ofText text
      else .ok (.empty user) := by
  have named : ReaderState.path player.stateFolder user = .ok (player.statePath user) :=
    path_of_isUserId player.stateFolder valid
  simp only [stateOf, ReaderState.load, named, Disk.run_bind, Disk.run_isThere]
  by_cases there : d.isThere (player.statePath user) = true
  · simp only [there, if_true, Disk.run_bind]
    cases (d.run (readText (player.statePath user))).1 <;> rfl
  · simp only [there]
    rfl

theorem stateOf_of_not_isUserId (rejected : ReaderState.isUserId user = false) :
    player.stateOf d user = .error (.user user) := by
  unfold stateOf ReaderState.load ReaderState.path
  simp [rejected, Disk.run_pure]

theorem isUserId_of_stateOf {state : ReaderState} (found : player.stateOf d user = .ok state) :
    ReaderState.isUserId user = true := by
  cases valid : ReaderState.isUserId user with
  | false => simp [stateOf_of_not_isUserId valid] at found
  | true => rfl

theorem schema_of_stateOf {state : ReaderState} (found : player.stateOf d user = .ok state) :
    state.schemaVersion = ReaderState.schema := by
  rw [stateOf_eq (isUserId_of_stateOf found)] at found
  split at found
  · split at found
    · simp at found
    · next text _ =>
      unfold ReaderState.ofText at found
      split at found
      · simp at found
      · split at found
        · next current =>
          obtain rfl := Except.ok.inj found
          exact current
        · simp at found
  · obtain rfl := Except.ok.inj found
    rfl

/-- Keeping a state keeps folders. It changes no file if it fails, and else only the file of the
reader whom the state names. -/
theorem spares_of_keeping {state : ReaderState} {answer : Except Fault Unit} {d' : Disk}
    (keeping : Keeping player.stateFolder state d answer d') :
    d.KeepsFolders d' ∧
      ((∃ fault, answer = .error fault ∧ ∀ path, d.Spares d' path) ∨
        answer = .ok () ∧ ReaderState.isUserId state.userId = true ∧
          d'.read (player.statePath state.userId) = .ok state.toJson.render.toUTF8 ∧
          ∀ path, d.placeOf path ≠ d.placeOf (player.statePath state.userId) →
            d.Spares d' path) := by
  cases keeping with
  | rejected rejected => exact ⟨.refl d, .inl ⟨_, rfl, fun path => .refl d path⟩⟩
  | refused failure prepares =>
    exact ⟨prepares.grows.keepsFolders, .inl ⟨_, rfl, fun path => prepares.grows.spares path⟩⟩
  | @done path d₁ _ named prepares written =>
    cases valid : ReaderState.isUserId state.userId with
    | false => simp [ReaderState.path, valid] at named
    | true =>
      obtain rfl := Except.ok.inj (named.symm.trans (path_of_isUserId player.stateFolder valid))
      have keeps := prepares.grows.keepsFolders
      have writes := Disk.write_ok written
      refine ⟨keeps.trans writes.keeps, .inr ⟨rfl, rfl, writes.read, fun path ne => ?_⟩⟩
      refine (prepares.grows.spares path).trans (writes.spares path ?_)
      rwa [keeps.placeOf_eq, keeps.placeOf_eq]

theorem file?_of_keeping {state : ReaderState} {d' : Disk} {answer : Except Fault Unit}
    {place : Place}
    (keeping : Keeping player.stateFolder state d answer d')
    (other : place ≠ d.placeOf (player.statePath state.userId)) :
    d'.file? place = d.file? place := by
  cases keeping with
  | rejected rejected => rfl
  | refused failure prepares => exact prepares.grows.file?_eq place
  | @done path d₁ _ named prepares written =>
    have valid : ReaderState.isUserId state.userId = true := by
      cases valid : ReaderState.isUserId state.userId with
      | false => simp [ReaderState.path, valid] at named
      | true => rfl
    obtain rfl := Except.ok.inj (named.symm.trans (path_of_isUserId player.stateFolder valid))
    rw [← prepares.grows.keepsFolders.placeOf_eq] at other
    rw [Disk.file?_of_write written other, prepares.grows.file?_eq]

theorem stateOf_of_read {state : ReaderState} (valid : ReaderState.isUserId user = true)
    (current : state.schemaVersion = ReaderState.schema)
    (kept : d.read (player.statePath user) = .ok state.toJson.render.toUTF8) :
    player.stateOf d user = .ok state := by
  have there : d.isThere (player.statePath user) = true := by
    obtain ⟨free, file⟩ := Disk.read_eq_ok_iff.mp kept
    exact Disk.isThere_iff.mpr ⟨free, by simp [file]⟩
  have text : (d.run (readText (player.statePath user))).1 = .ok state.toJson.render := by
    rw [text_eq, kept, Except.bind, fromUTF8?_toUTF8]
  rw [stateOf_eq valid, if_pos there, text]
  exact ReaderState.ofText_render current

theorem stateOf_of_no_file (valid : ReaderState.isUserId user = true)
    (none : ∀ content, d.standing (d.placeOf (player.statePath user)) ≠ .file content) :
    player.stateOf d user =
      if d.isFolder (player.statePath user) then .error (.stateRead .isDirectory)
      else .ok (.empty user) := by
  rw [stateOf_eq valid]
  by_cases folder : d.isFolder (player.statePath user) = true
  · obtain ⟨free, stands⟩ := Disk.isFolder_iff.mp folder
    have there : d.isThere (player.statePath user) = true :=
      Disk.isThere_iff.mpr ⟨free, by simp [stands]⟩
    rw [if_pos there, if_pos folder, text_eq, Disk.read_of_isFolder folder]
    rfl
  · have absent : ¬ d.isThere (player.statePath user) = true := fun there => by
      obtain ⟨free, stands⟩ := Disk.isThere_iff.mp there
      refine folder (Disk.isFolder_iff.mpr ⟨free, ?_⟩)
      cases h : d.standing (d.placeOf (player.statePath user)) with
      | nothing => exact absurd h stands
      | file content => exact absurd h (none content)
      | folder => rfl
    rw [if_neg absent, if_neg folder]

theorem stateOf_of_nothing (valid : ReaderState.isUserId user = true)
    (nothing : d.standing (d.placeOf (player.statePath user)) = .nothing) :
    player.stateOf d user = .ok (.empty user) := by
  have none : ∀ content, d.standing (d.placeOf (player.statePath user)) ≠ .file content := by
    simp [nothing]
  have absent : ¬ d.isFolder (player.statePath user) = true := by
    simp [Disk.isFolder_iff, nothing]
  rw [stateOf_of_no_file valid none, if_neg absent]

theorem folder_of_tappable {state : ReaderState} (found : player.stateOf d user = .ok state)
    (some_ : state.tappable ≠ []) :
    player.stateFolder = "" ∨ d.isFolder player.stateFolder = true := by
  have valid := isUserId_of_stateOf found
  rw [stateOf_eq valid] at found
  split at found
  · next there =>
    exact Disk.isFolder_of_join (no_slash_stateFile valid) (Disk.isThere_iff.mp there).1
  · obtain rfl := Except.ok.inj found
    exact absurd rfl some_

end Player
end Storypath
