import Mathlib
import Storypath.Proofs.Session.Sharing

/-! The folder of states as a map from user ids to states. What is found of a reader is told by
what is seen at the end of one path, and keeping the state of another changes nothing there unless
making the folder does. Main statement: a state that is kept is found again, and nothing else is
found differently or changed. -/
namespace Storypath

namespace Disk

variable {d d' : Disk} {place : Place} {path : String}

/-- What is seen at the end of a path: what stands there, or nothing if the path cannot be
followed. -/
def seen (d : Disk) (path : String) : Standing :=
  match d.block? path with
  | none => d.standing (d.placeOf path)
  | some _ => .nothing

theorem seen_of_free (free : d.block? path = none) :
    d.seen path = d.standing (d.placeOf path) := by
  simp [seen, free]

theorem seen_of_block {failure : FileFailure} (block : d.block? path = some failure) :
    d.seen path = .nothing := by
  simp [seen, block]

theorem isThere_iff_seen : d.isThere path = true ↔ d.seen path ≠ .nothing := by
  rw [isThere_iff]
  cases block : d.block? path with
  | none => simp [seen_of_free block]
  | some failure => simp [seen_of_block block]

theorem read_of_seen_file {content : ByteArray} (file : d.seen path = .file content) :
    d.read path = .ok content := by
  cases block : d.block? path with
  | none => exact read_eq_ok_iff.mpr ⟨block, seen_of_free block ▸ file⟩
  | some failure => simp [seen_of_block block] at file

theorem read_of_seen_folder (folder : d.seen path = .folder) :
    d.read path = .error .isDirectory := by
  cases block : d.block? path with
  | none => exact read_of_isFolder (isFolder_iff.mpr ⟨block, seen_of_free block ▸ folder⟩)
  | some failure => simp [seen_of_block block] at folder

theorem seen_of_write {content : ByteArray} {other : String}
    (written : d.write path content = .ok d') (apart : d.placeOf other ≠ d.placeOf path) :
    d'.seen other = d.seen other := by
  have writes := write_ok written
  rcases d.write_eq path content with ⟨failure, refused, -⟩ | ⟨d'', wrote, -, -, becomes⟩
  · simp [refused] at written
  obtain rfl := Except.ok.inj (wrote.symm.trans written)
  cases block : d.block? other with
  | none =>
    rw [seen_of_free block, seen_of_free (writes.keeps.block? block), writes.keeps.placeOf_eq,
      becomes.elsewhere _ apart]
  | some failure =>
    cases block' : d''.block? other with
    | none => simp [writes.back.block? block'] at block
    | some failure' => rw [seen_of_block block, seen_of_block block']

theorem folder_of_below {name : String} {more : Place}
    (below : d.standing (place ++ name :: more) ≠ .nothing) : d.standing place = .folder := by
  unfold standing at below ⊢
  rw [Node.at?_append] at below
  rcases h : d.root.at? place with _ | content | items
  · simp [h, Standing.ofNode] at below
  · simp [h, Node.at?, Node.item?, Standing.ofNode] at below
  · rfl

theorem foldl_go_below {names : List String} (down : ".." ∉ names) (place : Place) :
    ∃ more, names.foldl Place.go place = place ++ more := by
  induction names generalizing place with
  | nil => exact ⟨[], by simp⟩
  | cons name names ih =>
    have other := List.ne_of_not_mem_cons down
    have later := List.not_mem_of_not_mem_cons down
    obtain ⟨more, led⟩ := ih later (place.go name)
    have step : place.go name = place ∨ place.go name = place ++ [name] := by
      unfold Place.go
      split
      · exact .inl rfl
      · rw [if_neg (Ne.symm other)]
        exact .inr rfl
    rcases step with same | next
    · exact ⟨more, by rw [List.foldl_cons, led, same]⟩
    · exact ⟨name :: more, by rw [List.foldl_cons, led, next, List.append_assoc]; rfl⟩

theorem stop?_of_below {names : List String} {name : String} (down : ".." ∉ names)
    (free : d'.stop? place (names ++ [name]) = none)
    (below : d.standing (names.foldl Place.go place ++ [name]) ≠ .nothing) :
    d.stop? place (names ++ [name]) = none := by
  have short {place : Place} {name : String} {names : List String}
      (free : d'.stop? place (name :: names) = none) :
      ¬ name.utf8ByteSize > maxName ∧ d'.stop? (place.go name) names = none := by
    unfold stop? at free
    split at free
    · simp at free
    · simp at free
    · split at free
      · simp at free
      · next short => exact ⟨short, free⟩
  induction names generalizing place with
  | nil =>
    have folder : d.standing place = .folder := folder_of_below below
    simpa [stop?, folder] using Nat.le_of_not_gt (short free).1
  | cons first names ih =>
    have later := List.not_mem_of_not_mem_cons down
    obtain ⟨more, led⟩ := foldl_go_below down place
    obtain ⟨fits, free⟩ := short free
    have folder : d.standing place = .folder := by
      rw [led, List.append_assoc] at below
      cases more with
      | nil => exact folder_of_below below
      | cons n more => exact folder_of_below below
    rw [List.cons_append, stop?, folder]
    simp only [if_neg fits]
    exact ih later free below

/-- What is still to be made of a path leads down: as far as it leads back up it can be followed
already. -/
def LeadsDown (d : Disk) (path : String) : Prop :=
  ∃ front rest, (Path.ofText path).names = front ++ rest ∧
    d.stop? (d.start (.ofText path)) front = none ∧ ".." ∉ rest

theorem leadsDown_of_direct
    (direct : d.isFolder path = true ∨ ".." ∉ (Path.ofText path).names) : d.LeadsDown path := by
  rcases direct with there | down
  · exact ⟨_, [], (List.append_nil _).symm, (isFolder_iff_opens.mp there).2.free, by simp⟩
  · exact ⟨[], _, rfl, rfl, down⟩

theorem LeadsDown.of_slash {names front rest : List String}
    (spelt : front ++ rest = names ∨ front ++ rest = names ++ [""])
    (followed : d.stop? place front = none) (down : ".." ∉ rest) :
    ∃ front rest, names = front ++ rest ∧ d.stop? place front = none ∧ ".." ∉ rest := by
  rcases spelt with rfl | slash
  · exact ⟨front, rest, rfl, followed, down⟩
  rcases List.eq_nil_or_concat rest with rfl | ⟨before, last, rfl⟩
  · rw [List.append_nil] at slash
    rw [slash, stop?_append, Option.or_eq_none_iff] at followed
    exact ⟨names, [], (List.append_nil _).symm, followed.1, by simp⟩
  · rw [List.concat_eq_append] at slash down
    rw [← List.append_assoc] at slash
    obtain ⟨same, -⟩ := List.append_inj' slash rfl
    exact ⟨front, before, same.symm, followed, fun mem => down (List.mem_append_left _ mem)⟩

theorem stands_of_onWay {front rest : List String} {name : String}
    (followed : d.stop? place front = none) (down : ".." ∉ rest) {names : List String}
    (inFront : names <+: front ++ rest)
    (at_ : names.foldl Place.go place = (front ++ rest).foldl Place.go place ++ [name]) :
    d.standing ((front ++ rest).foldl Place.go place ++ [name]) ≠ .nothing := by
  obtain ⟨led, ends⟩ := foldl_go_below down (front.foldl Place.go place)
  obtain ⟨later, split⟩ := inFront
  rcases List.append_eq_append_iff.mp split with ⟨tail, rfl, -⟩ | ⟨more, rfl, rfl⟩
  · cases tail with
    | nil =>
      rw [List.append_nil, List.foldl_append] at at_
      rw [List.append_nil] at ends
      rw [ends] at at_
      simpa using congrArg List.length at_
    | cons n tail =>
      rw [← at_, (folder_of_stop? (List.cons_ne_nil _ _) followed).2]
      simp
  · have down : ".." ∉ later := fun mem => down (List.mem_append_right more mem)
    obtain ⟨below, ends⟩ := foldl_go_below down ((front ++ more).foldl Place.go place)
    have whole : (front ++ (more ++ later)).foldl Place.go place =
        (front ++ more).foldl Place.go place ++ below := by
      rw [← List.append_assoc, List.foldl_append, ends]
    rw [whole] at at_
    simpa using congrArg List.length at_

/-- Making a folder changes nothing of what is seen of the files in it, if all that is made leads
down. -/
theorem seen_makeFolders {folder name : String} (no_slash : '/' ∉ name.toList)
    (proper : name ≠ "" ∧ name ≠ "." ∧ name ≠ "..") (leads : d.LeadsDown folder) :
    (d.run (makeFolders folder)).2.seen (Path.join folder name) =
      d.seen (Path.join folder name) := by
  have grows := d.grows_makeFolders folder
  generalize (d.run (makeFolders folder)).2 = d' at grows ⊢
  have keeps := grows.keepsFolders
  obtain ⟨names, spelt, joined⟩ := Path.ofText_join folder no_slash
  obtain ⟨front, rest, split, followed, down⟩ := leads
  have same : d'.standing (d'.placeOf (Path.join folder name)) =
      d.standing (d.placeOf (Path.join folder name)) := by
    rw [keeps.placeOf_eq]
    rcases grows.standing (d.placeOf (Path.join folder name)) with
      same | ⟨nothing, -, onWay, inFront, at_⟩
    · exact same
    · have led : d.placeOf (Path.join folder name) =
          (front ++ rest).foldl Place.go (d.start (.ofText folder)) ++ [name] := by
        rw [d.placeOf_join no_slash folder proper.1 proper.2.1 proper.2.2, placeOf, split]
      rw [led] at at_ nothing
      exact absurd nothing (stands_of_onWay followed down (split ▸ inFront) at_)
  cases block : d.block? (Path.join folder name) with
  | none => rw [seen_of_free block, seen_of_free (keeps.block? block), same]
  | some failure =>
    rw [seen_of_block block]
    cases block' : d'.block? (Path.join folder name) with
    | some failure' => exact seen_of_block block'
    | none =>
      rw [seen_of_free block', same]
      -- If something stood there, the path would have been open before.
      refine Classical.byContradiction fun below => ?_
      obtain ⟨front, rest, rfl, followed, down⟩ :=
        LeadsDown.of_slash (split ▸ spelt) followed down
      have start : d.start (.ofText (Path.join folder name)) = d.start (.ofText folder) := by
        simp [Disk.start, joined]
      unfold block? at block block'
      cases checked : checkPath (Path.join folder name) with
      | error failure => simp [checked] at block'
      | ok _ =>
        simp only [checked, keeps.start_eq, start] at block block'
        have ends : d.placeOf (Path.join folder name) =
            rest.foldl Place.go (front.foldl Place.go (d.start (.ofText folder))) ++ [name] := by
          rw [placeOf, start, joined, List.foldl_append, List.foldl_append, List.foldl_cons,
            List.foldl_nil, Place.go]
          simp [proper]
        rw [joined] at block block'
        simp only [List.append_assoc, stop?_append d, followed, Option.none_or] at block
        simp only [List.append_assoc, stop?_append d' _ front, Option.or_eq_none_iff] at block'
        rw [ends] at below
        rw [← stop?_append, stop?_of_below down block'.2 below] at block
        simp at block

end Disk

namespace Player

variable {player : Player} {d d' : Disk} {user other : String}

theorem stateOf_congr (valid : ReaderState.isUserId user = true)
    (same : d'.seen (player.statePath user) = d.seen (player.statePath user)) :
    player.stateOf d' user = player.stateOf d user := by
  have there : d'.isThere (player.statePath user) = d.isThere (player.statePath user) := by
    rw [Bool.eq_iff_iff, Disk.isThere_iff_seen, Disk.isThere_iff_seen, same]
  rw [stateOf_eq valid, stateOf_eq valid, there]
  split
  · next found =>
    have read : d'.read (player.statePath user) = d.read (player.statePath user) := by
      cases seen : d.seen (player.statePath user) with
      | nothing => exact absurd seen (Disk.isThere_iff_seen.mp found)
      | file content =>
        rw [Disk.read_of_seen_file seen, Disk.read_of_seen_file (same.trans seen)]
      | folder => rw [Disk.read_of_seen_folder seen, Disk.read_of_seen_folder (same.trans seen)]
    rw [text_eq, text_eq, read]
  · rfl

theorem run_load (player : Player) (d : Disk) (user : String) :
    d.run (ReaderState.load player.stateFolder user) = (player.stateOf d user, d) := by
  have kept := reads_state player.stateFolder user d
  exact Prod.ext rfl kept.1

/-- A disk on which the state of a reader can be kept: the folder of states is there or can be made,
and then the reader's file can be written. -/
structure Takes (player : Player) (d : Disk) (user : String) : Prop where
  canKeep : player.CanKeep d
  written : ∀ content, ∃ d', (player.prepared d).write (player.statePath user) content = .ok d'

theorem Takes.save {state : ReaderState} (takes : player.Takes d state.userId)
    (valid : ReaderState.isUserId state.userId = true) :
    ∃ d', d.run (state.save player.stateFolder) = (.ok (), d') ∧
      (player.prepared d).write (player.statePath state.userId) state.toJson.render.toUTF8 =
        .ok d' := by
  obtain ⟨d', written⟩ := takes.written state.toJson.render.toUTF8
  have made : d.run (makeFolders player.stateFolder) = (.ok (), player.prepared d) :=
    Prod.ext takes.canKeep rfl
  refine ⟨d', ?_, written⟩
  rw [run_save valid, made]
  simp only [written]

end Player

def IsIdCharacter (c : Char) : Prop :=
  ('A' ≤ c ∧ c ≤ 'Z') ∨ ('a' ≤ c ∧ c ≤ 'z') ∨ ('0' ≤ c ∧ c ≤ '9') ∨ c = '-' ∨ c = '_'

def IsUserId (user : String) : Prop := user ≠ "" ∧ ∀ c ∈ user.toList, IsIdCharacter c

namespace ReaderState

theorem isUserId_iff {user : String} : isUserId user = true ↔ IsUserId user := by
  have character (c : Char) : (c.isAlphanum || c == '-' || c == '_') = true ↔ IsIdCharacter c := by
    simp only [Char.isAlphanum, Char.isAlpha, Char.isUpper, Char.isLower, Char.isDigit,
      Bool.or_eq_true, Bool.and_eq_true, decide_eq_true_eq, beq_iff_eq, or_assoc]
    exact Iff.rfl
  rw [isUserId, Bool.and_eq_true, List.all_eq_true, IsUserId]
  simp only [character, bne_iff_ne]

theorem load_of_not_isUserId {m : Type → Type} [Monad m] [Files m] {user : String}
    (rejected : ¬ IsUserId user) (folder : String) :
    load folder user = (pure (.error (.user user)) : m (Except Fault ReaderState)) := by
  have rejected : isUserId user = false := Bool.eq_false_iff.mpr (mt isUserId_iff.mp rejected)
  simp only [load, path, rejected]
  rfl

theorem save_of_not_isUserId {m : Type → Type} [Monad m] [Files m] {state : ReaderState}
    (rejected : ¬ IsUserId state.userId) (folder : String) :
    state.save folder = (pure (.error (.user state.userId)) : m (Except Fault Unit)) := by
  have rejected : isUserId state.userId = false :=
    Bool.eq_false_iff.mpr (mt isUserId_iff.mp rejected)
  simp only [save, path, rejected]
  rfl

end ReaderState

/-- A folder of states is a faithful map. A state that is kept there is found again; what is found
of any other reader is what was found before, if all that has to be made of the folder leads down;
no file changes but that of the reader; and what is no user id is refused, without a request for a
file. -/
theorem ReaderState.load_save {player : Player} {d : Disk} {user : String}
    (valid : IsUserId user) (takes : player.Takes d user) (tappable : List String) :
    (∃ d', d.run (ReaderState.save player.stateFolder ⟨schema, user, tappable⟩) = (.ok (), d') ∧
      d'.run (load player.stateFolder user) = (.ok ⟨schema, user, tappable⟩, d') ∧
      (d.LeadsDown player.stateFolder → ∀ other, IsUserId other → other ≠ user →
        (d'.run (load player.stateFolder other)).1 = (d.run (load player.stateFolder other)).1) ∧
      ∀ place, place ≠ d.placeOf (player.statePath user) → d'.file? place = d.file? place) ∧
    ∀ rejected, ¬ IsUserId rejected → ∀ (m : Type → Type) [Monad m] [Files m],
      load player.stateFolder rejected =
          (pure (.error (.user rejected)) : m (Except Fault ReaderState)) ∧
        save player.stateFolder ⟨schema, rejected, tappable⟩ =
          (pure (.error (.user rejected)) : m (Except Fault Unit)) := by
  have valid := isUserId_iff.mpr valid
  obtain ⟨d', saved, written⟩ := @Player.Takes.save player d ⟨schema, user, tappable⟩ takes valid
  refine ⟨⟨d', saved, ?_, fun leads other valid' ne => ?_, fun place apart => ?_⟩,
    fun rejected invalid m _ _ =>
      ⟨load_of_not_isUserId invalid player.stateFolder,
        @save_of_not_isUserId m _ _ ⟨schema, rejected, tappable⟩ invalid player.stateFolder⟩⟩
  · rw [Player.run_load, Player.stateOf_of_read valid rfl (Disk.write_ok written).read]
  · have valid' := isUserId_iff.mpr valid'
    have apart : (player.prepared d).placeOf (player.statePath other) ≠
        (player.prepared d).placeOf (player.statePath user) :=
      Player.placeOf_statePath_ne valid valid' ne
    refine Player.stateOf_congr valid' ?_
    calc d'.seen (player.statePath other)
        = (player.prepared d).seen (player.statePath other) := Disk.seen_of_write written apart
      _ = d.seen (player.statePath other) :=
          Disk.seen_makeFolders (Player.no_slash_stateFile valid')
            (Player.proper_stateFile other) leads
  · have keeping := d.keeping_run player.stateFolder ⟨schema, user, tappable⟩
    rw [saved] at keeping
    exact Player.file?_of_keeping keeping apart

def keeper (stateFolder : String) : Player := ⟨"a", stateFolder, "*a", "go", {}⟩

def keptDisk (others : List (String × Node)) (files : List (String × Node)) : Disk :=
  ⟨[], .folder (others ++ [("s", .folder (files ++ [("b.json", .file
    (ReaderState.toJson ⟨ReaderState.schema, "b", ["x"]⟩).render.toUTF8)]))])⟩

theorem takes_keptDisk {stateFolder : String} {others : List (String × Node)}
    (made : (keptDisk [] []).run (makeFolders stateFolder) = (.ok (), keptDisk others []))
    (user : String) (written : ∀ content, ∃ d',
      (keptDisk others []).write ((keeper stateFolder).statePath user) content = .ok d') :
    (keeper stateFolder).Takes (keptDisk [] []) user := by
  refine ⟨congrArg Prod.fst made, fun content => ?_⟩
  rw [Player.prepared, keeper, made]
  exact written content

/-- A reader's file can come into sight when the state of another is kept: the path of the folder
leads through one that is not there, until it is made. -/
theorem not_load_save_detour :
    IsUserId "u" ∧ IsUserId "b" ∧ (keeper "n/../s").Takes (keptDisk [] []) "u" ∧
      ∃ d', (keptDisk [] []).run (ReaderState.save "n/../s" (.empty "u")) = (.ok (), d') ∧
        (d'.run (ReaderState.load "n/../s" "b")).1 ≠
          ((keptDisk [] []).run (ReaderState.load "n/../s" "b")).1 := by
  have made : (keptDisk [] []).run (makeFolders "n/../s") =
      (.ok (), keptDisk [("n", .folder [])] []) := rfl
  have takes : (keeper "n/../s").Takes (keptDisk [] []) "u" :=
    takes_keptDisk made "u" fun content => ⟨_, rfl⟩
  have valid {user : String} (checked : ReaderState.isUserId user = true) : IsUserId user :=
    ReaderState.isUserId_iff.mp checked
  obtain ⟨d', saved, written⟩ := @Player.Takes.save _ _ (.empty "u") takes rfl
  refine ⟨valid rfl, valid rfl, takes, d', saved, ?_⟩
  have later : (keeper "n/../s").stateOf d' "b" = .ok ⟨ReaderState.schema, "b", ["x"]⟩ := by
    have apart := @Player.placeOf_statePath_ne (keeper "n/../s")
      ((keeper "n/../s").prepared (keptDisk [] [])) "u" "b" rfl rfl (by decide)
    rw [Player.stateOf_congr rfl (Disk.seen_of_write written apart), Player.prepared, keeper, made]
    exact Player.stateOf_of_read rfl rfl rfl
  have before : (keeper "n/../s").stateOf (keptDisk [] []) "b" = .ok (.empty "b") := rfl
  change (keeper "n/../s").stateOf d' "b" ≠ (keeper "n/../s").stateOf (keptDisk [] []) "b"
  rw [later, before]
  simp [ReaderState.empty]

theorem load_save_keptDisk :
    IsUserId "u" ∧ (keeper "s").Takes (keptDisk [] []) "u" ∧ IsUserId "b" ∧
      (keptDisk [] []).LeadsDown "s" ∧
      ∃ d', (keptDisk [] []).run
          (ReaderState.save "s" ⟨ReaderState.schema, "u", ["é", "x", "é"]⟩) = (.ok (), d') ∧
        (d'.run (ReaderState.load "s" "u")).1 =
          .ok ⟨ReaderState.schema, "u", ["é", "x", "é"]⟩ ∧
        (d'.run (ReaderState.load "s" "b")).1 = .ok ⟨ReaderState.schema, "b", ["x"]⟩ := by
  have made : (keptDisk [] []).run (makeFolders "s") = (.ok (), keptDisk [] []) := rfl
  have takes : (keeper "s").Takes (keptDisk [] []) "u" :=
    takes_keptDisk made "u" fun content => ⟨_, rfl⟩
  have valid {user : String} (checked : ReaderState.isUserId user = true) : IsUserId user :=
    ReaderState.isUserId_iff.mp checked
  have leads : (keptDisk [] []).LeadsDown "s" := Disk.leadsDown_of_direct (.inr (by decide))
  have before : (keeper "s").stateOf (keptDisk [] []) "b" =
      .ok ⟨ReaderState.schema, "b", ["x"]⟩ := Player.stateOf_of_read rfl rfl rfl
  obtain ⟨⟨d', saved, found, others, -⟩, -⟩ :=
    @ReaderState.load_save (keeper "s") _ _ (valid rfl) takes ["é", "x", "é"]
  refine ⟨valid rfl, takes, valid rfl, leads, d', saved, congrArg Prod.fst found, ?_⟩
  exact (others leads "b" (valid rfl) (by decide)).trans before

end Storypath
