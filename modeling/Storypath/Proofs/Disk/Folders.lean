import Storypath.Proofs.Disk.Places

/-! Folders on a disk: which paths lead into them, and what making one changes. -/
namespace Storypath

namespace Disk

variable {d d' : Disk} {path outer : String} {place : Place}

theorem stop?_append (d : Disk) (place : Place) (names more : List String) :
    d.stop? place (names ++ more) =
      (d.stop? place names).or (d.stop? (names.foldl Place.go place) more) := by
  induction names generalizing place with
  | nil => rfl
  | cons name names ih =>
    simp only [List.cons_append, stop?, List.foldl_cons]
    split
    · rfl
    · rfl
    · split
      · rfl
      · exact ih _

theorem folder_of_stop? {names more : List String} (some_ : more ≠ [])
    (free : d.stop? place (names ++ more) = none) :
    d.stop? place names = none ∧ d.standing (names.foldl Place.go place) = .folder := by
  rw [stop?_append, Option.or_eq_none_iff] at free
  obtain ⟨name, more, rfl⟩ := List.exists_cons_of_ne_nil some_
  refine ⟨free.1, ?_⟩
  cases h : d.standing (names.foldl Place.go place) with
  | folder => rfl
  | _ => simp [stop?, h] at free

structure Opens (d : Disk) (path : String) : Prop where
  free : d.stop? (d.start (.ofText path)) (Path.ofText path).names = none
  folder : d.standing (d.placeOf path) = .folder

theorem isFolder_iff_opens :
    d.isFolder path = true ↔ checkPath path = .ok () ∧ d.Opens path := by
  rw [isFolder_iff, block?]
  cases checkPath path with
  | error failure => simp
  | ok _ =>
    constructor
    · exact fun h => ⟨rfl, h.1, h.2⟩
    · exact fun h => ⟨h.2.free, h.2.folder⟩

theorem checkPath_front (front : outer.toList <+: path.toList) (ne : outer ≠ "")
    (checked : checkPath path = .ok ()) : checkPath outer = .ok () := by
  obtain ⟨more, h⟩ := front
  obtain rfl : path = outer ++ String.ofList more := by
    apply String.toList_injective
    simp [h]
  unfold checkPath at checked ⊢
  rw [String.utf8ByteSize_append] at checked
  split at checked
  · simp at checked
  next nul =>
  split at checked
  · simp at checked
  split at checked
  · simp at checked
  next short =>
  have : ¬ outer.toList.contains '\x00' := fun h => nul (by simp_all)
  rw [if_neg this, if_neg ne, if_neg (by omega)]

theorem isFolder_above (isAbove : Path.Above outer path) (checked : checkPath path = .ok ())
    (past : ∀ ns rest, (Path.ofText path).names = ns ++ rest → (∃ name ∈ rest, name ≠ "") →
      d.stop? (d.start (.ofText path)) ns = none ∧
        d.standing (ns.foldl Place.go (d.start (.ofText path))) = .folder) :
    d.isFolder outer = true := by
  obtain ⟨ns, rest, names, some_, spelt⟩ := isAbove.names
  have start : d.start (.ofText outer) = d.start (.ofText path) := by
    simp [Disk.start, isAbove.absolute]
  obtain ⟨free, folder⟩ := past ns rest names some_
  refine isFolder_iff_opens.mpr ⟨checkPath_front isAbove.front isAbove.ne checked, ?_, ?_⟩
  · rcases spelt with same | ⟨rfl, root⟩
    · rwa [start, same]
    · have folder : d.standing (d.start (.ofText path)) = .folder := folder
      simp [start, root, stop?, folder, maxName]
  · rcases spelt with same | ⟨rfl, root⟩
    · rwa [placeOf, start, same]
    · rw [placeOf, start, root]
      exact folder

theorem isFolder_above_of_isFolder (isAbove : Path.Above outer path)
    (folder : d.isFolder path = true) : d.isFolder outer = true := by
  obtain ⟨checked, opens⟩ := isFolder_iff_opens.mp folder
  refine isFolder_above isAbove checked fun ns rest names ⟨name, some_, _⟩ => ?_
  exact folder_of_stop? (List.ne_nil_of_mem some_) (names ▸ opens.free)

/-- The places on the way that a path goes, its beginning and its end included. -/
def OnWay (d : Disk) (path : String) (place : Place) : Prop :=
  ∃ names, names <+: (Path.ofText path).names ∧
    names.foldl Place.go (d.start (.ofText path)) = place

theorem onWay_placeOf (d : Disk) (path : String) : d.OnWay path (d.placeOf path) :=
  ⟨_, List.prefix_rfl, rfl⟩

theorem onWay_above (isAbove : Path.Above outer path) (onWay : d.OnWay outer place) :
    d.OnWay path place := by
  obtain ⟨front, inFront, rfl⟩ := onWay
  obtain ⟨ns, rest, names, -, spelt⟩ := isAbove.names
  have start : d.start (.ofText outer) = d.start (.ofText path) := by
    simp [Disk.start, isAbove.absolute]
  rw [start]
  rcases spelt with same | ⟨rfl, root⟩
  · exact ⟨front, (same ▸ inFront).trans ⟨rest, names.symm⟩, rfl⟩
  · refine ⟨[], List.nil_prefix, ?_⟩
    rw [root] at inFront
    rcases List.prefix_cons_iff.mp inFront with rfl | ⟨more, rfl, none⟩
    · rfl
    · obtain rfl := List.prefix_nil.mp none
      rfl

structure KeepsFolders (d d' : Disk) : Prop where
  here : d'.here = d.here
  folder : ∀ place, d.standing place = .folder → d'.standing place = .folder

namespace KeepsFolders

theorem refl (d : Disk) : d.KeepsFolders d := ⟨rfl, fun _ h => h⟩

theorem trans {d₁ d₂ d₃ : Disk} (first : d₁.KeepsFolders d₂) (second : d₂.KeepsFolders d₃) :
    d₁.KeepsFolders d₃ :=
  ⟨second.here.trans first.here, fun place h => second.folder place (first.folder place h)⟩

variable (keeps : d.KeepsFolders d')
include keeps

theorem start_eq (p : Path) : d'.start p = d.start p := by
  simp [Disk.start, keeps.here]

theorem placeOf_eq (path : String) : d'.placeOf path = d.placeOf path := by
  rw [placeOf, keeps.start_eq, placeOf]

theorem stop? {names : List String} (free : d.stop? place names = none) :
    d'.stop? place names = none := by
  induction names generalizing place with
  | nil => rfl
  | cons name names ih =>
    simp only [Disk.stop?] at free ⊢
    split at free
    · simp at free
    · simp at free
    · next folder =>
      rw [keeps.folder place folder]
      split at free
      · simp at free
      · next short => simpa [short] using ih free

theorem block? (free : d.block? path = none) : d'.block? path = none := by
  unfold Disk.block? at free ⊢
  cases h : checkPath path with
  | error failure => simp [h] at free
  | ok _ =>
    rw [keeps.start_eq]
    exact keeps.stop? (by simpa [h] using free)

theorem isFolder (folder : d.isFolder path = true) : d'.isFolder path = true := by
  rw [isFolder_iff] at folder ⊢
  rw [keeps.placeOf_eq]
  exact ⟨keeps.block? folder.1, keeps.folder _ folder.2⟩

theorem opens (opens : d.Opens path) : d'.Opens path where
  free := by
    rw [keeps.start_eq]
    exact keeps.stop? opens.free
  folder := by
    rw [keeps.placeOf_eq]
    exact keeps.folder _ opens.folder

end KeepsFolders

theorem Becomes.keepsFolders {standing : Standing} (becomes : d.Becomes d' place standing)
    (free : d.standing place ≠ .folder ∨ standing = .folder) : d.KeepsFolders d' where
  here := becomes.here
  folder other folder := by
    by_cases same : other = place
    · subst same
      rcases free with free | rfl
      · exact absurd folder free
      · exact becomes.there
    · rw [becomes.elsewhere other same, folder]

/-- A disk and a later one on which folders have been kept, and on which the file at the end of a
path has been neither made nor changed. -/
structure Spares (d d' : Disk) (path : String) : Prop where
  keeps : d.KeepsFolders d'
  file : ∀ content, d'.standing (d.placeOf path) = .file content ↔
    d.standing (d.placeOf path) = .file content

namespace Spares

theorem refl (d : Disk) (path : String) : d.Spares d path := ⟨.refl d, fun _ => .rfl⟩

theorem trans {d₁ d₂ d₃ : Disk} (first : d₁.Spares d₂ path) (second : d₂.Spares d₃ path) :
    d₁.Spares d₃ path where
  keeps := first.keeps.trans second.keeps
  file content := by
    have later := second.file content
    rw [first.keeps.placeOf_eq] at later
    exact later.trans (first.file content)

theorem file?_eq (spares : d.Spares d' path) :
    d'.file? (d.placeOf path) = d.file? (d.placeOf path) := by
  have file := spares.file
  rw [Disk.file?_eq, Disk.file?_eq]
  cases h : d.standing (d.placeOf path) with
  | file content => rw [(file content).mpr h]
  | _ =>
    cases h' : d'.standing (d.placeOf path) with
    | file content => simp [h] at file; exact absurd h' (file content)
    | _ => rfl

theorem read {content : ByteArray} (spares : d.Spares d' path)
    (given : d.read path = .ok content) : d'.read path = .ok content := by
  rw [read_eq_ok_iff] at given ⊢
  rw [spares.keeps.placeOf_eq]
  exact ⟨spares.keeps.block? given.1, (spares.file content).mpr given.2⟩

end Spares

/-- A write that has been granted: the folders are the same as before, the path has its content,
and the files of all other places are spared. -/
structure Writes (d : Disk) (path : String) (content : ByteArray) (d' : Disk) : Prop where
  keeps : d.KeepsFolders d'
  back : d'.KeepsFolders d
  free : d.block? path = none
  read : d'.read path = .ok content
  spares : ∀ other, d.placeOf other ≠ d.placeOf path → d.Spares d' other

theorem write_ok {content : ByteArray} (written : d.write path content = .ok d') :
    d.Writes path content d' := by
  rcases d.write_eq path content with ⟨failure, refused, -⟩ | ⟨d'', wrote, free, file, becomes⟩
  · simp [refused] at written
  obtain rfl := Except.ok.inj (wrote.symm.trans written)
  have keeps := becomes.keepsFolders (.inl file)
  refine ⟨keeps, ⟨becomes.here.symm, fun place folder => ?_⟩, free,
    read_eq_ok_iff.mpr ⟨keeps.block? free, ?_⟩, fun other ne => ⟨keeps, fun c => ?_⟩⟩
  · by_cases same : place = d.placeOf path
    · simp [same, becomes.there] at folder
    · rw [← becomes.elsewhere place same, folder]
  · rw [keeps.placeOf_eq]
    exact becomes.there
  · rw [becomes.elsewhere _ ne]

theorem file?_of_write {content : ByteArray} (written : d.write path content = .ok d')
    (other : place ≠ d.placeOf path) : d'.file? place = d.file? place := by
  rcases d.write_eq path content with ⟨failure, refused, -⟩ | ⟨d'', wrote, -, -, becomes⟩
  · simp [refused] at written
  · obtain rfl := Except.ok.inj (wrote.symm.trans written)
    rw [Disk.file?_eq, Disk.file?_eq, becomes.elsewhere place other]

/-- A write is granted or refused alike on disks on which its path leads equally far. -/
theorem write_alike {content : ByteArray} (free : d'.block? path = d.block? path)
    (folder : d'.standing (d'.placeOf path) = .folder ↔ d.standing (d.placeOf path) = .folder) :
    (d'.write path content).map (fun _ => ()) = (d.write path content).map fun _ => () := by
  rcases d.write_eq path content with ⟨failure, wrote, block⟩ | ⟨e, wrote, block, file, -⟩ <;>
    rcases d'.write_eq path content with
      ⟨failure', wrote', block'⟩ | ⟨e', wrote', block', file', -⟩ <;>
    rw [wrote, wrote']
  · refine congrArg Except.error ?_
    rw [free] at block'
    rcases block with block | ⟨block, -, rfl⟩ <;> rcases block' with block' | ⟨block', -, rfl⟩
    · exact Option.some.inj (block'.symm.trans block)
    · simp [block] at block'
    · simp [block] at block'
    · rfl
  · rw [free] at block'
    rcases block with block | ⟨-, folder', -⟩
    · simp [block] at block'
    · exact absurd (folder.mpr folder') file'
  · rw [free] at block'
    rcases block' with block' | ⟨-, folder', -⟩
    · simp [block] at block'
    · exact absurd (folder.mp folder') file
  · rfl

structure Makes (d : Disk) (path : String) (d' : Disk) : Prop where
  becomes : d.Becomes d' (d.placeOf path) .folder
  nothing : d.standing (d.placeOf path) = .nothing
  isFolder : d'.isFolder path = true
  isFolder_above : ∀ outer, Path.Above outer path → d.isFolder outer = true

/-- A disk and a later one on which only folders on the way of a path are new. -/
structure Grows (d : Disk) (path : String) (d' : Disk) : Prop where
  here : d'.here = d.here
  standing : ∀ place, d'.standing place = d.standing place ∨
    d.standing place = .nothing ∧ d'.standing place = .folder ∧ d.OnWay path place

namespace Grows

theorem refl (d : Disk) (path : String) : d.Grows path d := ⟨rfl, fun _ => .inl rfl⟩

theorem keepsFolders (grows : d.Grows path d') : d.KeepsFolders d' where
  here := grows.here
  folder place folder := by
    rcases grows.standing place with same | ⟨nothing, -, -⟩
    · rw [same, folder]
    · simp [folder] at nothing

theorem onWay (grows : d.Grows path d') (onWay : d'.OnWay path place) : d.OnWay path place := by
  rwa [OnWay, grows.keepsFolders.start_eq] at onWay

theorem trans {d'' : Disk} (first : d.Grows path d') (second : d'.Grows path d'') :
    d.Grows path d'' where
  here := second.here.trans first.here
  standing place := by
    rcases second.standing place with same | ⟨nothing, folder, onWay⟩
    · rw [same]
      exact first.standing place
    · rcases first.standing place with same | ⟨-, folder', -⟩
      · exact .inr ⟨same ▸ nothing, folder, first.onWay onWay⟩
      · simp [nothing] at folder'

theorem above (isAbove : Path.Above outer path) (grows : d.Grows outer d') : d.Grows path d' where
  here := grows.here
  standing place := (grows.standing place).imp_right
    fun ⟨nothing, folder, onWay⟩ => ⟨nothing, folder, onWay_above isAbove onWay⟩

theorem spares (grows : d.Grows path d') (other : String) : d.Spares d' other where
  keeps := grows.keepsFolders
  file content := by
    rcases grows.standing (d.placeOf other) with same | ⟨nothing, folder, -⟩
    · rw [same]
    · simp [nothing, folder]

theorem file?_eq (grows : d.Grows path d') (place : Place) : d'.file? place = d.file? place := by
  rw [Disk.file?_eq, Disk.file?_eq]
  rcases grows.standing place with same | ⟨nothing, folder, -⟩
  · rw [same]
  · rw [nothing, folder]

end Grows

theorem Makes.grows (makes : d.Makes path d') : d.Grows path d' where
  here := makes.becomes.here
  standing place := by
    by_cases same : place = d.placeOf path
    · subst same
      exact .inr ⟨makes.nothing, makes.becomes.there, d.onWay_placeOf path⟩
    · exact .inl (makes.becomes.elsewhere place same)

theorem names_of_dropWhile {names before : List String} {last : String}
    (split : names.reverse.dropWhile (· == "") = last :: before) :
    ∃ blanks, names = before.reverse ++ last :: blanks ∧ last ≠ "" ∧ ∀ b ∈ blanks, b = "" := by
  refine ⟨(names.reverse.takeWhile (· == "")).reverse, ?_, ?_, ?_⟩
  · have whole := List.takeWhile_append_dropWhile (p := (· == "")) (l := names.reverse)
    rw [split] at whole
    simpa using congrArg List.reverse whole.symm
  · have := List.head?_dropWhile_not (· == "") names.reverse
    simpa [split] using this
  · intro b hb
    have all := List.all_eq_true.mp (List.all_takeWhile (p := (· == "")) (l := names.reverse))
    simpa using all b (List.mem_reverse.mp hb)

theorem foldl_go_blanks {blanks : List String} (blank : ∀ b ∈ blanks, b = "") (place : Place) :
    blanks.foldl Place.go place = place := by
  induction blanks with
  | nil => rfl
  | cons b blanks ih =>
    obtain rfl := blank b (by simp)
    exact ih fun b h => blank b (by simp [h])

theorem stop?_blanks {blanks : List String} (blank : ∀ b ∈ blanks, b = "")
    (folder : d.standing place = .folder) : d.stop? place blanks = none := by
  induction blanks with
  | nil => rfl
  | cons b blanks ih =>
    obtain rfl := blank b (by simp)
    simpa [stop?, folder, maxName, Place.go] using ih fun b h => blank b (by simp [h])

theorem makeFolder_of_follow {before : List String} {last : String} {s : Spot}
    (checked : checkPath path = .ok ())
    (split : (Path.ofText path).names.reverse.dropWhile (· == "") = last :: before)
    (followed : (d.origin (.ofText path)).follow (before.reverse ++ [""]) = .ok s) :
    d.makeFolder path =
      if last = "." || last = ".." then .error .alreadyExists
      else if last.utf8ByteSize > maxName then .error .nameTooLong
      else if (s.enter last).node?.isSome then .error .alreadyExists
      else .ok (d.put (s.enter last) (.folder [])) := by
  unfold makeFolder
  simp only [checked, split, followed]
  rfl

theorem front_of_blanks {front blanks ns rest : List String} {last : String}
    (blank : ∀ b ∈ blanks, b = "") (split : front ++ last :: blanks = ns ++ rest)
    (some_ : ∃ name ∈ rest, name ≠ "") : ns <+: front := by
  rcases List.append_eq_append_iff.mp split with ⟨more, rfl, tail⟩ | ⟨more, whole, -⟩
  · rcases List.cons_eq_append_iff.mp tail with ⟨rfl, -⟩ | ⟨more', -, blanks_⟩
    · simp
    · obtain ⟨name, inRest, ne⟩ := some_
      exact absurd (blank name (by simp [blanks_, inRest])) ne
  · exact ⟨more, whole.symm⟩

theorem makes_put {s : Spot} {items : List (String × Node)} {front blanks : List String}
    {last : String} (checked : checkPath path = .ok ())
    (names : (Path.ofText path).names = front ++ last :: blanks) (blank : ∀ b ∈ blanks, b = "")
    (plain : last ≠ "" ∧ last ≠ "." ∧ last ≠ "..") (short : ¬ last.utf8ByteSize > maxName)
    (way : d.stop? (d.start (.ofText path)) (front ++ [""]) = none)
    (reached : s.Reached d.root) (place : s.place = front.foldl Place.go (d.start (.ofText path)))
    (node : s.node? = some (.folder items)) (absent : (s.enter last).node? = none) :
    d.Makes path (d.put (s.enter last) (.folder [])) := by
  obtain ⟨free, folder⟩ := folder_of_stop? (List.cons_ne_nil _ _) way
  have entered := reached.enter node last
  have step : (front.foldl Place.go (d.start (.ofText path))).go last = d.placeOf path := by
    rw [placeOf, names, List.foldl_append, List.foldl_cons, foldl_go_blanks blank]
  have placed : (s.enter last).place = d.placeOf path := by
    rw [Spot.place_enter node, place, ← step]
    simp [Place.go, plain]
  have nothing : d.standing (d.placeOf path) = .nothing := by
    rw [← placed, standing, ← entered.node?_eq, Standing.ofNode_eq_nothing, absent]
  have becomes := becomes_put entered (.inl rfl) (by rw [placed, nothing]; simp)
  rw [placed] at becomes
  have keeps := becomes.keepsFolders (.inr rfl)
  refine ⟨becomes, nothing, ?_, fun outer isAbove => ?_⟩
  · refine isFolder_iff_opens.mpr ⟨checked, ?_, keeps.placeOf_eq path ▸ becomes.there⟩
    rw [keeps.start_eq, names, stop?_append, keeps.stop? free, Option.none_or, stop?,
      keeps.folder _ folder]
    simp only [if_neg short]
    rw [step]
    exact stop?_blanks blank becomes.there
  · refine isFolder_above isAbove checked fun ns rest split some_ => ?_
    obtain ⟨more, whole⟩ := front_of_blanks blank (names.symm.trans split) some_
    rw [← whole, List.append_assoc] at way
    exact folder_of_stop? (by simp) way

theorem makeFolder_eq (d : Disk) (path : String) :
    (∃ failure, d.makeFolder path = .error failure) ∨
      ∃ d', d.makeFolder path = .ok d' ∧ d.Makes path d' := by
  cases checked : checkPath path with
  | error failure => exact .inl ⟨failure, by simp [makeFolder, checked, bind, Except.bind]⟩
  | ok _ =>
  rcases split : (Path.ofText path).names.reverse.dropWhile (· == "") with _ | ⟨last, before⟩
  · exact .inl ⟨.alreadyExists, by unfold makeFolder; simp only [checked, split]; rfl⟩
  obtain ⟨blanks, names, some_, blank⟩ := names_of_dropWhile split
  have some_' : before.reverse ++ [""] ≠ [] := by simp
  rcases d.follow_origin (.ofText path) some_' with
    ⟨failure, -, stuck⟩ | ⟨s, way, followed, reached, place⟩
  · exact .inl ⟨failure, by unfold makeFolder; simp only [checked, split, stuck]; rfl⟩
  rw [List.foldl_append] at place
  have place : s.place = before.reverse.foldl Place.go (d.start (.ofText path)) := place
  obtain ⟨items, node⟩ : ∃ items, s.node? = some (.folder items) := by
    have folder := (folder_of_stop? (List.cons_ne_nil _ _) way).2
    rw [← place, standing, ← reached.node?_eq] at folder
    exact Standing.ofNode_eq_folder.mp folder
  rw [makeFolder_of_follow checked split followed]
  by_cases dots : last = "." || last = ".."
  · exact .inl ⟨_, if_pos dots⟩
  by_cases long : last.utf8ByteSize > maxName
  · exact .inl ⟨_, by rw [if_neg dots, if_pos long]⟩
  by_cases there : (s.enter last).node?.isSome
  · exact .inl ⟨_, by rw [if_neg dots, if_neg long, if_pos there]⟩
  refine .inr ⟨_, by rw [if_neg dots, if_neg long, if_neg there], ?_⟩
  exact makes_put checked names blank ⟨some_, by simpa using dots⟩ long way reached place node
    (by simpa using there)

section join

variable {name : String} (no_slash : '/' ∉ name.toList)
include no_slash

theorem stop?_join (d : Disk) (folder : String) :
    (d.Opens folder ∧
        d.stop? (d.start (.ofText (Path.join folder name)))
            (Path.ofText (Path.join folder name)).names =
          if name.utf8ByteSize > maxName then some .nameTooLong else none) ∨
      ¬ d.Opens folder ∧
        d.stop? (d.start (.ofText (Path.join folder name)))
          (Path.ofText (Path.join folder name)).names ≠ none := by
  obtain ⟨names, spelt, joined⟩ := Path.ofText_join folder no_slash
  have start : d.start (.ofText (Path.join folder name)) = d.start (.ofText folder) := by
    simp [Disk.start, joined]
  have opens : d.Opens folder ↔ d.stop? (d.start (.ofText folder)) names = none ∧
      d.standing (names.foldl Place.go (d.start (.ofText folder))) = .folder := by
    rcases spelt with same | slash
    · rw [← same]
      exact ⟨fun h => ⟨h.free, h.folder⟩, fun h => ⟨h.1, h.2⟩⟩
    · have ends : d.placeOf folder = names.foldl Place.go (d.start (.ofText folder)) := by
        simp [placeOf, slash, Place.go]
      rw [← ends]
      constructor
      · exact fun h => ⟨(folder_of_stop? (List.cons_ne_nil _ _) (slash ▸ h.free)).1, h.folder⟩
      · refine fun h => ⟨?_, h.2⟩
        rw [slash, stop?_append, h.1, Option.none_or, ← ends]
        exact stop?_blanks (by simp) h.2
  rw [start, joined]
  by_cases open_ : d.Opens folder
  · obtain ⟨free, here⟩ := opens.mp open_
    refine .inl ⟨open_, ?_⟩
    simp only [stop?_append, free, Option.none_or, stop?, here]
  · exact .inr ⟨open_, fun free => open_ (opens.mpr (folder_of_stop? (List.cons_ne_nil _ _) free))⟩

theorem placeOf_join (d : Disk) (folder : String) (some_ : name ≠ "") (dot : name ≠ ".")
    (dots : name ≠ "..") :
    d.placeOf (Path.join folder name) = d.placeOf folder ++ [name] := by
  obtain ⟨names, spelt, joined⟩ := Path.ofText_join folder no_slash
  have folder_ : d.placeOf folder = names.foldl Place.go (d.start (.ofText folder)) := by
    rcases spelt with same | slash
    · rw [placeOf, same]
    · simp [placeOf, slash, Place.go]
  rw [folder_, placeOf, joined]
  simp [Place.go, some_, dot, dots, Disk.start]

theorem opens_of_join {folder : String} (free : d.block? (Path.join folder name) = none) :
    checkPath (Path.join folder name) = .ok () ∧ d.Opens folder := by
  unfold block? at free
  split at free
  · simp at free
  next checked =>
  rcases d.stop?_join no_slash folder with ⟨opens, -⟩ | ⟨-, stop⟩
  · exact ⟨checked, opens⟩
  · exact absurd free stop

theorem isFolder_of_join {folder : String} (free : d.block? (Path.join folder name) = none) :
    folder = "" ∨ d.isFolder folder = true := by
  by_cases empty : folder = ""
  · exact .inl empty
  obtain ⟨checked, opens⟩ := opens_of_join no_slash free
  refine .inr (isFolder_iff_opens.mpr ⟨checkPath_front ?_ empty checked, opens⟩)
  have front := Path.head?_of_no_slash no_slash
  unfold Path.join
  rw [if_neg front]
  split <;> simp [List.append_assoc]

theorem block?_join_eq {folder : String} (opens : d.Opens folder) (opens' : d'.Opens folder) :
    d'.block? (Path.join folder name) = d.block? (Path.join folder name) := by
  unfold block?
  cases checkPath (Path.join folder name) with
  | error failure => rfl
  | ok _ =>
    rcases d.stop?_join no_slash folder with ⟨-, stop⟩ | ⟨closed, -⟩
    · rcases d'.stop?_join no_slash folder with ⟨-, stop'⟩ | ⟨closed, -⟩
      · exact stop'.trans stop.symm
      · exact absurd opens' closed
    · exact absurd opens closed

end join

end Disk
end Storypath
