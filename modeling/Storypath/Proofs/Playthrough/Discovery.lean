import Mathlib
import Storypath.Playthrough.Discover
import Storypath.Proofs.Disk.Components
import Storypath.Proofs.Disk.Places
import Storypath.Proofs.Text.ByteOrder

/-! What is found below a folder: every folder in which a case file lies, once, and in the order
of names. The order of ways down a tree is not that of the paths they are spelt by, as a slash is
a character among others. -/
namespace Storypath

def Node.Proper (tree : Node) : Prop :=
  ∀ place items, tree.at? place = some (.folder items) →
    (items.map (·.1)).Nodup ∧ ∀ name ∈ items.map (·.1), Path.Names name

namespace Node

variable {items : List (String × Node)} {name : String} {node : Node}

theorem lookup_eq_some_iff_mem (names : (items.map (·.1)).Nodup) :
    items.lookup name = some node ↔ (name, node) ∈ items := by
  induction items with
  | nil => simp
  | cons item items ih =>
    obtain ⟨key, value⟩ := item
    obtain ⟨fresh, names⟩ := List.nodup_cons.mp names
    rw [List.lookup_cons, List.mem_cons, Prod.mk.injEq]
    by_cases same : name = key
    · subst same
      have other : (name, node) ∉ items := fun h => fresh (List.mem_map.mpr ⟨_, h, rfl⟩)
      simp [other, eq_comm]
    · have ne : (name == key) = false := by simpa using same
      simp [same, ne, ih names]

theorem at?_cons_iff (names : (items.map (·.1)).Nodup) {place : Place} :
    (folder items).at? (name :: place) = some node ↔
      ∃ item, (name, item) ∈ items ∧ item.at? place = some node := by
  rw [at?, item?]
  rcases found : items.lookup name with _ | item
  · have none (item : Node) : (name, item) ∉ items := fun mem => by
      simp [(lookup_eq_some_iff_mem names).mpr mem] at found
    simp [none]
  · have mem := (lookup_eq_some_iff_mem names).mp found
    constructor
    · exact fun there => ⟨item, mem, there⟩
    · rintro ⟨other, mem', there⟩
      obtain rfl : item = other := Option.some.inj
        (found.symm.trans ((lookup_eq_some_iff_mem names).mpr mem'))
      exact there

theorem folder_of_at?_concat {tree : Node} {place : Place}
    (there : tree.at? (place ++ [name]) = some node) :
    ∃ items, tree.at? place = some (.folder items) := by
  rw [at?_append] at there
  rcases above : tree.at? place with _ | (content | items)
  · simp [above] at there
  · simp [above, at?, item?] at there
  · exact ⟨items, rfl⟩

theorem Proper.names (proper : (folder items).Proper) : (items.map (·.1)).Nodup :=
  (proper [] items rfl).1

theorem Proper.at? {tree : Node} (proper : tree.Proper) {place : Place}
    (there : tree.at? place = some node) : node.Proper := fun more items folder =>
  proper (place ++ more) items (by rw [at?_append, there, Option.bind_some, folder])

theorem Proper.item (proper : (folder items).Proper) (mem : (name, node) ∈ items) :
    node.Proper := by
  have there : (folder items).at? [name] = some node :=
    (at?_cons_iff proper.names).mpr ⟨node, mem, rfl⟩
  exact proper.at? there

theorem proper_file (content : ByteArray) : (file content).Proper := fun place items there => by
  cases place <;> simp [Node.at?, item?] at there

theorem proper_folder_iff : (folder items).Proper ↔
    (items.map (·.1)).Nodup ∧ (∀ name ∈ items.map (·.1), Path.Names name) ∧
      ∀ item ∈ items, item.2.Proper := by
  refine ⟨fun proper => ⟨proper.names, (proper [] items rfl).2, fun _ => proper.item⟩, ?_⟩
  rintro ⟨nodup, names, below⟩ place inside there
  rcases place with _ | ⟨name, place⟩
  · obtain rfl : items = inside := by simpa [Node.at?] using there
    exact ⟨nodup, names⟩
  · obtain ⟨item, mem, there⟩ := (at?_cons_iff nodup).mp there
    exact below _ mem place inside there

theorem Proper.place {tree : Node} (proper : tree.Proper) {place : Place}
    (there : tree.at? place = some node) : ∀ name ∈ place, Path.Names name := by
  induction place generalizing tree with
  | nil => simp
  | cons first place ih =>
    rcases tree with content | items
    · simp [Node.at?, item?] at there
    obtain ⟨item, mem, there⟩ := (at?_cons_iff proper.names).mp there
    refine List.forall_mem_cons.mpr ⟨(proper [] items rfl).2 first ?_, ih (proper.item mem) there⟩
    exact List.mem_map_of_mem mem

end Node

namespace Playthrough

variable {items : List (String × Node)} {node : Node} {way : Place}

theorem mem_caseWaysIn_iff :
    way ∈ caseWaysIn items ↔
      ∃ item ∈ items, ∃ rest ∈ caseWays item.2, way = item.1 :: rest := by
  induction items with
  | nil => simp [caseWaysIn]
  | cons item items ih => simp [caseWaysIn, ih, eq_comm]

theorem holdsCase_iff :
    holdsCase node = true ↔ ∃ content, node.at? [caseFileName] = some (.file content) := by
  unfold holdsCase
  rw [Node.at?]
  rcases node.item? caseFileName with _ | (content | items) <;> simp [Node.at?]

/-- The ways down a tree lead to every folder in which a case file lies, and to no other. -/
theorem mem_caseWays_iff (proper : node.Proper) :
    way ∈ caseWays node ↔ ∃ content, node.at? (way ++ [caseFileName]) = some (.file content) := by
  induction way generalizing node with
  | nil =>
    rw [List.nil_append, ← holdsCase_iff]
    rcases node with content | items
    · simp [caseWays, holdsCase, Node.item?]
    · have below : [] ∉ caseWaysIn items := by simp [mem_caseWaysIn_iff]
      by_cases here : holdsCase (.folder items) <;> simp [caseWays, here, below]
  | cons name way ih =>
    rcases node with content | items
    · simp [caseWays, Node.at?, Node.item?]
    · have below : name :: way ∈ caseWays (.folder items) ↔ name :: way ∈ caseWaysIn items := by
        by_cases here : holdsCase (.folder items) <;> simp [caseWays, here]
      simp only [below, mem_caseWaysIn_iff, List.cons_append, Node.at?_cons_iff proper.names]
      constructor
      · rintro ⟨⟨_, item⟩, mem, _, found, same⟩
        obtain ⟨rfl, rfl⟩ := List.cons_eq_cons.mp same
        obtain ⟨content, there⟩ := (ih (proper.item mem)).mp found
        exact ⟨content, item, mem, there⟩
      · rintro ⟨content, item, mem, there⟩
        exact ⟨(name, item), mem, way, (ih (proper.item mem)).mpr ⟨content, there⟩, rfl⟩

theorem folder_of_mem_caseWays (proper : node.Proper) (mem : way ∈ caseWays node) :
    ∃ items, node.at? way = some (.folder items) := by
  obtain ⟨content, file⟩ := (mem_caseWays_iff proper).mp mem
  exact Node.folder_of_at?_concat file

mutual

theorem nodup_caseWays : ∀ {node : Node}, node.Proper → (caseWays node).Nodup
  | .file _, _ => List.nodup_nil
  | .folder items, proper => by
    have below := nodup_caseWaysIn proper.names fun item mem => proper.item mem
    rw [caseWays]
    split
    · exact List.nodup_cons.mpr ⟨by simp [mem_caseWaysIn_iff], below⟩
    · exact below

theorem nodup_caseWaysIn : ∀ {items : List (String × Node)}, (items.map (·.1)).Nodup →
    (∀ item ∈ items, item.2.Proper) → (caseWaysIn items).Nodup
  | [], _, _ => List.nodup_nil
  | (name, node) :: items, names, proper => by
    obtain ⟨fresh, names⟩ := List.nodup_cons.mp names
    obtain ⟨here, rest⟩ := List.forall_mem_cons.mp proper
    rw [caseWaysIn]
    refine ((nodup_caseWays here).map List.cons_injective).append (nodup_caseWaysIn names rest) ?_
    rintro way first later
    obtain ⟨_, -, rfl⟩ := List.mem_map.mp first
    obtain ⟨item, mem, _, -, same⟩ := mem_caseWaysIn_iff.mp later
    exact fresh (List.mem_map.mpr ⟨item, mem, (List.cons_eq_cons.mp same).1.symm⟩)

end

theorem wayBefore_iff {as bs : Place} :
    wayBefore as bs = true ↔ as.map Text.bytes ≤ bs.map Text.bytes := by
  fun_induction wayBefore as bs with
  | case1 bs => simp
  | case2 a as => simp
  | case3 as b bs ih => simp [ih, List.cons_le_cons_iff]
  | case4 a as b bs ne =>
    have other : Text.bytes a ≠ Text.bytes b := fun same => ne (Text.bytes_injective same)
    rw [nameBefore, decide_eq_true_eq, Text.lt_iff_bytes_lt, List.map_cons, List.map_cons,
      List.cons_le_cons_iff]
    simp [other]

theorem pairwise_mergeSort_wayBefore {ways : List Place} (nodup : ways.Nodup) :
    (ways.mergeSort wayBefore).Pairwise fun as bs =>
      as.map Text.bytes < bs.map Text.bytes := by
  have trans (as bs cs : Place) (first : wayBefore as bs = true) (then_ : wayBefore bs cs = true) :
      wayBefore as cs = true :=
    wayBefore_iff.mpr (List.le_trans (wayBefore_iff.mp first) (wayBefore_iff.mp then_))
  have total (as bs : Place) : (wayBefore as bs || wayBefore bs as) = true := by
    rw [Bool.or_eq_true, wayBefore_iff, wayBefore_iff]
    exact List.le_total _ _
  have sorted := List.pairwise_mergeSort trans total ways
  have distinct := (List.mergeSort_perm ways wayBefore).nodup_iff.mpr nodup
  refine (sorted.and distinct).imp fun {as bs} both => ?_
  rcases List.le_iff_lt_or_eq.mp (wayBefore_iff.mp both.1) with less | same
  · exact less
  · exact absurd (Text.bytes_injective.list_map same) both.2

/-- How the folder some way down from a root is spelt: the root joined with the way. The root
itself is spelt without meaningless names at its end. -/
def joined (root : String) (way : Place) : String :=
  if way = [] then Path.tidy root else way.foldl Path.join root

theorem spell_eq (root : String) (proper : ∀ name ∈ way, Path.Names name) :
    spell root way = joined root way := by
  have caseFile : Path.Names caseFileName := by decide
  rw [spell, Path.parent_join _ caseFile, pathDown, joined]
  rcases way.eq_nil_or_concat' with rfl | ⟨above, last, rfl⟩
  · rfl
  · have last_ : Path.Names last := proper last (by simp)
    rw [if_neg (by simp), if_neg (by simp), Path.join_intercalate _ (by simp) proper,
      List.foldl_concat, Path.tidy_join _ last_]

theorem components_joined (root : String) (proper : ∀ name ∈ way, Path.Names name) :
    (Path.ofText (joined root way)).components = (Path.ofText root).components ++ way := by
  rw [joined]
  split
  · next empty => rw [Path.components_tidy, empty, List.append_nil]
  · exact Path.components_foldl_join root proper

end Playthrough

namespace Disk

theorem at?_of_find {d : Disk} {path : String} {node : Node} (found : d.find path = .ok node) :
    d.root.at? (d.placeOf path) = some node := by
  unfold find at found
  rcases d.locate_eq path with ⟨failure, -, located⟩ | ⟨s, -, located, reached, place⟩
  · simp [located, bind, Except.bind] at found
  · rw [← place, ← reached.node?_eq]
    rcases h : s.node? with _ | there
    · simp [located, h, bind, Except.bind, throw, throwThe, MonadExceptOf.throw] at found
    · simpa [located, h, bind, Except.bind, pure, Except.pure] using found

end Disk

namespace Playthrough

variable {d : Disk} {root : String} {node : Node} {way : Place}

def IsCaseFolder (d : Disk) (root : String) (way : Place) : Prop :=
  ∃ content, d.file? (d.placeOf root ++ way ++ [caseFileName]) = some content

/-- No folder at or below a root is left out for the length of its path. -/
def Visited (d : Disk) (root : String) : Prop :=
  ∀ way items, d.root.at? (d.placeOf root ++ way) = some (.folder items) → canOpen root way = true

theorem isCaseFolder_iff (there : d.root.at? (d.placeOf root) = some node) :
    IsCaseFolder d root way ↔
      ∃ content, node.at? (way ++ [caseFileName]) = some (.file content) := by
  rw [IsCaseFolder, List.append_assoc]
  unfold Disk.file?
  rw [Node.at?_append, there, Option.bind_some]
  rcases node.at? (way ++ [caseFileName]) with _ | (content | items) <;> simp

/-- Below a folder, every folder that holds a case file is found, once, and no other. Each is
spelt as the root joined with the way down to it, and they are in the order of the bytes of their
names. -/
theorem discover_caseFolders (proper : d.root.Proper) (folder : d.isFolder root = true)
    (visited : Visited d root) :
    ∃ ways : List Place, ways.Nodup ∧ (∀ way, way ∈ ways ↔ IsCaseFolder d root way) ∧
      discover d root = ways.map (joined root) ∧
      (discover d root).Pairwise fun a b =>
        (Path.ofText a).components.map Text.bytes < (Path.ofText b).components.map Text.bytes := by
  obtain ⟨items, found⟩ : ∃ items, d.find root = .ok (.folder items) := by
    unfold Disk.isFolder at folder
    split at folder
    · exact ⟨_, ‹_›⟩
    · simp at folder
  have there := Disk.at?_of_find found
  have below : (Node.folder items).Proper := proper.at? there
  have open_ : (caseWays (.folder items)).filter (canOpen root) = caseWays (.folder items) := by
    refine List.filter_eq_self.mpr fun way found => ?_
    obtain ⟨inside, here⟩ := folder_of_mem_caseWays below found
    exact visited way inside (by rw [Node.at?_append, there, Option.bind_some, here])
  have perm := List.mergeSort_perm (caseWays (.folder items)) wayBefore
  set ways := (caseWays (.folder items)).mergeSort wayBefore with ways_eq
  have mem (way : Place) : way ∈ ways ↔ IsCaseFolder d root way := by
    rw [perm.mem_iff, mem_caseWays_iff below, isCaseFolder_iff there]
  have names (way : Place) (h : way ∈ ways) : ∀ name ∈ way, Path.Names name := by
    obtain ⟨inside, here⟩ := folder_of_mem_caseWays below (perm.mem_iff.mp h)
    exact below.place here
  have listed : discover d root = ways.map (joined root) := by
    rw [discover, found]
    simp only [open_, ← ways_eq]
    exact List.map_congr_left fun way h => spell_eq root (names way h)
  refine ⟨ways, perm.nodup_iff.mpr (nodup_caseWays below), mem, listed, ?_⟩
  rw [listed, List.pairwise_map]
  refine (pairwise_mergeSort_wayBefore (nodup_caseWays below)).imp_of_mem
    fun {as bs} first then_ less => ?_
  rw [components_joined root (names as first), components_joined root (names bs then_),
    List.map_append, List.map_append]
  exact List.append_left_lt less

def lone : Node := .folder [(caseFileName, .file .empty)]

def namesakeTree : Node := .folder [("cases", .folder [(caseFileName, lone), ("a", lone)])]

theorem discover_caseFolders_namesakeTree :
    Node.Proper namesakeTree ∧ Disk.isFolder ⟨[], namesakeTree⟩ "cases" = true ∧
      Visited ⟨[], namesakeTree⟩ "cases" ∧
      ∃ ways : List Place, ways.Nodup ∧
        (∀ way, way ∈ ways ↔ IsCaseFolder ⟨[], namesakeTree⟩ "cases" way) ∧
        discover ⟨[], namesakeTree⟩ "cases" = ways.map (joined "cases") ∧
        (discover ⟨[], namesakeTree⟩ "cases").Pairwise fun a b =>
          (Path.ofText a).components.map Text.bytes <
            (Path.ofText b).components.map Text.bytes := by
  have ne : caseFileName ≠ "a" := by decide
  have proper : Node.Proper namesakeTree := by
    have names : Path.Names "cases" ∧ Path.Names "a" ∧ Path.Names caseFileName := by decide
    simp [namesakeTree, lone, Node.proper_folder_iff, Node.proper_file, names, ne]
  have folder : Disk.isFolder ⟨[], namesakeTree⟩ "cases" = true := by decide
  have visited : Visited ⟨[], namesakeTree⟩ "cases" := by
    have start : Disk.placeOf ⟨[], namesakeTree⟩ "cases" = ["cases"] := by decide
    rintro (_ | ⟨name, way⟩) items there
    · decide
    have inside : (Node.folder [(caseFileName, lone), ("a", lone)]).at? (name :: way) =
        some (.folder items) := by
      rw [start] at there
      exact there
    obtain ⟨item, mem, there⟩ := (Node.at?_cons_iff (by simp [ne])).mp inside
    obtain ⟨name_, rfl⟩ : (name = caseFileName ∨ name = "a") ∧ item = lone := by
      simp only [List.mem_cons, Prod.mk.injEq, List.not_mem_nil, or_false] at mem
      tauto
    rcases way with _ | ⟨next, way⟩
    · rcases name_ with rfl | rfl <;> decide
    · obtain ⟨file, mem, there⟩ := (Node.at?_cons_iff (by simp)).mp there
      obtain ⟨-, rfl⟩ : next = caseFileName ∧ file = .file .empty := by simpa using mem
      cases way <;> simp [Node.at?, Node.item?] at there
  exact ⟨proper, folder, visited, discover_caseFolders proper folder visited⟩

end Playthrough
end Storypath
