import Storypath.Disk.Basic
import Storypath.Proofs.Disk.PathText

/-! A disk by its places. Where a path leads is fixed by its names alone, and whether it can be
followed by the folders on its way. Main statement: what stands where after something is put. -/
namespace Storypath

inductive Standing where
  | nothing
  | file (content : ByteArray)
  | folder

def Standing.ofNode : Option Node → Standing
  | none => .nothing
  | some (.file content) => .file content
  | some (.folder _) => .folder

namespace Standing

theorem ofNode_eq_folder {node? : Option Node} :
    ofNode node? = .folder ↔ ∃ items, node? = some (.folder items) := by
  rcases node? with _ | content | items <;> simp [ofNode]

theorem ofNode_eq_nothing {node? : Option Node} : ofNode node? = .nothing ↔ node? = none := by
  rcases node? with _ | content | items <;> simp [ofNode]

end Standing

namespace Node

theorem at?_append (node : Node) (place more : Place) :
    node.at? (place ++ more) = (node.at? place).bind fun n => n.at? more := by
  induction place generalizing node with
  | nil => rfl
  | cons name place ih =>
    simp only [List.cons_append, at?]
    cases node.item? name with
    | none => rfl
    | some item => exact ih item

theorem at?_leaf {node : Node} (leaf : node = .folder [] ∨ ∃ content, node = .file content)
    (name : String) (more : Place) : node.at? (name :: more) = none := by
  rcases leaf with rfl | ⟨content, rfl⟩ <;> rfl

end Node

namespace Spot

/-- A spot that is reached in a tree from its root, each time out of a folder. -/
inductive Reached (tree : Node) : Spot → Prop
  | root : Reached tree (.root tree)
  | enter {s : Spot} {items : List (String × Node)} (reached : Reached tree s)
      (folder : s.node? = some (.folder items)) (name : String) : Reached tree (s.enter name)

variable {tree : Node} {s : Spot} {items : List (String × Node)}

theorem enter_of_folder (folder : s.node? = some (.folder items)) (name : String) :
    s.enter name = ⟨items.lookup name, (name, .folder items) :: s.above⟩ := by
  simp [enter, folder, Node.item?]

@[simp] theorem place_root (tree : Node) : (root tree).place = [] := rfl

theorem place_enter (folder : s.node? = some (.folder items)) (name : String) :
    (s.enter name).place = s.place ++ [name] := by
  simp [enter_of_folder folder, place]

theorem Reached.node?_eq (reached : Reached tree s) : s.node? = tree.at? s.place := by
  induction reached with
  | root => rfl
  | @enter s items _ folder name ih =>
    rw [place_enter folder, Node.at?_append, ← ih, folder, enter_of_folder folder,
      Option.bind_some, Node.at?, Node.item?]
    cases items.lookup name <;> rfl

theorem Reached.up (reached : Reached tree s) :
    Reached tree s.up ∧ s.up.place = s.place.dropLast := by
  cases reached with
  | root => exact ⟨.root, rfl⟩
  | @enter s items reached folder name =>
    have back : (s.enter name).up = s := by
      rw [enter_of_folder folder]
      simp only [Spot.up, ← folder]
    rw [back, place_enter folder, List.dropLast_concat]
    exact ⟨reached, rfl⟩

theorem Reached.at?_put (reached : Reached tree s) (node : Node) (more : Place) :
    (s.put node).at? (s.place ++ more) = node.at? more := by
  induction reached generalizing node more with
  | root => rfl
  | enter _ folder name ih =>
    rw [place_enter folder, List.append_assoc, enter_of_folder folder]
    refine (ih _ _).trans ?_
    simp [Node.at?, Node.item?_withItem]

theorem Reached.standing_put (reached : Reached tree s) (node : Node) {place : Place}
    (outside : ¬ s.place <+: place) :
    Standing.ofNode ((s.put node).at? place) = .ofNode (tree.at? place) := by
  induction reached generalizing node with
  | root => exact absurd List.nil_prefix outside
  | @enter s items reached folder name ih =>
    rw [enter_of_folder folder]
    by_cases inside : s.place <+: place
    · obtain ⟨more, rfl⟩ := inside
      refine (congrArg _ (reached.at?_put _ _)).trans ?_
      rw [Node.at?_append, ← reached.node?_eq, folder, Option.bind_some]
      cases more with
      | nil => rfl
      | cons other more =>
        have ne : other ≠ name := by
          rintro rfl
          refine outside ⟨more, ?_⟩
          rw [place_enter folder, List.append_assoc]
          rfl
        simp only [Node.at?, Node.item?_withItem, if_neg ne]
        rfl
    · exact ih _ inside

end Spot

def Place.go (place : Place) (name : String) : Place :=
  if name = "" || name = "." then place
  else if name = ".." then place.dropLast
  else place ++ [name]

namespace Disk

def standing (d : Disk) (place : Place) : Standing := .ofNode (d.root.at? place)

theorem file?_eq (d : Disk) (place : Place) :
    d.file? place = match d.standing place with
      | .file content => some content
      | _ => none := by
  unfold file? standing
  rcases d.root.at? place with _ | content | items <;> rfl

theorem file?_eq_some_iff {d : Disk} {place : Place} {content : ByteArray} :
    d.file? place = some content ↔ d.standing place = .file content := by
  rw [file?_eq]
  cases d.standing place <;> simp

def start (d : Disk) (p : Path) : Place := if p.absolute then [] else d.here

def placeOf (d : Disk) (path : String) : Place :=
  (Path.ofText path).names.foldl Place.go (d.start (.ofText path))

def stop? (d : Disk) (place : Place) : List String → Option FileFailure
  | [] => none
  | name :: names =>
    match d.standing place with
    | .nothing => some .notFound
    | .file _ => some .notDirectory
    | .folder =>
      if name.utf8ByteSize > maxName then some .nameTooLong else d.stop? (place.go name) names

def block? (d : Disk) (path : String) : Option FileFailure :=
  match checkPath path with
  | .error failure => some failure
  | .ok _ => d.stop? (d.start (.ofText path)) (Path.ofText path).names

/-- A disk and one that differs from it in what stands at one place. -/
structure Becomes (d d' : Disk) (place : Place) (standing : Standing) : Prop where
  here : d'.here = d.here
  there : d'.standing place = standing
  elsewhere : ∀ other, other ≠ place → d'.standing other = d.standing other

variable {d : Disk} {s : Spot}

theorem becomes_put (reached : s.Reached d.root) {node : Node}
    (leaf : node = .folder [] ∨ ∃ content, node = .file content)
    (free : d.standing s.place ≠ .folder) :
    d.Becomes (d.put s node) s.place (.ofNode (some node)) where
  here := rfl
  there := by
    have here := reached.at?_put node []
    rw [List.append_nil] at here
    exact congrArg _ here
  elsewhere other ne := by
    by_cases inside : s.place <+: other
    · obtain ⟨more, rfl⟩ := inside
      cases more with
      | nil => exact absurd (List.append_nil _) ne
      | cons name more =>
        have after := reached.at?_put node (name :: more)
        rw [Node.at?_leaf leaf] at after
        have before : d.root.at? (s.place ++ name :: more) = none := by
          rw [Node.at?_append]
          rcases h : d.root.at? s.place with _ | content | items
          · rfl
          · rfl
          · exact absurd (Standing.ofNode_eq_folder.mpr ⟨items, h⟩) free
        exact (congrArg _ after).trans (congrArg _ before).symm
    · exact reached.standing_put node inside

end Disk

namespace Spot

variable {d : Disk} {s : Spot}

/-- Names can be followed from a spot unless something stops them, and lead to their place. -/
theorem Reached.follow (reached : s.Reached d.root) (names : List String) :
    (∃ failure, d.stop? s.place names = some failure ∧ s.follow names = .error failure) ∨
      ∃ s', d.stop? s.place names = none ∧ s.follow names = .ok s' ∧ s'.Reached d.root ∧
        s'.place = names.foldl Place.go s.place := by
  induction names generalizing s with
  | nil => exact .inr ⟨s, rfl, rfl, reached, rfl⟩
  | cons name names ih =>
    simp only [Disk.stop?, Disk.standing, ← reached.node?_eq, Spot.follow, List.foldl_cons]
    rcases h : s.node? with _ | content | items
    · simp [Standing.ofNode]
    · simp [Standing.ofNode]
    by_cases same : name = "" || name = "."
    · have short : ¬ name.utf8ByteSize > Disk.maxName := by
        simp only [Bool.or_eq_true, decide_eq_true_eq] at same
        rcases same with rfl | rfl <;> decide
      simpa [Standing.ofNode, Place.go, same, short] using ih reached
    by_cases back : name = ".."
    · subst back
      have := ih reached.up.1
      rw [reached.up.2] at this
      exact this
    by_cases long : name.utf8ByteSize > Disk.maxName
    · simp [Standing.ofNode, same, back, long]
    · have := ih (reached.enter h name)
      rw [place_enter h] at this
      simpa [Standing.ofNode, Place.go, same, back, long] using this

theorem Reached.foldl_enter (reached : s.Reached d.root) (place : Place) :
    ((place.foldl Spot.enter s).Reached d.root ∧
        (place.foldl Spot.enter s).place = s.place ++ place) ∨
      (place.foldl Spot.enter s).node? = none ∧ d.standing (s.place ++ place) = .nothing := by
  have stays (s : Spot) (h : s.node? = none) (place : Place) :
      (place.foldl Spot.enter s).node? = none := by
    induction place generalizing s with
    | nil => exact h
    | cons name place ih => exact ih _ (by simp [Spot.enter, h])
  induction place generalizing s with
  | nil => exact .inl ⟨reached, (List.append_nil _).symm⟩
  | cons name place ih =>
    rcases h : s.node? with _ | content | items
    · refine .inr ⟨stays s h _, ?_⟩
      rw [Disk.standing, Node.at?_append, ← reached.node?_eq, h]
      rfl
    · refine .inr ⟨stays _ (by simp [Spot.enter, h, Node.item?]) place, ?_⟩
      rw [Disk.standing, Node.at?_append, ← reached.node?_eq, h]
      rfl
    · have := ih (reached.enter h name)
      rw [place_enter h, List.append_assoc] at this
      exact this

end Spot

namespace Disk

variable {d d' : Disk}

theorem follow_origin (d : Disk) (p : Path) {names : List String} (some_ : names ≠ []) :
    (∃ failure, d.stop? (d.start p) names = some failure ∧
        (d.origin p).follow names = .error failure) ∨
      ∃ s, d.stop? (d.start p) names = none ∧ (d.origin p).follow names = .ok s ∧
        s.Reached d.root ∧ s.place = names.foldl Place.go (d.start p) := by
  unfold origin start
  by_cases absolute : p.absolute
  · simpa [absolute] using Spot.Reached.root.follow names
  have top : (Spot.root d.root).Reached d.root := .root
  rcases top.foldl_enter d.here with ⟨reached, place⟩ | ⟨gone, nothing⟩
  · have := reached.follow names
    rw [place] at this
    simpa [absolute] using this
  · obtain ⟨name, names, rfl⟩ := List.exists_cons_of_ne_nil some_
    have nothing : d.standing d.here = .nothing := nothing
    exact .inl ⟨.notFound, by simp [absolute, stop?, nothing],
      by simp [absolute, Spot.follow, gone]⟩

theorem locate_eq (d : Disk) (path : String) :
    (∃ failure, d.block? path = some failure ∧ d.locate path = .error failure) ∨
      ∃ s, d.block? path = none ∧ d.locate path = .ok s ∧ s.Reached d.root ∧
        s.place = d.placeOf path := by
  unfold block? locate
  cases checkPath path with
  | error failure => exact .inl ⟨failure, rfl, rfl⟩
  | ok _ => exact d.follow_origin (.ofText path) (Path.names_ne_nil path)

theorem find_eq (d : Disk) (path : String) :
    (∃ failure, d.block? path = some failure ∧ d.find path = .error failure) ∨
      d.block? path = none ∧
        (d.standing (d.placeOf path) = .nothing ∧ d.find path = .error .notFound ∨
          (∃ content, d.standing (d.placeOf path) = .file content ∧
            d.find path = .ok (.file content)) ∨
          d.standing (d.placeOf path) = .folder ∧ ∃ items, d.find path = .ok (.folder items)) := by
  unfold find standing
  rcases d.locate_eq path with ⟨failure, block, located⟩ | ⟨s, block, located, reached, place⟩
  · exact .inl ⟨failure, block, by simp [located, bind, Except.bind]⟩
  · rw [← place, ← reached.node?_eq]
    refine .inr ⟨block, ?_⟩
    rcases h : s.node? with _ | content | items
    · exact .inl
        ⟨rfl, by simp [located, h, bind, Except.bind, throw, throwThe, MonadExceptOf.throw]⟩
    · exact .inr (.inl ⟨content, rfl, by simp [located, h, bind, Except.bind, pure, Except.pure]⟩)
    · exact .inr (.inr ⟨rfl, items, by simp [located, h, bind, Except.bind, pure, Except.pure]⟩)

theorem read_eq_ok_iff {d : Disk} {path : String} {content : ByteArray} :
    d.read path = .ok content ↔
      d.block? path = none ∧ d.standing (d.placeOf path) = .file content := by
  unfold read
  rcases d.find_eq path with ⟨failure, block, found⟩ |
    ⟨block, ⟨here, found⟩ | ⟨content, here, found⟩ | ⟨here, items, found⟩⟩ <;>
    simp [*, bind, Except.bind, pure, Except.pure, throw, throwThe,
      MonadExceptOf.throw]

theorem isThere_iff {d : Disk} {path : String} :
    d.isThere path = true ↔ d.block? path = none ∧ d.standing (d.placeOf path) ≠ .nothing := by
  unfold isThere
  rcases d.find_eq path with ⟨failure, block, found⟩ |
    ⟨block, ⟨here, found⟩ | ⟨content, here, found⟩ | ⟨here, items, found⟩⟩ <;>
    simp [found, block, here, Except.toOption]

theorem isFolder_iff {d : Disk} {path : String} :
    d.isFolder path = true ↔ d.block? path = none ∧ d.standing (d.placeOf path) = .folder := by
  unfold isFolder
  rcases d.find_eq path with ⟨failure, block, found⟩ |
    ⟨block, ⟨here, found⟩ | ⟨content, here, found⟩ | ⟨here, items, found⟩⟩ <;>
    simp [found, block, here]

theorem read_of_isFolder {d : Disk} {path : String} (folder : d.isFolder path = true) :
    d.read path = .error .isDirectory := by
  unfold isFolder at folder
  unfold read
  rcases found : d.find path with failure | (content | items) <;> simp [found] at folder
  rfl

/-- A write is refused, or it changes what stands at the place of its path. -/
theorem write_eq (d : Disk) (path : String) (content : ByteArray) :
    (∃ failure, d.write path content = .error failure ∧
        (d.block? path = some failure ∨
          d.block? path = none ∧ d.standing (d.placeOf path) = .folder ∧ failure = .isDirectory)) ∨
      ∃ d', d.write path content = .ok d' ∧ d.block? path = none ∧
        d.standing (d.placeOf path) ≠ .folder ∧ d.Becomes d' (d.placeOf path) (.file content) := by
  unfold write
  rcases d.locate_eq path with ⟨failure, block, located⟩ | ⟨s, block, located, reached, place⟩
  · exact .inl ⟨failure, by simp [located, bind, Except.bind], .inl block⟩
  · have here : d.standing (d.placeOf path) = .ofNode s.node? := by
      rw [← place, standing, ← reached.node?_eq]
    by_cases folder : d.standing (d.placeOf path) = .folder
    · obtain ⟨items, node⟩ := Standing.ofNode_eq_folder.mp (here ▸ folder)
      refine .inl ⟨.isDirectory, ?_, .inr ⟨block, folder, rfl⟩⟩
      simp [located, node, bind, Except.bind, throw, throwThe, MonadExceptOf.throw]
    · have becomes := becomes_put reached (.inr ⟨content, rfl⟩) (place ▸ folder)
      refine .inr ⟨d.put s (.file content), ?_, block, folder, place ▸ becomes⟩
      rcases node : s.node? with _ | old | items
      · simp [located, node, bind, Except.bind, pure, Except.pure]
      · simp [located, node, bind, Except.bind, pure, Except.pure]
      · exact absurd (here.trans (Standing.ofNode_eq_folder.mpr ⟨items, node⟩)) folder

end Disk
end Storypath
