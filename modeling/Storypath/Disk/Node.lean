/-! Trees of folders and files, and spots in them. A spot remembers the way back to the root, so
that the tree can be changed there. Main statement: what lies in a folder after something is put
there. -/
namespace Storypath

inductive Node where
  | file (content : ByteArray)
  | folder (items : List (String × Node))

abbrev Place := List String

namespace Node

def item? (node : Node) (name : String) : Option Node :=
  match node with
  | .file _ => none
  | .folder items => items.lookup name

def at? (node : Node) : Place → Option Node
  | [] => some node
  | name :: place =>
    match node.item? name with
    | none => none
    | some item => item.at? place

def without (node : Node) (name : String) : Node :=
  match node with
  | .file content => .file content
  | .folder items => .folder (items.filter fun i => i.1 != name)

def withItem (node : Node) (name : String) (item : Node) : Node :=
  match node with
  | .file content => .file content
  | .folder items => .folder ((name, item) :: items.filter fun i => i.1 != name)

mutual

def files : Node → List (Place × ByteArray)
  | .file content => [([], content)]
  | .folder items => filesIn items

def filesIn : List (String × Node) → List (Place × ByteArray)
  | [] => []
  | (name, node) :: rest => (files node).map (fun f => (name :: f.1, f.2)) ++ filesIn rest

end

theorem lookup_filter_ne (items : List (String × Node)) {name other : String}
    (h : other ≠ name) :
    (items.filter fun i => i.1 != name).lookup other = items.lookup other := by
  induction items with
  | nil => rfl
  | cons i items ih =>
    by_cases hi : i.1 = name
    · have hne : (other == i.1) = false := by simpa [hi] using h
      rw [List.filter_cons_of_neg (by simp [hi]), ih, List.lookup_cons, hne]
    · rw [List.filter_cons_of_pos (by simpa using hi), List.lookup_cons, List.lookup_cons, ih]

theorem item?_withItem (items : List (String × Node)) (name : String) (item : Node)
    (other : String) :
    ((folder items).withItem name item).item? other =
      if other = name then some item else items.lookup other := by
  by_cases h : other = name
  · simp [withItem, item?, h]
  · have hne : (other == name) = false := by simpa using h
    simp only [withItem, item?, List.lookup_cons, hne, lookup_filter_ne items h, if_neg h]

end Node

/-- A spot in a tree: what stands there, and the folders on the way back to the root, nearest
first, each with the name by which the way leads on from it. -/
structure Spot where
  node? : Option Node
  above : List (String × Node)

namespace Spot

def root (tree : Node) : Spot := ⟨some tree, []⟩

def place (s : Spot) : Place := s.above.reverse.map (·.1)

def enter (s : Spot) (name : String) : Spot :=
  match s.node? with
  | none => s
  | some folder => ⟨folder.item? name, (name, folder) :: s.above⟩

def up (s : Spot) : Spot :=
  match s.above with
  | [] => s
  | (_, folder) :: above => ⟨some folder, above⟩

def put (s : Spot) (node : Node) : Node :=
  s.above.foldl (fun item step => step.2.withItem step.1 item) node

def remove? (s : Spot) : Option Node :=
  match s.above with
  | [] => none
  | (name, folder) :: above => some (Spot.put ⟨none, above⟩ (folder.without name))

end Spot
end Storypath
