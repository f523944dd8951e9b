import Storypath.Disk.Basic

/-! Finding recorded cases: the folders of a tree in which there is a case file. -/
namespace Storypath.Playthrough

def caseFileName : String := "testcase.json"

def nameBefore (a b : String) : Bool := decide (a < b)

def wayBefore : Place → Place → Bool
  | [], _ => true
  | _ :: _, [] => false
  | a :: as, b :: bs => if a = b then wayBefore as bs else nameBefore a b

def holdsCase (folder : Node) : Bool :=
  match folder.item? caseFileName with
  | some (.file _) => true
  | _ => false

mutual

def caseWays : Node → List Place
  | .file _ => []
  | .folder items =>
    if holdsCase (.folder items) then [] :: caseWaysIn items else caseWaysIn items

def caseWaysIn : List (String × Node) → List Place
  | [] => []
  | (name, node) :: rest => (caseWays node).map (name :: ·) ++ caseWaysIn rest

end

def pathDown (root : String) (way : Place) : String :=
  if way.isEmpty then root else Path.join root ("/".intercalate way)

def canOpen (root : String) (way : Place) : Bool :=
  (pathDown root way).utf8ByteSize ≤ Disk.maxPath

def spell (root : String) (way : Place) : String :=
  Path.parent (Path.join (pathDown root way) caseFileName)

/-- The folders at or below a root that can be opened and hold a case file, in order. A root that
is itself a case file stands for the folder in which it lies. -/
def discover (d : Disk) (root : String) : List String :=
  match d.find root with
  | .error _ => []
  | .ok (.file _) => if Path.lastName? root = some caseFileName then [Path.parent root] else []
  | .ok (.folder items) =>
    (((caseWays (.folder items)).filter (canOpen root)).mergeSort wayBefore).map (spell root)

end Storypath.Playthrough
