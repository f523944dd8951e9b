/-! Paths as text. A path is read as the names between its slashes; empty names and single
dots mean nothing except at the front of a relative path. -/
namespace Storypath

structure Path where
  absolute : Bool
  names : List String
  deriving DecidableEq

namespace Path

def splitSlashes : List Char → List (List Char)
  | [] => [[]]
  | '/' :: cs => [] :: splitSlashes cs
  | c :: cs =>
    match splitSlashes cs with
    | [] => [[c]]
    | n :: ns => (c :: n) :: ns

def ofText (text : String) : Path :=
  match text.toList with
  | '/' :: cs => ⟨true, (splitSlashes cs).map String.ofList⟩
  | cs => ⟨false, (splitSlashes cs).map String.ofList⟩

def text (p : Path) : String := (if p.absolute then "/" else "") ++ "/".intercalate p.names

def join (folder path : String) : String :=
  if path.toList.head? = some '/' then path
  else if folder = "" || folder.toList.getLast? = some '/' then folder ++ path
  else folder ++ "/" ++ path

def counts (absolute : Bool) (name : String) (before : List String) : Bool :=
  name != "" && (name != "." || (!absolute && before.isEmpty))

/-- The ends of reversed names whose last name means something: those of the path itself and of
each folder above it, up to the root of an absolute path. -/
def chain (absolute : Bool) : List String → List (List String)
  | [] => if absolute then [[]] else []
  | n :: ns => if counts absolute n ns then (n :: ns) :: chain absolute ns else chain absolute ns

def textOfReversed (absolute : Bool) (names : List String) : String :=
  (Path.mk absolute names.reverse).text

def tidy (path : String) : String :=
  match chain (ofText path).absolute (ofText path).names.reverse with
  | ns :: _ => textOfReversed (ofText path).absolute ns
  | [] => ""

def above (p : Path) : List (List String) := (chain p.absolute p.names.reverse).drop 1

def parent (path : String) : String :=
  match (ofText path).above with
  | ns :: _ => textOfReversed (ofText path).absolute ns
  | [] => ""

def lastName? (path : String) : Option String :=
  match chain (ofText path).absolute (ofText path).names.reverse with
  | (n :: _) :: _ => some n
  | _ => none

end Path
end Storypath
