import Storypath.Disk.Failure
import Storypath.Disk.Node
import Storypath.Disk.Path

/-! A disk: a tree of folders and files in which paths are followed. -/
namespace Storypath

def Disk.maxName : Nat := 255

def Disk.maxPath : Nat := 4095

/-- Follows names from a spot. Each name is looked up in a folder; two dots lead back up. -/
def Spot.follow (s : Spot) : List String → Except FileFailure Spot
  | [] => .ok s
  | n :: ns =>
    match s.node? with
    | none => .error .notFound
    | some (.file _) => .error .notDirectory
    | some (.folder _) =>
      if n = "" || n = "." then s.follow ns
      else if n = ".." then s.up.follow ns
      else if n.utf8ByteSize > Disk.maxName then .error .nameTooLong
      else (s.enter n).follow ns

structure Disk where
  here : Place
  root : Node

namespace Disk

def file? (d : Disk) (place : Place) : Option ByteArray :=
  match d.root.at? place with
  | some (.file content) => some content
  | _ => none

def put (d : Disk) (s : Spot) (node : Node) : Disk := { d with root := s.put node }

def remove (d : Disk) (s : Spot) : Disk := { d with root := s.remove?.getD d.root }

def checkPath (path : String) : Except FileFailure Unit :=
  if path.toList.contains '\x00' then .error .nulInPath
  else if path = "" then .error .notFound
  else if path.utf8ByteSize > maxPath then .error .nameTooLong
  else .ok ()

def origin (d : Disk) (p : Path) : Spot :=
  if p.absolute then .root d.root else d.here.foldl Spot.enter (.root d.root)

def locate (d : Disk) (path : String) : Except FileFailure Spot := do
  checkPath path
  (d.origin (.ofText path)).follow (Path.ofText path).names

def find (d : Disk) (path : String) : Except FileFailure Node := do
  match (← d.locate path).node? with
  | some node => pure node
  | none => throw .notFound

def read (d : Disk) (path : String) : Except FileFailure ByteArray := do
  match ← d.find path with
  | .file content => pure content
  | .folder _ => throw .isDirectory

def isThere (d : Disk) (path : String) : Bool := (d.find path).toOption.isSome

def isFolder (d : Disk) (path : String) : Bool :=
  match d.find path with
  | .ok (.folder _) => true
  | _ => false

def write (d : Disk) (path : String) (content : ByteArray) : Except FileFailure Disk := do
  let spot ← d.locate path
  match spot.node? with
  | some (.folder _) => throw .isDirectory
  | _ => pure (d.put spot (.file content))

def makeFolder (d : Disk) (path : String) : Except FileFailure Disk := do
  checkPath path
  let p := Path.ofText path
  match p.names.reverse.dropWhile (· == "") with
  | [] => throw .alreadyExists
  | last :: before =>
    let folder ← (d.origin p).follow (before.reverse ++ [""])
    if last = "." || last = ".." then throw .alreadyExists
    else if last.utf8ByteSize > maxName then throw .nameTooLong
    else if (folder.enter last).node?.isSome then throw .alreadyExists
    else pure (d.put (folder.enter last) (.folder []))

end Disk
end Storypath
