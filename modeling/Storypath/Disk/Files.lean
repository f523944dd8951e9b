import Storypath.Disk.Basic

/-! Reading and writing files, whatever holds them. The rest of the library asks for files
through this interface; a disk held in a state is one that answers. -/
namespace Storypath

class Files (m : Type → Type) where
  read : String → m (Except FileFailure ByteArray)
  isThere : String → m Bool
  isFolder : String → m Bool
  makeFolder : String → m (Except FileFailure Unit)
  write : String → ByteArray → m (Except FileFailure Unit)

def Disk.change (d : Disk) : Except FileFailure Disk → Except FileFailure Unit × Disk
  | .ok d => (.ok (), d)
  | .error e => (.error e, d)

instance : Files (StateM Disk) where
  read path := do return (← get).read path
  isThere path := do return (← get).isThere path
  isFolder path := do return (← get).isFolder path
  makeFolder path := modifyGet fun d => d.change (d.makeFolder path)
  write path content := modifyGet fun d => d.change (d.write path content)

variable {m : Type → Type} [Monad m] [Files m]

def makeFolderOnce (path : String) : m (Except FileFailure Unit) := do
  match ← Files.makeFolder path with
  | .ok _ => return .ok ()
  | .error e => if ← Files.isFolder path then return .ok () else return .error e

/-- Makes a folder, and before it those of the folders above it that it lacks. What was made
stays, even if a later folder cannot be made. -/
def makeChain (absolute : Bool) (path : String) :
    List (List String) → m (Except FileFailure Unit)
  | [] => do
    match ← makeFolderOnce path with
    | .error .notFound => makeFolderOnce path
    | result => return result
  | names :: above => do
    match ← makeFolderOnce path with
    | .error .notFound =>
      match ← makeChain absolute (Path.textOfReversed absolute names) above with
      | .ok _ => makeFolderOnce path
      | .error e => return .error e
    | result => return result

def makeFolders (path : String) : m (Except FileFailure Unit) :=
  if path = "" then return .ok ()
  else makeChain (Path.ofText path).absolute path (Path.ofText path).above

def readText (path : String) : m (Except FileFailure String) := do
  match ← Files.read path with
  | .error e => return .error e
  | .ok content =>
    match String.fromUTF8? content with
    | some text => return .ok text
    | none => return .error .notText

end Storypath
