import Storypath.Disk.Files
import Storypath.Fault
import Storypath.Json.Record

/-! What is kept of a reader between two events: the choices that may be tapped. Each reader
has a file of their own, named by their user id. -/
namespace Storypath

open Json (Value)

structure ReaderState where
  schemaVersion : String
  userId : String
  tappable : List String
  deriving DecidableEq

namespace ReaderState

def schema : String := "user-state.v1"

def empty (user : String) : ReaderState := ⟨schema, user, []⟩

def toJson (s : ReaderState) : Value :=
  .ofMembers [("schemaVersion", .ofString s.schemaVersion), ("userId", .ofString s.userId),
    ("tappable", .array (s.tappable.map .ofString))]

def ofJson? (v : Value) : Option ReaderState :=
  match v.fields? ["schemaVersion", "userId", "tappable"] with
  | some [some schema, some user, some tappable] => do
    pure ⟨← schema.text?, ← user.text?, ← tappable.list? Value.text?⟩
  | _ => none

/-- A user id is one or more ASCII letters, digits, hyphens and underscores, so that it names
a file in the folder of states and nothing else. -/
def isUserId (user : String) : Bool :=
  user != "" && user.toList.all fun c => c.isAlphanum || c == '-' || c == '_'

def path (folder user : String) : Except Fault String :=
  if isUserId user then .ok (Path.join folder (user ++ ".json")) else .error (.user user)

def ofText (text : String) : Except Fault ReaderState :=
  match (Value.parse? text).bind ofJson? with
  | none => .error .stateInvalid
  | some s => if s.schemaVersion = schema then .ok s else .error (.stateSchema s.schemaVersion)

variable {m : Type → Type} [Monad m] [Files m]

def load (folder user : String) : m (Except Fault ReaderState) := do
  match path folder user with
  | .error fault => return .error fault
  | .ok path =>
    if ← Files.isThere path then
      match ← readText path with
      | .error failure => return .error (.stateRead failure)
      | .ok text => return ofText text
    else return .ok (.empty user)

def save (folder : String) (s : ReaderState) : m (Except Fault Unit) := do
  match path folder s.userId with
  | .error fault => return .error fault
  | .ok path =>
    match ← makeFolders folder with
    | .error failure => return .error (.stateWrite failure)
    | .ok _ => return (← Files.write path s.toJson.render.toUTF8).mapError .stateWrite

end ReaderState
end Storypath
