import Storypath.Delivery.Duration
import Storypath.Disk.Failure
import Storypath.Script.Fault
import Storypath.Text.Quoted

/-! Everything that can go wrong while a story is read or played, with the code and the text
that say so. -/
namespace Storypath

inductive Fault where
  | script (fault : ScriptFault)
  | source (path : String) (failure : FileFailure)
  | duration (fault : DurationFault)
  | user (user : String)
  | stateRead (failure : FileFailure)
  | stateWrite (failure : FileFailure)
  | stateInvalid
  | stateSchema (found : String)
  | output
  | refused (code message : String)
  deriving DecidableEq

namespace Fault

def code : Fault → String
  | .script fault => fault.code
  | .source _ .notFound => "SOURCE_NOT_FOUND"
  | .source _ _ => "SOURCE_READ"
  | .duration _ => DurationFault.code
  | .user _ => "CLI_USER_INVALID"
  | .stateRead _ => "CLI_STATE_READ"
  | .stateWrite _ => "CLI_STATE_WRITE"
  | .stateInvalid => "CLI_STATE_INVALID"
  | .stateSchema _ => "CLI_STATE_SCHEMA"
  | .output => "CLI_IO"
  | .refused code _ => code

def message : Fault → String
  | .script fault => fault.message
  | .source path failure => s!"Failed to read script {path}: {failure.message}"
  | .duration fault => fault.message
  | .user id => s!"User id must be non-empty [A-Za-z0-9_-]: {Text.quoted id}"
  | .stateRead failure | .stateWrite failure => failure.message
  | .stateInvalid => "user state is not valid JSON of the expected form"
  | .stateSchema found => s!"Unsupported user state schema: {found}"
  | .output => "output could not be written"
  | .refused _ message => message

def place? : Fault → Option Location
  | .script fault => fault.place?
  | _ => none

def display (f : Fault) : String :=
  f.code ++ ": " ++ f.message ++
    match f.place? with
    | some l => s!" (line {l.line}, column {l.column})"
    | none => ""

end Fault
end Storypath
