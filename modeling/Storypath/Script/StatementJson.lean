import Storypath.Json.Record
import Storypath.Script.Statement

/-! The JSON form of statements and of what they consist of. -/
namespace Storypath

open Json (Value)

namespace Location

def toJson (l : Location) : Value :=
  .ofMembers [("line", .ofNat l.line), ("column", .ofNat l.column)]

def ofJson? (v : Value) : Option Location :=
  match v.fields? ["line", "column"] with
  | some [some line, some column] => do pure ⟨← line.nat?, ← column.nat?⟩
  | _ => none

end Location

namespace StatementKind

def name : StatementKind → String
  | .plainText => "plainText"
  | .choicePrompt => "choicePrompt"
  | .pauseDirective => "pauseDirective"

def ofName? (name : String) : Option StatementKind :=
  if name = "plainText" then some .plainText
  else if name = "choicePrompt" then some .choicePrompt
  else if name = "pauseDirective" then some .pauseDirective
  else none

def toJson (k : StatementKind) : Value := .ofString k.name

def ofJson? : Value → Option StatementKind
  | .string (some name) => ofName? name
  | .object [(some name, .null)] => ofName? name
  | _ => none

end StatementKind

namespace Branch

def toJson (b : Branch) : Value :=
  .ofMembers [("targetLabel", .ofString b.targetLabel), ("buttonText", .ofString b.buttonText)]

def ofJson? (v : Value) : Option Branch :=
  match v.fields? ["targetLabel", "buttonText"] with
  | some [some target, some text] => do pure ⟨← target.text?, ← text.text?⟩
  | _ => none

end Branch

namespace Statement

def toJson : Statement → Value
  | .text t => .ofMembers [("kind", .ofString "text"), ("text", .ofString t)]
  | .choice prompt branches =>
    .ofMembers [("kind", .ofString "choice"), ("prompt", .ofString prompt),
      ("branches", .array (branches.map Branch.toJson))]
  | .pause duration =>
    .ofMembers [("kind", .ofString "pause"), ("duration", .ofString duration)]

def ofVariant? (kind : String) (rest : Value) : Option Statement :=
  if kind = "text" then
    match rest.fields? ["text"] with
    | some [some t] => t.text?.map .text
    | _ => none
  else if kind = "choice" then
    match rest.fields? ["prompt", "branches"] with
    | some [some prompt, some branches] => do
      pure (.choice (← prompt.text?) (← branches.list? Branch.ofJson?))
    | _ => none
  else if kind = "pause" then
    match rest.fields? ["duration"] with
    | some [some duration] => duration.text?.map .pause
    | _ => none
  else none

def ofJson? (v : Value) : Option Statement :=
  (v.variant? Value.maxNesting "kind").bind fun (kind, rest) => ofVariant? kind rest

end Statement
end Storypath
