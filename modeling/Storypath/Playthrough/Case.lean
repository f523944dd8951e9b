import Storypath.Json.Record
import Storypath.Script.Statement

/-! Recorded playthroughs: the choices taken and what the story is expected to show. -/
namespace Storypath

open Json (Value)

structure Action where
  target : String
  deriving DecidableEq

structure ChoiceEntry where
  target : String
  text : String
  deriving DecidableEq

inductive Observation where
  | text (text : String)
  | choices (prompt : String) (choices : List ChoiceEntry)
  | pause (duration : String)
  | ending
  deriving DecidableEq

structure Case where
  schemaVersion : String
  script : String
  startLabel : String
  strict : Bool
  actions : List Action
  expectedEvents : List Observation
  deriving DecidableEq

namespace Action

def toJson (a : Action) : Value :=
  .ofMembers [("kind", .ofString "choose"), ("target", .ofString a.target)]

def ofVariant? (kind : String) (rest : Value) : Option Action :=
  if kind = "choose" then
    match rest.fields? ["target"] with
    | some [some target] => target.text?.map Action.mk
    | _ => none
  else none

def ofJson? (room : Nat) (v : Value) : Option Action :=
  (v.variant? room "kind").bind fun (kind, rest) => ofVariant? kind rest

end Action

namespace ChoiceEntry

def toJson (e : ChoiceEntry) : Value :=
  .ofMembers [("target", .ofString e.target), ("text", .ofString e.text)]

def ofJson? (v : Value) : Option ChoiceEntry :=
  match v.fields? ["target", "text"] with
  | some [some target, some text] => do pure ⟨← target.text?, ← text.text?⟩
  | _ => none

end ChoiceEntry

namespace Observation

def ofStatement : Statement → Observation
  | .text t => .text t
  | .choice prompt branches =>
    .choices prompt (branches.map fun b => ⟨b.targetLabel, b.buttonText⟩)
  | .pause duration => .pause duration

def toJson : Observation → Value
  | .text t => .ofMembers [("kind", .ofString "text"), ("text", .ofString t)]
  | .choices prompt entries =>
    .ofMembers [("kind", .ofString "choices"), ("prompt", .ofString prompt),
      ("choices", .array (entries.map ChoiceEntry.toJson))]
  | .pause duration =>
    .ofMembers [("kind", .ofString "pause"), ("duration", .ofString duration)]
  | .ending => .ofMembers [("kind", .ofString "end")]

def ofVariant? (kind : String) (rest : Value) : Option Observation :=
  if kind = "text" then
    match rest.fields? ["text"] with
    | some [some t] => t.text?.map .text
    | _ => none
  else if kind = "choices" then
    match rest.fields? ["prompt", "choices"] with
    | some [some prompt, some entries] => do
      pure (.choices (← prompt.text?) (← entries.list? ChoiceEntry.ofJson?))
    | _ => none
  else if kind = "pause" then
    match rest.fields? ["duration"] with
    | some [some duration] => duration.text?.map .pause
    | _ => none
  else if kind = "end" then
    match rest with
    | .array (_ :: _) => none
    | _ => some .ending
  else none

def ofJson? (room : Nat) (v : Value) : Option Observation :=
  (v.variant? room "kind").bind fun (kind, rest) => ofVariant? kind rest

end Observation

namespace Case

def schema : String := "gb-tool-case.v1"

def toJson (c : Case) : Value :=
  .ofMembers [("schemaVersion", .ofString c.schemaVersion), ("script", .ofString c.script),
    ("startLabel", .ofString c.startLabel), ("strict", .bool c.strict),
    ("actions", .array (c.actions.map Action.toJson)),
    ("expectedEvents", .array (c.expectedEvents.map Observation.toJson))]

def optional {α : Type} (read? : Value → Option α) (default : α) : Option Value → Option α
  | some v => read? v
  | none => some default

def ofJson? (v : Value) : Option Case :=
  match v.fields? ["schemaVersion", "script", "startLabel", "strict", "actions",
      "expectedEvents"] with
  | some [some schema, script, label, strict, actions, events] => do
    pure {
      schemaVersion := ← schema.text?
      script := ← optional Value.text? "story.lgscript" script
      startLabel := ← optional Value.text? "*start" label
      strict := ← optional Value.bool? false strict
      actions := ← optional (Value.list? (Action.ofJson? (Value.maxNesting - 2))) [] actions
      expectedEvents :=
        ← optional (Value.list? (Observation.ofJson? (Value.maxNesting - 2))) [] events }
  | _ => none

end Case
end Storypath
