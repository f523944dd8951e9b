import Storypath.Delivery.Message
import Storypath.Json.Record

/-! The JSON form of messages, and the lines in which a delivery is written. -/
namespace Storypath

open Json (Value)

namespace Button

def toJson (b : Button) : Value :=
  .ofMembers [("label", .ofString b.label), ("data", .ofString b.data),
    ("displayText", .ofString b.displayText)]

def ofJson? (v : Value) : Option Button :=
  match v.fields? ["label", "data", "displayText"] with
  | some [some label, some data, some shown] => do
    pure ⟨← label.text?, ← data.text?, ← shown.text?⟩
  | _ => none

end Button

namespace Message

def toJson : Message → Value
  | .text t => .ofMembers [("type", .ofString "text"), ("text", .ofString t)]
  | .buttons altText prompt actions =>
    .ofMembers [("type", .ofString "buttons"), ("altText", .ofString altText),
      ("prompt", .ofString prompt), ("actions", .array (actions.map Button.toJson))]

def ofVariant? (type : String) (rest : Value) : Option Message :=
  if type = "text" then
    match rest.fields? ["text"] with
    | some [some t] => t.text?.map .text
    | _ => none
  else if type = "buttons" then
    match rest.fields? ["altText", "prompt", "actions"] with
    | some [some altText, some prompt, some actions] => do
      pure (.buttons (← altText.text?) (← prompt.text?) (← actions.list? Button.ofJson?))
    | _ => none
  else none

def ofJson? (v : Value) : Option Message :=
  (v.variant? Value.maxNesting "type").bind fun (type, rest) => ofVariant? type rest

def tag : Message → String
  | .text _ => "TEXT_JSON"
  | .buttons .. => "BUTTONS_JSON"

end Message

def Scheduled.line (s : Scheduled) : String :=
  s!"PUSH:{s.milliseconds}|{s.message.tag}:{s.message.toJson.render}"

end Storypath
