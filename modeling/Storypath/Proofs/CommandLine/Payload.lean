import Mathlib
import Storypath.Delivery.MessageJson
import Storypath.Proofs.Json.Record
import Storypath.Proofs.Json.RoundTrip
import Storypath.Script.StatementJson

/-! What stands on one line of an answer. A statement, a message or a text is read back from its
JSON form. Main statement: this form has no line feed, whatever texts it holds. -/
namespace Storypath

open Json (Value)

namespace Json

theorem lineFeed_notMem_escapedChar (c : Char) : '\n' ∉ escapedChar c := by
  by_cases feed : c = '\n'
  · subst feed
    decide
  · have digit : ∀ n < 16, Nat.digitChar n ≠ '\n' := by decide
    unfold escapedChar
    repeat' split
    · simp [Ne.symm feed]
    · decide
    · decide
    · decide
    · decide
    · decide
    · next control =>
      have small : c.toNat < 32 := control
      simp [hexPair, Ne.symm (digit (c.toNat / 16) (by omega)),
        Ne.symm (digit (c.toNat % 16) (by omega))]
    · simp [Ne.symm feed]

theorem lineFeed_notMem_written {t : Token} (closed : t.closed = true) : '\n' ∉ t.written := by
  cases t with
  | number n => simp [Token.closed] at closed
  | string s =>
    cases s with
    | none => simp [Token.closed] at closed
    | some s =>
      have quoted : (Token.string (some s)).written =
          '"' :: s.toList.flatMap escapedChar ++ ['"'] := rfl
      rw [quoted]
      simp [lineFeed_notMem_escapedChar]
  | bool b => cases b <;> decide +kernel
  | _ => decide +kernel

/-- A value stands on one line, if each of its tokens is closed. -/
theorem lineFeed_notMem_render {v : Value} (closed : v.Closed) : '\n' ∉ v.render.toList := by
  rw [Value.render, String.toList_ofList, List.mem_flatMap]
  rintro ⟨t, mem, within⟩
  exact lineFeed_notMem_written (closed t mem) within

end Json

namespace Branch

theorem closed_toJson (b : Branch) : b.toJson.Closed := by
  simp [toJson]

theorem keepable_toJson (room : Nat) (b : Branch) : Value.keepable (room + 1) b.toJson = true := by
  simp [toJson]

theorem ofJson?_toJson (b : Branch) : ofJson? b.toJson = some b := by
  have fields : b.toJson.fields? ["targetLabel", "buttonText"] =
      some [some (.ofString b.targetLabel), some (.ofString b.buttonText)] :=
    Value.fields?_ofMembers rfl (by simp)
  simp [ofJson?, fields]

end Branch

namespace Statement

theorem closed_toJson (s : Statement) : s.toJson.Closed := by
  cases s <;> simp [toJson, Branch.closed_toJson]

def parts : Statement → String × List (String × Value)
  | .text t => ("text", [("text", .ofString t)])
  | .choice prompt branches =>
    ("choice", [("prompt", .ofString prompt), ("branches", .array (branches.map Branch.toJson))])
  | .pause duration => ("pause", [("duration", .ofString duration)])

theorem variant?_toJson (s : Statement) :
    s.toJson.variant? Value.maxNesting "kind" = some (s.parts.1, .ofMembers s.parts.2) := by
  rw [show Value.maxNesting = 126 + 1 from rfl]
  cases s <;> exact Value.variant?_ofMembers (by simp) (by simp [Branch.keepable_toJson])

theorem fields?_parts (s : Statement) :
    (Value.ofMembers s.parts.2).fields? (s.parts.2.map Prod.fst) =
      some (s.parts.2.map fun m => some m.2) :=
  Value.fields?_ofMembers rfl (by cases s <;> simp [parts])

theorem ofVariant?_parts (s : Statement) :
    ofVariant? s.parts.1 (.ofMembers s.parts.2) = some s := by
  have fields := s.fields?_parts
  cases s with
  | text t | pause duration =>
    simp only [parts, List.map_cons, List.map_nil] at fields ⊢
    simp [ofVariant?, fields]
  | choice prompt branches =>
    have read : (Value.array (branches.map Branch.toJson)).list? Branch.ofJson? = some branches :=
      Value.list?_map fun b _ => b.ofJson?_toJson
    simp only [parts, List.map_cons, List.map_nil] at fields ⊢
    simp [ofVariant?, fields, read]

theorem ofJson?_toJson (s : Statement) : ofJson? s.toJson = some s := by
  simp [ofJson?, variant?_toJson, ofVariant?_parts]

end Statement

namespace Button

theorem closed_toJson (b : Button) : b.toJson.Closed := by
  simp [toJson]

theorem keepable_toJson (room : Nat) (b : Button) : Value.keepable (room + 1) b.toJson = true := by
  simp [toJson]

theorem ofJson?_toJson (b : Button) : ofJson? b.toJson = some b := by
  have fields : b.toJson.fields? ["label", "data", "displayText"] =
      some [some (.ofString b.label), some (.ofString b.data), some (.ofString b.displayText)] :=
    Value.fields?_ofMembers rfl (by simp)
  simp [ofJson?, fields]

end Button

namespace Message

theorem closed_toJson (m : Message) : m.toJson.Closed := by
  cases m <;> simp [toJson, Button.closed_toJson]

def parts : Message → String × List (String × Value)
  | .text t => ("text", [("text", .ofString t)])
  | .buttons altText prompt actions =>
    ("buttons", [("altText", .ofString altText), ("prompt", .ofString prompt),
      ("actions", .array (actions.map Button.toJson))])

theorem variant?_toJson (m : Message) :
    m.toJson.variant? Value.maxNesting "type" = some (m.parts.1, .ofMembers m.parts.2) := by
  rw [show Value.maxNesting = 126 + 1 from rfl]
  cases m <;> exact Value.variant?_ofMembers (by simp) (by simp [Button.keepable_toJson])

theorem fields?_parts (m : Message) :
    (Value.ofMembers m.parts.2).fields? (m.parts.2.map Prod.fst) =
      some (m.parts.2.map fun m => some m.2) :=
  Value.fields?_ofMembers rfl (by cases m <;> simp [parts])

theorem ofVariant?_parts (m : Message) : ofVariant? m.parts.1 (.ofMembers m.parts.2) = some m := by
  have fields := m.fields?_parts
  cases m with
  | text t =>
    simp only [parts, List.map_cons, List.map_nil] at fields ⊢
    simp [ofVariant?, fields]
  | buttons altText prompt actions =>
    have read : (Value.array (actions.map Button.toJson)).list? Button.ofJson? = some actions :=
      Value.list?_map fun b _ => b.ofJson?_toJson
    simp only [parts, List.map_cons, List.map_nil] at fields ⊢
    simp [ofVariant?, fields, read]

theorem ofJson?_toJson (m : Message) : ofJson? m.toJson = some m := by
  simp [ofJson?, variant?_toJson, ofVariant?_parts]

end Message
end Storypath
