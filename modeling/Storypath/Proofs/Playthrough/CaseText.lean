import Storypath.Proofs.Playthrough.Layout

/-! Cases as texts. Whatever strings a case holds, it is read back from what is written of it, on
one line or on indented lines. -/
namespace Storypath

open Json (Value)

theorem Action.closed_toJson (a : Action) : a.toJson.Closed := by
  simp [toJson]

theorem ChoiceEntry.closed_toJson (e : ChoiceEntry) : e.toJson.Closed := by
  simp [toJson]

theorem Observation.closed_toJson (o : Observation) : o.toJson.Closed := by
  cases o <;> simp [toJson, ChoiceEntry.closed_toJson]

namespace Case

theorem closed_toJson (c : Case) : c.toJson.Closed := by
  simp [toJson, Action.closed_toJson, Observation.closed_toJson]

def Written (c : Case) (text : String) : Prop :=
  text = c.toJson.render ∨ text = c.toJson.renderIndented

/-- A case in the current form is read back from a text in which it is written. -/
theorem Written.caseOfText {c : Case} {text : String} (written : c.Written text)
    (current : c.schemaVersion = schema) : Playthrough.caseOfText text = .ok c := by
  have read : Value.parse? text = some c.toJson := by
    rcases written with rfl | rfl
    · exact Json.parse?_render c.closed_toJson
    · exact Json.parse?_renderIndented c.closed_toJson
  rw [Playthrough.caseOfText, read, Option.bind_some, c.laidOut_toJson.ofJson?]
  simp [current]

end Case
end Storypath
