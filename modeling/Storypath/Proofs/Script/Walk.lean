import Storypath.Proofs.Script.Outline
import Storypath.Script.Walk

/-! Walks along an outline: what passing an item does to a walk, which entries a walk goes past,
and how it ends. -/
namespace Storypath

namespace Item

def closes : Item → Bool
  | .choice .. | .brokenChoice | .jump _ | .blockEnd => true
  | .text _ | .pause _ | .label _ => false

def meets (target : Target) : Item → Bool
  | .label l => target.isMetBy l
  | _ => false

def told? : Item → Option Statement
  | .text t => some (.text t)
  | .pause d => some (.pause d)
  | _ => none

end Item

namespace Walk

variable {w w' : Walk} {item : Item}

theorem pass_met {l : String} (met : w.target.isMetBy l) :
    w.pass (.label l) =
      .inl { w with gathered := w.kept, collecting := true, matched := true } := by
  simp [Walk.pass, met]

theorem pass_unclosed (unclosed : item.closes = false) (unmet : item.meets w.target = false) :
    w.pass item = .inl { w with gathered := item.told?.toList ++ w.gathered } := by
  cases item <;> simp_all [Walk.pass, gather, Item.told?, Item.closes, Item.meets]

theorem pass_idle (idle : w.collecting = false) (unmet : item.meets w.target = false) :
    ∃ gathered, w.pass item = .inl { w with gathered := gathered } := by
  obtain ⟨gathered, kept, collecting, matched, target⟩ := w
  obtain rfl : collecting = false := idle
  cases item with
  | label l => exact ⟨gathered, if_neg (by simpa [Item.meets] using unmet)⟩
  | _ => exact ⟨_, rfl⟩

def turn (w : Walk) (reference : String) : Walk :=
  { w with kept := w.gathered, collecting := false, target := .ofReference reference }

theorem pass_jump {reference : String} (busy : w.collecting = true) :
    w.pass (.jump reference) = .inl (w.turn reference) := by
  simp [Walk.pass, turn, busy]

theorem pass_choice {prompt : String} {branches : List Branch} (busy : w.collecting = true) :
    w.pass (.choice prompt branches) = .inr (w.statements ++ [.choice prompt branches]) := by
  simp [Walk.pass, close, gather, statements, busy]

theorem pass_brokenChoice (busy : w.collecting = true) :
    w.pass .brokenChoice = .inr w.statements := by
  simp [Walk.pass, close, busy]

theorem pass_blockEnd (busy : w.collecting = true) : w.pass .blockEnd = .inr w.statements := by
  simp [Walk.pass, close, busy]

/-- Only a choice or an end ends a walk, and only one that is collecting. -/
theorem pass_inr {result : List Statement} (pass : w.pass item = .inr result) :
    w.collecting = true ∧
      ((∃ prompt branches, item = .choice prompt branches ∧
          result = w.statements ++ [.choice prompt branches]) ∨
        (item = .brokenChoice ∨ item = .blockEnd) ∧ result = w.statements) := by
  cases busy : w.collecting with
  | false =>
    by_cases met : item.meets w.target
    · cases item <;> simp_all [Item.meets, pass_met]
    · obtain ⟨gathered, idle⟩ := pass_idle busy (by simpa using met)
      simp [idle] at pass
  | true =>
    refine ⟨rfl, ?_⟩
    cases item with
    | text t | pause d => simp [Walk.pass] at pass
    | label l => by_cases met : w.target.isMetBy l <;> simp [Walk.pass, met] at pass
    | jump reference => simp [pass_jump busy] at pass
    | choice prompt branches =>
      rw [pass_choice busy, Sum.inr.injEq] at pass
      exact .inl ⟨prompt, branches, rfl, pass.symm⟩
    | brokenChoice =>
      rw [pass_brokenChoice busy, Sum.inr.injEq] at pass
      exact .inr ⟨.inl rfl, pass.symm⟩
    | blockEnd =>
      rw [pass_blockEnd busy, Sum.inr.injEq] at pass
      exact .inr ⟨.inr rfl, pass.symm⟩

/-- Only a jump makes a walk stop collecting and go on. -/
theorem pass_stops (pass : w.pass item = .inl w') (busy : w.collecting = true)
    (idle : w'.collecting = false) :
    ∃ reference, item = .jump reference ∧ w' = w.turn reference := by
  cases item with
  | text t | pause d =>
    obtain rfl := Sum.inl.inj pass
    simp [gather, busy] at idle
  | choice prompt branches => simp [pass_choice busy] at pass
  | brokenChoice => simp [pass_brokenChoice busy] at pass
  | blockEnd => simp [pass_blockEnd busy] at pass
  | label l =>
    by_cases met : w.target.isMetBy l
    · obtain rfl := Sum.inl.inj ((pass_met met).symm.trans pass)
      simp at idle
    · obtain rfl : w = w' := by simpa [Walk.pass, met] using pass
      simp [busy] at idle
  | jump reference => exact ⟨reference, rfl, Sum.inl.inj (pass.symm.trans (pass_jump busy))⟩

inductive Passes : Walk → List Entry → Walk → List Entry → Prop
  | none (w : Walk) (es : List Entry) : Passes w es w es
  | item {w w' w'' : Walk} {item : Item} {es es' : List Entry} (pass : w.pass item = .inl w')
      (more : Passes w' es w'' es') : Passes w (.item item :: es) w'' es'

theorem Passes.trans {w₁ w₂ w₃ : Walk} {es₁ es₂ es₃ : List Entry}
    (first : Passes w₁ es₁ w₂ es₂) (second : Passes w₂ es₂ w₃ es₃) : Passes w₁ es₁ w₃ es₃ := by
  induction first with
  | none => exact second
  | item pass _ ih => exact .item pass (ih second)

theorem pass_matched (matched : w.collecting = true → w.matched = true)
    (pass : w.pass item = .inl w') : w'.collecting = true → w'.matched = true := by
  intro busy'
  by_cases met : item.meets w.target
  · obtain ⟨l, rfl, met⟩ : ∃ l, item = .label l ∧ w.target.isMetBy l := by
      cases item <;> simp_all [Item.meets]
    obtain rfl := Sum.inl.inj ((pass_met met).symm.trans pass)
    rfl
  · rw [Bool.not_eq_true] at met
    cases busy : w.collecting with
    | false =>
      obtain ⟨gathered, idle⟩ := pass_idle busy met
      obtain rfl := Sum.inl.inj (idle.symm.trans pass)
      simp [busy] at busy'
    | true =>
      have here := matched busy
      by_cases closes : item.closes
      · cases item <;> simp_all [Item.closes, Walk.pass, close, gather]
        simp [← pass] at busy'
      · obtain rfl :=
          Sum.inl.inj ((pass_unclosed (by simpa using closes) met).symm.trans pass)
        exact here

theorem Passes.matched {es es' : List Entry} (passes : Passes w es w' es')
    (matched : w.collecting = true → w.matched = true) :
    w'.collecting = true → w'.matched = true := by
  induction passes with
  | none => exact matched
  | item pass _ ih => exact ih (pass_matched matched pass)

inductive Moves (w : Walk) : Option Item → Walk → Prop
  | stay : Moves w none w
  | pass {item : Item} {w' : Walk} (pass : w.pass item = .inl w') : Moves w (some item) w'

theorem Moves.passes {item? : Option Item} (moves : w.Moves item? w') (es : List Entry) :
    Passes w ((item?.map Entry.item).toList ++ es) w' es := by
  cases moves with
  | stay => exact .none w es
  | pass pass => exact .item pass (.none w' es)

theorem Moves.jump_of_stops {item? : Option Item} (moves : w.Moves item? w')
    (busy : w.collecting = true) (idle : w'.collecting = false) :
    ∃ reference, item? = some (.jump reference) ∧ w' = w.turn reference := by
  cases moves with
  | stay => simp [busy] at idle
  | pass pass =>
    obtain ⟨reference, rfl, rfl⟩ := pass_stops pass busy idle
    exact ⟨reference, rfl, rfl⟩

/-- The result of a walk with these entries ahead, the first of which ends it. -/
inductive Ends (source : String) (strict : Bool) :
    Walk → List Entry → Except ScriptFault (List Statement) → Prop
  | closed {w : Walk} {item : Item} {es : List Entry} {result : List Statement}
      (pass : w.pass item = .inr result) : Ends source strict w (.item item :: es) (.ok result)
  | refused (w : Walk) (flaw : Flaw) (es : List Entry) :
      Ends source strict w (.flaw flaw :: es) (.error (flaw.fault source))
  | finished (w : Walk) : Ends source strict w [] (w.finish strict)

variable {source : String} {strict : Bool} {es : List Entry} {result : List Statement}

theorem Ends.collecting_of_strict (ends : Ends source true w es (.ok result)) :
    w.collecting = true := by
  generalize ended : Except.ok result = outcome at ends
  cases ends with
  | closed pass => exact (pass_inr pass).1
  | refused => simp at ended
  | finished =>
    cases busy : w.collecting with
    | false => by_cases matched : w.matched <;> simp [finish, busy, matched] at ended
    | true => rfl

theorem Ends.code_mem {fault : ScriptFault} (ends : Ends source strict w es (.error fault)) :
    fault.code ∈ ["PARSE_MALFORMED_WAIT", "PARSE_MALFORMED_CHOICE_BLOCK",
      "PARSE_LABEL_NOT_FOUND", "PARSE_JUMP_TARGET_NOT_FOUND"] := by
  generalize failed : Except.error fault = outcome at ends
  cases ends with
  | closed pass => simp at failed
  | refused flaw es =>
    obtain rfl := Except.error.inj failed
    cases flaw <;> simp [Flaw.fault, ScriptFault.code]
  | finished =>
    cases busy : w.collecting <;> cases strict <;> cases matched : w.matched <;>
      simp [finish, busy, matched] at failed
    all_goals simp [failed, ScriptFault.code]

end Walk
end Storypath
