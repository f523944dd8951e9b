import Storypath.Proofs.Delivery.Quantity

/-! What the literal of a pause says: white space around it and one plus sign in front do not count.
Main statements: what is left of a literal is the one text that is bare of them, and what a row of
quantities is read as. -/
namespace Storypath

open Text (isWhiteSpace trim trimStart trimEnd isDecimalDigit)
open Grammar (Maximal maximal_takeWhile)

def Trimmed (cs middle : List Char) : Prop :=
  ∃ before after, cs = before ++ middle ++ after ∧
    (∀ c ∈ before ++ after, isWhiteSpace c = true) ∧
    (∀ c ∈ middle.head?, isWhiteSpace c = false) ∧ ∀ c ∈ middle.getLast?, isWhiteSpace c = false

/-- A text without the white space around it and without one plus sign that stands first then. -/
inductive Bare (cs : List Char) : List Char → Prop
  | signed {u : List Char} (trimmed : Trimmed cs ('+' :: u)) : Bare cs u
  | unsigned {u : List Char} (trimmed : Trimmed cs u) (plain : ∀ c ∈ u.head?, c ≠ '+') : Bare cs u

section trim

variable {cs middle u : List Char}

theorem trimStart_append {before rest : List Char} (blank : ∀ c ∈ before, isWhiteSpace c = true)
    (stops : ∀ c ∈ rest.head?, isWhiteSpace c = false) : trimStart (before ++ rest) = rest := by
  have run : Maximal (fun c => isWhiteSpace c = true) before rest :=
    ⟨blank, fun c first => by simp [stops c first]⟩
  exact run.dropWhile fun _ => .rfl

theorem trimEnd_append {rest after : List Char} (blank : ∀ c ∈ after, isWhiteSpace c = true)
    (stops : ∀ c ∈ rest.getLast?, isWhiteSpace c = false) : trimEnd (rest ++ after) = rest := by
  have run : Maximal (fun c => isWhiteSpace c = true) after.reverse rest.reverse :=
    ⟨by simpa using blank, fun c last => by simp [stops c (by simpa using last)]⟩
  rw [trimEnd, List.reverse_append, run.dropWhile fun _ => .rfl, List.reverse_reverse]

theorem trim_of_trimmed (trimmed : Trimmed cs middle) : trim cs = middle := by
  obtain ⟨before, after, rfl, blank, first, last⟩ := trimmed
  obtain ⟨blank, blank'⟩ := List.forall_mem_append.mp blank
  cases middle with
  | nil =>
    have all : ∀ c ∈ before ++ after, isWhiteSpace c = true :=
      List.forall_mem_append.mpr ⟨blank, blank'⟩
    have none : trimStart (before ++ after ++ []) = [] := trimStart_append all (by simp)
    rw [List.append_nil] at none
    simp [trim, none, trimEnd]
  | cons c middle =>
    rw [trim, List.append_assoc, trimStart_append blank (by simpa using first),
      trimEnd_append blank' last]

theorem trimmed_trim (cs : List Char) : Trimmed cs (trim cs) := by
  have start := maximal_takeWhile (p := fun c => isWhiteSpace c = true) (fun _ => .rfl) cs
  have end_ := maximal_takeWhile (p := fun c => isWhiteSpace c = true) (fun _ => .rfl)
    (trimStart cs).reverse
  have whole : trim cs ++ ((trimStart cs).reverse.takeWhile isWhiteSpace).reverse =
      trimStart cs := by
    rw [trim, trimEnd, ← List.reverse_append, List.takeWhile_append_dropWhile,
      List.reverse_reverse]
  refine ⟨cs.takeWhile isWhiteSpace, ((trimStart cs).reverse.takeWhile isWhiteSpace).reverse, ?_,
    ?_, ?_, ?_⟩
  · rw [List.append_assoc, whole, trimStart, List.takeWhile_append_dropWhile]
  · exact List.forall_mem_append.mpr ⟨start.within, by simpa using end_.within⟩
  · intro c first
    have front : (trimStart cs).head? = some c := by
      rw [← whole, List.head?_append, Option.mem_def.mp first]
      rfl
    simpa using start.stops c front
  · intro c last
    rw [trim, trimEnd, List.getLast?_reverse] at last
    simpa using end_.stops c last

theorem trimmed_iff : Trimmed cs middle ↔ middle = trim cs :=
  ⟨fun trimmed => (trim_of_trimmed trimmed).symm, fun same => same ▸ trimmed_trim cs⟩

theorem bare_iff (literal : String) {u : List Char} :
    Bare literal.toList u ↔ u = Duration.unsigned literal := by
  unfold Duration.unsigned
  constructor
  · intro bare
    cases bare with
    | signed trimmed =>
      rw [← trimmed_iff.mp trimmed]
      rfl
    | unsigned trimmed plain =>
      rw [← trimmed_iff.mp trimmed]
      split
      · exact absurd rfl (plain '+' rfl)
      · rfl
  · rintro rfl
    split
    · next rest signed => exact .signed (trimmed_iff.mpr signed.symm)
    · next plain =>
      refine .unsigned (trimmed_trim _) fun c first => ?_
      rintro rfl
      obtain ⟨rest, signed⟩ := List.head?_eq_some_iff.mp first
      exact plain rest signed

end trim

namespace DurationPart

theorem nanoseconds?_eq_none_iff {p : DurationPart} :
    p.nanoseconds? = none ↔ ∃ c ∈ p.whole ++ p.fraction, c.isDigit = false := by
  simp only [nanoseconds?, Option.map_eq_none_iff, digitsValue?, ite_eq_right_iff, reduceCtorEq,
    imp_false, List.all_eq_true, Classical.not_forall]
  simp

end DurationPart

namespace Duration

open Quantity (Spell)

theorem total?_eq_none_iff {ps : List DurationPart} :
    total? ps = none ↔ ∃ p ∈ ps, p.nanoseconds? = none := by
  unfold total?
  generalize Double.finite 0 = sum
  induction ps generalizing sum with
  | nil => simp
  | cons p ps ih =>
    rw [List.foldlM_cons]
    cases value : p.nanoseconds? with
    | none => simp [value]
    | some v => simp [value, ih]

variable {literal : String} {qs : List Quantity}

theorem unsigned_ne_of_spell (spell : Spell qs (unsigned literal)) : unsigned literal ≠ ['0'] := by
  obtain ⟨nonempty, whole⟩ := spell
  obtain ⟨q, qs, rfl⟩ := List.exists_cons_of_ne_nil nonempty
  obtain ⟨c, rest, unit⟩ := List.exists_cons_of_ne_nil (TimeUnit.ne_nil_of_spelling q.spelt)
  have letter : isNumeric c = false :=
    TimeUnit.not_isNumeric_of_spelling q.spelt c (by simp [unit])
  have here : c ∈ unsigned literal := by simp [← whole, Quantity.text, unit]
  intro zero
  obtain rfl : c = '0' := by simpa [zero] using here
  exact absurd letter (by decide +kernel)

/-- What a literal that is a row of quantities is read as. -/
theorem parse_of_spell (spell : Spell qs (unsigned literal)) :
    parse literal = match total? (qs.map Quantity.part) with
      | none => .error ⟨literal, .number⟩
      | some sum =>
        match sum.round? with
        | some n =>
          if sum.atMost (Nat.pow 2 64) then .ok (min n maximum) else .error ⟨literal, .range⟩
        | none => .error ⟨literal, .range⟩ := by
  rw [parse, if_neg (unsigned_ne_of_spell spell), parts?_of_spell spell]
  rfl

theorem parse_le_maximum {n : Nat} (read : parse literal = .ok n) : n ≤ maximum := by
  unfold parse at read
  repeat' split at read
  all_goals cases read
  · exact Nat.zero_le _
  · exact Nat.min_le_right _ _

end Duration
end Storypath
