import Storypath.Proofs.Delivery.Exactness
import Storypath.Proofs.Delivery.Expression
import Storypath.Proofs.Number.Drift

/-! Durations out of range. The sum of the parts in double precision falls behind the exact one by a
factor that grows with their number. Main statements: a literal that exceeds 2^64 nanoseconds by
more than that is refused, and the one of 2^64 nanoseconds itself is not, though no duration is so
long. -/
namespace Storypath

open Text (isDecimalDigit)
open Quantity (Spell)

namespace Double

variable {v : ℕ}

theorem significant_limit (low : 2 ^ 64 ≤ v) (high : v ≤ 2 ^ 64 + 2 ^ 11) :
    significant (v * one) 1 = 2 ^ 64 * one := by
  obtain ⟨e, unit⟩ := exists_one_eq
  have even : nearest v (2 ^ 12) = 2 ^ 52 := by
    rw [nearest_of_near (by omega)]
    omega
  rw [unit, significant_eq (k := 12) low (by omega), even]
  ring

theorem lt_significant (above : 2 ^ 64 + 2 ^ 11 < v) : 2 ^ 64 * one < significant (v * one) 1 := by
  obtain ⟨e, unit⟩ := exists_one_eq
  by_cases next : v < 2 ^ 65
  · have more : 2 ^ 52 < nearest v (2 ^ 12) := by
      -- Next to 2^64 itself nothing is rounded down any more.
      by_cases odd : v / 2 ^ 12 = 2 ^ 52
      · rw [nearest_of_far (by omega)]
        omega
      · have up := @div_le_nearest v (2 ^ 12)
        omega
    rw [unit, significant_eq (k := 12) (by omega) next]
    exact Nat.mul_lt_mul_of_pos_right (by omega) (Nat.two_pow_pos e)
  · have pos := one_pos
    have lost := le_significant_one (v * one)
    have twice : 2 ^ 65 * one ≤ v * one := Nat.mul_le_mul_right one (by omega)
    omega

theorem significant_le (below : v < 2 ^ 64) : significant (v * one) 1 ≤ 2 ^ 64 * one := by
  obtain ⟨e, unit⟩ := exists_one_eq
  rw [unit, ← Nat.pow_add]
  refine significant_le_two_pow ?_
  rw [Nat.pow_add]
  exact Nat.mul_lt_mul_of_pos_right below (Nat.two_pow_pos e)

theorem atMost_ofUnits : (ofUnits (v * one) 1).atMost (2 ^ 64) = true ↔ v ≤ 2 ^ 64 + 2 ^ 11 := by
  have range : 2 ^ 64 * one < bound := by decide +kernel
  unfold ofUnits
  constructor
  · intro within
    by_contra above
    have beyond := lt_significant (not_le.mp above)
    split at within
    · exact absurd (of_decide_eq_true within) (not_le.mpr beyond)
    · cases within
  · intro small
    have within : significant (v * one) 1 ≤ 2 ^ 64 * one := by
      by_cases below : v < 2 ^ 64
      · exact significant_le below
      · exact (significant_limit (not_lt.mp below) small).le
    rw [if_pos (within.trans_lt range)]
    exact decide_eq_true within

end Double

namespace Quantity

def exact (q : Quantity) : ℚ :=
  Nat.ofDigitChars 10 (q.part.whole ++ q.part.fraction) 0 / 10 ^ q.part.fraction.length *
    q.part.unit.nanoseconds

def Ascii (q : Quantity) : Prop := ∀ c ∈ q.number, isDecimalDigit c = true → c.isDigit = true

variable {q : Quantity} {d : Double}

theorem Whole.exact_eq (whole : q.Whole) : q.exact = q.nanoseconds := by
  obtain ⟨before, behind⟩ := whole.part_eq
  rw [exact, before, behind, List.append_nil, List.length_nil, pow_zero, div_one, nanoseconds,
    Nat.cast_mul]

theorem Whole.ascii (whole : q.Whole) : q.Ascii := fun c mem _ => whole c mem

theorem follows_nanoseconds? (value : q.part.nanoseconds? = some d) :
    d.Follows (q.exact * Double.one) 2 (2 ^ 41) := by
  simp only [DurationPart.nanoseconds?, DurationPart.digitsValue?] at value
  split at value
  · simp only [Option.map_some, Option.some.injEq, Digits.value_eq] at value
    subst value
    have den : 0 < Nat.pow 10 q.part.fraction.length := Nat.pow_pos (by decide)
    have follows := (Double.follows_ofQuotient
      (Nat.ofDigitChars 10 (q.part.whole ++ q.part.fraction) 0) den).scale q.part.unit.nanoseconds
    have long : (q.part.unit.nanoseconds : ℚ) ≤ 2 ^ 42 := by
      cases q.part.unit <;> norm_num [TimeUnit.nanoseconds]
    intro a same
    have bound := follows a same
    rw [Nat.pow_eq] at bound
    push_cast at bound
    calc q.exact * Double.one = _ := by rw [exact]; ring
      _ ≤ _ := bound
      _ ≤ _ := by linarith
  · cases value

theorem zero_add_nanoseconds? (value : q.part.nanoseconds? = some d) :
    (Double.finite 0).add d = d := by
  obtain ⟨n, -, rfl⟩ := Option.map_eq_some_iff.mp value
  exact Double.zero_add_scale _ _

end Quantity

namespace Duration

variable {literal : String} {u : List Char} {qs : List Quantity} {sum total : Double}

theorem follows_foldlM {x rest : ℚ} {k : ℕ} (follows : sum.Follows x k rest) (two : 2 ≤ k)
    (added : (qs.map Quantity.part).foldlM (fun sum p => p.nanoseconds?.map sum.add) sum =
      some total) :
    total.Follows (x + (qs.map Quantity.exact).sum * Double.one) (k + qs.length)
      (rest + qs.length * 2 ^ 41) := by
  induction qs generalizing sum x rest k with
  | nil =>
    obtain rfl := Option.some.inj added
    rw [List.map_nil, List.sum_nil, List.length_nil, Nat.cast_zero, zero_mul, zero_mul, add_zero,
      add_zero, add_zero]
    exact follows
  | cons q qs ih =>
    rw [List.map_cons, List.foldlM_cons] at added
    cases value : q.part.nanoseconds? with
    | none => simp [value] at added
    | some d =>
      rw [value] at added
      have step := follows.add ((Quantity.follows_nanoseconds? value).mono two)
      have run := ih step (by omega) added
      intro a same
      have bound := run a same
      have more : k + 1 + qs.length = k + (qs.length + 1) := by omega
      rw [more] at bound
      rw [List.map_cons, List.sum_cons, List.length_cons, add_mul]
      push_cast
      linarith

/-- The first of some parts is added to nothing, and only those behind it are rounded again. -/
theorem follows_total? (nonempty : qs ≠ []) (added : total? (qs.map Quantity.part) = some total) :
    total.Follows ((qs.map Quantity.exact).sum * Double.one) (qs.length + 1)
      (qs.length * 2 ^ 41) := by
  obtain ⟨q, qs, rfl⟩ := List.exists_cons_of_ne_nil nonempty
  rw [total?, List.map_cons, List.foldlM_cons] at added
  cases value : q.part.nanoseconds? with
  | none => simp [value] at added
  | some d =>
    simp only [value, Option.map_some, Quantity.zero_add_nanoseconds? value] at added
    have run := follows_foldlM (Quantity.follows_nanoseconds? value) le_rfl added
    intro a same
    have bound := run a same
    rw [List.map_cons, List.sum_cons, List.length_cons, add_mul]
    have more : 2 + qs.length = qs.length + 1 + 1 := by omega
    rw [more] at bound
    push_cast
    linarith

theorem parse_eq_range_iff (spell : Spell qs (unsigned literal))
    (added : total? (qs.map Quantity.part) = some total) :
    parse literal = .error ⟨literal, .range⟩ ↔ total.atMost (2 ^ 64) = false := by
  rw [parse_of_spell spell, added]
  dsimp only
  cases rounded : total.round? with
  | none => exact iff_of_true rfl (Double.atMost_of_round? rounded)
  | some n =>
    dsimp only
    cases within : total.atMost (Nat.pow 2 64) with
    | true => exact iff_of_false (by simp) (by simp)
    | false => exact iff_of_true rfl rfl

theorem exists_total? (ascii : ∀ q ∈ qs, q.Ascii) :
    ∃ total, total? (qs.map Quantity.part) = some total := by
  refine Option.ne_none_iff_exists'.mp fun none => ?_
  obtain ⟨p, mem, valueless⟩ := total?_eq_none_iff.mp none
  obtain ⟨q, here, rfl⟩ := List.mem_map.mp mem
  obtain ⟨c, digit, other⟩ := DurationPart.nanoseconds?_eq_none_iff.mp valueless
  obtain ⟨inside, digit⟩ := (q.numeral.digit_iff c).mp digit
  simp [ascii q here c inside digit] at other

/-- One more factor leaves more room than all that quotients lost. -/
theorem lt_of_far {x a unit : ℚ} {n : ℕ} (large : 2 ^ 94 ≤ unit)
    (far : 2 ^ 64 * (1 + 1 / 2 ^ 53) ^ (n + 2) < x)
    (follows : x * unit ≤ a * Double.excess ^ (n + 1) + n * 2 ^ 41) : 2 ^ 64 * unit < a := by
  have growth : 1 + ((n + 1 : ℕ) : ℚ) * (1 / 2 ^ 53) ≤ Double.excess ^ (n + 1) :=
    one_add_mul_le_pow (by norm_num) (n + 1)
  have pos : 0 < Double.excess ^ (n + 1) := pow_pos Double.excess_pos _
  have far : 2 ^ 64 * (Double.excess ^ (n + 1) * (1 + 1 / 2 ^ 53)) < x := by
    rwa [pow_succ _ (n + 1)] at far
  generalize Double.excess ^ (n + 1) = factor at growth pos far follows
  have room : (n + 1 : ℚ) * 2 ^ 41 ≤ factor * unit :=
    calc (n + 1 : ℚ) * 2 ^ 41 = (n + 1) * (1 / 2 ^ 53) * 2 ^ 94 := by ring
      _ ≤ factor * unit := by
        push_cast at growth
        gcongr
        linarith
  by_contra within
  have beyond : 2 ^ 64 * (factor * (1 + 1 / 2 ^ 53)) * unit < x * unit := by gcongr
  have above : x * unit ≤ 2 ^ 64 * unit * factor + n * 2 ^ 41 :=
    calc x * unit ≤ a * factor + n * 2 ^ 41 := follows
      _ ≤ 2 ^ 64 * unit * factor + n * 2 ^ 41 := by
        gcongr
        exact not_lt.mp within
  have count : (0 : ℚ) ≤ n := Nat.cast_nonneg n
  linarith

theorem atMost_of_far {x : ℚ} {n : ℕ} (far : 2 ^ 64 * (1 + 1 / 2 ^ 53) ^ (n + 2) < x)
    (follows : total.Follows (x * Double.one) (n + 1) (n * 2 ^ 41)) :
    total.atMost (2 ^ 64) = false := by
  have large : (2 ^ 94 : ℚ) ≤ Double.one := by
    have large : 2 ^ 94 ≤ Double.one := by decide +kernel
    exact_mod_cast large
  cases total with
  | infinite => rfl
  | finite a =>
    refine decide_eq_false (Nat.not_le.mpr ?_)
    exact_mod_cast lt_of_far large far (follows a rfl)

theorem total?_single {q : Quantity} (whole : q.Whole) (plain : q.part.unit = .nanosecond) :
    total? ([q].map Quantity.part) = some (.ofUnits (q.nanoseconds * Double.one) 1) := by
  have value := whole.nanoseconds?_eq
  have first := Quantity.zero_add_nanoseconds? value
  have count : q.nanoseconds = Nat.ofDigitChars 10 q.number 0 := by
    rw [Quantity.nanoseconds, plain, TimeUnit.nanoseconds, Nat.mul_one]
  rw [total?, List.map_cons, List.map_nil, List.foldlM_cons, value, Option.map_some, first, plain,
    TimeUnit.nanoseconds, Double.ofQuotient, Double.scale_one, count]
  rfl

theorem parse_single_eq_range_iff {q : Quantity} (spell : Spell [q] (unsigned literal))
    (whole : q.Whole) (plain : q.part.unit = .nanosecond) :
    parse literal = .error ⟨literal, .range⟩ ↔ 2 ^ 64 + 2 ^ 11 < q.nanoseconds := by
  rw [parse_eq_range_iff spell (total?_single whole plain), ← Bool.not_eq_true,
    Double.atMost_ofUnits, not_le]

theorem parse_single_eq_maximum {q : Quantity} (spell : Spell [q] (unsigned literal))
    (whole : q.Whole) (plain : q.part.unit = .nanosecond) (low : 2 ^ 64 ≤ q.nanoseconds)
    (high : q.nanoseconds ≤ 2 ^ 64 + 2 ^ 11) : parse literal = .ok maximum := by
  have range : 2 ^ 64 * Double.one < Double.bound := by decide +kernel
  have total : Double.ofUnits (q.nanoseconds * Double.one) 1 = Double.whole (2 ^ 64) := by
    rw [Double.ofUnits, Double.significant_limit low high, if_pos range, Double.whole]
  have within : (Double.whole (2 ^ 64)).atMost (Nat.pow 2 64) = true :=
    Double.atMost_whole.mpr le_rfl
  rw [parse_of_spell spell, total?_single whole plain, total]
  simp only [Double.round?_whole, within, if_true]
  rfl

theorem refusedFor_range_of_far (spell : Spell qs (unsigned literal)) (ascii : ∀ q ∈ qs, q.Ascii)
    (far : 2 ^ 64 * (1 + 1 / 2 ^ 53) ^ (qs.length + 2) < (qs.map Quantity.exact).sum) :
    RefusedFor literal "out of range" := by
  obtain ⟨total, added⟩ := exists_total? ascii
  have beyond := atMost_of_far far (follows_total? spell.nonempty added)
  exact (refusedFor_iff .range).mpr ((parse_eq_range_iff spell added).mpr beyond)

/-- A literal is refused if it exceeds 2^64 nanoseconds by more than can be lost in rounding, and
no duration is longer than the longest one. A plain count of nanoseconds is refused just if it
exceeds 2^64 by more than 2^11, and passes for the longest duration from 2^64 up to there. -/
theorem parse_beyond_range (bare : Bare literal.toList u) (spell : Spell qs u)
    (ascii : ∀ q ∈ qs, q.Ascii) :
    (2 ^ 64 * (1 + 1 / 2 ^ 53) ^ (qs.length + 2) < (qs.map Quantity.exact).sum →
      RefusedFor literal "out of range") ∧
    (∀ n, parse literal = .ok n → n ≤ maximum) ∧
    ∀ q, qs = [q] → q.Whole → q.part.unit = .nanosecond →
      (RefusedFor literal "out of range" ↔ 2 ^ 64 + 2 ^ 11 < q.nanoseconds) ∧
      (2 ^ 64 ≤ q.nanoseconds → q.nanoseconds ≤ 2 ^ 64 + 2 ^ 11 →
        parse literal = .ok maximum) := by
  obtain rfl := (bare_iff literal).mp bare
  refine ⟨refusedFor_range_of_far spell ascii, fun n => parse_le_maximum, ?_⟩
  rintro q rfl whole plain
  exact ⟨(refusedFor_iff .range).trans (parse_single_eq_range_iff spell whole plain),
    parse_single_eq_maximum spell whole plain⟩

def longPause : List Quantity :=
  [.ofDigits "5124095".toList ['h'] .hour (by decide +kernel) (by simp) (by decide),
    .ofDigits ['3', '4'] ['m'] .minute (by decide +kernel) (by simp) (by decide),
    .ofDigits ['3', '4'] ['s'] .second (by decide +kernel) (by simp) (by decide)]

theorem parse_beyond_range_longPause :
    Bare "5124095h34m34s".toList "5124095h34m34s".toList ∧
      Spell longPause "5124095h34m34s".toList ∧ (∀ q ∈ longPause, q.Ascii) ∧
      2 ^ 64 * (1 + 1 / 2 ^ 53) ^ (longPause.length + 2) < (longPause.map Quantity.exact).sum ∧
      RefusedFor "5124095h34m34s" "out of range" := by
  have bare : Bare "5124095h34m34s".toList "5124095h34m34s".toList :=
    (bare_iff _).mpr (by decide +kernel)
  have spell : Spell longPause "5124095h34m34s".toList := ⟨by simp [longPause], by decide⟩
  have whole : ∀ q ∈ longPause, q.Whole := by decide +kernel
  have ascii : ∀ q ∈ longPause, q.Ascii := fun q mem => (whole q mem).ascii
  have far : 2 ^ 64 * (1 + 1 / 2 ^ 53) ^ (longPause.length + 2) <
      (longPause.map Quantity.exact).sum := by
    have count : longPause.map Quantity.nanoseconds =
      [18446742000000000000, 2040000000000, 34000000000] := by decide +kernel
    have exact : longPause.map Quantity.exact =
        (longPause.map Quantity.nanoseconds).map Nat.cast := by
      rw [List.map_map]
      exact List.map_congr_left fun q mem => (whole q mem).exact_eq
    rw [exact, count]
    norm_num [longPause]
  exact ⟨bare, spell, ascii, far, (parse_beyond_range bare spell ascii).1 far⟩

def limitPause : Quantity :=
  .ofDigits "18446744073709551616".toList ['n', 's'] .nanosecond (by decide +kernel) (by simp)
    (by decide)

theorem not_refused_limitPause :
    ¬ ∀ literal u qs, Bare literal.toList u → Spell qs u → (∀ q ∈ qs, q.Ascii) →
      2 ^ 64 - 1 < (qs.map Quantity.exact).sum → ∃ fault, parse literal = .error fault := by
  intro refused
  have bare : unsigned "18446744073709551616ns" = "18446744073709551616ns".toList := by
    decide +kernel
  have spell : Spell [limitPause] (unsigned "18446744073709551616ns") :=
    ⟨by simp, by rw [bare]; decide⟩
  have whole : limitPause.Whole := by decide +kernel
  have count : limitPause.nanoseconds = 2 ^ 64 := by decide +kernel
  have beyond : 2 ^ 64 - 1 < ([limitPause].map Quantity.exact).sum := by
    rw [List.map_singleton, List.sum_singleton, whole.exact_eq, count]
    norm_num
  obtain ⟨fault, error⟩ := refused "18446744073709551616ns" _ [limitPause] ((bare_iff _).mpr rfl)
    spell (by simpa using whole.ascii) beyond
  have passed := parse_single_eq_maximum spell whole rfl count.ge (by rw [count]; omega)
  rw [passed] at error
  cases error

end Duration
end Storypath
