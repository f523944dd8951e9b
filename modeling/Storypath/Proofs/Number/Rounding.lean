import Mathlib
import Storypath.Number.Double

/-! What rounding to 53 significant bits does to a number. Main statements: a number that has no
more bits is kept, what is rounded has no more bits and is as near as half a step, and arithmetic
on whole numbers of up to 2^53 is exact. -/
namespace Storypath.Double

/-- A number of units that has at most 53 significant bits. -/
def Short (n : Nat) : Prop := ∃ m k, m < 2 ^ 53 ∧ n = m * 2 ^ k

section nearest

variable {num den n : Nat}

theorem nearest_of_near
    (near : 2 * (num % den) < den ∨ 2 * (num % den) = den ∧ num / den % 2 = 0) :
    nearest num den = num / den :=
  if_pos (by simpa using near)

theorem nearest_of_far
    (far : ¬ (2 * (num % den) < den ∨ 2 * (num % den) = den ∧ num / den % 2 = 0)) :
    nearest num den = num / den + 1 :=
  if_neg (by simpa using far)

theorem nearest_mul (pos : 0 < den) : nearest (n * den) den = n := by
  rw [nearest_of_near (by simp [pos]), Nat.mul_div_cancel _ pos]

theorem div_le_nearest : num / den ≤ nearest num den := by
  unfold nearest
  split <;> omega

theorem nearest_le_succ : nearest num den ≤ num / den + 1 := by
  unfold nearest
  split <;> omega

theorem le_two_mul_nearest (num : Nat) (pos : 0 < den) :
    2 * num ≤ 2 * (den * nearest num den) + den := by
  have whole := Nat.div_add_mod num den
  have small := Nat.mod_lt num pos
  by_cases near : 2 * (num % den) < den ∨ 2 * (num % den) = den ∧ num / den % 2 = 0
  · rw [nearest_of_near near]
    omega
  · rw [nearest_of_far near, Nat.mul_add]
    omega

theorem two_mul_nearest_le (num : Nat) (pos : 0 < den) :
    2 * (den * nearest num den) ≤ 2 * num + den := by
  have whole := Nat.div_add_mod num den
  by_cases near : 2 * (num % den) < den ∨ 2 * (num % den) = den ∧ num / den % 2 = 0
  · rw [nearest_of_near near]
    omega
  · rw [nearest_of_far near, Nat.mul_add]
    omega

theorem nearest_mul_mul {c : Nat} (pos : 0 < c) :
    nearest (num * c) (den * c) = nearest num den := by
  have less : 2 * (num % den) * c < den * c ↔ 2 * (num % den) < den :=
    Nat.mul_lt_mul_right pos
  have same : (2 * (num % den) * c == den * c) = (2 * (num % den) == den) := by
    rw [Bool.eq_iff_iff, beq_iff_eq, beq_iff_eq, Nat.mul_left_inj (Nat.ne_of_gt pos)]
  simp only [nearest, Nat.mul_mod_mul_right, Nat.mul_div_mul_right _ _ pos, ← Nat.mul_assoc, less,
    same]

end nearest

section spacing

variable {n m k : Nat}

theorem spacing_pos (n : Nat) : 0 < spacing n := Nat.two_pow_pos _

theorem lt_spacing (n : Nat) : n < spacing n * 2 ^ 53 := by
  show n < 2 ^ (n.log2 - 52) * 2 ^ 53
  rw [← Nat.pow_add]
  exact Nat.lt_of_lt_of_le Nat.lt_log2_self (Nat.pow_le_pow_right (by decide) (by omega))

theorem spacing_le (n : Nat) : spacing n = 1 ∨ spacing n * 2 ^ 52 ≤ n := by
  by_cases small : n.log2 ≤ 52
  · left
    show 2 ^ (n.log2 - 52) = 1
    rw [Nat.sub_eq_zero_of_le small, Nat.pow_zero]
  · right
    have pos : n ≠ 0 := by
      rintro rfl
      exact small (by decide)
    show 2 ^ (n.log2 - 52) * 2 ^ 52 ≤ n
    rw [← Nat.pow_add, Nat.sub_add_cancel (by omega)]
    exact Nat.log2_self_le pos

theorem spacing_eq (low : 2 ^ (52 + k) ≤ n) (high : n < 2 ^ (53 + k)) : spacing n = 2 ^ k := by
  have nonzero : n ≠ 0 := Nat.ne_of_gt (Nat.lt_of_lt_of_le (Nat.two_pow_pos _) low)
  have log : n.log2 = 52 + k := by
    have low := (Nat.le_log2 nonzero).mpr low
    have high := (Nat.log2_lt nonzero).mpr high
    omega
  show 2 ^ (n.log2 - 52) = 2 ^ k
  rw [log, Nat.add_sub_cancel_left]

theorem spacing_dvd (small : m < 2 ^ 53) : spacing (m * 2 ^ k) ∣ 2 ^ k := by
  refine Nat.pow_dvd_pow 2 ?_
  by_cases zero : m = 0
  · subst zero
    simp
  · have nonzero : m * 2 ^ k ≠ 0 := Nat.mul_ne_zero zero (Nat.ne_of_gt (Nat.two_pow_pos k))
    have short : (m * 2 ^ k).log2 < 53 + k := by
      rw [Nat.log2_lt nonzero, Nat.pow_add]
      exact Nat.mul_lt_mul_of_pos_right small (Nat.two_pow_pos k)
    omega

end spacing

section significant

variable {num den n : Nat}

/-- A quotient that is a number of at most 53 significant bits is kept. -/
theorem significant_mul (pos : 0 < den) (short : Short n) : significant (n * den) den = n := by
  obtain ⟨m, k, small, rfl⟩ := short
  obtain ⟨steps, fits⟩ := spacing_dvd (k := k) small
  have there : 0 < den * spacing (m * 2 ^ k) := Nat.mul_pos pos (spacing_pos _)
  simp only [significant, Nat.mul_div_cancel _ pos]
  generalize spacing (m * 2 ^ k) = step at fits there ⊢
  have row : m * 2 ^ k * den = m * steps * (den * step) := by
    rw [fits]
    ac_rfl
  rw [row, nearest_mul there, fits]
  ac_rfl

theorem significant_of_short (short : Short n) : significant n 1 = n := by
  simpa using significant_mul Nat.one_pos short

theorem significant_eq {k e : Nat} (low : 2 ^ (52 + k) ≤ n) (high : n < 2 ^ (53 + k)) :
    significant (n * 2 ^ e) 1 = nearest n (2 ^ k) * 2 ^ k * 2 ^ e := by
  have step : spacing (n * 2 ^ e) = 2 ^ k * 2 ^ e := by
    rw [← Nat.pow_add]
    refine spacing_eq ?_ ?_
    · rw [← Nat.add_assoc, Nat.pow_add]
      exact Nat.mul_le_mul_right _ low
    · rw [← Nat.add_assoc, Nat.pow_add]
      exact Nat.mul_lt_mul_of_pos_right high (Nat.two_pow_pos e)
  simp only [significant, Nat.div_one, step, Nat.one_mul]
  rw [nearest_mul_mul (Nat.two_pow_pos e), Nat.mul_assoc]

theorem significant_le_two_pow {k : Nat} (less : n < 2 ^ k) : significant n 1 ≤ 2 ^ k := by
  have log : n.log2 ≤ k := by
    by_cases zero : n = 0
    · simp [zero]
    · exact Nat.le_of_lt ((Nat.log2_lt zero).mpr less)
  obtain ⟨steps, fits⟩ : spacing n ∣ 2 ^ k := Nat.pow_dvd_pow 2 (by omega)
  have few : n / spacing n < steps := by
    rw [Nat.div_lt_iff_lt_mul (spacing_pos n), Nat.mul_comm, ← fits]
    exact less
  simp only [significant, Nat.div_one, Nat.one_mul]
  rw [fits, Nat.mul_comm]
  exact Nat.mul_le_mul_left _ (Nat.le_trans nearest_le_succ few)

theorem short_significant (num den : Nat) : Short (significant num den) := by
  have small : nearest num (den * spacing (num / den)) ≤ 2 ^ 53 := by
    have below : num / (den * spacing (num / den)) < 2 ^ 53 := by
      rw [← Nat.div_div_eq_div_mul]
      exact Nat.div_lt_of_lt_mul (lt_spacing _)
    exact Nat.le_trans nearest_le_succ below
  rcases Nat.lt_or_eq_of_le small with less | same
  · exact ⟨_, _, less, rfl⟩
  · refine ⟨1, 53 + ((num / den).log2 - 52), by decide, ?_⟩
    rw [Nat.one_mul, Nat.pow_add, ← same]
    rfl

theorem two_mul_le_significant (num : Nat) (pos : 0 < den) :
    2 * num ≤ 2 * (den * significant num den) + den * spacing (num / den) := by
  have near := le_two_mul_nearest num (Nat.mul_pos pos (spacing_pos (num / den)))
  rwa [Nat.mul_assoc den, Nat.mul_comm (spacing (num / den))] at near

theorem spacing_le_significant (num den : Nat) :
    spacing (num / den) = 1 ∨ spacing (num / den) * 2 ^ 52 ≤ significant num den := by
  refine (spacing_le (num / den)).imp_right fun long => ?_
  have many : 2 ^ 52 ≤ num / (den * spacing (num / den)) := by
    rw [← Nat.div_div_eq_div_mul, Nat.le_div_iff_mul_le (spacing_pos _), Nat.mul_comm]
    exact long
  rw [Nat.mul_comm]
  exact Nat.mul_le_mul_right _ (Nat.le_trans many div_le_nearest)

/-- A quotient is at most what it is rounded to and half of the last place of that, where the last
place is no less than a unit. -/
theorem le_significant (pos : 0 < den) :
    2 ^ 54 * num ≤ den * (2 * (2 ^ 53 + 1) * significant num den + 2 ^ 53) := by
  have near := two_mul_le_significant num pos
  rcases spacing_le_significant num den with unit | long
  · rw [unit] at near
    rw [Nat.mul_add, Nat.mul_left_comm]
    omega
  · have long := Nat.mul_le_mul_left den long
    rw [← Nat.mul_assoc] at long
    rw [Nat.mul_add, Nat.mul_left_comm]
    omega

theorem significant_of_spacing (unit : spacing n = 1) : significant n 1 = n := by
  simpa [significant, unit] using nearest_mul (n := n) Nat.one_pos

theorem le_significant_one (n : Nat) : 2 ^ 53 * n ≤ (2 ^ 53 + 1) * significant n 1 := by
  have near := two_mul_le_significant n Nat.one_pos
  rcases spacing_le_significant n 1 with unit | long
  · have same := significant_of_spacing (by simpa using unit)
    omega
  · omega

theorem significant_one_le (n : Nat) : 2 ^ 53 * significant n 1 ≤ (2 ^ 53 + 1) * n := by
  rcases spacing_le n with unit | long
  · have same := significant_of_spacing unit
    omega
  · have near := two_mul_nearest_le n (spacing_pos n)
    have rounded : significant n 1 = spacing n * nearest n (spacing n) := by
      rw [significant, Nat.div_one, Nat.one_mul, Nat.mul_comm]
    omega

theorem ofUnits_significant (num den : Nat) :
    ofUnits (significant num den) 1 = ofUnits num den := by
  rw [ofUnits, significant_of_short (short_significant _ _), ofUnits]

theorem scale_one (num den : Nat) : (ofUnits num den).scale 1 = ofUnits num den := by
  unfold ofUnits
  split
  · next below => rw [scale, Nat.mul_one, ofUnits_significant, ofUnits, if_pos below]
  · rfl

theorem zero_add_scale (d : Double) (k : Nat) : (finite 0).add (d.scale k) = d.scale k := by
  cases d with
  | infinite => rfl
  | finite a =>
    rw [scale, ofUnits]
    split
    · next below => rw [add, Nat.zero_add, ofUnits_significant, ofUnits, if_pos below]
    · rfl

end significant

theorem atMost_of_round? {d : Double} (infinite : d.round? = none) : d.atMost n = false := by
  cases d with
  | infinite => rfl
  | finite a => cases infinite

section whole

variable {a b k n : Nat}

def whole (n : Nat) : Double := .finite (n * one)

theorem one_pos : 0 < one := by decide +kernel

theorem exists_one_eq : ∃ e, one = 2 ^ e := ⟨1074, by decide +kernel⟩

theorem short_whole (small : n ≤ 2 ^ 53) : Short (n * one) := by
  obtain ⟨e, same⟩ := exists_one_eq
  rw [same]
  rcases Nat.lt_or_eq_of_le small with less | rfl
  · exact ⟨n, e, less, rfl⟩
  · exact ⟨1, 53 + e, by decide, by rw [Nat.pow_add, Nat.one_mul]⟩

theorem whole_lt_bound (small : n ≤ 2 ^ 53) : n * one < bound :=
  Nat.lt_of_le_of_lt (Nat.mul_le_mul_right one small) (by decide +kernel)

theorem ofUnits_whole (small : n ≤ 2 ^ 53) : ofUnits (n * one) 1 = whole n := by
  rw [ofUnits, significant_of_short (short_whole small), if_pos (whole_lt_bound small), whole]

theorem ofQuotient_whole (small : n ≤ 2 ^ 53) : ofQuotient n 1 = whole n := ofUnits_whole small

theorem scale_whole (small : n * k ≤ 2 ^ 53) : (whole n).scale k = whole (n * k) := by
  rw [whole, scale, Nat.mul_right_comm, ofUnits_whole small]

theorem add_whole (small : a + b ≤ 2 ^ 53) : (whole a).add (whole b) = whole (a + b) := by
  rw [whole, whole, add, ← Nat.add_mul, ofUnits_whole small]

theorem round?_whole (n : Nat) : (whole n).round? = some n := by
  have half : one / 2 < one := Nat.div_lt_self one_pos (by decide)
  rw [whole, round?, Nat.add_comm, Nat.add_mul_div_right _ _ one_pos, Nat.div_eq_of_lt half,
    Nat.zero_add]

theorem atMost_whole : (whole n).atMost k = true ↔ n ≤ k := by
  rw [whole, atMost, decide_eq_true_iff, Nat.mul_le_mul_right_iff one_pos]

end whole

end Storypath.Double
