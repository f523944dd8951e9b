import Storypath.Proofs.Json.Layout
import Storypath.Proofs.Json.Spelling
import Storypath.Proofs.Number.Drift

/-! The numbers that are within range. Only the leading digits of a number are read, and each
step of reading it rounds. Main statement: a number below 10^308 is within range however it is
spelt, where its exponent can be read, and so it is passed over under a key that is not known. -/
namespace Storypath.Json

namespace Number

open Double (excess significant)

def power (n : Number) : ℤ :=
  match n.exponent with
  | none => 0
  | some (true, digits) => -Digits.value digits
  | some (false, digits) => Digits.value digits

def magnitude (n : Number) : ℚ :=
  Digits.value (n.whole ++ n.fraction) * 10 ^ (n.power - n.fraction.length)

section digits

variable {value high left : ℕ} {cs : List Char}

def extend (value : ℕ) (cs : List Char) : ℕ := cs.foldl (fun n c => 10 * n + Digits.digit c) value

theorem value_append (cs rest : List Char) :
    Digits.value (cs ++ rest) = extend (Digits.value cs) rest := by
  simp only [Digits.value_eq_foldl, extend, List.foldl_append]

theorem digit_le {c : Char} (digit : c ∈ '0' :: leadingDigits) : Digits.digit c ≤ 9 := by
  have all : ∀ d ∈ '0' :: leadingDigits, Digits.digit d ≤ 9 := by simp [leadingDigits, Digits.digit]
  exact all c digit

theorem mul_le_extend (value : ℕ) (cs : List Char) : value * 10 ^ cs.length ≤ extend value cs := by
  induction cs generalizing value with
  | nil => simp [extend]
  | cons c cs ih =>
    calc value * 10 ^ (c :: cs).length = 10 * value * 10 ^ cs.length := by
          rw [List.length_cons, pow_succ]
          ring
      _ ≤ (10 * value + Digits.digit c) * 10 ^ cs.length := by gcongr; omega
      _ ≤ extend value (c :: cs) := ih _

theorem extend_lt (value : ℕ) (all : AllDigits cs) :
    extend value cs < (value + 1) * 10 ^ cs.length := by
  induction cs generalizing value with
  | nil => simp [extend]
  | cons c cs ih =>
    obtain ⟨first, all⟩ := List.forall_mem_cons.mp all
    have small := digit_le first
    calc extend value (c :: cs) < (10 * value + Digits.digit c + 1) * 10 ^ cs.length := ih _ all
      _ ≤ 10 * (value + 1) * 10 ^ cs.length := by gcongr; omega
      _ = (value + 1) * 10 ^ (c :: cs).length := by
          rw [List.length_cons, pow_succ]
          ring

theorem mul_le_of_leading (read : leading value cs = (high, left)) :
    high * 10 ^ left ≤ extend value cs := by
  induction cs generalizing value with
  | nil =>
    obtain ⟨rfl, rfl⟩ := Prod.mk.inj read
    simp [extend]
  | cons c cs ih =>
    unfold leading at read
    split at read
    · exact ih read
    · obtain ⟨rfl, rfl⟩ := Prod.mk.inj read
      exact mul_le_extend _ (c :: cs)

theorem all_or_long (read : leading value cs = (high, left)) (all : AllDigits cs) :
    left = 0 ∧ high = extend value cs ∨ 2 ^ 60 ≤ high := by
  induction cs generalizing value with
  | nil =>
    obtain ⟨rfl, rfl⟩ := Prod.mk.inj read
    exact .inl ⟨rfl, rfl⟩
  | cons c cs ih =>
    obtain ⟨first, all⟩ := List.forall_mem_cons.mp all
    have small := digit_le first
    unfold leading at read
    split at read
    · exact ih read all
    · next full =>
      obtain ⟨rfl, rfl⟩ := Prod.mk.inj read
      have full : 2 ^ 64 ≤ 10 * value + Digits.digit c := not_lt.mp full
      exact .inr (by omega)

end digits

section reading

variable {n : Number} {high left c unread : ℕ}

/-- What is read of the digits is at most their value, apart from what a rounding makes up. Where
digits before the point are left over, those after it may still be read in their place. -/
theorem taken_le (whole : AllDigits n.whole) (fraction : AllDigits n.fraction)
    (first : leading 0 n.whole = (high, left))
    (second : leading high n.fraction = (c, unread)) :
    (c * 10 ^ unread * 10 ^ left : ℚ) ≤ Digits.value (n.whole ++ n.fraction) * excess := by
  have pos := Double.excess_pos
  have taken := mul_le_of_leading second
  rw [value_append]
  rcases all_or_long first whole with ⟨rfl, rfl⟩ | long
  · have taken : (c * 10 ^ unread : ℚ) ≤ extend (Digits.value n.whole) n.fraction := by
      rw [Digits.value_eq_foldl]
      exact_mod_cast taken
    rw [pow_zero, mul_one]
    exact taken.trans (le_mul_of_one_le_right (by positivity) Double.one_le_excess)
  · have taken : (c * 10 ^ unread : ℚ) ≤ (high + 1) * 10 ^ n.fraction.length := by
      exact_mod_cast taken.trans (extend_lt high fraction).le
    have one_more : (high + 1 : ℚ) ≤ high * excess := by
      have long : (2 ^ 60 : ℚ) ≤ high := by exact_mod_cast long
      simp only [excess]
      linarith
    have front : (high * 10 ^ left : ℚ) ≤ Digits.value n.whole := by
      rw [Digits.value_eq_foldl]
      exact_mod_cast mul_le_of_leading first
    have all : (Digits.value n.whole * 10 ^ n.fraction.length : ℚ) ≤
        extend (Digits.value n.whole) n.fraction := by
      exact_mod_cast mul_le_extend _ _
    calc (c * 10 ^ unread * 10 ^ left : ℚ)
        ≤ (high + 1) * 10 ^ n.fraction.length * 10 ^ left := by gcongr
      _ ≤ high * excess * 10 ^ n.fraction.length * 10 ^ left := by gcongr
      _ = high * 10 ^ left * 10 ^ n.fraction.length * excess := by ring
      _ ≤ Digits.value n.whole * 10 ^ n.fraction.length * excess := by gcongr
      _ ≤ extend (Digits.value n.whole) n.fraction * excess := by gcongr

theorem coefficient_le (whole : AllDigits n.whole) (fraction : AllDigits n.fraction)
    (first : leading 0 n.whole = (high, left))
    (second : leading high n.fraction = (c, unread)) :
    (c * 10 ^ (left - (n.fraction.length - unread : ℤ)) : ℚ) ≤
      Digits.value (n.whole ++ n.fraction) * excess * 10 ^ (-n.fraction.length : ℤ) := by
  have shift : (left - (n.fraction.length - unread : ℤ)) = unread + left + -n.fraction.length := by
    ring
  have taken := taken_le whole fraction first second
  calc (c * 10 ^ (left - (n.fraction.length - unread : ℤ)) : ℚ)
      = c * 10 ^ unread * 10 ^ left * 10 ^ (-n.fraction.length : ℤ) := by
        rw [shift, zpow_add₀ (by norm_num), zpow_add₀ (by norm_num), zpow_natCast, zpow_natCast]
        ring
    _ ≤ _ := by gcongr

theorem room_of_roundings : (10 ^ 308 * excess ^ 4 : ℚ) < (Nat.pow 2 1024 : ℕ) := by
  have whole : 10 ^ 308 * (2 ^ 53 + 1) ^ 4 < Nat.pow 2 1024 * (2 ^ 53) ^ 4 := by decide +kernel
  have quotient : excess = (2 ^ 53 + 1) / 2 ^ 53 := by norm_num [excess]
  generalize Nat.pow 2 1024 = bound at whole ⊢
  rw [quotient, div_pow, ← mul_div_assoc, div_lt_iff₀ (by positivity)]
  exact_mod_cast whole

theorem productFits_iff {e : ℕ} :
    productFits c e = true ↔
      c = 0 ∨ e ≤ 308 ∧
        significant (significant c 1 * significant (10 ^ e) 1) 1 < Nat.pow 2 1024 := by
  unfold productFits
  generalize Nat.pow 2 1024 = bound
  simp

theorem productFits_of_lt {e : ℕ} (small : (c * 10 ^ e : ℚ) < 10 ^ 308 * excess) :
    productFits c e = true := by
  rcases Nat.eq_zero_or_pos c with rfl | pos
  · rfl
  have short : e ≤ 308 := by
    have least : (1 : ℚ) ≤ c := by exact_mod_cast pos
    have below : (10 ^ e : ℚ) < 10 ^ 309 := by
      calc (10 ^ e : ℚ) ≤ c * 10 ^ e := le_mul_of_one_le_left (by positivity) least
        _ < 10 ^ 308 * excess := small
        _ < 10 ^ 308 * 10 := by
          gcongr
          norm_num [excess]
        _ = 10 ^ 309 := (pow_succ _ _).symm
    exact Nat.le_of_lt_succ ((pow_lt_pow_iff_right₀ (by norm_num)).mp below)
  have fits : significant (significant c 1 * significant (10 ^ e) 1) 1 < Nat.pow 2 1024 := by
    have first := Double.significant_le_cast c
    have second := Double.significant_le_cast (10 ^ e)
    have product := Double.significant_le_cast (significant c 1 * significant (10 ^ e) 1)
    have pos := Double.excess_pos
    push_cast at second product
    rw [← Nat.cast_lt (α := ℚ)]
    calc (significant (significant c 1 * significant (10 ^ e) 1) 1 : ℚ)
        ≤ significant c 1 * significant (10 ^ e) 1 * excess := product
      _ ≤ c * excess * (10 ^ e * excess) * excess := by gcongr
      _ = c * 10 ^ e * excess ^ 3 := by ring
      _ < 10 ^ 308 * excess * excess ^ 3 := by gcongr
      _ = 10 ^ 308 * excess ^ 4 := by rw [mul_assoc, ← pow_succ']
      _ < _ := room_of_roundings
  exact productFits_iff.mpr (.inr ⟨short, fits⟩)

end reading

/-- A number below 10^308 is within range, however it is spelt. -/
theorem inRange_of_magnitude_lt {n : Number} {cs : List Char} (spelt : NumberSpelt n cs)
    (small : n.magnitude < 10 ^ 308)
    (readable : ∀ digits, n.exponent = some (false, digits) → Digits.value digits ≤ maxExponent) :
    n.inRange = true := by
  obtain ⟨whole, fraction, -⟩ := spelt
  rcases first : leading 0 n.whole with ⟨high, left⟩
  rcases second : leading high n.fraction with ⟨c, unread⟩
  have coefficient := coefficient_le whole.allDigits fraction.allDigits first second
  have fits (total : ℤ) (same : total = left - (n.fraction.length - unread : ℤ) + n.power) :
      total < 0 ∨ productFits c total.toNat = true := by
    refine or_iff_not_imp_left.mpr fun nonneg => productFits_of_lt ?_
    obtain ⟨e, rfl⟩ := Int.eq_ofNat_of_zero_le (not_lt.mp nonneg)
    have pos := Double.excess_pos
    calc (c * 10 ^ e : ℚ)
        = c * 10 ^ (left - (n.fraction.length - unread : ℤ)) * 10 ^ n.power := by
          rw [mul_assoc, ← zpow_add₀ (by norm_num), ← same, zpow_natCast]
      _ ≤ Digits.value (n.whole ++ n.fraction) * excess * 10 ^ (-n.fraction.length : ℤ) *
          10 ^ n.power := by gcongr
      _ = n.magnitude * excess := by
          rw [magnitude, sub_eq_add_neg, zpow_add₀ (by norm_num)]
          ring
      _ < 10 ^ 308 * excess := by gcongr
  simp only [inRange, first, second]
  cases written : n.exponent with
  | none =>
    rcases fits (left - (n.fraction.length - unread)) (by simp [power, written]) with neg | fits
    · simp [neg]
    · simp [fits]
  | some exponent =>
    obtain ⟨negative, digits⟩ := exponent
    cases negative with
    | true =>
      have fits := fits (left - (n.fraction.length - unread) - Digits.value digits)
        (by simp [power, written, sub_eq_add_neg])
      simpa using (.inr fits : maxExponent < Digits.value digits ∨ _)
    | false =>
      have fits := fits (left - (n.fraction.length - unread) + Digits.value digits)
        (by simp [power, written])
      simpa [readable digits written] using fits

end Number

theorem Spelt.number_of_mem {ts : List Token} {cs : List Char} {n : Number} (spelt : Spelt ts cs)
    (mem : .number n ∈ ts) : ∃ digits, NumberSpelt n digits := by
  induction spelt with
  | nil => simp at mem
  | cons blank token later ih =>
    rcases List.mem_cons.mp mem with rfl | mem
    · cases token with
      | written closed => simp [Token.closed] at closed
      | number digits => exact ⟨_, digits⟩
    · exact ih mem

namespace Value

variable {n : Number}

theorem number_mem_memberTokens {members : List (Option String × Value)} {k : Option String}
    (mem : (k, .number n) ∈ members) : .number n ∈ memberTokens members := by
  induction members with
  | nil => simp at mem
  | cons m ms ih =>
    obtain ⟨key, v⟩ := m
    have here : .number n ∈ v.tokens ∨ (k, .number n) ∈ ms := by
      rcases List.mem_cons.mp mem with same | later
      · obtain ⟨-, rfl⟩ := Prod.mk.inj same
        exact .inl (by simp [tokens])
      · exact .inr later
    cases ms with
    | nil => simpa [memberTokens] using here
    | cons m' ms' =>
      rcases here with here | later
      · simp [memberTokens, here]
      · simp [memberTokens, ih later]

theorem Plain.of_magnitude_lt {members : List (String × Value)} {k : String} {cs : List Char}
    (spelt : Spelt (ofMembers members).tokens cs) (mem : (k, .number n) ∈ members)
    (small : n.magnitude < 10 ^ 308)
    (readable : ∀ digits, n.exponent = some (false, digits) →
      Digits.value digits ≤ Number.maxExponent) : Plain (.number n) := by
  have inside : .number n ∈ memberTokens (members.map fun m => (some m.1, m.2)) :=
    number_mem_memberTokens (List.mem_map.mpr ⟨_, mem, rfl⟩)
  obtain ⟨digits, written⟩ := spelt.number_of_mem (List.mem_cons_of_mem _ inside)
  exact .number (Number.inRange_of_magnitude_lt written small readable)

end Value
end Storypath.Json
