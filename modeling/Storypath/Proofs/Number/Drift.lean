import Storypath.Proofs.Number.Rounding

/-! How far a double falls behind the exact number. Each rounding loses half of a last place at
most, so that what is lost on the way grows by a factor with each; a quotient may lose half a unit
besides. Main statements: what a product and a sum lose. -/
namespace Storypath.Double

def excess : ℚ := 1 + 1 / 2 ^ 53

theorem one_le_excess : 1 ≤ excess := by norm_num [excess]

theorem excess_pos : 0 < excess := by norm_num [excess]

theorem cast_le_significant (n : ℕ) : (n : ℚ) ≤ significant n 1 * excess := by
  have bound : (2 ^ 53 * n : ℚ) ≤ (2 ^ 53 + 1) * significant n 1 := by
    exact_mod_cast le_significant_one n
  simp only [excess]
  linarith

theorem significant_le_cast (n : ℕ) : (significant n 1 : ℚ) ≤ n * excess := by
  have bound : (2 ^ 53 * significant n 1 : ℚ) ≤ (2 ^ 53 + 1) * n := by
    exact_mod_cast significant_one_le n
  simp only [excess]
  linarith

theorem div_le_significant (num : ℕ) {den : ℕ} (pos : 0 < den) :
    (num / den : ℚ) ≤ significant num den * excess + 1 / 2 := by
  have bound : (2 ^ 54 * num : ℚ) ≤ den * (2 * (2 ^ 53 + 1) * significant num den + 2 ^ 53) := by
    exact_mod_cast le_significant pos
  have pos : (0 : ℚ) < den := by exact_mod_cast pos
  rw [div_le_iff₀ pos]
  simp only [excess]
  linarith

/-- A double, if it is finite, falls behind a number of units by some roundings and a rest. -/
def Follows (d : Double) (x : ℚ) (roundings : ℕ) (rest : ℚ) : Prop :=
  ∀ a, d = .finite a → x ≤ a * excess ^ roundings + rest

section follows

variable {d d' : Double} {x x' rest rest' : ℚ} {k num den : ℕ}

theorem Follows.mono {k' : ℕ} (follows : d.Follows x k rest) (le : k ≤ k') :
    d.Follows x k' rest := by
  intro a same
  have more := pow_le_pow_right₀ one_le_excess le
  have pos : (0 : ℚ) ≤ a := Nat.cast_nonneg a
  calc x ≤ a * excess ^ k + rest := follows a same
    _ ≤ a * excess ^ k' + rest := by gcongr

theorem eq_significant_of_ofUnits {a : ℕ} (same : ofUnits num den = .finite a) :
    a = significant num den := by
  unfold ofUnits at same
  split at same
  · exact (Double.finite.inj same).symm
  · cases same

theorem follows_ofQuotient (n : ℕ) (pos : 0 < den) :
    (ofQuotient n den).Follows (n / den * one) 1 (1 / 2) := by
  intro a same
  obtain rfl := eq_significant_of_ofUnits same
  have bound := div_le_significant (n * one) pos
  rw [pow_one]
  calc (n / den * one : ℚ) = (n * one : ℕ) / den := by push_cast; ring
    _ ≤ _ := bound

theorem Follows.scale (follows : d.Follows x k rest) (n : ℕ) :
    (d.scale n).Follows (x * n) (k + 1) (rest * n) := by
  intro a same
  cases d with
  | infinite => cases same
  | finite b =>
    obtain rfl := eq_significant_of_ofUnits same
    have before := follows b rfl
    have bound := cast_le_significant (b * n)
    have pos := pow_pos excess_pos k
    push_cast at bound
    calc x * n ≤ (b * excess ^ k + rest) * n := by gcongr
      _ = b * n * excess ^ k + rest * n := by ring
      _ ≤ significant (b * n) 1 * excess * excess ^ k + rest * n := by gcongr
      _ = significant (b * n) 1 * excess ^ (k + 1) + rest * n := by ring

theorem Follows.add (follows : d.Follows x k rest) (follows' : d'.Follows x' k rest') :
    (d.add d').Follows (x + x') (k + 1) (rest + rest') := by
  intro a same
  cases d with
  | infinite => cases same
  | finite b =>
    cases d' with
    | infinite => cases same
    | finite b' =>
      obtain rfl := eq_significant_of_ofUnits same
      have first := follows b rfl
      have second := follows' b' rfl
      have bound := cast_le_significant (b + b')
      have pos := pow_pos excess_pos k
      push_cast at bound
      calc x + x' ≤ (b + b') * excess ^ k + (rest + rest') := by linarith
        _ ≤ significant (b + b') 1 * excess * excess ^ k + (rest + rest') := by gcongr
        _ = significant (b + b') 1 * excess ^ (k + 1) + (rest + rest') := by ring

end follows
end Storypath.Double
