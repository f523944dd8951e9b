import Mathlib

/-! Texts in the order of their bytes. The bytes of a character in UTF-8 grow with its code, and no
character's bytes are at the front of another's, so that texts are ordered by their bytes as by
their characters. -/
namespace Storypath.Text

def bytes (text : String) : List UInt8 := text.toUTF8.data.toList

theorem bytes_eq (text : String) : bytes text = text.toList.flatMap String.utf8EncodeChar := by
  rw [bytes, String.toUTF8, ← String.utf8Encode_toList, List.utf8Encode]
  simp

theorem bytes_injective : Function.Injective bytes := fun _ _ same =>
  String.toByteArray_inj.mp (ByteArray.ext (Array.toList_inj.mp same))

theorem encode_lt {c d : Char} (less : c < d) (xs ys : List UInt8) :
    String.utf8EncodeChar c ++ xs < String.utf8EncodeChar d ++ ys := by
  have codes : c.val.toNat < d.val.toNat := less
  have bound : d.val.toNat < 1114112 := by
    rcases d.valid with low | ⟨-, high⟩
    · exact lt_trans low (by decide)
    · exact high
  -- the bytes hold six bits of the code each, so it is divided by 64 again and again
  have twice (k : ℕ) : k / 4096 = k / 64 / 64 := by omega
  have thrice (k : ℕ) : k / 262144 = k / 64 / 64 / 64 := by omega
  unfold String.utf8EncodeChar
  generalize c.val.toNat = m at codes ⊢
  generalize d.val.toNat = n at codes bound ⊢
  dsimp only
  split_ifs <;>
    simp only [List.cons_append, List.nil_append, List.cons_lt_cons_iff, UInt8.lt_iff_toNat_lt,
      ← UInt8.toNat_inj, UInt8.toNat_ofNat', twice, thrice] <;>
    omega

theorem encode_ne_nil (c : Char) (xs : List UInt8) : String.utf8EncodeChar c ++ xs ≠ [] := by
  unfold String.utf8EncodeChar
  dsimp only
  split_ifs <;> simp

theorem flatMap_encode_lt : ∀ {cs ds : List Char}, cs < ds →
    cs.flatMap String.utf8EncodeChar < ds.flatMap String.utf8EncodeChar
  | [], [], less => absurd less (List.lt_irrefl _)
  | [], d :: ds, _ => by
    rw [List.flatMap_nil, List.flatMap_cons]
    obtain ⟨byte, more, h⟩ := List.exists_cons_of_ne_nil (encode_ne_nil d (ds.flatMap _))
    rw [h]
    exact List.nil_lt_cons byte more
  | c :: cs, [], less => absurd less (List.not_lt_nil _)
  | c :: cs, d :: ds, less => by
    rw [List.flatMap_cons, List.flatMap_cons]
    rcases List.cons_lt_cons_iff.mp less with before | ⟨rfl, later⟩
    · exact encode_lt before _ _
    · exact List.append_left_lt (flatMap_encode_lt later)

/-- Texts are ordered by their characters as by their bytes. -/
theorem lt_iff_bytes_lt {a b : String} : a < b ↔ bytes a < bytes b := by
  rw [String.lt_iff_toList_lt, bytes_eq, bytes_eq]
  refine ⟨flatMap_encode_lt, fun less => ?_⟩
  rcases lt_trichotomy a.toList b.toList with before | same | after
  · exact before
  · rw [same] at less
    exact absurd less (List.lt_irrefl _)
  · exact absurd (List.lt_trans less (flatMap_encode_lt after)) (List.lt_irrefl _)

end Storypath.Text
