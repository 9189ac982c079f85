import Mathlib.Data.List.Lex
import Reparse.Text.Utf8

namespace Reparse

namespace Utf8

theorem encode_eq_flatMap (text : String) :
    encode text = text.toList.flatMap String.utf8EncodeChar := by
  rw [encode, String.toUTF8_eq_toByteArray, ← String.utf8Encode_toList, List.utf8Encode]
  exact List.toList_data_toByteArray

/-- The bytes of a character come before those of a larger one, whatever follows either. -/
theorem octets_lt {c d : Char} (smaller : c < d) (rest other : Bytes) :
    String.utf8EncodeChar c ++ rest < String.utf8EncodeChar d ++ other := by
  have values : c.val.toNat < d.val.toNat := smaller
  have bound : d.val.toNat < 0x110000 := by
    rcases d.valid with below | ⟨-, above⟩
    · exact Nat.lt_trans below (by decide)
    · exact above
  unfold String.utf8EncodeChar
  generalize c.val.toNat = low at values
  generalize d.val.toNat = high at values bound
  dsimp only
  -- One case for each pair of lengths; without the wrap of bytes the rest is linear arithmetic.
  repeat' split
  all_goals
    simp (disch := omega) only [List.cons_append, List.cons_lt_cons_iff,
      UInt8.lt_iff_toNat_lt, ← UInt8.toNat_inj, UInt8.toNat_ofNat', Nat.reducePow,
      Nat.mod_eq_of_lt]
    omega

theorem flatMap_octets_lt {left right : List Char} (smaller : left < right) :
    left.flatMap String.utf8EncodeChar < right.flatMap String.utf8EncodeChar := by
  induction smaller with
  | @nil c rest =>
      obtain ⟨lead, others, octets⟩ :=
        List.exists_cons_of_ne_nil (String.utf8EncodeChar_ne_nil (c := c))
      rw [List.flatMap_cons, octets]
      exact .nil
  | rel less => exact octets_lt less _ _
  | cons _ induction =>
      rw [List.flatMap_cons, List.flatMap_cons]
      exact List.Lex.append_left _ induction _

theorem encode_lt_encode {left right : String} : encode left < encode right ↔ left < right := by
  have mono {left right : String} (smaller : left < right) : encode left < encode right := by
    rw [encode_eq_flatMap, encode_eq_flatMap]
    exact flatMap_octets_lt smaller
  refine ⟨fun smaller => ?_, mono⟩
  apply Decidable.byContradiction
  intro notLess
  rcases Decidable.em (right < left) with larger | notLarger
  · exact List.lt_asymm smaller (mono larger)
  · obtain rfl := String.le_antisymm notLarger notLess
    exact List.lt_irrefl _ smaller

end Utf8

end Reparse
