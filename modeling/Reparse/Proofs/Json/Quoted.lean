import Mathlib.Tactic.SplitIfs
import Reparse.Json.Quoted

namespace Reparse

namespace Quoted

theorem hexValue?_digitChar (value : Nat) (small : value < 16) :
    hexValue? (Nat.digitChar value) = some value := by
  have all : ∀ value < 16, hexValue? (Nat.digitChar value) = some value := by decide
  exact all value small

theorem unescape?_control {c : Char} (control : c.toNat < 0x20) (rest : List Char) :
    unescape? ('u' :: '0' :: '0' :: Nat.digitChar (c.toNat / 16) ::
      Nat.digitChar (c.toNat % 16) :: rest) = some (c, rest) := by
  have high := hexValue?_digitChar (c.toNat / 16) (by omega)
  have low := hexValue?_digitChar (c.toNat % 16) (by omega)
  have zero : hexValue? '0' = some 0 := by decide
  have total : (0 * 16 + 0) * 16 + c.toNat / 16 = c.toNat / 16 := by omega
  have value : c.toNat / 16 * 16 + c.toNat % 16 = c.toNat := by omega
  have unit : unit? ('0' :: '0' :: Nat.digitChar (c.toNat / 16) ::
      Nat.digitChar (c.toNat % 16) :: rest) = some (c.toNat, rest) := by
    simp only [unit?, zero, high, low, Option.bind_eq_bind, Option.bind_some, total, value]
    rfl
  have plain : c.toNat < 0xD800 ∨ 0xDFFF < c.toNat := .inl (by omega)
  simp only [unescape?, unit, if_pos plain, Char.ofNat_toNat]

theorem escape_cases (c : Char) :
    (escape c = [c] ∧ c ≠ '"' ∧ c ≠ '\\' ∧ ¬c.toNat < 0x20) ∨
      ∃ code, escape c = '\\' :: code ∧ ∀ rest, unescape? (code ++ rest) = some (c, rest) := by
  by_cases named : c = '"' ∨ c = '\\' ∨ c = '\n' ∨ c = '\r' ∨ c = '\t' ∨ c = '\x08' ∨ c = '\x0c'
  · right
    rcases named with rfl | rfl | rfl | rfl | rfl | rfl | rfl
    all_goals exact ⟨_, rfl, fun _ => rfl⟩
  · simp only [not_or] at named
    obtain ⟨quote, backslash, newline, carriage, tab, backspace, formFeed⟩ := named
    simp only [escape, if_neg quote, if_neg backslash, if_neg newline, if_neg carriage, if_neg tab,
      if_neg backspace, if_neg formFeed]
    by_cases control : c.toNat < 0x20
    · rw [if_pos control]
      exact .inr ⟨_, rfl, unescape?_control control⟩
    · rw [if_neg control]
      exact .inl ⟨rfl, quote, backslash, control⟩

theorem digitChar_ne (value : Nat) (small : value < 16) :
    Nat.digitChar value ≠ '"' ∧ Nat.digitChar value ≠ '\\' := by
  have all : ∀ value < 16, Nat.digitChar value ≠ '"' ∧ Nat.digitChar value ≠ '\\' := by decide
  exact all value small

section Skips

variable {β : Type} (reader : List Char → β)
  (plain : ∀ c rest, c ≠ '"' → c ≠ '\\' → reader (c :: rest) = reader rest)
  (escaped : ∀ c rest, reader ('\\' :: c :: rest) = reader rest)

include plain escaped

/-- No escape ends the quoted text it stands in: what skips plain characters, and a backslash with
the character behind it, skips an escape. -/
theorem skips_escape (c : Char) (rest : List Char) : reader (escape c ++ rest) = reader rest := by
  unfold escape
  split_ifs with quote backslash newline carriage tab backspace formFeed control
  · exact escaped _ rest
  · exact escaped _ rest
  · exact escaped _ rest
  · exact escaped _ rest
  · exact escaped _ rest
  · exact escaped _ rest
  · exact escaped _ rest
  · obtain ⟨highQuote, highBackslash⟩ := digitChar_ne (c.toNat / 16) (by omega)
    obtain ⟨lowQuote, lowBackslash⟩ := digitChar_ne (c.toNat % 16) (by omega)
    have zero (rest : List Char) : reader ('0' :: rest) = reader rest :=
      plain '0' rest (by decide) (by decide)
    calc reader ('\\' :: 'u' :: '0' :: '0' :: Nat.digitChar (c.toNat / 16) ::
          Nat.digitChar (c.toNat % 16) :: rest) =
        reader (Nat.digitChar (c.toNat / 16) :: Nat.digitChar (c.toNat % 16) :: rest) := by
          rw [escaped, zero, zero]
      _ = reader rest := by
          rw [plain _ _ highQuote highBackslash, plain _ _ lowQuote lowBackslash]
  · exact plain c rest quote backslash

theorem skips_escapes (text rest : List Char) :
    reader (text.flatMap escape ++ rest) = reader rest := by
  induction text with
  | nil => rfl
  | cons c text induction =>
      rw [List.flatMap_cons, List.append_assoc, skips_escape reader plain escaped, induction]

end Skips

theorem decodeWithin_escape (text rest : List Char) (fuel : Nat)
    (enough : (text.flatMap escape ++ '"' :: rest).length ≤ fuel) :
    decodeWithin fuel (text.flatMap escape ++ '"' :: rest) = some (text, rest) := by
  induction text generalizing fuel with
  | nil =>
      cases fuel with
      | zero => simp at enough
      | succ fuel => simp [decodeWithin]
  | cons c text induction =>
      rw [List.flatMap_cons, List.append_assoc] at enough ⊢
      generalize List.flatMap escape text ++ '"' :: rest = following at enough induction ⊢
      rcases escape_cases c with ⟨plain, quote, backslash, control⟩ | ⟨code, coded, reads⟩
      · rw [plain, List.singleton_append] at enough ⊢
        cases fuel with
        | zero => simp at enough
        | succ fuel =>
            have step := induction fuel (by simpa using enough)
            simp [decodeWithin, if_neg quote, if_neg backslash, if_neg control, step]
      · rw [coded] at enough ⊢
        cases fuel with
        | zero => simp at enough
        | succ fuel =>
            have step := induction fuel (by simp at enough; omega)
            simp [decodeWithin, reads, step]

theorem decode?_escape (text rest : List Char) :
    decode? (text.flatMap escape ++ '"' :: rest) = some (text, rest) :=
  decodeWithin_escape text rest _ (Nat.le_refl _)

/-- The string at the front of a text, and what follows it, are told by the text. -/
theorem encode_append_inj {left right leftRest rightRest : List Char}
    (same : encode left ++ leftRest = encode right ++ rightRest) :
    left = right ∧ leftRest = rightRest := by
  have bodies : left.flatMap escape ++ '"' :: leftRest =
      right.flatMap escape ++ '"' :: rightRest := by
    simpa [encode] using same
  have read := decode?_escape left leftRest
  rw [bodies, decode?_escape, Option.some.injEq, Prod.mk.injEq] at read
  exact ⟨read.1.symm, read.2.symm⟩

end Quoted

end Reparse
