import Reparse.Minilang.Token
import Reparse.Proofs.Binary64.NumeralText

/-!
Numbers that the lexer reads, and what it makes of their own texts.

A number text is digits with at most a point among them, or it has an exponent, or it is the name of
infinity.  Of these the lexer reads the first kind back as the number.
-/

namespace Reparse

theorem Binary64.nearestDecimalCode_le (digits : Nat) (exponent : Int) :
    nearestDecimalCode digits exponent ≤ infinityCode := by
  unfold nearestDecimalCode
  split
  · exact Nat.zero_le _
  · split
    · exact Nat.le_refl _
    · split
      · exact Nat.zero_le _
      · split
        · exact Nat.min_le_left _ _
        · exact Nat.min_le_left _ _

namespace Minilang

def IsMagnitude (x : Binary64) : Prop :=
  ∃ code, code ≤ Binary64.infinityCode ∧ x = .ofCode false code

def HasExponent (x : Binary64) : Prop :=
  'e' ∈ x.scriptText
deriving Decidable

/-- Numbers whose text has no exponent and is not the name of infinity. -/
def IsPlain (x : Binary64) : Prop :=
  ¬HasExponent x ∧ x.scriptText ≠ "Infinity".toList
deriving Decidable

theorem isMagnitude_numberValue (whole fraction : List Char) :
    IsMagnitude (numberValue whole fraction) :=
  ⟨_, Binary64.nearestDecimalCode_le _ _, rfl⟩

theorem digitsValue_eq_valueOfDigits {digits : List Char} (all : ∀ c ∈ digits, c.isDigit = true) :
    digitsValue digits = Decimal.valueOfDigits digits := by
  rw [Decimal.valueOfDigits, List.filter_eq_self.2 all, Nat.ofDigitChars_eq_foldl, digitsValue]
  simp only [Nat.mul_comm]

def pointText (whole fraction : List Char) : List Char :=
  whole ++ if fraction = [] then [] else '.' :: fraction

theorem mem_pointText {whole fraction : List Char} (wholeDigits : ∀ c ∈ whole, c.isDigit = true)
    (fractionDigits : ∀ c ∈ fraction, c.isDigit = true) {c : Char}
    (member : c ∈ pointText whole fraction) : c.isDigit = true ∨ c = '.' := by
  rcases List.mem_append.1 member with member | member
  · exact .inl (wholeDigits c member)
  · split at member
    · contradiction
    · rcases List.mem_cons.1 member with rfl | member
      · exact .inr rfl
      · exact .inl (fractionDigits c member)

/-- The lexer makes of digits the number that they denote. -/
theorem numberValue_eq_ofScriptText {whole fraction : List Char} (begun : whole ≠ [])
    (wholeDigits : ∀ c ∈ whole, c.isDigit = true)
    (fractionDigits : ∀ c ∈ fraction, c.isDigit = true) :
    numberValue whole fraction = .ofScriptText (pointText whole fraction) := by
  obtain ⟨lead, others, rfl⟩ := List.exists_cons_of_ne_nil begun
  have digit : lead.isDigit = true := wholeDigits lead List.mem_cons_self
  have decimal : Decimal.ofText (pointText (lead :: others) fraction) =
      ⟨digitsValue (lead :: others ++ fraction), -(fraction.length : Int)⟩ := by
    have digits : ∀ c ∈ lead :: others ++ fraction, c.isDigit = true := fun c member =>
      (List.mem_append.1 member).elim (wholeDigits c) (fractionDigits c)
    rw [digitsValue_eq_valueOfDigits digits, pointText]
    split
    · next none =>
        subst none
        simpa using Decimal.ofText_whole (lead :: others) [] wholeDigits (by simp)
    · simpa using
        Decimal.ofText_point (lead :: others) fraction [] wholeDigits fractionDigits (by simp)
  have unsigned := Binary64.ofScriptText_signText false
    (others ++ if fraction = [] then [] else '.' :: fraction)
    (Decimal.isDigit_ne digit (by decide)) (Decimal.isDigit_ne digit (by decide))
  have notInfinity : ¬(pointText (lead :: others) fraction).head? = some 'I' := by
    simpa [pointText] using Decimal.isDigit_ne digit (by decide)
  have text : Binary64.ofScriptText (pointText (lead :: others) fraction) =
      .magnitudeOfText false (pointText (lead :: others) fraction) := unsigned
  rw [text, Binary64.magnitudeOfText, if_neg notInfinity, decimal]
  rfl

inductive NumberShape (x : Binary64) : List Char → Prop where
  | plain (whole fraction : List Char) (begun : whole ≠ [])
      (wholeDigits : ∀ c ∈ whole, c.isDigit = true)
      (fractionDigits : ∀ c ∈ fraction, c.isDigit = true)
      (value : numberValue whole fraction = x) : NumberShape x (pointText whole fraction)
  | infinity : NumberShape x ['I', 'n', 'f', 'i', 'n', 'i', 't', 'y']
  | scientific (lead : Char) (fraction : List Char) (power : Int) (digit : lead.isDigit = true)
      (fractionDigits : ∀ c ∈ fraction, c.isDigit = true) :
      NumberShape x (pointText [lead] fraction ++ NumeralStyle.script.exponentText power)

namespace IsMagnitude

variable {x : Binary64}

theorem parts (magnitude : IsMagnitude x) :
    x.negative = false ∧ x.code ≤ Binary64.infinityCode ∧ x.representative = x := by
  obtain ⟨code, small, rfl⟩ := magnitude
  have size : code < Binary64.signSize := Nat.lt_of_le_of_lt small (by decide)
  have bits : (Binary64.ofCode false code).bits.toNat = code := by
    have word : Binary64.signSize < 2 ^ 64 := by decide
    simp only [Binary64.ofCode, Bool.false_eq_true, if_false, Nat.add_zero, UInt64.toNat_ofNat']
    exact Nat.mod_eq_of_lt (Nat.lt_trans size word)
  have sign : (Binary64.ofCode false code).negative = false := by
    simpa [Binary64.negative, bits] using size
  have codeIs : (Binary64.ofCode false code).code = code := by
    rw [Binary64.code, bits, Nat.mod_eq_of_lt size]
  refine ⟨sign, by rw [codeIs]; exact small, ?_⟩
  rcases Nat.eq_zero_or_pos code with rfl | positive
  · rfl
  · exact Binary64.representative_of_code (by rw [codeIs]; exact positive)
      (by rw [codeIs]; exact small)

theorem shape (magnitude : IsMagnitude x) : NumberShape x x.scriptText := by
  obtain ⟨sign, small, same⟩ := magnitude.parts
  have denotes := x.ofScriptText_scriptText
  rw [same] at denotes
  have digits {decimal : Decimal} {c : Char} (member : c ∈ decimal.digitChars) :
      c.isDigit = true := Decimal.isDigit_of_mem_digitChars member
  have zeros {count : Nat} {c : Char} (member : c ∈ List.replicate count '0') :
      c.isDigit = true := by
    rw [List.eq_of_mem_replicate member]
    decide
  have plain (whole fraction : List Char) (text : x.scriptText = pointText whole fraction)
      (begun : whole ≠ []) (wholeDigits : ∀ c ∈ whole, c.isDigit = true)
      (fractionDigits : ∀ c ∈ fraction, c.isDigit = true) : NumberShape x x.scriptText := by
    rw [text]
    refine .plain whole fraction begun wholeDigits fractionDigits ?_
    rw [numberValue_eq_ofScriptText begun wholeDigits fractionDigits, ← text, denotes]
  rcases x.kind_cases with nan | zero | infinite | ⟨positive, finite⟩
  · simp only [Binary64.isNaN, decide_eq_true_eq] at nan
    omega
  · exact plain ['0'] [] (Binary64.scriptText_of_isZero zero) (by simp) (by simp) (by simp)
  · rw [Binary64.scriptText_of_isInfinite infinite, sign]
    exact .infinity
  · have text := Binary64.scriptText_of_positive positive finite
    have unsigned : NumeralStyle.signText false = [] := rfl
    rw [sign, unsigned, List.nil_append] at text
    have layout := Decimal.layout_positiveText (Decimal.shortest .up x.code)
    generalize NumeralStyle.script.positiveText (Decimal.shortest .up x.code) = numeral
      at text layout
    cases layout with
    | whole count shift =>
        refine plain ((Decimal.shortest .up x.code).digitChars ++ List.replicate count '0') []
          (by simpa [pointText] using text) (by simp [Decimal.digitChars_ne_nil]) ?_ (by simp)
        exact fun c member => (List.mem_append.1 member).elim digits zeros
    | pointInside whole fraction halves begun ended shift =>
        refine plain whole fraction (by simpa [pointText, ended] using text) begun ?_ ?_
        · exact fun c member => digits (halves ▸ List.mem_append_left _ member)
        · exact fun c member => digits (halves ▸ List.mem_append_right _ member)
    | pointBefore count shift =>
        have ended : List.replicate count '0' ++ (Decimal.shortest .up x.code).digitChars ≠ [] := by
          simp [Decimal.digitChars_ne_nil]
        refine plain ['0'] (List.replicate count '0' ++ (Decimal.shortest .up x.code).digitChars)
          (by rw [pointText, if_neg ended]; exact text) (by simp) (by simp) ?_
        exact fun c member => (List.mem_append.1 member).elim zeros digits
    | scientific lead fraction power halves shift =>
        have wanted := NumberShape.scientific (x := x) lead fraction power
          (digits (halves ▸ List.mem_cons_self))
          (fun c member => digits (halves ▸ List.mem_cons_of_mem _ member))
        simpa [text, pointText] using wanted

theorem scientific_shape (magnitude : IsMagnitude x) (exponent : HasExponent x) :
    ∃ lead fraction power, lead.isDigit = true ∧ (∀ c ∈ fraction, c.isDigit = true) ∧
      x.scriptText = pointText [lead] fraction ++ NumeralStyle.script.exponentText power := by
  have shape := magnitude.shape
  simp only [HasExponent] at exponent
  generalize x.scriptText = text at shape exponent
  cases shape with
  | plain whole fraction begun wholeDigits fractionDigits value =>
      exact absurd (mem_pointText wholeDigits fractionDigits exponent) (by decide)
  | infinity => exact absurd exponent (by decide)
  | scientific lead fraction power digit fractionDigits =>
      exact ⟨lead, fraction, power, digit, fractionDigits, rfl⟩

end IsMagnitude

end Minilang

end Reparse
