import Mathlib.Data.Bool.AllAny
import Reparse.Binary64.Numeral
import Reparse.Proofs.Binary64.ReadBack

/-!
Number texts say which number they are.

The text of a positive decimal has one of four layouts.  Each of them, read as a decimal, gives back
the decimal, so two doubles share a text only when they are the same number or both no number.
-/

namespace Reparse

namespace Decimal

def digitChars (decimal : Decimal) : List Char :=
  Nat.toDigits 10 decimal.digits

/-- The ways to lay out a positive decimal. -/
inductive Layout (decimal : Decimal) : List Char → Prop
  | whole (zeros : Nat) (shift : decimal.exponent = zeros) :
      Layout decimal (decimal.digitChars ++ List.replicate zeros '0')
  | pointInside (whole fraction : List Char) (digits : decimal.digitChars = whole ++ fraction)
      (begun : whole ≠ []) (ended : fraction ≠ [])
      (shift : decimal.exponent = -(fraction.length : Int)) :
      Layout decimal (whole ++ '.' :: fraction)
  | pointBefore (zeros : Nat)
      (shift : decimal.exponent = -((zeros + decimal.digitChars.length : Nat) : Int)) :
      Layout decimal ('0' :: '.' :: (List.replicate zeros '0' ++ decimal.digitChars))
  | scientific (lead : Char) (fraction : List Char) (power : Int)
      (digits : decimal.digitChars = lead :: fraction)
      (shift : decimal.exponent = power - fraction.length) :
      Layout decimal
        (lead :: (if fraction = [] then [] else '.' :: fraction) ++
          NumeralStyle.script.exponentText power)

theorem digitChars_ne_nil (decimal : Decimal) : decimal.digitChars ≠ [] :=
  Nat.toDigits_ne_nil

theorem isDigit_of_mem_digitChars {decimal : Decimal} {c : Char}
    (member : c ∈ decimal.digitChars) : c.isDigit = true :=
  Nat.isDigit_of_mem_toDigits (by decide) (by decide) member

theorem layout_positiveText (decimal : Decimal) :
    decimal.Layout (NumeralStyle.script.positiveText decimal) := by
  have digits : Nat.toDigits 10 decimal.digits = decimal.digitChars := rfl
  obtain ⟨lead, fraction, parts⟩ : ∃ lead fraction, decimal.digitChars = lead :: fraction :=
    List.exists_cons_of_ne_nil decimal.digitChars_ne_nil
  have count : decimal.digitChars.length = fraction.length + 1 := by simp [parts]
  simp only [NumeralStyle.positiveText, digits]
  split
  · have shift : decimal.exponent = decimal.exponent.toNat := by omega
    simpa [NumeralStyle.script] using Layout.whole _ shift
  · split
    · generalize spot : (decimal.digitChars.length + decimal.exponent).toNat = place
      have halves := (List.take_append_drop place decimal.digitChars).symm
      refine .pointInside _ _ halves ?_ ?_ ?_
      · rw [← List.length_pos_iff, List.length_take]
        omega
      · rw [← List.length_pos_iff, List.length_drop]
        omega
      · rw [List.length_drop]
        omega
    · split
      · refine .pointBefore _ ?_
        omega
      · have whole : decimal.digitChars.length = 1 ↔ fraction = [] := by
          rw [count, Nat.add_eq_right, List.length_eq_zero_iff]
        simp only [whole]
        simp only [parts, List.take_succ_cons, List.take_zero, List.drop_succ_cons, List.drop_zero]
        refine .scientific lead fraction _ parts ?_
        simp only [List.length_cons]
        omega

def valueOfDigits (text : List Char) : Nat :=
  Nat.ofDigitChars 10 (text.filter Char.isDigit) 0

def powerOfText : List Char → Int
  | 'e' :: '-' :: digits => -(valueOfDigits digits : Int)
  | 'e' :: digits => valueOfDigits digits
  | _ => 0

@[simp] theorem powerOfText_nil : powerOfText [] = 0 := rfl

def ofText (text : List Char) : Decimal :=
  let mantissa := text.takeWhile (· != 'e')
  let fraction := (mantissa.dropWhile (· != '.')).drop 1
  ⟨valueOfDigits mantissa, powerOfText (text.dropWhile (· != 'e')) - fraction.length⟩

theorem filter_digitChars (decimal : Decimal) :
    decimal.digitChars.filter Char.isDigit = decimal.digitChars :=
  List.filter_eq_self.2 fun _ member => isDigit_of_mem_digitChars member

theorem valueOfDigits_toDigits (value : Nat) :
    valueOfDigits (Nat.toDigits 10 value) = value := by
  have digits : (Nat.toDigits 10 value).filter Char.isDigit = Nat.toDigits 10 value :=
    filter_digitChars ⟨value, 0⟩
  rw [valueOfDigits, digits, Nat.ofDigitChars_ten_toDigits]

theorem valueOfDigits_digitChars_zeros (decimal : Decimal) (zeros : Nat) :
    valueOfDigits (decimal.digitChars ++ List.replicate zeros '0') =
      decimal.digits * 10 ^ zeros := by
  have zero : '0'.isDigit = true := by decide
  rw [valueOfDigits, List.filter_append, filter_digitChars, List.filter_replicate, if_pos zero,
    Nat.ofDigitChars_append, digitChars, Nat.ofDigitChars_ten_toDigits,
    Nat.ofDigitChars_replicate_zero, Nat.mul_comm]

theorem valueOfDigits_zeros_digitChars (zeros : Nat) (decimal : Decimal) :
    valueOfDigits (List.replicate zeros '0' ++ decimal.digitChars) = decimal.digits := by
  have zero : '0'.isDigit = true := by decide
  rw [valueOfDigits, List.filter_append, filter_digitChars, List.filter_replicate, if_pos zero,
    Nat.ofDigitChars_append, Nat.ofDigitChars_replicate_zero, Nat.mul_zero, digitChars,
    Nat.ofDigitChars_ten_toDigits]

theorem valueOfDigits_point (whole fraction : List Char) :
    valueOfDigits (whole ++ '.' :: fraction) = valueOfDigits (whole ++ fraction) := by
  have point : '.'.isDigit = false := by decide
  simp [valueOfDigits, point]

theorem powerOfText_exponentText (power : Int) :
    powerOfText (NumeralStyle.script.exponentText power) = power := by
  have plus : '+'.isDigit = false := by decide
  by_cases negative : power < 0
  · simp only [NumeralStyle.exponentText, if_pos negative, List.cons_append, List.nil_append,
      powerOfText, valueOfDigits_toDigits]
    omega
  · have positive : powerOfText (NumeralStyle.script.exponentText power) =
        valueOfDigits ('+' :: Nat.toDigits 10 power.natAbs) := by
      simp [NumeralStyle.exponentText, negative, NumeralStyle.script, powerOfText]
    have sign : valueOfDigits ('+' :: Nat.toDigits 10 power.natAbs) =
        valueOfDigits (Nat.toDigits 10 power.natAbs) := by
      simp [valueOfDigits, plus]
    rw [positive, sign, valueOfDigits_toDigits]
    omega

theorem isDigit_ne {c other : Char} (digit : c.isDigit = true) (letter : other.isDigit = false) :
    c ≠ other := by
  rintro rfl
  rw [digit] at letter
  contradiction

/-- Characters of a kind end before the first one of another kind. -/
theorem span_append {kind : Char → Bool} {inside rest : List Char}
    (all : ∀ c ∈ inside, kind c = true) (ends : ∀ c ∈ rest.head?, kind c = false) :
    (inside ++ rest).takeWhile kind = inside ∧ (inside ++ rest).dropWhile kind = rest := by
  rw [List.takeWhile_append_of_pos all, List.dropWhile_append_of_pos all]
  cases rest with
  | nil => simp
  | cons c rest => simp [ends c rfl]

private theorem span_mantissa {mantissa rest : List Char} (plain : ∀ c ∈ mantissa, c ≠ 'e')
    (begun : ∀ c ∈ rest.head?, c = 'e') :
    (mantissa ++ rest).takeWhile (· != 'e') = mantissa ∧
      (mantissa ++ rest).dropWhile (· != 'e') = rest := by
  refine span_append (fun c member => ?_) (fun c first => ?_)
  · simpa using plain c member
  · simpa using begun c first

theorem ofText_whole (whole rest : List Char) (digits : ∀ c ∈ whole, c.isDigit = true)
    (begun : ∀ c ∈ rest.head?, c = 'e') :
    ofText (whole ++ rest) = ⟨valueOfDigits whole, powerOfText rest⟩ := by
  have plain : ∀ c ∈ whole, c ≠ 'e' := fun c member => isDigit_ne (digits c member) (by decide)
  have noPoint : ∀ c ∈ whole, (c != '.') = true := fun c member => by
    simpa using isDigit_ne (digits c member) (by decide)
  have fraction : whole.dropWhile (· != '.') = [] := by
    rw [← whole.append_nil, List.dropWhile_append_of_pos noPoint]
    rfl
  obtain ⟨mantissa, exponent⟩ := span_mantissa plain begun
  simp [ofText, mantissa, exponent, fraction]

theorem ofText_point (whole fraction rest : List Char)
    (wholeDigits : ∀ c ∈ whole, c.isDigit = true)
    (fractionDigits : ∀ c ∈ fraction, c.isDigit = true)
    (begun : ∀ c ∈ rest.head?, c = 'e') :
    ofText (whole ++ '.' :: fraction ++ rest) =
      ⟨valueOfDigits (whole ++ fraction), powerOfText rest - fraction.length⟩ := by
  have plain : ∀ c ∈ whole ++ '.' :: fraction, c ≠ 'e' := by
    intro c member
    rcases List.mem_append.1 member with member | member
    · exact isDigit_ne (wholeDigits c member) (by decide)
    · rcases List.mem_cons.1 member with rfl | member
      · decide
      · exact isDigit_ne (fractionDigits c member) (by decide)
  have noPoint : ∀ c ∈ whole, (c != '.') = true := fun c member => by
    simpa using isDigit_ne (wholeDigits c member) (by decide)
  obtain ⟨mantissa, exponent⟩ := span_mantissa plain begun
  rw [ofText, mantissa, exponent, List.dropWhile_append_of_pos noPoint, valueOfDigits_point]
  simp

theorem Layout.trimmed_ofText {decimal : Decimal} {text : List Char}
    (layout : decimal.Layout text) (trim : decimal.IsTrimmed) :
    trimmed (ofText text).digits (ofText text).exponent = decimal := by
  have digits {c : Char} (member : c ∈ decimal.digitChars) : c.isDigit = true :=
    isDigit_of_mem_digitChars member
  have zeros {count : Nat} {c : Char} (member : c ∈ List.replicate count '0') :
      c.isDigit = true := by
    rw [List.eq_of_mem_replicate member]
    decide
  have value : valueOfDigits decimal.digitChars = decimal.digits := valueOfDigits_toDigits _
  cases layout with
  | whole count shift =>
      have all : ∀ c ∈ decimal.digitChars ++ List.replicate count '0', c.isDigit = true :=
        fun c member => (List.mem_append.1 member).elim digits zeros
      have read := ofText_whole _ [] all (by simp)
      rw [List.append_nil] at read
      rw [read, valueOfDigits_digitChars_zeros, trimmed_mul_pow trim.digits_ne_zero,
        powerOfText_nil, Int.zero_add, ← shift]
      exact trim.trimmed_eq
  | pointInside whole fraction parts begun ended shift =>
      have read := ofText_point whole fraction []
        (fun c member => digits (parts ▸ List.mem_append_left _ member))
        (fun c member => digits (parts ▸ List.mem_append_right _ member)) (by simp)
      rw [List.append_nil] at read
      rw [read, ← parts, value, powerOfText_nil, Int.zero_sub, ← shift]
      exact trim.trimmed_eq
  | pointBefore count shift =>
      have read := ofText_point ['0'] (List.replicate count '0' ++ decimal.digitChars) []
        (by simp)
        (fun c member => (List.mem_append.1 member).elim zeros digits) (by simp)
      have leading : valueOfDigits
          (['0'] ++ (List.replicate count '0' ++ decimal.digitChars)) = decimal.digits :=
        valueOfDigits_zeros_digitChars (count + 1) decimal
      rw [List.append_nil, leading, powerOfText_nil, Int.zero_sub, List.length_append,
        List.length_replicate, ← shift] at read
      have denoted : ofText ('0' :: '.' :: (List.replicate count '0' ++ decimal.digitChars)) =
          ⟨decimal.digits, decimal.exponent⟩ := read
      rw [denoted]
      exact trim.trimmed_eq
  | scientific lead fraction power parts shift =>
      have begun : ∀ c ∈ (NumeralStyle.script.exponentText power).head?, c = 'e' := by
        simp [NumeralStyle.exponentText]
      have leadDigit : ∀ c ∈ [lead], c.isDigit = true := fun c member =>
        digits (parts ▸ List.mem_cons.2 (.inl (List.mem_singleton.1 member)))
      have fractionDigits : ∀ c ∈ fraction, c.isDigit = true := fun c member =>
        digits (parts ▸ List.mem_cons_of_mem _ member)
      have denoted : ofText (lead :: (if fraction = [] then [] else '.' :: fraction) ++
          NumeralStyle.script.exponentText power) = ⟨decimal.digits, decimal.exponent⟩ := by
        by_cases single : fraction = []
        · subst single
          rw [if_pos rfl]
          refine (ofText_whole _ _ leadDigit begun).trans ?_
          rw [← parts, value, powerOfText_exponentText, shift]
          simp
        · rw [if_neg single]
          refine (ofText_point _ _ _ leadDigit fractionDigits begun).trans ?_
          rw [List.singleton_append, ← parts, value, powerOfText_exponentText, ← shift]
      rw [denoted]
      exact trim.trimmed_eq

theorem Layout.eq_cons {decimal : Decimal} {text : List Char} (layout : decimal.Layout text) :
    ∃ lead rest, text = lead :: rest ∧ lead.isDigit = true := by
  obtain ⟨lead, rest, parts⟩ := List.exists_cons_of_ne_nil decimal.digitChars_ne_nil
  cases layout with
  | whole count shift =>
      have member : lead ∈ decimal.digitChars := parts ▸ List.mem_cons_self
      exact ⟨lead, _, by rw [parts, List.cons_append], isDigit_of_mem_digitChars member⟩
  | pointInside whole fraction halves begun ended shift =>
      obtain ⟨first, others, cut⟩ := List.exists_cons_of_ne_nil begun
      have member : first ∈ decimal.digitChars :=
        halves ▸ List.mem_append_left _ (cut ▸ List.mem_cons_self)
      exact ⟨first, _, by rw [cut, List.cons_append], isDigit_of_mem_digitChars member⟩
  | pointBefore count shift => exact ⟨'0', _, rfl, by decide⟩
  | scientific first fraction power halves shift =>
      have member : first ∈ decimal.digitChars := halves ▸ List.mem_cons_self
      exact ⟨first, _, rfl, isDigit_of_mem_digitChars member⟩

def marks : List Char :=
  ['.', 'e', '+', '-']

theorem mem_exponentText {power : Int} {c : Char}
    (member : c ∈ NumeralStyle.script.exponentText power) :
    c.isDigit = true ∨ c ∈ marks := by
  rcases List.mem_append.1 member with member | member
  · rcases List.mem_cons.1 member with rfl | member
    · exact .inr (by decide)
    · split at member
      · obtain rfl := List.mem_singleton.1 member
        exact .inr (by decide)
      · obtain rfl := List.mem_singleton.1 member
        exact .inr (by decide)
  · exact .inl (Nat.isDigit_of_mem_toDigits (by decide) (by decide) member)

theorem Layout.mem_digit_or_mark {decimal : Decimal} {text : List Char}
    (layout : decimal.Layout text) {c : Char} (member : c ∈ text) :
    c.isDigit = true ∨ c ∈ marks := by
  have digits {c : Char} (member : c ∈ decimal.digitChars) : c.isDigit = true :=
    isDigit_of_mem_digitChars member
  have zeros {count : Nat} (member : c ∈ List.replicate count '0') : c.isDigit = true := by
    rw [List.eq_of_mem_replicate member]
    decide
  cases layout with
  | whole count shift => exact .inl ((List.mem_append.1 member).elim digits zeros)
  | pointInside whole fraction halves begun ended shift =>
      rcases List.mem_append.1 member with member | member
      · exact .inl (digits (halves ▸ List.mem_append_left _ member))
      · rcases List.mem_cons.1 member with rfl | member
        · exact .inr (by decide)
        · exact .inl (digits (halves ▸ List.mem_append_right _ member))
  | pointBefore count shift =>
      rcases List.mem_cons.1 member with rfl | member
      · exact .inl (by decide)
      · rcases List.mem_cons.1 member with rfl | member
        · exact .inr (by decide)
        · exact .inl ((List.mem_append.1 member).elim zeros digits)
  | scientific lead fraction power halves shift =>
      rcases List.mem_append.1 member with member | member
      · rcases List.mem_cons.1 member with rfl | member
        · exact .inl (digits (halves ▸ List.mem_cons_self))
        · split at member
          · contradiction
          · rcases List.mem_cons.1 member with rfl | member
            · exact .inr (by decide)
            · exact .inl (digits (halves ▸ List.mem_cons_of_mem _ member))
      · exact mem_exponentText member

end Decimal

namespace Binary64

/-- One double for each number: zeros lose their sign, and of all NaNs one is taken. -/
def representative (x : Binary64) : Binary64 :=
  if x.isNaN then ofCode false (infinityCode + binadeSize / 2)
  else if x.isZero then ofCode false 0
  else x

def magnitudeOfText (negative : Bool) (text : List Char) : Binary64 :=
  if text.head? = some 'I' then
    ofCode negative infinityCode
  else
    let decimal := Decimal.ofText text
    ofCode negative (nearestDecimalCode decimal.digits decimal.exponent)

def ofScriptText : List Char → Binary64
  | 'N' :: _ => ofCode false (infinityCode + binadeSize / 2)
  | '-' :: text => magnitudeOfText true text
  | text => magnitudeOfText false text

theorem ofCode_code (x : Binary64) : ofCode x.negative x.code = x := by
  have small := x.bits.toNat_lt
  have bits : x.code + (if x.negative = true then signSize else 0) = x.bits.toNat := by
    by_cases large : signSize ≤ x.bits.toNat
    · rw [if_pos (show x.negative = true from decide_eq_true large)]
      simp only [code, signSize] at large ⊢
      omega
    · rw [if_neg (show ¬x.negative = true by simpa [negative] using large)]
      exact Nat.mod_eq_of_lt (Nat.lt_of_not_le large)
  rw [ofCode, bits, UInt64.ofNat_toNat]

theorem magnitudeOfText_infinity (negative : Bool) :
    magnitudeOfText negative ['I', 'n', 'f', 'i', 'n', 'i', 't', 'y'] =
      ofCode negative infinityCode := rfl

theorem magnitudeOfText_shortest (negative : Bool) {code : Nat} (positive : 0 < code)
    (finite : code < infinityCode) :
    magnitudeOfText negative (NumeralStyle.script.positiveText (Decimal.shortest .up code)) =
      ofCode negative code := by
  have layout := Decimal.layout_positiveText (Decimal.shortest .up code)
  have trim := Decimal.shortest_isTrimmed .up positive finite
  obtain ⟨lead, rest, parts, digit⟩ := layout.eq_cons
  have number : ¬(NumeralStyle.script.positiveText (Decimal.shortest .up code)).head? =
      some 'I' := by
    rw [parts, List.head?_cons, Option.some.injEq]
    exact Decimal.isDigit_ne digit (by decide)
  rw [magnitudeOfText, if_neg number]
  simp only []
  rw [← Decimal.nearestDecimalCode_trimmed, layout.trimmed_ofText trim,
    Decimal.nearestDecimalCode_shortest .up positive finite]

theorem ofScriptText_signText (negative : Bool) {lead : Char} (rest : List Char)
    (notNaN : lead ≠ 'N') (unsigned : lead ≠ '-') :
    ofScriptText (NumeralStyle.signText negative ++ lead :: rest) =
      magnitudeOfText negative (lead :: rest) := by
  cases negative with
  | true => rfl
  | false =>
      simp only [NumeralStyle.signText, Bool.false_eq_true, if_false, List.nil_append]
      unfold ofScriptText
      split
      · next shape => exact absurd (List.cons.inj shape).1 notNaN
      · next shape => exact absurd (List.cons.inj shape).1 unsigned
      · rfl

theorem scriptText_of_isZero {x : Binary64} (zero : x.isZero = true) : x.scriptText = ['0'] := by
  have code : x.code = 0 := by simpa [isZero] using zero
  have number : ¬x.isNaN = true := by simp [isNaN, code]
  have bounded : ¬x.isInfinite = true := by
    simp only [isInfinite, code, decide_eq_true_eq]
    decide
  rw [scriptText, if_neg number, if_neg bounded, NumeralStyle.finiteText, if_pos zero]
  simp [NumeralStyle.script, NumeralStyle.signText]

theorem scriptText_representative (x : Binary64) :
    x.representative.scriptText = x.scriptText := by
  unfold representative
  split
  · next nan =>
      have text : (ofCode false (infinityCode + binadeSize / 2)).scriptText = ['N', 'a', 'N'] := by
        decide
      rw [text, scriptText, if_pos nan]
  · split
    · next zero => rw [scriptText_of_isZero zero, scriptText_of_isZero (by decide)]
    · rfl

theorem scriptText_of_isInfinite {x : Binary64} (infinite : x.isInfinite = true) :
    x.scriptText =
      NumeralStyle.signText x.negative ++ ['I', 'n', 'f', 'i', 'n', 'i', 't', 'y'] := by
  have code : x.code = infinityCode := by simpa [isInfinite] using infinite
  have number : ¬x.isNaN = true := by simp [isNaN, code]
  rw [scriptText, if_neg number, if_pos infinite]

theorem scriptText_of_positive {x : Binary64} (positive : 0 < x.code)
    (finite : x.code < infinityCode) :
    x.scriptText = NumeralStyle.signText x.negative ++
      NumeralStyle.script.positiveText (Decimal.shortest .up x.code) := by
  have number : ¬x.isNaN = true := by
    simp only [isNaN, decide_eq_true_eq]
    omega
  have bounded : ¬x.isInfinite = true := by
    simp only [isInfinite, decide_eq_true_eq]
    omega
  have nonzero : ¬x.isZero = true := by
    simp only [isZero, decide_eq_true_eq]
    omega
  rw [scriptText, if_neg number, if_neg bounded, NumeralStyle.finiteText, if_neg nonzero]
  rfl

theorem kind_cases (x : Binary64) :
    x.isNaN = true ∨ x.isZero = true ∨ x.isInfinite = true ∨
      (0 < x.code ∧ x.code < infinityCode) := by
  simp only [isNaN, isZero, isInfinite, decide_eq_true_eq]
  omega

theorem representative_of_code {x : Binary64} (positive : 0 < x.code)
    (number : x.code ≤ infinityCode) : x.representative = x := by
  have notNaN : ¬x.isNaN = true := by
    simp only [isNaN, decide_eq_true_eq]
    omega
  have nonzero : ¬x.isZero = true := by
    simp only [isZero, decide_eq_true_eq]
    omega
  rw [representative, if_neg notNaN, if_neg nonzero]

/-- A number text denotes the number that it was made from. -/
theorem ofScriptText_scriptText (x : Binary64) :
    ofScriptText x.scriptText = x.representative := by
  rcases x.kind_cases with nan | zero | infinite | ⟨positive, finite⟩
  · rw [scriptText, representative, if_pos nan, if_pos nan]
    rfl
  · have code : x.code = 0 := by simpa [isZero] using zero
    have number : ¬x.isNaN = true := by simp [isNaN, code]
    rw [scriptText_of_isZero zero, representative, if_neg number, if_pos zero]
    rfl
  · have code : x.code = infinityCode := by simpa [isInfinite] using infinite
    have positive : 0 < x.code := code ▸ (by decide)
    rw [scriptText_of_isInfinite infinite, ofScriptText_signText _ _ (by decide) (by decide),
      magnitudeOfText_infinity, representative_of_code positive (Nat.le_of_eq code), ← code,
      ofCode_code]
  · obtain ⟨lead, rest, parts, digit⟩ :=
      (Decimal.layout_positiveText (Decimal.shortest .up x.code)).eq_cons
    have shortest := magnitudeOfText_shortest x.negative positive finite
    rw [parts] at shortest
    rw [scriptText_of_positive positive finite, parts,
      ofScriptText_signText _ _ (Decimal.isDigit_ne digit (by decide))
        (Decimal.isDigit_ne digit (by decide)),
      shortest, representative_of_code positive (Nat.le_of_lt finite), ofCode_code]

/-- Two doubles share a text exactly when they are one number, or both are no number. -/
theorem scriptText_eq_iff (x y : Binary64) :
    x.scriptText = y.scriptText ↔ x.representative = y.representative := by
  constructor
  · intro same
    rw [← ofScriptText_scriptText x, ← ofScriptText_scriptText y, same]
  · intro same
    rw [← scriptText_representative x, ← scriptText_representative y, same]

theorem representative_of_equal {x y : Binary64} (same : x.equal y = true) :
    x.representative = y.representative := by
  simp only [equal, Bool.and_eq_true, Bool.or_eq_true, Bool.not_eq_true', beq_iff_eq] at same
  obtain ⟨⟨leftNumber, rightNumber⟩, rfl | ⟨leftZero, rightZero⟩⟩ := same
  · rfl
  · simp [representative, leftNumber, rightNumber, leftZero, rightZero]

theorem representative_eq_iff (x y : Binary64) :
    x.representative = y.representative ↔
      x.equal y = true ∨ (x.isNaN = true ∧ y.isNaN = true) := by
  have noNumber : (ofCode false (infinityCode + binadeSize / 2)).isNaN = true := by decide
  have zero : (ofCode false 0).isNaN = false ∧ (ofCode false 0).isZero = true := by decide
  have isNaN (z : Binary64) : z.representative.isNaN = z.isNaN := by
    unfold representative
    split
    · next nan => rw [noNumber, nan]
    · next number =>
        split
        · rw [zero.1, Bool.eq_false_iff.2 number]
        · rfl
  constructor
  · intro same
    have kinds : x.isNaN = y.isNaN := by rw [← isNaN x, same, isNaN]
    cases nan : y.isNaN with
    | true => exact .inr ⟨kinds.trans nan, rfl⟩
    | false =>
        simp only [representative, kinds, nan, Bool.false_eq_true, if_false] at same
        refine .inl ?_
        simp only [equal, kinds, nan, Bool.not_false, Bool.true_and, Bool.or_eq_true, beq_iff_eq,
          Bool.and_eq_true]
        split at same
        · next left =>
            split at same
            · next right => exact .inr ⟨left, right⟩
            · next right => exact absurd (same ▸ zero.2) right
        · next left =>
            split at same
            · exact absurd (same ▸ zero.2) left
            · exact .inl same
  · rintro (same | ⟨left, right⟩)
    · exact representative_of_equal same
    · rw [representative, representative, if_pos left, if_pos right]

def numberMarks : List Char :=
  ['.', 'e', '+', '-', 'N', 'a', 'I', 'n', 'f', 'i', 't', 'y']

theorem mem_signText {negative : Bool} {c : Char}
    (member : c ∈ NumeralStyle.signText negative) : c ∈ numberMarks := by
  cases negative with
  | false => contradiction
  | true =>
      obtain rfl := List.mem_singleton.1 member
      decide

theorem mem_scriptText {x : Binary64} {c : Char} (member : c ∈ x.scriptText) :
    c.isDigit = true ∨ c ∈ numberMarks := by
  have spelled {letters : List Char} (inside : c ∈ letters)
      (all : letters.all fun c => c.isDigit = true ∨ c ∈ numberMarks) :
      c.isDigit = true ∨ c ∈ numberMarks := List.all_iff_forall_prop.1 all c inside
  rcases x.kind_cases with nan | zero | infinite | ⟨positive, finite⟩
  · rw [scriptText, if_pos nan] at member
    exact spelled member (by decide)
  · rw [scriptText_of_isZero zero] at member
    exact spelled member (by decide)
  · rw [scriptText_of_isInfinite infinite] at member
    rcases List.mem_append.1 member with member | member
    · exact .inr (mem_signText member)
    · exact spelled member (by decide)
  · rw [scriptText_of_positive positive finite] at member
    rcases List.mem_append.1 member with member | member
    · exact .inr (mem_signText member)
    · rcases (Decimal.layout_positiveText _).mem_digit_or_mark member with digit | mark
      · exact .inl digit
      · have marks : ∀ c ∈ Decimal.marks, c ∈ numberMarks :=
          List.all_iff_forall_prop.1 (by decide)
        exact .inr (marks c mark)

theorem signText_append_eq_cons (negative : Bool) {text : List Char} {lead : Char}
    {rest : List Char} (parts : text = lead :: rest) :
    ∃ first others, NumeralStyle.signText negative ++ text = first :: others ∧
      (first = lead ∨ first = '-') := by
  subst parts
  cases negative with
  | true => exact ⟨'-', _, rfl, .inr rfl⟩
  | false => exact ⟨lead, _, rfl, .inl rfl⟩

theorem scriptText_eq_cons (x : Binary64) :
    ∃ lead rest, x.scriptText = lead :: rest ∧ (lead.isDigit = true ∨ lead ∈ ['-', 'N', 'I']) := by
  rcases x.kind_cases with nan | zero | infinite | ⟨positive, finite⟩
  · exact ⟨'N', _, by rw [scriptText, if_pos nan], .inr (by decide)⟩
  · exact ⟨'0', _, scriptText_of_isZero zero, .inl (by decide)⟩
  · rw [scriptText_of_isInfinite infinite]
    obtain ⟨first, others, text, rfl | rfl⟩ := signText_append_eq_cons x.negative rfl
    · exact ⟨_, _, text, .inr (by decide)⟩
    · exact ⟨_, _, text, .inr (by decide)⟩
  · rw [scriptText_of_positive positive finite]
    obtain ⟨lead, rest, parts, digit⟩ :=
      (Decimal.layout_positiveText (Decimal.shortest .up x.code)).eq_cons
    obtain ⟨first, others, text, rfl | rfl⟩ := signText_append_eq_cons x.negative parts
    · exact ⟨_, _, text, .inl digit⟩
    · exact ⟨_, _, text, .inr (by decide)⟩

end Binary64

end Reparse
