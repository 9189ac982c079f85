import Mathlib.Algebra.Order.Field.Power
import Mathlib.Data.List.Basic
import Reparse.Proofs.Binary64.Integer
import Reparse.Proofs.Json.Numeral

namespace Reparse

open JsonNumber

namespace Decimal

def point (decimal : Decimal) : Int :=
  decimal.digitChars.length + decimal.exponent

theorem length_digitChars_pos (decimal : Decimal) : 0 < decimal.digitChars.length :=
  List.length_pos_iff.2 decimal.digitChars_ne_nil

theorem toRat_lt_iff {decimal : Decimal} (nonzero : decimal.digits ≠ 0) (power : Int) :
    decimal.toRat < 10 ^ power ↔ decimal.point ≤ power := by
  have count := decimal.length_digitChars_pos
  have scaled : decimal.toRat < 10 ^ power ↔
      (decimal.digits : ℚ) < 10 ^ (power - decimal.exponent) := by
    rw [toRat, zpow_sub₀ (by norm_num), lt_div_iff₀ (by positivity)]
  rw [scaled, point]
  rcases lt_or_ge 0 (power - decimal.exponent) with positive | low
  · obtain ⟨places, shift⟩ : ∃ places : Nat, power - decimal.exponent = (places + 1 : Nat) :=
      ⟨(power - decimal.exponent).toNat - 1, by omega⟩
    have bounded : decimal.digitChars.length ≤ places + 1 ↔ decimal.digits < 10 ^ (places + 1) :=
      Nat.length_toDigits_le_iff (by decide) (by omega)
    have cast : (decimal.digits : ℚ) < 10 ^ (places + 1) ↔ decimal.digits < 10 ^ (places + 1) := by
      exact_mod_cast Iff.rfl
    rw [shift, zpow_natCast, cast, ← bounded]
    omega
  · have one : (10 : ℚ) ^ (power - decimal.exponent) ≤ 1 := zpow_le_one_of_nonpos₀ (by norm_num) low
    have whole : (1 : ℚ) ≤ decimal.digits := by
      exact_mod_cast Nat.one_le_iff_ne_zero.2 nonzero
    constructor
    · intro small
      exact absurd (one.trans whole) (not_le_of_gt small)
    · omega

theorem le_toRat_iff {decimal : Decimal} (nonzero : decimal.digits ≠ 0) (power : Int) :
    10 ^ power ≤ decimal.toRat ↔ power < decimal.point := by
  rw [← not_lt, toRat_lt_iff nonzero, Int.not_le]

theorem digitChar_ne_zero {digit : Nat} (small : digit < 10) (nonzero : digit ≠ 0) :
    Nat.digitChar digit ≠ '0' := by
  have all : ∀ digit < 10, digit ≠ 0 → Nat.digitChar digit ≠ '0' := by decide
  exact all digit small nonzero

theorem head?_toDigits_ne_zero {value : Nat} (nonzero : value ≠ 0) :
    (Nat.toDigits 10 value).head? ≠ some '0' := by
  induction value using Nat.strongRecOn with
  | ind value induction =>
      rw [Nat.toDigits_eq_if (by decide)]
      split
      · next small => simpa using digitChar_ne_zero small nonzero
      · have smaller := induction (value / 10) (by omega) (by omega)
        obtain ⟨lead, rest, parts⟩ :=
          List.exists_cons_of_ne_nil (Nat.toDigits_ne_nil (n := value / 10) (b := 10))
        rw [parts] at smaller ⊢
        exact smaller

theorem IsTrimmed.head?_digitChars {decimal : Decimal} (trim : decimal.IsTrimmed) :
    decimal.digitChars.head? ≠ some '0' :=
  head?_toDigits_ne_zero trim.digits_ne_zero

theorem IsTrimmed.getLast?_digitChars {decimal : Decimal} (trim : decimal.IsTrimmed) :
    decimal.digitChars.getLast? ≠ some '0' := by
  have last := digitChar_ne_zero (Nat.mod_lt decimal.digits (by decide)) trim
  rw [digitChars, Nat.toDigits_eq_if (by decide)]
  split
  · next small =>
      rw [Nat.mod_eq_of_lt small] at last
      simpa using last
  · simpa using last

end Decimal

namespace NumeralStyle

/-- Digits cut in two at a place, which must lie among them. -/
def cut? (digits : List Char) (place : Int) : Option (List Char × List Char) :=
  if 0 ≤ place ∧ place ≤ digits.length then some (digits.splitAt place.toNat) else none

def zeros? (count : Int) : Option (List Char) :=
  if 0 ≤ count then some (List.replicate count.toNat '0') else none

/-- The text of a positive decimal by cuts and repetitions that have to stay in range. -/
def checkedText? (style : NumeralStyle) (decimal : Decimal) : Option (List Char) :=
  let digits := decimal.digitChars
  if digits.length ≤ decimal.point ∧ decimal.point ≤ style.highest then
    (zeros? (decimal.point - digits.length)).map fun zeros => digits ++ zeros ++ style.wholeMark
  else if 0 < decimal.point ∧ decimal.point ≤ style.highest then
    (cut? digits decimal.point).map fun (whole, fraction) => whole ++ '.' :: fraction
  else if style.lowest < decimal.point ∧ decimal.point ≤ 0 then
    (zeros? (-decimal.point)).map fun zeros => '0' :: '.' :: zeros ++ digits
  else
    (cut? digits 1).map fun (lead, rest) =>
      lead ++ (if rest = [] then [] else '.' :: rest) ++ style.exponentText (decimal.point - 1)

/-- No cut and no repetition in the text of a decimal is out of range. -/
theorem checkedText?_eq (style : NumeralStyle) (decimal : Decimal) :
    style.checkedText? decimal = some (style.positiveText decimal) := by
  have digits : Nat.toDigits 10 decimal.digits = decimal.digitChars := rfl
  have point : decimal.digitChars.length + decimal.exponent = decimal.point := rfl
  have count := decimal.length_digitChars_pos
  simp only [checkedText?, positiveText, digits, point]
  split
  · have zeros : decimal.point - decimal.digitChars.length = decimal.exponent := by omega
    have inRange : 0 ≤ decimal.exponent := by omega
    rw [zeros, zeros?, if_pos inRange, Option.map_some]
  · split
    · have inRange : 0 ≤ decimal.point ∧ decimal.point ≤ decimal.digitChars.length := by omega
      rw [cut?, if_pos inRange, Option.map_some, List.splitAt_eq]
    · split
      · have inRange : 0 ≤ -decimal.point := by omega
        rw [zeros?, if_pos inRange, Option.map_some]
      · have inRange : (0 : Int) ≤ 1 ∧ (1 : Int) ≤ decimal.digitChars.length := by omega
        have single : decimal.digitChars.drop 1 = [] ↔ decimal.digitChars.length = 1 := by
          rw [List.drop_eq_nil_iff]
          omega
        rw [cut?, if_pos inRange, Option.map_some, List.splitAt_eq]
        simp only [Int.toNat_one, single]

end NumeralStyle

namespace JsonNumber

theorem isDigits_toDigits (value : Nat) : IsDigits (Nat.toDigits 10 value) :=
  ⟨Nat.toDigits_ne_nil, fun _ member => Nat.isDigit_of_mem_toDigits (by decide) (by decide) member⟩

theorem spelled_toDigits (value : Nat) : spelled (Nat.toDigits 10 value) = value :=
  Nat.ofDigitChars_ten_toDigits

theorem toDigits_eq_zero {value : Nat} (lead : (Nat.toDigits 10 value).head? = some '0') :
    Nat.toDigits 10 value = ['0'] := by
  by_cases zero : value = 0
  · rw [zero]
    rfl
  · exact absurd lead (Decimal.head?_toDigits_ne_zero zero)

def Power.ofInt (power : Int) : Power where
  capital := false
  minus? := some (decide (power < 0))
  digits := Nat.toDigits 10 power.natAbs
  isDigits := isDigits_toDigits _

theorem Power.value_ofInt (power : Int) : (ofInt power).value = power := by
  simp only [value, ofInt, spelled_toDigits, Option.some.injEq, decide_eq_true_eq]
  split <;> omega

theorem Power.text_ofInt (power : Int) :
    (ofInt power).text = NumeralStyle.script.exponentText power := by
  by_cases negative : power < 0
  · simp [text, signText, signOf, letterOf, ofInt, NumeralStyle.exponentText, negative]
  · simp [text, signText, signOf, letterOf, ofInt, NumeralStyle.exponentText, negative,
      NumeralStyle.script]

/-- A numeral without a zero at the end of its fraction or at the front of its power, and with a
sign before its power. -/
structure Numeral.IsTight (numeral : Numeral) : Prop where
  fraction : ∀ digits ∈ numeral.fraction, digits.getLast? ≠ some '0'
  power_signed : ∀ power ∈ numeral.power, power.minus? ≠ none
  power_eq_zero : ∀ power ∈ numeral.power, power.digits.head? = some '0' → power.digits = ['0']

end JsonNumber

namespace Decimal

theorem isDigits_digitChars (decimal : Decimal) : IsDigits decimal.digitChars :=
  isDigits_toDigits _

theorem isDigits_of_sublist {decimal : Decimal} {digits : List Char}
    (part : digits.Sublist decimal.digitChars) (begun : digits ≠ []) : IsDigits digits :=
  ⟨begun, fun _ member => isDigit_of_mem_digitChars (part.subset member)⟩

theorem isDigits_zeros (count : Nat) : ∀ c ∈ List.replicate count '0', c.isDigit = true := by
  intro c member
  rw [List.eq_of_mem_replicate member]
  decide

theorem isDigits_append_zeros (decimal : Decimal) (count : Nat) :
    IsDigits (decimal.digitChars ++ List.replicate count '0') :=
  ⟨List.append_ne_nil_of_left_ne_nil decimal.digitChars_ne_nil _, fun _ member =>
    (List.mem_append.1 member).elim isDigit_of_mem_digitChars (isDigits_zeros count _)⟩

theorem isDigits_zeros_append (count : Nat) (decimal : Decimal) :
    IsDigits (List.replicate count '0' ++ decimal.digitChars) :=
  ⟨List.append_ne_nil_of_right_ne_nil _ decimal.digitChars_ne_nil, fun _ member =>
    (List.mem_append.1 member).elim (isDigits_zeros count _) isDigit_of_mem_digitChars⟩

theorem e_notMem_of_isDigits {digits : List Char} (isDigits : IsDigits digits) : 'e' ∉ digits := by
  intro member
  exact absurd (isDigits.2 'e' member) (by decide)

theorem spelled_eq_valueOfDigits {digits : List Char} (isDigits : IsDigits digits) :
    spelled digits = valueOfDigits digits := by
  rw [valueOfDigits, List.filter_eq_self.2 isDigits.2, spelled]

theorem toRat_mul_pow (digits zeros : Nat) (exponent : Int) :
    (Decimal.mk (digits * 10 ^ zeros) exponent).toRat =
      (Decimal.mk digits (exponent + zeros)).toRat := by
  simp only [toRat]
  rw [zpow_add₀ (by norm_num), zpow_natCast, mul_comm ((10 : ℚ) ^ exponent), ← mul_assoc]
  push_cast
  rfl

/-- A tight numeral with a given sign and text, which denotes a decimal but for the sign. -/
structure IsNumeral (decimal : Decimal) (negative : Bool) (text : List Char)
    (numeral : Numeral) : Prop where
  sign : numeral.negative = negative
  spelling : numeral.text = NumeralStyle.signText negative ++ text
  denotes : numeral.decimal.toRat = decimal.toRat
  plain : numeral.power = none ↔ 'e' ∉ text
  tight : numeral.IsTight

section Layouts

variable {decimal : Decimal} (trim : decimal.IsTrimmed) (negative : Bool)

include trim

theorem exists_whole {zeros : Nat} (shift : decimal.exponent = zeros) :
    ∃ numeral, decimal.IsNumeral negative (decimal.digitChars ++ List.replicate zeros '0')
      numeral := by
  have lead := trim.head?_digitChars
  have isDigits := decimal.isDigits_append_zeros zeros
  rw [← List.head?_append_of_ne_nil _ decimal.digitChars_ne_nil] at lead
  have value := valueOfDigits_digitChars_zeros decimal zeros
  rw [← spelled_eq_valueOfDigits isDigits] at value
  refine ⟨⟨negative, _, none, none, isDigits, (absurd · lead), by simp⟩, rfl, ?_, ?_, ?_,
    by simp, by simp, by simp⟩
  · simp [Numeral.text, Numeral.fractionText, Numeral.powerText]
  · simp only [Numeral.decimal, Option.getD_none, List.append_nil, value, Option.map_none,
      toRat_mul_pow]
    simp [toRat, shift]
  · simpa using e_notMem_of_isDigits isDigits

theorem exists_pointInside {whole fraction : List Char}
    (parts : decimal.digitChars = whole ++ fraction) (begun : whole ≠ []) (ended : fraction ≠ [])
    (shift : decimal.exponent = -(fraction.length : Int)) :
    ∃ numeral, decimal.IsNumeral negative (whole ++ '.' :: fraction) numeral := by
  have lead := trim.head?_digitChars
  have last := trim.getLast?_digitChars
  have spells : spelled decimal.digitChars = decimal.digits := spelled_toDigits _
  rw [parts, List.head?_append_of_ne_nil _ begun] at lead
  rw [parts, List.getLast?_append_of_ne_nil _ ended] at last
  have wholeDigits : IsDigits whole :=
    isDigits_of_sublist (parts ▸ List.sublist_append_left ..) begun
  have fractionDigits : IsDigits fraction :=
    isDigits_of_sublist (parts ▸ List.sublist_append_right ..) ended
  refine ⟨⟨negative, whole, some fraction, none, wholeDigits, (absurd · lead), ?_⟩, rfl, ?_, ?_,
    ?_, ?_, by simp, by simp⟩
  · simpa using fractionDigits
  · simp [Numeral.text, Numeral.fractionText, Numeral.powerText]
  · simp [Numeral.decimal, toRat, ← parts, spells, shift]
  · simp [e_notMem_of_isDigits wholeDigits, e_notMem_of_isDigits fractionDigits]
  · simpa using last

theorem exists_pointBefore {zeros : Nat}
    (shift : decimal.exponent = -((zeros + decimal.digitChars.length : Nat) : Int)) :
    ∃ numeral, decimal.IsNumeral negative
      ('0' :: '.' :: (List.replicate zeros '0' ++ decimal.digitChars)) numeral := by
  have last := trim.getLast?_digitChars
  have isDigits := isDigits_zeros_append zeros decimal
  have zero : IsDigits ['0'] := ⟨List.cons_ne_nil _ _, List.forall_mem_singleton.2 (by decide)⟩
  have value : spelled ('0' :: (List.replicate zeros '0' ++ decimal.digitChars)) =
      decimal.digits :=
    (spelled_eq_valueOfDigits (isDigits_zeros_append (zeros + 1) decimal)).trans
      (valueOfDigits_zeros_digitChars (zeros + 1) decimal)
  refine ⟨⟨negative, ['0'], some (List.replicate zeros '0' ++ decimal.digitChars), none, zero,
    fun _ => rfl, ?_⟩, rfl, ?_, ?_, ?_, ?_, by simp, by simp⟩
  · simpa using isDigits
  · simp [Numeral.text, Numeral.fractionText, Numeral.powerText]
  · simp [Numeral.decimal, toRat, value, shift]
  · simpa using e_notMem_of_isDigits isDigits
  · simpa [List.getLast?_append_of_ne_nil _ decimal.digitChars_ne_nil] using last

theorem exists_scientific {first : Char} {fraction : List Char} {power : Int}
    (parts : decimal.digitChars = first :: fraction)
    (shift : decimal.exponent = power - fraction.length) :
    ∃ numeral, decimal.IsNumeral negative
      (first :: (if fraction = [] then [] else '.' :: fraction) ++
        NumeralStyle.script.exponentText power) numeral := by
  have lead := trim.head?_digitChars
  have last := trim.getLast?_digitChars
  have spells : spelled decimal.digitChars = decimal.digits := spelled_toDigits _
  have member : [first].Sublist decimal.digitChars := by
    rw [parts]
    exact List.singleton_sublist.2 List.mem_cons_self
  have whole : IsDigits [first] := isDigits_of_sublist member (List.cons_ne_nil _ _)
  rw [parts] at lead
  -- A point stands before digits only.
  by_cases single : fraction = []
  · subst single
    refine ⟨⟨negative, [first], none, some (.ofInt power), whole, (absurd · lead), by simp⟩,
      rfl, ?_, ?_, ?_, by simp, ?_, ?_⟩
    · simp [Numeral.text, Numeral.fractionText, Numeral.powerText, Power.text_ofInt]
    · simp [Numeral.decimal, toRat, ← parts, spells, shift, Power.value_ofInt]
    · simp [NumeralStyle.exponentText]
    · simp [Power.ofInt]
    · simpa [Power.ofInt] using toDigits_eq_zero
  · rw [parts, List.getLast?_cons_of_ne_nil single] at last
    have fractionDigits : IsDigits fraction :=
      isDigits_of_sublist (parts ▸ List.sublist_cons_self ..) single
    refine ⟨⟨negative, [first], some fraction, some (.ofInt power), whole, (absurd · lead), ?_⟩,
      rfl, ?_, ?_, ?_, ?_, ?_, ?_⟩
    · simpa using fractionDigits
    · simp [Numeral.text, Numeral.fractionText, Numeral.powerText, Power.text_ofInt, single]
    · simp [Numeral.decimal, toRat, ← parts, spells, shift, Power.value_ofInt]
    · simp [NumeralStyle.exponentText]
    · simpa using last
    · simp [Power.ofInt]
    · simpa [Power.ofInt] using toDigits_eq_zero

/-- Each layout of a decimal is a tight numeral that denotes it. -/
theorem Layout.exists_numeral {text : List Char} (layout : decimal.Layout text) :
    ∃ numeral, decimal.IsNumeral negative text numeral := by
  cases layout with
  | whole zeros shift => exact exists_whole trim negative shift
  | pointInside whole fraction parts begun ended shift =>
      exact exists_pointInside trim negative parts begun ended shift
  | pointBefore zeros shift => exact exists_pointBefore trim negative shift
  | scientific first fraction power parts shift =>
      exact exists_scientific trim negative parts shift

end Layouts

theorem e_mem_positiveText_iff (decimal : Decimal) :
    'e' ∈ NumeralStyle.script.positiveText decimal ↔
      ¬(-6 < decimal.point ∧ decimal.point ≤ 21) := by
  have digits : Nat.toDigits 10 decimal.digits = decimal.digitChars := rfl
  have point : decimal.digitChars.length + decimal.exponent = decimal.point := rfl
  have plain := e_notMem_of_isDigits decimal.isDigits_digitChars
  have count := decimal.length_digitChars_pos
  have front (place : Nat) : 'e' ∉ decimal.digitChars.take place :=
    fun member => plain (List.mem_of_mem_take member)
  have behind (place : Nat) : 'e' ∉ decimal.digitChars.drop place :=
    fun member => plain (List.mem_of_mem_drop member)
  have lowest : NumeralStyle.script.lowest = -6 := rfl
  have highest : NumeralStyle.script.highest = 21 := rfl
  have mark : NumeralStyle.script.wholeMark = [] := rfl
  have power : 'e' ∈ NumeralStyle.script.exponentText (decimal.point - 1) := List.mem_cons_self
  simp only [NumeralStyle.positiveText, digits, point, lowest, highest, mark]
  split
  · exact iff_of_false (by simp [plain]) (by omega)
  · split
    · exact iff_of_false (by simp [front, behind]) (by omega)
    · split
      · exact iff_of_false (by simp [plain]) (by omega)
      · exact iff_of_true (List.mem_append_right _ power) (by omega)

end Decimal

namespace Binary64

theorem exists_numeral_of_code {x : Binary64} (positive : 0 < x.code)
    (below : x.code < infinityCode) :
    ∃ numeral : Numeral, numeral.text = x.scriptText ∧
      numeral.toRat = (if x.negative then -1 else 1) * (Decimal.shortest .up x.code).toRat ∧
      (numeral.power = none ↔
        'e' ∉ NumeralStyle.script.positiveText (Decimal.shortest .up x.code)) ∧
      numeral.IsTight := by
  have trim := Decimal.shortest_isTrimmed .up positive below
  obtain ⟨numeral, sign, spelling, value, plain, tight⟩ :=
    (Decimal.shortest .up x.code).layout_positiveText.exists_numeral trim x.negative
  refine ⟨numeral, ?_, ?_, plain, tight⟩
  · rw [spelling, scriptText_of_positive positive below]
  · rw [Numeral.toRat, sign, value]

theorem exists_numeral {x : Binary64} (finite : x.isFinite = true) :
    ∃ numeral : Numeral, numeral.text = x.scriptText := by
  by_cases zero : x.isZero = true
  · have digits : IsDigits ['0'] := ⟨List.cons_ne_nil _ _, List.forall_mem_singleton.2 (by decide)⟩
    refine ⟨⟨false, ['0'], none, none, digits, fun _ => rfl, by simp⟩, ?_⟩
    rw [scriptText_of_isZero zero]
    rfl
  · have positive : 0 < x.code := by
      simp only [isZero, decide_eq_true_eq] at zero
      omega
    obtain ⟨numeral, text, -⟩ := exists_numeral_of_code positive (code_of_isFinite finite)
    exact ⟨numeral, text⟩

/--
Number texts.  The text of a finite double that is not zero is cut together from the digits of its
shortest decimal without leaving them, it is a tight numeral that denotes this decimal with the sign
of the double, and it has no power of ten exactly from `10 ^ -6` up to `10 ^ 21`.  No two different
numbers share a text.
-/
theorem scriptText_denotes :
    (∀ x : Binary64, x.isFinite = true → x.isZero = false →
      let decimal := Decimal.shortest .up x.code
      (decimal.digitChars.head? ≠ some '0' ∧ decimal.digitChars.getLast? ≠ some '0' ∧
        decimal.readsBack x.code = true) ∧
      (NumeralStyle.script.checkedText? decimal).map (NumeralStyle.signText x.negative ++ ·) =
        some x.scriptText ∧
      (∃ numeral : Numeral, numeral.text = x.scriptText) ∧
      ∀ numeral : Numeral, numeral.text = x.scriptText →
        numeral.toRat = (if x.negative then -1 else 1) * decimal.toRat ∧
        (numeral.power = none ↔ 10 ^ (-6 : Int) ≤ decimal.toRat ∧ decimal.toRat < 10 ^ (21 : Int)) ∧
        numeral.IsTight) ∧
    ∀ x y : Binary64, x.scriptText = y.scriptText ↔
      x.equal y = true ∨ (x.isNaN = true ∧ y.isNaN = true) := by
  refine ⟨fun x finite nonzero => ?_, fun x y => ?_⟩
  · intro decimal
    have below := code_of_isFinite finite
    have positive : 0 < x.code := Nat.pos_of_ne_zero (of_decide_eq_false nonzero)
    have trim : decimal.IsTrimmed := Decimal.shortest_isTrimmed .up positive below
    have text := scriptText_of_positive positive below
    have checked := NumeralStyle.script.checkedText?_eq decimal
    refine ⟨⟨trim.head?_digitChars, trim.getLast?_digitChars, ?_⟩, ?_, ?_⟩
    · exact beq_iff_eq.2 (Decimal.nearestDecimalCode_shortest .up positive below)
    · rw [checked, Option.map_some, text]
    · obtain ⟨numeral, spelling, value, plain, tight⟩ := exists_numeral_of_code positive below
      refine ⟨⟨numeral, spelling⟩, fun other same => ?_⟩
      obtain rfl : other = numeral := Numeral.text_injective (same.trans spelling.symm)
      refine ⟨value, ?_, tight⟩
      rw [plain, Decimal.e_mem_positiveText_iff, Classical.not_not,
        Decimal.le_toRat_iff trim.digits_ne_zero, Decimal.toRat_lt_iff trim.digits_ne_zero]
  · rw [scriptText_eq_iff, representative_eq_iff]

theorem scriptText_denotes_small :
    ∃ numeral : Numeral, numeral.text = ['-', '1', '.', '5', 'e', '-', '7'] ∧
      numeral.toRat = -1 * (15 * 10 ^ (-8 : Int)) ∧ numeral.power ≠ none := by
  let x : Binary64 := ⟨0xbe8421f5f40d8376⟩
  have negative : x.negative = true := by decide
  have digits : Decimal.shortest .up x.code = ⟨15, -8⟩ := by decide +kernel
  have text : x.scriptText = ['-', '1', '.', '5', 'e', '-', '7'] := by decide +kernel
  obtain ⟨-, -, ⟨numeral, spelling⟩, all⟩ := scriptText_denotes.1 x (by decide) (by decide)
  obtain ⟨value, plain, -⟩ := all numeral spelling
  have low : ¬10 ^ (-6 : Int) ≤ (Decimal.mk 15 (-8)).toRat := by
    rw [Decimal.le_toRat_iff (by decide)]
    decide
  rw [digits] at value plain
  refine ⟨numeral, spelling.trans text, ?_, fun none => low (plain.1 none).1⟩
  rw [value, negative, if_pos rfl, Decimal.toRat]
  rfl

end Binary64

end Reparse
