import Mathlib.Algebra.Order.Field.Rat
import Reparse.Json.Numeral
import Reparse.Proofs.Binary64.NumeralText

/-!
Numbers as the JSON grammar has them.

A numeral keeps the digits of its parts, which the grammar restricts.  The reader takes the parts
back from its text, and stops where the text of the numeral does.
-/

namespace Reparse

def Decimal.toRat (decimal : Decimal) : ℚ :=
  decimal.digits * 10 ^ decimal.exponent

namespace JsonNumber

def IsDigits (text : List Char) : Prop :=
  text ≠ [] ∧ ∀ c ∈ text, c.isDigit = true

def spelled (digits : List Char) : Nat :=
  Nat.ofDigitChars 10 digits 0

theorem valueOf_eq (digits : List Char) : valueOf digits = spelled digits := by
  simp only [valueOf, spelled, Nat.ofDigitChars, digitValue, Nat.mul_comm]

/-- The power of ten at the end of a numeral: its letter, its sign if it has one, its digits. -/
structure Power where
  capital : Bool
  minus? : Option Bool
  digits : List Char
  isDigits : IsDigits digits

structure Numeral where
  negative : Bool
  whole : List Char
  fraction : Option (List Char)
  power : Option Power
  whole_isDigits : IsDigits whole
  whole_eq_zero : whole.head? = some '0' → whole = ['0']
  fraction_isDigits : ∀ digits ∈ fraction, IsDigits digits

def Power.value (power : Power) : Int :=
  if power.minus? = some true then -(spelled power.digits : Int) else spelled power.digits

def letterOf (capital : Bool) : Char :=
  if capital then 'E' else 'e'

def signOf : Option Bool → List Char
  | none => []
  | some minus => [if minus then '-' else '+']

theorem letterOf_inj {left right : Bool} (same : letterOf left = letterOf right) :
    left = right := by
  revert left right
  decide

theorem signOf_inj {left right : Option Bool} (same : signOf left = signOf right) :
    left = right := by
  rcases left with _ | _ | _ <;> rcases right with _ | _ | _ <;> first | rfl | cases same

def Power.signText (power : Power) : List Char :=
  signOf power.minus?

def Power.text (power : Power) : List Char :=
  letterOf power.capital :: (power.signText ++ power.digits)

namespace Numeral

def fractionText (numeral : Numeral) : List Char :=
  numeral.fraction.elim [] ('.' :: ·)

def powerText (numeral : Numeral) : List Char :=
  numeral.power.elim [] Power.text

def text (numeral : Numeral) : List Char :=
  NumeralStyle.signText numeral.negative ++
    (numeral.whole ++ (numeral.fractionText ++ numeral.powerText))

def decimal (numeral : Numeral) : Decimal :=
  let fraction := numeral.fraction.getD []
  let power := (numeral.power.map Power.value).getD 0
  ⟨spelled (numeral.whole ++ fraction), power - fraction.length⟩

def toRat (numeral : Numeral) : ℚ :=
  (if numeral.negative then -1 else 1) * numeral.decimal.toRat

end Numeral

/-- A text at whose front a numeral cannot go on. -/
def EndsNumeral (rest : List Char) : Prop :=
  ∀ c ∈ rest.head?, c.isDigit = false ∧ c ∉ ['.', 'e', 'E']

theorem endsNumeral_nil : EndsNumeral [] := by
  intro c first
  contradiction

theorem digits?_append {digits rest : List Char} (isDigits : IsDigits digits)
    (ends : ∀ c ∈ rest.head?, c.isDigit = false) :
    digits? (digits ++ rest) = some (digits, rest) := by
  obtain ⟨begun, all⟩ := isDigits
  obtain ⟨front, behind⟩ := Decimal.span_append all ends
  obtain ⟨first, others, rfl⟩ := List.exists_cons_of_ne_nil begun
  rw [digits?, front, behind]

theorem Power.power?_append (power : Power) {rest : List Char}
    (ends : ∀ c ∈ rest.head?, c.isDigit = false) :
    power? (power.signText ++ (power.digits ++ rest)) = some (power.value, rest) := by
  have read := digits?_append power.isDigits ends
  unfold Power.signText Power.value
  cases power.minus? with
  | none =>
      obtain ⟨first, others, parts⟩ := List.exists_cons_of_ne_nil power.isDigits.1
      have digit := power.isDigits.2 first (parts ▸ List.mem_cons_self)
      have plus : first ≠ '+' := Decimal.isDigit_ne digit (by decide)
      have minus : first ≠ '-' := Decimal.isDigit_ne digit (by decide)
      rw [parts, List.cons_append] at read
      rw [parts]
      simp [signOf, power?, read, valueOf_eq, plus, minus]
  | some minus =>
      cases minus with
      | false => simp [signOf, power?, read, valueOf_eq]
      | true => simp [signOf, power?, read, valueOf_eq]

theorem Power.text_injective : Function.Injective Power.text := by
  intro left right same
  have parts (power : Power) :
      (power.signText ++ power.digits).takeWhile (!·.isDigit) = power.signText ∧
        (power.signText ++ power.digits).dropWhile (!·.isDigit) = power.digits := by
    refine Decimal.span_append (fun c member => ?_) (fun c first => ?_)
    · unfold signText at member
      cases sign : power.minus? with
      | none =>
          rw [sign] at member
          contradiction
      | some minus =>
          rw [sign] at member
          obtain rfl := List.mem_singleton.1 member
          cases minus <;> decide
    · have digit := power.isDigits.2 c (List.mem_of_head? first)
      simp [digit]
  obtain ⟨letter, rest⟩ := List.cons.inj same
  have sign := (parts left).1
  have digits := (parts left).2
  rw [rest, (parts right).1] at sign
  rw [rest, (parts right).2] at digits
  have capital := letterOf_inj letter
  have minus := signOf_inj sign
  cases left
  cases right
  cases capital
  cases minus
  cases digits
  rfl

namespace Numeral

variable (numeral : Numeral) {rest : List Char}

theorem head?_powerText_append (ends : EndsNumeral rest) :
    ∀ c ∈ (numeral.powerText ++ rest).head?, c.isDigit = false ∧ c ≠ '.' := by
  intro c first
  unfold powerText at first
  cases powered : numeral.power with
  | none =>
      rw [powered] at first
      obtain ⟨letter, mark⟩ := ends c first
      exact ⟨letter, fun point => mark (point ▸ List.mem_cons_self)⟩
  | some power =>
      rw [powered] at first
      obtain rfl : letterOf power.capital = c := Option.some.inj first
      cases power.capital <;> decide

theorem head?_fractionText_append (ends : EndsNumeral rest) :
    ∀ c ∈ (numeral.fractionText ++ (numeral.powerText ++ rest)).head?, c.isDigit = false := by
  intro c first
  unfold fractionText at first
  cases fractioned : numeral.fraction with
  | none =>
      rw [fractioned] at first
      exact (numeral.head?_powerText_append ends c first).1
  | some fraction =>
      rw [fractioned] at first
      obtain rfl : '.' = c := Option.some.inj first
      decide

theorem whole?_append (ends : EndsNumeral rest) :
    whole? (numeral.whole ++ (numeral.fractionText ++ (numeral.powerText ++ rest))) =
      some (numeral.whole, numeral.fractionText ++ (numeral.powerText ++ rest)) := by
  rw [whole?, digits?_append numeral.whole_isDigits (numeral.head?_fractionText_append ends)]
  split
  · next shape =>
      have parts := (Prod.mk.inj (Option.some.inj shape)).1
      have alone := numeral.whole_eq_zero (by rw [parts]; rfl)
      rw [parts] at alone
      cases alone
  · rfl

theorem fraction?_append (ends : EndsNumeral rest) :
    fraction? (numeral.fractionText ++ (numeral.powerText ++ rest)) =
      some (numeral.fraction, numeral.powerText ++ rest) := by
  have noFraction := numeral.head?_powerText_append ends
  unfold fractionText
  cases fractioned : numeral.fraction with
  | none =>
      simp only [Option.elim_none, List.nil_append, fraction?]
      split
      · next begun =>
          rw [begun] at noFraction
          exact absurd rfl (noFraction '.' rfl).2
      · rfl
  | some fraction =>
      have isDigits := numeral.fraction_isDigits fraction fractioned
      have read := digits?_append isDigits fun c first => (noFraction c first).1
      simp only [Option.elim_some, List.cons_append, fraction?, read, Option.map_some]

theorem exponent?_append (ends : EndsNumeral rest) :
    exponent? (numeral.powerText ++ rest) = some (numeral.power.map Power.value, rest) := by
  unfold powerText
  cases numeral.power with
  | none =>
      simp only [Option.elim_none, List.nil_append, exponent?]
      split
      · exact absurd (by decide) (ends 'e' rfl).2
      · exact absurd (by decide) (ends 'E' rfl).2
      · rfl
  | some power =>
      have value := power.power?_append fun c first => (ends c first).1
      cases capital : power.capital with
      | false => simp [Power.text, capital, letterOf, exponent?, value]
      | true => simp [Power.text, capital, letterOf, exponent?, value]

theorem readUnsigned?_append (negative : Bool) (ends : EndsNumeral rest) :
    readUnsigned? negative
        (numeral.whole ++ (numeral.fractionText ++ (numeral.powerText ++ rest))) =
      (ofNumeral? negative numeral.whole numeral.fraction (numeral.power.map Power.value)).map
        (·, rest) := by
  simp only [readUnsigned?, numeral.whole?_append ends, numeral.fraction?_append ends,
    numeral.exponent?_append ends, Option.bind_eq_bind, Option.bind_some, Option.pure_def]
  exact (Option.map_eq_bind ..).symm

theorem whole_eq_cons : ∃ lead others, numeral.whole = lead :: others ∧ lead.isDigit = true := by
  obtain ⟨lead, others, parts⟩ := List.exists_cons_of_ne_nil numeral.whole_isDigits.1
  exact ⟨lead, others, parts, numeral.whole_isDigits.2 lead (parts ▸ List.mem_cons_self)⟩

theorem signText_append_inj {left right : Bool} {leftRest rightRest : List Char}
    (leftLead : leftRest.head? ≠ some '-') (rightLead : rightRest.head? ≠ some '-')
    (same : NumeralStyle.signText left ++ leftRest = NumeralStyle.signText right ++ rightRest) :
    left = right ∧ leftRest = rightRest := by
  cases left with
  | true =>
      cases right with
      | true => exact ⟨rfl, (List.cons.inj same).2⟩
      | false => exact absurd (congrArg List.head? same).symm rightLead
  | false =>
      cases right with
      | true => exact absurd (congrArg List.head? same) leftLead
      | false => exact ⟨rfl, same⟩

theorem head?_whole_append (rest : List Char) : (numeral.whole ++ rest).head? ≠ some '-' := by
  obtain ⟨lead, others, parts, digit⟩ := numeral.whole_eq_cons
  rw [parts]
  intro first
  rw [Option.some.inj first] at digit
  contradiction

theorem powerText_injective {left right : Option Power}
    (same : left.elim [] Power.text = right.elim [] Power.text) : left = right := by
  cases left with
  | none =>
      cases right with
      | none => rfl
      | some right => contradiction
  | some left =>
      cases right with
      | none => contradiction
      | some right => exact congrArg some (Power.text_injective same)

theorem text_injective : Function.Injective text := by
  intro left right same
  obtain ⟨sign, body⟩ := signText_append_inj (left.head?_whole_append _)
    (right.head?_whole_append _) same
  have leftWhole := left.whole?_append endsNumeral_nil
  have leftFraction := left.fraction?_append endsNumeral_nil
  rw [List.append_nil] at leftWhole leftFraction
  have rightWhole := right.whole?_append endsNumeral_nil
  have rightFraction := right.fraction?_append endsNumeral_nil
  rw [List.append_nil] at rightWhole rightFraction
  rw [body, rightWhole, Option.some.injEq, Prod.mk.injEq] at leftWhole
  obtain ⟨whole, ends⟩ := leftWhole
  rw [← ends, rightFraction, Option.some.injEq, Prod.mk.injEq] at leftFraction
  obtain ⟨fraction, powers⟩ := leftFraction
  have power := powerText_injective powers
  cases left
  cases right
  cases sign
  cases whole
  cases fraction
  cases power
  rfl

theorem read?_text_append (ends : EndsNumeral rest) :
    read? (numeral.text ++ rest) =
      (ofNumeral? numeral.negative numeral.whole numeral.fraction
        (numeral.power.map Power.value)).map (·, rest) := by
  have read := numeral.readUnsigned?_append numeral.negative ends
  simp only [text, List.append_assoc]
  cases sign : numeral.negative with
  | true =>
      rw [sign] at read
      exact read
  | false =>
      obtain ⟨lead, others, parts, digit⟩ := numeral.whole_eq_cons
      have minus : lead ≠ '-' := Decimal.isDigit_ne digit (by decide)
      rw [sign, parts, List.cons_append] at read
      rw [parts]
      simpa [NumeralStyle.signText, read?, minus] using read

/-- A numeral that is a number alone is the same number where more follows it. -/
theorem read?_text_append_of_read? {value : JsonNumber} (ends : EndsNumeral rest)
    (read : read? numeral.text = some (value, [])) :
    read? (numeral.text ++ rest) = some (value, rest) := by
  have alone := numeral.read?_text_append endsNumeral_nil
  rw [List.append_nil, read] at alone
  obtain ⟨number, found, same⟩ := Option.map_eq_some_iff.1 alone.symm
  cases same
  rw [numeral.read?_text_append ends, found]
  rfl

end Numeral

end JsonNumber

end Reparse
