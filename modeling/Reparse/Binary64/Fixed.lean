import Reparse.Binary64.Nearest

namespace Reparse

namespace Binary64

def padDigits (count : Nat) (value : Nat) : List Char :=
  let digits := Nat.toDigits 10 value
  List.replicate (count - digits.length) '0' ++ digits

def pointBefore (places : Nat) (keepsPoint : Bool) (digits : List Char) : List Char :=
  let whole := digits.take (digits.length - places)
  if places = 0 then
    if keepsPoint then digits ++ ['.'] else digits
  else
    whole ++ '.' :: digits.drop (digits.length - places)

def fixedText (x : Binary64) (places : Nat) (keepsPoint : Bool) : List Char :=
  let rounded := roundHalfEven (x.scaled * Nat.pow 10 places) unitsPerOne
  pointBefore places keepsPoint (padDigits (places + 1) rounded)

def decimalExponent (x : Binary64) : Int :=
  (digitCount (x.scaled * Nat.pow 10 400 / unitsPerOne) : Int) - 401

/-- The digits of a finite number, one before the point and `places` after it, and the power of ten
that they are to be multiplied with. -/
def significant (x : Binary64) (places : Nat) : Nat × Int :=
  if x.isZero then
    (0, 0)
  else
    let exponent := x.decimalExponent
    let rounded :=
      match (places : Int) - exponent with
      | .ofNat power => roundHalfEven (x.scaled * Nat.pow 10 power) unitsPerOne
      | .negSucc power => roundHalfEven x.scaled (unitsPerOne * Nat.pow 10 (power + 1))
    if rounded = Nat.pow 10 (places + 1) then (Nat.pow 10 places, exponent + 1)
    else (rounded, exponent)

def exponentText (x : Binary64) (places : Nat) (keepsPoint : Bool) : List Char :=
  let (digits, exponent) := x.significant places
  let sign := if exponent < 0 then '-' else '+'
  pointBefore places keepsPoint (padDigits (places + 1) digits) ++
    'e' :: sign :: padDigits 2 exponent.natAbs

def dropFractionZeros (text : List Char) : List Char :=
  if text.contains '.' then
    let kept := text.reverse.dropWhile (· == '0')
    (if kept.head? == some '.' then kept.tail else kept).reverse
  else
    text

/-- The magnitude of a finite number in the shorter of both forms, with a number of digits in all.
Zeros at the end are left out unless they are to be kept. -/
def generalText (x : Binary64) (digits : Nat) (keepsZeros : Bool) : List Char :=
  let digits := max digits 1
  let exponent := (x.significant (digits - 1)).2
  if exponent < -4 || (digits : Int) ≤ exponent then
    let text := x.exponentText (digits - 1) keepsZeros
    let mantissa := text.takeWhile (· != 'e')
    (if keepsZeros then mantissa else dropFractionZeros mantissa) ++ text.dropWhile (· != 'e')
  else
    let text := x.fixedText ((digits : Int) - 1 - exponent).toNat keepsZeros
    if keepsZeros then text else dropFractionZeros text

def fractionDigits (x : Binary64) : List Char :=
  let digits := Nat.toDigits 16 (x.code % binadeSize)
  let digits := List.replicate (13 - digits.length) '0' ++ digits
  (digits.reverse.dropWhile (· == '0')).reverse

def hexText (x : Binary64) : List Char :=
  let biased : Nat := x.code / binadeSize
  let exponent : Int := if x.isZero then 0 else if biased = 0 then -1022 else (biased : Int) - 1023
  let fraction := x.fractionDigits
  let sign := if exponent < 0 then '-' else '+'
  let point := if fraction.isEmpty then [] else '.' :: fraction
  ['0', 'x', if biased = 0 then '0' else '1'] ++ point ++
    'p' :: sign :: Nat.toDigits 10 exponent.natAbs

def read? (text : List Char) : Option (Binary64 × List Char) :=
  let isBlank := fun (c : Char) => c = ' ' || ('\t' ≤ c && c ≤ '\r')
  let text := text.dropWhile isBlank
  let (isNegative, body) :=
    match text with
    | '-' :: rest => (true, rest)
    | '+' :: rest => (false, rest)
    | rest => (false, rest)
  let lower := body.map Char.toLower
  let digitValue := fun (c : Char) =>
    if c.isDigit then c.toNat - 48 else if c.isLower then c.toNat - 87 else c.toNat - 55
  let isHexDigit := fun (c : Char) =>
    c.isDigit || ('a' ≤ c && c ≤ 'f') || ('A' ≤ c && c ≤ 'F')
  let readExponent := fun (mark : Char) (rest : List Char) =>
    match rest with
    | c :: rest' =>
        if c.toLower = mark then
          let (isBelow, digits) :=
            match rest' with
            | '-' :: digits => (true, digits)
            | '+' :: digits => (false, digits)
            | digits => (false, digits)
          let found := digits.takeWhile Char.isDigit
          if found.isEmpty then
            ((0 : Int), rest)
          else
            let value := found.foldl (fun total c => min 100000 (total * 10 + digitValue c)) 0
            (if isBelow then -(value : Int) else value, digits.drop found.length)
        else
          (0, rest)
    | [] => (0, [])
  let readDigits := fun (base : Nat) (isDigit : Char → Bool) (text : List Char) =>
    let whole := text.takeWhile isDigit
    let rest := text.drop whole.length
    let (fraction, rest) :=
      match rest with
      | '.' :: after =>
          let fraction := after.takeWhile isDigit
          if whole.isEmpty && fraction.isEmpty then ([], rest)
          else (fraction, after.drop fraction.length)
      | _ => ([], rest)
    let value := (whole ++ fraction).foldl (fun total c => total * base + digitValue c) 0
    (value, whole.length + fraction.length, fraction.length, rest)
  if "infinity".toList.isPrefixOf lower then
    some (ofCode isNegative infinityCode, body.drop 8)
  else if "inf".toList.isPrefixOf lower then
    some (ofCode isNegative infinityCode, body.drop 3)
  else if "nan".toList.isPrefixOf lower then
    some (ofCode isNegative (infinityCode + binadeSize / 2), body.drop 3)
  else if "0x".toList.isPrefixOf lower && (readDigits 16 isHexDigit (body.drop 2)).2.1 ≠ 0 then
    let (value, _, places, rest) := readDigits 16 isHexDigit (body.drop 2)
    let (exponent, rest) := readExponent 'p' rest
    let code :=
      match exponent - 4 * places with
      | .ofNat power => if value = 0 then 0 else nearestCode (value * Nat.pow 2 (min power 3000)) 1
      | .negSucc power => nearestCode value (Nat.pow 2 (min (power + 1) 5000))
    some (ofCode isNegative code, rest)
  else
    let (value, count, places, rest) := readDigits 10 Char.isDigit body
    if count = 0 then
      none
    else
      let (exponent, rest) := readExponent 'e' rest
      some (ofCode isNegative (nearestDecimalCode value (exponent - places)), rest)

end Binary64

end Reparse
