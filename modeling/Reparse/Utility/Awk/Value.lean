import Reparse.Utility.Basic
import Reparse.Utility.Format

namespace Reparse

namespace Utility

namespace Awk

inductive Value where
  | unset
  | number (value : Float)
  | text (value : Bytes)
  | numeral (value : Float) (source : Bytes)

instance : Inhabited Value := ⟨.unset⟩

def numberOf (text : Bytes) : Float :=
  match Binary64.read? (text.map fun b => Char.ofNat b.toNat) with
  | some (value, _) => Float.ofBits value.bits
  | none => 0

def Value.ofInput (text : Bytes) : Value :=
  let isBlank := fun (b : UInt8) => b == 32 || b == 9 || b == 10
  let body := ((text.dropWhile isBlank).reverse.dropWhile isBlank).reverse
  let isDigitOrPoint := fun (b : UInt8) => b == 46 || (48 ≤ b && b ≤ 57)
  let mayStart := fun (b : UInt8) => isDigitOrPoint b || b == 43 || b == 45
  if (body.head?).any mayStart && (body.getLast?).any isDigitOrPoint then
    match Binary64.read? (body.map fun b => Char.ofNat b.toNat) with
    | some (value, []) => .numeral (Float.ofBits value.bits) text
    | _ => .text text
  else
    .text text

def wholeOf (x : Float) : Int :=
  if x.isNaN then -0x8000000000000000 else x.toInt64.toInt

def binaryOf (x : Float) : Binary64 :=
  ⟨x.toBits⟩

def whole? (x : Float) : Option Int :=
  if x < 9223372036854775808.0 then
    if -9223372036854775808.0 ≤ x && Float.ofInt (wholeOf x) == x then some (wholeOf x) else none
  else if x ≤ 18446744073709551616.0 then
    some x.toUInt64.toNat
  else
    none

/-! Formats -/

inductive FormatFault where
  | tooFew (made : Bytes)
  | improper (made : Bytes) (number : Nat)

structure Placeholder where
  flags : Bytes
  width : Option (Option Nat)
  precision : Option (Option Nat)
  letter : UInt8
  rest : Bytes

def readSize (text : Bytes) : Option (Option Nat) × Bytes :=
  match text with
  | 42 :: rest => (some none, rest)
  | _ =>
      let digits := text.takeWhile fun b => 48 ≤ b && b ≤ 57
      if digits.isEmpty then (none, text) else (some (decimal? digits), text.drop digits.length)

def readPlaceholder? (text : Bytes) : Option Placeholder :=
  let flags := text.takeWhile fun b => [32, 35, 43, 45, 48].contains b
  let (width, rest) := readSize (text.drop flags.length)
  let (precision, rest) :=
    match rest with
    | 46 :: rest =>
        let (precision, rest) := readSize rest
        (some (precision.getD (some 0)), rest)
    | rest => (none, rest)
  let rest := rest.dropWhile fun b => b == 104 || b == 108
  match rest with
  | [] => none
  | letter :: rest => some ⟨flags, width, precision, letter, rest⟩

def takeValue (values : List Value) : Option (Value × List Value) :=
  match values with
  | [] => none
  | value :: values => some (value, values)

def sizeOf (toNumber : Value → Float) (size : Option (Option Nat)) (values : List Value) :
    Option (Option Int × List Value) :=
  match size with
  | none => some (none, values)
  | some (some given) => some (some given, values)
  | some none =>
      match takeValue values with
      | none => none
      | some (value, values) => some (some (wholeOf (toNumber value)), values)

/-- A value where a directive stands; nothing if the directive is improper. -/
def fill (toNumber : Value → Float) (toText : Value → Bytes) (directive : Directive)
    (value : Value) :
    Option Bytes :=
  match Char.ofNat directive.letter.toNat with
  | 's' => some (directive.pad (directive.cut (toText value)))
  | 'c' =>
      match value with
      | .number x => some (directive.pad [(wholeOf x).toNat.toUInt8])
      | .numeral x _ => some (directive.pad [(wholeOf x).toNat.toUInt8])
      | other => some (directive.pad [(toText other).head?.getD 0])
  | c =>
      let x := toNumber value
      if c = 'd' || c = 'i' then
        some (directive.signed ((whole? (if x < 0 then x.ceil else x.floor)).getD (wholeOf x)))
      else if ['o', 'u', 'x', 'X'].contains c then
        some (directive.unsigned ((wholeOf x) % 0x10000000000000000).toNat)
      else if ['e', 'E', 'f', 'F', 'g', 'G', 'a', 'A'].contains c then
        some (directive.real (binaryOf x))
      else
        none

def formatFrom (toNumber : Value → Float) (toText : Value → Bytes) :
    (fuel count : Nat) → (made : Bytes) → Bytes → List Value → Except FormatFault Bytes
  | 0, _, made, _, _ => .ok made.reverse
  | _, _, made, [], _ => .ok made.reverse
  | fuel + 1, count, made, 37 :: 37 :: rest, values =>
      formatFrom toNumber toText fuel count (37 :: made) rest values
  | fuel + 1, count, made, 37 :: rest, values =>
      match readPlaceholder? rest with
      | none => .error (.improper made.reverse (count + 1))
      | some place =>
          match sizeOf toNumber place.width values with
          | none => .error (.tooFew made.reverse)
          | some (width, values) =>
              match sizeOf toNumber place.precision values with
              | none => .error (.tooFew made.reverse)
              | some (precision, values) =>
                  let flags := if width.any (· < 0) then 45 :: place.flags else place.flags
                  let precision :=
                    precision.bind fun size => if size < 0 then none else some size.toNat
                  let directive : Directive :=
                    ⟨flags, (width.map Int.natAbs).getD 0, precision, place.letter⟩
                  if !("sdiouxXeEfFgGaAc".toList.contains (Char.ofNat place.letter.toNat)) then
                    .error (.improper made.reverse (count + 1))
                  else
                    match takeValue values with
                    | none => .error (.tooFew made.reverse)
                    | some (value, values) =>
                        match fill toNumber toText directive value with
                        | none => .error (.improper made.reverse (count + 1))
                        | some filled =>
                            formatFrom toNumber toText fuel (count + 1) (filled.reverse ++ made)
                              place.rest values
  | fuel + 1, count, made, b :: rest, values =>
      formatFrom toNumber toText fuel count (b :: made) rest values

namespace Value

def toNumber : Value → Float
  | .unset => 0
  | .number x => x
  | .text bytes => numberOf bytes
  | .numeral x _ => x

def toText (format : Bytes) : Value → Bytes
  | .unset => []
  | .text bytes => bytes
  | .numeral _ bytes => bytes
  | .number x =>
      match whole? x with
      | some value => Utf8.encode (toString value)
      | none =>
          let made :=
            formatFrom (fun _ => x) (fun _ => []) (format.length + 1) 0 [] format [.number x]
          match made with
          | .ok made => made
          | .error _ => []

def isTrue : Value → Bool
  | .unset => false
  | .number x => x != 0
  | .text bytes => !bytes.isEmpty
  | .numeral x _ => x != 0

def ofBool (truth : Bool) : Value :=
  .number (if truth then 1 else 0)

def ofNat (count : Nat) : Value :=
  .number (Float.ofNat count)

def comparable? : Value → Option Float
  | .unset => some 0
  | .number x => some x
  | .numeral x _ => some x
  | .text _ => none

def comesBefore : Bytes → Bytes → Bool
  | _, [] => false
  | [], _ :: _ => true
  | a :: left, b :: right => a < b || (a == b && comesBefore left right)

end Value

end Awk

end Utility

end Reparse
