import Reparse.Binary64.Fixed
import Reparse.Utility.Escape

/-!
Text that is printed by a format.

A format is used again as long as it takes arguments and some are left.  An argument that is no
number counts as far as it is one, with a complaint.
-/

namespace Reparse

namespace Utility

structure Directive where
  flags : Bytes
  width : Nat
  precision : Option Nat
  letter : UInt8

namespace Directive

def hasFlag (directive : Directive) (flag : Char) : Bool :=
  directive.flags.contains flag.toNat.toUInt8

def pad (directive : Directive) (body : Bytes) : Bytes :=
  let missing := List.replicate (directive.width - body.length) 32
  if directive.hasFlag '-' then body ++ missing else missing ++ body

def padNumber (directive : Directive) (mayHaveZeros : Bool) (sign digits : List Char) : Bytes :=
  let width := sign.length + digits.length
  let zeros :=
    if directive.hasFlag '0' && !directive.hasFlag '-' && mayHaveZeros then
      List.replicate (directive.width - width) '0'
    else
      []
  directive.pad (Utf8.encode (String.ofList (sign ++ zeros ++ digits)))

def cut (directive : Directive) (body : Bytes) : Bytes :=
  match directive.precision with
  | some most => body.take most
  | none => body

def signText (directive : Directive) (isNegative : Bool) : List Char :=
  if isNegative then ['-']
  else if directive.hasFlag '+' then ['+']
  else if directive.hasFlag ' ' then [' ']
  else []

def wholeDigits (directive : Directive) (base value : Nat) : List Char :=
  let digits := if value = 0 && directive.precision = some 0 then [] else Nat.toDigits base value
  List.replicate (directive.precision.getD 0 - digits.length) '0' ++ digits

def signed (directive : Directive) (value : Int) : Bytes :=
  directive.padNumber directive.precision.isNone (directive.signText (value < 0))
    (directive.wholeDigits 10 value.natAbs)

def unsigned (directive : Directive) (value : Nat) : Bytes :=
  let hash := directive.hasFlag '#'
  let go := fun (base : Nat) => directive.wholeDigits base value
  let (mark, digits) :=
    match Char.ofNat directive.letter.toNat with
    | 'o' =>
        let digits := go 8
        (([] : List Char), if hash && digits.head? != some '0' then '0' :: digits else digits)
    | 'x' => (if hash && value ≠ 0 then ['0', 'x'] else [], go 16)
    | 'X' => (if hash && value ≠ 0 then ['0', 'X'] else [], (go 16).map Char.toUpper)
    | _ => ([], go 10)
  directive.padNumber directive.precision.isNone mark digits

def real (directive : Directive) (value : Binary64) : Bytes :=
  let letter := Char.ofNat directive.letter.toNat
  let places := directive.precision.getD 6
  let hash := directive.hasFlag '#'
  let text :=
    if value.isNaN then "nan".toList
    else if value.isInfinite then "inf".toList
    else
      match letter.toLower with
      | 'f' => value.fixedText places hash
      | 'e' => value.exponentText places hash
      | 'g' => value.generalText places hash
      | _ => value.hexText
  let text := if letter.isUpper then text.map Char.toUpper else text
  directive.padNumber value.isFinite (directive.signText value.negative) text

end Directive

structure Printing where
  arguments : List Bytes
  output : List Bytes := []
  complaints : List Bytes := []
  failed : Bool := false

inductive PrintHalt where
  | asked
  | wrong (complaint : Bytes)

structure PrintStyle where
  inShell : Bool

namespace PrintStyle

def about (style : PrintStyle) (word : Bytes) (shellText otherText : String) : Bytes :=
  if style.inShell then word ++ Utf8.encode s!": {shellText}"
  else 39 :: word ++ Utf8.encode s!"': {otherText}"

end PrintStyle

namespace Printing

abbrev Step :=
  ExceptT PrintHalt (StateM Printing)

def put (bytes : Bytes) : Step Unit :=
  modify fun printing => { printing with output := bytes :: printing.output }

def complain (complaint : Bytes) : Step Unit :=
  modify fun printing =>
    { printing with complaints := complaint :: printing.complaints, failed := true }

def next : Step (Option Bytes) := do
  let printing ← get
  set { printing with arguments := printing.arguments.tail }
  return printing.arguments.head?

def readWhole? (text : Bytes) : Option (Nat × Bytes) :=
  let isDigit := fun (b : UInt8) => 48 ≤ b && b ≤ 57
  let read := fun (base : Nat) (isDigit : UInt8 → Bool) (text : Bytes) =>
    Escape.readDigits base text.length isDigit text
  match text with
  | 48 :: x :: c :: rest =>
      if (x = 120 || x = 88) && Escape.isHex c then some (read 16 Escape.isHex (c :: rest))
      else some (read 8 Escape.isOctal text)
  | 48 :: _ => some (read 8 Escape.isOctal text)
  | c :: _ => if isDigit c then some (read 10 isDigit text) else none
  | [] => none

def checkRest (style : PrintStyle) (word rest : Bytes) (isTooLarge : Bool) : Step Unit :=
  if rest.length = word.length then
    if word.isEmpty then pure ()
    else complain (style.about word "expected numeric value" "expected a numeric value")
  else if !rest.isEmpty then
    complain (style.about word "not completely converted" "value not completely converted")
  else if isTooLarge then
    complain (style.about word "Numerical result out of range" "Numerical result out of range")
  else
    pure ()

/-- An argument as a whole number.  A quote stands for the byte after it. -/
def whole (style : PrintStyle) (isSigned : Bool) : Step Int := do
  match ← next with
  | none => return 0
  | some word =>
      match word with
      | 34 :: rest => return (rest.head?.getD 0).toNat
      | 39 :: rest => return (rest.head?.getD 0).toNat
      | _ =>
          let text := word.dropWhile fun b => b = 32 || (9 ≤ b && b ≤ 13)
          let (isNegative, digits) :=
            match text with
            | 45 :: rest => (true, rest)
            | 43 :: rest => (false, rest)
            | rest => (false, rest)
          match readWhole? digits with
          | none =>
              checkRest style word word false
              return 0
          | some (value, rest) =>
              let value : Int := if isNegative then -(value : Int) else value
              let (lowest, highest) : Int × Int :=
                if isSigned then (-0x8000000000000000, 0x7fffffffffffffff)
                else (-0xffffffffffffffff, 0xffffffffffffffff)
              let isTooLarge := value < lowest || highest < value
              checkRest style word rest isTooLarge
              if isSigned then
                return max lowest (min highest value)
              else
                return if isTooLarge then highest else value % 0x10000000000000000

def real (style : PrintStyle) : Step Binary64 := do
  match ← next with
  | none => return Binary64.ofNat 0
  | some word =>
      match word with
      | 34 :: rest => return Binary64.ofNat (rest.head?.getD 0).toNat
      | 39 :: rest => return Binary64.ofNat (rest.head?.getD 0).toNat
      | _ =>
          match Binary64.read? (word.map fun b => Char.ofNat b.toNat) with
          | none =>
              checkRest style word word false
              return Binary64.ofNat 0
          | some (value, rest) =>
              checkRest style word (rest.map fun c => c.toNat.toUInt8) false
              return value

def size (style : PrintStyle) (text : Bytes) : Step (Option Int × Bytes) := do
  match text with
  | 42 :: rest => return (some (← whole style true), rest)
  | _ =>
      let (value, rest) := Escape.readDigits 10 text.length (fun b => 48 ≤ b && b ≤ 57) text
      return (if rest.length = text.length then none else some value, rest)

/-- Put an argument where a directive stands.  The text after its percent sign is given, and what is
left of it is the result. -/
def direct (style : PrintStyle) (text : Bytes) : Step Bytes := do
  let isFlag := fun (b : UInt8) => [32, 35, 43, 45, 48].contains b
  let flags := text.takeWhile isFlag
  let (width, rest) ← size style (text.drop flags.length)
  let flags := if width.any (· < 0) then 45 :: flags else flags
  let (precision, rest) ←
    match rest with
    | 46 :: rest => do
        let (precision, rest) ← size style rest
        pure (some (precision.getD 0), rest)
    | rest => pure (none, rest)
  let precision := precision.bind fun value => if value < 0 then none else some value.toNat
  let isSizeLetter := fun (b : UInt8) => [104, 108, 76, 113, 106, 122, 116].contains b
  let rest := if style.inShell then rest else
    let after := rest.dropWhile isSizeLetter
    if after.isEmpty then rest else after
  let wrong := fun (used : Bytes) => (throw (.wrong used) : Step Bytes)
  match rest with
  | [] =>
      if style.inShell then wrong (Utf8.encode "missing format character")
      else wrong (37 :: text ++ Utf8.encode ": invalid conversion specification")
  | letter :: rest =>
      let directive : Directive :=
        ⟨flags, (width.map Int.natAbs).getD 0, precision, letter⟩
      match Char.ofNat letter.toNat with
      | 's' =>
          put (directive.pad (directive.cut ((← next).getD [])))
          return rest
      | 'b' =>
          let word := (← next).getD []
          let (body, stops) := unescape ⟨style.inShell, false⟩ (word.length + 1) word
          put (directive.pad (directive.cut body))
          if stops then throw .asked else return rest
      | 'c' =>
          let word := (← next).getD []
          put (directive.pad [word.head?.getD 0])
          return rest
      | 'd' =>
          put (directive.signed (← whole style true))
          return rest
      | 'i' =>
          put (directive.signed (← whole style true))
          return rest
      | c =>
          if ['o', 'u', 'x', 'X'].contains c then
            put (directive.unsigned (← whole style false).toNat)
            return rest
          else if ['a', 'A', 'e', 'E', 'f', 'F', 'g', 'G'].contains c then
            put (directive.real (← real style))
            return rest
          else
            let used := 37 :: text.take (text.length - rest.length)
            if style.inShell then wrong (used ++ Utf8.encode ": invalid directive")
            else wrong (used ++ Utf8.encode ": invalid conversion specification")

def once (style : PrintStyle) : (fuel : Nat) → Bytes → Step Unit
  | 0, _ => pure ()
  | _, [] => pure ()
  | fuel + 1, 92 :: rest => do
      match Escape.read ⟨style.inShell, true⟩ rest with
      | (.stop, _) => throw .asked
      | (.bytes content, rest) =>
          put content
          once style fuel rest
  | fuel + 1, 37 :: 37 :: rest => do
      put [37]
      once style fuel rest
  | fuel + 1, 37 :: rest => do
      let rest ← direct style rest
      once style fuel rest
  | fuel + 1, b :: rest => do
      put [b]
      once style fuel rest

def again (style : PrintStyle) (format : Bytes) : (fuel : Nat) → Step Unit
  | 0 => pure ()
  | fuel + 1 => do
      let before := (← get).arguments.length
      once style (format.length + 1) format
      let after := (← get).arguments.length
      if after = 0 || after = before then pure () else again style format fuel

end Printing

structure Printed where
  output : Bytes
  complaints : List Bytes
  status : Nat

def printFormat (style : PrintStyle) (format : Bytes) (arguments : List Bytes) : Printed :=
  let (result, printing) :=
    (Printing.again style format (arguments.length + 1)).run.run { arguments := arguments }
  let output := printing.output.reverse.flatten
  let complaints := printing.complaints.reverse
  let status := if printing.failed then 1 else 0
  match result with
  | .error (.wrong complaint) => ⟨output, complaints ++ [complaint], if style.inShell then 2 else 1⟩
  | .error .asked => ⟨output, complaints, status⟩
  | .ok _ =>
      match style.inShell, printing.arguments with
      | false, word :: _ =>
          let text := "warning: ignoring excess arguments, starting with '"
          let warning := Utf8.encode text ++ word ++ [39]
          ⟨output, complaints ++ [warning], status⟩
      | _, _ => ⟨output, complaints, status⟩

end Utility

end Reparse
