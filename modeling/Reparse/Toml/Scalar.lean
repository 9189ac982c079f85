import Reparse.Json.Quoted
import Reparse.Toml.Basic

namespace Reparse

namespace Toml

def isControl (c : Char) : Bool :=
  (c.toNat < 0x20 && c != '\t') || c.toNat == 0x7F

def isSpace (c : Char) : Bool :=
  c == ' ' || c == '\t'

def newline? : List Char → Option (List Char)
  | '\n' :: rest => some rest
  | '\x0d' :: '\n' :: rest => some rest
  | _ => none

def charOf? (value : Nat) : Option Char :=
  if h : value.isValidChar then some (Char.ofNatAux value h) else none

def hexValue? (digits : List Char) : Option Nat :=
  digits.foldlM (fun value digit => (Quoted.hexValue? digit).map (value * 16 + ·)) 0

def numericEscape? (count : Nat) (text : List Char) : Option (Char × List Char) := do
  let digits := text.take count
  if digits.length < count then
    none
  else
    let c ← hexValue? digits >>= charOf?
    return (c, text.drop count)

def unescape? : List Char → Option (Char × List Char)
  | 'b' :: rest => some ('\x08', rest)
  | 't' :: rest => some ('\t', rest)
  | 'n' :: rest => some ('\n', rest)
  | 'f' :: rest => some ('\x0c', rest)
  | 'r' :: rest => some ('\x0d', rest)
  | 'e' :: rest => some ('\x1b', rest)
  | '"' :: rest => some ('"', rest)
  | '\\' :: rest => some ('\\', rest)
  | 'x' :: rest => numericEscape? 2 rest
  | 'u' :: rest => numericEscape? 4 rest
  | 'U' :: rest => numericEscape? 8 rest
  | _ => none

abbrev Text :=
  List Char × List Char

def Text.cons (c : Char) (text : Text) : Text :=
  (c :: text.1, text.2)

def basicString : (fuel : Nat) → List Char → Option Text
  | 0, _ => none
  | _ + 1, [] => none
  | _ + 1, '"' :: rest => some ([], rest)
  | fuel + 1, '\\' :: rest => do
      let (c, rest) ← unescape? rest
      return (← basicString fuel rest).cons c
  | fuel + 1, c :: rest =>
      if isControl c then none else (basicString fuel rest).map (Text.cons c)

def literalString : List Char → Option Text
  | [] => none
  | '\'' :: rest => some ([], rest)
  | c :: rest => if isControl c then none else (literalString rest).map (Text.cons c)

/-- The quotes at the front of a text that end a string of three quotes: up to two of them belong
to the string. -/
def closing? (quote : Char) (text : List Char) : Option Text :=
  let quotes := (text.takeWhile (· == quote)).length
  if quotes < 3 then
    none
  else
    let kept := min 2 (quotes - 3)
    some (List.replicate kept quote, text.drop (kept + 3))

def dropSpaces : List Char → List Char
  | ' ' :: rest => dropSpaces rest
  | '\t' :: rest => dropSpaces rest
  | '\n' :: rest => dropSpaces rest
  | '\x0d' :: '\n' :: rest => dropSpaces rest
  | text => text

/-- A backslash at the end of a line joins the lines, blank lines included. -/
def joinLines? (text : List Char) : Option (List Char) :=
  (newline? (text.dropWhile isSpace)).map dropSpaces

def multilineBasic : (fuel : Nat) → List Char → Option Text
  | 0, _ => none
  | _ + 1, [] => none
  | fuel + 1, c :: rest =>
      match closing? '"' (c :: rest) with
      | some closed => some closed
      | none =>
          if c = '\\' then
            match joinLines? rest with
            | some rest => multilineBasic fuel rest
            | none => do
                let (c, rest) ← unescape? rest
                return (← multilineBasic fuel rest).cons c
          else if c = '\x0d' then
            if rest.head? = some '\n' then (multilineBasic fuel rest).map (Text.cons c) else none
          else if isControl c && c != '\n' then
            none
          else
            (multilineBasic fuel rest).map (Text.cons c)

def multilineLiteral : List Char → Option Text
  | [] => none
  | c :: rest =>
      match closing? '\'' (c :: rest) with
      | some closed => some closed
      | none =>
          if c = '\x0d' then
            if rest.head? = some '\n' then (multilineLiteral rest).map (Text.cons c) else none
          else if isControl c && c != '\n' then
            none
          else
            (multilineLiteral rest).map (Text.cons c)

def skipNewline (text : List Char) : List Char :=
  (newline? text).getD text

def string? : List Char → Option Text
  | '"' :: '"' :: '"' :: rest => multilineBasic (rest.length + 1) (skipNewline rest)
  | '\'' :: '\'' :: '\'' :: rest => multilineLiteral (skipNewline rest)
  | '"' :: rest => basicString (rest.length + 1) rest
  | '\'' :: rest => literalString rest
  | _ => none

def splitUnderscores : List Char → List (List Char)
  | [] => [[]]
  | c :: rest =>
      match splitUnderscores rest with
      | [] => [[c]]
      | part :: parts => if c = '_' then [] :: part :: parts else (c :: part) :: parts

/-- Whether underscores stand between digits only.  A part of one character may end in a sign. -/
def underscoresFit (isDigit : Char → Bool) (text : List Char) : Bool :=
  let parts := splitUnderscores text
  parts.length = 1 ||
    (parts.dropLast.all (fun part =>
        part.length = 1 || part.getLast?.any isDigit) &&
      parts.tail.all fun part => part.head?.any isDigit)

def isHexDigit (c : Char) : Bool :=
  (Quoted.hexValue? c).isSome

def numberOf? (base : Nat) (digits : List Char) : Option Nat :=
  if digits.isEmpty then
    none
  else
    digits.foldlM
      (fun value c => do
        let digit ← Quoted.hexValue? c
        if digit < base then some (value * base + digit) else none)
      0

def numberOf (digits : List Char) : Nat :=
  (numberOf? 10 digits).getD 0

def integerOf (base : Nat) (text : List Char) : Option Int :=
  match text.filter (· != '_') with
  | '+' :: digits => (numberOf? base digits).map Int.ofNat
  | '-' :: digits => (numberOf? base digits).map fun value => -(value : Int)
  | digits => (numberOf? base digits).map Int.ofNat

def isNumberPart (c : Char) : Bool :=
  c.isDigit || c == '_'

/-- Whether the front of a text has digits; if `zeroFirst` is not set a zero in front has to stand
alone. -/
def hasDigits (zeroFirst : Bool) (text : List Char) : Bool :=
  let digits := ((text.takeWhile isNumberPart).filter (· != '_')).length
  0 < digits && (zeroFirst || digits = 1 || text.head? != some '0')

def isExponent : List Char → Bool
  | letter :: text =>
      let power :=
        match text with
        | '+' :: power => power
        | '-' :: power => power
        | power => power
      (letter == 'e' || letter == 'E') && hasDigits true power && power.all isNumberPart
  | [] => false

def isFloat (text : List Char) : Bool :=
  let after := text.dropWhile isNumberPart
  hasDigits false text &&
    match after with
    | '.' :: fraction =>
        let power := fraction.dropWhile isNumberPart
        hasDigits true fraction && (power.isEmpty || isExponent power)
    | power => power.isEmpty || isExponent power

def pair? (a b : Char) : Option Nat :=
  if a.isDigit && b.isDigit then some (numberOf [a, b]) else none

def daysIn (year month : Nat) : Nat :=
  if month = 2 then
    if year % 4 = 0 ∧ (year % 100 ≠ 0 ∨ year % 400 = 0) then 29 else 28
  else if month = 4 ∨ month = 6 ∨ month = 9 ∨ month = 11 then
    30
  else
    31

def date? : List Char → Option (List Char)
  | a :: b :: c :: d :: '-' :: e :: f :: '-' :: g :: h :: rest => do
      let year := (← pair? a b) * 100 + (← pair? c d)
      let month ← pair? e f
      let day ← pair? g h
      if 1 ≤ month ∧ month ≤ 12 ∧ 1 ≤ day ∧ day ≤ daysIn year month then some rest else none
  | _ => none

def fraction? : List Char → Option (List Char)
  | '.' :: text =>
      if text.head?.any Char.isDigit then some (text.dropWhile Char.isDigit) else none
  | text => some text

def seconds? : List Char → Option (List Char)
  | ':' :: a :: b :: rest => do
      if (← pair? a b) ≤ 60 then fraction? rest else none
  | ':' :: _ => none
  | text => some text

def time? : List Char → Option (List Char)
  | a :: b :: ':' :: c :: d :: rest => do
      if (← pair? a b) ≤ 23 ∧ (← pair? c d) ≤ 59 then seconds? rest else none
  | _ => none

def isOffset : List Char → Bool
  | ['Z'] | ['z'] => true
  | sign :: a :: b :: ':' :: c :: d :: [] =>
      (sign == '+' || sign == '-') && (pair? a b).any (· ≤ 23) && (pair? c d).any (· ≤ 59)
  | _ => false

def isMoment (text : List Char) : Bool :=
  match date? text with
  | some [] => true
  | some (separator :: rest) =>
      (separator == 'T' || separator == 't' || separator == ' ') &&
        (time? rest).any fun after => after.isEmpty || isOffset after
  | none => (time? text).any List.isEmpty

def based? (base : Nat) (digits : List Char) : Option Value :=
  let isDigit := fun (c : Char) => (Quoted.hexValue? c).any (· < base)
  if digits.all (fun c => isDigit c || c == '_') && digits.head? != some '_' &&
      digits.getLast? != some '_' && underscoresFit isHexDigit digits then
    some (.integer (integerOf base digits))
  else
    none

/-- A number, a date or a time; `body` is the word without its sign.  A word that begins like an
integer and goes on after an underscore is taken for one, whatever it says. -/
def numberOrMoment? (word body : List Char) : Option Value :=
  let rest := body.dropWhile Char.isDigit
  let decimal :=
    if body.head? != some '0' && word.head? != some '_' && word.getLast? != some '_' &&
        underscoresFit isHexDigit word then
      some (Value.integer (integerOf 10 word))
    else
      none
  match rest with
  | [] => if body = ['0'] then some (.integer (integerOf 10 word)) else decimal
  | c :: _ =>
      if c = '-' ∨ c = ':' then
        if isMoment word then some (.scalar (String.ofList word)) else none
      else if rest.any fun c => c == '.' || c == 'e' || c == 'E' then
        if isFloat body && underscoresFit Char.isDigit word then
          some (.scalar (String.ofList word))
        else
          none
      else if c = '_' then
        decimal
      else
        none

def unsigned? (word : List Char) (signed : Bool) (body : List Char) : Option Value :=
  match body with
  | ['i', 'n', 'f'] => some (.scalar (String.ofList word))
  | ['n', 'a', 'n'] => some (.scalar (String.ofList word))
  | '0' :: 'x' :: digits => if signed then none else based? 16 digits
  | '0' :: 'o' :: digits => if signed then none else based? 8 digits
  | '0' :: 'b' :: digits => if signed then none else based? 2 digits
  | c :: _ => if c.isDigit || c == '_' then numberOrMoment? word body else none
  | [] => none

def word? (word : List Char) : Option Value :=
  match word with
  | ['t', 'r', 'u', 'e'] => some (.scalar "true")
  | ['f', 'a', 'l', 's', 'e'] => some (.scalar "false")
  | '+' :: body => unsigned? word true body
  | '-' :: body => unsigned? word true body
  | body => unsigned? word false body

end Toml

end Reparse
