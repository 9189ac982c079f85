import Reparse.Binary64.Fixed
import Reparse.Utility.Basic

namespace Reparse

namespace Utility

namespace Awk

inductive Token where
  | number (value : Binary64) (source : Bytes)
  | text (value : Bytes)
  | regex (source : Bytes)
  | name (name : String)
  | called (name : String)
  | builtIn (name : String)
  | keyword (name : String)
  | sign (sign : String)
  | lineEnd

namespace Token

def keywords : List String :=
  ["BEGIN", "END", "function", "func", "if", "else", "while", "for", "do", "break", "continue",
    "next", "nextfile", "exit", "return", "delete", "in", "getline", "print", "printf"]

def builtIns : List String :=
  ["length", "substr", "index", "split", "sub", "gsub", "match", "sprintf", "sin", "cos", "atan2",
    "exp", "log", "sqrt", "int", "rand", "srand", "tolower", "toupper", "system", "close", "fflush"]

def signs : List String :=
  ["&&", "||", "++", "--", "+=", "-=", "*=", "/=", "%=", "^=", "==", "!=", "<=", ">=", ">>", "!~",
    "\x7b", "\x7d", "(", ")", "[", "]", ";", ",", "+", "-", "*", "/", "%", "^", "!", ">", "<", "|",
    "?", ":", "~", "$", "="]

/-- Whether a value may end with a token, so that a slash after it divides. -/
def endsValue : Token → Bool
  | .number .. => true
  | .text _ => true
  | .regex _ => true
  | .name _ => true
  | .builtIn _ => true
  | .sign mark => [")", "]", "$", "++", "--"].contains mark
  | _ => false

def continues : Token → Bool
  | .sign mark => ["\x7b", "&&", "||", ",", ";"].contains mark
  | .keyword word => ["do", "else"].contains word
  | .lineEnd => true
  | _ => false

def shown : Token → Bytes
  | .number _ source => source
  | .text value => 34 :: value ++ [34]
  | .regex source => 47 :: source ++ [47]
  | .name word => Utf8.encode word
  | .called word => Utf8.encode word
  | .builtIn word => Utf8.encode word
  | .keyword word => Utf8.encode word
  | .sign mark => Utf8.encode mark
  | .lineEnd => Utf8.encode "end of line"

end Token

def isNameStart (b : UInt8) : Bool :=
  b == 95 || (65 ≤ b && b ≤ 90) || (97 ≤ b && b ≤ 122)

def isDigit (b : UInt8) : Bool :=
  48 ≤ b && b ≤ 57

/-- What a backslash and the bytes after it stand for in a text, and what is left; most bytes stand
for themselves, with the backslash. -/
def readEscape (text : Bytes) : Bytes × Bytes :=
  let isOctal := fun (b : UInt8) => 48 ≤ b && b ≤ 55
  let isHex := fun (b : UInt8) => isDigit b || (65 ≤ b && b ≤ 70) || (97 ≤ b && b ≤ 102)
  let value := fun (base : Nat) (digits : Bytes) =>
    (digits.foldl
      (fun (total : Nat) b =>
        total * base + (if isDigit b then b.toNat - 48 else b.toNat % 32 + 9))
      0).toUInt8
  match text with
  | [] => ([92], [])
  | b :: rest =>
      match Char.ofNat b.toNat with
      | '"' => ([34], rest)
      | '\\' => ([92], rest)
      | 'a' => ([7], rest)
      | 'b' => ([8], rest)
      | 'f' => ([12], rest)
      | 'n' => ([10], rest)
      | 'r' => ([13], rest)
      | 't' => ([9], rest)
      | 'v' => ([11], rest)
      | '\n' => ([], rest)
      | 'x' =>
          let digits := (rest.take 2).takeWhile isHex
          if digits.isEmpty then ([92, b], rest) else ([value 16 digits], rest.drop digits.length)
      | _ =>
          let digits := (text.take 3).takeWhile isOctal
          if digits.isEmpty then ([92, b], rest) else ([value 8 digits], text.drop digits.length)

def unescaped : (fuel : Nat) → Bytes → Bytes
  | 0, _ => []
  | _, [] => []
  | fuel + 1, 92 :: rest =>
      let (bytes, rest) := readEscape rest
      bytes ++ unescaped fuel rest
  | fuel + 1, b :: rest => b :: unescaped fuel rest

def readText : (fuel : Nat) → (found : Bytes) → Bytes → Option (Bytes × Bytes)
  | 0, _, _ => none
  | _, _, [] => none
  | fuel + 1, found, b :: rest =>
      if b = 34 then
        some (found.reverse, rest)
      else if b = 10 then
        none
      else if b = 92 then
        let (bytes, rest) := readEscape rest
        readText fuel (bytes.reverse ++ found) rest
      else
        readText fuel (b :: found) rest

def readRegex : (fuel : Nat) → (inBrackets : Bool) → (found : Bytes) → Bytes →
    Option (Bytes × Bytes)
  | 0, _, _, _ => none
  | _, _, _, [] => none
  | _, _, _, 10 :: _ => none
  | fuel + 1, inBrackets, found, 92 :: 47 :: rest => readRegex fuel inBrackets (47 :: found) rest
  | fuel + 1, inBrackets, found, 92 :: b :: rest =>
      readRegex fuel inBrackets (b :: 92 :: found) rest
  | fuel + 1, inBrackets, found, b :: rest =>
      if b = 47 && !inBrackets then
        some (found.reverse, rest)
      else if b = 91 && !inBrackets then
        -- A closing bracket may come first.
        match rest with
        | 93 :: rest => readRegex fuel true (93 :: 91 :: found) rest
        | 94 :: 93 :: rest => readRegex fuel true (93 :: 94 :: 91 :: found) rest
        | rest => readRegex fuel true (91 :: found) rest
      else
        readRegex fuel (inBrackets && b != 93) (b :: found) rest

def numberLength (text : Bytes) : Nat :=
  let whole := (text.takeWhile isDigit).length
  let fraction :=
    match text.drop whole with
    | 46 :: rest => 1 + (rest.takeWhile isDigit).length
    | _ => 0
  let exponent :=
    match text.drop (whole + fraction) with
    | e :: rest =>
        let sign := if rest.head? == some 43 || rest.head? == some 45 then 1 else 0
        let digits := ((rest.drop sign).takeWhile isDigit).length
        if (e = 101 || e = 69) && digits ≠ 0 then 1 + sign + digits else 0
    | [] => 0
  whole + fraction + exponent

abbrev Tokens :=
  List (Token × Nat)

def tokensFrom : (fuel line : Nat) → (found : Tokens) → Bytes → Except Bytes Tokens
  | 0, _, found, _ => .ok found.reverse
  | _, _, found, [] => .ok found.reverse
  | fuel + 1, line, found, b :: rest =>
      let lastEndsValue := (found.head?.map fun entry => entry.1.endsValue).getD false
      let lastContinues := (found.head?.map fun entry => entry.1.continues).getD true
      let keep := fun (token : Token) (rest : Bytes) =>
        tokensFrom fuel line ((token, line) :: found) rest
      if b = 32 || b = 9 || b = 13 || b = 12 then
        tokensFrom fuel line found rest
      else if b = 10 then
        if lastContinues then tokensFrom fuel (line + 1) found rest
        else tokensFrom fuel (line + 1) ((.lineEnd, line) :: found) rest
      else if b = 92 && rest.head? == some 10 then
        tokensFrom fuel (line + 1) found rest.tail
      else if b = 35 then
        tokensFrom fuel line found (rest.dropWhile (· != 10))
      else if b = 34 then
        match readText (rest.length + 1) [] rest with
        | some (value, rest) => keep (.text value) rest
        | none =>
            let start := rest.take 10
            .error (Utf8.encode "runaway string constant \"" ++ start ++ Utf8.encode " ...")
      else if b = 47 && !lastEndsValue then
        match readRegex (rest.length + 1) false [] rest with
        | some (source, rest) => keep (.regex source) rest
        | none =>
            let start := rest.take 10
            .error (Utf8.encode "runaway regular expression /" ++ start ++ Utf8.encode " ...")
      else if isDigit b || (b = 46 && (rest.head?).any isDigit) then
        let source := (b :: rest).take (numberLength (b :: rest))
        let value := (Binary64.read? (source.map fun b => Char.ofNat b.toNat)).map Prod.fst
        keep (.number (value.getD (.ofCode false 0)) source) ((b :: rest).drop source.length)
      else if isNameStart b then
        let tail := rest.takeWhile fun b => isNameStart b || isDigit b
        let name := Utf8.decodeLenient (b :: tail)
        let rest := rest.drop tail.length
        if Token.keywords.contains name then keep (.keyword name) rest
        else if Token.builtIns.contains name then keep (.builtIn name) rest
        else if rest.head? == some 40 then keep (.called name) rest
        else keep (.name name) rest
      else
        let isHere := fun (sign : String) => (Utf8.encode sign).isPrefixOf (b :: rest)
        match Token.signs.find? isHere with
        | some sign => keep (.sign sign) ((b :: rest).drop sign.utf8ByteSize)
        | none =>
            let shown := Utf8.encode s!"{line}: unexpected character '" ++ [b, 39]
            .error shown

def tokens (text : Bytes) : Except Bytes Tokens :=
  tokensFrom (text.length + 1) 1 [] text

end Awk

end Utility

end Reparse
