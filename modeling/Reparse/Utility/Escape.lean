import Reparse.Text.Utf8

namespace Reparse

namespace Utility

/-- Where a text with backslashes stands.  A shell knows fewer of them than the programs outside of
it, and more is known in a format than in an argument of one. -/
structure EscapeStyle where
  inShell : Bool
  inFormat : Bool

inductive Escape where
  | bytes (content : Bytes)
  | stop

namespace Escape

def readDigits (base most : Nat) (isDigit : UInt8 → Bool) (text : Bytes) : Nat × Bytes :=
  let found := (text.take most).takeWhile isDigit
  let digit := fun (b : UInt8) =>
    if b < 58 then b.toNat - 48 else if b < 71 then b.toNat - 55 else b.toNat - 87
  (found.foldl (fun total b => total * base + digit b) 0, text.drop found.length)

def isOctal (b : UInt8) : Bool :=
  48 ≤ b && b ≤ 55

def isHex (b : UInt8) : Bool :=
  (48 ≤ b && b ≤ 57) || (65 ≤ b && b ≤ 70) || (97 ≤ b && b ≤ 102)

def letter? (letter : UInt8) : Option UInt8 :=
  match Char.ofNat letter.toNat with
  | 'a' => some 7
  | 'b' => some 8
  | 'e' => some 27
  | 'f' => some 12
  | 'n' => some 10
  | 'r' => some 13
  | 't' => some 9
  | 'v' => some 11
  | '\\' => some 92
  | _ => none

def ofCode (digits code : Nat) : Bytes :=
  if code < 128 then
    [code.toUInt8]
  else
    let text := (Nat.toDigits 16 code).map Char.toUpper
    let text := List.replicate (digits - text.length) '0' ++ text
    Utf8.encode (String.ofList ('\\' :: (if digits = 4 then 'u' else 'U') :: text))

def read (style : EscapeStyle) (text : Bytes) : Escape × Bytes :=
  match text with
  | [] => (.bytes [92], [])
  | b :: rest =>
      match letter? b with
      | some byte => (.bytes [byte], rest)
      | none =>
          let unknown := (Escape.bytes [92, b], rest)
          if b = 48 && !style.inFormat then
            let (value, rest) := readDigits 8 3 isOctal rest
            (.bytes [value.toUInt8], rest)
          else if isOctal b then
            let (value, rest) := readDigits 8 3 isOctal text
            (.bytes [value.toUInt8], rest)
          else if b = 99 && !(style.inShell && style.inFormat) then
            (.stop, rest)
          else if b = 34 && (style.inShell || style.inFormat) then
            (.bytes [34], rest)
          else if style.inShell then
            unknown
          else if b = 120 then
            let (value, after) := readDigits 16 2 isHex rest
            if after.length = rest.length then unknown else (.bytes [value.toUInt8], after)
          else if b = 117 && style.inFormat then
            let (value, after) := readDigits 16 4 isHex rest
            (.bytes (ofCode 4 value), after)
          else if b = 85 && style.inFormat then
            let (value, after) := readDigits 16 8 isHex rest
            (.bytes (ofCode 8 value), after)
          else
            unknown

end Escape

def unescape (style : EscapeStyle) : (fuel : Nat) → Bytes → Bytes × Bool
  | 0, _ => ([], false)
  | _, [] => ([], false)
  | fuel + 1, 92 :: rest =>
      match Escape.read style rest with
      | (.stop, _) => ([], true)
      | (.bytes content, rest) =>
          let (more, stops) := unescape style fuel rest
          (content ++ more, stops)
  | fuel + 1, b :: rest =>
      let (more, stops) := unescape style fuel rest
      (b :: more, stops)

def echoed (words : List Bytes) (style : Option EscapeStyle) (endsLine : Bool) : Bytes :=
  let text := ([32] : Bytes).intercalate words
  let (text, stops) :=
    match style with
    | none => (text, false)
    | some style => unescape style (text.length + 1) text
  if stops || !endsLine then text else text ++ [10]

/-- Read the options of an `echo` outside of a shell, each of them one or more of three letters:
whether backslashes mean something, and whether the line ends. -/
def echoOptions (escapes endsLine : Bool) : List Bytes → Bool × Bool × List Bytes
  | [] => (escapes, endsLine, [])
  | word :: words =>
      match word with
      | 45 :: b :: letters =>
          if (b :: letters).all fun letter => letter = 101 || letter = 69 || letter = 110 then
            let escapes := (b :: letters).foldl
              (fun escapes letter =>
                if letter = 101 then true else if letter = 69 then false else escapes)
              escapes
            echoOptions escapes (endsLine && !(b :: letters).contains 110) words
          else
            (escapes, endsLine, word :: words)
      | _ => (escapes, endsLine, word :: words)

end Utility

end Reparse
