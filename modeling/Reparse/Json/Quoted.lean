namespace Reparse

namespace Quoted

def hexValue? (c : Char) : Option Nat :=
  if '0' ≤ c ∧ c ≤ '9' then some (c.toNat - '0'.toNat)
  else if 'a' ≤ c ∧ c ≤ 'f' then some (c.toNat - 'a'.toNat + 10)
  else if 'A' ≤ c ∧ c ≤ 'F' then some (c.toNat - 'A'.toNat + 10)
  else none

def escape (c : Char) : List Char :=
  if c = '"' then ['\\', '"']
  else if c = '\\' then ['\\', '\\']
  else if c = '\n' then ['\\', 'n']
  else if c = '\r' then ['\\', 'r']
  else if c = '\t' then ['\\', 't']
  else if c = '\x08' then ['\\', 'b']
  else if c = '\x0c' then ['\\', 'f']
  else if c.toNat < 0x20 then
    ['\\', 'u', '0', '0', Nat.digitChar (c.toNat / 16), Nat.digitChar (c.toNat % 16)]
  else [c]

def encode (text : List Char) : List Char :=
  '"' :: text.flatMap escape ++ ['"']

def unit? : List Char → Option (Nat × List Char)
  | a :: b :: c :: d :: rest => do
      let a ← hexValue? a
      let b ← hexValue? b
      let c ← hexValue? c
      let d ← hexValue? d
      return (((a * 16 + b) * 16 + c) * 16 + d, rest)
  | _ => none

def unescape? : List Char → Option (Char × List Char)
  | '"' :: rest => some ('"', rest)
  | '\\' :: rest => some ('\\', rest)
  | '/' :: rest => some ('/', rest)
  | 'b' :: rest => some ('\x08', rest)
  | 'f' :: rest => some ('\x0c', rest)
  | 'n' :: rest => some ('\n', rest)
  | 'r' :: rest => some ('\r', rest)
  | 't' :: rest => some ('\t', rest)
  | 'u' :: rest =>
      match unit? rest with
      | none => none
      | some (high, rest) =>
          if high < 0xD800 ∨ 0xDFFF < high then
            some (Char.ofNat high, rest)
          else if high < 0xDC00 then
            match rest with
            | '\\' :: 'u' :: rest =>
                match unit? rest with
                | none => none
                | some (low, rest) =>
                    if 0xDC00 ≤ low ∧ low ≤ 0xDFFF then
                      some (Char.ofNat (0x10000 + (high - 0xD800) * 0x400 + (low - 0xDC00)), rest)
                    else
                      none
            | _ => none
          else
            none
  | _ => none

/-- The text up to the closing quote, and what follows it.  Each step takes at least one character,
so the number of characters is fuel enough. -/
def decodeWithin : (fuel : Nat) → List Char → Option (List Char × List Char)
  | 0, _ => none
  | _ + 1, [] => none
  | fuel + 1, c :: rest =>
      if c = '"' then
        some ([], rest)
      else if c = '\\' then
        match unescape? rest with
        | none => none
        | some (unescaped, rest) =>
            (decodeWithin fuel rest).map fun (text, rest) => (unescaped :: text, rest)
      else if c.toNat < 0x20 then
        none
      else
        (decodeWithin fuel rest).map fun (text, rest) => (c :: text, rest)

def decode? (text : List Char) : Option (List Char × List Char) :=
  decodeWithin text.length text

end Quoted

end Reparse
