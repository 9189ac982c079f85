import Reparse.Text.Blank

namespace Reparse

namespace Pattern

structure Flags where
  ignoresCase : Bool := false
  byLine : Bool := false
  pointMatchesAll : Bool := false
  returnEndsLine : Bool := false
  allScripts : Bool := true
  spaced : Bool := false
  /-- Repetitions take as little as they can, and as much with the mark that else asks for little.
  -/
  swapsGreed : Bool := false

namespace Flags

def set? (flags : Flags) (letter : Char) (on : Bool) : Option Flags :=
  match letter with
  | 'i' => some { flags with ignoresCase := on }
  | 'm' => some { flags with byLine := on }
  | 's' => some { flags with pointMatchesAll := on }
  | 'R' => some { flags with returnEndsLine := on }
  | 'u' => some { flags with allScripts := on }
  | 'x' => some { flags with spaced := on }
  | 'U' => some { flags with swapsGreed := on }
  | _ => none

/-- Switches up to the colon or parenthesis after them; the ones after a hyphen are turned off.
`seen` holds the letters and the hyphen read before, the last one first. -/
def read (flags : Flags) (seen : List Char) : List Char → Option (Flags × List Char × List Char)
  | [] => none
  | c :: rest =>
      if c = ':' ∨ c = ')' then
        if seen.head? = some '-' then none else some (flags, seen, c :: rest)
      else if seen.contains c then
        none
      else if c = '-' then
        read flags (c :: seen) rest
      else
        match flags.set? c (!seen.contains '-') with
        | none => none
        | some flags => read flags (c :: seen) rest

def skipBlank (inComment : Bool) : List Char → List Char
  | [] => []
  | c :: rest =>
      if inComment then
        skipBlank (c != '\n') rest
      else if isBlank c then
        skipBlank false rest
      else if c = '#' then
        skipBlank true rest
      else
        c :: rest

def skip (flags : Flags) (text : List Char) : List Char :=
  if flags.spaced then skipBlank false text else text

end Flags

/-- A number in braces.  Blank characters around it are always passed over. -/
def readNumber (flags : Flags) : (fuel : Nat) → (digits : Option Nat) → List Char →
    Option (Nat × List Char)
  | 0, _, _ => none
  | fuel + 1, digits, text =>
      match text with
      | [] => digits.map (·, [])
      | c :: rest =>
          if c.isDigit then
            readNumber flags fuel (some (digits.getD 0 * 10 + (c.toNat - '0'.toNat)))
              (flags.skip rest)
          else if isBlank c && digits.isNone then
            readNumber flags fuel none rest
          else
            digits.map (·, text.dropWhile isBlank)

def readBraced (flags : Flags) : (fuel : Nat) → List Char → Option (List Char × List Char)
  | 0, _ => none
  | _, [] => none
  | fuel + 1, c :: rest =>
      if c = '\x7d' then
        some ([], rest)
      else
        (readBraced flags fuel (flags.skip rest)).map fun (inner, after) => (c :: inner, after)

end Pattern

end Reparse
