import Reparse.Pattern.Edge
import Reparse.Pattern.Flags
import Reparse.Text.Folding

namespace Reparse

namespace Pattern

inductive Atom where
  | literal (c : Char) (asByte : Bool)
  | oneOf (set : CharacterSet)
  | edge (condition : Edge)

namespace Atom

def wordEdge (flags : Flags) (rule : WordRule) : Atom :=
  .edge (.word rule flags.allScripts)

def lineStart (flags : Flags) : Atom :=
  .edge (if flags.byLine then .lineStart flags.returnEndsLine else .textStart)

def lineEnd (flags : Flags) : Atom :=
  .edge (if flags.byLine then .lineEnd flags.returnEndsLine else .textEnd)

/-- A point.  It stands for whole characters only, so there is none for ASCII. -/
def point? (flags : Flags) : Option Atom :=
  if !flags.allScripts then
    none
  else if flags.pointMatchesAll then
    some (.oneOf .all)
  else if flags.returnEndsLine then
    some (.oneOf ((CharacterSet.single '\n').union (CharacterSet.single '\r')).complement)
  else
    some (.oneOf (CharacterSet.single '\n').complement)

/-- A class named by a letter, whose uppercase form names the complement.  The complement of a
class of ASCII characters is none. -/
def letterClass? (flags : Flags) (letter : Char) : Option Atom :=
  let negated := letter.isUpper
  if flags.allScripts then
    match letter.toLower with
    | 'd' => some (.oneOf ((Category.characters [.Nd]).complementIf negated))
    | 's' => some (.oneOf (CharacterProperty.whiteSpace.complementIf negated))
    | _ => some (.oneOf (CharacterProperty.wordCharacters.complementIf negated))
  else if negated then
    none
  else
    match letter with
    | 'd' => some (.oneOf ClassName.digits)
    | 's' => some (.oneOf ClassName.asciiSpace)
    | _ => some (.oneOf ClassName.asciiWord)

end Atom

def hexadecimal? (digits : List Char) : Option Nat :=
  let value? : Char → Option Nat := fun c =>
    if c.isDigit then some (c.toNat - '0'.toNat)
    else if 'a' ≤ c ∧ c ≤ 'f' then some (c.toNat - 'a'.toNat + 10)
    else if 'A' ≤ c ∧ c ≤ 'F' then some (c.toNat - 'A'.toNat + 10)
    else none
  if digits.isEmpty then
    none
  else
    digits.foldlM (fun total c => (value? c).map (total * 16 + ·)) 0

def character? (code : Nat) : Option Char :=
  if (Char.ofNat code).toNat = code then some (Char.ofNat code) else none

def readCount (flags : Flags) : Nat → List Char → Option (List Char × List Char)
  | 0, text => some ([], text)
  | _ + 1, [] => none
  | count + 1, c :: rest =>
      (readCount flags count (flags.skip rest)).map fun (found, after) => (c :: found, after)

def readCode (flags : Flags) (digits : Nat) (text : List Char) : Option (Atom × List Char) :=
  match flags.skip text with
  | '\x7b' :: rest => do
      let (inner, rest) ← readBraced flags rest.length (flags.skip rest)
      let c ← character? (← hexadecimal? inner)
      return (.literal c false, rest)
  | text => do
      let (inner, rest) ← readCount flags digits text
      let c ← character? (← hexadecimal? inner)
      return (.literal c (digits = 2), rest)

def cutAt? (mark : List Char) : List Char → Option (List Char × List Char)
  | [] => none
  | c :: rest =>
      if mark.isPrefixOf (c :: rest) then
        some ([], (c :: rest).drop mark.length)
      else
        (cutAt? mark rest).map fun (before, after) => (c :: before, after)

def property? (inner : List Char) : Option (CharacterSet × Bool) :=
  let valued := fun (parts : List Char × List Char) (negated : Bool) =>
    (ClassName.valued? (String.ofList parts.1) (String.ofList parts.2)).map (·, negated)
  match cutAt? ['!', '='] inner with
  | some parts => valued parts true
  | none =>
      match (cutAt? [':'] inner).or (cutAt? ['='] inner) with
      | some parts => valued parts false
      | none => (ClassName.named? (String.ofList inner)).map (·, false)

def readProperty (flags : Flags) (negated : Bool) (text : List Char) :
    Option (Atom × List Char) := do
  let (inner, rest) ←
    match flags.skip text with
    | [] => none
    | '\x7b' :: rest => readBraced flags rest.length (flags.skip rest)
    | '\\' :: _ => none
    | c :: rest => some ([c], rest)
  let (set, inverted) ← property? inner
  let set := if flags.ignoresCase then Folding.close set else set
  if flags.allScripts then
    return (.oneOf (set.complementIf (negated != inverted)), rest)
  else
    none

/-- An edge of words after its `b`.  A brace before a letter or a hyphen names a kind of edge; any
other brace is left alone. -/
def readEdge (flags : Flags) (text : List Char) : Option (Atom × List Char) :=
  let isPart := fun (c : Char) => c.isAlpha || c == '-'
  match text with
  | '\x7b' :: rest =>
      match flags.skip rest with
      | [] => none
      | c :: inner =>
          if isPart c then do
            let (name, rest) ← readBraced flags (c :: inner).length (c :: inner)
            let rule ← WordRule.ofName? (String.ofList name)
            return (Atom.wordEdge flags rule, rest)
          else
            some (Atom.wordEdge flags .edge, text)
  | _ => some (Atom.wordEdge flags .edge, text)

/-- What follows a backslash.  All ASCII characters but letters, digits and angle brackets stand for
themselves after it. -/
def readEscape (flags : Flags) : List Char → Option (Atom × List Char)
  | [] => none
  | c :: rest =>
      let plain := fun (c : Char) => some (Atom.literal c false, rest)
      match c with
      | 'x' => readCode flags 2 rest
      | 'u' => readCode flags 4 rest
      | 'U' => readCode flags 8 rest
      | 'p' => readProperty flags false rest
      | 'P' => readProperty flags true rest
      | 'd' | 's' | 'w' | 'D' | 'S' | 'W' => (Atom.letterClass? flags c).map (·, rest)
      | 'a' => plain '\x07'
      | 'f' => plain '\x0C'
      | 't' => plain '\t'
      | 'n' => plain '\n'
      | 'r' => plain '\r'
      | 'v' => plain '\x0B'
      | 'A' => some (.edge .textStart, rest)
      | 'z' => some (.edge .textEnd, rest)
      | 'b' => readEdge flags rest
      | 'B' => some (Atom.wordEdge flags .noEdge, rest)
      | '<' => some (Atom.wordEdge flags .start, rest)
      | '>' => some (Atom.wordEdge flags .stop, rest)
      | _ => if c.isAlphanum || 0x80 ≤ c.toNat then none else plain c

end Pattern

end Reparse
