import Reparse.Pattern.Bracket
import Reparse.Pattern.Footprint

namespace Reparse

namespace Pattern

/-- A part of a pattern that has been read, and how deep it is nested. -/
structure Piece where
  form : Form
  depth : Nat := 0

namespace Piece

def deepest : Nat := 250

def ofLiteral? (flags : Flags) (c : Char) (asByte : Bool) : Option Piece :=
  if flags.allScripts || c.toNat < 0x80 then
    some { form := .ofSet (Bracket.foldIfAsked flags (.single c)) }
  else if asByte then
    none
  else
    some { form := .literal [c] }

def ofAtom? (flags : Flags) : Atom → Option Piece
  | .literal c asByte => ofLiteral? flags c asByte
  | .oneOf set => some { form := .ofSet set }
  | .edge condition => some { form := .edge condition }

def deepestOf (pieces : List Piece) : Nat :=
  pieces.foldl (fun depth piece => max depth piece.depth) 0

def sequence (count : Nat) (pieces : List Piece) : Piece where
  form := .inSequence (pieces.map (·.form))
  depth := if count ≤ 1 then deepestOf pieces else deepestOf pieces + 1

def oneOf : List Piece → Piece
  | [piece] => piece
  | pieces =>
      { form := .anyOf (pieces.map (·.form))
        depth := deepestOf pieces + 1 }

def group (piece : Piece) (index : Option Nat) : Piece where
  form :=
    match index with
    | some index => .group index piece.form
    | none => piece.form
  depth := piece.depth + 1

def repeated (piece : Piece) (least : Nat) (most : Option Nat) (greedy : Bool) : Piece where
  form := .times least most greedy piece.form
  depth := piece.depth + 1

end Piece

abbrev Branch :=
  List (Option Piece)

def Branch.piece (branch : Branch) : Piece :=
  .sequence branch.length (branch.reverse.filterMap id)

/-- A group that is open: what stands before it, and its number if it has one. -/
structure OpenGroup where
  branch : Branch
  branches : List Piece
  flags : Flags
  index : Option Nat

/-- What has been read of a pattern: the branch at hand, the branches before it in the same group,
the last one first, the flags, the names of groups, how many groups have a number, and the groups
that are open. -/
structure RegexReading where
  branch : Branch := []
  branches : List Piece := []
  flags : Flags := {}
  numbered : Nat := 0
  names : List (List Char) := []
  groups : List OpenGroup := []

namespace RegexReading

def push (reading : RegexReading) (piece : Piece) : RegexReading :=
  { reading with branch := some piece :: reading.branch }

def nextBranch (reading : RegexReading) : RegexReading :=
  { reading with branch := [], branches := reading.branch.piece :: reading.branches }

def body (reading : RegexReading) : Piece :=
  .oneOf (reading.branch.piece :: reading.branches).reverse

def openGroup (reading : RegexReading) (flags : Flags) (remembers : Bool) : RegexReading :=
  let numbered := if remembers then reading.numbered + 1 else reading.numbered
  let index := if remembers then some numbered else none
  { reading with
    branch := []
    branches := []
    flags := flags
    numbered := numbered
    groups := ⟨reading.branch, reading.branches, reading.flags, index⟩ :: reading.groups }

def closeGroup? (reading : RegexReading) : Option RegexReading :=
  match reading.groups with
  | [] => none
  | group :: groups =>
      some
        { reading with
          branch := some (reading.body.group group.index) :: group.branch
          branches := group.branches
          flags := group.flags
          groups := groups }

/-- Repeat what was read last.  There must be something, and flags are nothing. -/
def repeatLast? (reading : RegexReading) (least : Nat) (most : Option Nat) (isLazy : Bool) :
    Option RegexReading :=
  match reading.branch with
  | some piece :: branch =>
      let greedy := isLazy == reading.flags.swapsGreed
      some { reading with branch := some (piece.repeated least most greedy) :: branch }
  | _ => none

end RegexReading

def isNameCharacter (isFirst : Bool) (c : Char) : Bool :=
  c == '_' || CharacterProperty.alphabetic.contains c ||
    (!isFirst &&
      ((Category.group ['N']).contains c || c == '.' || c == '[' || c == ']'))

def readName (text : List Char) : Option (List Char × List Char) :=
  match text.takeWhile (· != '>'), text.dropWhile (· != '>') with
  | first :: others, _ :: rest =>
      if isNameCharacter true first && others.all (isNameCharacter false) then
        some (first :: others, rest)
      else
        none
  | _, _ => none

namespace RegexReading

def openNamed? (reading : RegexReading) (text : List Char) :
    Option (RegexReading × List Char) :=
  match readName text with
  | none => none
  | some (name, rest) =>
      if reading.names.contains name then
        none
      else
        let reading := { reading with names := name :: reading.names }
        some (reading.openGroup reading.flags true, rest)

/-- Begin what an opening parenthesis begins: a group, or a change of flags for the rest of the
group at hand.  Conditions on what stands around a place are not known. -/
def openParenthesis? (reading : RegexReading) (text : List Char) :
    Option (RegexReading × List Char) :=
  match reading.flags.skip text with
  | '?' :: '=' :: _ => none
  | '?' :: '!' :: _ => none
  | '?' :: '<' :: '=' :: _ => none
  | '?' :: '<' :: '!' :: _ => none
  | '?' :: 'P' :: '<' :: rest => reading.openNamed? rest
  | '?' :: '<' :: rest => reading.openNamed? rest
  | '?' :: rest =>
      match reading.flags.read [] rest with
      | some (flags, _, ':' :: rest) => some (reading.openGroup flags false, rest)
      | some (flags, seen, _ :: rest) =>
          if seen.isEmpty then
            none
          else
            some ({ reading with flags := flags, branch := none :: reading.branch }, rest)
      | _ => none
  | rest => some (reading.openGroup reading.flags true, rest)

end RegexReading

def readLazyMark : List Char → Bool × List Char
  | '?' :: rest => (true, rest)
  | text => (false, text)

def largestCount : Nat := 0xffffffff

def readCounts (flags : Flags) (text : List Char) :
    Option (Nat × Option Nat × Bool × List Char) := do
  let text := flags.skip text
  let (least, text) ← readNumber flags (text.length + 1) none text
  let (most, text) ←
    match text with
    | ',' :: rest =>
        match flags.skip rest with
        | '\x7d' :: _ => some (none, flags.skip rest)
        | text =>
            (readNumber flags (text.length + 1) none text).map fun (most, rest) => (some most, rest)
    | text => some (some least, text)
  match text with
  | '\x7d' :: rest =>
      if largestCount < least || largestCount < most.getD 0 || most.getD least < least then
        none
      else
        some (least, most, readLazyMark (flags.skip rest))
  | _ => none

def readPiece (flags : Flags) : List Char → Option (Piece × List Char)
  | [] => none
  | '[' :: rest =>
      (Bracket.read flags rest).map fun (members, rest) =>
        (⟨.ofSet members.set, members.depth⟩, rest)
  | '\\' :: rest => do
      let (atom, rest) ← readEscape flags rest
      return (← Piece.ofAtom? flags atom, rest)
  | '.' :: rest => do
      return (← Piece.ofAtom? flags (← Atom.point? flags), rest)
  | '^' :: rest => (Piece.ofAtom? flags (Atom.lineStart flags)).map (·, rest)
  | '$' :: rest => (Piece.ofAtom? flags (Atom.lineEnd flags)).map (·, rest)
  | c :: rest => (Piece.ofLiteral? flags c false).map (·, rest)

def readRepetition (reading : RegexReading) (least : Nat) (most : Option Nat) (text : List Char) :
    Option (RegexReading × List Char) :=
  let (isLazy, rest) := readLazyMark text
  (reading.repeatLast? least most isLazy).map (·, rest)

def readStep (reading : RegexReading) : List Char → Option (RegexReading × List Char)
  | '(' :: rest => reading.openParenthesis? rest
  | ')' :: rest => reading.closeGroup?.map (·, rest)
  | '|' :: rest => some (reading.nextBranch, rest)
  | '?' :: rest => readRepetition reading 0 (some 1) rest
  | '*' :: rest => readRepetition reading 0 none rest
  | '+' :: rest => readRepetition reading 1 none rest
  | '\x7b' :: rest => do
      let (least, most, isLazy, rest) ← readCounts reading.flags rest
      return (← reading.repeatLast? least most isLazy, rest)
  | text => (readPiece reading.flags text).map fun (piece, rest) => (reading.push piece, rest)

def readRegex : (fuel : Nat) → RegexReading → List Char → Option Piece
  | 0, _, _ => none
  | fuel + 1, reading, text =>
      match reading.flags.skip text with
      | [] => if reading.groups.isEmpty then some reading.body else none
      | text =>
          match readStep reading text with
          | none => none
          | some (reading, rest) => readRegex fuel reading rest

def parse? (pattern : String) : Option (Automaton Char) := do
  let piece ← readRegex (pattern.toList.length + 1) {} pattern.toList
  if Piece.deepest < piece.depth || !piece.form.fits then
    none
  else
    some piece.form.expression.automaton

def isFoundIn (pattern : Automaton Char) (text : String) : Bool :=
  pattern.matchesWithin text.toList

end Pattern

end Reparse
