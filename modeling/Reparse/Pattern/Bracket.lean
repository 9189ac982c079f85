import Reparse.Pattern.Escape

/-!
Classes of characters in brackets.

A class is a union of characters, ranges and other classes; two ampersands, hyphens or tildes
between two unions stand for what both have, what only the first has, and what only one of them has.
-/

namespace Reparse

namespace Pattern

namespace Bracket

structure Members where
  set : CharacterSet
  depth : Nat

inductive Operation where
  | both
  | firstOnly
  | oneOnly

structure Union where
  set : CharacterSet := .empty
  depth : Nat := 0
  count : Nat := 0

namespace Union

def add (union : Union) (members : Members) : Union where
  set := union.set.union members.set
  depth := max union.depth members.depth
  count := union.count + 1

def addChar (union : Union) (c : Char) : Union :=
  union.add ⟨.single c, 0⟩

def members (union : Union) : Members where
  set := union.set
  depth := if 2 ≤ union.count then union.depth + 1 else union.depth

end Union

structure Level where
  negated : Bool
  waiting : Option (Operation × Members) := none
  union : Union := {}

structure Reading where
  level : Level
  outer : List Level

def foldIfAsked (flags : Flags) (set : CharacterSet) : CharacterSet :=
  if !flags.ignoresCase then
    set
  else if flags.allScripts then
    Folding.close set
  else
    Folding.closeAscii set

def Operation.apply (operation : Operation) (left right : CharacterSet) : CharacterSet :=
  match operation with
  | .both => left.intersection right
  | .firstOnly => left.difference right
  | .oneOnly => left.exclusiveOr right

def Level.members (flags : Flags) (level : Level) : Members :=
  let right := level.union.members
  match level.waiting with
  | none => right
  | some (operation, left) =>
      { set := operation.apply (foldIfAsked flags left.set) (foldIfAsked flags right.set)
        depth := max left.depth right.depth + 1 }

/-- The set of a class that is complete.  Where only ASCII counts a complement is refused, since it
would hold all other characters too. -/
def Level.close? (flags : Flags) (level : Level) : Option Members :=
  let inner := level.members flags
  if level.negated && !flags.allScripts then
    none
  else
    some
      { set := (foldIfAsked flags inner.set).complementIf level.negated
        depth := inner.depth + 1 }

def readHyphens (flags : Flags) (union : Union) : (fuel : Nat) → List Char → Union × List Char
  | 0, text => (union, text)
  | fuel + 1, text =>
      match text with
      | '-' :: rest => readHyphens flags (union.addChar '-') fuel (flags.skip rest)
      | _ => (union, text)

/-- The front of a class after its bracket: a caret asks for the complement, and hyphens, or else a
closing bracket, stand for themselves. -/
def openLevel (flags : Flags) (text : List Char) : Level × List Char :=
  let (negated, text) :=
    match flags.skip text with
    | '^' :: rest => (true, flags.skip rest)
    | text => (false, text)
  let (union, text) := readHyphens flags {} text.length text
  if union.count = 0 then
    match text with
    | ']' :: rest => (⟨negated, none, union.addChar ']'⟩, flags.skip rest)
    | _ => (⟨negated, none, union⟩, text)
  else
    (⟨negated, none, union⟩, text)

def readNamed? (text : List Char) : Option (CharacterSet × Bool × List Char) :=
  match text with
  | ':' :: text =>
      let (negated, text) :=
        match text with
        | '^' :: rest => (true, rest)
        | text => (false, text)
      let name := text.takeWhile (· != ':')
      match text.dropWhile (· != ':') with
      | ':' :: ']' :: rest =>
          (ClassName.posix? (String.ofList name)).map fun set => (set, negated, rest)
      | _ => none
  | _ => none

def readItem (flags : Flags) : List Char → Option (Atom × List Char)
  | [] => none
  | '\\' :: rest => readEscape flags rest
  | c :: rest => some (.literal c false, rest)

def literal? (flags : Flags) : Atom → Option Char
  | .literal c _ => if flags.allScripts || c.toNat < 0x80 then some c else none
  | _ => none

def itemMembers? (flags : Flags) : Atom → Option Members
  | .edge _ => none
  | .oneOf set => some ⟨set, 0⟩
  | .literal c asByte => (literal? flags (.literal c asByte)).map fun c => ⟨.single c, 0⟩

def peek (flags : Flags) (rest : List Char) : Option Char :=
  if flags.spaced then
    match rest.dropWhile isBlank with
    | '#' :: rest => (rest.dropWhile isBlank).head?
    | rest => rest.head?
  else
    rest.head?

/-- An item or a range.  A hyphen before a bracket or another hyphen makes no range. -/
def readRange (flags : Flags) (text : List Char) : Option (Members × List Char) := do
  let (first, rest) ← readItem flags text
  match flags.skip rest with
  | [] => none
  | '-' :: rest =>
      if peek flags rest = some ']' || peek flags rest = some '-' then
        return (← itemMembers? flags first, '-' :: rest)
      else
        let (last, rest) ← readItem flags (flags.skip rest)
        let low ← literal? flags first
        let high ← literal? flags last
        if high < low then
          none
        else
          return (⟨CharacterSet.range low.toNat high.toNat, 0⟩, rest)
  | rest => return (← itemMembers? flags first, rest)

def Level.operate (flags : Flags) (level : Level) (operation : Operation) : Level :=
  { level with waiting := some (operation, level.members flags), union := {} }

def operation? : List Char → Option (Operation × List Char)
  | '&' :: '&' :: rest => some (.both, rest)
  | '-' :: '-' :: rest => some (.firstOnly, rest)
  | '~' :: '~' :: rest => some (.oneOnly, rest)
  | _ => none

def readRest (flags : Flags) : (fuel : Nat) → Reading → List Char → Option (Members × List Char)
  | 0, _, _ => none
  | fuel + 1, reading, text =>
      let level := reading.level
      let add := fun (members : Members) => { level with union := level.union.add members }
      match flags.skip text with
      | [] => none
      | '[' :: rest =>
          match readNamed? rest with
          | some (set, negated, rest) =>
              if negated && !flags.allScripts then
                none
              else
                let set := (foldIfAsked flags set).complementIf negated
                readRest flags fuel { reading with level := add ⟨set, 0⟩ } rest
          | none =>
              let (inner, rest) := openLevel flags rest
              readRest flags fuel ⟨inner, level :: reading.outer⟩ rest
      | ']' :: rest => do
          let members ← level.close? flags
          match reading.outer with
          | [] => return (members, rest)
          | parent :: outer =>
              readRest flags fuel
                ⟨{ parent with union := parent.union.add members }, outer⟩ rest
      | text =>
          match operation? text with
          | some (operation, rest) =>
              readRest flags fuel { reading with level := level.operate flags operation } rest
          | none => do
              let (members, rest) ← readRange flags text
              readRest flags fuel { reading with level := add members } rest

def read (flags : Flags) (text : List Char) : Option (Members × List Char) :=
  let (level, rest) := openLevel flags text
  readRest flags (rest.length + 1) ⟨level, []⟩ rest

end Bracket

end Pattern

end Reparse
