namespace Reparse

/-- A set of characters: the first and the last code point of each of its runs, in order.  Code
points that are no characters may lie within a run. -/
structure CharacterSet where
  runs : List (Nat × Nat)
deriving DecidableEq, Inhabited

namespace CharacterSet

def empty : CharacterSet :=
  ⟨[]⟩

def range (first last : Nat) : CharacterSet :=
  if first ≤ last then ⟨[(first, last)]⟩ else empty

def single (c : Char) : CharacterSet :=
  range c.toNat c.toNat

def all : CharacterSet :=
  range 0 0x10FFFF

def ascii : CharacterSet :=
  range 0 0x7F

def joinFrom (first last : Nat) : List (Nat × Nat) → List (Nat × Nat)
  | [] => [(first, last)]
  | (nextFirst, nextLast) :: rest =>
      if nextFirst ≤ last + 1 then
        joinFrom first (max last nextLast) rest
      else
        (first, last) :: joinFrom nextFirst nextLast rest

def joinTouching : List (Nat × Nat) → List (Nat × Nat)
  | [] => []
  | (first, last) :: rest => joinFrom first last rest

def ofRuns (runs : List (Nat × Nat)) : CharacterSet :=
  ⟨joinTouching (runs.mergeSort fun left right => decide (left.1 ≤ right.1))⟩

def ofCodes (codes : List Nat) : CharacterSet :=
  ofRuns (codes.map fun code => (code, code))

def union (left right : CharacterSet) : CharacterSet :=
  ⟨joinTouching (left.runs.merge right.runs fun left right => decide (left.1 ≤ right.1))⟩

def gapsFrom (first : Nat) : List (Nat × Nat) → List (Nat × Nat)
  | [] => if first ≤ 0x10FFFF then [(first, 0x10FFFF)] else []
  | (runFirst, runLast) :: rest =>
      if first < runFirst then
        (first, runFirst - 1) :: gapsFrom (runLast + 1) rest
      else
        gapsFrom (runLast + 1) rest

def trimmed? (run : Nat × Nat) : Option (Nat × Nat) :=
  let isNoCharacter := fun code => decide (0xD800 ≤ code) && decide (code ≤ 0xDFFF)
  let first := if isNoCharacter run.1 then 0xE000 else run.1
  let last := if isNoCharacter run.2 then 0xD7FF else run.2
  if first ≤ last then some (first, last) else none

def complement (set : CharacterSet) : CharacterSet :=
  ⟨(gapsFrom 0 set.runs).filterMap trimmed?⟩

def intersection (left right : CharacterSet) : CharacterSet :=
  (left.complement.union right.complement).complement

def difference (left right : CharacterSet) : CharacterSet :=
  (left.complement.union right).complement

def exclusiveOr (left right : CharacterSet) : CharacterSet :=
  (left.difference right).union (right.difference left)

def complementIf (negated : Bool) (set : CharacterSet) : CharacterSet :=
  if negated then set.complement else set

/-- Runs from a table that tells in turn how many code points are left out and how many are taken.
-/
def runsFrom (start : Nat) : List Nat → List (Nat × Nat)
  | leftOut :: taken :: rest =>
      (start + leftOut, start + leftOut + taken - 1) :: runsFrom (start + leftOut + taken) rest
  | _ => []

def numbersIn (number : Option Nat) : List Char → List Nat
  | [] => number.toList
  | c :: rest =>
      if c.isDigit then
        numbersIn (some (number.getD 0 * 10 + (c.toNat - '0'.toNat))) rest
      else
        match number with
        | none => numbersIn none rest
        | some number => number :: numbersIn none rest

def ofTable (table : String) : CharacterSet :=
  ⟨runsFrom 0 (numbersIn none table.toList)⟩

def isEmpty (set : CharacterSet) : Bool :=
  set.runs.isEmpty

def isAscii (set : CharacterSet) : Bool :=
  set.runs.all fun run => decide (run.2 ≤ 0x7F)

def only? (set : CharacterSet) : Option Char :=
  match set.runs with
  | [(first, last)] => if first = last then some (Char.ofNat first) else none
  | _ => none

/-- Whether a code point lies in one of the runs from place `low` on and before place `high`.  Half
of them are ruled out at each step. -/
def isWithin (runs : Array (Nat × Nat)) (code : Nat) : (fuel low high : Nat) → Bool
  | 0, _, _ => false
  | fuel + 1, low, high =>
      if low < high then
        let middle := (low + high) / 2
        match runs[middle]? with
        | none => false
        | some (first, last) =>
            if code < first then isWithin runs code fuel low middle
            else if last < code then isWithin runs code fuel (middle + 1) high
            else true
      else
        false

def test (set : CharacterSet) : Char → Bool :=
  let runs := set.runs.toArray
  fun c => isWithin runs c.toNat runs.size 0 runs.size

def contains (set : CharacterSet) (c : Char) : Bool :=
  set.runs.any fun run => decide (run.1 ≤ c.toNat) && decide (c.toNat ≤ run.2)

end CharacterSet

end Reparse
