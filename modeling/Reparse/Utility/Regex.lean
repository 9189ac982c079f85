import Reparse.Utility.Columns

/-!
Regular expressions over bytes, as programs that edit text know them.

The leftmost match wins, and of those the longest.  Matching works through a list of goals; what it
spends on one search is bounded.
-/

namespace Reparse

namespace Utility

abbrev ByteSet :=
  Array Bool

namespace ByteSet

def ofTest (test : UInt8 → Bool) : ByteSet :=
  ((List.range 256).map fun code => test code.toUInt8).toArray

def holds (set : ByteSet) (b : UInt8) : Bool :=
  set[b.toNat]?.getD false

def ofBytes (bytes : Bytes) : ByteSet :=
  bytes.foldl (fun set b => set.setIfInBounds b.toNat true) (Array.replicate 256 false)

def complement (set : ByteSet) : ByteSet :=
  set.map (!·)

def foldCase (set : ByteSet) : ByteSet :=
  ofTest fun b =>
    set.holds b || (97 ≤ b && b ≤ 122 && set.holds (b - 32)) ||
      (65 ≤ b && b ≤ 90 && set.holds (b + 32))

end ByteSet

def isWordByte (b : UInt8) : Bool :=
  b == 95 || (48 ≤ b && b ≤ 57) || (65 ≤ b && b ≤ 90) || (97 ≤ b && b ≤ 122)

inductive Spot where
  | lineStart
  | lineEnd
  | wordStart
  | wordEnd
  | wordEdge
  | noWordEdge
  | textStart
  | textEnd
deriving DecidableEq

inductive Regex where
  | empty
  | one (set : ByteSet)
  | spot (spot : Spot)
  | both (first second : Regex)
  | either (first second : Regex)
  | repeated (least : Nat) (most : Option Nat) (inner : Regex)
  | group (index : Nat) (inner : Regex)
  /-- What a group has matched, once more. -/
  | reference (index : Nat)

namespace Regex

instance : Inhabited Regex := ⟨.empty⟩

/-! Reading -/

structure Style where
  isExtended : Bool
  foldsCase : Bool := false
  hasEscapes : Bool := false
  isPlain : Bool := false

structure Source where
  text : Bytes
  groups : Nat := 0
  closed : List Nat := []

abbrev Reader :=
  StateT Source (Except String)

def fail {α : Type} (reason : String) : Reader α :=
  throw reason

def ofSet (style : Style) (set : ByteSet) : Regex :=
  .one (if style.foldsCase then set.foldCase else set)

def literal (style : Style) (b : UInt8) : Regex :=
  ofSet style (.ofBytes [b])

def readMember (text : Bytes) : Option (UInt8 × Bytes) :=
  match text with
  | 91 :: 46 :: b :: 46 :: 93 :: rest => some (b, rest)
  | 91 :: 61 :: b :: 61 :: 93 :: rest => some (b, rest)
  | b :: rest => some (b, rest)
  | [] => none

def readBracket (style : Style) : (fuel : Nat) → (isFirst : Bool) → (found : Bytes) → Bytes →
    Except String (Bytes × Bytes)
  | 0, _, _, _ => .error "Regular expression too big"
  | fuel + 1, isFirst, found, text =>
      let unmatched := "Unmatched [, [^, [:, [., or [="
      match text with
      | [] => .error unmatched
      | 91 :: 58 :: rest =>
          let name := rest.takeWhile (· != 58)
          match rest.drop name.length with
          | 58 :: 93 :: after =>
              match classBytes? (Utf8.decodeLenient name) with
              | some bytes => readBracket style fuel false (found ++ bytes) after
              | none => .error "Invalid character class name"
          | _ => .error unmatched
      | b :: rest =>
          if b = 93 && !isFirst then
            .ok (found, rest)
          else
            let escaped : Option (UInt8 × Bytes) :=
              match style.hasEscapes, b, rest with
              | true, 92, 110 :: after => some (10, after)
              | true, 92, 116 :: after => some (9, after)
              | true, 92, 93 :: after => if style.isExtended then some (93, after) else none
              | true, 92, 92 :: after => if style.isExtended then some (92, after) else none
              | true, 92, 47 :: after => if style.isExtended then some (47, after) else none
              | true, 92, 34 :: after => if style.isExtended then some (34, after) else none
              | _, _, _ => none
            match escaped with
            | some (byte, after) => readBracket style fuel false (byte :: found) after
            | none =>
                match readMember text with
                | none => .error unmatched
                | some (low, 45 :: after) =>
                    if after.head? == some 93 then
                      readBracket style fuel false (45 :: low :: found) after
                    else
                      match readMember after with
                      | none => .error unmatched
                      | some (high, after) =>
                          if high < low then
                            .error "Invalid range end"
                          else
                            let range := (List.range (high.toNat + 1 - low.toNat)).map
                              fun (offset : Nat) => low + offset.toUInt8
                            readBracket style fuel false (range ++ found) after
                | some (low, after) => readBracket style fuel false (low :: found) after

def readBounds (style : Style) (text : Bytes) : Option (Nat × Option Nat × Bytes) :=
  let isDigit := fun (b : UInt8) => 48 ≤ b && b ≤ 57
  let low := text.takeWhile isDigit
  let rest := text.drop low.length
  let close := fun (rest : Bytes) =>
    match style.isExtended, rest with
    | true, 125 :: rest => some rest
    | false, 92 :: 125 :: rest => some rest
    | _, _ => none
  match rest with
  | 44 :: after =>
      let high := after.takeWhile isDigit
      (close (after.drop high.length)).map fun rest =>
        ((decimal? low).getD 0, decimal? high, rest)
  | rest =>
      match decimal? low, close rest with
      | some low, some rest => some (low, some low, rest)
      | _, _ => none

def isRepeatable : Regex → Bool
  | .spot _ => false
  | .empty => false
  | _ => true

def escape? (style : Style) (b : UInt8) : Option Regex :=
  let word := ByteSet.ofTest isWordByte
  let space := ByteSet.ofTest isSpace
  match Char.ofNat b.toNat with
  | 'w' => some (.one word)
  | 'W' => some (.one word.complement)
  | 's' => some (.one space)
  | 'S' => some (.one space.complement)
  | 'b' => some (.spot .wordEdge)
  | 'B' => some (.spot .noWordEdge)
  | '<' => some (.spot .wordStart)
  | '>' => some (.spot .wordEnd)
  | '\x60' => some (.spot .textStart)
  | '\'' => some (.spot .textEnd)
  | 'n' => if style.hasEscapes then some (literal style 10) else none
  | 't' => if style.hasEscapes then some (literal style 9) else none
  | 'f' => if style.hasEscapes then some (literal style 12) else none
  | 'v' => if style.hasEscapes then some (literal style 11) else none
  | 'r' => if style.hasEscapes then some (literal style 13) else none
  | 'a' => if style.hasEscapes then some (literal style 7) else none
  | _ => none

def sign? (style : Style) (text : Bytes) : Option (Char × Bytes) :=
  let isSign := fun (b : UInt8) => [40, 41, 123, 124, 43, 63].contains b
  match text with
  | 92 :: b :: rest =>
      if !style.isExtended && isSign b then some (Char.ofNat b.toNat, rest) else none
  | b :: rest => if style.isExtended && isSign b then some (Char.ofNat b.toNat, rest) else none
  | [] => none

mutual

def readChoice (style : Style) : (fuel : Nat) → (depth : Nat) → Reader Regex
  | 0, _ => fail "Regular expression too big"
  | fuel + 1, depth => do
      let first ← readSequence style fuel depth true .empty
      match sign? style (← get).text with
      | some ('|', rest) => do
          modify fun source => { source with text := rest }
          let second ← readChoice style fuel depth
          return .either first second
      | _ => return first

/-- Expressions one after the other; `isFirst` tells that nothing has been read. -/
def readSequence (style : Style) : (fuel : Nat) → (depth : Nat) → (isFirst : Bool) → Regex →
    Reader Regex
  | 0, _, _, _ => fail "Regular expression too big"
  | fuel + 1, depth, isFirst, found => do
      let source ← get
      let text := source.text
      let goOn := fun (next : Regex) (rest : Bytes) => do
        modify fun source => { source with text := rest }
        let next ← readRepetitions style fuel next
        let both := match found with
          | .empty => next
          | found => .both found next
        readSequence style fuel depth false both
      match sign? style text, text with
      | some ('|', _), _ => return found
      | some (')', rest), _ =>
          if 0 < depth then return found
          else if style.isExtended then goOn (literal style 41) rest
          else fail "Unmatched ) or \\)"
      | some ('(', rest), _ => do
          let index := source.groups + 1
          set { source with text := rest, groups := index }
          let inner ← readChoice style fuel (depth + 1)
          match sign? style (← get).text with
          | some (')', rest) => do
              modify fun source => { source with closed := index :: source.closed }
              goOn (.group index inner) rest
          | _ => fail "Unmatched ( or \\("
      | some ('\x7b', rest), _ =>
          if style.isExtended then
            if isFirst then fail "Invalid preceding regular expression"
            else goOn (literal style 123) rest
          else
            fail "Invalid preceding regular expression"
      | some (c, rest), _ =>
          -- A sign of repetition with nothing before it.
          if style.isExtended then goOn .empty rest else goOn (literal style c.toNat.toUInt8) rest
      | none, [] => return found
      | none, [92] => fail "Trailing backslash"
      | none, 92 :: b :: rest =>
          if 49 ≤ b && b ≤ 57 then
            let index := b.toNat - 48
            if source.closed.contains index then goOn (.reference index) rest
            else fail "Invalid back reference"
          else
            match escape? style b with
            | some expression => goOn expression rest
            | none => goOn (literal style b) rest
      | none, 46 :: rest => goOn (.one (Array.replicate 256 true)) rest
      | none, 91 :: rest =>
          let (negated, inner) := match rest with
            | 94 :: inner => (true, inner)
            | inner => (false, inner)
          match readBracket style (inner.length + 1) true [] inner with
          | .error reason => fail reason
          | .ok (bytes, rest) =>
              let set := ByteSet.ofBytes bytes
              let set := if style.foldsCase then set.foldCase else set
              goOn (.one (if negated then set.complement else set)) rest
      | none, 94 :: rest =>
          if style.isExtended || isFirst then goOn (.spot .lineStart) rest
          else goOn (literal style 94) rest
      | none, 36 :: rest =>
          let isLast := rest.isEmpty || (match sign? style rest with
            | some ('|', _) => true
            | some (')', _) => true
            | _ => false)
          if style.isExtended || isLast then goOn (.spot .lineEnd) rest
          else goOn (literal style 36) rest
      | none, 42 :: rest =>
          let isAfterStart := match found with
            | .spot .lineStart => true
            | _ => false
          if style.isExtended && isFirst then goOn .empty rest
          else if isFirst || isAfterStart then goOn (literal style 42) rest
          else goOn (literal style 42) rest
      | none, b :: rest => goOn (literal style b) rest

def readRepetitions (style : Style) : (fuel : Nat) → Regex → Reader Regex
  | 0, _ => fail "Regular expression too big"
  | fuel + 1, inner => do
      let text := (← get).text
      let goOn := fun (least : Nat) (most : Option Nat) (rest : Bytes) => do
        modify fun source => { source with text := rest }
        readRepetitions style fuel (.repeated least most inner)
      if !inner.isRepeatable && !style.isExtended then
        return inner
      else
        match sign? style text, text with
        | some ('+', rest), _ => goOn 1 none rest
        | some ('?', rest), _ => goOn 0 (some 1) rest
        | some ('\x7b', rest), _ =>
            match readBounds style rest with
            | some (least, most, rest) =>
                if most.any (· < least) then fail "Invalid content of \\\x7b\\\x7d"
                else if 32767 < least || most.any (32767 < ·) then
                  fail "Regular expression too big"
                else goOn least most rest
            | none =>
                if style.isExtended then return inner
                else if rest.contains 125 then fail "Invalid content of \\\x7b\\\x7d"
                else fail "Unmatched \\\x7b"
        | none, 42 :: rest => goOn 0 none rest
        | _, _ => return inner

end

def parse (style : Style) (text : Bytes) : Except String Regex :=
  if style.isPlain then
    .ok (text.foldr (fun b rest => .both (literal style b) rest) .empty)
  else
    match (readChoice style (6 * text.length + 16) 0).run { text := text } with
    | .error reason => .error reason
    | .ok (expression, _) => .ok expression

/-! Matching -/

structure Found where
  start : Nat
  stop : Nat
  groups : List (Nat × Nat × Nat)

structure Subject where
  bytes : Array UInt8
  hasLines : Bool := false
  foldsCase : Bool := false

inductive Goal where
  | part (expression : Regex)
  | closing (index start : Nat)
  | more (least : Nat) (most : Option Nat) (inner : Regex) (origin : Nat)

/-- The best match so far, and what may still be spent. -/
structure Search where
  best : Option (Nat × List (Nat × Nat × Nat)) := none
  budget : Nat

namespace Subject

def isWordAt (subject : Subject) (position : Nat) : Bool :=
  (subject.bytes[position]?).any isWordByte

def isSpot (subject : Subject) (position : Nat) (spot : Spot) : Bool :=
  let before := 0 < position && subject.isWordAt (position - 1)
  let after := subject.isWordAt position
  match spot with
  | .lineStart =>
      position = 0 || (subject.hasLines && subject.bytes[position - 1]? == some 10)
  | .lineEnd =>
      position = subject.bytes.size || (subject.hasLines && subject.bytes[position]? == some 10)
  | .textStart => position = 0
  | .textEnd => position = subject.bytes.size
  | .wordStart => !before && after
  | .wordEnd => before && !after
  | .wordEdge => before != after
  | .noWordEdge => before == after

def runLength (subject : Subject) (set : ByteSet) (position : Nat) : (most : Nat) → (count : Nat) →
    Nat
  | 0, count => count
  | most + 1, count =>
      match subject.bytes[position]? with
      | some b =>
          if set.holds b then subject.runLength set (position + 1) most (count + 1) else count
      | none => count

def isSame (subject : Subject) (left right length : Nat) : Bool :=
  (List.range length).all fun offset =>
    match subject.bytes[left + offset]?, subject.bytes[right + offset]? with
    | some a, some b => a == b || (subject.foldsCase && lowerByte a == lowerByte b)
    | _, _ => false

end Subject

mutual

/-- Match goals from a place on; the result tells that no better match can be found. -/
def pursue (subject : Subject) :
    (fuel : Nat) → List Goal → (position : Nat) → List (Nat × Nat × Nat) → StateM Search Bool
  | 0, _, _, _ => return true
  | _, [], position, groups => do
      let search ← get
      let isBetter := match search.best with
        | some (stop, _) => decide (stop < position)
        | none => true
      if isBetter then
        set { search with best := some (position, groups) }
      return position == subject.bytes.size
  | fuel + 1, goal :: goals, position, groups => do
      let search ← get
      if search.budget = 0 then
        return true
      set { search with budget := search.budget - 1 }
      match goal with
      | .closing index start =>
          pursue subject fuel goals position
            ((index, start, position) :: groups.filter fun entry => entry.1 != index)
      | .more least most inner origin =>
          if origin = position && least = 0 then return false
          else pursue subject fuel (.part (.repeated least most inner) :: goals) position groups
      | .part .empty => pursue subject fuel goals position groups
      | .part (.one expected) =>
          match subject.bytes[position]? with
          | some b =>
              if expected.holds b then pursue subject fuel goals (position + 1) groups
              else return false
          | none => return false
      | .part (.spot kind) =>
          if subject.isSpot position kind then pursue subject fuel goals position groups
          else return false
      | .part (.both first second) =>
          pursue subject fuel (.part first :: .part second :: goals) position groups
      | .part (.either first second) =>
          if ← pursue subject fuel (.part first :: goals) position groups then return true
          else pursue subject fuel (.part second :: goals) position groups
      | .part (.group index inner) =>
          pursue subject fuel (.part inner :: .closing index position :: goals) position groups
      | .part (.reference index) =>
          match groups.lookup index with
          | none => return false
          | some (start, stop) =>
              if subject.isSame start position (stop - start) then
                pursue subject fuel goals (position + (stop - start)) groups
              else
                return false
      | .part (.repeated least most (.one set)) => do
          let room := subject.bytes.size - position
          let count := subject.runLength set position (min room (most.getD room)) 0
          if count < least then return false
          else pursueRuns subject fuel least goals position groups count
      | .part (.repeated least most inner) => do
          let mayGoOn := most != some 0
          let next := Goal.more (least - 1) (most.map (· - 1)) inner position
          if mayGoOn then
            if ← pursue subject fuel (.part inner :: next :: goals) position groups then
              return true
          if least = 0 then pursue subject fuel goals position groups else return false

def pursueRuns (subject : Subject) :
    (fuel : Nat) → (least : Nat) → List Goal → (position : Nat) → List (Nat × Nat × Nat) →
      (count : Nat) → StateM Search Bool
  | 0, _, _, _, _, _ => return true
  | fuel + 1, least, goals, position, groups, count => do
      if ← pursue subject fuel goals (position + count) groups then return true
      else if count ≤ least then return false
      else pursueRuns subject fuel least goals position groups (count - 1)

end

def allowance : Nat := 400000

def matchAt (expression : Regex) (subject : Subject) (start : Nat) : Option Found :=
  let (_, search) :=
    (pursue subject (4 * allowance) [.part expression] start []).run { budget := allowance }
  search.best.map fun (stop, groups) => ⟨start, stop, groups⟩

def firstSet? : Regex → Option ByteSet
  | .one set => some set
  | .both first _ => first.firstSet?
  | .group _ inner => inner.firstSet?
  | .repeated (_ + 1) _ inner => inner.firstSet?
  | .either first second =>
      match first.firstSet?, second.firstSet? with
      | some left, some right => some (ByteSet.ofTest fun b => left.holds b || right.holds b)
      | _, _ => none
  | _ => none

/-- Whether a match, if there is one, begins at the first place that is tried. -/
def beginsAnywhere : Regex → Bool
  | .repeated 0 none (.one set) => set.all id
  | .both first _ => first.beginsAnywhere
  | .group _ inner => inner.beginsAnywhere
  | _ => false

def searchFrom (expression : Regex) (subject : Subject) (first : Option ByteSet) :
    (fuel : Nat) → (start : Nat) → Option Found
  | 0, _ => none
  | fuel + 1, start =>
      let canBegin := match first with
        | some set => (subject.bytes[start]?).any set.holds
        | none => true
      match if canBegin then expression.matchAt subject start else none with
      | some found => some found
      | none => expression.searchFrom subject first fuel (start + 1)

def search (expression : Regex) (subject : Subject) (start : Nat) : Option Found :=
  let places := if expression.beginsAnywhere then 1 else subject.bytes.size + 1 - start
  expression.searchFrom subject expression.firstSet? places start

def isIn (expression : Regex) (text : Bytes) : Bool :=
  (expression.search { bytes := text.toArray } 0).isSome

def Subject.slice (subject : Subject) (start stop : Nat) : Bytes :=
  (subject.bytes.extract start stop).toList

end Regex

end Utility

end Reparse
