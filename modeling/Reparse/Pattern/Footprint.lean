import Reparse.Pattern.Form
import Reparse.Text.Utf8
import Std.Data.HashMap

/-!
How much room an automaton over bytes takes for a form.

A pattern is accepted only if such an automaton is small enough, both the one that reads forwards
and the one that reads backwards.  A state takes 32 bytes, and more where it has several ways to go
on.
-/

namespace Reparse

namespace Pattern

abbrev ByteRange :=
  UInt8 × UInt8

namespace ByteRange

/-- Where a run of code points has to be cut so that the encodings of its parts differ in
independent ranges of bytes: the last code point of the first part. -/
def cut? (first last : Nat) : Option Nat :=
  let limits := [0x7F, 0x7FF, 0xFFFF]
  match limits.find? fun limit => decide (first ≤ limit) && decide (limit < last) with
  | some limit => some limit
  | none =>
      if last ≤ 0x7F then
        none
      else
        [64, 4096, 262144].findSome? fun block =>
          if first / block = last / block then none
          else if first % block ≠ 0 then some (first / block * block + (block - 1))
          else if last % block ≠ block - 1 then some (last / block * block - 1)
          else none

def sequences : (fuel first last : Nat) → List (List ByteRange)
  | 0, _, _ => []
  | fuel + 1, first, last =>
      if last < first then
        []
      else
        match cut? first last with
        | some middle => sequences fuel first middle ++ sequences fuel (middle + 1) last
        | none =>
            let bytesOf := fun code => Utf8.encode (String.singleton (Char.ofNat code))
            [(bytesOf first).zip (bytesOf last)]

def ofSet (set : CharacterSet) : List (List ByteRange) :=
  set.runs.flatMap fun (first, last) =>
    if first < 0xD800 ∧ 0xDFFF < last then
      sequences 32 first 0xD7FF ++ sequences 32 0xE000 last
    else
      sequences 32 first last

end ByteRange

structure Tally where
  states : Nat := 0
  extra : Nat := 0

/-- What an automaton comes to with something more in it, and whether that ends in a fork, to which
what follows adds; nothing if there is no room for it. -/
structure Part where
  add : Tally → Option (Tally × Bool)

namespace Tally

def largest : Nat :=
  0xa00000

def grow (tally : Tally) (states extra : Nat) : Option Tally :=
  let tally : Tally := ⟨tally.states + states, tally.extra + extra⟩
  if largest < 32 * tally.states + tally.extra then none else some tally

def link (tally : Tally) (isFork : Bool) : Option Tally :=
  if isFork then tally.grow 0 4 else some tally

end Tally

/-- What has been added already, by the slot that its hash has.  A slot holds what came last. -/
abbrev Slots (κ : Type) :=
  Std.HashMap UInt64 (κ × Nat)

namespace Slots

def hash (numbers : List Nat) : UInt64 :=
  numbers.foldl (fun hash number => (hash ^^^ UInt64.ofNat number) * 1099511628211)
    14695981039346656037

end Slots

abbrev Ways :=
  List (ByteRange × Nat)

def byFirst : List (List ByteRange) → List (ByteRange × List (List ByteRange))
  | [] => []
  | [] :: rest => byFirst rest
  | (range :: others) :: rest =>
      match byFirst rest with
      | (next, suffixes) :: groups =>
          if range = next then
            (range, others :: suffixes) :: groups
          else
            (range, [others]) :: (next, suffixes) :: groups
      | [] => [(range, [others])]

/-- Add the state for some sequences, after the states for what follows their first ranges.  A state
that is there already is used again. -/
def addShared (target : Nat) : (fuel : Nat) → List (List ByteRange) → Tally × Slots Ways →
    Option (Nat × Tally × Slots Ways)
  | 0, _, _ => none
  | fuel + 1, sequences, (tally, slots) => do
      let (ways, tally, slots) ←
        (byFirst sequences).foldlM
          (fun (ways, tally, slots) (range, suffixes) =>
            match suffixes with
            | [[]] => some ((range, target) :: ways, tally, slots)
            | _ =>
                (addShared target fuel suffixes (tally, slots)).map fun (next, tally, slots) =>
                  ((range, next) :: ways, tally, slots))
          (([] : Ways), tally, slots)
      let ways := ways.reverse
      let slot :=
        Slots.hash (ways.flatMap fun ((first, last), next) =>
          [first.toNat, last.toNat, next]) % 10000
      match slots[slot]? with
      | some (known, state) =>
          if known == ways then
            return (state, tally, slots)
          else
            let grown ← tally.grow 1 (8 * ways.length)
            return (tally.states, grown, slots.insert slot (ways, tally.states))
      | none =>
          let grown ← tally.grow 1 (8 * ways.length)
          return (tally.states, grown, slots.insert slot (ways, tally.states))

def addBackwards : List ByteRange → Nat → Tally × Slots (Nat × ByteRange) →
    Option (Tally × Slots (Nat × ByteRange))
  | [], _, (tally, slots) => some (tally, slots)
  | range :: rest, next, (tally, slots) =>
      let key := (next, range)
      let slot := Slots.hash [next, range.1.toNat, range.2.toNat] % 1000
      let addNew : Unit → Option (Tally × Slots (Nat × ByteRange)) := fun _ => do
        let grown ← tally.grow 1 0
        addBackwards rest tally.states (grown, slots.insert slot (key, tally.states))
      match slots[slot]? with
      | some (known, state) =>
          if known == key then addBackwards rest state (tally, slots) else addNew ()
      | none => addNew ()

namespace Part

def empty : Part :=
  ⟨fun tally => (tally.grow 1 0).map (·, false)⟩

def row (count : Nat) : Part :=
  if count = 0 then empty else ⟨fun tally => (tally.grow count 0).map (·, false)⟩

def ofSet (backwards : Bool) (set : CharacterSet) : Part :=
  if set.isAscii then
    ⟨fun tally => (tally.grow 2 (8 * set.runs.length)).map (·, false)⟩
  else
    let sequences := ByteRange.ofSet set
    if backwards then
      ⟨fun tally => do
        let start ← tally.grow 2 0
        let (tally, _) ←
          sequences.foldlM
            (fun (tally, slots) ranges => do
              let (tally, slots) ← addBackwards ranges (start.states - 1) (tally, slots)
              return (← tally.grow 0 4, slots))
            (start, (∅ : Slots (Nat × ByteRange)))
        return (tally, false)⟩
    else
      ⟨fun tally => do
        let start ← tally.grow 1 0
        let (_, tally, _) ← addShared tally.states 5 sequences (start, ∅)
        return (tally, false)⟩

def andThen (first second : Part) : Part :=
  ⟨fun tally => do
    let (tally, isFork) ← first.add tally
    let (tally, endsInFork) ← second.add tally
    return (← tally.link isFork, endsInFork)⟩

def inSequence : List Part → Part
  | [] => empty
  | part :: rest => rest.foldl andThen part

def again (part : Part) : Nat → Tally × Bool → Option (Tally × Bool)
  | 0, soFar => some soFar
  | count + 1, (tally, isFork) => do
      let (tally, endsInFork) ← part.add tally
      again part count (← tally.link isFork, endsInFork)

def exactly (part : Part) : Nat → Part
  | 0 => empty
  | count + 1 => ⟨fun tally => do again part count (← part.add tally)⟩

def optionally (part : Part) : Nat → Tally × Bool → Option (Tally × Bool)
  | 0, soFar => some soFar
  | count + 1, (tally, isFork) => do
      let tally ← tally.grow 1 0
      let (tally, endsInFork) ← part.add tally
      let tally ← tally.link isFork
      optionally part count (← tally.grow 0 8, endsInFork)

def between (part : Part) (least most : Nat) : Part :=
  if least = 0 ∧ most = 1 then
    ⟨fun tally => do
      let tally ← tally.grow 1 0
      let (tally, isFork) ← part.add tally
      let tally ← tally.grow 1 8
      return (← tally.link isFork, false)⟩
  else if least = most then
    part.exactly least
  else
    ⟨fun tally => do
      let (tally, isFork) ← (part.exactly least).add tally
      let tally ← tally.grow 1 0
      let (tally, isFork) ← part.optionally (most - least) (tally, isFork)
      return (← tally.link isFork, false)⟩

def atLeast (part : Part) (least : Nat) (consumes : Bool) : Part :=
  match least with
  | 0 =>
      if consumes then
        ⟨fun tally => do
          let tally ← tally.grow 1 0
          let (tally, isFork) ← part.add tally
          let tally ← tally.grow 0 4
          return (← tally.link isFork, true)⟩
      else
        ⟨fun tally => do
          let (tally, isFork) ← part.add tally
          let tally ← tally.grow 1 0
          let tally ← tally.link isFork
          let tally ← tally.grow 0 4
          let tally ← tally.grow 2 0
          return (← tally.grow 0 12, false)⟩
  | 1 =>
      ⟨fun tally => do
        let (tally, isFork) ← part.add tally
        let tally ← tally.grow 1 0
        let tally ← tally.link isFork
        return (← tally.grow 0 4, true)⟩
  | least + 2 =>
      ⟨fun tally => do
        let (tally, startsInFork) ← (part.exactly (least + 1)).add tally
        let (tally, isFork) ← part.add tally
        let tally ← tally.grow 1 0
        let tally ← tally.link startsInFork
        let tally ← tally.link isFork
        return (← tally.grow 0 4, true)⟩

def moreWays : List Part → Tally → Option Tally
  | [], tally => some tally
  | part :: rest, tally => do
      let (tally, isFork) ← part.add tally
      let tally ← tally.grow 0 4
      moreWays rest (← tally.link isFork)

def choice : List Part → Part
  | [] => row 1
  | [part] => part
  | first :: second :: rest =>
      ⟨fun tally => do
        let (tally, firstFork) ← first.add tally
        let (tally, secondFork) ← second.add tally
        let tally ← tally.grow 2 8
        let tally ← tally.link firstFork
        let tally ← tally.link secondFork
        return (← moreWays rest tally, false)⟩

end Part

def Part.captured (part : Part) : Part :=
  ⟨fun tally => do
    let tally ← tally.grow 1 0
    let (tally, isFork) ← part.add tally
    let tally ← tally.grow 1 0
    return (← tally.link isFork, false)⟩

def byHead (words : List (List UInt8)) : List (UInt8 × List (List UInt8)) :=
  words.foldl
    (fun groups word =>
      match word with
      | [] => groups
      | head :: rest =>
          if groups.any (·.1 == head) then
            groups.map fun group => if group.1 == head then (head, group.2 ++ [rest]) else group
          else
            groups ++ [(head, [rest])])
    []

/-- Words in the pieces between those that are empty, and how many of these count: one before the
first word that is not empty, and all after it. -/
def pieces (words : List (List UInt8)) : List (List (List UInt8)) × Nat :=
  let (done, current, count) :=
    words.foldl
      (fun (done, current, count) word =>
        if !word.isEmpty then
          (done, word :: current, count)
        else if current.isEmpty && done.isEmpty then
          (done, current, 1)
        else
          (current :: done, [], count + 1))
      (([] : List (List (List UInt8))), ([] : List (List UInt8)), 0)
  (((current :: done).filter fun piece => !piece.isEmpty).reverse.map List.reverse, count)

def wordStates : (fuel : Nat) → List (List UInt8) → Nat × Nat
  | 0, _ => (0, 0)
  | fuel + 1, words =>
      let (pieces, ends) := pieces words
      pieces.foldl
        (fun total piece =>
          let groups := byHead piece
          let total :=
            (total.1 + 1, total.2 + 4 + (if groups.length = 1 then 0 else 8 * groups.length))
          groups.foldl
            (fun total group =>
              if group.2.all List.isEmpty then
                total
              else
                let inner := wordStates fuel group.2
                (total.1 + inner.1, total.2 + inner.2))
            total)
        (1, 4 * ends)

def Part.ofWords (words : List (List UInt8)) : Part :=
  let longest := words.foldl (fun longest word => max longest word.length) 0
  let (states, extra) := wordStates (longest + 1) words
  ⟨fun tally => (tally.grow (states + 1) extra).map (·, false)⟩

namespace Form

def bytes? : Form → Option (List UInt8)
  | .literal text => some (Utf8.encode (String.ofList text))
  | _ => none

mutual

def part (backwards : Bool) : Form → Part
  | .empty => .empty
  | .literal text => .row (Utf8.encode (String.ofList text)).length
  | .oneOf set => .ofSet backwards set
  | .edge _ => .row 1
  | .repeated least none _ inner =>
      (part backwards inner).atLeast least ((shortest? inner).any fun length => 0 < length)
  | .repeated least (some most) _ inner => (part backwards inner).between least most
  | .group _ inner => if backwards then part backwards inner else (part backwards inner).captured
  | .sequence forms =>
      let parts := parts backwards forms
      .inSequence (if backwards then parts.reverse else parts)
  | .choice branches =>
      match branches.mapM bytes? with
      | some words => .ofWords (if backwards then words.map List.reverse else words)
      | none => .choice (parts backwards branches)

def parts (backwards : Bool) : List Form → List Part
  | [] => []
  | form :: rest => part backwards form :: parts backwards rest

end

def unboundPrefix (isBound : Bool) : Part :=
  if isBound then .row 1 else (Part.mk fun tally => (tally.grow 2 8).map (·, false)).atLeast 0 true

def fitsWhere (backwards : Bool) (form : Form) : Bool :=
  let isBound := if backwards then form.endsText else form.startsText
  let whole := if backwards then form.part true else (form.part false).captured
  (((unboundPrefix isBound).andThen (whole.andThen (.row 1))).add {}).isSome

def fits (form : Form) : Bool :=
  form.fitsWhere false && form.fitsWhere true

end Form

end Pattern

end Reparse
