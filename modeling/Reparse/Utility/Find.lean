import Reparse.Utility.Files
import Reparse.Utility.Regex

namespace Reparse

namespace Utility

namespace Find

inductive Question where
  | yes
  | name (pattern : Regex)
  | path (pattern : Regex)
  | type (letters : List Char)
  | empty
  | print (ending : UInt8)
  | delete
  | execute (words : List Bytes) (together : Bool)
  | not (inner : Question)
  | and (first second : Question)
  | or (first second : Question)

instance : Inhabited Question := ⟨.yes⟩

structure Limits where
  least : Nat := 0
  most : Nat := 1000
  deepFirst : Bool := false

structure Reading where
  words : List Bytes
  limits : Limits := {}
  acts : Bool := false

abbrev Reader :=
  StateT Reading (Except Bytes)

/-! Reading -/

def readSet : (fuel : Nat) → (isFirst : Bool) → (found : Bytes) → Bytes → Option (Bytes × Bytes)
  | 0, _, _, _ => none
  | _, _, _, [] => none
  | fuel + 1, isFirst, found, b :: rest =>
      if b = 93 && !isFirst then
        some (found, rest)
      else
        match rest with
        | 45 :: high :: after =>
            if high = 93 then
              readSet fuel false (b :: found) rest
            else
              let range := (List.range (high.toNat + 1 - b.toNat)).map fun (offset : Nat) =>
                b + offset.toUInt8
              readSet fuel false (range ++ found) after
        | rest => readSet fuel false (b :: found) rest

def patternOf (foldsCase : Bool) : (fuel : Nat) → Bytes → Regex
  | 0, _ => .empty
  | _, [] => .spot .textEnd
  | fuel + 1, b :: rest =>
      let fold := fun (set : ByteSet) => if foldsCase then set.foldCase else set
      let any : Regex := .one (Array.replicate 256 true)
      let go := fun (first : Regex) (rest : Bytes) =>
        Regex.both first (patternOf foldsCase fuel rest)
      let plain := fun (b : UInt8) (rest : Bytes) => go (.one (fold (ByteSet.ofBytes [b]))) rest
      match Char.ofNat b.toNat, rest with
      | '*', rest => go (.repeated 0 none any) rest
      | '?', rest => go any rest
      | '\\', c :: rest => plain c rest
      | '[', rest =>
          let (isNegated, inner) :=
            match rest with
            | 33 :: inner => (true, inner)
            | 94 :: inner => (true, inner)
            | inner => (false, inner)
          match readSet (inner.length + 1) true [] inner with
          | some (bytes, after) =>
              let set := fold (ByteSet.ofBytes bytes)
              go (.one (if isNegated then set.complement else set)) after
          | none => plain b rest
      | _, rest => plain b rest

def wholePattern (foldsCase : Bool) (text : Bytes) : Regex :=
  .both (.spot .textStart) (patternOf foldsCase (text.length + 1) text)

def next? : Reader (Option Bytes) := do
  let reading ← get
  set { reading with words := reading.words.tail }
  return reading.words.head?

def argument (predicate : String) : Reader Bytes := do
  match ← next? with
  | some word => return word
  | none => throw (Utf8.encode s!"missing argument to \x60{predicate}'")

def readCount (predicate : String) : Reader Nat := do
  let word ← argument predicate
  match decimal? word with
  | some count => return count
  | none =>
      throw (Utf8.encode "Expected a positive decimal integer argument to " ++
        Utf8.encode s!"{predicate}, but got \x60" ++ word ++ [39])

def note : Reader Unit :=
  modify fun reading => { reading with acts := true }

/-- The words of a command, up to a semicolon or to a pair of braces and a plus sign. -/
def readCommand (found : List Bytes) : List Bytes → Option (List Bytes × Bool × List Bytes)
  | [] => none
  | [59] :: rest => some (found.reverse, false, rest)
  | [123, 125] :: [43] :: rest => some (found.reverse, true, rest)
  | word :: rest => readCommand (word :: found) rest

mutual

def readEither : (fuel : Nat) → Reader Question
  | 0 => throw (Utf8.encode "too deep")
  | fuel + 1 => do
      let first ← readBoth fuel
      match (← get).words with
      | word :: rest =>
          if word == Utf8.encode "-o" || word == Utf8.encode "-or" then do
            modify fun reading => { reading with words := rest }
            return .or first (← readEither fuel)
          else
            return first
      | [] => return first

def readBoth : (fuel : Nat) → Reader Question
  | 0 => throw (Utf8.encode "too deep")
  | fuel + 1 => do
      let first ← readOne fuel
      match (← get).words with
      | [] => return first
      | word :: rest =>
          if [[41], Utf8.encode "-o", Utf8.encode "-or"].contains word then
            return first
          else do
            if word == Utf8.encode "-a" || word == Utf8.encode "-and" then
              modify fun reading => { reading with words := rest }
            return .and first (← readBoth fuel)

def readOne : (fuel : Nat) → Reader Question
  | 0 => throw (Utf8.encode "too deep")
  | fuel + 1 => do
      match ← next? with
      | none => return .yes
      | some word =>
          let predicate := Files.pathOf word
          match predicate with
          | "!" => return .not (← readOne fuel)
          | "-not" => return .not (← readOne fuel)
          | "(" => do
              let inner ← readEither fuel
              match ← next? with
              | some [41] => return inner
              | _ =>
                  throw (Utf8.encode "invalid expression; " ++
                    Utf8.encode "I was expecting to find a ')' somewhere but did not see one.")
          | "-true" => return .yes
          | "-false" => return .not .yes
          | "-name" => return .name (wholePattern false (← argument predicate))
          | "-iname" => return .name (wholePattern true (← argument predicate))
          | "-path" => return .path (wholePattern false (← argument predicate))
          | "-wholename" => return .path (wholePattern false (← argument predicate))
          | "-type" => do
              let letters := (Files.pathOf (← argument predicate)).toList
              let isKnown := fun (c : Char) => ("bcdpflsD,".toList).contains c
              match letters.find? fun c => !isKnown c with
              | some c => throw (Utf8.encode s!"Unknown argument to -type: {c}")
              | none => return .type letters
          | "-empty" => return .empty
          | "-maxdepth" => do
              let most ← readCount predicate
              modify fun reading => { reading with limits := { reading.limits with most := most } }
              return .yes
          | "-mindepth" => do
              let least ← readCount predicate
              modify fun reading =>
                { reading with limits := { reading.limits with least := least } }
              return .yes
          | "-depth" => do
              modify fun reading =>
                { reading with limits := { reading.limits with deepFirst := true } }
              return .yes
          | "-print" => do
              note
              return .print 10
          | "-print0" => do
              note
              return .print 0
          | "-delete" => do
              note
              modify fun reading =>
                { reading with limits := { reading.limits with deepFirst := true } }
              return .delete
          | "-exec" => do
              note
              match readCommand [] (← get).words with
              | some (words, together, rest) => do
                  modify fun reading => { reading with words := rest }
                  return .execute words together
              | none => throw (Utf8.encode "missing argument to \x60-exec'")
          | _ => throw (Utf8.encode s!"unknown predicate \x60{predicate}'")

end

/-! Asking -/

def quotedWord (word : Bytes) : Bytes :=
  let escape := fun (b : UInt8) => if b = 39 then [39, 92, 39, 39] else [b]
  39 :: word.flatMap escape ++ [39]

def runWords (words : List Bytes) : Job Bool := do
  let script := [32].intercalate (words.map quotedWord)
  let (performed, printed) ← Job.perform "find" script []
  Job.print printed
  return performed.status == 0

def fillBraces (path : Bytes) : Bytes → Bytes
  | 123 :: 125 :: rest => path ++ fillBraces path rest
  | b :: rest => b :: fillBraces path rest
  | [] => []

/-- Ask about an item; the paths that are kept for one command come first in the result. -/
def ask (path : Bytes) (name : String) (item : Item) :
    Question → List Bytes → Job (Bool × List Bytes)
  | .yes, kept => return (true, kept)
  | .name pattern, kept => return (pattern.isIn (Utf8.encode name), kept)
  | .path pattern, kept => return (pattern.isIn path, kept)
  | .type letters, kept =>
      let letter :=
        match item with
        | .file _ => 'f'
        | .directory _ => 'd'
        | .device => 'c'
      return (letters.contains letter, kept)
  | .empty, kept =>
      let isEmpty :=
        match item with
        | .file [] => true
        | .directory [] => true
        | _ => false
      return (isEmpty, kept)
  | .print ending, kept => do
      Job.print (path ++ [ending])
      return (true, kept)
  | .delete, kept => do
      match (← get).volume.locate (Files.pathOf path) with
      | .ok place =>
          Files.changeVolume fun volume => volume.removeAt place
          return (true, kept)
      | .error _ => return (false, kept)
  | .execute words together, kept => do
      if together then
        return (true, kept ++ [path])
      else
        return (← runWords (words.map (fillBraces path)), kept)
  | .not inner, kept => do
      let (holds, kept) ← ask path name item inner kept
      return (!holds, kept)
  | .and first second, kept => do
      let (holds, kept) ← ask path name item first kept
      if holds then ask path name item second kept else return (false, kept)
  | .or first second, kept => do
      let (holds, kept) ← ask path name item first kept
      if holds then return (true, kept) else ask path name item second kept

def walk (limits : Limits) (question : Question) :
    (fuel : Nat) → (depth : Nat) → (path : Bytes) → (name : String) → Item → List Bytes →
      Job (List Bytes)
  | 0, _, _, _, _, kept => return kept
  | fuel + 1, depth, path, name, item, kept => do
      let isAsked := limits.least ≤ depth && depth ≤ limits.most
      let mut kept := kept
      if isAsked && !limits.deepFirst then
        kept := (← ask path name item question kept).2
      match item with
      | .directory entries =>
          if depth < limits.most then
            for (inner, entry) in entries do
              let path := Files.within path inner
              kept ← walk limits question fuel (depth + 1) path inner entry kept
      | _ => pure ()
      if isAsked && limits.deepFirst then
        kept := (← ask path name item question kept).2
      return kept

def togetherWords? : Question → Option (List Bytes)
  | .execute words true => some words
  | .not inner => togetherWords? inner
  | .and first second => (togetherWords? first).orElse fun _ => togetherWords? second
  | .or first second => (togetherWords? first).orElse fun _ => togetherWords? second
  | _ => none

def find : Call → Job Nat := fun call => do
  let isStart := fun (word : Bytes) =>
    match word with
    | 45 :: _ :: _ => false
    | [33] => false
    | [40] => false
    | _ => true
  let starts := call.arguments.takeWhile isStart
  let words := call.arguments.drop starts.length
  match (readEither (4 * words.length + 8)).run { words := words } with
  | .error reason => Job.fail 1 reason
  | .ok (question, reading) => do
      let question := if reading.acts then question else .and question (.print 10)
      let mut status := 0
      let mut kept := []
      for start in (if starts.isEmpty then [[46]] else starts) do
        let path := Files.pathOf start
        match (← get).volume.item path with
        | .error error =>
            Job.complain (Files.quoted start ++ Utf8.encode s!": {error.reason}")
            status := 1
        | .ok item =>
            kept ← walk reading.limits question 300 0 start (Files.lastName path) item kept
      match togetherWords? question, kept with
      | some words, _ :: _ => if !(← runWords (words ++ kept)) then status := 1
      | _, _ => pure ()
      return status

end Find

end Utility

end Reparse
