import Reparse.Utility.Options

/-!
Differences between texts.

Lines that two texts have in common are found as a longest common subsequence; what lies between
them is a change.
-/

namespace Reparse

namespace Utility

namespace Compare

/-! Byte by byte -/

structure Difference where
  place : Nat
  line : Nat
  bytes : Option (UInt8 × UInt8)
  firstEnds : Bool

def firstDifference : (place line : Nat) → Bytes → Bytes → Option Difference
  | _, _, [], [] => none
  | place, line, [], _ :: _ => some ⟨place, line, none, true⟩
  | place, line, _ :: _, [] => some ⟨place, line, none, false⟩
  | place, line, a :: left, b :: right =>
      if a = b then firstDifference (place + 1) (if a = 10 then line + 1 else line) left right
      else some ⟨place, line, some (a, b), false⟩

def allDifferences : (place : Nat) → (found : List (Nat × UInt8 × UInt8)) → Bytes → Bytes →
    List (Nat × UInt8 × UInt8)
  | place, found, a :: left, b :: right =>
      allDifferences (place + 1) (if a = b then found else (place, a, b) :: found) left right
  | _, found, _, _ => found.reverse

def octalOf (b : UInt8) : Bytes :=
  Utf8.encode (String.ofList (Nat.toDigits 8 b.toNat))

def failMissing {α : Type} (after : Bytes) : Job α := do
  let name := (← get).name
  Job.complain (Utf8.encode "missing operand after '" ++ after ++ [39])
  Job.complainText s!"Try '{name} --help' for more information."
  throw 2

def complainEnd (name : Bytes) (line? : Option Nat) (content : Bytes) : Job Unit := do
  if content.isEmpty then
    Job.complain (Utf8.encode "EOF on " ++ name ++ Utf8.encode " which is empty")
  else
    let spot :=
      match line? with
      | none => ""
      | some line =>
          if content.getLast? == some 10 then s!", line {line - 1}" else s!", in line {line}"
    Job.complain (Utf8.encode "EOF on " ++ name ++
      Utf8.encode s!" after byte {content.length}{spot}")

def cmp : Call → Job Nat := fun call => do
  let table := { OptionTable.ofText "bi:ln:s"
      [("print-bytes", 'b'), ("ignore-initial", 'i'), ("verbose", 'l'), ("bytes", 'n'),
        ("quiet", 's'), ("silent", 's')] with
    wrong := 2 }
  let parsed ← table.read {} call.arguments
  let (first, second) ←
    match parsed.operands with
    | [] => failMissing (Utf8.encode call.name)
    | [first] => pure (first, [45])
    | first :: second :: _ => pure (first, second)
  let fetch := fun (file : Bytes) => do
    match ← Job.read file with
    | .ok content => return content
    | .error error =>
        if !parsed.has 's' then Job.complain (Job.plainly error file)
        throw 2
  let left : Bytes ← fetch first
  let right : Bytes ← fetch second
  let most := (parsed.value? 'n').bind multiple?
  let cut := fun (content : Bytes) =>
    match most with
    | some most => content.take most
    | none => content
  let left := cut left
  let right := cut right
  match firstDifference 1 1 left right with
  | none => return 0
  | some difference => do
      if parsed.has 's' then
        return 1
      if parsed.has 'l' then
        let width := (toString (min left.length right.length)).length
        for (place, a, b) in allDifferences 1 [] left right do
          Job.print (padLeft width (textOf place) ++ [32] ++ padLeft 3 (octalOf a) ++ [32] ++
            padLeft 3 (octalOf b) ++ [10])
        if left.length < right.length then
          complainEnd first none left
        else if right.length < left.length then
          complainEnd second none right
      else
        match difference.bytes with
        | some (a, b) =>
            let unit := if parsed.has 'b' then "byte" else "char"
            let tail :=
              if parsed.has 'b' then
                Utf8.encode " is " ++ padLeft 3 (octalOf a) ++ [32, a, 32] ++
                  padLeft 3 (octalOf b) ++ [32, b]
              else
                []
            Job.print (first ++ [32] ++ second ++
              Utf8.encode s!" differ: {unit} {difference.place}, line {difference.line}" ++ tail ++
                [10])
        | none =>
            if difference.firstEnds then complainEnd first (some difference.line) left
            else complainEnd second (some difference.line) right
      return 1

/-! Line by line -/

abbrev Line :=
  Bytes × Bool

def linesWithEnds (text : Bytes) : List Line :=
  let parts := text.splitOn 10
  let whole := parts.dropLast.map fun part => (part, true)
  match parts.getLast? with
  | some [] => whole
  | some last => whole ++ [(last, false)]
  | none => []

/-- The row of the lengths of longest common subsequences of a line and what follows it with all
ends of the other lines. -/
def nextRow (line : Line) (others : List Line) (below : List Nat) : List Nat :=
  match others, below with
  | other :: others, this :: next :: below =>
      let right := nextRow line others (next :: below)
      let beside := right.head?.getD 0
      (if line == other then next + 1 else max this beside) :: right
  | _, _ => [0]

def rows (others : List Line) : List Line → List (List Nat)
  | [] => [List.replicate (others.length + 1) 0]
  | line :: lines =>
      match rows others lines with
      | below :: more => nextRow line others below :: below :: more
      | [] => []

structure Hunk where
  left : Nat
  right : Nat
  removed : List Line
  added : List Line

namespace Hunk

def isEmpty (hunk : Hunk) : Bool :=
  hunk.removed.isEmpty && hunk.added.isEmpty

def close (hunk : Hunk) (found : List Hunk) : List Hunk :=
  if hunk.isEmpty then found
  else { hunk with removed := hunk.removed.reverse, added := hunk.added.reverse } :: found

def range (before count : Nat) : String :=
  if count = 0 then toString before
  else if count = 1 then toString (before + 1)
  else s!"{before + 1},{before + count}"

end Hunk

/-- The changes that lead from one text to another; the rows tell how much both have in common. -/
def changes : (fuel : Nat) → Hunk → (found : List Hunk) → List Line → List Line → List (List Nat) →
    List Hunk
  | 0, hunk, found, _, _, _ => hunk.close found
  | fuel + 1, hunk, found, left, right, table =>
      match left, right with
      | [], [] => hunk.close found
      | line :: left, [] =>
          changes fuel { hunk with removed := line :: hunk.removed } found left [] table.tail
      | [], line :: right =>
          changes fuel { hunk with added := line :: hunk.added } found [] right table
      | a :: left', b :: right' =>
          if a == b then
            let before := hunk.left + hunk.removed.length + 1
            let after := hunk.right + hunk.added.length + 1
            changes fuel ⟨before, after, [], []⟩ (hunk.close found) left' right'
              (table.tail.map List.tail)
          else
            let this := table.head?.getD []
            let below := table.tail.head?.getD []
            let beside := this.tail.head?.getD 0
            if beside ≤ below.head?.getD 0 then
              changes fuel { hunk with removed := a :: hunk.removed } found left' right table.tail
            else
              changes fuel { hunk with added := b :: hunk.added } found left right'
                (table.map List.tail)

def hunks (left right : List Line) : List Hunk :=
  (changes (left.length + right.length + 1) ⟨0, 0, [], []⟩ [] left right (rows right left)).reverse

def signed (sign : String) (lines : List Line) : Bytes :=
  lines.flatMap fun line =>
    Utf8.encode sign ++ line.1 ++ [10] ++
      if line.2 then [] else Utf8.encode "\\ No newline at end of file\n"

def Hunk.text (hunk : Hunk) : Bytes :=
  let letter := if hunk.removed.isEmpty then "a" else if hunk.added.isEmpty then "d" else "c"
  let left := Hunk.range hunk.left hunk.removed.length
  let right := Hunk.range hunk.right hunk.added.length
  let middle := if hunk.removed.isEmpty || hunk.added.isEmpty then [] else Utf8.encode "---\n"
  Utf8.encode s!"{left}{letter}{right}\n" ++ signed "< " hunk.removed ++ middle ++
    signed "> " hunk.added

def isShown (content : Bytes) : Bool :=
  !content.contains 0

def diff : Call → Job Nat := fun call => do
  let table := { OptionTable.ofText "abBciqrsuwN"
      [("brief", 'q'), ("report-identical-files", 's'), ("text", 'a'), ("recursive", 'r'),
        ("ignore-case", 'i'), ("new-file", 'N')] with
    wrong := 2 }
  let parsed ← table.read {} call.arguments
  let (first, second) ←
    match parsed.operands with
    | [] => failMissing (Utf8.encode call.name)
    | [first] => failMissing first
    | [first, second] => pure (first, second)
    | _ :: _ :: extra :: _ => do
        Job.complain (Utf8.encode "extra operand '" ++ extra ++ [39])
        Job.complainText s!"Try '{call.name} --help' for more information."
        throw 2
  let fetch := fun (file : Bytes) => do
    match ← Job.read file with
    | .ok content => return some content
    | .error error => do
        Job.complain (Job.plainly error file)
        return none
  let left? : Option Bytes ← fetch first
  let right? : Option Bytes ← fetch second
  match left?, right? with
  | some left, some right =>
      let both := first ++ Utf8.encode " and " ++ second
      if left == right then
        if parsed.has 's' then
          Job.print (Utf8.encode "Files " ++ both ++ Utf8.encode " are identical\n")
        return 0
      else if parsed.has 'q' then
        Job.print (Utf8.encode "Files " ++ both ++ Utf8.encode " differ\n")
        return 1
      else if !(isShown left && isShown right) then
        Job.print (Utf8.encode "Binary files " ++ both ++ Utf8.encode " differ\n")
        return 1
      else
        for hunk in hunks (linesWithEnds left) (linesWithEnds right) do
          Job.print hunk.text
        return 1
  | _, _ => return 2

end Compare

end Utility

end Reparse
