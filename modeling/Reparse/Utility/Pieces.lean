import Reparse.Utility.Files

namespace Reparse

namespace Utility

namespace Pieces

/-! Tabs -/

inductive Stops where
  | every (width : Nat)
  | listed (columns : List Nat)

namespace Stops

def ofParsed (parsed : Parsed) : Stops :=
  match parsed.value? 't' with
  | none => .every 8
  | some text =>
      match (text.splitOn 44).filterMap decimal? with
      | [] => .every 8
      | [width] => .every (max 1 width)
      | columns => .listed columns

/-- The next stop after a column; behind the last one of a list a tab is one blank. -/
def next (stops : Stops) (column : Nat) : Nat :=
  match stops with
  | .every width => column + (width - column % width)
  | .listed columns => (columns.find? (column < ·)).getD (column + 1)

def isAt (stops : Stops) (column : Nat) : Bool :=
  match stops with
  | .every width => column % width == 0
  | .listed columns => columns.contains column

end Stops

def expandFrom (stops : Stops) (isInitial : Bool) (column : Nat) (inFront : Bool) (found : Bytes) :
    Bytes → Bytes
  | [] => found.reverse
  | 9 :: rest =>
      if isInitial && !inFront then
        expandFrom stops isInitial (column + 1) inFront (9 :: found) rest
      else
        let count := stops.next column - column
        expandFrom stops isInitial (column + count) inFront (List.replicate count 32 ++ found) rest
  | b :: rest =>
      let column := if b = 10 then 0 else column + 1
      let inFront := b = 10 || (inFront && b = 32)
      expandFrom stops isInitial column inFront (b :: found) rest

def expand : Call → Job Nat := fun call => do
  let table := OptionTable.ofText "it:" [("initial", 'i'), ("tabs", 't')]
  let parsed ← table.read {} call.arguments
  Job.forEach parsed.operands Job.plainly fun _ content =>
    Job.print (expandFrom (.ofParsed parsed) (parsed.has 'i') 0 true [] content)

/-- Tabs for blanks before a stop; `pending` counts the blanks since the last other byte. -/
def unexpandFrom (stops : Stops) (all : Bool) (column pending : Nat) (inFront : Bool)
    (found : Bytes) :
    Bytes → Bytes
  | [] => (List.replicate pending 32 ++ found).reverse
  | b :: rest =>
      if (b = 32 || b = 9) && (all || inFront) then
        let next := if b = 9 then stops.next column else column + 1
        if stops.isAt next && (b = 9 || 1 < pending + 1) then
          unexpandFrom stops all next 0 inFront (9 :: found) rest
        else
          unexpandFrom stops all next (pending + 1) inFront found rest
      else
        let found := b :: (List.replicate pending 32 ++ found)
        let column := if b = 10 then 0 else column + 1
        unexpandFrom stops all column 0 (b = 10) found rest

def unexpand : Call → Job Nat := fun call => do
  let table := OptionTable.ofText "aft:" [("all", 'a'), ("first-only", 'f'), ("tabs", 't')]
  let parsed ← table.read {} call.arguments
  let all := (parsed.has 'a' || parsed.has 't') && !parsed.has 'f'
  Job.forEach parsed.operands Job.plainly fun _ content =>
    Job.print (unexpandFrom (.ofParsed parsed) all 0 0 true [] content)

/-! Cutting -/

def groupLines (count : Nat) : (fuel : Nat) → List Bytes → List Bytes
  | 0, _ => []
  | _, [] => []
  | fuel + 1, lines => (lines.take count).flatten :: groupLines count fuel (lines.drop count)

def groupBytes (count : Nat) : (fuel : Nat) → Bytes → List Bytes
  | 0, _ => []
  | _, [] => []
  | fuel + 1, bytes => bytes.take count :: groupBytes count fuel (bytes.drop count)

def suffixOf (isNumeric : Bool) (width number : Nat) : Bytes :=
  let base := if isNumeric then 10 else 26
  (List.range width).map fun place =>
    let digit := number / Nat.pow base (width - 1 - place) % base
    (digit + if isNumeric then 48 else 97).toUInt8

def split : Call → Job Nat := fun call => do
  let table := OptionTable.ofText "a:b:l:dn:C:"
    [("suffix-length", 'a'), ("bytes", 'b'), ("lines", 'l'), ("numeric-suffixes", 'd')]
  let parsed ← table.read {} call.arguments
  let file := parsed.operands.head?.getD [45]
  let front := (parsed.operands[1]?).getD [120]
  match ← Job.read file with
  | .error error =>
      Job.fail 1 (Utf8.encode "cannot open '" ++ file ++
        Utf8.encode s!"' for reading: {error.reason}")
  | .ok content =>
      let size := ((parsed.value? 'b').bind multiple?).getD 0
      let count := max 1 (((parsed.value? 'l').bind multiple?).getD 1000)
      let pieces :=
        if 0 < size then
          groupBytes size (content.length + 1) content
        else
          let ended := (linesOf content).map fun line => line ++ [10]
          let ended :=
            match ended.getLast? with
            | some last => if content.getLast? == some 10 then ended
                else ended.dropLast ++ [last.dropLast]
            | none => ended
          groupLines count (ended.length + 1) ended
      let width := ((parsed.value? 'a').bind decimal?).getD 2
      for (number, piece) in (List.range pieces.length).zip pieces do
        let name := front ++ suffixOf (parsed.has 'd') width number
        match ← Job.write name piece false with
        | .ok _ => pure ()
        | .error error => Job.fail 1 (Job.plainly error name)
      return 0

def dd : Call → Job Nat := fun call => do
  let settings := call.arguments.map fun word =>
    let name := word.takeWhile (· != 61)
    (Files.pathOf name, word.drop (name.length + 1), word)
  let known :=
    ["if", "of", "bs", "ibs", "obs", "count", "skip", "seek", "conv", "status", "iflag", "oflag",
      "cbs"]
  for (name, _, word) in settings do
    if !known.contains name || !word.contains 61 then
      Job.failUsage 1 (Utf8.encode "unrecognized operand '" ++ word ++ [39])
  let value? := fun (name : String) =>
    (settings.find? fun setting => setting.1 = name).map fun setting => setting.2.1
  let size := ((value? "bs").orElse fun _ => value? "ibs").bind multiple?
  let size := size.getD 512
  let input ←
    match value? "if" with
    | none => Job.takeInput
    | some file => do
        match ← Job.read file with
        | .ok content => pure content
        | .error error =>
            Job.fail 1 (Utf8.encode "failed to open '" ++ file ++ Utf8.encode s!"': {error.reason}")
  let skipped := input.drop (((value? "skip").bind decimal?).getD 0 * size)
  let kept :=
    match (value? "count").bind decimal? with
    | some count => skipped.take (count * size)
    | none => skipped
  let conversion := Files.pathOf ((value? "conv").getD [])
  let shown := kept.map fun b =>
    if conversion = "ucase" && 97 ≤ b && b ≤ 122 then b - 32
    else if conversion = "lcase" && 65 ≤ b && b ≤ 90 then b + 32
    else b
  match value? "of" with
  | none => Job.print shown
  | some file =>
      match ← Job.write file shown false with
      | .ok _ => pure ()
      | .error error =>
          Job.fail 1 (Utf8.encode "failed to open '" ++ file ++ Utf8.encode s!"': {error.reason}")
  if value? "status" != some (Utf8.encode "none") then
    let whole := kept.length / size
    let part := if kept.length % size = 0 then 0 else 1
    Job.mutter (Utf8.encode s!"{whole}+{part} records in\n{whole}+{part} records out\n")
    Job.mutter (Utf8.encode s!"{kept.length} bytes copied, 0 s, 0 B/s\n")
  return 0

/-! Facts -/

def fillFormat (facts : Char → Option Bytes) : (fuel : Nat) → Bytes → Bytes
  | 0, _ => []
  | _, [] => []
  | fuel + 1, 37 :: letter :: rest =>
      (facts (Char.ofNat letter.toNat)).getD [37, letter] ++ fillFormat facts fuel rest
  | fuel + 1, b :: rest => b :: fillFormat facts fuel rest

def stat : Call → Job Nat := fun call => do
  let table := OptionTable.ofText "c:fLtp:"
    [("format", 'c'), ("printf", 'p'), ("dereference", 'L'), ("terse", 't')]
  let parsed ← table.read {} call.arguments
  if parsed.operands.isEmpty then Files.failMissing
  let mut status := 0
  for file in parsed.operands do
    match (← get).volume.item (Files.pathOf file) with
    | .error error =>
        Files.complainOf "cannot statx " file s!": {error.reason}"
        status := 1
    | .ok item =>
        let (size, kind) :=
          match item with
          | .file [] => (0, "regular empty file")
          | .file content => (content.length, "regular file")
          | .directory _ => (4096, "directory")
          | .device => (0, "character special file")
        let facts := fun (letter : Char) =>
          match letter with
          | 'n' => some file
          | 's' => some (textOf size)
          | 'F' => some (Utf8.encode kind)
          | 'N' => some (Files.quoted file)
          | '%' => some [37]
          | _ => none
        let format :=
          ((parsed.value? 'c').orElse fun _ => parsed.value? 'p').getD (Utf8.encode "%n")
        let line := fillFormat facts (format.length + 1) format
        Job.print (if parsed.has 'p' then line else line ++ [10])
  return status

end Pieces

end Utility

end Reparse
