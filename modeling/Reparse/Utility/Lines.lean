import Reparse.Utility.Options

namespace Reparse

namespace Utility

/-! Passing on -/

def showByte (b : UInt8) : Bytes :=
  let low := fun (b : UInt8) => if b < 32 then [94, b + 64] else if b = 127 then [94, 63] else [b]
  if b < 128 then low b else [77, 45] ++ low (b - 128)

structure ShowStyle where
  numbersAll : Bool
  numbersFilled : Bool
  squeezes : Bool
  marksEnds : Bool
  marksTabs : Bool
  showsBytes : Bool

/-- Text that has been shown so far, backwards, with the number of the last line that has one, how
many empty lines come before, and whether a line starts. -/
structure Shown where
  text : Bytes := []
  number : Nat := 0
  empty : Nat := 0
  atStart : Bool := true

def Shown.add (style : ShowStyle) (shown : Shown) (b : UInt8) : Shown :=
  let isEmpty := shown.atStart && b = 10
  if isEmpty && style.squeezes && 0 < shown.empty then
    shown
  else
    let isNumbered := shown.atStart && (style.numbersAll || style.numbersFilled) &&
      !(isEmpty && style.numbersFilled)
    let number := if isNumbered then shown.number + 1 else shown.number
    let front := if isNumbered then padLeft 6 (textOf number) ++ [9] else []
    let sign :=
      if b = 10 then (if style.marksEnds then [36, 10] else [10])
      else if b = 9 then (if style.marksTabs then [94, 73] else [9])
      else if style.showsBytes then showByte b
      else [b]
    { text := sign.reverse ++ (front.reverse ++ shown.text)
      number := number
      empty := if isEmpty then shown.empty + 1 else 0
      atStart := b == 10 }

def cat (call : Call) : Job Nat := do
  let table := OptionTable.ofText "AbeEnstTuv"
    [("show-all", 'A'), ("number-nonblank", 'b'), ("show-ends", 'E'), ("number", 'n'),
      ("squeeze-blank", 's'), ("show-tabs", 'T'), ("show-nonprinting", 'v')]
  let parsed ← table.read {} call.arguments
  let has := parsed.has
  let style : ShowStyle :=
    { numbersAll := has 'n' && !has 'b'
      numbersFilled := has 'b'
      squeezes := has 's'
      marksEnds := has 'A' || has 'e' || has 'E'
      marksTabs := has 'A' || has 't' || has 'T'
      showsBytes := has 'A' || has 'e' || has 't' || has 'v' }
  if parsed.options.all fun option => option.1 = 'u' then
    Job.forEach parsed.operands Job.plainly fun _ content => Job.print content
  else
    let (texts, failures) ← Job.readAll parsed.operands Job.plainly
    let text := (texts.map (·.2)).flatten
    Job.print (text.foldl (Shown.add style) {}).text.reverse
    return if failures = 0 then 0 else 1

def tac (call : Call) : Job Nat := do
  let table := OptionTable.ofText "brs:" [("before", 'b'), ("regex", 'r'), ("separator", 's')]
  let parsed ← table.read {} call.arguments
  Job.forEach parsed.operands
    (fun error file =>
      Utf8.encode "failed to open '" ++ file ++ Utf8.encode s!"' for reading: {error.reason}")
    fun _ content => do
      let parts := content.splitOn 10
      let last := parts.getLast?.getD []
      Job.print (last ++ (parts.dropLast.reverse.flatMap (· ++ [10])))

def rev (call : Call) : Job Nat := do
  let table := OptionTable.ofText "0" [("zero", '0')]
  let parsed ← table.read {} call.arguments
  Job.forEach parsed.operands
    (fun error file => Utf8.encode "cannot open " ++ file ++ Utf8.encode s!": {error.reason}")
    fun _ content =>
      Job.print (([10] : Bytes).intercalate ((content.splitOn 10).map List.reverse))

def tee (call : Call) : Job Nat := do
  let table := OptionTable.ofText "aip" [("append", 'a'), ("ignore-interrupts", 'i')]
  let parsed ← table.read {} call.arguments
  let content ← Job.takeInput
  let mut status := 0
  for file in parsed.operands do
    match ← Job.write file content (parsed.has 'a') with
    | .ok _ => pure ()
    | .error error =>
        Job.complain (Job.plainly error file)
        status := 1
  Job.print content
  return status

/-! Parts of texts -/

def sizeOfLines (ending : UInt8) (size : Nat) : Nat → Bytes → Nat
  | 0, _ => size
  | _, [] => size
  | count + 1, b :: rest =>
      if b = ending then sizeOfLines ending (size + 1) count rest
      else sizeOfLines ending (size + 1) (count + 1) rest

def takeLines (ending : UInt8) (count : Nat) (text : Bytes) : Bytes :=
  text.take (sizeOfLines ending 0 count text)

def dropLines (ending : UInt8) : Nat → Bytes → Bytes
  | 0, text => text
  | _, [] => []
  | count + 1, b :: rest =>
      if b = ending then dropLines ending count rest else dropLines ending (count + 1) rest

def lineCount (ending : UInt8) (text : Bytes) : Nat :=
  text.count ending + if text.isEmpty || text.getLast? == some ending then 0 else 1

def expandCount (signs : Bytes) (arguments : List Bytes) : List Bytes :=
  match arguments with
  | (sign :: b :: rest) :: others =>
      if signs.contains sign && 48 ≤ b && b ≤ 57 then
        let digits := (b :: rest).takeWhile fun b => 48 ≤ b && b ≤ 57
        let letters := (b :: rest).drop digits.length
        let front : Bytes := if sign = 43 then [43] else []
        if letters.isEmpty then [45, 110] :: (front ++ digits) :: others
        else if letters = [99] then [45, 99] :: (front ++ digits) :: others
        else arguments
      else
        arguments
  | _ => arguments

def withTitles (parsed : Parsed) (describe : StorageError → Bytes → Bytes)
    (act : Bytes → Job Unit) : Job Nat := do
  let isTitled := !parsed.has 'q' && (parsed.has 'v' || 1 < parsed.operands.length)
  let files := if parsed.operands.isEmpty then [[45]] else parsed.operands
  let mut status := 0
  let mut isFirst := true
  for file in files do
    match ← Job.read file with
    | .ok content =>
        if isTitled then
          let title := if file = [45] then Utf8.encode "standard input" else file
          let gap : Bytes := if isFirst then [] else [10]
          Job.print (gap ++ Utf8.encode "==> " ++ title ++ Utf8.encode " <==\n")
        isFirst := false
        act content
    | .error error =>
        Job.complain (describe error file)
        status := 1
  return status

def failCount {α : Type} (isBytes : Bool) (word : Bytes) : Job α :=
  let unit := if isBytes then "bytes" else "lines"
  Job.fail 1 (Utf8.encode s!"invalid number of {unit}: '" ++ word ++ [39])

def head (call : Call) : Job Nat := do
  let table := OptionTable.ofText "c:n:qvz"
    [("bytes", 'c'), ("lines", 'n'), ("quiet", 'q'), ("silent", 'q'), ("verbose", 'v'),
      ("zero-terminated", 'z')]
  let parsed ← table.read {} (expandCount [45] call.arguments)
  let isBytes := parsed.last? ['c', 'n'] == some 'c'
  let word := (parsed.value? (if isBytes then 'c' else 'n')).getD [49, 48]
  let isBut := word.head? == some 45
  let digits := if isBut || word.head? == some 43 then word.tail else word
  let ending := if parsed.has 'z' then 0 else 10
  match multiple? digits with
  | none => failCount isBytes digits
  | some count =>
      let part := fun (content : Bytes) =>
        if isBytes then
          content.take (if isBut then content.length - count else count)
        else
          takeLines ending (if isBut then lineCount ending content - count else count) content
      let keeps := (isBytes && !isBut) || (← get).isFile
      withTitles parsed Job.whenOpening fun content => do
        let shown := part content
        -- Of the input, what is not passed on may be left for others.
        if keeps && parsed.operands.isEmpty then
          modify fun work => { work with input := content.drop shown.length }
        Job.print shown

def tail (call : Call) : Job Nat := do
  let table := OptionTable.ofText "c:n:qvzfFs:"
    [("bytes", 'c'), ("lines", 'n'), ("quiet", 'q'), ("silent", 'q'), ("verbose", 'v'),
      ("zero-terminated", 'z'), ("follow", 'f'), ("sleep-interval", 's')]
  let parsed ← table.read {} (expandCount [45, 43] call.arguments)
  let isBytes := parsed.last? ['c', 'n'] == some 'c'
  let word := (parsed.value? (if isBytes then 'c' else 'n')).getD [49, 48]
  let isFrom := word.head? == some 43
  let digits := if isFrom || word.head? == some 45 then word.tail else word
  let ending := if parsed.has 'z' then 0 else 10
  match multiple? digits with
  | none => failCount isBytes digits
  | some count =>
      let part := fun (content : Bytes) =>
        let size := if isBytes then content.length else lineCount ending content
        let skipped := if isFrom then count - 1 else size - count
        if isBytes then content.drop skipped else dropLines ending skipped content
      withTitles parsed Job.whenOpening fun content => Job.print (part content)

/-! Counting -/

/-- How many words a text has: runs of bytes that are not blank, with a byte that can be seen in
each. -/
def wordCount (text : Bytes) : Nat :=
  let add := fun (state : Nat × Bool) (b : UInt8) =>
    if isSpace b then (state.1, false)
    else if state.2 || b < 33 || 126 < b then state
    else (state.1 + 1, true)
  (text.foldl add (0, false)).1

def widest (most current : Nat) : Bytes → Nat
  | [] => max most current
  | b :: rest =>
      if b = 10 || b = 13 || b = 12 then widest (max most current) 0 rest
      else if b = 9 then widest most (current + 8 - current % 8) rest
      else if 32 ≤ b && b ≤ 126 then widest most (current + 1) rest
      else widest most current rest

def wc (call : Call) : Job Nat := do
  let table := OptionTable.ofText "clmwLt:"
    [("bytes", 'c'), ("lines", 'l'), ("chars", 'm'), ("words", 'w'), ("max-line-length", 'L'),
      ("total", 't')]
  let parsed ← table.read {} call.arguments
  let asked := ['l', 'w', 'm', 'c', 'L'].filter parsed.has
  let letters := if asked.isEmpty then ['l', 'w', 'c'] else asked
  let countsOf := fun (content : Bytes) => letters.map fun letter =>
    if letter = 'l' then content.count 10
    else if letter = 'w' then wordCount content
    else if letter = 'L' then widest 0 0 content
    else content.length
  let files := if parsed.operands.isEmpty then [[45]] else parsed.operands
  let work ← get
  let size? := fun (file : Bytes) =>
    if file = [45] then (if work.isFile then some work.input.length else none)
    else (work.volume.readBytes (Utf8.decodeLenient file)).toOption.map List.length
  let known := files.filter fun file =>
    file = [45] || work.volume.itemExists (Utf8.decodeLenient file)
  let sizes := known.map size?
  let total := (sizes.filterMap id).foldl (· + ·) 0
  let width :=
    if files.length = 1 && letters.length = 1 then 1
    else max (if sizes.contains none then 7 else 1) (textOf total).length
  let line := fun (counts : List Nat) (name : Bytes) =>
    let columns := counts.map fun count => padLeft width (textOf count)
    ([32] : Bytes).intercalate columns ++ (if name.isEmpty then [] else 32 :: name) ++ [10]
  let mut status := 0
  let mut sums := letters.map fun _ => 0
  for file in files do
    match ← Job.read file with
    | .ok content =>
        let counts := countsOf content
        sums := (letters.zip (sums.zip counts)).map fun (letter, sum, count) =>
          if letter = 'L' then max sum count else sum + count
        Job.print (line counts (if parsed.operands.isEmpty then [] else file))
    | .error error =>
        Job.complain (Job.plainly error file)
        status := 1
        if error = .isDirectory then
          Job.print (line (letters.map fun _ => 0) file)
  let whenTotal := (parsed.value? 't').map Utf8.decodeLenient
  if whenTotal = some "always" || (1 < files.length && whenTotal ≠ some "never") then
    Job.print (line sums (Utf8.encode "total"))
  return status

def nl (call : Call) : Job Nat := do
  let table := OptionTable.ofText "b:d:f:h:i:l:n:ps:v:w:"
    [("body-numbering", 'b'), ("section-delimiter", 'd'), ("footer-numbering", 'f'),
      ("header-numbering", 'h'), ("line-increment", 'i'), ("join-blank-lines", 'l'),
      ("number-format", 'n'), ("no-renumber", 'p'), ("number-separator", 's'),
      ("starting-line-number", 'v'), ("number-width", 'w')]
  let parsed ← table.read {} call.arguments
  let number := fun (letter : Char) (usual : Nat) =>
    ((parsed.value? letter).bind decimal?).getD usual
  let width := number 'w' 6
  let separator := (parsed.value? 's').getD [9]
  let numbersAll := parsed.value? 'b' == some [97]
  let numbersNone := parsed.value? 'b' == some [110]
  let (texts, failures) ← Job.readAll parsed.operands Job.plainly
  let mut next := number 'v' 1
  for line in linesOf (texts.map (·.2)).flatten do
    if !numbersNone && (numbersAll || !line.isEmpty) then
      let digits := textOf next
      let column :=
        match (parsed.value? 'n').map Utf8.decodeLenient with
        | some "ln" => padRight width digits
        | some "rz" => List.replicate (width - digits.length) 48 ++ digits
        | _ => padLeft width digits
      Job.print (column ++ separator ++ line ++ [10])
      next := next + number 'i' 1
    else
      Job.print (List.replicate (width + separator.length) 32 ++ line ++ [10])
  return if failures = 0 then 0 else 1

/-! Changing lines -/

def foldText (width : Nat) (countsBytes : Bool) (text : Bytes) : Bytes :=
  let after := fun (b : UInt8) (column : Nat) =>
    if countsBytes then column + 1
    else if b = 9 then column + 8 - column % 8
    else if b = 8 then column - 1
    else if b = 13 then 0
    else column + 1
  let add := fun (state : Bytes × Nat) (b : UInt8) =>
    let (text, column) := state
    if b = 10 then (b :: text, 0)
    else if width < after b column && 0 < column then (b :: 10 :: text, after b 0)
    else (b :: text, after b column)
  (text.foldl add ([], 0)).1.reverse

def foldWords (width : Nat) (fuel : Nat) (line : Bytes) : List Bytes :=
  match fuel with
  | 0 => [line]
  | fuel + 1 =>
      if line.length ≤ width then
        [line]
      else
        let front := line.take width
        let kept := front.reverse.dropWhile fun b => b != 32 && b != 9
        let size := if kept.isEmpty then width else kept.length
        line.take size :: foldWords width fuel (line.drop size)

def fold (call : Call) : Job Nat := do
  let table := OptionTable.ofText "bsw:" [("bytes", 'b'), ("spaces", 's'), ("width", 'w')]
  let shortened := call.arguments.map fun word =>
    match word with
    | 45 :: b :: _ => if 48 ≤ b && b ≤ 57 then 45 :: 119 :: word.tail else word
    | word => word
  let parsed ← table.read {} shortened
  let word := (parsed.value? 'w').getD [56, 48]
  match decimal? word with
  | none => Job.fail 1 (Utf8.encode "invalid number of columns: '" ++ word ++ [39])
  | some width =>
      Job.forEach parsed.operands Job.plainly fun _ content =>
        if parsed.has 's' then
          let lines := (content.splitOn 10).map fun line =>
            ([10] : Bytes).intercalate (foldWords (max width 1) (line.length + 1) line)
          Job.print (([10] : Bytes).intercalate lines)
        else
          Job.print (foldText width (parsed.has 'b') content)

def runsOf (key : Bytes → Bytes) : List Bytes → List (Bytes × List Bytes)
  | [] => []
  | line :: lines =>
      match runsOf key lines with
      | (first, run) :: runs =>
          if key first = key line then (line, first :: run) :: runs
          else (line, []) :: (first, run) :: runs
      | [] => [(line, [])]

def lowerByte (b : UInt8) : UInt8 :=
  if 65 ≤ b && b ≤ 90 then b + 32 else b

def uniq (call : Call) : Job Nat := do
  let table := OptionTable.ofText "cdDf:is:uw:z"
    [("count", 'c'), ("repeated", 'd'), ("skip-fields", 'f'), ("ignore-case", 'i'),
      ("skip-chars", 's'), ("unique", 'u'), ("check-chars", 'w'), ("zero-terminated", 'z')]
  let parsed ← table.read {} call.arguments
  let number := fun (letter : Char) => (parsed.value? letter).bind decimal?
  let skipField := fun (line : Bytes) =>
    (line.dropWhile fun b => b = 32 || b = 9).dropWhile fun b => b ≠ 32 && b ≠ 9
  let key := fun (line : Bytes) =>
    let line := (List.range ((number 'f').getD 0)).foldl (fun line _ => skipField line) line
    let line := line.drop ((number 's').getD 0)
    let line := match number 'w' with
      | some most => line.take most
      | none => line
    if parsed.has 'i' then line.map lowerByte else line
  let ending := if parsed.has 'z' then 0 else 10
  match parsed.operands with
  | _ :: _ :: extra :: _ => Job.failUsage 1 (Utf8.encode "extra operand '" ++ extra ++ [39])
  | operands =>
      let file := operands.head?.getD [45]
      match ← Job.read file with
      | .error error => Job.fail 1 (Job.plainly error file)
      | .ok content =>
          let runs := runsOf key (partsBefore ending content)
          let shown := runs.flatMap fun (line, others) =>
            let count := others.length + 1
            if parsed.has 'D' then
              if count = 1 then [] else (line :: others).map (· ++ [ending])
            else if (parsed.has 'd' && count = 1) || (parsed.has 'u' && 1 < count) then
              []
            else if parsed.has 'c' then
              [padLeft 7 (textOf count) ++ 32 :: line ++ [ending]]
            else
              [line ++ [ending]]
          match operands with
          | [_, target] =>
              match ← Job.write target shown.flatten false with
              | .ok _ => return 0
              | .error error => Job.fail 1 (Job.plainly error target)
          | _ =>
              Job.print shown.flatten
              return 0

end Utility

end Reparse
