import Reparse.Utility.Lines

namespace Reparse

namespace Utility

/-! Cutting -/

structure Span where
  first : Nat
  last : Option Nat

namespace Span

def holds (span : Span) (number : Nat) : Bool :=
  span.first ≤ number && (match span.last with
    | some last => number ≤ last
    | none => true)

def readAll (isField : Bool) (text : Bytes) : Job (List Span) := do
  let unit := if isField then "field" else "byte/character position"
  let mut spans := []
  for part in text.splitOnP fun b => b = 44 || b = 32 do
    let low := part.takeWhile (· != 45)
    let rest := part.drop low.length
    let isRange := !rest.isEmpty
    let high := rest.tail
    let value := fun (digits : Bytes) =>
      match decimal? digits with
      | some value => (pure value : Job Nat)
      | none =>
          let noun := if isField then "field value" else "byte or character position"
          Job.failUsage 1 (Utf8.encode s!"invalid {noun} '" ++ digits ++ [39])
    if low.isEmpty && high.isEmpty then
      if isRange then
        Job.failUsageText 1 "invalid range with no endpoint: -"
      else
        Job.failUsageText 1 (if isField then "fields are numbered from 1"
          else "byte/character positions are numbered from 1")
    else
      let first ← if low.isEmpty then pure 1 else value low
      let last ←
        if !isRange then pure (some first)
        else if high.isEmpty then pure none
        else do pure (some (← value high))
      if first = 0 then
        Job.failUsageText 1 (if isField then "fields are numbered from 1"
          else s!"{unit}s are numbered from 1")
      if last.any (· < first) then
        Job.failUsageText 1 "invalid decreasing range"
      spans := ⟨first, last⟩ :: spans
  return spans

end Span

def cut (call : Call) : Job Nat := do
  let table := OptionTable.ofText "b:c:d:f:nsCO:z"
    [("bytes", 'b'), ("characters", 'c'), ("delimiter", 'd'), ("fields", 'f'),
      ("only-delimited", 's'), ("complement", 'C'), ("output-delimiter", 'O'),
      ("zero-terminated", 'z')]
  let parsed ← table.read {} call.arguments
  let lists := parsed.options.filter fun option => ['b', 'c', 'f'].contains option.1
  match lists with
  | [] => Job.failUsageText 1 "you must specify a list of bytes, characters, or fields"
  | _ :: _ :: _ => Job.failUsageText 1 "only one list may be specified"
  | [(letter, list)] => do
      let isField := letter = 'f'
      let delimiter := (parsed.value? 'd').getD [9]
      if isField && 1 < delimiter.length then
        Job.failUsageText 1 "the delimiter must be a single character"
      let spans ← Span.readAll isField list
      if !isField && parsed.has 'd' then
        Job.failUsageText 1 "an input delimiter may be specified only when operating on fields"
      if !isField && parsed.has 's' then
        Job.failUsageText 1
          "suppressing non-delimited lines makes sense\n\tonly when operating on fields"
      let chosen := fun (index : Nat) =>
        (spans.any fun span => span.holds (index + 1)) != parsed.has 'C'
      let mark := delimiter.head?.getD 0
      let joint := (parsed.value? 'O').getD (if isField then [mark] else [])
      let ending := if parsed.has 'z' then 0 else 10
      Job.forEach parsed.operands Job.plainly fun _ content => do
        let lines := (partsBefore ending content).filterMap fun line =>
          if isField then
            if !line.contains mark then
              if parsed.has 's' then none else some line
            else
              let fields := (line.splitOn mark).zipIdx.filter fun field => chosen field.2
              some (joint.intercalate (fields.map (·.1)))
          else
            let kept := line.zipIdx.filter fun entry => chosen entry.2
            -- Where a joint is given, it stands between parts that were apart.
            let add := fun (state : Bytes × Option Nat) (entry : UInt8 × Nat) =>
              let isApart := state.2.any fun last => last + 1 < entry.2
              (entry.1 :: ((if isApart then joint.reverse else []) ++ state.1), some entry.2)
            some (kept.foldl add ([], none)).1.reverse
        Job.print (lines.flatMap (· ++ [ending]))

def paste (call : Call) : Job Nat := do
  let table := OptionTable.ofText "d:sz"
    [("delimiters", 'd'), ("serial", 's'), ("zero-terminated", 'z')]
  let parsed ← table.read {} call.arguments
  let unescaped := (unescape (parsed.value? 'd' |>.getD [9]))
  let joints : List Bytes := if unescaped.isEmpty then [[]] else unescaped
  let joint := fun (index : Nat) => joints[index % joints.length]?.getD []
  let files := if parsed.operands.isEmpty then [[45]] else parsed.operands
  let inputs := (files.filter (· == [45])).length
  let (texts, failures) ← Job.readAll files Job.plainly
  let ending := if parsed.has 'z' then 0 else 10
  if 0 < failures && !parsed.has 's' then
    return 1
  let join := fun (fields : List Bytes) =>
    let parts := fields.zipIdx.map fun (field, index) =>
      if index = 0 then field else joint (index - 1) ++ field
    parts.flatten ++ [ending]
  if parsed.has 's' then
    for (_, content) in texts do
      Job.print (join (partsBefore ending content))
  else
    -- Several mentions of the input share its lines.
    let input := ((texts.find? fun text => text.1 = [45]).map (·.2)).getD []
    let shared := partsBefore ending input
    let mut columns := []
    let mut seen := 0
    for (file, content) in texts do
      if file = [45] then
        let turn := seen
        columns := (shared.zipIdx.filter fun line => line.2 % inputs = turn).map (·.1) :: columns
        seen := seen + 1
      else
        columns := partsBefore ending content :: columns
    let beside := columns.reverse
    let height := beside.foldl (fun most column => max most column.length) 0
    for row in List.range height do
      Job.print (join (beside.map fun column => column[row]?.getD []))
  return if failures = 0 then 0 else 1
where
  unescape : Bytes → List Bytes
    | [] => []
    | 92 :: b :: rest =>
        let sign : Bytes :=
          match Char.ofNat b.toNat with
          | 'n' => [10]
          | 't' => [9]
          | '0' => []
          | _ => [b]
        sign :: unescape rest
    | b :: rest => [b] :: unescape rest

/-! Order -/

structure SortStyle where
  isReversed : Bool := false
  isNumeric : Bool := false
  isGeneral : Bool := false
  isHuman : Bool := false
  isVersion : Bool := false
  isMonth : Bool := false
  foldsCase : Bool := false
  skipsBlanks : Bool := false
  dictionary : Bool := false
  printing : Bool := false

/-- A part of lines by which they are sorted: the field and the byte where it starts and where it
ends, with zero for the end of the field. -/
structure SortKey where
  firstField : Nat
  firstByte : Nat
  lastField : Option Nat
  lastByte : Nat
  style : SortStyle
  skipsLastBlanks : Bool := false

namespace SortStyle

def add (style : SortStyle) (letter : Char) : SortStyle :=
  match letter with
  | 'r' => { style with isReversed := true }
  | 'n' => { style with isNumeric := true }
  | 'g' => { style with isGeneral := true }
  | 'h' => { style with isHuman := true }
  | 'V' => { style with isVersion := true }
  | 'M' => { style with isMonth := true }
  | 'f' => { style with foldsCase := true }
  | 'b' => { style with skipsBlanks := true }
  | 'd' => { style with dictionary := true }
  | 'i' => { style with printing := true }
  | _ => style

def letters : List Char := ['r', 'n', 'g', 'h', 'V', 'M', 'f', 'b', 'd', 'i']

def number (text : Bytes) : Int × Nat :=
  let text := text.dropWhile fun b => b = 32 || b = 9
  let (isNegative, text) :=
    match text with
    | 45 :: rest => (true, rest)
    | rest => (false, rest)
  let isDigit := fun (b : UInt8) => 48 ≤ b && b ≤ 57
  let whole := text.takeWhile isDigit
  let fraction :=
    match text.drop whole.length with
    | 46 :: rest => rest.takeWhile isDigit
    | _ => []
  let value : Nat := (whole ++ fraction).foldl (fun total b => total * 10 + (b.toNat - 48)) 0
  (if isNegative then -(value : Int) else value, fraction.length)

def compareInts (left right : Int) : Ordering :=
  if left < right then .lt else if right < left then .gt else .eq

def compareNumbers (left right : Int × Nat) : Ordering :=
  compareInts (left.1 * powerOfTen right.2) (right.1 * powerOfTen left.2)

def magnitude (text : Bytes) : Nat :=
  let rest := (text.dropWhile fun b => b = 32 || b = 9).dropWhile fun b =>
    b = 45 || b = 46 || (48 ≤ b && b ≤ 57)
  match (rest.head?.map fun b => Char.ofNat b.toNat) with
  | some 'k' => 1
  | some 'K' => 1
  | some 'M' => 2
  | some 'G' => 3
  | some 'T' => 4
  | some 'P' => 5
  | some 'E' => 6
  | _ => 0

def month (text : Bytes) : Nat :=
  let text := text.dropWhile fun b => b = 32 || b = 9
  let name := (Utf8.decodeLenient (text.take 3)).toList.map Char.toUpper |> String.ofList
  ((["JAN", "FEB", "MAR", "APR", "MAY", "JUN", "JUL", "AUG", "SEP", "OCT", "NOV",
    "DEC"].findIdx? (· == name)).map (· + 1)).getD 0

def runs (text : Bytes) : List Bytes :=
  let isDigit := fun (b : UInt8) => 48 ≤ b && b ≤ 57
  text.foldr
    (fun b found =>
      match found with
      | (c :: run) :: others =>
          if isDigit b == isDigit c then (b :: c :: run) :: others else [b] :: (c :: run) :: others
      | _ => [[b]])
    []

def compareVersions : List Bytes → List Bytes → Ordering
  | [], [] => .eq
  | [], _ => .lt
  | _, [] => .gt
  | left :: lefts, right :: rights =>
      let result :=
        match decimal? left, decimal? right with
        | some left, some right => compare left right
        | _, _ => compareBytes left right
      result.then (compareVersions lefts rights)
where
  compareBytes (left right : Bytes) : Ordering :=
    if left == right then .eq else if left < right then .lt else .gt

def compareKeys (style : SortStyle) (left right : Bytes) : Ordering :=
  let prepare := fun (text : Bytes) =>
    let text := if style.dictionary then
        text.filter fun b => b = 32 || b = 9 || (48 ≤ b && b ≤ 57) || (65 ≤ b && b ≤ 90) ||
          (97 ≤ b && b ≤ 122)
      else
        text
    let text := if style.printing then text.filter fun b => 32 ≤ b && b ≤ 126 else text
    if style.foldsCase then text.map fun b => if 97 ≤ b && b ≤ 122 then b - 32 else b else text
  let result :=
    if style.isNumeric then
      compareNumbers (number left) (number right)
    else if style.isHuman then
      let rank := fun (text : Bytes) =>
        let value := (number text).1
        if value < 0 then -(magnitude text : Int) else magnitude text
      (compare (number left).1.sign (number right).1.sign).then
        ((compare (rank left) (rank right)).then (compareNumbers (number left) (number right)))
    else if style.isGeneral then
      compareNumbers (general left) (general right)
    else if style.isMonth then
      compare (month left) (month right)
    else if style.isVersion then
      compareVersions (runs left) (runs right)
    else
      compareVersions.compareBytes (prepare left) (prepare right)
  if style.isReversed then result.swap else result
where
  general (text : Bytes) : Int × Nat :=
    let (value, places) := number text
    let isDigit := fun (b : UInt8) => 48 ≤ b && b ≤ 57
    let rest := (text.dropWhile fun b => b = 32 || b = 9).dropWhile fun b =>
      b = 45 || b = 46 || isDigit b
    match rest with
    | e :: after =>
        if e = 101 || e = 69 then
          let (isBelow, digits) :=
            match after with
            | 45 :: digits => (true, digits)
            | 43 :: digits => (false, digits)
            | digits => (false, digits)
          let power := ((decimal? (digits.takeWhile isDigit)).getD 0)
          if isBelow then (value, places + min power 400)
          else (value * powerOfTen (min power 400), places)
        else
          (value, places)
    | [] => (value, places)

end SortStyle

namespace SortKey

def fieldBounds (separator : Option UInt8) (line : Bytes) : List (Nat × Nat) :=
  match separator with
  | some mark =>
      let add := fun (state : List (Nat × Nat) × Nat) (field : Bytes) =>
        ((state.2, state.2 + field.length) :: state.1, state.2 + field.length + 1)
      ((line.splitOn mark).foldl add ([], 0)).1.reverse
  | none =>
      -- Blanks belong to the field after them.
      let isBlank := fun (b : UInt8) => b = 32 || b = 9 || b = 10
      let add := fun (state : List (Nat × Nat) × Nat × Bool) (entry : UInt8 × Nat) =>
        let (found, start, inside) := state
        if isBlank entry.1 && inside then ((start, entry.2) :: found, entry.2, false)
        else (found, start, inside || !isBlank entry.1)
      let (found, start, _) := line.zipIdx.foldl add ([], 0, false)
      ((start, line.length) :: found).reverse

def part (key : SortKey) (separator : Option UInt8) (line : Bytes) : Bytes :=
  let bounds := fieldBounds separator line
  let isBlank := fun (b : UInt8) => b = 32 || b = 9
  let skip := fun (start : Nat) => start + ((line.drop start).takeWhile isBlank).length
  let start :=
    match bounds[key.firstField - 1]? with
    | some (start, _) => (if key.style.skipsBlanks then skip start else start) + (key.firstByte - 1)
    | none => line.length
  let stop :=
    match key.lastField with
    | none => line.length
    | some field =>
        match bounds[field - 1]? with
        | some (first, last) =>
            if key.lastByte = 0 then last
            else (if key.skipsLastBlanks then skip first else first) + key.lastByte
        | none => line.length
  (line.take stop).drop (min start line.length)

def readNumber (text : Bytes) : Option Nat × Bytes :=
  let digits := text.takeWhile fun b => 48 ≤ b && b ≤ 57
  (decimal? digits, text.drop digits.length)

def read (usual : SortStyle) (text : Bytes) : Job SortKey := do
  let fault := fun (reason : String) => Job.fail 2 (Utf8.encode s!"{reason} '" ++ text ++ [39])
  let place := fun (what : String) (text : Bytes) => do
    match readNumber text with
    | (some field, 46 :: rest) =>
        match readNumber rest with
        | (some byte, rest) => pure (field, some byte, rest)
        | (none, _) =>
            Job.fail 2 (Utf8.encode "invalid number after '.': invalid count at start of '" ++
            rest ++ [39])
    | (some field, rest) => pure (field, none, rest)
    | (none, _) =>
        Job.fail 2 (Utf8.encode s!"invalid number {what}: invalid count at start of '" ++ text ++
          [39])
  let options := fun (text : Bytes) =>
    let used := text.takeWhile fun b => SortStyle.letters.contains (Char.ofNat b.toNat)
    (used.map fun b => Char.ofNat b.toNat, text.drop used.length)
  let (firstField, firstByte, rest) ← place "at field start" text
  if firstField = 0 then
    fault "field number is zero: invalid field specification"
  if firstByte = some 0 then
    fault "character offset is zero: invalid field specification"
  let (firstLetters, rest) := options rest
  let (last, rest) ←
    match rest with
    | 44 :: rest => do
        let (field, byte, rest) ← place "after ','" rest
        pure (some (field, byte.getD 0), rest)
    | rest => pure (none, rest)
  let (lastLetters, rest) := options rest
  if !rest.isEmpty then
    fault "stray character in field spec: invalid field specification"
  if last.any fun place => place.1 = 0 then
    fault "field number is zero: invalid field specification"
  let letters := firstLetters ++ lastLetters.filter (· != 'b')
  let own := letters.foldl SortStyle.add {}
  let hasOwn := !(firstLetters ++ lastLetters).isEmpty
  return {
    firstField := firstField
    firstByte := firstByte.getD 1
    lastField := last.map (·.1)
    lastByte := (last.map (·.2)).getD 0
    style := if hasOwn then own else usual
    skipsLastBlanks := if hasOwn then lastLetters.contains 'b' else usual.skipsBlanks }

end SortKey

def sort (call : Call) : Job Nat := do
  let table := { OptionTable.ofText "bcCdfghik:mMno:rRsS:t:T:uVz"
      [("ignore-leading-blanks", 'b'), ("check", 'c'), ("dictionary-order", 'd'),
        ("ignore-case", 'f'), ("general-numeric-sort", 'g'), ("human-numeric-sort", 'h'),
        ("ignore-nonprinting", 'i'), ("key", 'k'), ("merge", 'm'), ("month-sort", 'M'),
        ("numeric-sort", 'n'), ("output", 'o'), ("reverse", 'r'), ("random-sort", 'R'),
        ("stable", 's'), ("buffer-size", 'S'), ("field-separator", 't'),
        ("temporary-directory", 'T'), ("unique", 'u'), ("version-sort", 'V'),
        ("zero-terminated", 'z')] with
    wrong := 2 }
  let parsed ← table.read {} call.arguments
  let usual := (parsed.options.map (·.1)).foldl SortStyle.add {}
  let separator ←
    match parsed.value? 't' with
    | none => pure none
    | some [b] => pure (some b)
    | some [92, 48] => pure (some 0)
    | some [] => Job.failText 2 "empty tab"
    | some word => Job.fail 2 (Utf8.encode "multi-character tab '" ++ word ++ [39])
  let keys ← (parsed.values 'k').mapM (SortKey.read usual)
  let ending := if parsed.has 'z' then 0 else 10
  let mut texts := []
  for file in if parsed.operands.isEmpty then [[45]] else parsed.operands do
    match ← Job.read file with
    | .ok content => texts := content :: texts
    | .error error =>
        let verb := if error = .isDirectory then "read failed: " else "cannot read: "
        Job.fail 2 (Utf8.encode verb ++ Job.plainly error file)
  let lines := texts.reverse.flatMap (partsBefore ending)
  let compareLines := fun (left right : Bytes) =>
    if keys.isEmpty then
      usual.compareKeys (trim usual left) (trim usual right)
    else
      keys.foldl
        (fun result key => result.then
          (key.style.compareKeys (key.part separator left) (key.part separator right)))
        .eq
  let isTieSettled := parsed.has 's' || parsed.has 'u'
  let settled := fun (left right : Bytes) =>
    let last := SortStyle.compareVersions.compareBytes left right
    let last := if usual.isReversed then last.swap else last
    if isTieSettled then compareLines left right else (compareLines left right).then last
  if parsed.has 'c' || parsed.has 'C' then
    let pairs := (lines.zip (lines.drop 1)).zipIdx
    let isWrong := fun (left right : Bytes) =>
      let result := settled left right
      result = .gt || (parsed.has 'u' && result = .eq)
    match pairs.find? fun ((left, right), _) => isWrong left right with
    | none => return 0
    | some ((_, right), index) =>
        if parsed.has 'c' then
          let file := parsed.operands.head?.getD [45]
          Job.complain (file ++ Utf8.encode s!":{index + 2}: disorder: " ++ right)
        return 1
  else
    let sorted := lines.mergeSort fun left right => settled left right != .gt
    let kept :=
      if parsed.has 'u' then
        let add := fun (found : List Bytes) (line : Bytes) =>
          match found with
          | last :: _ => if compareLines last line = .eq then found else line :: found
          | [] => [line]
        (sorted.foldl add []).reverse
      else
        sorted
    let text := kept.flatMap (· ++ [ending])
    match parsed.value? 'o' with
    | none =>
        Job.print text
        return 0
    | some file =>
        match ← Job.write file text false with
        | .ok _ => return 0
        | .error error => Job.fail 2 (Utf8.encode "open failed: " ++ Job.plainly error file)
where
  trim (style : SortStyle) (line : Bytes) : Bytes :=
    if style.skipsBlanks then line.dropWhile fun b => b = 32 || b = 9 else line

def compareFiles (fuel : Nat) (left right : List Bytes) : List (Nat × Bytes) :=
  match fuel, left, right with
  | 0, _, _ => []
  | _, [], right => right.map (2, ·)
  | _, left, [] => left.map (1, ·)
  | fuel + 1, a :: left, b :: right =>
      if a = b then (3, a) :: compareFiles fuel left right
      else if a < b then (1, a) :: compareFiles fuel left (b :: right)
      else (2, b) :: compareFiles fuel (a :: left) right

def comm (call : Call) : Job Nat := do
  let table := OptionTable.ofText "123zO:"
    [("output-delimiter", 'O'), ("zero-terminated", 'z')]
  let parsed ← table.read {} call.arguments
  match parsed.operands with
  | [] => Job.failUsageText 1 "missing operand"
  | [only] => Job.failUsage 1 (Utf8.encode "missing operand after '" ++ only ++ [39])
  | first :: second :: _ =>
      let (texts, failures) ← Job.readAll [first, second] Job.plainly
      match texts with
      | [(_, left), (_, right)] =>
          let left := linesOf left
          let right := linesOf right
          let joint := (parsed.value? 'O').getD [9]
          let shown := fun (column : Nat) =>
            !parsed.has (Char.ofNat (48 + column))
          for (column, line) in compareFiles (left.length + right.length + 1) left right do
            if shown column then
              let before := ((List.range column).drop 1).filter shown
              Job.print (before.flatMap (fun _ => joint) ++ line ++ [10])
          return 0
      | _ => return min failures 1

/-! Single bytes -/

def classBytes? (name : String) : Option Bytes :=
  let all := (List.range 256).map Nat.toUInt8
  let isLower := fun (b : UInt8) => 97 ≤ b && b ≤ 122
  let isUpper := fun (b : UInt8) => 65 ≤ b && b ≤ 90
  let isDigit := fun (b : UInt8) => 48 ≤ b && b ≤ 57
  let isLetter := fun (b : UInt8) => isLower b || isUpper b
  let test? : Option (UInt8 → Bool) :=
    match name with
    | "alpha" => some isLetter
    | "digit" => some isDigit
    | "alnum" => some fun b => isLetter b || isDigit b
    | "upper" => some isUpper
    | "lower" => some isLower
    | "space" => some isSpace
    | "blank" => some fun b => b = 32 || b = 9
    | "punct" => some fun b => 33 ≤ b && b ≤ 126 && !isLetter b && !isDigit b
    | "print" => some fun b => 32 ≤ b && b ≤ 126
    | "graph" => some fun b => 33 ≤ b && b ≤ 126
    | "cntrl" => some fun b => b < 32 || b = 127
    | "xdigit" => some fun b => isDigit b || (65 ≤ b && b ≤ 70) || (97 ≤ b && b ≤ 102)
    | _ => none
  test?.map all.filter

inductive SetPart where
  | bytes (content : Bytes)
  /-- A class whose letters change between upper and lower case with those of another. -/
  | letters (isUpper : Bool)
  | repeated (b : UInt8) (count : Nat)

def readSetByte : Bytes → Option (UInt8 × Bool × Bytes)
  | [] => none
  | 92 :: b :: rest =>
      let letter : Option UInt8 :=
        match Char.ofNat b.toNat with
        | 'a' => some 7
        | 'b' => some 8
        | 'f' => some 12
        | 'n' => some 10
        | 'r' => some 13
        | 't' => some 9
        | 'v' => some 11
        | '\\' => some 92
        | _ => none
      match letter with
      | some byte => some (byte, true, rest)
      | none =>
          if 48 ≤ b && b ≤ 55 then
            let digits := ((b :: rest).take 3).takeWhile fun b => 48 ≤ b && b ≤ 55
            let value : Nat := digits.foldl (fun total b => total * 8 + (b.toNat - 48)) 0
            some (value.toUInt8, true, (b :: rest).drop digits.length)
          else
            some (b, true, rest)
  | b :: rest => some (b, false, rest)

def readSet (fuel : Nat) (text : Bytes) : Job (List SetPart) := do
  match fuel, text with
  | 0, _ => return []
  | _, [] => return []
  | fuel + 1, 91 :: 58 :: rest =>
      let name := rest.takeWhile (· != 58)
      match rest.drop name.length with
      | 58 :: 93 :: after =>
          let part ←
            match Utf8.decodeLenient name with
            | "upper" => pure (SetPart.letters true)
            | "lower" => pure (SetPart.letters false)
            | text =>
                match classBytes? text with
                | some bytes => pure (SetPart.bytes bytes)
                | none => Job.fail 1 (Utf8.encode "invalid character class '" ++ name ++ [39])
          return part :: (← readSet fuel after)
      | _ => return .bytes [91] :: (← readSet fuel (58 :: rest))
  | fuel + 1, 91 :: 61 :: b :: 61 :: 93 :: rest => return .bytes [b] :: (← readSet fuel rest)
  | fuel + 1, text =>
      let repeated? :=
        match text with
        | 91 :: rest =>
            match readSetByte rest with
            | some (b, _, 42 :: rest) =>
                let digits := rest.takeWhile fun b => 48 ≤ b && b ≤ 57
                match rest.drop digits.length with
                | 93 :: after =>
                    let isOctal := digits.head? == some 48
                    let value := digits.foldl
                      (fun (total : Nat) (b : UInt8) =>
                        total * (if isOctal then 8 else 10) + (b.toNat - 48)) 0
                    some (b, value, after)
                | _ => none
            | _ => none
        | _ => none
      match repeated? with
      | some (b, count, after) => return .repeated b count :: (← readSet fuel after)
      | none =>
          match readSetByte text with
          | none => return []
          | some (low, _, 45 :: rest) =>
              match readSetByte rest with
              | none => return .bytes [low] :: (← readSet fuel (45 :: rest))
              | some (high, _, after) =>
                  if high < low then
                    let shown := fun (b : UInt8) => if 32 ≤ b && b ≤ 126 then [b] else
                      Utf8.encode (String.ofList ('\\' :: octal b))
                    Job.fail 1 (Utf8.encode "range-endpoints of '" ++ shown low ++ [45] ++
                      shown high ++
                      Utf8.encode "' are in reverse collating sequence order")
                  else
                    let range := (List.range (high.toNat + 1 - low.toNat)).map fun (offset : Nat) =>
                      low + offset.toUInt8
                    return .bytes range :: (← readSet fuel after)
          | some (b, _, rest) => return .bytes [b] :: (← readSet fuel rest)
where
  octal (b : UInt8) : List Char :=
    let digits := Nat.toDigits 8 b.toNat
    List.replicate (3 - digits.length) '0' ++ digits

namespace SetPart

/-- The bytes of a set; a repetition without a number fills it up to a length. -/
def bytesOf (length : Nat) (parts : List SetPart) : Bytes :=
  let size := fun (part : SetPart) =>
    match part with
    | .bytes content => content.length
    | .letters _ => 26
    | .repeated _ count => count
  let total := (parts.map size).foldl (· + ·) 0
  parts.flatMap fun
    | .bytes content => content
    | .letters isUpper =>
        (List.range 26).map fun index => (index + if isUpper then 65 else 97).toUInt8
    | .repeated b count => List.replicate (if count = 0 then length - total else count) b

end SetPart

def squeeze (isSqueezed : UInt8 → Bool) (text : Bytes) : Bytes :=
  let add := fun (found : Bytes) (b : UInt8) =>
    if found.head? == some b && isSqueezed b then found else b :: found
  (text.foldl add []).reverse

def tr (call : Call) : Job Nat := do
  let table := { OptionTable.ofText "cCdst"
      [("complement", 'c'), ("delete", 'd'), ("squeeze-repeats", 's'), ("truncate-set1", 't')] with
    isStrict := true }
  let parsed ← table.read {} call.arguments
  let deletes := parsed.has 'd'
  let squeezes := parsed.has 's'
  let isComplement := parsed.has 'c' || parsed.has 'C'
  let most := if deletes && !squeezes then 1 else 2
  let least := if deletes == squeezes then 2 else 1
  match parsed.operands with
  | [] => Job.failUsageText 1 "missing operand"
  | operands =>
      if operands.length < least then
        Job.complain (Utf8.encode "missing operand after '" ++ operands.getLast?.getD [] ++ [39])
        Job.mutter (Utf8.encode (if deletes then
            "Two strings must be given when both deleting and squeezing repeats.\n"
          else
            "Two strings must be given when translating.\n"))
        Job.mutter (Utf8.encode "Try 'tr --help' for more information.\n")
        return 1
      if most < operands.length then
        Job.complain (Utf8.encode "extra operand '" ++ operands[most]?.getD [] ++ [39])
        if most = 1 then
          Job.mutter (Utf8.encode
            "Only one string may be given when deleting without squeezing repeats.\n")
        Job.mutter (Utf8.encode "Try 'tr --help' for more information.\n")
        return 1
      let firstText := operands.head?.getD []
      let firstParts ← readSet (firstText.length + 1) firstText
      let plain := SetPart.bytesOf 0 firstParts
      let first :=
        if isComplement then
          ((List.range 256).map Nat.toUInt8).filter fun b => !plain.contains b
        else
          plain
      match operands[1]? with
      | none =>
          let input ← Job.takeInput
          if deletes then Job.print (input.filter fun b => !first.contains b)
          else Job.print (squeeze first.contains input)
          return 0
      | some secondText =>
          let secondParts ← readSet (secondText.length + 1) secondText
          let second := SetPart.bytesOf first.length secondParts
          if deletes then
            let input ← Job.takeInput
            Job.print (squeeze second.contains (input.filter fun b => !first.contains b))
            return 0
          else if second.isEmpty && !parsed.has 't' then
            Job.failText 1 "when not truncating set1, string2 must be non-empty"
          else
            let input ← Job.takeInput
            let last := second.getLast?.getD 0
            let pairs := first.zipIdx.filterMap fun (b, index) =>
              match second[index]? with
              | some replacement => some (b, replacement)
              | none => if parsed.has 't' then none else some (b, last)
            -- The last mention of a byte counts.
            let target : Array UInt8 := pairs.foldl
              (fun target pair => target.setIfInBounds pair.1.toNat pair.2)
              ((List.range 256).map Nat.toUInt8).toArray
            let replaced := input.map fun b => target[b.toNat]?.getD b
            Job.print (if squeezes then squeeze second.contains replaced else replaced)
            return 0

end Utility

end Reparse
