import Reparse.Utility.Regex

namespace Reparse

namespace Utility

namespace Grep

structure Plan where
  expressions : List Regex
  ignoresCase : Bool
  isInverted : Bool
  wantsWord : Bool
  wantsLine : Bool
  counts : Bool
  namesFiles : Bool
  listsMatching : Bool
  listsOthers : Bool
  isQuiet : Bool
  numbersLines : Bool
  numbersBytes : Bool
  onlyMatching : Bool
  most : Option Nat
  before : Nat
  after : Nat
  ending : UInt8

namespace Plan

def bestFrom (plan : Plan) (subject : Regex.Subject) (start : Nat) : Option Regex.Found :=
  plan.expressions.foldl
    (fun best expression =>
      match expression.search subject start, best with
      | some found, some best =>
          if found.start < best.start || (found.start = best.start && best.stop < found.stop) then
            some found
          else
            some best
      | some found, none => some found
      | none, best => best)
    none

/-- The first match that is a whole word, where that is asked for; the fuel counts what is tried. -/
def wordFrom (plan : Plan) (subject : Regex.Subject) : (fuel : Nat) → (start : Nat) →
    Option Regex.Found
  | 0, _ => none
  | fuel + 1, start =>
      match plan.bestFrom subject start with
      | none => none
      | some found =>
          let isEdge := fun (position : Nat) => !(subject.isWordAt position)
          let startsWord := found.start = 0 || isEdge (found.start - 1)
          if startsWord && isEdge found.stop then some found
          else
            -- A shorter match from the same place may be a word.
            let shorter := (List.range (found.stop - found.start)).reverse.findSome? fun length =>
              let stop := found.start + length
              let cut : Regex.Subject := { subject with bytes := subject.bytes.extract 0 stop }
              match plan.bestFrom cut found.start with
              | some shorter =>
                  if shorter.start = found.start && shorter.stop = stop && startsWord &&
                      isEdge stop && 0 < length then
                    some shorter
                  else
                    none
              | none => none
            match shorter with
            | some found => some found
            | none => plan.wordFrom subject fuel (found.start + 1)

def subject (plan : Plan) (line : Bytes) : Regex.Subject :=
  { bytes := line.toArray, foldsCase := plan.ignoresCase }

def matchFrom (plan : Plan) (subject : Regex.Subject) (start : Nat) : Option Regex.Found :=
  if plan.wantsLine then
    if start = 0 then
      plan.expressions.findSome? fun expression =>
        let whole := Regex.both expression (.spot .textEnd)
        match Regex.matchAt whole subject 0 with
        | some found => if found.stop = subject.bytes.size then some found else none
        | none => none
    else
      none
  else if plan.wantsWord then
    plan.wordFrom subject (subject.bytes.size + 2) start
  else
    plan.bestFrom subject start

def matchesIn (plan : Plan) (subject : Regex.Subject) : (fuel : Nat) → (start : Nat) →
    List Regex.Found
  | 0, _ => []
  | fuel + 1, start =>
      match plan.matchFrom subject start with
      | none => []
      | some found =>
          if found.stop = found.start then
            if subject.bytes.size ≤ found.stop then []
            else plan.matchesIn subject fuel (found.stop + 1)
          else
            found :: plan.matchesIn subject fuel found.stop

end Plan

structure Line where
  number : Nat
  offset : Nat
  text : Bytes
  isChosen : Bool

def chooseLines (plan : Plan) (text : Bytes) : List Line :=
  let add := fun (state : List Line × Nat × Nat) (line : Bytes) =>
    let (found, number, offset) := state
    let isMatch := (plan.matchFrom (plan.subject line) 0).isSome
    (⟨number, offset, line, isMatch != plan.isInverted⟩ :: found, number + 1,
      offset + line.length + 1)
  ((partsBefore plan.ending text).foldl add ([], 1, 0)).1.reverse

def limit (plan : Plan) (lines : List Line) : List Line :=
  match plan.most with
  | none => lines
  | some most =>
      let chosen := lines.filter (·.isChosen)
      match chosen[most - 1]? with
      | some last =>
          if most = 0 then [] else lines.filter fun line => line.number ≤ last.number + plan.after
            && (line.number ≤ last.number || !line.isChosen)
      | none => lines

def front (plan : Plan) (name : Bytes) (line : Line) (offset : Nat) (mark : UInt8) : Bytes :=
  (if plan.namesFiles then name ++ [mark] else []) ++
    (if plan.numbersLines then textOf line.number ++ [mark] else []) ++
    (if plan.numbersBytes then textOf offset ++ [mark] else [])

def shownLines (plan : Plan) (name : Bytes) (lines : List Line) : List Bytes :=
  if plan.onlyMatching then
    if plan.isInverted then
      []
    else
      (lines.filter (·.isChosen)).flatMap fun line =>
        let subject := plan.subject line.text
        (plan.matchesIn subject (subject.bytes.size + 2) 0).map fun found =>
          front plan name line (line.offset + found.start) 58 ++
            subject.slice found.start found.stop ++ [plan.ending]
  else
    let numbers := (lines.filter (·.isChosen)).map (·.number)
    let isNear := fun (line : Line) => numbers.any fun number =>
      number ≤ line.number + plan.before && line.number ≤ number + plan.after
    let shown := if plan.before = 0 && plan.after = 0 then lines.filter (·.isChosen)
      else lines.filter isNear
    let hasGaps := 0 < plan.before || 0 < plan.after
    let add := fun (state : List Bytes × Option Nat) (line : Line) =>
      let gap := hasGaps && state.2.any fun last => last + 1 < line.number
      let text :=
        front plan name line line.offset (if line.isChosen then 58 else 45) ++ line.text ++
        [plan.ending]
      (text :: (if gap then [[45, 45, 10]] else []) ++ state.1, some line.number)
    (shown.foldl add ([], none)).1.reverse

def filesBelow (volume : Volume) (fuel : Nat) (path : Bytes) : List Bytes :=
  match fuel with
  | 0 => []
  | fuel + 1 =>
      match volume.entriesIn (Utf8.decodeLenient path) with
      | .ok entries =>
          let separator : Bytes := if path.getLast? == some 47 then [] else [47]
          entries.flatMap fun entry =>
            filesBelow volume fuel (path ++ separator ++ Utf8.encode entry.1)
      | .error _ => [path]

end Grep

def grepTable : OptionTable :=
  { OptionTable.ofText "A:B:C:EFGHILPTUVabcd:e:f:hilm:noqRrsvwxyzZD:K::"
      [("extended-regexp", 'E'), ("fixed-strings", 'F'), ("basic-regexp", 'G'),
        ("perl-regexp", 'P'), ("regexp", 'e'), ("file", 'f'), ("ignore-case", 'i'),
        ("no-ignore-case", 'K'), ("word-regexp", 'w'), ("line-regexp", 'x'), ("null-data", 'z'),
        ("no-messages", 's'), ("invert-match", 'v'), ("max-count", 'm'), ("byte-offset", 'b'),
        ("line-number", 'n'), ("line-buffered", 'K'), ("with-filename", 'H'), ("no-filename", 'h'),
        ("label", 'K'), ("only-matching", 'o'), ("quiet", 'q'), ("silent", 'q'),
        ("binary-files", 'K'), ("text", 'a'), ("directories", 'd'), ("devices", 'D'),
        ("recursive", 'r'), ("dereference-recursive", 'R'), ("include", 'K'), ("exclude", 'K'),
        ("exclude-dir", 'K'), ("files-without-match", 'L'), ("files-with-matches", 'l'),
        ("count", 'c'), ("initial-tab", 'T'), ("null", 'Z'), ("before-context", 'B'),
        ("after-context", 'A'), ("context", 'C'), ("color", 'K'), ("colour", 'K')] with
    wrong := 2 }

def grepUsage {α : Type} : Job α := do
  let name := (← get).name
  Job.mutter (Utf8.encode s!"Usage: {name} [OPTION]... PATTERNS [FILE]...\n")
  Job.mutter (Utf8.encode s!"Try '{name} --help' for more information.\n")
  throw 2

def withGrepUsage {α : Type} (job : Job α) : Job α := fun work =>
  let (result, after) := job.run.run work
  match result with
  | .ok value => (.ok value, after)
  | .error status =>
      let usage : Saying :=
        ⟨true, Utf8.encode s!"Usage: {work.name} [OPTION]... PATTERNS [FILE]...\n"⟩
      match after.said with
      | advice :: said => (.error status, { after with said := advice :: usage :: said })
      | [] => (.error status, after)

def grepAs (usualStyle : Char) (call : Call) : Job Nat := do
  modify fun work => { work with name := "grep" }
  let arguments := call.arguments.flatMap fun word =>
    match word with
    | 45 :: rest => if (decimal? rest).isSome then [[45, 67], rest] else [word]
    | word => [word]
  let parsed ← withGrepUsage (grepTable.read {} arguments)
  let has := parsed.has
  let styleLetter := (parsed.last? ['E', 'F', 'G', 'P']).getD usualStyle
  let mut patterns := []
  for (letter, value) in parsed.options do
    if letter = 'e' then
      patterns := patterns ++ value.splitOn 10
    else if letter = 'f' then
      match ← Job.read value with
      | .ok content => patterns := patterns ++ linesOf content
      | .error error => Job.fail 2 (Job.plainly error value)
  let named := has 'e' || has 'f'
  let operands := if named then parsed.operands else parsed.operands.tail
  if !named then
    match parsed.operands with
    | [] => grepUsage
    | pattern :: _ => patterns := pattern.splitOn 10
  let ignoresCase := has 'i' || has 'y'
  let style : Regex.Style :=
    { isExtended := styleLetter = 'E' || styleLetter = 'P'
      foldsCase := ignoresCase
      isPlain := styleLetter = 'F' }
  let mut expressions := []
  for pattern in patterns do
    if pattern.take 2 = [91, 58] then
      if styleLetter ≠ 'F' && (pattern.drop (pattern.length - 2)) = [58, 93] then
        Job.failText 2 "character class syntax is [[:space:]], not [:space:]"
    let pattern := if styleLetter = 'P' then perl pattern else pattern
    match Regex.parse style pattern with
    | .ok expression => expressions := expression :: expressions
    | .error reason => Job.failText 2 reason
  let count := fun (letter : Char) =>
    match parsed.value? letter with
    | none => (pure none : Job (Option Nat))
    | some word =>
        match decimal? word with
        | some value => pure (some value)
        | none =>
            if letter = 'm' then Job.failText 2 "invalid max count"
            else Job.fail 2 (word ++ Utf8.encode ": invalid context length argument")
  let most ← count 'm'
  let after ← count 'A'
  let before ← count 'B'
  let around ← count 'C'
  let isRecursive := has 'r' || has 'R'
  let files :=
    if !operands.isEmpty then operands else if isRecursive then [[46]] else [[45]]
  let volume := (← get).volume
  let files :=
    if isRecursive then
      let found := files.flatMap (Grep.filesBelow volume 64)
      if operands.isEmpty then
        found.map fun file => if file.take 2 = [46, 47] then file.drop 2 else file
      else found
    else
      files
  let namesFiles := (has 'H' || 1 < operands.length || isRecursive) && !has 'h'
  let plan : Grep.Plan :=
    { expressions := expressions.reverse
      ignoresCase := ignoresCase
      isInverted := has 'v'
      wantsWord := has 'w'
      wantsLine := has 'x'
      counts := has 'c'
      namesFiles := namesFiles || (has 'H' && !has 'h')
      listsMatching := has 'l'
      listsOthers := has 'L'
      isQuiet := has 'q'
      numbersLines := has 'n'
      numbersBytes := has 'b'
      onlyMatching := has 'o'
      most := most
      before := (before <|> around).getD 0
      after := (after <|> around).getD 0
      ending := if has 'z' then 0 else 10 }
  let mut foundSome := false
  let mut failed := false
  let mut isFirst := true
  for file in files do
    if !(plan.isQuiet && foundSome) then
      match ← Job.read file with
      | .error error =>
          failed := true
          if !has 's' then
            Job.complain (Job.plainly error file)
      | .ok content =>
          let name := if file = [45] then Utf8.encode "(standard input)" else file
          let lines := Grep.limit plan (Grep.chooseLines plan content)
          let chosen := lines.filter (·.isChosen)
          let any := !chosen.isEmpty
          if any then
            foundSome := true
          let nameEnd : UInt8 := if has 'Z' then 0 else 10
          if plan.isQuiet then
            pure ()
          else if plan.listsMatching then
            if any then
              Job.print (name ++ [nameEnd])
          else if plan.listsOthers then
            if !any then
              Job.print (name ++ [nameEnd])
          else if plan.counts then
            Job.print ((if plan.namesFiles then name ++ [58] else []) ++ textOf chosen.length ++
              [10])
          else
            let shown := Grep.shownLines plan name lines
            let hasGaps := (0 < plan.before || 0 < plan.after) && !plan.onlyMatching
            if hasGaps && !isFirst && !shown.isEmpty then
              Job.print [45, 45, 10]
            if !shown.isEmpty then
              isFirst := false
            let isBinary := content.contains 0 && !has 'a' && !has 'z' && any
            if isBinary then
              Job.print (Utf8.encode "Binary file " ++ name ++ Utf8.encode " matches\n")
            else
              Job.print shown.flatten
  if failed && !(plan.isQuiet && foundSome) then return 2
  else return if foundSome then 0 else 1
where
  perl : Bytes → Bytes
    | 92 :: 100 :: rest => Utf8.encode "[0-9]" ++ perl rest
    | 92 :: 68 :: rest => Utf8.encode "[^0-9]" ++ perl rest
    | 92 :: 116 :: rest => 9 :: perl rest
    | 92 :: b :: rest => 92 :: b :: perl rest
    | b :: rest => b :: perl rest
    | [] => []

def grep (call : Call) : Job Nat :=
  grepAs 'G' call

def egrep (call : Call) : Job Nat :=
  grepAs 'E' call

def fgrep (call : Call) : Job Nat :=
  grepAs 'F' call

end Utility

end Reparse
