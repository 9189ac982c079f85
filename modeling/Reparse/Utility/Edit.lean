import Reparse.Utility.EditScript

namespace Reparse

namespace Utility

namespace Edit

structure Line where
  text : Bytes
  hasEnd : Bool
  file : Bytes

inductive Open where
  | untilLine (number : Nat)
  | untilAddress (address : Address)

inductive Waiting where
  | text (content : Bytes)
  | file (name : Bytes)

structure Mode where
  isQuiet : Bool
  ending : UInt8
  width : Nat

structure State where
  rest : List Line
  space : Bytes := []
  spaceEnds : Bool := true
  file : Bytes := []
  held : Bytes := []
  number : Nat := 0
  waiting : List Waiting := []
  replaced : Bool := false
  stretches : List (Nat × Open) := []
  output : List Bytes := []
  /-- Whether what was printed last lacks the end of its line. -/
  isOpen : Bool := false
  written : List (Bytes × List Bytes) := []
  lines : List (Bytes × List Bytes) := []
  last : Option Regex := none

inductive Turn where
  | done
  | dropped
  | again
  | quit (status : Nat) (prints : Bool)
deriving DecidableEq

abbrev Act :=
  ExceptT Turn (StateM State)

def put (mode : Mode) (bytes : Bytes) : Act Unit :=
  modify fun state =>
    let output := if state.isOpen then [mode.ending] :: state.output else state.output
    { state with output := bytes :: output, isOpen := false }

def putLine (mode : Mode) (text : Bytes) : Act Unit := do
  let state ← get
  put mode (if state.spaceEnds then text ++ [mode.ending] else text)
  modify fun after => { after with isOpen := !state.spaceEnds }

def writeTo (mode : Mode) (file : Bytes) (text : Bytes) : Act Unit := do
  if file = Utf8.encode "/dev/stdout" then
    putLine mode text
  else
    modify fun state =>
      let parts := (state.written.lookup file).getD []
      let others := state.written.filter fun entry => entry.1 != file
      { state with written := (file, (text ++ [mode.ending]) :: parts) :: others }

def flush (mode : Mode) (volume : Volume) : Act Unit := do
  let waiting := (← get).waiting
  modify fun state => { state with waiting := [] }
  for item in waiting do
    match item with
    | .text content => put mode content
    | .file name =>
        match volume.readBytes (Utf8.decodeLenient name) with
        | .ok content => if !content.isEmpty then put mode content
        | .error _ => pure ()

def advance : Act Bool := do
  let state ← get
  match state.rest with
  | [] => return false
  | line :: rest =>
      set { state with
        rest := rest
        space := line.text
        spaceEnds := line.hasEnd
        file := line.file
        number := state.number + 1 }
      return true

def expressionOf (expression : Option Regex) : Act Regex := do
  match expression with
  | some expression => do
      modify fun state => { state with last := some expression }
      return expression
  | none => return ((← get).last).getD .empty

def isMeant : Address → Act Bool
  | .line number => return (← get).number == number
  | .last => return (← get).rest.isEmpty
  | .step first size => do
      let number := (← get).number
      if size = 0 then return number == first
      else return first ≤ number && (number - first) % size = 0
  | .pattern expression foldsCase hasLines => do
      let expression ← expressionOf expression
      let state ← get
      let subject : Regex.Subject :=
        { bytes := state.space.toArray, hasLines := hasLines, foldsCase := foldsCase }
      return (expression.search subject 0).isSome

def openStretch (place : Nat) (stretch : Option Open) : Act Unit :=
  modify fun state =>
    let others := state.stretches.filter fun entry => entry.1 != place
    { state with
      stretches := match stretch with
        | some stretch => (place, stretch) :: others
        | none => others }

def isFor (place : Nat) (instruction : Instruction) : Act Bool := do
  match instruction.first, instruction.ending with
  | none, _ => return true
  | some first, none => isMeant first
  | some first, some ending =>
      let state ← get
      match state.stretches.lookup place with
      | some (.untilLine number) => do
          if number ≤ state.number then
            openStretch place none
          return state.number ≤ number
      | some (.untilAddress address) => do
          if ← isMeant address then
            openStretch place none
          return true
      | none =>
          if ← isMeant first then
            let number := state.number
            let until? : Option Open :=
              match ending with
              | .address (.line last) => if last ≤ number then none else some (.untilLine last)
              | .address address => some (.untilAddress address)
              | .after count => if count = 0 then none else some (.untilLine (number + count))
              | .multiple size =>
                  if size = 0 || number % size = 0 then none
                  else some (.untilLine (number + size - number % size))
            openStretch place until?
            return true
          else
            return false

/-! Replacing -/

structure Casing where
  lasting : Option CaseChange := none
  once : Option CaseChange := none

def Casing.add (casing : Casing) (found : Bytes) : Bytes → Bytes × Casing
  | [] => (found, casing)
  | b :: rest =>
      let upper := fun (b : UInt8) => if 97 ≤ b && b ≤ 122 then b - 32 else b
      let changed :=
        match casing.once, casing.lasting with
        | some .upperOne, _ => upper b
        | some .lowerOne, _ => lowerByte b
        | _, some .upper => upper b
        | _, some .lower => lowerByte b
        | _, _ => b
      Casing.add { casing with once := none } (changed :: found) rest

def fill (subject : Regex.Subject) (hit : Regex.Found) (found : Bytes) (parts : List Filling) :
    Bytes :=
  let step := fun (state : Bytes × Casing) (part : Filling) =>
    let (found, casing) := state
    match part with
    | .text content => casing.add found content
    | .group 0 => casing.add found (subject.slice hit.start hit.stop)
    | .group index =>
        match hit.groups.lookup index with
        | some (start, stop) => casing.add found (subject.slice start stop)
        | none => (found, casing)
    | .change .upper => (found, { casing with lasting := some .upper, once := casing.once })
    | .change .lower => (found, { casing with lasting := some .lower, once := casing.once })
    | .change .stop => (found, {})
    | .change one => (found, { casing with once := some one })
  (parts.foldl step (found, {})).1

/-- Replace matches from a place on; `count` is the number of the next one, and `previous` the place
where the last one ended.  What has been passed comes backwards. -/
def replaceFrom (substitution : Substitution) (expression : Regex) (subject : Regex.Subject) :
    (fuel : Nat) → (start count : Nat) → (previous : Option Nat) → (found : Bytes) → (any : Bool) →
      Bytes × Bool
  | 0, start, _, _, found, any =>
      ((subject.slice start subject.bytes.size).reverse ++ found, any)
  | fuel + 1, start, count, previous, found, any =>
      match if subject.bytes.size < start then none else expression.search subject start with
      | none => ((subject.slice start subject.bytes.size).reverse ++ found, any)
      | some hit =>
          let found := (subject.slice start hit.start).reverse ++ found
          let isEmpty := hit.start = hit.stop
          let step := fun (count : Nat) (found : Bytes) (any : Bool) =>
            -- Past an empty match goes one byte as it is.
            if isEmpty then
              let found := (subject.slice hit.stop (hit.stop + 1)).reverse ++ found
              replaceFrom substitution expression subject fuel (hit.stop + 1) count
                (some hit.stop) found any
            else
              replaceFrom substitution expression subject fuel hit.stop count
                (some hit.stop) found any
          if isEmpty && previous = some hit.start then
            step count found any
          else if count < substitution.occurrence then
            step (count + 1) ((subject.slice hit.start hit.stop).reverse ++ found) any
          else
            let filled := fill subject hit found substitution.filling
            if substitution.isGlobal then
              step (count + 1) filled true
            else
              ((subject.slice hit.stop subject.bytes.size).reverse ++ filled, true)

def replace (mode : Mode) (substitution : Substitution) : Act Unit := do
  let expression ← expressionOf substitution.expression
  let state ← get
  let subject : Regex.Subject :=
    { bytes := state.space.toArray
      hasLines := substitution.hasLines
      foldsCase := substitution.foldsCase }
  let (backwards, any) :=
    replaceFrom substitution expression subject (state.space.length + 2) 0 1 none [] false
  if any then
    let space := backwards.reverse
    set { state with space := space, replaced := true }
    if substitution.prints then
      putLine mode space
    match substitution.file with
    | some file => writeTo mode file space
    | none => pure ()

/-! Showing -/

def listed (b : UInt8) : Bytes :=
  let letter : Option Char :=
    match b.toNat with
    | 7 => some 'a'
    | 8 => some 'b'
    | 9 => some 't'
    | 10 => some 'n'
    | 11 => some 'v'
    | 12 => some 'f'
    | 13 => some 'r'
    | 92 => some '\\'
    | _ => none
  match letter with
  | some c => [92, c.toNat.toUInt8]
  | none =>
      if 32 ≤ b && b ≤ 126 then
        [b]
      else
        let digits := Nat.toDigits 8 b.toNat
        92 :: Utf8.encode (String.ofList (List.replicate (3 - digits.length) '0' ++ digits))

def listText (width : Nat) (space : Bytes) : Bytes :=
  let add := fun (state : List Bytes × Nat) (b : UInt8) =>
    let sign := listed b
    let (found, column) := state
    if 1 < width && width - 1 < column + sign.length then
      (sign :: [92, 10] :: found, sign.length)
    else
      (sign :: found, column + sign.length)
  (space.foldl add ([], 0)).1.reverse.flatten ++ [36]

/-! Running -/

def perform (mode : Mode) (volume : Volume) : Command → Act Unit
  | .append text =>
      modify fun state => { state with waiting := state.waiting ++ [Waiting.text text] }
  | .readFile file =>
      modify fun state => { state with waiting := state.waiting ++ [Waiting.file file] }
  | .readLine file => do
      let state ← get
      let lines := (state.lines.lookup file).getD
        (linesOf ((volume.readBytes (Utf8.decodeLenient file)).toOption.getD []))
      match lines with
      | [] => pure ()
      | line :: lines =>
          set { state with
            waiting := state.waiting ++ [Waiting.text (line ++ [10])]
            lines := (file, lines) :: state.lines.filter fun entry => entry.1 != file }
  | .insertBefore text => put mode text
  | .showName => do
      put mode ((← get).file ++ [10])
  | .getHeld false => modify fun state => { state with space := state.held }
  | .getHeld true =>
      modify fun state => { state with space := state.space ++ mode.ending :: state.held }
  | .hold false => modify fun state => { state with held := state.space }
  | .hold true =>
      modify fun state => { state with held := state.held ++ mode.ending :: state.space }
  | .exchange => modify fun state => { state with space := state.held, held := state.space }
  | .list width => do
      put mode (listText (width.getD mode.width) (← get).space ++ [10])
  | .print => do
      putLine mode (← get).space
  | .printFirst => do
      put mode ((← get).space.takeWhile (· != mode.ending) ++ [mode.ending])
  | .substitute substitution => replace mode substitution
  | .writeFile file => do
      writeTo mode file (← get).space
  | .writeFirst file => do
      writeTo mode file ((← get).space.takeWhile (· != mode.ending))
  | .translate pairs =>
      modify fun state =>
        { state with space := state.space.map fun b => (pairs.lookup b).getD b }
  | .number => do
      put mode (textOf (← get).number ++ [10])
  | .clear => modify fun state => { state with space := [] }
  | _ => return ()

/-- Carry out the commands from a place on; the fuel counts them. -/
def runFrom (mode : Mode) (volume : Volume) (script : Script) : (fuel : Nat) → (place : Nat) →
    Act Unit
  | 0, _ => return ()
  | fuel + 1, place => do
      match script.instructions[place]? with
      | none => return ()
      | some instruction => do
          let isChosen := (← isFor place instruction) != instruction.isNegated
          let goOn := runFrom mode volume script fuel (place + 1)
          match instruction.command with
          | .block after =>
              if isChosen then goOn else runFrom mode volume script fuel after
          | command =>
              if !isChosen then
                goOn
              else
                match command with
                | .goTo label whenReplaced => do
                    let state ← get
                    let leads := whenReplaced.all (· == state.replaced)
                    if whenReplaced.isSome then
                      set { state with replaced := false }
                    if leads then
                      let target :=
                        if label.isEmpty then script.instructions.size
                        else (script.labels.lookup label).getD script.instructions.size
                      runFrom mode volume script fuel target
                    else
                      goOn
                | .delete => throw .dropped
                | .deleteFirst => do
                    let state ← get
                    if state.space.contains mode.ending then
                      let space := (state.space.dropWhile (· != mode.ending)).drop 1
                      set { state with space := space }
                      throw .again
                    else
                      throw .dropped
                | .change text => do
                    let isOver := !(← get).stretches.any fun entry => entry.1 = place
                    if isOver || instruction.isNegated then
                      put mode text
                    throw .dropped
                | .next appends => do
                    let state ← get
                    if state.rest.isEmpty then
                      throw (.quit 0 true)
                    else
                      if !appends && !mode.isQuiet then
                        putLine mode state.space
                      flush mode volume
                      let _ ← advance
                      if appends then
                        modify fun after =>
                          { after with space := state.space ++ mode.ending :: after.space }
                      goOn
                | .quit status prints => throw (.quit status prints)
                | command => do
                    perform mode volume command
                    goOn

def allowance : Nat := 200000

def cycles (mode : Mode) (volume : Volume) (script : Script) :
    (fuel : Nat) → (keepsSpace : Bool) → StateM State (Option Nat)
  | 0, _ => return none
  | fuel + 1, keepsSpace => do
      let hasLine ← if keepsSpace then pure true else do
        pure ((← advance.run).toOption.getD false)
      if !hasLine then
        return none
      if !keepsSpace then
        modify fun state => { state with replaced := false }
      let turn := match ← (runFrom mode volume script allowance 0).run with
        | .ok _ => Turn.done
        | .error turn => turn
      let prints := match turn with
        | .done => true
        | .quit _ prints => prints
        | _ => false
      let close : Act Unit := do
        if prints && !mode.isQuiet then
          putLine mode (← get).space
        flush mode volume
      let _ ← close.run
      match turn with
      | .quit status _ => return some status
      | .again => cycles mode volume script fuel true
      | _ => cycles mode volume script fuel false

end Edit

def editLines (ending : UInt8) (file content : Bytes) : List Edit.Line :=
  let parts := content.splitOn ending
  let whole := parts.dropLast.map fun text => (⟨text, true, file⟩ : Edit.Line)
  match parts.getLast? with
  | some [] => whole
  | some text => whole ++ [⟨text, false, file⟩]
  | none => whole

def editOptions : OptionTable :=
  let table := OptionTable.ofText "nre:f:Ei::l:sub:zVK"
    [("quiet", 'n'), ("silent", 'n'), ("expression", 'e'), ("file", 'f'), ("regexp-extended", 'E'),
      ("in-place", 'i'), ("line-length", 'l'), ("separate", 's'), ("unbuffered", 'u'),
      ("null-data", 'z'), ("zero-terminated", 'z'), ("posix", 'K'), ("debug", 'K'),
      ("follow-symlinks", 'K'), ("binary", 'b')]
  { table with letters := table.letters.map fun (letter, arity) =>
      if letter = 'b' then (letter, .never) else (letter, arity) }

def joinedTexts : List (Option Bytes × Bytes) → List (Option Bytes × Bytes)
  | (file, text) :: (next, more) :: rest =>
      if text.getLast? == some 92 then joinedTexts ((file, text ++ 10 :: more) :: rest)
      else (file, text) :: joinedTexts ((next, more) :: rest)
  | texts => texts
termination_by texts => texts.length

def scriptTexts (parsed : Parsed) : Job (List (Option Bytes × Bytes) × List Bytes) := do
  let mut texts := []
  for (letter, value) in parsed.options do
    if letter = 'e' then
      texts := (none, value) :: texts
    else if letter = 'f' then
      match ← Job.read value with
      | .ok content =>
          let content := if content.getLast? == some 10 then content.dropLast else content
          texts := (some value, content) :: texts
      | .error error => Job.fail 1 (Utf8.encode "couldn't open file " ++ Job.plainly error value)
  if parsed.has 'e' || parsed.has 'f' then
    return (texts.reverse, parsed.operands)
  else
    match parsed.operands with
    | [] => do
        let usage :=
          "Usage: sed [OPTION]... \x7bscript-only-if-no-other-script\x7d [input-file]...\n"
        Job.mutter (Utf8.encode usage)
        throw 1
    | script :: files => return ([(none, script)], files)

def checkLabels (script : Edit.Script) : Job Unit := do
  for instruction in script.instructions do
    match instruction.command with
    | .goTo label _ =>
        if !label.isEmpty && (script.labels.lookup label).isNone then
          Job.fail 1 (Utf8.encode "can't find label for jump to \x60" ++ label ++ [39])
    | _ => pure ()

def scriptOf (isExtended : Bool) (texts : List (Option Bytes × Bytes)) : Job Edit.Script := do
  let mut script : Edit.Script := {}
  let mut blocks := []
  let mut index : Nat := 0
  for (file, text) in joinedTexts texts do
    index := index + 1
    match Edit.Script.read script blocks isExtended text with
    | .ok (next, opened) =>
        script := next
        blocks := opened
    | .error (place, reason) =>
        let origin :=
          match file with
          | some file => Utf8.decodeLenient file ++ s!": line 1"
          | none => s!"-e expression #{index}, char {place}"
        Job.failText 1 s!"{origin}: {reason}"
  if !blocks.isEmpty then
    Job.failText 1 s!"-e expression #{index}, char 0: unmatched \x60\x7b'"
  checkLabels script
  return script

def filesToEdit (ending : UInt8) (inPlace : Bool) (files : List Bytes) :
    Job (List (Bytes × List Edit.Line) × Nat) := do
  let mut groups := []
  let mut status : Nat := 0
  for file in files do
    match ← Job.read file with
    | .ok content => groups := (file, editLines ending file content) :: groups
    | .error .isDirectory =>
        if inPlace then
          Job.complain (Utf8.encode "couldn't edit " ++ file ++ Utf8.encode ": not a regular file")
          status := 4
        else
          Job.complain (Utf8.encode "read error on " ++ Job.plainly .isDirectory file)
          status := 2
    | .error error =>
        Job.complain (Utf8.encode "can't read " ++ Job.plainly error file)
        status := if inPlace then 4 else 2
  return (groups.reverse, status)

def replaceFile (file suffix content : Bytes) : Job Unit := do
  if !suffix.isEmpty then
    match (← get).volume.readBytes (Utf8.decodeLenient file) with
    | .ok old =>
        let _ ← Job.write (file ++ suffix) old false
    | .error _ => pure ()
  let _ ← Job.write file content false

def openedAtStart (script : Edit.Script) : List (Nat × Edit.Open) :=
  script.instructions.toList.zipIdx.filterMap fun (instruction, place) =>
    match instruction.first, instruction.ending with
    | some (.line 0), some (.address address) => some (place, Edit.Open.untilAddress address)
    | _, _ => none

def writtenFiles (script : Edit.Script) : List Bytes :=
  script.instructions.toList.filterMap fun instruction =>
    match instruction.command with
    | .writeFile file => some file
    | .writeFirst file => some file
    | .substitute substitution => substitution.file
    | _ => none

def editGroups (mode : Edit.Mode) (script : Edit.Script) (separate : Bool) (suffix : Option Bytes) :
    (status : Nat) → Edit.State → List (Bytes × List Edit.Line) → Job (Nat × Edit.State)
  | status, state, [] => return (status, state)
  | status, state, (file, lines) :: rest => do
      let volume := (← get).volume
      let start := { state with rest := lines, number := if separate then 0 else state.number }
      let (ended, after) :=
        (Edit.cycles mode volume script (lines.length * 64 + 64) false).run start
      let after ←
        match suffix with
        | none => pure after
        | some suffix => do
            let left := after.rest.flatMap fun line =>
              if line.hasEnd then line.text ++ [mode.ending] else line.text
            replaceFile file suffix (after.output.reverse.flatten ++ left)
            pure { after with output := [], isOpen := false }
      match ended with
      | some code => return (max status code, after)
      | none => editGroups mode script separate suffix status after rest

def sed (call : Call) : Job Nat := do
  let parsed ← editOptions.read {} call.arguments
  let (texts, files) ← scriptTexts parsed
  let script ← scriptOf (parsed.has 'E' || parsed.has 'r') texts
  let mode : Edit.Mode :=
    { isQuiet := parsed.has 'n'
      ending := if parsed.has 'z' then 0 else 10
      width := ((parsed.value? 'l').bind decimal?).getD 70 }
  let suffix := if parsed.has 'i' then some ((parsed.value? 'i').getD []) else none
  let separate := suffix.isSome || parsed.has 's'
  let (groups, status) ←
    filesToEdit mode.ending suffix.isSome (if files.isEmpty then [[45]] else files)
  let groups := if separate then groups else [([45], groups.flatMap (·.2))]
  let start : Edit.State :=
    { rest := []
      stretches := openedAtStart script
      written := (writtenFiles script).map fun file => (file, []) }
  let (status, state) ← editGroups mode script separate suffix status start groups
  Job.print state.output.reverse.flatten
  for (file, parts) in state.written do
    if file != Utf8.encode "/dev/stdout" then
      match ← Job.write file parts.reverse.flatten false with
      | .ok _ => pure ()
      | .error error => Job.fail 4 (Utf8.encode "couldn't open file " ++ Job.plainly error file)
  return status

end Utility

end Reparse
