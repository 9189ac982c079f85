import Reparse.Utility.Escape
import Reparse.Utility.Regex

namespace Reparse

namespace Utility

namespace Edit

inductive Address where
  | line (number : Nat)
  | last
  | step (first size : Nat)
  | pattern (expression : Option Regex) (foldsCase hasLines : Bool)

inductive Ending where
  | address (address : Address)
  | after (count : Nat)
  | multiple (size : Nat)

inductive CaseChange where
  | upper
  | lower
  | upperOne
  | lowerOne
  | stop

inductive Filling where
  | text (content : Bytes)
  | group (index : Nat)
  | change (change : CaseChange)

structure Substitution where
  expression : Option Regex
  filling : List Filling
  isGlobal : Bool := false
  prints : Bool := false
  occurrence : Nat := 1
  file : Option Bytes := none
  foldsCase : Bool := false
  hasLines : Bool := false

inductive Command where
  | block (after : Nat)
  | blockEnd
  | label
  | append (text : Bytes)
  | insertBefore (text : Bytes)
  | change (text : Bytes)
  /-- Go to a place: always, after a replacement, or without one. -/
  | goTo (label : Bytes) (whenReplaced : Option Bool)
  | delete
  | deleteFirst
  | showName
  | getHeld (appends : Bool)
  | hold (appends : Bool)
  | exchange
  | list (width : Option Nat)
  | next (appends : Bool)
  | print
  | printFirst
  | quit (status : Nat) (prints : Bool)
  | readFile (file : Bytes)
  | readLine (file : Bytes)
  | substitute (substitution : Substitution)
  | writeFile (file : Bytes)
  | writeFirst (file : Bytes)
  | translate (pairs : List (UInt8 × UInt8))
  | number
  | clear
  | nothing

structure Instruction where
  first : Option Address := none
  ending : Option Ending := none
  isNegated : Bool := false
  command : Command

structure Script where
  instructions : Array Instruction := #[]
  labels : List (Bytes × Nat) := []

/-! Reading -/

structure Source where
  text : Bytes
  size : Nat
  script : Script := {}
  blocks : List Nat := []
  isExtended : Bool := false

abbrev Reader :=
  StateT Source (Except (Nat × String))

namespace Reader

def position : Reader Nat := do
  let source ← get
  return source.size - source.text.length

def fail {α : Type} (reason : String) : Reader α := do
  throw (← position, reason)

def peek : Reader (Option UInt8) :=
  return (← get).text.head?

def drop (count : Nat) : Reader Unit :=
  modify fun source => { source with text := source.text.drop count }

def next : Reader (Option UInt8) := do
  let first ← peek
  drop 1
  return first

def skipWhile (test : UInt8 → Bool) : Reader Bytes := do
  let found := (← get).text.takeWhile test
  drop found.length
  return found

def skipBlanks : Reader Unit := do
  let _ ← skipWhile fun b => b = 32 || b = 9

def number? : Reader (Option Nat) :=
  return decimal? (← skipWhile fun b => 48 ≤ b && b ≤ 57)

/-- Text up to a delimiter, which stands for itself after a backslash.  In an expression brackets
hide it, and a backslash before anything else stays. -/
def delimited (delimiter : UInt8) (isExpression : Bool) :
    (fuel : Nat) → (inBracket : Bool) → (found : Bytes) → Bytes → Option (Bytes × Bytes)
  | 0, _, _, _ => none
  | _, _, _, [] => none
  | fuel + 1, inBracket, found, b :: rest =>
      if b = 92 && !inBracket then
        match rest with
        | [] => none
        | c :: rest =>
            if c = delimiter then
              -- A delimiter that would be a sign of the expression stays one only after a
              -- backslash.
              delimited delimiter isExpression fuel false (c :: found) rest
            else if isExpression && c = 110 then
              delimited delimiter isExpression fuel false (110 :: 92 :: found) rest
            else
              delimited delimiter isExpression fuel false (c :: 92 :: found) rest
      else if b = delimiter && !inBracket then
        some (found.reverse, rest)
      else if isExpression && b = 91 && !inBracket then
        -- A closing bracket that comes first is part of the set.
        match rest with
        | 94 :: 93 :: rest =>
            delimited delimiter isExpression fuel true (93 :: 94 :: 91 :: found) rest
        | 93 :: rest => delimited delimiter isExpression fuel true (93 :: 91 :: found) rest
        | rest => delimited delimiter isExpression fuel true (91 :: found) rest
      else if inBracket && b = 91 then
        match rest with
        | 58 :: rest =>
            let name := rest.takeWhile fun b => b ≠ 93
            delimited delimiter isExpression fuel true ((93 :: name.reverse) ++ 58 :: 91 :: found)
              (rest.drop (name.length + 1))
        | rest => delimited delimiter isExpression fuel true (91 :: found) rest
      else if inBracket && b = 93 then
        delimited delimiter isExpression fuel false (93 :: found) rest
      else
        delimited delimiter isExpression fuel inBracket (b :: found) rest

def expression (text : Bytes) (foldsCase : Bool) : Reader (Option Regex) := do
  if text.isEmpty then
    return none
  else
    let style : Regex.Style :=
      { isExtended := (← get).isExtended, foldsCase := foldsCase, hasEscapes := true }
    match Regex.parse style (expandCodes text) with
    | .ok expression => return some expression
    | .error reason => fail reason
where
  expandCodes : Bytes → Bytes
    | 92 :: 120 :: high :: low :: rest =>
        if Escape.isHex high && Escape.isHex low then
          let (value, _) := Escape.readDigits 16 2 Escape.isHex [high, low]
          let b := value.toUInt8
          let isSign := [42, 46, 91, 93, 94, 36, 92].contains b
          (if isSign then [92, b] else [b]) ++ expandCodes rest
        else
          92 :: 120 :: expandCodes (high :: low :: rest)
    | 92 :: b :: rest => 92 :: b :: expandCodes rest
    | b :: rest => b :: expandCodes rest
    | [] => []

def address? : Reader (Option Address) := do
  match ← peek with
  | none => return none
  | some b =>
      if 48 ≤ b && b ≤ 57 then
        let first := (← number?).getD 0
        skipBlanks
        if (← peek) = some 126 then
          drop 1
          skipBlanks
          return some (.step first ((← number?).getD 0))
        else
          return some (.line first)
      else if b = 36 then
        drop 1
        return some .last
      else if b = 47 || b = 92 then
        drop 1
        let delimiter ← if b = 92 then do pure ((← next).getD 47) else pure b
        let text := (← get).text
        match delimited delimiter true (text.length + 1) false [] text with
        | none => do
            drop text.length
            fail "unterminated address regex"
        | some (pattern, rest) => do
            modify fun source => { source with text := rest }
            let flags ← skipWhile fun b => b = 73 || b = 77
            let expression ← expression pattern (flags.contains 73)
            return some (.pattern expression (flags.contains 73) (flags.contains 77))
      else
        return none

def ending : Reader Ending := do
  let counted := do
    drop 1
    return (← number?).getD 0
  match ← peek with
  | some 43 => return .after (← counted)
  | some 126 => return .multiple (← counted)
  | _ =>
      match ← address? with
      | some address => return .address address
      | none => do
          drop 1
          fail "unexpected \x60,'"

def endCommand : Reader Unit := do
  skipBlanks
  match ← peek with
  | none => return ()
  | some b =>
      if b = 59 || b = 10 then drop 1
      else if b = 125 || b = 35 then return ()
      else
        drop 1
        fail "extra characters after command"

def restOfLine : Reader Bytes := do
  let found ← skipWhile (· != 10)
  drop 1
  return found

def labelName : Reader Bytes := do
  skipBlanks
  let found ← skipWhile fun b => b ≠ 10 && b ≠ 59 && b ≠ 32 && b ≠ 9 && b ≠ 125
  endCommand
  return found

def fileName : Reader Bytes := do
  skipBlanks
  let found ← restOfLine
  if found.isEmpty then
    fail "missing filename in r/R/w/W commands"
  else
    return found

/-- The lines of a text that is added; a backslash at the end of a line goes on with the next one,
and one before another byte is left out. -/
def textLines : (found : Bytes) → Bytes → Bytes × Bytes
  | found, [] => (found.reverse, [])
  | found, 92 :: b :: rest => textLines (b :: found) rest
  | found, b :: rest => if b = 10 then (found.reverse, rest) else textLines (b :: found) rest

def addedText : Reader Bytes := do
  skipBlanks
  match ← peek with
  | none => fail "expected \\ after \x60a', \x60c' or \x60i'"
  | some b =>
      if b = 92 then
        drop 1
        skipBlanks
        if (← peek) = some 10 then
          drop 1
      let source ← get
      let (text, rest) := textLines [] source.text
      set { source with text := rest }
      return text ++ [10]

def filling : (fuel : Nat) → (found : Bytes) → Bytes → List Filling
  | 0, _, _ => []
  | _, found, [] => if found.isEmpty then [] else [.text found.reverse]
  | fuel + 1, found, b :: rest =>
      let front : List Filling := if found.isEmpty then [] else [.text found.reverse]
      if b = 38 then
        front ++ .group 0 :: filling fuel [] rest
      else if b = 92 then
        match rest with
        | [] => front ++ [.text [92]]
        | c :: rest =>
            if 48 ≤ c && c ≤ 57 then
              front ++ .group (c.toNat - 48) :: filling fuel [] rest
            else
              match Char.ofNat c.toNat with
              | 'n' => filling fuel (10 :: found) rest
              | 't' => filling fuel (9 :: found) rest
              | 'r' => filling fuel (13 :: found) rest
              | 'f' => filling fuel (12 :: found) rest
              | 'v' => filling fuel (11 :: found) rest
              | 'a' => filling fuel (7 :: found) rest
              | 'U' => front ++ .change .upper :: filling fuel [] rest
              | 'L' => front ++ .change .lower :: filling fuel [] rest
              | 'u' => front ++ .change .upperOne :: filling fuel [] rest
              | 'l' => front ++ .change .lowerOne :: filling fuel [] rest
              | 'E' => front ++ .change .stop :: filling fuel [] rest
              | 'x' =>
                  let (value, after) := Escape.readDigits 16 2 Escape.isHex rest
                  if after.length = rest.length then filling fuel (120 :: found) rest
                  else filling fuel (value.toUInt8 :: found) after
              | _ => filling fuel (c :: found) rest
      else
        filling fuel (b :: found) rest

def groupCount : Regex → Nat
  | .group index inner => max index (groupCount inner)
  | .both first second => max (groupCount first) (groupCount second)
  | .either first second => max (groupCount first) (groupCount second)
  | .repeated _ _ inner => groupCount inner
  | _ => 0

def flags : (fuel : Nat) → Substitution → (hasNumber : Bool) → Reader Substitution
  | 0, substitution, _ => return substitution
  | fuel + 1, substitution, hasNumber => do
      match ← peek with
      | none => return substitution
      | some b =>
          if 48 ≤ b && b ≤ 57 then
            let number := (← number?).getD 0
            if hasNumber then
              fail "multiple number options to \x60s' command"
            if number = 0 then
              fail "number option to \x60s' command may not be zero"
            flags fuel { substitution with occurrence := number } true
          else
            match Char.ofNat b.toNat with
            | 'g' => do
                drop 1
                if substitution.isGlobal then
                  fail "multiple \x60g' options to \x60s' command"
                flags fuel { substitution with isGlobal := true } hasNumber
            | 'p' => do
                drop 1
                if substitution.prints then
                  fail "multiple \x60p' options to \x60s' command"
                flags fuel { substitution with prints := true } hasNumber
            | 'i' => do
                drop 1
                flags fuel { substitution with foldsCase := true } hasNumber
            | 'I' => do
                drop 1
                flags fuel { substitution with foldsCase := true } hasNumber
            | 'm' => do
                drop 1
                flags fuel { substitution with hasLines := true } hasNumber
            | 'M' => do
                drop 1
                flags fuel { substitution with hasLines := true } hasNumber
            | 'w' => do
                drop 1
                return { substitution with file := some (← fileName) }
            | '\x7d' => return substitution
            | '#' => return substitution
            | ';' => do
                drop 1
                return substitution
            | '\n' => do
                drop 1
                return substitution
            | ' ' => do
                drop 1
                flags fuel substitution hasNumber
            | _ => do
                drop 1
                fail "unknown option to \x60s'"

def substitution : Reader Command := do
  let delimiter := (← next).getD 10
  let unterminated : Reader Command := do
    modify fun source => { source with text := [] }
    fail "unterminated \x60s' command"
  if delimiter = 10 || delimiter = 92 then
    unterminated
  else
    let text := (← get).text
    match delimited delimiter true (text.length + 1) false [] text with
    | none => unterminated
    | some (pattern, rest) =>
        match delimited delimiter false (rest.length + 1) false [] rest with
        | none => unterminated
        | some (replacement, rest) => do
            modify fun source => { source with text := rest }
            let parts := filling (replacement.length + 1) [] replacement
            let read ← flags (rest.length + 1)
              { expression := none, filling := parts } false
            let expression ← expression pattern read.foldsCase
            let most := parts.foldl
              (fun most part => match part with
                | .group index => max most index
                | _ => most)
              0
            match expression with
            | some found =>
                if groupCount found < most then
                  fail s!"invalid reference \\{most} on \x60s' command's RHS"
            | none => pure ()
            return .substitute { read with expression := expression }

def letterTable : Reader Command := do
  let delimiter := (← next).getD 10
  let unterminated : Reader Command := do
    modify fun source => { source with text := [] }
    fail "unterminated \x60y' command"
  let text := (← get).text
  match delimited delimiter false (text.length + 1) false [] text with
  | none => unterminated
  | some (first, rest) =>
      match delimited delimiter false (rest.length + 1) false [] rest with
      | none => unterminated
      | some (second, rest) => do
          modify fun source => { source with text := rest }
          let first := plain first
          let second := plain second
          if first.length ≠ second.length then
            fail "strings for \x60y' command are different lengths"
          endCommand
          return .translate (first.zip second)
where
  plain : Bytes → Bytes
    | 92 :: 110 :: rest => 10 :: plain rest
    | 92 :: 116 :: rest => 9 :: plain rest
    | 92 :: 92 :: rest => 92 :: plain rest
    | b :: rest => b :: plain rest
    | [] => []

def command (letter : Char) : Reader Command := do
  let plain := fun (command : Command) => do
    endCommand
    return command
  let counted := do
    skipBlanks
    number?
  match letter with
  | '=' => plain .number
  | 'd' => plain .delete
  | 'D' => plain .deleteFirst
  | 'F' => plain .showName
  | 'g' => plain (.getHeld false)
  | 'G' => plain (.getHeld true)
  | 'h' => plain (.hold false)
  | 'H' => plain (.hold true)
  | 'x' => plain .exchange
  | 'n' => plain (.next false)
  | 'N' => plain (.next true)
  | 'p' => plain .print
  | 'P' => plain .printFirst
  | 'z' => plain .clear
  | 'l' => do
      let width ← counted
      plain (.list width)
  | 'q' => do
      let status ← counted
      plain (.quit (status.getD 0) true)
  | 'Q' => do
      let status ← counted
      plain (.quit (status.getD 0) false)
  | 'a' => return .append (← addedText)
  | 'i' => return .insertBefore (← addedText)
  | 'c' => return .change (← addedText)
  | 'b' => return .goTo (← labelName) none
  | 't' => return .goTo (← labelName) (some true)
  | 'T' => return .goTo (← labelName) (some false)
  | 'r' => return .readFile (← fileName)
  | 'R' => return .readLine (← fileName)
  | 'w' => return .writeFile (← fileName)
  | 'W' => return .writeFirst (← fileName)
  | 's' => substitution
  | 'y' => letterTable
  | 'v' => do
      let _ ← labelName
      return .nothing
  | letter => fail s!"unknown command: \x60{letter}'"

def emit (instruction : Instruction) : Reader Unit :=
  modify fun source =>
    { source with
      script := { source.script with
        instructions := source.script.instructions.push instruction } }

def commands : (fuel : Nat) → Reader Unit
  | 0 => return ()
  | fuel + 1 => do
      let _ ← skipWhile fun b => isSpace b || b = 59
      match ← peek with
      | none => return ()
      | some _ => do
          let first ← address?
          skipBlanks
          let ending? ←
            if first.isSome && (← peek) = some 44 then do
              drop 1
              skipBlanks
              pure (some (← ending))
            else
              pure none
          skipBlanks
          let isNegated := (← peek) = some 33
          if isNegated then
            drop 1
            skipBlanks
            if (← peek) = some 33 then
              drop 1
              fail "multiple \x60!'s"
          match ← next with
          | none => fail "missing command"
          | some b => do
              let letter := Char.ofNat b.toNat
              let needsLine := match first, ending? with
                | some (.line 0), some (.address (.pattern ..)) => false
                | some (.line 0), _ => true
                | _, _ => false
              if needsLine then
                fail "invalid usage of line address 0"
              let instruction : Command → Instruction := fun command =>
                { first := first, ending := ending?, isNegated := isNegated, command := command }
              match letter with
              | '#' =>
                  if first.isSome then
                    fail "comments don't accept any addresses"
                  let _ ← restOfLine
                  commands fuel
              | ':' => do
                  if first.isSome then
                    fail ": doesn't want any addresses"
                  skipBlanks
                  let name ← skipWhile fun b => b ≠ 10 && b ≠ 59
                  let name := (name.reverse.dropWhile isSpace).reverse
                  if name.isEmpty then
                    fail "\":\" lacks a label"
                  let place := (← get).script.instructions.size
                  modify fun source =>
                    { source with
                      script := { source.script with
                        labels := (name, place) :: source.script.labels } }
                  commands fuel
              | '\x7b' => do
                  let place := (← get).script.instructions.size
                  emit (instruction (.block 0))
                  modify fun source => { source with blocks := place :: source.blocks }
                  commands fuel
              | '\x7d' => do
                  if first.isSome then
                    fail "\x7d doesn't want any addresses"
                  match (← get).blocks with
                  | [] => fail "unexpected \x60\x7d'"
                  | place :: blocks => do
                      modify fun source =>
                        let instructions := source.script.instructions
                        let after := instructions.size
                        let closed := instructions.modify place fun opening =>
                          { opening with command := .block after }
                        { source with
                          blocks := blocks
                          script := { source.script with instructions := closed } }
                      endCommand
                      commands fuel
              | letter => do
                  if ending?.isSome && (letter = 'q' || letter = 'Q') then
                    fail "command only uses one address"
                  let command ← command letter
                  emit (instruction command)
                  commands fuel

end Reader

def Script.read (script : Script) (blocks : List Nat) (isExtended : Bool) (text : Bytes) :
    Except (Nat × String) (Script × List Nat) :=
  let source : Source :=
    { text := text, size := text.length, script := script, blocks := blocks,
      isExtended := isExtended }
  match (Reader.commands (2 * text.length + 8)).run source with
  | .error fault => .error fault
  | .ok (_, source) => .ok (source.script, source.blocks)

end Edit

end Utility

end Reparse
