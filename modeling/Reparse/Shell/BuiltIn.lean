import Reparse.Shell.Field
import Reparse.Shell.Search
import Reparse.Shell.Signal
import Reparse.Utility.Condition

namespace Reparse

namespace Shell

abbrev BuiltIn :=
  List Bytes → Act Nat

namespace BuiltIn

def number (word : Bytes) : Act Nat :=
  match Utility.Condition.number? word with
  | .ok (.ofNat value) => if value < 0x80000000 then return value else Act.failNumber word
  | _ => Act.failNumber word

def options (allowed : String) : List Bytes → Act (List (Char × Bytes) × List Bytes)
  | [] => return ([], [])
  | word :: words =>
      match word with
      | [45, 45] => return ([], words)
      | 45 :: b :: letters => go words.length (b :: letters) words
      | _ => return ([], word :: words)
where
  go (fuel : Nat) : Bytes → List Bytes → Act (List (Char × Bytes) × List Bytes)
    | [], words => next fuel words
    | b :: letters, words => do
        let letter := Char.ofNat b.toNat
        match (Utility.OptionTable.lettersOf allowed.toList).lookup letter with
        | none => Act.fail 2 (Utf8.encode "Illegal option -" ++ [b])
        | some .never =>
            let (more, rest) ← go fuel letters words
            return ((letter, []) :: more, rest)
        | some _ =>
            match letters, words with
            | [], [] => Act.fail 2 (Utf8.encode "No arg for -" ++ [b] ++ Utf8.encode " option")
            | [], value :: words =>
                let (more, rest) ← next fuel words
                return ((letter, value) :: more, rest)
            | value, words =>
                let (more, rest) ← next fuel words
                return ((letter, value) :: more, rest)
  next : (fuel : Nat) → List Bytes → Act (List (Char × Bytes) × List Bytes)
    | _, [] => return ([], [])
    | 0, words => return ([], words)
    | fuel + 1, word :: words =>
        match word with
        | [45, 45] => return ([], words)
        | 45 :: b :: letters => go fuel (b :: letters) words
        | _ => return ([], word :: words)

def has (options : List (Char × Bytes)) (letter : Char) : Bool :=
  options.any fun option => option.1 = letter

def echo : BuiltIn := fun arguments => do
  let isOpen := arguments.head? == some [45, 110]
  let words := if isOpen then arguments.tail else arguments
  Act.print (Utility.echoed words (some ⟨true, false⟩) !isOpen)
  return 0

def printf : BuiltIn := fun arguments => do
  let (_, arguments) ← options "" arguments
  match arguments with
  | [] => Act.fail 2 (Utf8.encode "usage: printf format [arg ...]")
  | format :: arguments =>
      let printed := Utility.printFormat ⟨true⟩ format arguments
      for complaint in printed.complaints do
        Act.complain complaint
      Act.print printed.output
      return printed.status

def test : BuiltIn := fun arguments => do
  match Utility.Condition.holds (← get).volume (arguments.length + 1) arguments with
  | .ok true => return 0
  | .ok false => return 1
  | .error complaint => Act.fail 2 complaint

def bracket : BuiltIn := fun arguments =>
  if arguments.getLast? == some [93] then test arguments.dropLast
  else Act.fail 2 (Utf8.encode "missing ]")

/-! Variables -/

def quote (text : Bytes) : Bytes :=
  let rec go (isInside : Bool) : Bytes → Bytes
    | [] => if isInside then [39] else []
    | b :: rest =>
        if b = 39 then
          let quotes := rest.takeWhile (· == 39)
          let marks := (if isInside then [39] else []) ++ [34, 39] ++ quotes ++ [34]
          marks ++ go false (rest.drop quotes.length)
        else
          (if isInside then [b] else [39, b]) ++ go true rest
  termination_by text => text.length
  decreasing_by all_goals (simp_all; try omega)
  if text.isEmpty then [39, 39] else go false text

def settingLine (front : String) (name : String) (value : Option Bytes) : Bytes :=
  Utf8.encode (front ++ name) ++
    match value with
    | some value => 61 :: quote value ++ [10]
    | none => [10]

def splitSetting (word : Bytes) : Bytes × Option Bytes :=
  let name := word.takeWhile (· != 61)
  (name, if name.length = word.length then none else some (word.drop (name.length + 1)))

def checkedName (word : Bytes) : Act String := do
  let name := Utf8.decodeLenient word
  if isName name then
    return name
  else
    Act.fail 2 (word ++ Utf8.encode ": bad variable name")

def markAll (front : String) (isMarked : Variable → Bool) (mark : Variable → Variable) : BuiltIn :=
  fun arguments => do
    let (options, words) ← options "p" arguments
    if words.isEmpty || has options 'p' then
      for (name, entry) in (← get).values do
        if isMarked entry then
          Act.print (settingLine front name entry.value)
      return 0
    else
      for word in words do
        let (name, value) := splitSetting word
        let name ← checkedName name
        match value with
        | some value => Act.setValue name value
        | none => pure ()
        modify fun machine =>
          let entry := (machine.values.find? name).getD ⟨none, false, false⟩
          { machine with values := machine.values.insert name (mark entry) }
      return 0

def unset : BuiltIn := fun arguments => do
  let (options, words) ← options "vf" arguments
  let isFunction := (options.getLast?.map (·.1)) == some 'f'
  for word in words do
    if isFunction then
      let name := Utf8.decodeLenient word
      modify fun machine =>
        { machine with functions := machine.functions.filter fun entry => entry.1 != name }
    else
      let name ← checkedName word
      let machine ← get
      if ((machine.values.find? name).any (·.isFixed)) then
        Act.fail 2 (Utf8.encode s!"{name}: is read only")
      set { machine with values := machine.values.filter fun entry => entry.1 != name }
  return 0

def shadow : BuiltIn := fun arguments => do
  let machine ← get
  match machine.shadowed with
  | [] => Act.fail 2 (Utf8.encode "not in a function")
  | _ =>
      for word in arguments do
        if word ≠ [45] then
          let (name, value) := splitSetting word
          let name ← checkedName name
          modify fun machine =>
            match machine.shadowed with
            | [] => machine
            | frame :: frames =>
                let isThere := frame.any fun entry => entry.1 = name
                let old := machine.values.find? name
                let frame := if isThere then frame else (name, old) :: frame
                { machine with shadowed := frame :: frames }
          match value with
          | some value => Act.setValue name value
          | none => pure ()
      return 0

/-! Options and arguments of the shell -/

def optionNames : List (String × Char) :=
  [("errexit", 'e'), ("noglob", 'f'), ("ignoreeof", 'I'), ("interactive", 'i'), ("monitor", 'm'),
    ("noexec", 'n'), ("stdin", 's'), ("xtrace", 'x'), ("verbose", 'v'), ("vi", 'V'), ("emacs", 'E'),
    ("noclobber", 'C'), ("allexport", 'a'), ("notify", 'b'), ("nounset", 'u'), ("privileged", 'p'),
    ("nolog", 'l'), ("debug", 'd')]

def optionLetters : List Char :=
  ['e', 'f', 'I', 'i', 'm', 'n', 's', 'x', 'v', 'V', 'E', 'C', 'a', 'b', 'u', 'p']

def setOption (isOn : Bool) (letter : Char) : Act Unit :=
  modify fun machine =>
    let others := machine.options.filter (· != letter)
    { machine with options := if isOn then letter :: others else others }

def setOptions (fuel : Nat) (words : List Bytes) : Act (Option (List Bytes)) :=
  match fuel, words with
  | 0, words => return some words
  | _, [] => return none
  | fuel + 1, word :: words => do
      match word with
      | [45, 45] => return some words
      | [45] =>
          setOption false 'x'
          setOption false 'v'
          return if words.isEmpty then none else some words
      | sign :: b :: letters =>
          if sign = 45 || sign = 43 then
            let isOn := sign = 45
            let mut asksForName := false
            for b in b :: letters do
              let letter := Char.ofNat b.toNat
              if letter = 'o' then
                asksForName := true
              else if optionLetters.contains letter then
                setOption isOn letter
              else
                let mark := if isOn then "-" else "+"
                Act.fail 2 (Utf8.encode s!"Illegal option {mark}" ++ [b])
            if !asksForName then
              setOptions fuel words
            else
              match words with
              | [] =>
                  let options := (← get).options
                  if isOn then
                    Act.print (Utf8.encode "Current option settings\n")
                  for (name, letter) in optionNames do
                    let isSet := options.contains letter
                    let name16 := name ++ String.ofList (List.replicate (16 - name.length) ' ')
                    let line :=
                      if isOn then name16 ++ (if isSet then "on\n" else "off\n")
                      else s!"set " ++ (if isSet then "-o " else "+o ") ++ name ++ "\n"
                    Act.print (Utf8.encode line)
                  return none
              | name :: words =>
                  match optionNames.lookup (Utf8.decodeLenient name) with
                  | some letter =>
                      setOption isOn letter
                      setOptions fuel words
                  | none =>
                      let mark := if isOn then "-" else "+"
                      Act.fail 2 (Utf8.encode s!"Illegal option {mark}o " ++ name)
          else
            return some (word :: words)
      | _ => return some (word :: words)

def setAll : BuiltIn := fun arguments => do
  if arguments.isEmpty then
    for (name, entry) in (← get).values do
      match entry.value with
      | some value => Act.print (settingLine "" name (some value))
      | none => pure ()
  else
    match ← setOptions (arguments.length + 1) arguments with
    | none => pure ()
    | some words => modify fun machine => { machine with arguments := words, optionOffset := 0 }
  return 0

def shift : BuiltIn := fun arguments => do
  let count ←
    match arguments with
    | [] => pure 1
    | word :: _ => number word
  let machine ← get
  if machine.arguments.length < count then
    Act.fail 2 (Utf8.encode "can't shift that many")
  set { machine with arguments := machine.arguments.drop count, optionOffset := 0 }
  return 0

def getopts : BuiltIn := fun arguments => do
  match arguments with
  | letters :: target :: words =>
      let machine ← get
      let words := if words.isEmpty then machine.arguments else words
      let index := ((machine.value? "OPTIND").bind Utility.decimal?).getD 1
      let isQuiet := letters.head? == some 58
      let previous := words[index - 2]?.getD []
      let offset := machine.optionOffset
      let begun := if index ≤ 1 || offset = 0 then [] else previous.drop offset
      -- What is left of the argument at hand, and the number of the one after it.
      let current : Option (Bytes × Nat) :=
        if !begun.isEmpty then
          some (begun, index)
        else
          match words[index - 1]? with
          | some (45 :: b :: rest) =>
              if (b :: rest) = [45] then none else some (b :: rest, index + 1)
          | _ => none
      let finish := fun (letter : UInt8) (index offset : Nat) (done : Bool) => do
        Act.setValue "OPTIND" (textOf index)
        let target ← checkedName target
        Act.setValue target [letter]
        modify fun machine => { machine with optionOffset := offset }
        return if done then 1 else 0
      let forget := modify fun (machine : Machine) =>
        { machine with values := machine.values.filter fun entry => entry.1 != "OPTARG" }
      match current with
      | none =>
          let isMark := words[index - 1]? == some [45, 45]
          finish 63 (if isMark then index + 1 else index) 0 true
      | some (text, next) =>
          let letter := text.head?.getD 0
          let rest := text.tail
          let offsetAfter :=
            if rest.isEmpty then 0 else (words[next - 2]?.getD []).length - rest.length
          let place := letters.dropWhile fun b => b ≠ letter || b = 58
          if letter = 58 || place.isEmpty then
            if isQuiet then
              Act.setValue "OPTARG" [letter]
            else
              modify fun machine =>
                machine.write 2 (Utf8.encode "Illegal option -" ++ [letter, 10])
              forget
            finish 63 next offsetAfter false
          else if place.tail.head? == some 58 then
            if !rest.isEmpty then
              Act.setValue "OPTARG" rest
              finish letter next 0 false
            else
              match words[next - 1]? with
              | some value =>
                  Act.setValue "OPTARG" value
                  finish letter (next + 1) 0 false
              | none =>
                  if isQuiet then
                    Act.setValue "OPTARG" [letter]
                    finish 58 next 0 false
                  else
                    modify fun machine =>
                      machine.write 2 (Utf8.encode "No arg for -" ++ [letter] ++
                        Utf8.encode " option\n")
                    forget
                    finish 63 next 0 false
          else
            Act.setValue "OPTARG" []
            finish letter next offsetAfter false
  | _ => Act.fail 2 (Utf8.encode "Usage: getopts optstring var [arg...]")
where
  textOf (value : Nat) : Bytes :=
    Machine.number value

/-! Reading -/

/-- The bytes of a line, with whether a backslash keeps them from being separators; the flag tells
whether the line had an end.  A backslash at the end of a line joins the next line to it. -/
def takeLine (isRaw : Bool) (line : Field) : Bytes → Field × Bool × Bytes
  | [] => (line.reverse, false, [])
  | 92 :: rest =>
      if isRaw then
        takeLine isRaw ((92, false) :: line) rest
      else
        match rest with
        | [] => (line.reverse, false, [])
        | b :: rest =>
            if b = 10 then takeLine isRaw line rest else takeLine isRaw ((b, true) :: line) rest
  | b :: rest =>
      if b = 10 then (line.reverse, true, rest)
      else if b = 0 then takeLine isRaw line rest
      else takeLine isRaw ((b, false) :: line) rest

def isSeparator (separators : Bytes) (entry : UInt8 × Bool) : Bool :=
  !entry.2 && separators.contains entry.1

/-- Whether a byte of a line is a separator that counts as one where several stand together. -/
def isBlank (separators : Bytes) (entry : UInt8 × Bool) : Bool :=
  isSeparator separators entry && isBlankByte entry.1

def divide (separators : Bytes) : (count : Nat) → Field → List Bytes
  | 0, _ => []
  | count + 1, line =>
      let line := line.dropWhile (isBlank separators)
      if count = 0 then
        let kept := (line.reverse.dropWhile (isBlank separators)).reverse
        let first := kept.takeWhile fun entry => !isSeparator separators entry
        let after := (kept.drop first.length).dropWhile (isBlank separators)
        if after.length = 1 && isSeparator separators (after.head?.getD (0, true)) then
          [Field.text first]
        else [Field.text kept]
      else
        let first := line.takeWhile fun entry => !isSeparator separators entry
        let after := (line.drop first.length).dropWhile (isBlank separators)
        let after :=
          match after with
          | entry :: rest => if isSeparator separators entry then rest else after
          | [] => []
        Field.text first :: divide separators count after

def read : BuiltIn := fun arguments => do
  let (options, names) ← options "p:r" arguments
  if names.isEmpty then
    Act.fail 2 (Utf8.encode "arg count")
  let machine ← get
  if (machine.channel? 0).isNone then
    return 1
  let (line, hasEnd, rest) := takeLine (has options 'r') [] (machine.input 0)
  set (machine.setInput 0 rest)
  let fields := divide machine.separators names.length line
  for (name, index) in names.zipIdx do
    let name ← checkedName name
    Act.setValue name (fields[index]?.getD [])
  return if hasEnd then 0 else 1

/-! Places -/

def placeText (place : List String) : Bytes :=
  Utf8.encode ("/" ++ "/".intercalate place)

def cd : BuiltIn := fun arguments => do
  let (_, words) ← options "LP" arguments
  let machine ← get
  let old := placeText machine.volume.workingDirectory
  let goesBack := words.head? == some [45]
  let target :=
    match words.head? with
    | none => (machine.value? "HOME").getD []
    | some word => if goesBack then (machine.value? "OLDPWD").getD old else word
  let searched :=
    if target.head? == some 47 || target.head? == some 46 then none
    else
      ((machine.value? "CDPATH").map Utf8.decodeLenient).bind fun path =>
        (path.splitOn ":").findSome? fun directory =>
          let candidate := Path.join directory (Utf8.decodeLenient target)
          if !directory.isEmpty && machine.volume.isDirectory candidate then some candidate
          else none
  let path := searched.getD (Utf8.decodeLenient target)
  let place :=
    if path.isEmpty then .ok machine.volume.workingDirectory else machine.volume.locate path
  match place with
  | .ok place =>
      match machine.volume.root.at? place with
      | some (.directory _) =>
          modify fun machine =>
            { machine with volume := { machine.volume with workingDirectory := place } }
          Act.setValue "OLDPWD" old
          Act.setValue "PWD" (placeText place)
          if goesBack || searched.isSome then
            Act.printLine (placeText place)
          return 0
      | _ => Act.fail 2 (Utf8.encode "can't cd to " ++ target)
  | .error _ => Act.fail 2 (Utf8.encode "can't cd to " ++ target)

def pwd : BuiltIn := fun arguments => do
  let _ ← options "LP" arguments
  Act.printLine (placeText (← get).volume.workingDirectory)
  return 0

/-! Signals -/

def failSignalUsage {α : Type} : Act α :=
  Act.fail 2 (Utf8.encode
    "Usage: kill [-s sigspec | -signum | -sigspec] [pid | job]... or\nkill -l [exitstatus]")

def receive (signal : Nat) : Act Unit := do
  match (← get).traps.lookup signal with
  | some action =>
      if !action.isEmpty && signal ≠ 9 then
        modify fun machine => { machine with pending := machine.pending ++ [signal] }
      else if signal = 9 then
        throw (.killed signal)
  | none =>
      if signal = 0 || harmlessSignals.contains signal then pure () else throw (.killed signal)

def kill : BuiltIn := fun arguments => do
  let send := fun (signal : Nat) (targets : List Bytes) => do
    if targets.isEmpty then
      failSignalUsage
    let mut status := 0
    for target in targets do
      if target = Machine.number Machine.processNumber || target = [48] then
        receive signal
      else if (Utility.Condition.number? target).toOption.isSome then
        Act.complain (Utf8.encode "No such process\n")
        status := 1
      else
        Act.failNumber target
    return status
  let byName := fun (name : Bytes) (targets : List Bytes) => do
    match signal? (Utf8.decodeLenient name) with
    | some signal => send signal targets
    | none => Act.fail 2 (Utf8.encode "invalid signal number or name: " ++ name)
  match arguments with
  | [] => failSignalUsage
  | word :: rest =>
      match word with
      | [45, 108] =>
          match rest with
          | [] =>
              for name in signalNames.drop 1 do
                Act.printLine (Utf8.encode name)
              return 0
          | code :: _ =>
              let value ← number code
              let signal := if 128 < value then value - 128 else value
              if 0 < signal && signal < 65 then
                Act.printLine (Utf8.encode (signalName signal))
                return 0
              else
                Act.fail 2 (Utf8.encode "invalid signal number or exit status: " ++ code)
      | [45, 115] =>
          match rest with
          | [] => Act.fail 2 (Utf8.encode "No arg for -s option")
          | name :: targets => byName name targets
      | [45, 45] => send 15 rest
      | 45 :: b :: letters =>
          match signal? (Utf8.decodeLenient (b :: letters)) with
          | some signal => send signal rest
          | none => Act.fail 2 (Utf8.encode "Illegal option -" ++ [b])
      | _ => send 15 arguments

def trap : BuiltIn := fun arguments => do
  let (_, words) ← options "" arguments
  match words with
  | [] =>
      let traps := (← get).traps
      for signal in List.range 65 do
        match traps.lookup signal with
        | some action =>
            Act.print (Utf8.encode "trap -- " ++ quote action ++
              Utf8.encode s!" {signalName signal}\n")
        | none => pure ()
      return 0
  | first :: rest =>
      let isSignal := rest.isEmpty || (Utility.decimal? first).isSome
      let action := if isSignal || first = [45] then none else some first
      for word in if isSignal then words else rest do
        match signal? (Utf8.decodeLenient word) with
        | none =>
            modify fun machine => machine.write 2 (Utf8.encode "trap: " ++ word ++
              Utf8.encode ": bad trap\n")
            return 1
        | some signal =>
            modify fun machine =>
              let others := machine.traps.filter fun entry => entry.1 != signal
              { machine with
                traps := match action with
                  | some action => (signal, action) :: others
                  | none => others }
      return 0

/-- Wait for commands that have been started; all of them have ended already. -/
def wait : BuiltIn := fun arguments => do
  let mut status := 0
  for word in arguments do
    if word.head? == some 37 then
      let index := (Utility.decimal? word.tail).getD 1
      status := ((← get).children.reverse[index - 1]?.map (·.2)).getD 127
    else
      let process ← number word
      status := ((← get).children.lookup process).getD 127
  return status

/-! The rest -/

def describe (machine : Machine) (name : String) : Option (String × String) :=
  if Token.keywords.contains name then some (name, "a shell keyword")
  else if specialBuiltIns.contains name then some (name, "a special shell builtin")
  else if machine.functions.contains name then some (name, "a shell function")
  else if builtIns.contains name then some (name, "a shell builtin")
  else
    match machine.findProgram name with
    | .program _ path _ => some (path, path)
    | _ => none

def type : BuiltIn := fun arguments => do
  let mut status := 0
  for word in arguments do
    match describe (← get) (Utf8.decodeLenient word) with
    | some (_, meaning) => Act.printLine (word ++ Utf8.encode s!" is {meaning}")
    | none =>
        Act.printLine (word ++ Utf8.encode ": not found")
        status := 127
  return status

def commandNames : BuiltIn := fun words => do
  match words with
  | [] => return 0
  | word :: _ =>
      match describe (← get) (Utf8.decodeLenient word) with
      | some (name, _) =>
          Act.printLine (Utf8.encode name)
          return 0
      | none => return 127

def finish (halt : Halt) : BuiltIn := fun arguments => do
  match arguments with
  | [] => pure ()
  | word :: _ => Act.setStatus (← number word)
  throw halt

def leave (halt : Nat → Halt) : BuiltIn := fun arguments => do
  let count ←
    match arguments with
    | [] => pure 1
    | word :: _ => number word
  if count = 0 then
    Act.failNumber (arguments.head?.getD [])
  let loops := (← get).loops
  if loops = 0 then
    return 0
  else
    Act.setStatus 0
    throw (halt (min count loops))

def umask : BuiltIn := fun arguments => do
  let (options, words) ← options "S" arguments
  if words.isEmpty then
    Act.print (Utf8.encode (if has options 'S' then "u=rwx,g=rx,o=rx\n" else "0022\n"))
  return 0

def find? (name : String) : Option BuiltIn :=
  match name with
  | ":" => some fun _ => return 0
  | "true" => some fun _ => return 0
  | "false" => some fun _ => return 1
  | "echo" => some echo
  | "printf" => some printf
  | "test" => some test
  | "[" => some bracket
  | "export" =>
      some (markAll "export " (·.isExported) fun entry => { entry with isExported := true })
  | "readonly" => some (markAll "readonly " (·.isFixed) fun entry => { entry with isFixed := true })
  | "unset" => some unset
  | "local" => some shadow
  | "set" => some setAll
  | "shift" => some shift
  | "getopts" => some getopts
  | "read" => some read
  | "cd" => some cd
  | "chdir" => some cd
  | "pwd" => some pwd
  | "kill" => some kill
  | "trap" => some trap
  | "wait" => some wait
  | "type" => some type
  | "exit" => some (finish .ended)
  | "return" => some (finish .returned)
  | "break" => some (leave .broke)
  | "continue" => some (leave .continued)
  | "umask" => some umask
  | "ulimit" => some fun _ => do
      Act.print (Utf8.encode "unlimited\n")
      return 0
  | "times" => some fun _ => do
      Act.print (Utf8.encode "0m0.000000s 0m0.000000s\n0m0.000000s 0m0.000000s\n")
      return 0
  | "fg" => some fun _ => Act.fail 2 (Utf8.encode "No current job")
  | "bg" => some fun _ => Act.fail 2 (Utf8.encode "No current job")
  | "hash" => some fun _ => return 0
  | "jobs" => some fun _ => return 0
  | "alias" => some fun _ => return 0
  | "unalias" => some fun _ => return 0
  | _ => none

end BuiltIn

end Shell

end Reparse
