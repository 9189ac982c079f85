import Reparse.Shell.Arithmetic
import Reparse.Shell.BuiltIn
import Reparse.Utility.Starter

/-!
Running scripts.

The fuel of a run bounds how deeply its steps are nested, so that each script comes to an end.  A
part of a script that runs apart changes files and what its streams lead to, but no variables.
-/

namespace Reparse

namespace Shell

namespace Act

def attempt {α : Type} (act : Act α) : Act (Except Halt α) :=
  ExceptT.lift act.run

def andFinally {α : Type} (act : Act α) (mend : Machine → Machine) : Act α := do
  let result ← attempt act
  modify mend
  match result with
  | .ok value => return value
  | .error halt => throw halt

end Act

def valueChunk (quoted : Bool) (value : Bytes) : Chunk :=
  if quoted then .whole value true else .split value

def dropLineFeeds (bytes : Bytes) : Bytes :=
  (bytes.reverse.dropWhile (· == 10)).reverse

namespace Machine

def chunks (machine : Machine) (name : String) (quoted : Bool) : List Chunk :=
  if name = "@" || (name = "*" && !quoted) then
    (machine.arguments.map (valueChunk quoted)).intersperse .gap
  else if name = "*" then
    [.whole (machine.joint.intercalate machine.arguments) true]
  else
    [valueChunk quoted ((machine.parameter? name).getD [])]

def names : Sum.Names Machine where
  value machine name :=
    match machine.value? name with
    | none => if machine.options.contains 'u' then .error (.unset name) else .ok 0
    | some value =>
        let text := Utf8.decodeLenient value
        match Sum.number? text with
        | some number => .ok number
        | none => .error (.notNumber text)
  set machine name value :=
    match machine.setValue? name (Utf8.encode (toString value.toInt)) with
    | some machine => .ok machine
    | none => .error (.readOnly name)

def home? (machine : Machine) (user : Bytes) : Option Bytes :=
  if user.isEmpty then machine.value? "HOME"
  else if user = Utf8.encode "root" then some (Utf8.encode "/root")
  else none

end Machine

namespace Piece

def expandHome (machine : Machine) (pieces : List Piece) : List Piece :=
  match pieces with
  | .text (126 :: content) false :: rest =>
      let user := content.takeWhile (· != 47)
      let after := content.drop user.length
      if after.isEmpty && !rest.isEmpty then
        pieces
      else
        match machine.home? user with
        | some home => .text home true :: .text after false :: rest
        | none => pieces
  | _ => pieces

def expandHomes (machine : Machine) (pieces : List Piece) : List Piece :=
  match expandHome machine pieces with
  | [.text content false] => parts false content
  | [.text home true, .text content false] => .text home true :: parts false content
  | pieces => pieces
where
  parts (isStart : Bool) (content : Bytes) : List Piece :=
    let segments := content.splitOn 58
    let replaced := segments.zipIdx.map fun (segment, index) =>
      if index = 0 && !isStart then [.text segment false]
      else expandHome machine [.text segment false]
    (replaced.intersperse [.text [58] false]).flatten

end Piece

def failureText (text : String) : Sum.Failure → String
  | .divisionByZero => s!"arithmetic expression: division by zero: \"{text}\""
  | .notNumber value => s!"Illegal number: {value}"
  | .unset name => s!"{name}: parameter not set"
  | .readOnly name => s!"{name}: is read only"

namespace Redirection

def stream : Redirection → Nat
  | .toFile stream _ _ => stream
  | .copy stream _ => stream
  | .given stream _ => stream

def deviceStream? (path : String) : Option Nat :=
  match path with
  | "/dev/stdin" => some 0
  | "/dev/stdout" => some 1
  | "/dev/stderr" => some 2
  | _ =>
      if path.startsWith "/dev/fd/" then (path.drop 8).toString.toNat?
      else if path.startsWith "/proc/self/fd/" then (path.drop 14).toString.toNat?
      else none

def openFault (isRead : Bool) : StorageError → String
  | .notFound => if isRead then "No such file" else "Directory nonexistent"
  | .notDirectory => if isRead then "No such file" else "Directory nonexistent"
  | error => error.reason

def openFile (machine : Machine) (stream : Nat) (mode : OpenMode) (word : Bytes) :
    Except Bytes Machine :=
  let path := Utf8.decodeLenient word
  let refuse := fun (isRead : Bool) (error : StorageError) =>
    let verb := if isRead then "cannot open " else "cannot create "
    Except.error (Utf8.encode verb ++ word ++ Utf8.encode s!": {openFault isRead error}")
  match deviceStream? path with
  | some source =>
      match machine.streams.lookup source with
      | some index => .ok (machine.lead stream (some index))
      | none => refuse (mode = .read) .notFound
  | none =>
      match mode with
      | .read =>
          match machine.volume.locate path with
          | .error error => refuse true error
          | .ok place =>
              if machine.volume.unreadable.contains place then
                refuse true .permissionDenied
              else
                match machine.volume.root.at? place with
                | some (.file _) => .ok (machine.leadTo stream (.file place 0 .read))
                | _ =>
                    if Utility.endlessNames.contains path then
                      let endless := List.replicate Utility.endlessSize 0
                      .ok (machine.leadTo stream (.source endless))
                    else
                      .ok (machine.leadTo stream .nowhere)
      | mode =>
          match machine.volume.fileTarget path with
          | .error error => refuse false error
          | .ok none => .ok (machine.leadTo stream .nowhere)
          | .ok (some place) =>
              let isThere := (machine.volume.root.at? place).isSome
              let volume :=
                if mode = .write || !isThere then machine.volume.setItem place (.file [])
                else machine.volume
              .ok ({ machine with volume := volume }.leadTo stream (.file place 0 mode))

end Redirection

namespace Machine

def leadBack (before : List (Nat × Nat)) (redirections : List Redirection) (machine : Machine) :
    Machine :=
  redirections.foldl
    (fun machine redirection =>
      machine.lead redirection.stream (before.lookup redirection.stream))
    machine

def startingValues (machine : Machine) (environment : List (String × Bytes)) :
    Dictionary Variable :=
  let given := environment.filter fun entry => isName entry.1 && entry.1 ≠ "IFS"
  let inner : List (String × Variable) :=
    [("IFS", ⟨some [32, 9, 10], false, false⟩), ("OPTIND", ⟨some [49], false, false⟩),
      ("PATH", ⟨some (Utf8.encode defaultSearchPath), false, false⟩),
      ("PPID", ⟨some [49], false, false⟩), ("PS1", ⟨some (Utf8.encode "# "), false, false⟩),
      ("PS2", ⟨some (Utf8.encode "> "), false, false⟩),
      ("PS4", ⟨some (Utf8.encode "+ "), false, false⟩)]
  let place := BuiltIn.placeText machine.volume.workingDirectory
  Dictionary.insertAll [] (inner ++ given.map (fun entry =>
    (entry.1, ⟨some entry.2, true, false⟩)) ++
    [("PWD", ⟨some place, true, false⟩)])

def fresh (machine : Machine) (name : Bytes) (environment : List (String × Bytes)) : Machine :=
  { volume := machine.volume
    channels := machine.channels
    streams := machine.streams
    values := machine.startingValues environment
    traps := machine.traps.filter fun entry => entry.2.isEmpty
    name := name }

def apart (machine : Machine) : Machine :=
  { machine with
    traps := machine.traps.filter fun entry => entry.2.isEmpty
    pending := [] }

end Machine

def runJob {α : Type} (performer : Utility.Performer) (name : String) (job : Utility.Job α) :
    Act (Except Nat α) := do
  let machine ← get
  let isFile := match machine.channel? 0 with
    | some (.file ..) => true
    | _ => false
  let work : Utility.Work :=
    { name := name
      input := machine.input 0
      volume := machine.volume
      isFile := isFile
      performer := performer }
  let (result, work) := job.run.run work
  let machine := { machine with volume := work.volume }.setInput 0 work.input
  set (work.said.reverse.foldl
    (fun machine saying => machine.write (if saying.isComplaint then 2 else 1) saying.text) machine)
  return result

/-- The status of a shell that runs a command which has ended in some way; `signal` tells what has
ended it. -/
def statusOf (status : Nat) (signal : Option Nat) : Nat :=
  match signal with
  | some signal => 128 + signal
  | none => status % 256

def performed (act : Act (Option Nat)) (input : Bytes) (volume : Volume) : Utility.Performed :=
  let (result, machine) := act.run.run (Machine.start volume input)
  let printed := fun (index : Nat) => (machine.channels[index]?.map Channel.written).getD []
  let status :=
    match result with
    | .ok (some signal) => 256 + signal
    | .error (.killed signal) => 256 + signal
    | _ => machine.status % 256
  let said := [⟨true, printed 2⟩, ⟨false, printed 1⟩]
  let left := { machine.volume with workingDirectory := volume.workingDirectory }
  ⟨status, said, machine.input 0, left⟩

def setFor (name : String) (value : Bytes) : Act Unit := do
  Act.setValue name value
  modify fun machine =>
    { machine with
      values := machine.values.replace name ⟨some value, true, false⟩ }

structure ShellOptions where
  letters : List Char := []
  rest : List Bytes := []

def readShellOptions (letters : List Char) : List Bytes → Except Bytes ShellOptions
  | [] => .ok ⟨letters, []⟩
  | word :: rest =>
      match word with
      | [45] => .ok ⟨letters, rest⟩
      | [45, 45] => .ok ⟨letters, rest⟩
      | 45 :: b :: more =>
          let isKnown := fun (b : UInt8) =>
            let letter := Char.ofNat b.toNat
            letter = 'c' || letter = 'l' || BuiltIn.optionLetters.contains letter
          let used := (b :: more).takeWhile (· != 111)
          match used.find? fun b => !isKnown b with
          | some b => .error (Utf8.encode "Illegal option -" ++ [b])
          | none =>
              let letters := letters ++ used.map fun b => Char.ofNat b.toNat
              if used.length = more.length + 1 then
                readShellOptions letters rest
              else
                match rest with
                | [] => .ok ⟨letters, []⟩
                | name :: rest =>
                    match BuiltIn.optionNames.lookup (Utf8.decodeLenient name) with
                    | some letter => readShellOptions (letters ++ [letter]) rest
                    | none => .error (Utf8.encode "Illegal option -o " ++ name)
      | _ => .ok ⟨letters, word :: rest⟩

mutual

def expand : (fuel : Nat) → List Piece → Act (List Chunk)
  | 0, _ => return []
  | _, [] => return []
  | fuel + 1, piece :: pieces => do
      let chunks ← expandPiece fuel piece
      let more ← expand fuel pieces
      return chunks ++ more

def expandText : (fuel : Nat) → List Piece → Act Bytes
  | 0, _ => return []
  | fuel + 1, pieces => do
      let chunks ← expand fuel pieces
      return Chunk.joined (← get).joint chunks

def expandPiece : (fuel : Nat) → Piece → Act (List Chunk)
  | 0, _ => return []
  | fuel + 1, piece => do
      let machine ← get
      let require := fun (name : String) =>
        if (machine.parameter? name).isNone && machine.options.contains 'u' && name ≠ "@" &&
          name ≠ "*"
        then Act.fail 2 (Utf8.encode s!"{name}: parameter not set")
        else pure ()
      match piece with
      | .text content quoted => return [.whole content quoted]
      | .parameter name quoted => do
          require name
          return machine.chunks name quoted
      | .length name quoted => do
          require name
          let value := (machine.parameter? name).getD []
          return [valueChunk quoted (Machine.number value.length)]
      | .trimmed name fromEnd longest pattern quoted => do
          require name
          let chunks ← expand fuel pattern
          let pattern := Chunk.pattern (← get).joint chunks
          let value := (machine.parameter? name).getD []
          return [valueChunk quoted (pattern.trim fromEnd longest value)]
      | .fallback name rule word quoted =>
          let value := if name = "@" || name = "*" then
              some ((machine.parameter? name).getD [])
            else
              machine.parameter? name
          let isSet := fun (empty : Bool) => value.isSome && !(empty && value == some [])
          let atLeastEmpty := fun (chunks : List Chunk) =>
            if chunks.isEmpty && quoted then [Chunk.whole [] true] else chunks
          let useWord := do
            return atLeastEmpty (Chunk.asValue quoted (← expand fuel word))
          let found := atLeastEmpty (machine.chunks name quoted)
          match rule with
          | .useInstead empty => if isSet empty then return found else useWord
          | .useIfSet empty => if isSet empty then useWord else return atLeastEmpty []
          | .assign empty =>
              if isSet empty then
                return found
              else do
                let value ← expandText fuel word
                if isName name then
                  Act.setValue name value
                  return [valueChunk quoted value]
                else
                  Act.fail 2 (Utf8.encode s!"{name}: bad variable name")
          | .complain empty =>
              if isSet empty then
                return found
              else do
                let text ← expandText fuel word
                let usual := if empty then "parameter not set or null" else "parameter not set"
                let text := if word.isEmpty then Utf8.encode usual else text
                Act.fail 2 (Utf8.encode s!"{name}: " ++ text)
      | .arithmetic expression quoted => do
          let text := Utf8.decodeLenient (← expandText fuel expression)
          match Sum.parse text.toList with
          | .error cause => Act.fail 2 (Utf8.encode s!"arithmetic expression: {cause}: \"{text}\"")
          | .ok sum =>
              match sum.evaluate Machine.names (← get) with
              | .error failure => Act.fail 2 (Utf8.encode (failureText text failure))
              | .ok (value, machine) => do
                  set machine
                  return [valueChunk quoted (Utf8.encode (toString value.toInt))]
      | .output script quoted => do
          let index := machine.channels.size
          set (machine.leadTo 1 (.sink []))
          (runApart fuel false script).andFinally fun after =>
            { after with streams := machine.streams }
          let after ← get
          let printed := (after.channels[index]?.map Channel.written).getD []
          set { after with
            channels := after.channels.extract 0 index
            status := machine.status
            outputStatus := some after.status }
          return [valueChunk quoted (dropLineFeeds (printed.filter (· != 0)))]
      | .malformed => Act.fail 2 (Utf8.encode "Bad substitution")

def expandFields : (fuel : Nat) → List (List Piece) → Act (List Bytes)
  | 0, _ => return []
  | _, [] => return []
  | fuel + 1, word :: words => do
      let chunks ← expand fuel (Piece.expandHome (← get) word)
      let machine ← get
      let fields := Chunk.fields machine.separators chunks
      let found :=
        if machine.options.contains 'f' then fields.map Field.text
        else fields.flatMap (Field.paths machine.volume)
      let more ← expandFields fuel words
      return found ++ more

def redirect : (fuel : Nat) → List Redirection → Act Bool
  | 0, _ => return false
  | _, [] => return true
  | fuel + 1, redirection :: redirections => do
      let goesOn ←
        match redirection with
        | .given stream text => do
            let text ← expandText fuel text
            modify fun machine => machine.leadTo stream (.source text)
            pure true
        | .copy stream source => do
            let word ← expandText fuel source
            match word with
            | [45] => do
                modify fun machine => machine.lead stream none
                pure true
            | [b] =>
                if 48 ≤ b && b ≤ 57 then
                  match (← get).streams.lookup (b.toNat - 48) with
                  | some index => do
                      modify fun machine => machine.lead stream (some index)
                      pure true
                  | none => do
                      Act.complain (b :: Utf8.encode ": Bad file descriptor")
                      pure false
                else
                  Act.fail 2 (Utf8.encode "Syntax error: Bad fd number")
            | _ => Act.fail 2 (Utf8.encode "Syntax error: Bad fd number")
        | .toFile stream mode target => do
            let word ← expandText fuel (Piece.expandHome (← get) target)
            match Redirection.openFile (← get) stream mode word with
            | .ok machine => do
                set machine
                pure true
            | .error complaint => do
                Act.complain complaint
                pure false
      if goesOn then redirect fuel redirections else return false

def redirected : (fuel : Nat) → List Redirection → Act Unit → Act Unit
  | 0, _, _ => return ()
  | fuel + 1, redirections, body => do
      let before := (← get).streams
      let all := do
        if ← redirect fuel redirections then body else Act.setStatus 2
      all.andFinally (Machine.leadBack before redirections)

def assignAll : (fuel : Nat) → (isLocal : Bool) → List (String × List Piece) → Act Unit
  | 0, _, _ => return ()
  | _, _, [] => return ()
  | fuel + 1, isLocal, (name, word) :: settings => do
      let value ← expandText fuel (Piece.expandHomes (← get) word)
      if (← get).options.contains 'x' then
        modify fun machine =>
          let mark := (machine.value? "PS4").getD []
          machine.write 2 (mark ++ Utf8.encode (name ++ "=") ++ value ++ [10])
      if isLocal then setFor name value else Act.setValue name value
      assignAll fuel isLocal settings

def runSimple :
    (fuel : Nat) → (tested : Bool) → List (String × List Piece) → List (List Piece) →
      List Redirection → Act Unit
  | 0, _, _, _, _ => return ()
  | fuel + 1, tested, settings, words, redirections => do
      modify fun machine => { machine with outputStatus := none }
      let fields ← expandFields fuel words
      let trace := do
        if (← get).options.contains 'x' then
          modify fun machine =>
            let mark := (machine.value? "PS4").getD []
            machine.write 2 (mark ++ ([32] : Bytes).intercalate fields ++ [10])
      match fields with
      | [] =>
          redirected fuel redirections do
            assignAll fuel false settings
            modify fun machine => { machine with status := machine.outputStatus.getD 0 }
      | name :: arguments =>
          let text := Utf8.decodeLenient name
          if text = "exec" && arguments.isEmpty then
            if ← redirect fuel redirections then
              assignAll fuel false settings
              Act.setStatus 0
            else
              Act.setStatus 2
              throw Halt.failed
          else if specialBuiltIns.contains text then
            let before := (← get).streams
            let all := do
              if ← redirect fuel redirections then
                assignAll fuel false settings
                trace
                runCommand fuel tested false text arguments
              else
                Act.setStatus 2
                throw Halt.failed
            all.andFinally (Machine.leadBack before redirections)
          else
            redirected fuel redirections do
              let old := (← get).values
              let names := settings.map (·.1)
              let all := do
                assignAll fuel true settings
                trace
                runCommand fuel tested false text arguments
              all.andFinally fun machine =>
                names.foldl
                  (fun machine name =>
                    let others := machine.values.filter fun entry => entry.1 != name
                    { machine with
                      values := match old.find? name with
                        | some entry => Dictionary.insert others name entry
                        | none => others })
                  machine

def runTask : (fuel : Nat) → (isSpecial : Bool) → (name : Bytes) → Act Unit → Act Unit
  | 0, _, _, _ => return ()
  | _ + 1, isSpecial, name, body => do
      let outer := (← get).task
      let loops := (← get).loops
      modify fun machine => { machine with task := some name, hasLost := false }
      let result ← body.attempt
      if (← get).hasLost then
        modify fun machine =>
          { machine.complain (name ++ Utf8.encode ": I/O error") with
            status := 1
            hasLost := false }
      modify fun machine => { machine with task := outer }
      match result with
      | .ok _ => return ()
      | .error .failed =>
          if isSpecial then
            throw Halt.failed
          else
            modify fun machine => { machine with loops := loops }
      | .error halt => throw halt

def runCommand :
    (fuel : Nat) → (tested isPlain : Bool) → (name : String) → List Bytes → Act Unit
  | 0, _, _, _, _ => throw Halt.ended
  | fuel + 1, tested, isPlain, name, arguments => do
      let word := Utf8.encode name
      let isSpecial := specialBuiltIns.contains name && !isPlain
      let task := runTask fuel isSpecial
      let machine ← get
      let function? := if isPlain then none else machine.functions.find? name
      match name, function? with
      | "eval", _ =>
          task word do
            let text := ([32] : Bytes).intercalate arguments
            if !(← runText fuel tested text) then
              Act.setStatus 0
      | ".", _ =>
          match arguments with
          | [] => task word (Act.fail 2 (Utf8.encode "filename argument required"))
          | file :: _ => task word (runFile fuel tested file)
      | "exec", _ =>
          match arguments with
          | [] => Act.setStatus 0
          | program :: arguments =>
              task word do
                let isThere ← runProgram fuel (Utf8.decodeLenient program) arguments
                throw (if isThere then .replaced else .ended)
      | _, some body => runFunction fuel tested body arguments
      | "command", none => task word (runPlain fuel tested arguments)
      | _, none =>
          match BuiltIn.find? name with
          | some builtIn =>
              task word do
                Act.setStatus (← builtIn arguments)
          | none =>
              let _ ← runProgram fuel name arguments
              return ()

def runPlain : (fuel : Nat) → (tested : Bool) → List Bytes → Act Unit
  | 0, _, _ => return ()
  | fuel + 1, tested, arguments => do
      let (options, words) ← BuiltIn.options "pvV" arguments
      if BuiltIn.has options 'V' then
        Act.setStatus (← BuiltIn.type (words.take 1))
      else if BuiltIn.has options 'v' then
        Act.setStatus (← BuiltIn.commandNames words)
      else
        match words with
        | [] => Act.setStatus 0
        | name :: arguments => do
            modify fun machine => { machine with task := none }
            runCommand fuel tested true (Utf8.decodeLenient name) arguments

def runFile : (fuel : Nat) → (tested : Bool) → (file : Bytes) → Act Unit
  | 0, _, _ => return ()
  | fuel + 1, tested, file => do
      let machine ← get
      let path := Utf8.decodeLenient file
      let found? :=
        if path.toList.contains '/' then
          some path
        else
          ((machine.searchPath.splitOn ":").map fun directory =>
            if directory.isEmpty then path
            else Path.join directory path).find? machine.volume.isFile
      match found? with
      | none => Act.fail 2 (file ++ Utf8.encode ": not found")
      | some path =>
          match machine.volume.readBytes path with
          | .error error =>
              let fault := Redirection.openFault true error
              Act.fail 2 (Utf8.encode "cannot open " ++ file ++ Utf8.encode s!": {fault}")
          | .ok text => do
              modify fun machine => { machine with task := some (Utf8.encode path) }
              match ← (runText fuel tested text).attempt with
              | .ok ranSome => if !ranSome then Act.setStatus 0
              | .error .returned => return ()
              | .error halt => throw halt

def runFunction : (fuel : Nat) → (tested : Bool) → Script → List Bytes → Act Unit
  | 0, _, _, _ => throw Halt.ended
  | fuel + 1, tested, body, arguments => do
      let outer ← get
      set { outer with
        arguments := arguments
        optionOffset := 0
        loops := 0
        shadowed := [] :: outer.shadowed }
      let result ← (run fuel tested body).attempt
      modify fun machine =>
        let frame := machine.shadowed.head?.getD []
        let values := frame.foldl
          (fun values (name, old) =>
            match old with
            | some entry => Dictionary.insert values name entry
            | none => values.filter fun entry => entry.1 != name)
          machine.values
        { machine with
          values := values
          arguments := outer.arguments
          optionOffset := outer.optionOffset
          loops := outer.loops
          shadowed := outer.shadowed }
      match result with
      | .ok _ => return ()
      | .error .returned => return ()
      | .error halt => throw halt

def runProgram : (fuel : Nat) → (name : String) → List Bytes → Act Bool
  | 0, _, _ => throw Halt.ended
  | fuel + 1, name, arguments => do
      let machine ← get
      match machine.findProgram name with
      | .program program _ front => do
          let calledAs := if front.isEmpty then name else program
          let signal ← start fuel program calledAs machine.environment (front ++ arguments)
          match signal with
          | none => modify fun machine => { machine with status := machine.status % 256 }
          | some signal => do
              if machine.task = some (Utf8.encode "exec") then
                throw (.killed signal)
              modify fun machine =>
                let text := (signalDescription? signal).map fun text => Utf8.encode (text ++ "\n")
                { machine.write 2 (text.getD []) with status := 128 + signal }
          return true
      | .obstacle => do
          modify fun machine =>
            { machine.complain (Utf8.encode s!"{name}: Permission denied") with status := 126 }
          return false
      | .missing => do
          let reason := if name.isEmpty then "Permission denied" else "not found"
          modify fun machine =>
            { machine.complain (Utf8.encode s!"{name}: {reason}") with status := 127 }
          return false

def start :
    (fuel : Nat) → (program calledAs : String) → List (String × Bytes) → List Bytes →
      Act (Option Nat)
  | 0, _, _, _, _ => throw Halt.ended
  | fuel + 1, program, calledAs, environment, arguments => do
      let call : Utility.Call := ⟨calledAs, arguments, environment⟩
      if shellNames.contains program then
        runShell fuel (Utf8.encode calledAs) environment arguments
      else
        let performer : Utility.Performer := fun name script input volume =>
          let arguments := [Utf8.encode "-c", script]
          performed (runShell fuel (Utf8.encode name) environment arguments) input volume
        match Utility.Starter.find? program, Utility.find? program with
        | some plan, _ => do
            match ← runJob performer calledAs (plan call) with
            | .error status => Act.setStatus status
            | .ok (.done status) => Act.setStatus status
            | .ok (.start program) => startPlanned fuel calledAs program
            | .ok (.startAll programs) => do
                Act.setStatus 0
                startAll fuel calledAs programs
            return none
        | none, some job => do
            match ← runJob performer calledAs (job call) with
            | .ok status => Act.setStatus status
            | .error status => Act.setStatus status
            return none
        | none, none => return none

def startPlanned : (fuel : Nat) → (starter : String) → Utility.Start → Act Unit
  | 0, _, _ => return ()
  | fuel + 1, starter, program => do
      let machine ← get
      let name := Utf8.decodeLenient (program.words.head?.getD [])
      let path := (program.environment.lookup "PATH").map Utf8.decodeLenient
      let refuse := fun (reason : String) (status : Nat) =>
        modify fun machine =>
          { machine.write 2 (Utf8.encode s!"{starter}: {program.refusal}: {reason}\n") with
            status := status }
      match findProgram machine.volume (path.getD defaultSearchPath) name with
      | .obstacle => refuse "Permission denied" 126
      | .missing => refuse "No such file or directory" 127
      | .program found _ front => do
          let calledAs := if front.isEmpty then name else found
          let body := do
            let signal ← start fuel found calledAs program.environment (front ++ program.words.tail)
            modify fun machine => { machine with status := statusOf machine.status signal }
          if program.getsInput then
            body
          else
            set (machine.leadTo 0 .nowhere)
            body.andFinally fun after => { after with streams := machine.streams }

def startAll : (fuel : Nat) → (starter : String) → List Utility.Start → Act Unit
  | 0, _, _ => return ()
  | _, _, [] => return ()
  | fuel + 1, starter, program :: programs => do
      let before := (← get).status
      startPlanned fuel starter program
      let status := (← get).status
      if status = 126 || status = 127 || status = 255 then
        Act.setStatus (if status = 255 then 124 else status)
      else
        Act.setStatus (if status = 0 then before else 123)
        startAll fuel starter programs

def runShell :
    (fuel : Nat) → (name : Bytes) → List (String × Bytes) → List Bytes → Act (Option Nat)
  | 0, _, _, _ => return none
  | fuel + 1, name, environment, arguments => do
      let outer ← get
      let fresh := outer.fresh name environment
      let refuse := fun (status : Nat) (text : Bytes) => do
        modify fun machine =>
          { machine.write 2 (name ++ Utf8.encode ": 0: " ++ text ++ [10]) with status := status }
        return none
      let runIn := fun (machine : Machine) (text : Bytes) => do
        set machine
        let result ← (runText fuel false text).attempt
        let signal ← finish fuel (result.map fun _ => ())
        let inner ← get
        set { outer.after inner with status := inner.status }
        return signal
      match readShellOptions [] arguments with
      | .error complaint => refuse 2 complaint
      | .ok options =>
          let fresh := { fresh with options := options.letters.filter fun letter => letter ≠ 'c' }
          let isText := options.letters.contains 'c'
          match isText, options.rest with
          | true, [] => refuse 2 (Utf8.encode "-c requires an argument")
          | true, [text] => runIn fresh text
          | true, text :: name :: rest => runIn { fresh with name := name, arguments := rest } text
          | false, [] => runIn (fresh.setInput 0 []) (fresh.input 0)
          | false, file :: rest =>
              if options.letters.contains 's' then
                runIn ({ fresh with arguments := file :: rest }.setInput 0 []) (fresh.input 0)
              else
                match outer.volume.readBytes (Utf8.decodeLenient file) with
                | .ok text => runIn { fresh with name := file, arguments := rest } text
                | .error error =>
                    let fault := Redirection.openFault true error
                    refuse 2 (Utf8.encode "cannot open " ++ file ++ Utf8.encode s!": {fault}")

def finish : (fuel : Nat) → Except Halt Unit → Act (Option Nat)
  | 0, _ => return none
  | fuel + 1, result => do
      match result with
      | .error (.killed signal) => return some signal
      | .error .replaced => return none
      | _ => do
          let machine ← get
          match machine.traps.lookup 0 with
          | none => return none
          | some action => do
              set { machine with
                traps := machine.traps.filter fun entry => entry.1 != 0
                task := none
                loops := 0 }
              match ← (runText fuel false action).attempt with
              | .error (.killed signal) => return some signal
              | .ok _ => do
                  Act.setStatus machine.status
                  return none
              | .error _ => return none

def runApart : (fuel : Nat) → (tested : Bool) → Script → Act Unit
  | 0, _, _ => return ()
  | fuel + 1, tested, script => do
      let outer ← get
      set outer.apart
      let result ← (run fuel tested script).attempt
      let signal ← finish fuel result
      let inner ← get
      set { outer.after inner with status := inner.status % 256 }
      match signal with
      | some signal => throw (.killed signal)
      | none => return ()

def runText : (fuel : Nat) → (tested : Bool) → Bytes → Act Bool
  | 0, _, _ => return false
  | fuel + 1, tested, text =>
      runSource fuel tested { text := (Utf8.decodeLenient text).toList } false

def runSource : (fuel : Nat) → (tested : Bool) → Source → (ranSome : Bool) → Act Bool
  | 0, _, _, _ => throw Halt.ended
  | fuel + 1, tested, source, ranSome => do
      match Reader.line source with
      | .error error => do
          modify fun machine => { machine with line := error.line }
          Act.fail 2 (Utf8.encode error.complaint)
      | .ok (script, rest) => do
          match script with
          | some script => run fuel tested script
          | none => pure ()
          let ranSome := ranSome || script.isSome
          if rest.text.isEmpty then return ranSome else runSource fuel tested rest ranSome

def settle : (fuel : Nat) → (tested : Bool) → Act Unit
  | 0, _ => return ()
  | fuel + 1, tested => do
      let machine ← get
      match machine.pending with
      | signal :: pending => do
          set { machine with pending := pending }
          let _ ← runText fuel false ((machine.traps.lookup signal).getD [])
          Act.setStatus machine.status
          settle fuel tested
      | [] => if machine.options.contains 'e' && !tested && machine.status ≠ 0 then throw Halt.ended

/-- Run a script.  After a command whose failure is looked at, which `tested` tells, the shell goes
on. -/
def run : (fuel : Nat) → (tested : Bool) → Script → Act Unit
  | 0, _, _ => throw Halt.ended
  | fuel + 1, tested, script => do
      if (← get).options.contains 'n' then
        return ()
      match script with
      | .nothing => Act.setStatus 0
      | .simple line settings words redirections => do
          modify fun machine => { machine with line := line }
          runSimple fuel tested settings words redirections
          settle fuel tested
      | .redirected line body redirections => do
          modify fun machine => { machine with line := line }
          redirected fuel redirections (run fuel tested body)
      | .sequence first second => do
          run fuel tested first
          run fuel tested second
      | .both first second => do
          run fuel true first
          if (← get).status = 0 then run fuel tested second
      | .either first second => do
          run fuel true first
          if (← get).status ≠ 0 then run fuel tested second
      | .negated body => do
          run fuel true body
          modify fun machine => { machine with status := if machine.status = 0 then 1 else 0 }
      | .piped first second => do
          let machine ← get
          let index := machine.channels.size
          set (machine.leadTo 1 (.sink []))
          (runApart fuel tested first).andFinally fun after =>
            { after with streams := machine.streams }
          let after ← get
          let printed := (after.channels[index]?.map Channel.written).getD []
          set ({ after with channels := after.channels.extract 0 index }.leadTo 0 (.source printed))
          (runApart fuel tested second).andFinally fun after =>
            { after with streams := machine.streams, channels := after.channels.extract 0 index }
          settle fuel tested
      | .separate body => do
          runApart fuel tested body
          settle fuel tested
      | .background body => do
          let machine ← get
          set (machine.leadTo 0 .nowhere)
          (runApart fuel false body).andFinally fun after =>
            { after with streams := machine.streams }
          modify fun after =>
            let process := Machine.processNumber + after.children.length + 1
            { after with children := (process, after.status) :: after.children, status := 0 }
      | .conditional condition consequence alternative => do
          run fuel true condition
          if (← get).status = 0 then run fuel tested consequence
          else run fuel tested alternative
      | .loop whileSuccess condition body => do
          let loops := (← get).loops
          modify fun machine => { machine with loops := loops + 1 }
          (runLoop fuel tested whileSuccess condition body 0).andFinally fun machine =>
            { machine with loops := loops }
      | .each line name words body => do
          modify fun machine => { machine with line := line }
          let values ← expandFields fuel words
          let loops := (← get).loops
          if values.isEmpty then
            Act.setStatus 0
          modify fun machine => { machine with loops := loops + 1 }
          (runEach fuel tested name values body).andFinally fun machine =>
            { machine with loops := loops }
      | .choice line subject arms => do
          modify fun machine => { machine with line := line }
          let value ← expandText fuel (Piece.expandHome (← get) subject)
          runArms fuel tested value arms
      | .definition name body => do
          modify fun machine =>
            { machine with functions := machine.functions.insert name body, status := 0 }

/-- Repeat the body of a loop; `last` is the status of the round before. -/
def runLoop :
    (fuel : Nat) → (tested whileSuccess : Bool) → (condition body : Script) → (last : Nat) →
      Act Unit
  | 0, _, _, _, _, _ => throw Halt.ended
  | fuel + 1, tested, whileSuccess, condition, body, last => do
      match ← (run fuel true condition).attempt with
      | .error (.broke levels) =>
          if 1 < levels then throw (.broke (levels - 1)) else return ()
      | .error (.continued levels) =>
          if 1 < levels then throw (.continued (levels - 1))
          else runLoop fuel tested whileSuccess condition body 0
      | .error halt => throw halt
      | .ok _ =>
          if ((← get).status = 0) ≠ whileSuccess then
            Act.setStatus last
          else
            match ← (run fuel tested body).attempt with
            | .error (.broke levels) =>
                if 1 < levels then throw (.broke (levels - 1)) else return ()
            | .error (.continued levels) =>
                if 1 < levels then throw (.continued (levels - 1))
                else runLoop fuel tested whileSuccess condition body 0
            | .error halt => throw halt
            | .ok _ => do
                let last := (← get).status
                runLoop fuel tested whileSuccess condition body last

def runEach : (fuel : Nat) → (tested : Bool) → (name : String) → List Bytes → Script → Act Unit
  | 0, _, _, _, _ => throw Halt.ended
  | _, _, _, [], _ => return ()
  | fuel + 1, tested, name, value :: values, body => do
      Act.setValue name value
      match ← (run fuel tested body).attempt with
      | .error (.broke levels) =>
          if 1 < levels then throw (.broke (levels - 1)) else return ()
      | .error (.continued levels) =>
          if 1 < levels then throw (.continued (levels - 1))
          else runEach fuel tested name values body
      | .error halt => throw halt
      | .ok _ => runEach fuel tested name values body

def runArms :
    (fuel : Nat) → (tested : Bool) → Bytes → List (List (List Piece) × Script) → Act Unit
  | 0, _, _, _ => return ()
  | _, _, _, [] => Act.setStatus 0
  | fuel + 1, tested, value, (patterns, body) :: arms => do
      if ← matchesSome fuel value patterns then
        run fuel tested body
      else
        runArms fuel tested value arms

def matchesSome : (fuel : Nat) → Bytes → List (List Piece) → Act Bool
  | 0, _, _ => return false
  | _, _, [] => return false
  | fuel + 1, value, pattern :: patterns => do
      let chunks ← expand fuel (Piece.expandHome (← get) pattern)
      let machine ← get
      if (Chunk.pattern machine.joint chunks).accepts value then return true
      else matchesSome fuel value patterns

end

end Shell

end Reparse
