import Reparse.Dictionary
import Reparse.Shell.Script
import Reparse.Storage.Volume

/-!
What a script changes while it runs.

The numbered streams of a command lead to channels, and several streams may lead to the same one.  A
shell also knows variables, functions and signals that it catches.
-/

namespace Reparse

namespace Shell

/-- What streams lead to. -/
inductive Channel where
  | source (rest : Bytes)
  /-- Bytes that have been written, in parts, the last one first. -/
  | sink (parts : List Bytes)
  | file (place : List String) (offset : Nat) (mode : OpenMode)
  | nowhere

namespace Channel

def written : Channel → Bytes
  | .sink parts => parts.reverse.flatten
  | _ => []

def canBeWritten : Channel → Bool
  | .source _ => false
  | .sink _ => true
  | .file _ _ mode => mode ≠ .read
  | .nowhere => true

end Channel

structure Variable where
  value : Option Bytes
  /-- Whether programs that are started get to know the variable. -/
  isExported : Bool := false
  isFixed : Bool := false

structure Machine where
  volume : Volume
  channels : Array Channel
  streams : List (Nat × Nat)
  values : Dictionary Variable := []
  functions : Dictionary Script := []
  /-- What is done about signals; nothing is done if it is empty.  Zero stands for the end. -/
  traps : List (Nat × Bytes) := []
  pending : List Nat := []
  options : List Char := []
  name : Bytes := []
  arguments : List Bytes := []
  status : Nat := 0
  /-- The status of the last script that was run for its output while words were expanded. -/
  outputStatus : Option Nat := none
  line : Nat := 0
  task : Option Bytes := none
  shadowed : List (List (String × Option Variable)) := []
  loops : Nat := 0
  optionOffset : Nat := 0
  children : List (Nat × Nat) := []
  hasLost : Bool := false

inductive Halt where
  | ended
  | failed
  | replaced
  | killed (signal : Nat)
  | broke (levels : Nat)
  | continued (levels : Nat)
  | returned
deriving DecidableEq

abbrev Act :=
  ExceptT Halt (StateM Machine)

namespace Machine

def start (volume : Volume) (input : Bytes) : Machine where
  volume := volume
  channels := #[.source input, .sink [], .sink []]
  streams := [(0, 0), (1, 1), (2, 2)]

def processNumber : Nat := 1000

def channel? (machine : Machine) (stream : Nat) : Option Channel :=
  (machine.streams.lookup stream).bind fun index => machine.channels[index]?

def setChannel (machine : Machine) (stream : Nat) (channel : Channel) : Machine :=
  match machine.streams.lookup stream with
  | none => machine
  | some index => { machine with channels := machine.channels.setIfInBounds index channel }

def lead (machine : Machine) (stream : Nat) (index : Option Nat) : Machine :=
  let others := machine.streams.filter fun entry => entry.1 != stream
  match index with
  | none => { machine with streams := others }
  | some index => { machine with streams := (stream, index) :: others }

def leadTo (machine : Machine) (stream : Nat) (channel : Channel) : Machine :=
  let index := machine.channels.size
  { machine with channels := machine.channels.push channel }.lead stream (some index)

def contentAt (machine : Machine) (place : List String) : Bytes :=
  match machine.volume.root.at? place with
  | some (.file content) => content
  | _ => []

def input (machine : Machine) (stream : Nat) : Bytes :=
  match machine.channel? stream with
  | some (.source rest) => rest
  | some (.file place offset mode) =>
      if mode = .read || mode = .readWrite then (machine.contentAt place).drop offset else []
  | _ => []

def setInput (machine : Machine) (stream : Nat) (rest : Bytes) : Machine :=
  match machine.channel? stream with
  | some (.source _) => machine.setChannel stream (.source rest)
  | some (.file place _ mode) =>
      let offset := (machine.contentAt place).length - rest.length
      machine.setChannel stream (.file place offset mode)
  | _ => machine

def overwrite (content : Bytes) (offset : Nat) (bytes : Bytes) : Bytes :=
  let gap := List.replicate (offset - content.length) 0
  content.take offset ++ gap ++ bytes ++ content.drop (offset + bytes.length)

def write (machine : Machine) (stream : Nat) (bytes : Bytes) : Machine :=
  if bytes.isEmpty then
    machine
  else
    match machine.channel? stream with
    | some (.sink parts) => machine.setChannel stream (.sink (bytes :: parts))
    | some (.file place offset mode) =>
        match machine.volume.root.at? place with
        | some (.file content) =>
            let offset := if mode = .append then content.length else offset
            let volume := machine.volume.setItem place (.file (overwrite content offset bytes))
            { machine with volume := volume }.setChannel stream
              (.file place (offset + bytes.length) mode)
        | _ => machine
    | _ => machine

def canWrite (machine : Machine) (stream : Nat) : Bool :=
  (machine.channel? stream).any Channel.canBeWritten

def complaint (machine : Machine) (text : Bytes) : Bytes :=
  let task := (machine.task.map (· ++ Utf8.encode ": ")).getD []
  machine.name ++ Utf8.encode s!": {machine.line}: " ++ task ++ text ++ [10]

def complain (machine : Machine) (text : Bytes) : Machine :=
  machine.write 2 (machine.complaint text)

def value? (machine : Machine) (name : String) : Option Bytes :=
  (machine.values.find? name).bind (·.value)

def setValue? (machine : Machine) (name : String) (value : Bytes) : Option Machine :=
  let all := machine.options.contains 'a'
  match machine.values.find? name with
  | none =>
      some { machine with values := machine.values.insert name ⟨some value, all, false⟩ }
  | some old =>
      if old.isFixed then
        none
      else
        let offset := if name = "OPTIND" then 0 else machine.optionOffset
        some { machine with
          values := machine.values.insert name
            { old with value := some value, isExported := old.isExported || all }
          optionOffset := offset }

def environment (machine : Machine) : List (String × Bytes) :=
  machine.values.filterMap fun (name, entry) =>
    if entry.isExported then entry.value.map (name, ·) else none

def separators (machine : Machine) : Bytes :=
  (machine.value? "IFS").getD [32, 9, 10]

def joint (machine : Machine) : Bytes :=
  match machine.value? "IFS" with
  | none => [32]
  | some separators => separators.take 1

def number (value : Nat) : Bytes :=
  Utf8.encode (toString value)

def parameter? (machine : Machine) (name : String) : Option Bytes :=
  match name with
  | "?" => some (number machine.status)
  | "#" => some (number machine.arguments.length)
  | "$" => some (number processNumber)
  | "!" => machine.children.head?.map fun child => number child.1
  | "-" => some (Utf8.encode (String.ofList machine.options))
  | "@" =>
      if machine.arguments.isEmpty then none else some (machine.joint.intercalate machine.arguments)
  | "*" =>
      if machine.arguments.isEmpty then none else some (machine.joint.intercalate machine.arguments)
  | "0" => some machine.name
  | _ =>
      match name.toNat? with
      | some 0 => some machine.name
      | some index => machine.arguments[index - 1]?
      | none => machine.value? name

/-- What lasts of commands that were run apart: what they did to channels and files. -/
def after (machine apart : Machine) : Machine :=
  { machine with
    volume := { apart.volume with workingDirectory := machine.volume.workingDirectory }
    channels := apart.channels }

end Machine

namespace Act

def fail {α : Type} (status : Nat) (text : Bytes) : Act α := do
  modify fun machine => { machine.complain text with status := status }
  throw .failed

def failNumber {α : Type} (word : Bytes) : Act α :=
  fail 2 (Utf8.encode "Illegal number: " ++ word)

def setValue (name : String) (value : Bytes) : Act Unit := do
  match (← get).setValue? name value with
  | some machine => set machine
  | none => fail 2 (Utf8.encode s!"{name}: is read only")

def print (bytes : Bytes) : Act Unit :=
  modify fun machine =>
    if bytes.isEmpty || machine.canWrite 1 then machine.write 1 bytes
    else { machine with hasLost := true }

def printLine (text : Bytes) : Act Unit :=
  print (text ++ [10])

def complain (text : Bytes) : Act Unit :=
  modify fun machine => machine.complain text

def setStatus (status : Nat) : Act Unit :=
  modify fun machine => { machine with status := status }

end Act

end Shell

end Reparse
