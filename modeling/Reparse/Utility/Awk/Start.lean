import Reparse.Utility.Awk.Run
import Reparse.Utility.Options

namespace Reparse

namespace Utility

namespace Awk

structure Orders where
  separator : Option Bytes := none
  settings : List Bytes := []
  files : List Bytes := []
  words : List Bytes := []

def readOrders (orders : Orders) : List Bytes → Except Bytes Orders
  | [] => .ok orders
  | word :: rest =>
      if word == Utf8.encode "--" then
        .ok { orders with words := rest }
      else
        match word with
        | 45 :: letter :: attached =>
            let take := fun (value : Bytes) (rest : List Bytes) =>
              match Char.ofNat letter.toNat with
              | 'F' => some ({ orders with separator := some value }, rest)
              | 'v' => some ({ orders with settings := orders.settings ++ [value] }, rest)
              | 'f' => some ({ orders with files := orders.files ++ [value] }, rest)
              | 'W' => some (orders, rest)
              | _ => none
            match attached, rest with
            | [], value :: rest =>
                match take value rest with
                | some (orders, _) => readOrders orders rest
                | none => .error word
            | [], [] => .error word
            | attached, rest =>
                match take attached rest with
                | some (orders, _) => readOrders orders rest
                | none => .error word
        | _ => .ok { orders with words := word :: rest }

def applies (fuel : Nat) (number : Nat) (pattern : Pattern) : Step Bool := do
  match pattern with
  | .always => return true
  | .start => return false
  | .finish => return false
  | .holds condition => return (← evaluate fuel condition).isTrue
  | .between first last =>
      let isOpen := (← get).opened.contains number
      let starts ← if isOpen then pure true else (·.isTrue) <$> evaluate fuel first
      if !starts then
        return false
      else if (← evaluate fuel last).isTrue then
        modify fun memory => { memory with opened := memory.opened.filter (· != number) }
        return true
      else
        if !isOpen then
          modify fun memory => { memory with opened := number :: memory.opened }
        return true

def act (fuel : Nat) (rule : Rule) : Step Unit := do
  let action := rule.action.getD (.print [] .output)
  let _ ← run fuel action

def actAll (fuel : Nat) : List (Nat × Rule) → Step Unit
  | [] => return ()
  | (number, rule) :: rest => do
      if ← applies fuel number rule.pattern then
        act fuel rule
      actAll fuel rest

def plenty : Nat := 100000000

def actOnRecords (rules : List (Nat × Rule)) : (fuel : Nat) → Step Unit
  | 0 => return ()
  | fuel + 1 => do
      match ← Step.readRecord 100000 with
      | none => return ()
      | some record => do
          Step.countRecord "NR"
          Step.countRecord "FNR"
          modify fun memory => memory.setRecord record
          match ← actAll plenty rules with
          | () => actOnRecords rules fuel

/-- Work on all records; a rule may ask for the next record, or for the next file. -/
def actOnInput (rules : List (Nat × Rule)) : (fuel : Nat) → Step Unit
  | 0 => return ()
  | fuel + 1 => do
      let ended : Step (Option Stop) := do
        actOnRecords rules plenty
        return none
      match ← tryCatch ended fun stop => return some stop with
      | none => return ()
      | some .next => actOnInput rules fuel
      | some .nextFile => do
          modify fun memory => { memory with current := memory.current.map fun _ => [] }
          actOnInput rules fuel
      | some .exit => throw .exit

def isStart (rule : Rule) : Bool :=
  match rule.pattern with
  | .start => true
  | _ => false

def isFinish (rule : Rule) : Bool :=
  match rule.pattern with
  | .finish => true
  | _ => false

def exits (step : Step Unit) : Step Bool := do
  let ended : Step Bool := do
    step
    return false
  tryCatch ended fun stop =>
    match stop with
    | .exit => return true
    | _ => return false

def actOn (program : Program) : Step Unit := do
  let starts := program.rules.filter isStart
  let finishes := program.rules.filter isFinish
  let others := program.rules.filter fun rule => !isStart rule && !isFinish rule
  let numbered := (List.range others.length).zip others
  let hasLeft ← exits (starts.forM (act plenty))
  if !hasLeft && !(others.isEmpty && finishes.isEmpty) then
    let _ ← exits (actOnInput numbered plenty)
  let _ ← exits (finishes.forM (act plenty))
  Step.closeAll

def startingMemory (call : Call) (program : Program) (operands : List Bytes) : Memory :=
  let memory : Memory := { functions := program.functions, environment := call.environment }
  let words := Utf8.encode call.name :: operands
  let numbered := (List.range words.length).zip words
  let arguments := numbered.map fun entry =>
    (Utf8.encode (toString entry.1), Value.ofInput entry.2)
  let environment := call.environment.map fun entry => (Utf8.encode entry.1, Value.ofInput entry.2)
  let texts :=
    [("FS", " "), ("OFS", " "), ("ORS", "\n"), ("RS", "\n"), ("SUBSEP", "\x1c"),
      ("CONVFMT", "%.6g"), ("OFMT", "%.6g"), ("FILENAME", "")]
  let memory := texts.foldl
    (fun memory entry => memory.setGlobal entry.1 (.text (Utf8.encode entry.2)))
    memory
  let numbers :=
    [("NF", 0), ("NR", 0), ("FNR", 0), ("RSTART", 0), ("ARGC", words.length)]
  let memory := numbers.foldl (fun memory entry => memory.setGlobal entry.1 (.ofNat entry.2)) memory
  let memory := memory.setGlobal "RLENGTH" (.number (-1))
  (memory.setGlobalTable "ENVIRON" environment).setGlobalTable "ARGV" arguments

def usage : String :=
  "Usage: mawk [Options] [Program] [file ...]

Program:
    The -f option value is the name of a file containing program text.
    If no -f option is given, a \"--\" ends option processing; the following
    parameters are the program text.

Options:
    -f program-file  Program  text is read from file instead of from the
                     command-line.  Multiple -f options are accepted.
    -F value         sets the field separator, FS, to value.
    -v var=value     assigns value to program variable var.
    --               unambiguous end of options.

    Implementation-specific options are prefixed with \"-W\".  They can be
    abbreviated:

    -W version       show version information and exit.
    -W compat        pre-POSIX 2001.
    -W dump          show assembler-like listing of program and exit.
    -W help          show this message and exit.
    -W interactive   set unbuffered output, line-buffered input.
    -W exec file     use file as program as well as last option.
    -W posix         stricter POSIX checking.
    -W random=number set initial random seed.
    -W sprintf=number adjust size of sprintf buffer.
    -W usage         show this message and exit.
"

end Awk

def awk : Call → Job Nat := fun call => do
  match Awk.readOrders {} call.arguments with
  | .error word => Job.fail 2 (Utf8.encode "not an option: " ++ word)
  | .ok orders => do
      let mut source := []
      let mut operands := orders.words
      if orders.files.isEmpty then
        match orders.words with
        | [] =>
            Job.mutter (Utf8.encode Awk.usage)
            throw 0
        | first :: rest =>
            source := first
            operands := rest
      else
        for file in orders.files do
          match ← Job.read file with
          | .ok content => source := source ++ content ++ [10]
          | .error error =>
              Job.fail 2 (Utf8.encode "cannot open \"" ++ file ++
                Utf8.encode s!"\" ({error.reason})")
      match Awk.parse source with
      | .error reason => do
          for line in reason.splitOn 10 do
            Job.complain line
          return 2
      | .ok program => do
          let memory := Awk.startingMemory call program operands
          let body : Awk.Step Unit := do
            match orders.separator with
            | some separator =>
                modify fun memory =>
                  memory.setGlobal "FS" (.text (Awk.unescaped (separator.length + 1) separator))
            | none => pure ()
            for setting in orders.settings do
              match Awk.Step.assignment? setting with
              | some (name, value) => Awk.Step.assignOperand name value
              | none =>
                  Awk.Step.job
                    (Job.fail 2 (Utf8.encode "improper assignment: -v " ++ setting))
            Awk.actOn program
          let (_, memory) ← (body.run).run memory
          return memory.status

end Utility

end Reparse
