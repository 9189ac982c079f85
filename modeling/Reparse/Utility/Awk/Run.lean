import Reparse.Utility.Awk.Memory
import Reparse.Utility.Awk.Parser

namespace Reparse

namespace Utility

namespace Awk

inductive Stop where
  | next
  | nextFile
  | exit

abbrev Step :=
  ExceptT Stop (StateT Memory Job)

inductive Flow where
  | onward
  | broken
  | continued
  | returned (value : Value)

namespace Step

def remember {α : Type} (act : Memory → α × Memory) : Step α := do
  let (result, memory) := act (← get)
  set memory
  return result

def job {α : Type} (act : Job α) : Step α :=
  monadLift act

def fail {α : Type} (reason : Bytes) : Step α := do
  let memory ← get
  let text := fun (name : String) => memory.globalText name
  job do
    Job.print memory.pending.reverse.flatten
    Job.complain (Utf8.encode "run time error: " ++ reason ++ Utf8.encode "\n\tFILENAME=\"" ++
      text "FILENAME" ++ Utf8.encode "\" FNR=" ++ text "FNR" ++ Utf8.encode " NR=" ++ text "NR")
    throw 2

def failOpen {α : Type} (file : Bytes) (error : StorageError) : Step α := do
  let memory ← get
  job do
    Job.print memory.pending.reverse.flatten
    match error with
    | .isDirectory => Job.complainText s!"read error ({error.reason})"
    | _ =>
        Job.complain (Utf8.encode "cannot open \"" ++ file ++
          Utf8.encode s!"\" ({error.reason})")
    throw 2

def flush : Step Unit := do
  let memory ← get
  set { memory with pending := [] }
  job (Job.print memory.pending.reverse.flatten)

def text (value : Value) : Step Bytes := do
  return (← get).textOf value

/-! Files and commands -/

def perform (shell : String) (script : Bytes) : Step (Nat × Bytes) := do
  flush
  job do
    let (performed, printed) ← Job.perform shell script (← get).input
    modify fun work => { work with input := performed.rest }
    return (performed.status, printed)

def performAloud (script : Bytes) : Step Nat := do
  let (status, printed) ← perform "sh" script
  job (Job.print printed)
  return status

def source? (name : Bytes) (isCommand : Bool) : Step (Option Source) := do
  let memory ← get
  match memory.sources.find? fun source => source.name == name && source.isCommand == isCommand with
  | some source => return some source
  | none =>
      let source? : Option Source ←
        if isCommand then do
          let (status, printed) ← perform "/bin/sh" name
          pure (some ⟨name, true, printed, status⟩)
        else
          match ← job (Job.read name) with
          | .ok content => pure (some ⟨name, false, content, 0⟩)
          | .error _ => pure none
      match source? with
      | some source => modify fun memory => { memory with sources := source :: memory.sources }
      | none => pure ()
      return source?

def readSource (source : Source) : Step (Option Bytes) := do
  let memory ← get
  match Memory.cutRecord (memory.globalText "RS") source.rest with
  | none => return none
  | some (record, rest) => do
      set { memory with
        sources := memory.sources.map fun (other : Source) =>
          if other.name == source.name && other.isCommand == source.isCommand then
            { other with rest := rest }
          else
            other }
      return some record

def printTo (name content : Bytes) (isCommand appends : Bool) : Step Unit := do
  let memory ← get
  let isThis := fun (sink : Sink) => sink.name == name && sink.isCommand == isCommand
  let isOpen := memory.sinks.any isThis
  if isCommand then
    if isOpen then
      set { memory with
        sinks := memory.sinks.map fun sink =>
          if isThis sink then { sink with pending := content :: sink.pending } else sink }
    else
      flush
      modify fun memory => { memory with sinks := ⟨name, true, [content]⟩ :: memory.sinks }
  else if name == [45] || name == Utf8.encode "/dev/stdout" then
    set { memory with pending := content :: memory.pending }
  else
    match ← job (Job.write name content (isOpen || appends)) with
    | .ok _ =>
        if !isOpen then
          modify fun memory => { memory with sinks := ⟨name, false, []⟩ :: memory.sinks }
    | .error error => failOpen name error

def close (name : Bytes) : Step Int := do
  let memory ← get
  let source? := memory.sources.find? fun source => source.name == name
  let sink? := memory.sinks.find? fun sink => sink.name == name
  set { memory with
    sources := memory.sources.filter fun source => source.name != name
    sinks := memory.sinks.filter fun sink => sink.name != name }
  match source?, sink? with
  | some source, _ => return source.status
  | none, some sink =>
      if sink.isCommand then
        let (performed, printed) ← job (Job.perform "/bin/sh" name sink.pending.reverse.flatten)
        job (Job.print printed)
        return performed.status
      else
        return 0
  | none, none => return -1

def closeAll : Step Unit := do
  for sink in (← get).sinks.reverse do
    let _ ← close sink.name
  flush

/-! Records -/

def assignment? (operand : Bytes) : Option (String × Bytes) :=
  let name := operand.takeWhile (· != 61)
  let isName := (name.head?).any isNameStart && name.all fun b => isNameStart b || isDigit b
  if isName && name.length < operand.length then
    some (Utf8.decodeLenient name, operand.drop (name.length + 1))
  else
    none

def assignOperand (name : String) (source : Bytes) : Step Unit := do
  modify fun memory =>
    { memory with frame := [] }.setValue name (.ofInput (unescaped (source.length + 1) source))

def nextOperand : (fuel : Nat) → Step (Option Bytes)
  | 0 => return none
  | fuel + 1 => do
      let memory ← get
      let number := memory.operand + 1
      if Float.ofNat number < memory.globalNumber "ARGC" then
        let (index, memory) := memory.tableOf "ARGV"
        let word := ((memory.table index)[Utf8.encode (toString number)]?.map Prod.snd).getD .unset
        set { memory with operand := number }
        let operand ← text word
        match assignment? operand with
        | some (name, source) => do
            let frame := (← get).frame
            assignOperand name source
            modify fun memory => { memory with frame := frame }
            nextOperand fuel
        | none => if operand.isEmpty then nextOperand fuel else return some operand
      else
        return none

def openNext : Step Bool := do
  let memory ← get
  let isFirst := memory.current.isNone
  match ← nextOperand 100000 with
  | some file =>
      match ← job (Job.read file) with
      | .error error => failOpen file error
      | .ok content =>
          modify fun memory =>
            { memory with current := some content }.setGlobal "FILENAME" (.text file)
              |>.setGlobal "FNR" (.number 0)
          return true
  | none =>
      if isFirst then
        let content ← job Job.takeInput
        modify fun memory =>
          { memory with current := some content }.setGlobal "FILENAME" (.text [45])
        return true
      else
        modify fun memory => { memory with isFinished := true }
        return false

def readRecord : (fuel : Nat) → Step (Option Bytes)
  | 0 => return none
  | fuel + 1 => do
      let memory ← get
      if memory.isFinished then
        return none
      else
        match memory.current with
        | none =>
            if ← openNext then readRecord fuel else return none
        | some rest =>
            match Memory.cutRecord (memory.globalText "RS") rest with
            | some (record, rest) => do
                set { memory with current := some rest }
                return some record
            | none => if ← openNext then readRecord fuel else return none

def countRecord (name : String) : Step Unit :=
  modify fun memory => memory.setGlobal name (.number (memory.globalNumber name + 1))

end Step

open Step

/-- The remainder that has the sign of the divided number. -/
def remainder (x y : Float) : Float :=
  if y == 0 || x.isInf || x.isNaN || y.isNaN then 0 / 0
  else if y.isInf then x
  else
    let quotient := x.abs / y.abs
    let rest := x.abs - quotient.floor * y.abs
    let rest := if rest < 0 then rest + y.abs else if y.abs ≤ rest then rest - y.abs else rest
    if x < 0 then -rest else rest

def Operation.apply (operation : Operation) (x y : Float) : Float :=
  match operation with
  | .plus => x + y
  | .minus => x - y
  | .times => x * y
  | .over => x / y
  | .modulo => remainder x y
  | .power => Float.pow x y

def Comparison.holds (comparison : Comparison) (less equal : Bool) : Bool :=
  match comparison with
  | .less => less
  | .atMost => less || equal
  | .equal => equal
  | .unequal => !equal
  | .greater => !less && !equal
  | .atLeast => !less

/-- Compare two values: as numbers where both are, else as texts. -/
def compareValues (memory : Memory) (comparison : Comparison) (left right : Value) : Bool :=
  match left.comparable?, right.comparable?, left, right with
  | _, _, .unset, .text bytes => comparison.holds (!bytes.isEmpty) bytes.isEmpty
  | _, _, .text bytes, .unset => comparison.holds false bytes.isEmpty
  | some x, some y, _, _ => comparison.holds (x < y) (x == y)
  | _, _, left, right =>
      let left := memory.textOf left
      let right := memory.textOf right
      comparison.holds (Value.comesBefore left right) (left == right)

def replacement (matched : Bytes) : Bytes → Bytes
  | 92 :: 38 :: rest => 38 :: replacement matched rest
  | 92 :: 92 :: rest => 92 :: replacement matched rest
  | 38 :: rest => matched ++ replacement matched rest
  | b :: rest => b :: replacement matched rest
  | [] => []

def substitute (expression : Regex) (subject : Regex.Subject) (new : Bytes) (isGlobal : Bool) :
    (fuel : Nat) → (place count : Nat) → (lastStop : Option Nat) → (made : Bytes) → Nat × Bytes
  | 0, place, count, _, made => (count, made.reverse ++ subject.slice place subject.bytes.size)
  | fuel + 1, place, count, lastStop, made =>
      match expression.search subject place with
      | none => (count, made.reverse ++ subject.slice place subject.bytes.size)
      | some found =>
          let kept := (subject.slice place found.start).reverse ++ made
          let step := fun (count : Nat) (made : Bytes) =>
            match subject.bytes[found.start]? with
            | none => (count, made.reverse)
            | some b =>
                substitute expression subject new isGlobal fuel (found.start + 1) count none
                  (b :: made)
          if found.start = found.stop && lastStop == some found.start then
            step count kept
          else
            let filled := replacement (subject.slice found.start found.stop) new
            let made := filled.reverse ++ kept
            if !isGlobal then
              (count + 1, made.reverse ++ subject.slice found.stop subject.bytes.size)
            else if found.start = found.stop then
              step (count + 1) made
            else
              substitute expression subject new isGlobal fuel found.stop (count + 1)
                (some found.stop)
                made

def partOf (text : Bytes) (first : Float) (length : Option Float) : Bytes :=
  let first := wholeOf first
  let length := (length.map wholeOf).getD 0x80000000
  let (first, length) := if first < 1 then (1, length - first) else (first, length)
  (text.drop (first - 1).toNat).take length.toNat

def placeOf (text wanted : Bytes) : Nat :=
  let rec go : Nat → Bytes → Nat
    | place, [] => if wanted.isEmpty then place else 0
    | place, b :: rest => if wanted.isPrefixOf (b :: rest) then place else go (place + 1) rest
  go 1 text

def compileText (source : Bytes) : Step Regex := do
  match compile source with
  | .ok expression => return expression
  | .error reason =>
      fail (Utf8.encode "regular expression compile failed (" ++ Utf8.encode reason ++
        Utf8.encode ")\n" ++ source)

def formatted (name : String) (values : List Value) : Step Bytes := do
  let memory ← get
  match values with
  | [] => return []
  | format :: values =>
      let format := memory.textOf format
      match formatFrom Value.toNumber memory.textOf (format.length + 1) 0 [] format values with
      | .ok made => return made
      | .error fault => do
          let (reason, made) :=
            match fault with
            | .tooFew made => ("not enough arguments passed to ", made)
            | .improper made number => (s!"improper conversion(number {number}) in ", made)
          if name = "printf" then
            modify fun memory => { memory with pending := made :: memory.pending }
          fail (Utf8.encode s!"{reason}{name}(\"" ++ format ++ Utf8.encode "\")")

def computed (name : String) (values : List Value) : Step Value := do
  let memory ← get
  let number := fun (index : Nat) => (values[index]?.getD .unset).toNumber
  let word := fun (index : Nat) => memory.textOf (values[index]?.getD .unset)
  match name with
  | "substr" => return .text (partOf (word 0) (number 1) (values[2]?.map Value.toNumber))
  | "index" => return .ofNat (placeOf (word 0) (word 1))
  | "sprintf" => return .text (← formatted "sprintf" values)
  | "sin" => return .number (number 0).sin
  | "cos" => return .number (number 0).cos
  | "atan2" => return .number (Float.atan2 (number 0) (number 1))
  | "exp" => return .number (number 0).exp
  | "log" => return .number (number 0).log
  | "sqrt" => return .number (number 0).sqrt
  | "int" =>
      let x := number 0
      return .number (if x < 0 then x.ceil else x.floor)
  | "rand" =>
      let seed := (memory.seed * 1103515245 + 12345) % 0x80000000
      set { memory with seed := seed }
      return .number (Float.ofNat seed / 2147483648.0)
  | "srand" =>
      set { memory with seed := (wholeOf (number 0)).natAbs }
      return .ofNat memory.seed
  | "tolower" =>
      return .text ((word 0).map fun b => if 65 ≤ b && b ≤ 90 then b + 32 else b)
  | "toupper" =>
      return .text ((word 0).map fun b => if 97 ≤ b && b ≤ 122 then b - 32 else b)
  | "system" => return .ofNat (← performAloud (word 0))
  | "close" => return .number (Float.ofInt (← close (word 0)))
  | "fflush" =>
      flush
      return .number 0
  | _ => return .ofNat (word 0).length

mutual

def evaluate : (fuel : Nat) → Expr → Step Value
  | 0, _ => fail (Utf8.encode "program is too deep")
  | fuel + 1, expr => do
      let number := fun (inner : Expr) => do
        return (← evaluate fuel inner).toNumber
      match expr with
      | .number x => return .number x
      | .text bytes => return .text bytes
      | .regex _ expression => return .ofBool (expression.isIn (← get).record)
      | .named name => remember fun memory => memory.value name
      | .element name index => do
          let key ← keyOf fuel index
          remember fun memory =>
            let (table, memory) := memory.tableOf name
            memory.element table key
      | .field place => do
          let place ← fieldNumber fuel place
          remember fun memory => memory.field place
      | .assign target inner => do
          let value ← evaluate fuel inner
          store fuel target value
          return value
      | .update operation target inner => do
          let y ← number inner
          let x ← number target
          let value := Value.number (operation.apply x y)
          store fuel target value
          return value
      | .count isUp givesNew target => do
          let x ← number target
          let y := if isUp then x + 1 else x - 1
          store fuel target (.number y)
          return .number (if givesNew then y else x)
      | .negate inner => return .number (-(← number inner))
      | .positive inner => return .number (← number inner)
      | .not inner => return .ofBool (!(← evaluate fuel inner).isTrue)
      | .arithmetic operation left right => do
          let x ← number left
          let y ← number right
          return .number (operation.apply x y)
      | .compare comparison left right => do
          let left ← evaluate fuel left
          let right ← evaluate fuel right
          return .ofBool (compareValues (← get) comparison left right)
      | .and left right => do
          if (← evaluate fuel left).isTrue then
            return .ofBool (← evaluate fuel right).isTrue
          else
            return .ofBool false
      | .or left right => do
          if (← evaluate fuel left).isTrue then
            return .ofBool true
          else
            return .ofBool (← evaluate fuel right).isTrue
      | .join left right => do
          let left ← text (← evaluate fuel left)
          let right ← text (← evaluate fuel right)
          return .text (left ++ right)
      | .agree isNegated subject pattern => do
          let subject ← text (← evaluate fuel subject)
          let expression ← expressionOf fuel pattern
          return .ofBool (expression.isIn subject != isNegated)
      | .isIn index name => do
          let key ← keyOf fuel index
          remember fun memory =>
            let (table, memory) := memory.tableOf name
            (.ofBool ((memory.table table).contains key), memory)
      | .choose condition yes no => do
          if (← evaluate fuel condition).isTrue then evaluate fuel yes else evaluate fuel no
      | .call name arguments => callFunction fuel name arguments
      | .builtIn name arguments => callBuiltIn fuel name arguments
      | .several items =>
          match items with
          | [single] => evaluate fuel single
          | items => return .text (← keyOf fuel items)
      | .readInput target => do
          match ← readRecord 100000 with
          | none => return .number 0
          | some record => do
              countRecord "NR"
              countRecord "FNR"
              keepRecord fuel target record
              return .number 1
      | .readFile file target => do
          let name ← text (← evaluate fuel file)
          match ← source? name false with
          | none => return .number (-1)
          | some source =>
              match ← readSource source with
              | none => return .number 0
              | some record => do
                  keepRecord fuel target record
                  return .number 1
      | .readCommand command target => do
          let name ← text (← evaluate fuel command)
          match ← source? name true with
          | none => return .number (-1)
          | some source =>
              match ← readSource source with
              | none => return .number 0
              | some record => do
                  keepRecord fuel target record
                  return .number 1

def keepRecord : (fuel : Nat) → Option Expr → Bytes → Step Unit
  | 0, _, _ => return ()
  | fuel + 1, target, record =>
      match target with
      | none => modify fun memory => memory.setRecord record
      | some target => store fuel target (.ofInput record)

def fieldNumber : (fuel : Nat) → Expr → Step Nat
  | 0, _ => return 0
  | fuel + 1, place => do
      let number := wholeOf (← evaluate fuel place).toNumber
      if number < 0 then
        fail (Utf8.encode s!"negative field index ${number}")
      else
        return number.toNat

def keyOf : (fuel : Nat) → List Expr → Step Bytes
  | 0, _ => return []
  | fuel + 1, index => do
      let values ← evaluateAll fuel index
      let memory ← get
      return (memory.globalText "SUBSEP").intercalate (values.map memory.textOf)

def evaluateAll : (fuel : Nat) → List Expr → Step (List Value)
  | 0, _ => return []
  | _, [] => return []
  | fuel + 1, expr :: rest => do
      let value ← evaluate fuel expr
      return value :: (← evaluateAll fuel rest)

def store : (fuel : Nat) → Expr → Value → Step Unit
  | 0, _, _ => return ()
  | fuel + 1, target, value =>
      match target with
      | .named name => modify fun memory => memory.setValue name value
      | .element name index => do
          let key ← keyOf fuel index
          modify fun memory =>
            let (table, memory) := memory.tableOf name
            memory.setElement table key value
      | .field place => do
          let place ← fieldNumber fuel place
          modify fun memory => memory.setField place value
      | .several [single] => store fuel single value
      | _ => return ()

def expressionOf : (fuel : Nat) → Expr → Step Regex
  | 0, _ => return .empty
  | fuel + 1, pattern =>
      match pattern with
      | .regex _ expression => return expression
      | pattern => do
          compileText (← text (← evaluate fuel pattern))

/-- Call a function of the program.  Tables are handed over as they are. -/
def callFunction : (fuel : Nat) → (name : String) → List Expr → Step Value
  | 0, _, _ => fail (Utf8.encode "program is too deep")
  | fuel + 1, name, arguments => do
      match (← get).functions.find? fun function => function.name == name with
      | none => return .unset
      | some function => do
          let slots ← handOver fuel arguments
          let caller := (← get).frame
          let missing := function.parameters.drop slots.length
          let frame :=
            function.parameters.zip slots ++ missing.map fun name => (name, .value .unset)
          modify fun memory => { memory with frame := frame }
          let flow ← run fuel function.body
          modify fun memory => { memory with frame := caller }
          match flow with
          | .returned value => return value
          | _ => return .unset

def handOver : (fuel : Nat) → List Expr → Step (List Slot)
  | 0, _ => return []
  | _, [] => return []
  | fuel + 1, argument :: rest => do
      let slot ←
        match argument with
        | .named name => do
            let (value, memory) := (← get).value name
            match memory.slot name with
            | .value .unset => do
                let index := memory.tables.size
                set ({ memory with tables := memory.tables.push {} }.setSlot name
                  (.undecided index))
                pure (Slot.undecided index)
            | .value _ => do
                set memory
                pure (.value value)
            | slot => pure slot
        | argument => do
            pure (.value (← evaluate fuel argument))
      return slot :: (← handOver fuel rest)

def callBuiltIn : (fuel : Nat) → (name : String) → List Expr → Step Value
  | 0, _, _ => return .unset
  | fuel + 1, name, arguments =>
      match name, arguments with
      | "length", [] => return .ofNat (← get).record.length
      | "length", [.named name] => do
          let memory ← get
          match memory.slot name with
          | .table index => return .ofNat (memory.table index).size
          | .undecided index => return .ofNat (memory.table index).size
          | .value _ => return .ofNat (← text (← evaluate fuel (.named name))).length
      | "split", subject :: .named table :: more => do
          let subject ← text (← evaluate fuel subject)
          let separator ←
            match more with
            | [] => do
                let memory ← get
                pure (Memory.Separator.ofText (memory.globalText "FS"))
            | .regex _ expression :: _ => pure (.regex expression)
            | other :: _ => do
                pure (.ofText (← text (← evaluate fuel other)))
          let parts := separator.split subject
          modify fun memory =>
            let (index, memory) := memory.tableOf table
            let memory := memory.setTable index {}
            let numbered := parts.zip (List.range parts.length)
            numbered.foldl
              (fun memory entry =>
                memory.setElement index (Utf8.encode (toString (entry.2 + 1))) (.ofInput entry.1))
              memory
          return .ofNat parts.length
      | "match", [subject, pattern] => do
          let subject ← text (← evaluate fuel subject)
          let expression ← expressionOf fuel pattern
          let (start, length) :=
            match expression.search { bytes := subject.toArray } 0 with
            | some found => (Value.ofNat (found.start + 1), Value.ofNat (found.stop - found.start))
            | none => (.number 0, .number (-1))
          modify fun memory => (memory.setGlobal "RSTART" start).setGlobal "RLENGTH" length
          return start
      | "sub", pattern :: new :: more => substituteIn fuel false pattern new more
      | "gsub", pattern :: new :: more => substituteIn fuel true pattern new more
      | name, arguments => do
          computed name (← evaluateAll fuel arguments)

def substituteIn : (fuel : Nat) → (isGlobal : Bool) → Expr → Expr → List Expr → Step Value
  | 0, _, _, _, _ => return .unset
  | fuel + 1, isGlobal, pattern, new, more => do
      let expression ← expressionOf fuel pattern
      let new ← text (← evaluate fuel new)
      let target := more.head?.getD (.field (.number 0))
      let subject ← text (← evaluate fuel target)
      let (count, made) :=
        substitute expression { bytes := subject.toArray } new isGlobal (2 * subject.length + 2) 0 0
          none []
      if count ≠ 0 then
        store fuel target (.text made)
      return .ofNat count

def deliver : (fuel : Nat) → Bytes → Destination → Step Unit
  | 0, _, _ => return ()
  | fuel + 1, content, destination =>
      match destination with
      | .output => modify fun memory => { memory with pending := content :: memory.pending }
      | .overFile name => do
          printTo (← text (← evaluate fuel name)) content false false
      | .afterFile name => do
          printTo (← text (← evaluate fuel name)) content false true
      | .command name => do
          printTo (← text (← evaluate fuel name)) content true false

def run : (fuel : Nat) → Statement → Step Flow
  | 0, _ => fail (Utf8.encode "program is too deep")
  | fuel + 1, statement => do
      match statement with
      | .evaluate value => do
          let _ ← evaluate fuel value
          return .onward
      | .print items destination => do
          let values ← if items.isEmpty then pure [] else evaluateAll fuel items
          let memory ← get
          let format := (memory.global "OFMT").toText []
          let texts :=
            if items.isEmpty then [memory.record] else values.map fun value => value.toText format
          let line := (memory.globalText "OFS").intercalate texts ++ memory.globalText "ORS"
          deliver fuel line destination
          return .onward
      | .printFormat items destination => do
          let values ← evaluateAll fuel items
          deliver fuel (← formatted "printf" values) destination
          return .onward
      | .block body => runAll fuel body
      | .branch condition yes no => do
          if (← evaluate fuel condition).isTrue then run fuel yes else run fuel no
      | .loop condition body => runLoop fuel (some condition) (.block []) body
      | .loopAfter body condition => do
          match ← run fuel body with
          | .broken => return .onward
          | .returned value => return .returned value
          | _ => runLoop fuel (some condition) (.block []) body
      | .loopFor start condition step body => do
          let _ ← run fuel start
          runLoop fuel condition step body
      | .forEach name table body => do
          let keys ← remember fun memory =>
            let (index, memory) := memory.tableOf table
            ((memory.table index).keys, memory)
          runEach fuel name keys body
      | .break => return .broken
      | .continue => return .continued
      | .next => throw .next
      | .nextFile => throw .nextFile
      | .exit status => do
          match status with
          | none => pure ()
          | some status => do
              let value ← evaluate fuel status
              modify fun memory =>
                { memory with status := ((wholeOf value.toNumber) % 256).toNat }
          throw .exit
      | .return value => do
          match value with
          | none => return .returned .unset
          | some value => return .returned (← evaluate fuel value)
      | .delete name index => do
          match index with
          | none =>
              modify fun memory =>
                let (table, memory) := memory.tableOf name
                memory.setTable table {}
          | some index => do
              let key ← keyOf fuel index
              modify fun memory =>
                let (table, memory) := memory.tableOf name
                memory.setTable table ((memory.table table).erase key)
          return .onward

def runAll : (fuel : Nat) → List Statement → Step Flow
  | 0, _ => fail (Utf8.encode "program is too deep")
  | _, [] => return .onward
  | fuel + 1, statement :: rest => do
      match ← run fuel statement with
      | .onward => runAll fuel rest
      | flow => return flow

def runLoop : (fuel : Nat) → Option Expr → (step body : Statement) → Step Flow
  | 0, _, _, _ => fail (Utf8.encode "program is too long")
  | fuel + 1, condition, step, body => do
      let goesOn ←
        match condition with
        | none => pure true
        | some condition => do
            pure (← evaluate fuel condition).isTrue
      if goesOn then
        match ← run fuel body with
        | .broken => return .onward
        | .returned value => return .returned value
        | _ => do
            let _ ← run fuel step
            runLoop fuel condition step body
      else
        return .onward

def runEach : (fuel : Nat) → (name : String) → List Bytes → (body : Statement) → Step Flow
  | 0, _, _, _ => return .onward
  | _, _, [], _ => return .onward
  | fuel + 1, name, key :: keys, body => do
      modify fun memory => memory.setValue name (.text key)
      match ← run fuel body with
      | .broken => return .onward
      | .returned value => return .returned value
      | _ => runEach fuel name keys body

end

end Awk

end Utility

end Reparse
