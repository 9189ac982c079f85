import Reparse.Utility.Awk.Program
import Reparse.Utility.Awk.Value
import Std.Data.HashMap

namespace Reparse

namespace Utility

namespace Awk

inductive Slot where
  | value (value : Value)
  | table (index : Nat)
  /-- Nothing yet, but the given table if one is asked for. -/
  | undecided (index : Nat)

instance : Inhabited Slot := ⟨.value .unset⟩

abbrev Table :=
  Std.HashMap Bytes (Nat × Value)

namespace Table

def bucket (buckets : Nat) (key : Bytes) : Nat :=
  let code := key.foldl
    (fun (code : UInt32) b => (code ^^^ b.toUInt32) * 16777619)
    (2166136261 : UInt32)
  code.toNat % buckets

def buckets (size : Nat) : (fuel : Nat) → (buckets : Nat) → Nat
  | 0, buckets => buckets
  | fuel + 1, buckets =>
      if 12 * buckets < size then Table.buckets size fuel (2 * buckets) else buckets

/-- The keys of a table bucket by bucket, the newest ones first. -/
def keys (table : Table) : List Bytes :=
  let count := buckets table.size 40 64
  let entries := table.toList.map fun entry => (bucket count entry.1, entry.2.1, entry.1)
  let comesFirst := fun (left right : Nat × Nat × Bytes) =>
    decide (left.1 < right.1) || (left.1 == right.1 && decide (right.2.1 ≤ left.2.1))
  (entries.mergeSort comesFirst).map fun entry => entry.2.2

end Table

structure Source where
  name : Bytes
  isCommand : Bool
  rest : Bytes
  status : Nat

structure Sink where
  name : Bytes
  isCommand : Bool
  pending : List Bytes

structure Memory where
  functions : List Function
  environment : List (String × Bytes)
  globals : Std.HashMap String Slot := {}
  frame : List (String × Slot) := []
  tables : Array Table := #[]
  clock : Nat := 0
  record : Bytes := []
  fields : Option (Array Value) := none
  operand : Nat := 0
  current : Option Bytes := none
  isFinished : Bool := false
  sources : List Source := []
  sinks : List Sink := []
  pending : List Bytes := []
  /-- The rules for records in a row whose first record has been found. -/
  opened : List Nat := []
  seed : Nat := 0
  status : Nat := 0

namespace Memory

def slot (memory : Memory) (name : String) : Slot :=
  match memory.frame.lookup name with
  | some slot => slot
  | none => memory.globals[name]?.getD (.value .unset)

def setSlot (memory : Memory) (name : String) (slot : Slot) : Memory :=
  if memory.frame.any fun entry => entry.1 == name then
    { memory with
      frame := memory.frame.map fun entry => if entry.1 == name then (name, slot) else entry }
  else
    { memory with globals := memory.globals.insert name slot }

def global (memory : Memory) (name : String) : Value :=
  match memory.globals[name]? with
  | some (.value value) => value
  | _ => .unset

def setGlobal (memory : Memory) (name : String) (value : Value) : Memory :=
  { memory with globals := memory.globals.insert name (.value value) }

def format (memory : Memory) : Bytes :=
  (memory.global "CONVFMT").toText []

def textOf (memory : Memory) (value : Value) : Bytes :=
  value.toText memory.format

def globalText (memory : Memory) (name : String) : Bytes :=
  memory.textOf (memory.global name)

def globalNumber (memory : Memory) (name : String) : Float :=
  (memory.global name).toNumber

/-! Tables -/

def tableOf (memory : Memory) (name : String) : Nat × Memory :=
  match memory.slot name with
  | .table index => (index, memory)
  | .undecided index => (index, memory.setSlot name (.table index))
  | .value _ =>
      let index := memory.tables.size
      (index, { memory with tables := memory.tables.push {} }.setSlot name (.table index))

def table (memory : Memory) (index : Nat) : Table :=
  memory.tables[index]?.getD {}

def setTable (memory : Memory) (index : Nat) (table : Table) : Memory :=
  { memory with tables := memory.tables.setIfInBounds index table }

def setElement (memory : Memory) (index : Nat) (key : Bytes) (value : Value) : Memory :=
  let stamp := ((memory.table index)[key]?.map Prod.fst).getD memory.clock
  { memory with
    clock := memory.clock + 1
    tables := memory.tables.modify index fun table => table.insert key (stamp, value) }

def element (memory : Memory) (index : Nat) (key : Bytes) : Value × Memory :=
  match (memory.table index)[key]? with
  | some (_, value) => (value, memory)
  | none => (.unset, memory.setElement index key .unset)

def setGlobalTable (memory : Memory) (name : String) (entries : List (Bytes × Value)) : Memory :=
  let (index, memory) := memory.tableOf name
  entries.foldl (fun memory entry => memory.setElement index entry.1 entry.2) memory

/-! Records and fields -/

inductive Separator where
  | blanks
  | everywhere
  | byte (separator : UInt8)
  | regex (expression : Regex)
  | never

def Separator.ofText (separator : Bytes) : Separator :=
  match separator with
  | [32] => .blanks
  | [] => .everywhere
  | [b] => .byte b
  | _ =>
      match Regex.parse { isExtended := true, hasEscapes := true } separator with
      | .ok expression => .regex expression
      | .error _ => .never

def splitByRegex (expression : Regex) (subject : Regex.Subject) :
    (fuel : Nat) → (start place : Nat) → List Bytes
  | 0, start, _ => [subject.slice start subject.bytes.size]
  | fuel + 1, start, place =>
      match expression.search subject place with
      | none => [subject.slice start subject.bytes.size]
      | some found =>
          if found.start = found.stop then
            if found.start < subject.bytes.size then
              splitByRegex expression subject fuel start (found.start + 1)
            else
              [subject.slice start subject.bytes.size]
          else
            subject.slice start found.start :: splitByRegex expression subject fuel found.stop
              found.stop

def splitAtBlanks (word : Bytes) (found : List Bytes) : Bytes → List Bytes
  | [] => (if word.isEmpty then found else word.reverse :: found).reverse
  | b :: rest =>
      if b = 32 || b = 9 || b = 10 then
        splitAtBlanks [] (if word.isEmpty then found else word.reverse :: found) rest
      else
        splitAtBlanks (b :: word) found rest

def Separator.split (separator : Separator) (text : Bytes) : List Bytes :=
  match separator with
  | .blanks => splitAtBlanks [] [] text
  | .everywhere => text.map fun b => [b]
  | .byte b => if text.isEmpty then [] else text.splitOn b
  | .regex expression =>
      if text.isEmpty then []
      else splitByRegex expression { bytes := text.toArray } (text.length + 1) 0 0
  | .never => if text.isEmpty then [] else [text]

def splitRecord (memory : Memory) : Array Value :=
  let separator := Separator.ofText (memory.globalText "FS")
  let parts := separator.split memory.record
  let parts :=
    match memory.globalText "RS", separator with
    | [], .blanks => parts
    | [], _ => (parts.map fun (part : Bytes) => part.splitOn 10).flatten
    | _, _ => parts
  (parts.map Value.ofInput).toArray

def knowFields (memory : Memory) : Array Value × Memory :=
  match memory.fields with
  | some fields => (fields, memory)
  | none =>
      let fields := memory.splitRecord
      (fields, { memory with fields := some fields }.setGlobal "NF" (.ofNat fields.size))

def setRecord (memory : Memory) (record : Bytes) : Memory :=
  { memory with record := record, fields := none }

def setFields (memory : Memory) (fields : Array Value) : Memory :=
  let texts := (fields.map memory.textOf).toList
  let record := (memory.globalText "OFS").intercalate texts
  { memory with record := record, fields := some fields }.setGlobal "NF" (.ofNat fields.size)

def field (memory : Memory) (number : Nat) : Value × Memory :=
  if number = 0 then
    (.ofInput memory.record, memory)
  else
    let (fields, memory) := memory.knowFields
    (fields[number - 1]?.getD .unset, memory)

def fieldsUpTo (fields : Array Value) (count : Nat) : Array Value :=
  fields ++ Array.replicate (count - fields.size) (.text [])

def setField (memory : Memory) (number : Nat) (value : Value) : Memory :=
  if number = 0 then
    memory.setRecord (memory.textOf value)
  else
    let (fields, memory) := memory.knowFields
    memory.setFields ((fieldsUpTo fields number).setIfInBounds (number - 1) value)

def value (memory : Memory) (name : String) : Value × Memory :=
  let memory := if name = "NF" then memory.knowFields.2 else memory
  match memory.slot name with
  | .value value => (value, memory)
  | _ => (.unset, memory)

def setValue (memory : Memory) (name : String) (value : Value) : Memory :=
  if name = "NF" then
    let (fields, memory) := memory.knowFields
    let count := (wholeOf value.toNumber).toNat
    memory.setFields ((fieldsUpTo fields count).extract 0 count)
  else
    let memory := if name = "FS" then memory.knowFields.2 else memory
    memory.setSlot name (.value value)

def cutRecord (separator text : Bytes) : Option (Bytes × Bytes) :=
  match separator with
  | [] =>
      let text := text.dropWhile (· == 10)
      if text.isEmpty then
        none
      else
        let subject : Regex.Subject := { bytes := text.toArray }
        let feed := Regex.one (ByteSet.ofBytes [10])
        match (Regex.both feed (.repeated 1 none feed)).search subject 0 with
        | some found => some (subject.slice 0 found.start, text.drop found.stop)
        | none => some (if text.getLast? == some 10 then text.dropLast else text, [])
  | [b] =>
      if text.isEmpty then
        none
      else
        let record := text.takeWhile (· != b)
        some (record, text.drop (record.length + 1))
  | _ =>
      if text.isEmpty then
        none
      else
        match Regex.parse { isExtended := true, hasEscapes := true } separator with
        | .error _ => some (text, [])
        | .ok expression =>
            let subject : Regex.Subject := { bytes := text.toArray }
            match expression.search subject 0 with
            | some found =>
                if found.start = found.stop then some (text, [])
                else some (subject.slice 0 found.start, text.drop found.stop)
            | none => some (text, [])

end Memory

end Awk

end Utility

end Reparse
