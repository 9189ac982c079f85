import Reparse.Dictionary

/-!
Values of a TOML document, and how its statements build tables.

How a table came to be decides what may still be added to it: a header may complete a table that was
only mentioned so far, a dotted key may go on in a table that dotted keys began, and an inline table
is finished where it stands.
-/

namespace Reparse

namespace Toml

inductive Origin where
  /-- Part of the path of a header. -/
  | mentioned
  /-- Part of a dotted key. -/
  | dotted
  /-- The end of a header. -/
  | header
  | inline
deriving DecidableEq

inductive Value where
  | string (text : String)
  | integer (value : Option Int)
  | scalar (spelling : String)
  | array (items : List Value)
  | tables (items : List Value)
  | table (origin : Origin) (entries : List (String × Value))

namespace Value

instance : Inhabited Value := ⟨.array []⟩

def emptyTable (origin : Origin) : Value :=
  .table origin []

end Value

def changeLast? {α : Type} (change : α → Option α) : List α → Option (List α)
  | [] => none
  | [last] => (change last).map ([·])
  | item :: rest => (changeLast? change rest).map (item :: ·)

/-- Whether a path may go through a table.  Dotted keys stay out of tables that have a header, and
nothing enters an inline table. -/
def mayEnter (dotted : Bool) (origin : Origin) : Bool :=
  match origin with
  | .inline => false
  | .header => !dotted
  | .mentioned | .dotted => true

def changeTable? (dotted : Bool) (change : Origin → Dictionary Value → Option (Dictionary Value)) :
    Value → Option Value
  | .table origin entries =>
      if mayEnter dotted origin then (change origin entries).map (.table origin) else none
  | _ => none

/-- Follow a path from the entries of a table, making the tables that are missing, and change the
table at its end.  A path through an array of tables goes on in the last of them. -/
def descend? (dotted : Bool) (change : Origin → Dictionary Value → Option (Dictionary Value)) :
    (path : List String) → Origin → Dictionary Value → Option (Dictionary Value)
  | [], origin, entries => change origin entries
  | key :: path, _, entries =>
      let next := descend? dotted change path
      match entries.find? key with
      | none => do
          let origin : Origin := if dotted then .dotted else .mentioned
          let made ← next origin []
          return entries.insert key (.table origin made)
      | some (.tables items) => do
          let items ← changeLast? (changeTable? dotted next) items
          return entries.insert key (.tables items)
      | some value => do
          let value ← changeTable? dotted next value
          return entries.insert key value

def addNew? (key : String) (value : Value) (entries : Dictionary Value) :
    Option (Dictionary Value) :=
  if entries.contains key then none else some (entries.insert key value)

def splitLast? : List String → Option (List String × String)
  | [] => none
  | [last] => some ([], last)
  | key :: path => (splitLast? path).map fun (before, last) => (key :: before, last)

/-- Add `path = value` to a table.  A dotted key ends in a table that dotted keys began. -/
def assign? (path : List String) (value : Value) (origin : Origin) (entries : Dictionary Value) :
    Option (Dictionary Value) := do
  let (before, last) ← splitLast? path
  let add := fun (reached : Origin) (entries : Dictionary Value) =>
    if !before.isEmpty && reached != .dotted then none else addNew? last value entries
  descend? true add before origin entries

def openTable? (path : List String) (root : Dictionary Value) : Option (Dictionary Value) := do
  let (before, last) ← splitLast? path
  let make := fun (_ : Origin) (entries : Dictionary Value) =>
    match entries.find? last with
    | none => some (entries.insert last (.emptyTable .header))
    | some (.table .mentioned inner) => some (entries.insert last (.table .header inner))
    | some _ => none
  descend? false make before .header root

def openNextTable? (path : List String) (root : Dictionary Value) : Option (Dictionary Value) := do
  let (before, last) ← splitLast? path
  let make := fun (_ : Origin) (entries : Dictionary Value) =>
    match entries.find? last with
    | none => some (entries.insert last (.tables [.emptyTable .header]))
    | some (.tables items) => some (entries.insert last (.tables (items ++ [.emptyTable .header])))
    | some _ => none
  descend? false make before .header root

def assignUnder? (header path : List String) (value : Value) (root : Dictionary Value) :
    Option (Dictionary Value) :=
  descend? false (assign? path value) header .header root

end Toml

end Reparse
