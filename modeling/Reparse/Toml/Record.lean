import Reparse.Toml.Basic

namespace Reparse

namespace Toml

namespace Value

def text? : Value → Option String
  | .string text => some text
  | _ => none

def integer? : Value → Option Int
  | .integer value => value
  | _ => none

def items? : Value → Option (List Value)
  | .array items => some items
  | .tables items => some items
  | _ => none

def texts? (value : Value) : Option (List String) :=
  value.items? >>= List.mapM text?

end Value

/-- The values of the fields of a record in a table.  A table with any other name is refused. -/
def fields? (names : List String) (entries : Dictionary Value) : Option (List (Option Value)) :=
  if entries.all fun entry => names.contains entry.1 then
    some (names.map entries.find?)
  else
    none

/-- The values of the fields of a record, which is written as a table or, in the order of its
fields, as a list. -/
def Value.fields? (names : List String) : Value → Option (List (Option Value))
  | .table _ entries => Toml.fields? names entries
  | value => value.items?.map fun items => (List.range names.length).map (items[·]?)

def required? {α : Type} (read : Value → Option α) (field : Option Value) : Option α :=
  field >>= read

def orElse? {α : Type} (read : Value → Option α) (default : α) : Option Value → Option α
  | none => some default
  | some value => read value

end Toml

end Reparse
