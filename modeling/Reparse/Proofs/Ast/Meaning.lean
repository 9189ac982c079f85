import Reparse.Ast.CanonicalText
import Reparse.Proofs.Binary64.NumeralText
import Reparse.Proofs.Dictionary

namespace Reparse

namespace Ast

mutual

/-- A tree without positions, metadata, entries with metadata names and spellings of numbers.  Kinds
count by their names. -/
def Node.erase : Node → Node
  | ⟨kind, _, fields, _⟩ => ⟨.ofName kind.name, none, entriesErase fields, []⟩

def Value.erase : Value → Value
  | .number value => .number value.representative
  | .list items => .list (itemsErase items)
  | .map entries => .map (entriesErase entries)
  | .node node => .node node.erase
  | value => value

def itemsErase : List Value → List Value
  | [] => []
  | item :: rest => item.erase :: itemsErase rest

def entriesErase : List (String × Value) → List (String × Value)
  | [] => []
  | (name, value) :: rest =>
      if isMetadataName name then entriesErase rest else (name, value.erase) :: entriesErase rest

end

theorem find?_semanticEntries (entries : List (String × Value)) (name : String) :
    Dictionary.find? (semanticEntries entries) name =
      if isMetadataName name then none else Dictionary.find? entries name := by
  rw [semanticEntries, Dictionary.find?_filter entries fun key => !isMetadataName key]
  cases isMetadataName name with
  | true => rfl
  | false => rfl

theorem find?_of_semanticEntries {entries : List (String × Value)} {name : String} {value : Value}
    (single : semanticEntries entries = [(name, value)]) :
    Dictionary.find? entries name = some value := by
  have found := find?_semanticEntries entries name
  rw [single, Dictionary.find?_cons, if_pos rfl] at found
  split at found
  · contradiction
  · exact found.symm

end Ast

end Reparse
