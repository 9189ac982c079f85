import Reparse.Ast.NormalForm
import Reparse.Json.Quoted

/-!
Canonical text: the normal form of a tree written as compact JSON, kind first, fields in the order
of their names, entries with metadata names left out.  Two trees mean the same exactly when their
texts are equal.
-/

namespace Reparse

namespace Ast

def semanticEntries (entries : List (String × Value)) : List (String × Value) :=
  entries.filter fun entry => !isMetadataName entry.1

mutual

def Node.plainText : Node → List Char
  | ⟨kind, _, fields, _⟩ =>
      '{' :: Quoted.encode ['t', 'y', 'p', 'e'] ++ ':' :: Quoted.encode kind.name.toList ++
        fieldsText fields ++ ['}']

def Value.plainText : Value → List Char
  | .null => ['n', 'u', 'l', 'l']
  | .bool true => ['t', 'r', 'u', 'e']
  | .bool false => ['f', 'a', 'l', 's', 'e']
  | .number value => value.scriptText
  | .text value => Quoted.encode value.toList
  | .list items => '[' :: itemsText items ++ [']']
  | .map entries => '{' :: entriesText entries ++ ['}']
  | .node node => node.plainText

def itemsText : List Value → List Char
  | [] => []
  | [item] => item.plainText
  | item :: next :: rest => item.plainText ++ ',' :: itemsText (next :: rest)

def fieldsText : List (String × Value) → List Char
  | [] => []
  | (name, value) :: rest =>
      if isMetadataName name then
        fieldsText rest
      else
        ',' :: Quoted.encode name.toList ++ ':' :: value.plainText ++ fieldsText rest

def entriesText : List (String × Value) → List Char
  | [] => []
  | (name, value) :: rest =>
      if isMetadataName name then
        entriesText rest
      else
        Quoted.encode name.toList ++ ':' :: value.plainText ++ fieldsText rest

end

mutual

/-- The text of a node in front of a text that follows it. -/
def Node.textBefore (following : List Char) : Node → List Char
  | ⟨kind, _, fields, _⟩ =>
      '{' :: Quoted.encode ['t', 'y', 'p', 'e'] ++ ':' :: Quoted.encode kind.name.toList ++
        fieldsTextBefore ('}' :: following) fields

def Value.textBefore (following : List Char) : Value → List Char
  | .null => 'n' :: 'u' :: 'l' :: 'l' :: following
  | .bool true => 't' :: 'r' :: 'u' :: 'e' :: following
  | .bool false => 'f' :: 'a' :: 'l' :: 's' :: 'e' :: following
  | .number value => value.scriptText ++ following
  | .text value => Quoted.encode value.toList ++ following
  | .list items => '[' :: itemsTextBefore (']' :: following) items
  | .map entries => '{' :: entriesTextBefore ('}' :: following) entries
  | .node node => node.textBefore following

def itemsTextBefore (following : List Char) : List Value → List Char
  | [] => following
  | [item] => item.textBefore following
  | item :: next :: rest => item.textBefore (',' :: itemsTextBefore following (next :: rest))

def fieldsTextBefore (following : List Char) : List (String × Value) → List Char
  | [] => following
  | (name, value) :: rest =>
      if isMetadataName name then
        fieldsTextBefore following rest
      else
        ',' :: Quoted.encode name.toList ++
          ':' :: value.textBefore (fieldsTextBefore following rest)

def entriesTextBefore (following : List Char) : List (String × Value) → List Char
  | [] => following
  | (name, value) :: rest =>
      if isMetadataName name then
        entriesTextBefore following rest
      else
        Quoted.encode name.toList ++ ':' :: value.textBefore (fieldsTextBefore following rest)

end

mutual

theorem Node.textBefore_eq (following : List Char) (node : Node) :
    node.textBefore following = node.plainText ++ following := by
  cases node with
  | mk kind span fields metadata =>
      simp [Node.textBefore, Node.plainText, fieldsTextBefore_eq _ fields]

theorem Value.textBefore_eq (following : List Char) (value : Value) :
    value.textBefore following = value.plainText ++ following := by
  cases value with
  | null => simp [Value.textBefore, Value.plainText]
  | bool value => cases value <;> simp [Value.textBefore, Value.plainText]
  | number value => simp [Value.textBefore, Value.plainText]
  | text value => simp [Value.textBefore, Value.plainText]
  | list items => simp [Value.textBefore, Value.plainText, itemsTextBefore_eq _ items]
  | map entries => simp [Value.textBefore, Value.plainText, entriesTextBefore_eq _ entries]
  | node node => simp [Value.textBefore, Value.plainText, Node.textBefore_eq _ node]

theorem itemsTextBefore_eq (following : List Char) (items : List Value) :
    itemsTextBefore following items = itemsText items ++ following := by
  match items with
  | [] => simp [itemsTextBefore, itemsText]
  | [item] => simp [itemsTextBefore, itemsText, Value.textBefore_eq _ item]
  | item :: next :: rest =>
      simp [itemsTextBefore, itemsText, Value.textBefore_eq _ item,
        itemsTextBefore_eq _ (next :: rest)]

theorem fieldsTextBefore_eq (following : List Char) (entries : List (String × Value)) :
    fieldsTextBefore following entries = fieldsText entries ++ following := by
  match entries with
  | [] => simp [fieldsTextBefore, fieldsText]
  | (name, value) :: rest =>
      simp only [fieldsTextBefore, fieldsText]
      split
      · exact fieldsTextBefore_eq following rest
      · simp [Value.textBefore_eq _ value, fieldsTextBefore_eq _ rest]

theorem entriesTextBefore_eq (following : List Char) (entries : List (String × Value)) :
    entriesTextBefore following entries = entriesText entries ++ following := by
  match entries with
  | [] => simp [entriesTextBefore, entriesText]
  | (name, value) :: rest =>
      simp only [entriesTextBefore, entriesText]
      split
      · exact entriesTextBefore_eq following rest
      · simp [Value.textBefore_eq _ value, fieldsTextBefore_eq _ rest]

end

def Node.canonicalText (node : Node) : String :=
  String.ofList (node.normalForm.textBefore [])

theorem Node.canonicalText_eq (node : Node) :
    node.canonicalText = String.ofList node.normalForm.plainText := by
  simp [Node.canonicalText, Node.textBefore_eq]

def Node.sameMeaning (left right : Node) : Bool :=
  left.canonicalText == right.canonicalText

end Ast

end Reparse
