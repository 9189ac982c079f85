import Reparse.Ast.Tree
import Reparse.Binary64.Numeral
import Reparse.Tool.Goal

namespace Reparse

namespace Minilang

open Ast (Node Value)

inductive Defect where
  | expandShorthand
  | quoteNumericKeys
  /-- A sequence inside a sequence is printed without parentheses. -/
  | flattenSequences
  | trailingParen
  | rejectObjects
deriving DecidableEq

namespace Defect

def all : List Defect :=
  [.expandShorthand, .quoteNumericKeys, .flattenSequences, .trailingParen, .rejectObjects]

def name : Defect → String
  | .expandShorthand => "ExpandShorthand"
  | .quoteNumericKeys => "QuoteNumericKeys"
  | .flattenSequences => "FlattenSequences"
  | .trailingParen => "TrailingParen"
  | .rejectObjects => "RejectObjects"

def ofName? (name : String) : Option Defect :=
  all.find? fun defect => defect.name == name

end Defect

inductive PrintError where
  | sequenceWithoutExpressions
  | numberWithoutValue
  | missingText (kind : Ast.Kind) (field : String)
  | unprintableKind (kind : Ast.Kind)
  | objectsRejected
  | objectWithoutProperties
  | propertyWithoutKey
  | propertyWithoutValue
  | programWithoutBody
  | statementWithoutExpression
  | notNode
deriving DecidableEq

def PrintError.message : PrintError → String
  | .sequenceWithoutExpressions => "sequence without expressions"
  | .numberWithoutValue => "numeric literal without value"
  | .missingText kind field => s!"{kind.name} without {field}"
  | .unprintableKind kind => s!"cannot generate {kind.name}"
  | .objectsRejected => "object literals are not supported"
  | .objectWithoutProperties => "object without properties"
  | .propertyWithoutKey => "property without key"
  | .propertyWithoutValue => "property without value"
  | .programWithoutBody => "program without body"
  | .statementWithoutExpression => "statement without expression"
  | .notNode => "expected a node"

def required {α : Type} (error : PrintError) : Option α → Except PrintError α
  | none => .error error
  | some value => .ok value

def escape : Char → List Char
  | '"' => ['\\', '"']
  | '\\' => ['\\', '\\']
  | '\n' => ['\\', 'n']
  | '\t' => ['\\', 't']
  | c => [c]

def quote (text : String) : List Char :=
  '"' :: text.toList.flatMap escape ++ ['"']

def textField (node : Node) (name : String) : Except PrintError String :=
  required (.missingText node.kind name) (node.field? name >>= Value.text?)

def commaSeparated (parts : List (List Char)) : List Char :=
  [','].intercalate parts

def parenthesize (inside : List Char) : List Char :=
  '(' :: inside ++ [')']

def printKey (defect : Option Defect) (print : Bool → Node → Except PrintError (List Char))
    (computed : Bool) (key : Node) : Except PrintError (List Char) :=
  if computed then
    (print false key).map fun text => '[' :: text ++ [']']
  else if key.kind = .numericLiteral ∧ defect = some .quoteNumericKeys then
    let value := (key.field? "value" >>= Value.number?).getD default
    .ok (quote (String.ofList value.scriptText))
  else
    print false key

def printProperty (defect : Option Defect) (print : Bool → Node → Except PrintError (List Char))
    (item : Value) : Except PrintError (List Char) := do
  let property ← required .notNode item.node?
  let key ← required .propertyWithoutKey (property.fieldNode? "key")
  let value ← required .propertyWithoutValue (property.fieldNode? "value")
  if property.flag "shorthand" ∧ defect ≠ some .expandShorthand then
    print false key
  else
    let keyText ← printKey defect print (property.flag "computed") key
    let valueText ← print true value
    return keyText ++ ':' :: valueText

def printItem (defect : Option Defect) (print : Bool → Node → Except PrintError (List Char))
    (item : Value) : Except PrintError (List Char) := do
  let node ← required .notNode item.node?
  print (node.kind = .sequenceExpression ∧ defect ≠ some .flattenSequences) node

/-- The text of an expression of at most `depth` levels; `nested` asks for parentheses around a
sequence. -/
def printExpression (defect : Option Defect) :
    (depth : Nat) → (nested : Bool) → Node → Except PrintError (List Char)
  | 0, _, node => .error (.unprintableKind node.kind)
  | depth + 1, nested, node =>
      match node.kind with
      | .sequenceExpression => do
          let items ←
            required .sequenceWithoutExpressions (node.field? "expressions" >>= Value.list?)
          let texts ← items.mapM (printItem defect (printExpression defect depth))
          let text := commaSeparated texts
          return if nested then parenthesize text else text
      | .identifier => (textField node "name").map String.toList
      | .stringLiteral => (textField node "value").map quote
      | .numericLiteral =>
          (required .numberWithoutValue (node.field? "value" >>= Value.number?)).map
            Binary64.scriptText
      | .other "ObjectExpression" =>
          if defect = some .rejectObjects then
            .error .objectsRejected
          else do
            let properties ←
              required .objectWithoutProperties (node.field? "properties" >>= Value.list?)
            let texts ← properties.mapM (printProperty defect (printExpression defect depth))
            return '\x7b' :: commaSeparated texts ++ ['\x7d']
      | kind => .error (.unprintableKind kind)

def printStatement (defect : Option Defect) (compact : Bool) (item : Value) :
    Except PrintError (List Char) := do
  let statement ← required .notNode item.node?
  let expression ← required .statementWithoutExpression (statement.fieldNode? "expression")
  let text ← printExpression defect expression.height false expression
  return text ++ if compact then [';'] else [';', '\n']

def print (defect : Option Defect) (tree : Node) (options : GenerateOptions) :
    Except PrintError String := do
  let body ← required .programWithoutBody (tree.field? "body" >>= Value.list?)
  let texts ← body.mapM (printStatement defect options.compact)
  return String.ofList (texts.flatten ++ if defect = some .trailingParen then [')'] else [])

end Minilang

end Reparse
