import Reparse.Ast.Tree
import Reparse.Binary64.Numeral

/-!
The normal form of a tree.

Two choices of spelling are taken out: a sequence of three or more expressions becomes a left nest
of pairs, and the key of a member becomes a string literal when it is a numeric literal, or an
identifier in a member that is neither shorthand nor computed.  All other nodes are kept, with
their children in normal form.  Metadata is left as it is.
-/

namespace Reparse

namespace Ast

namespace Node

def sequence (expressions : List Value) : Node :=
  { bare .sequenceExpression with fields := [("expressions", .list expressions)] }

def stringLiteral (text : String) : Node :=
  { bare .stringLiteral with fields := [("value", .text text)] }

/-- The outermost pair of the left nest that begins with two values and goes on with the rest. -/
def leftNest (first second : Value) : List Value → List Value
  | [] => [first, second]
  | next :: rest => leftNest (.node (sequence [first, second])) next rest

def nestExpressions (node : Node) : Node :=
  match node.field? "expressions" with
  | some (.list (first :: second :: third :: rest)) =>
      { node with
        fields :=
          Dictionary.replace node.fields "expressions"
            (.list (leftNest first second (third :: rest))) }
  | _ => node

def keyText? (plain : Bool) (key : Node) : Option String :=
  match key.kind with
  | .numericLiteral =>
      (key.field? "value" >>= Value.number?).map fun value => String.ofList value.scriptText
  | .identifier => if plain then key.field? "name" >>= Value.text? else none
  | _ => none

def spellKey (node : Node) : Node :=
  match node.fieldNode? "key" >>= keyText? (!node.flag "shorthand" && !node.flag "computed") with
  | some text =>
      { node with
        fields := Dictionary.replace node.fields "key" (.node (stringLiteral text)) }
  | none => node

def reshape (node : Node) : Node :=
  if node.kind = .sequenceExpression then
    node.nestExpressions
  else if node.kind.isKeyedMember then
    node.spellKey
  else
    node

end Node

mutual

def Node.normalForm : Node → Node
  | ⟨kind, span, fields, metadata⟩ =>
      Node.reshape ⟨kind, span, entriesNormalForm fields, metadata⟩

def Value.normalForm : Value → Value
  | .list items => .list (itemsNormalForm items)
  | .map entries => .map (entriesNormalForm entries)
  | .node node => .node node.normalForm
  | value => value

def itemsNormalForm : List Value → List Value
  | [] => []
  | item :: rest => item.normalForm :: itemsNormalForm rest

def entriesNormalForm : List (String × Value) → List (String × Value)
  | [] => []
  | (name, value) :: rest => (name, value.normalForm) :: entriesNormalForm rest

end

theorem itemsNormalForm_eq_map (items : List Value) :
    itemsNormalForm items = items.map Value.normalForm := by
  induction items with
  | nil => rfl
  | cons item rest ih => simp [itemsNormalForm, ih]

theorem entriesNormalForm_eq_map (entries : List (String × Value)) :
    entriesNormalForm entries = entries.map fun entry => (entry.1, entry.2.normalForm) := by
  induction entries with
  | nil => rfl
  | cons entry rest ih => simp [entriesNormalForm, ih]

end Ast

end Reparse
