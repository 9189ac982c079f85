import Reparse.Proofs.Ast.Nodes
import Reparse.Proofs.Minilang.Alteration

namespace Reparse

namespace Ast

def Value.isSequence : Value → Bool
  | .node inner => inner.kind == .sequenceExpression
  | _ => false

namespace Node

def isShorthand (node : Node) : Bool :=
  node.kind == .objectProperty && node.flag "shorthand"

def isObject (node : Node) : Bool :=
  node.kind == .other "ObjectExpression"

def nestsBehind (node : Node) : Bool :=
  node.kind == .sequenceExpression &&
    ((node.field? "expressions" >>= Value.list?).getD []).tail.any Value.isSequence

end Node

end Ast

namespace Minilang

open Ast (Node Value)

/-- The feature of nodes that a defect does harm to.  Some defects harm no node. -/
def Defect.symptom : Defect → Node → Bool
  | .expandShorthand => Node.isShorthand
  | .flattenSequences => Node.nestsBehind
  | .rejectObjects => Node.isObject
  | .quoteNumericKeys | .trailingParen => fun _ => false

section Lacks

variable {feature : Node → Bool}

theorem lacks_sequence {items : List Value} :
    (Node.sequence items).Lacks feature ↔
      feature (Node.sequence items) = false ∧ ∀ item ∈ items, item.Lacks feature := by
  rw [Node.sequence, Node.bare, Node.lacks_iff]
  simp

theorem lacks_objectTree {items : List Value} :
    (objectTree items).Lacks feature ↔
      feature (objectTree items) = false ∧ ∀ item ∈ items, item.Lacks feature := by
  rw [objectTree, Node.lacks_iff]
  simp

theorem lacks_propertyTree {key value : Node} {computed shorthand : Bool} :
    (propertyTree key value computed shorthand).Lacks feature ↔
      feature (propertyTree key value computed shorthand) = false ∧
        key.Lacks feature ∧ value.Lacks feature := by
  rw [propertyTree, Node.lacks_iff]
  simp

theorem lacks_programTree {statements : List Expression} {goal : Goal}
    (clear : feature (programTree statements goal) = false)
    (clearStatement : ∀ expression : Node,
      feature ⟨.other "ExpressionStatement", none, [("expression", .node expression)], []⟩ =
        false) :
    (programTree statements goal).Lacks feature ↔
      ∀ statement ∈ statements, statement.tree.Lacks feature := by
  rw [programTree] at clear ⊢
  simp [Node.lacks_iff, clear, statementTree, clearStatement]

end Lacks

theorem operandsTrees_eq (operands : List Operand) :
    operandsTrees operands = operands.map fun operand => .node operand.tree := by
  induction operands with
  | nil => rfl
  | cons operand rest induction => rw [operandsTrees, induction, List.map_cons]

theorem propertiesTrees_eq (properties : List Property) :
    propertiesTrees properties = properties.map fun property => .node property.tree := by
  induction properties with
  | nil => rfl
  | cons property rest induction => rw [propertiesTrees, induction, List.map_cons]

end Minilang

end Reparse
