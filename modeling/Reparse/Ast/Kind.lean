namespace Reparse

namespace Ast

inductive Kind where
  | sequenceExpression
  | objectProperty
  | objectMethod
  | classMethod
  | numericLiteral
  | stringLiteral
  | identifier
  | other (name : String)
deriving DecidableEq, Inhabited

namespace Kind

def ofName (name : String) : Kind :=
  if name = "SequenceExpression" then .sequenceExpression
  else if name = "ObjectProperty" then .objectProperty
  else if name = "ObjectMethod" then .objectMethod
  else if name = "ClassMethod" then .classMethod
  else if name = "NumericLiteral" then .numericLiteral
  else if name = "StringLiteral" then .stringLiteral
  else if name = "Identifier" then .identifier
  else .other name

def name : Kind → String
  | .sequenceExpression => "SequenceExpression"
  | .objectProperty => "ObjectProperty"
  | .objectMethod => "ObjectMethod"
  | .classMethod => "ClassMethod"
  | .numericLiteral => "NumericLiteral"
  | .stringLiteral => "StringLiteral"
  | .identifier => "Identifier"
  | .other name => name

def isKeyedMember : Kind → Bool
  | .objectProperty | .objectMethod | .classMethod => true
  | _ => false

/-- Place in the order of kinds; the kinds known by name share the last place. -/
def rank : Kind → Nat
  | .sequenceExpression => 0
  | .objectProperty => 1
  | .objectMethod => 2
  | .classMethod => 3
  | .numericLiteral => 4
  | .stringLiteral => 5
  | .identifier => 6
  | .other _ => 7

def le (left right : Kind) : Bool :=
  left.rank < right.rank || (left.rank == right.rank && decide (left.name ≤ right.name))

/-- The kind that a name gives: no known kind is spelled by its name only. -/
def Canonical (kind : Kind) : Prop :=
  ofName kind.name = kind

instance (kind : Kind) : Decidable kind.Canonical :=
  inferInstanceAs (Decidable (ofName kind.name = kind))

@[simp] theorem name_ofName (name : String) : (ofName name).name = name := by
  unfold ofName
  repeat' split
  all_goals simp_all [Kind.name]

theorem canonical_ofName (name : String) : (ofName name).Canonical := by
  simp [Canonical]

end Kind

end Ast

end Reparse
