namespace Reparse

namespace Pattern

inductive Expression (α : Type) where
  | empty
  | symbol (accepts : α → Bool)
  | place (holds : Option α → Option α → Bool)
  | sequence (first second : Expression α)
  | either (first second : Expression α)
  | repeated (inner : Expression α) (least : Nat) (most : Option Nat)

namespace Expression

variable {α : Type}

def inSequence (parts : List (Expression α)) : Expression α :=
  parts.foldr .sequence .empty

def anyOf : List (Expression α) → Expression α
  | [] => .empty
  | [part] => part
  | part :: rest => .either part (anyOf rest)

end Expression

end Pattern

end Reparse
