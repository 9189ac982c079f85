import Reparse.Minilang.Parser
import Mathlib.Data.List.Chain
import Reparse.Proofs.Ast.Unmarked

/-!
Derivations of the small expression language.

A derivation keeps the parentheses of a program, which leave no node in its tree.  A tidy derivation
has only those parentheses that its tree calls for.
-/

namespace Reparse

namespace Minilang

open Ast (Node Value)

inductive Key where
  | number (value : Binary64)
  | string (value : String)
  | identifier (name : String)

mutual

/-- `NUMBER | STRING | IDENT | "(" expr ")" | object` -/
inductive Operand where
  | number (value : Binary64)
  | string (value : String)
  | identifier (name : String)
  | group (inner : Expression)
  | object (properties : List Property)

/-- `operand ("," operand)*` -/
inductive Expression where
  | mk (first : Operand) (others : List Operand)

/-- `(IDENT | NUMBER | STRING) ":" operand | IDENT | "[" expr "]" ":" operand` -/
inductive Property where
  | named (key : Key) (value : Operand)
  | shorthand (name : String)
  | computed (key : Expression) (value : Operand)

end

def Lexeme.content : Lexeme → Lexeme
  | .number value _ => .number value ""
  | .string value _ => .string value ""
  | lexeme => lexeme

/-- What tokens say, wherever they stand and however they are spelled. -/
def contents (tokens : List Token) : List Lexeme :=
  tokens.map fun token => token.lexeme.content

def Key.lexeme : Key → Lexeme
  | .number value => .number value ""
  | .string value => .string value ""
  | .identifier name => .identifier name

mutual

def Operand.lexemes : Operand → List Lexeme
  | .number value => [.number value ""]
  | .string value => [.string value ""]
  | .identifier name => [.identifier name]
  | .group inner => .mark '(' :: (inner.lexemes ++ [.mark ')'])
  | .object properties => .mark '\x7b' :: (propertiesLexemes properties ++ [.mark '\x7d'])

def Expression.lexemes : Expression → List Lexeme
  | .mk first others => first.lexemes ++ othersLexemes others

def Property.lexemes : Property → List Lexeme
  | .named key value => key.lexeme :: .mark ':' :: value.lexemes
  | .shorthand name => [.identifier name]
  | .computed key value =>
      .mark '[' :: (key.lexemes ++ .mark ']' :: .mark ':' :: value.lexemes)

def othersLexemes : List Operand → List Lexeme
  | [] => []
  | operand :: rest => .mark ',' :: (operand.lexemes ++ othersLexemes rest)

def propertiesLexemes : List Property → List Lexeme
  | [] => []
  | [property] => property.lexemes
  | property :: next :: rest =>
      property.lexemes ++ .mark ',' :: propertiesLexemes (next :: rest)

end

def programLexemes : List Expression → List Lexeme
  | [] => []
  | statement :: rest => statement.lexemes ++ .mark ';' :: programLexemes rest

def numberTree (value : Binary64) : Node where
  kind := .numericLiteral
  span := none
  fields := [("value", .number value)]
  metadata := []

def stringTree (value : String) : Node :=
  Node.stringLiteral value

def identifierTree (name : String) : Node where
  kind := .identifier
  span := none
  fields := [("name", .text name)]
  metadata := []

def objectTree (properties : List Value) : Node where
  kind := .other "ObjectExpression"
  span := none
  fields := [("properties", .list properties)]
  metadata := []

def propertyTree (key value : Node) (computed shorthand : Bool) : Node where
  kind := .objectProperty
  span := none
  fields :=
    [("computed", .bool computed), ("key", .node key), ("shorthand", .bool shorthand),
      ("value", .node value)]
  metadata := []

def Key.tree : Key → Node
  | .number value => numberTree value
  | .string value => stringTree value
  | .identifier name => identifierTree name

mutual

def Operand.tree : Operand → Node
  | .number value => numberTree value
  | .string value => stringTree value
  | .identifier name => identifierTree name
  | .group inner => inner.tree
  | .object properties => objectTree (propertiesTrees properties)

def Expression.tree : Expression → Node
  | .mk first [] => first.tree
  | .mk first (second :: others) =>
      Node.sequence (.node first.tree :: operandsTrees (second :: others))

def Property.tree : Property → Node
  | .named key value => propertyTree key.tree value.tree false false
  | .shorthand name => propertyTree (identifierTree name) (identifierTree name) false true
  | .computed key value => propertyTree key.tree value.tree true false

def operandsTrees : List Operand → List Value
  | [] => []
  | operand :: rest => .node operand.tree :: operandsTrees rest

def propertiesTrees : List Property → List Value
  | [] => []
  | property :: rest => .node property.tree :: propertiesTrees rest

end

def statementTree (statement : Expression) : Value :=
  .node ⟨.other "ExpressionStatement", none, [("expression", .node statement.tree)], []⟩

def programTree (statements : List Expression) (goal : Goal) : Node where
  kind := .other "Program"
  span := none
  fields := [("body", .list (statements.map statementTree)), ("sourceType", .text goal.name)]
  metadata := []

mutual

/-- The derivation with no more parentheses than its tree calls for. -/
def Operand.tidy : Operand → Operand
  | .group (.mk first []) => first.tidy
  | .group (.mk first (second :: others)) =>
      .group (.mk first.tidy (operandsTidy (second :: others)))
  | .object properties => .object (propertiesTidy properties)
  | operand => operand

def Expression.tidy : Expression → Expression
  | .mk (.group inner) [] => inner.tidy
  | .mk first [] => .mk first.tidy []
  | .mk first (second :: others) => .mk first.tidy (operandsTidy (second :: others))

def Property.tidy : Property → Property
  | .named key value => .named key value.tidy
  | .shorthand name => .shorthand name
  | .computed key value => .computed key.tidy value.tidy

def operandsTidy : List Operand → List Operand
  | [] => []
  | operand :: rest => operand.tidy :: operandsTidy rest

def propertiesTidy : List Property → List Property
  | [] => []
  | property :: rest => property.tidy :: propertiesTidy rest

end

mutual

theorem Operand.tree_tidy (operand : Operand) : operand.tidy.tree = operand.tree := by
  cases operand with
  | number | string | identifier => rfl
  | group inner =>
      cases inner with
      | mk first others =>
          cases others with
          | nil => exact Operand.tree_tidy first
          | cons second others =>
              have rest := operandsTrees_tidy (second :: others)
              simp only [operandsTidy] at rest
              simp [Operand.tidy, Operand.tree, Expression.tree, operandsTidy,
                Operand.tree_tidy first, rest]
  | object properties =>
      simp [Operand.tidy, Operand.tree, propertiesTrees_tidy properties]

theorem Expression.tree_tidy (expression : Expression) :
    expression.tidy.tree = expression.tree := by
  cases expression with
  | mk first others =>
      cases others with
      | nil =>
          cases first with
          | group inner => exact Expression.tree_tidy inner
          | object properties => exact Operand.tree_tidy (.object properties)
          | number | string | identifier => rfl
      | cons second others =>
          have rest := operandsTrees_tidy (second :: others)
          simp only [operandsTidy] at rest
          simp [Expression.tidy, Expression.tree, operandsTidy, Operand.tree_tidy first, rest]

theorem Property.tree_tidy (property : Property) : property.tidy.tree = property.tree := by
  cases property with
  | named key value => simp [Property.tidy, Property.tree, Operand.tree_tidy value]
  | shorthand name => rfl
  | computed key value =>
      simp [Property.tidy, Property.tree, Expression.tree_tidy key, Operand.tree_tidy value]

theorem operandsTrees_tidy (operands : List Operand) :
    operandsTrees (operandsTidy operands) = operandsTrees operands := by
  match operands with
  | [] => rfl
  | operand :: rest =>
      simp [operandsTidy, operandsTrees, Operand.tree_tidy operand, operandsTrees_tidy rest]

theorem propertiesTrees_tidy (properties : List Property) :
    propertiesTrees (propertiesTidy properties) = propertiesTrees properties := by
  match properties with
  | [] => rfl
  | property :: rest =>
      simp [propertiesTidy, propertiesTrees, Property.tree_tidy property,
        propertiesTrees_tidy rest]

end

def Lexeme.isWord : Lexeme → Bool
  | .mark _ => false
  | _ => true

mutual

theorem Operand.words_tidy (operand : Operand) :
    operand.tidy.lexemes.filter Lexeme.isWord = operand.lexemes.filter Lexeme.isWord := by
  cases operand with
  | number | string | identifier => rfl
  | group inner =>
      cases inner with
      | mk first others =>
          cases others with
          | nil =>
              simp [Operand.tidy, Operand.lexemes, Expression.lexemes, othersLexemes,
                Operand.words_tidy first, Lexeme.isWord]
          | cons second others =>
              have rest := othersWords_tidy (second :: others)
              simp only [operandsTidy] at rest
              simp [Operand.tidy, Operand.lexemes, Expression.lexemes, operandsTidy,
                List.filter_cons, Operand.words_tidy first, rest]
  | object properties =>
      simp [Operand.tidy, Operand.lexemes, List.filter_cons, propertiesWords_tidy properties]

theorem Expression.words_tidy (expression : Expression) :
    expression.tidy.lexemes.filter Lexeme.isWord = expression.lexemes.filter Lexeme.isWord := by
  cases expression with
  | mk first others =>
      cases others with
      | nil =>
          cases first with
          | group inner =>
              simp [Expression.tidy, Expression.lexemes, Operand.lexemes, othersLexemes,
                Expression.words_tidy inner, Lexeme.isWord]
          | object properties =>
              simp [Expression.tidy, Expression.lexemes, othersLexemes,
                Operand.words_tidy (.object properties)]
          | number | string | identifier => rfl
      | cons second others =>
          have rest := othersWords_tidy (second :: others)
          simp only [operandsTidy] at rest
          simp [Expression.tidy, Expression.lexemes, operandsTidy, Operand.words_tidy first, rest]

theorem Property.words_tidy (property : Property) :
    property.tidy.lexemes.filter Lexeme.isWord = property.lexemes.filter Lexeme.isWord := by
  cases property with
  | named key value =>
      simp [Property.tidy, Property.lexemes, List.filter_cons, Operand.words_tidy value]
  | shorthand name => rfl
  | computed key value =>
      simp [Property.tidy, Property.lexemes, List.filter_cons, Expression.words_tidy key,
        Operand.words_tidy value]

theorem othersWords_tidy (operands : List Operand) :
    (othersLexemes (operandsTidy operands)).filter Lexeme.isWord =
      (othersLexemes operands).filter Lexeme.isWord := by
  match operands with
  | [] => rfl
  | operand :: rest =>
      simp [operandsTidy, othersLexemes, List.filter_cons, Operand.words_tidy operand,
        othersWords_tidy rest]

theorem propertiesWords_tidy (properties : List Property) :
    (propertiesLexemes (propertiesTidy properties)).filter Lexeme.isWord =
      (propertiesLexemes properties).filter Lexeme.isWord := by
  match properties with
  | [] => rfl
  | [property] => simp [propertiesTidy, propertiesLexemes, Property.words_tidy property]
  | property :: next :: rest =>
      have others := propertiesWords_tidy (next :: rest)
      simp only [propertiesTidy] at others
      simp [propertiesTidy, propertiesLexemes, List.filter_cons, Property.words_tidy property,
        others]

end

/-- Marks of the language with no two words side by side. -/
structure Neat (lexemes : List Lexeme) : Prop where
  apart : lexemes.IsChain fun left right => left.isWord = false ∨ right.isWord = false
  known : ∀ c, .mark c ∈ lexemes → c ∈ marks

theorem Neat.nil : Neat [] :=
  ⟨.nil, by simp⟩

theorem Neat.singleton {lexeme : Lexeme} (word : lexeme.isWord = true) : Neat [lexeme] := by
  refine ⟨.singleton lexeme, ?_⟩
  intro c member
  rw [← List.mem_singleton.1 member] at word
  contradiction

theorem Neat.tail {lexeme : Lexeme} {rest : List Lexeme} (neat : Neat (lexeme :: rest)) :
    Neat rest where
  apart := neat.apart.tail
  known := fun c member => neat.known c (List.mem_cons_of_mem _ member)

theorem Neat.join {left right : List Lexeme} {c : Char} (mark : c ∈ marks) (leftNeat : Neat left)
    (rightNeat : Neat right) : Neat (left ++ .mark c :: right) where
  apart := by
    refine List.isChain_append.2 ⟨leftNeat.apart, ?_, ?_⟩
    · exact List.isChain_cons.2 ⟨fun _ _ => .inl rfl, rightNeat.apart⟩
    · rintro _ - _ first
      cases first
      exact .inr rfl
  known := by
    intro other member
    rcases List.mem_append.1 member with member | member
    · exact leftNeat.known other member
    · rcases List.mem_cons.1 member with same | member
      · cases same
        exact mark
      · exact rightNeat.known other member

mutual

theorem Operand.neat (operand : Operand) : Neat operand.lexemes := by
  cases operand with
  | number | string | identifier => exact .singleton rfl
  | group inner =>
      have closed := (Expression.neat inner).join (c := ')') (by decide) .nil
      exact Neat.nil.join (by decide) closed
  | object properties =>
      have closed := (neat_propertiesLexemes properties).join (c := '\x7d') (by decide) .nil
      exact Neat.nil.join (by decide) closed

theorem Expression.neat (expression : Expression) : Neat expression.lexemes := by
  cases expression with
  | mk first others => exact neat_append_othersLexemes others (Operand.neat first)

theorem Property.neat (property : Property) : Neat property.lexemes := by
  cases property with
  | named key value =>
      have word : Neat [key.lexeme] := .singleton (by cases key <;> rfl)
      exact word.join (by decide) (Operand.neat value)
  | shorthand name => exact .singleton rfl
  | computed key value =>
      have colon := Neat.nil.join (c := ':') (by decide) (Operand.neat value)
      have closed := (Expression.neat key).join (c := ']') (by decide) colon
      exact Neat.nil.join (by decide) closed

theorem neat_append_othersLexemes (operands : List Operand) {left : List Lexeme}
    (leftNeat : Neat left) : Neat (left ++ othersLexemes operands) := by
  match operands with
  | [] => simpa [othersLexemes] using leftNeat
  | operand :: rest =>
      exact leftNeat.join (by decide) (neat_append_othersLexemes rest (Operand.neat operand))

theorem neat_propertiesLexemes (properties : List Property) :
    Neat (propertiesLexemes properties) := by
  match properties with
  | [] => exact .nil
  | [property] => exact Property.neat property
  | property :: next :: rest =>
      exact (Property.neat property).join (by decide) (neat_propertiesLexemes (next :: rest))

end

end Minilang

end Reparse
