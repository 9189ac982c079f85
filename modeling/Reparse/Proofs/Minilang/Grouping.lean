import Reparse.Proofs.Minilang.Tolerance

/-!
One pair of parentheses more, around an operand or around the first operands of an expression.

A group leaves no node, so parentheses around an operand keep the tree.  Around the first operands
they leave a sequence at the front of a sequence, which nesting to the left makes of them anyway.
-/

namespace Reparse

namespace Minilang

open Ast (Node Value nested)

structure Place where
  before : List Lexeme
  inside : List Lexeme
  after : List Lexeme

namespace Place

def within (place : Place) (left right : List Lexeme) : Place where
  before := left ++ place.before
  inside := place.inside
  after := place.after ++ right

/-- The parentheses turn some lexemes into others. -/
structure Turns (place : Place) (lexemes enclosed : List Lexeme) : Prop where
  given : place.before ++ (place.inside ++ place.after) = lexemes
  enclosed : place.before ++ .mark '(' :: (place.inside ++ .mark ')' :: place.after) = enclosed
  begun : place.inside ≠ []

theorem Turns.within {place : Place} {lexemes enclosed : List Lexeme}
    (turns : place.Turns lexemes enclosed) (left right : List Lexeme) :
    (place.within left right).Turns (left ++ (lexemes ++ right)) (left ++ (enclosed ++ right)) where
  given := by simp [← turns.given, Place.within]
  enclosed := by simp [← turns.enclosed, Place.within]
  begun := turns.begun

theorem Turns.behind {place : Place} {lexemes enclosed : List Lexeme}
    (turns : place.Turns lexemes enclosed) (left : List Lexeme) :
    (place.within left []).Turns (left ++ lexemes) (left ++ enclosed) := by
  have both := turns.within left []
  rwa [List.append_nil, List.append_nil] at both

end Place

mutual

/-- Parentheses go around an operand or around something in it, which gives another operand. -/
inductive Operand.Encloses : Operand → Place → Operand → Prop where
  | whole (operand : Operand) :
      Operand.Encloses operand ⟨[], operand.lexemes, []⟩ (.group (.mk operand []))
  | group {inner place enclosed} (deeper : Expression.Encloses inner place enclosed) :
      Operand.Encloses (.group inner) (place.within [.mark '('] [.mark ')']) (.group enclosed)
  | object {properties place enclosed} (deeper : PropertiesEnclose properties place enclosed) :
      Operand.Encloses (.object properties) (place.within [.mark '\x7b'] [.mark '\x7d'])
        (.object enclosed)

/-- Parentheses go around the first operands, which may be one or all of them, or around something
in an operand. -/
inductive Expression.Encloses : Expression → Place → Expression → Prop where
  | front (first : Operand) (others rest : List Operand) :
      Expression.Encloses (.mk first (others ++ rest))
        ⟨[], first.lexemes ++ othersLexemes others, othersLexemes rest⟩
        (.mk (.group (.mk first others)) rest)
  | first (others : List Operand) {operand place enclosed}
      (deeper : Operand.Encloses operand place enclosed) :
      Expression.Encloses (.mk operand others) (place.within [] (othersLexemes others))
        (.mk enclosed others)
  | others (first : Operand) {others place enclosed}
      (deeper : OthersEnclose others place enclosed) :
      Expression.Encloses (.mk first others) (place.within first.lexemes []) (.mk first enclosed)

inductive OthersEnclose : List Operand → Place → List Operand → Prop where
  | here (rest : List Operand) {operand place enclosed}
      (deeper : Operand.Encloses operand place enclosed) :
      OthersEnclose (operand :: rest) (place.within [.mark ','] (othersLexemes rest))
        (enclosed :: rest)
  | there (operand : Operand) {rest place enclosed} (deeper : OthersEnclose rest place enclosed) :
      OthersEnclose (operand :: rest) (place.within (.mark ',' :: operand.lexemes) [])
        (operand :: enclosed)

inductive PropertiesEnclose : List Property → Place → List Property → Prop where
  | here (rest : List Property) {property place enclosed}
      (deeper : Property.Encloses property place enclosed) :
      PropertiesEnclose (property :: rest)
        (place.within [] (rest.flatMap fun other => .mark ',' :: other.lexemes)) (enclosed :: rest)
  | there (property : Property) {rest place enclosed}
      (deeper : PropertiesEnclose rest place enclosed) :
      PropertiesEnclose (property :: rest) (place.within (property.lexemes ++ [.mark ',']) [])
        (property :: enclosed)

inductive Property.Encloses : Property → Place → Property → Prop where
  | named (key : Key) {value place enclosed}
      (deeper : Operand.Encloses value place enclosed) :
      Property.Encloses (.named key value) (place.within [key.lexeme, .mark ':'] [])
        (.named key enclosed)
  | key (value : Operand) {key place enclosed}
      (deeper : Expression.Encloses key place enclosed) :
      Property.Encloses (.computed key value)
        (place.within [.mark '['] (.mark ']' :: .mark ':' :: value.lexemes))
        (.computed enclosed value)
  | value (key : Expression) {value place enclosed}
      (deeper : Operand.Encloses value place enclosed) :
      Property.Encloses (.computed key value)
        (place.within (.mark '[' :: (key.lexemes ++ [.mark ']', .mark ':'])) [])
        (.computed key enclosed)

end

/-- Parentheses go around something in a statement of a program. -/
inductive ProgramEncloses : List Expression → Place → List Expression → Prop where
  | here (rest : List Expression) {statement place enclosed}
      (deeper : Expression.Encloses statement place enclosed) :
      ProgramEncloses (statement :: rest) (place.within [] (.mark ';' :: programLexemes rest))
        (enclosed :: rest)
  | there (statement : Expression) {rest place enclosed}
      (deeper : ProgramEncloses rest place enclosed) :
      ProgramEncloses (statement :: rest) (place.within (statement.lexemes ++ [.mark ';']) [])
        (statement :: enclosed)

section Lexemes

theorem Operand.lexemes_ne_nil (operand : Operand) : operand.lexemes ≠ [] := by
  cases operand <;> exact List.cons_ne_nil _ _

theorem othersLexemes_append (left right : List Operand) :
    othersLexemes (left ++ right) = othersLexemes left ++ othersLexemes right := by
  induction left with
  | nil => rfl
  | cons operand left induction => simp [othersLexemes, induction]

theorem propertiesLexemes_cons (property : Property) (others : List Property) :
    propertiesLexemes (property :: others) =
      property.lexemes ++ others.flatMap fun other => .mark ',' :: other.lexemes := by
  induction others generalizing property with
  | nil => simp [propertiesLexemes]
  | cons next others induction => simp [propertiesLexemes, induction]

theorem propertiesLexemes_cons_of_ne_nil (property : Property) {others : List Property}
    (begun : others ≠ []) :
    propertiesLexemes (property :: others) =
      property.lexemes ++ [.mark ','] ++ propertiesLexemes others := by
  cases others with
  | nil => contradiction
  | cons next others => simp [propertiesLexemes]

theorem PropertiesEnclose.ne_nil {properties enclosed : List Property} {place : Place}
    (encloses : PropertiesEnclose properties place enclosed) :
    properties ≠ [] ∧ enclosed ≠ [] := by
  cases encloses with
  | here | there => exact ⟨List.cons_ne_nil _ _, List.cons_ne_nil _ _⟩

mutual

theorem Operand.Encloses.turns {operand enclosed : Operand} {place : Place}
    (encloses : operand.Encloses place enclosed) :
    place.Turns operand.lexemes enclosed.lexemes := by
  cases encloses with
  | whole =>
      refine ⟨?_, ?_, operand.lexemes_ne_nil⟩
      · simp
      · simp [Operand.lexemes, Expression.lexemes, othersLexemes]
  | group deeper => exact deeper.turns.within [.mark '('] [.mark ')']
  | object deeper => exact deeper.turns.within [.mark '\x7b'] [.mark '\x7d']

theorem Expression.Encloses.turns {expression enclosed : Expression} {place : Place}
    (encloses : expression.Encloses place enclosed) :
    place.Turns expression.lexemes enclosed.lexemes := by
  cases encloses with
  | front first others rest =>
      refine ⟨?_, ?_, List.append_ne_nil_of_left_ne_nil first.lexemes_ne_nil _⟩
      · simp [Expression.lexemes, othersLexemes_append]
      · simp [Expression.lexemes, Operand.lexemes]
  | first others deeper => exact deeper.turns.within [] (othersLexemes others)
  | others first deeper => exact deeper.turns.behind first.lexemes

theorem OthersEnclose.turns {operands enclosed : List Operand} {place : Place}
    (encloses : OthersEnclose operands place enclosed) :
    place.Turns (othersLexemes operands) (othersLexemes enclosed) := by
  cases encloses with
  | here rest deeper => exact deeper.turns.within [.mark ','] (othersLexemes rest)
  | there operand deeper => exact deeper.turns.behind (.mark ',' :: operand.lexemes)

theorem PropertiesEnclose.turns {properties enclosed : List Property} {place : Place}
    (encloses : PropertiesEnclose properties place enclosed) :
    place.Turns (propertiesLexemes properties) (propertiesLexemes enclosed) := by
  cases encloses with
  | here rest deeper =>
      rw [propertiesLexemes_cons, propertiesLexemes_cons]
      exact deeper.turns.within [] (rest.flatMap fun other => .mark ',' :: other.lexemes)
  | there property deeper =>
      rw [propertiesLexemes_cons_of_ne_nil property deeper.ne_nil.1,
        propertiesLexemes_cons_of_ne_nil property deeper.ne_nil.2]
      exact deeper.turns.behind (property.lexemes ++ [.mark ','])

theorem Property.Encloses.turns {property enclosed : Property} {place : Place}
    (encloses : property.Encloses place enclosed) :
    place.Turns property.lexemes enclosed.lexemes := by
  cases encloses with
  | named key deeper => exact deeper.turns.behind [key.lexeme, .mark ':']
  | key value deeper =>
      exact deeper.turns.within [.mark '['] (.mark ']' :: .mark ':' :: value.lexemes)
  | value key deeper =>
      have turns := deeper.turns.behind (.mark '[' :: (key.lexemes ++ [.mark ']', .mark ':']))
      simpa [Property.lexemes] using turns

end

/-- In the lexemes of a program there is a pair of parentheses more, and nothing else is new. -/
theorem ProgramEncloses.turns {program enclosed : List Expression} {place : Place}
    (encloses : ProgramEncloses program place enclosed) :
    place.Turns (programLexemes program) (programLexemes enclosed) := by
  induction encloses with
  | here rest deeper => exact deeper.turns.within [] (.mark ';' :: programLexemes rest)
  | there statement deeper induction =>
      have turns := induction.behind (statement.lexemes ++ [.mark ';'])
      simpa only [programLexemes, List.append_assoc, List.singleton_append] using turns

end Lexemes

section Meanings

theorem Expression.meaning_congr {left right : Expression}
    (same : (left.operands.map fun operand => operand.tree.meaning) =
      right.operands.map fun operand => operand.tree.meaning) :
    left.tree.meaning = right.tree.meaning := by
  have lengths := congrArg List.length same
  simp only [List.length_map] at lengths
  match left, right with
  | .mk first [], .mk other [] => exact (List.cons.inj same).1
  | .mk first [], .mk other (second :: others) => simp [operands] at lengths
  | .mk first (second :: others), .mk other [] => simp [operands] at lengths
  | .mk first (second :: others), .mk other (next :: more) =>
      rw [meaning_sequence (by simp [operands]), meaning_sequence (by simp [operands])]
      have nodes := congrArg (List.map Value.node) same
      rw [List.map_map, List.map_map] at nodes
      exact congrArg (fun items => Node.sequence (nested items)) nodes

mutual

theorem Operand.Encloses.meaning {operand enclosed : Operand} {place : Place}
    (encloses : operand.Encloses place enclosed) :
    enclosed.tree.meaning = operand.tree.meaning := by
  cases encloses with
  | whole => rfl
  | group deeper => exact deeper.meaning
  | object deeper =>
      rw [Operand.tree, Operand.tree, meaning_objectTree, meaning_objectTree]
      have nodes := congrArg (List.map Value.node) deeper.meanings
      rw [List.map_map, List.map_map] at nodes
      exact congrArg objectTree nodes

theorem Expression.Encloses.meaning {expression enclosed : Expression} {place : Place}
    (encloses : expression.Encloses place enclosed) :
    enclosed.tree.meaning = expression.tree.meaning := by
  cases encloses with
  | front first others rest =>
      cases rest with
      | nil => rw [List.append_nil, Expression.tree, Operand.tree]
      | cons next rest =>
          rw [Expression.meaning_sequence (by simp [Expression.operands])]
          exact ((Expression.mk first others).meaning_append (List.cons_ne_nil next rest)).symm
  | first others deeper =>
      apply Expression.meaning_congr
      exact congrArg (· :: _) deeper.meaning
  | others first deeper =>
      apply Expression.meaning_congr
      exact congrArg (_ :: ·) deeper.meanings

theorem OthersEnclose.meanings {operands enclosed : List Operand} {place : Place}
    (encloses : OthersEnclose operands place enclosed) :
    (enclosed.map fun operand => operand.tree.meaning) =
      operands.map fun operand => operand.tree.meaning := by
  cases encloses with
  | here rest deeper => exact congrArg (· :: _) deeper.meaning
  | there operand deeper => exact congrArg (_ :: ·) deeper.meanings

theorem PropertiesEnclose.meanings {properties enclosed : List Property} {place : Place}
    (encloses : PropertiesEnclose properties place enclosed) :
    (enclosed.map fun property => property.tree.meaning) =
      properties.map fun property => property.tree.meaning := by
  cases encloses with
  | here rest deeper => exact congrArg (· :: _) deeper.meaning
  | there property deeper => exact congrArg (_ :: ·) deeper.meanings

theorem Property.Encloses.meaning {property enclosed : Property} {place : Place}
    (encloses : property.Encloses place enclosed) :
    enclosed.tree.meaning = property.tree.meaning := by
  cases encloses with
  | named key deeper => rw [meaning_named, meaning_named, deeper.meaning]
  | key value deeper => rw [meaning_computed, meaning_computed, deeper.meaning]
  | value key deeper => rw [meaning_computed, meaning_computed, deeper.meaning]

end

theorem ProgramEncloses.meanings {program enclosed : List Expression} {place : Place}
    (encloses : ProgramEncloses program place enclosed) :
    (enclosed.map fun statement => statement.tree.meaning) =
      program.map fun statement => statement.tree.meaning := by
  induction encloses with
  | here rest deeper => exact congrArg (· :: _) deeper.meaning
  | there statement deeper induction => exact congrArg (_ :: ·) induction

theorem ProgramEncloses.canonicalText {program enclosed : List Expression} {place : Place}
    (encloses : ProgramEncloses program place enclosed) (goal : Goal) :
    (programTree enclosed goal).canonicalText = (programTree program goal).canonicalText :=
  (canonicalText_programTree_iff enclosed program goal).2 encloses.meanings

end Meanings

end Minilang

end Reparse
