import Reparse.Minilang.Printer
import Reparse.Proofs.Minilang.Grammar

namespace Reparse

namespace Minilang

open Ast (Node Value)

/-- Properties of derivations that hold of a whole when they hold of its parts. -/
structure Hereditary (onOperand : Operand → Prop) (onExpression : Expression → Prop)
    (onProperty : Property → Prop) : Prop where
  number : ∀ value, onOperand (.number value)
  string : ∀ value, onOperand (.string value)
  identifier : ∀ name, onOperand (.identifier name)
  group : ∀ inner, onExpression inner → onOperand (.group inner)
  object : ∀ properties, (∀ property ∈ properties, onProperty property) →
    onOperand (.object properties)
  expression : ∀ first others, (∀ operand ∈ first :: others, onOperand operand) →
    onExpression (.mk first others)
  named : ∀ key value, onOperand value → onProperty (.named key value)
  shorthand : ∀ name, onProperty (.shorthand name)
  computed : ∀ key value, onExpression key → onOperand value → onProperty (.computed key value)

section Hereditary

variable {onOperand : Operand → Prop} {onExpression : Expression → Prop}
  {onProperty : Property → Prop}

mutual

theorem Hereditary.of_operand (hereditary : Hereditary onOperand onExpression onProperty)
    (operand : Operand) : onOperand operand := by
  cases operand with
  | number value => exact hereditary.number value
  | string value => exact hereditary.string value
  | identifier name => exact hereditary.identifier name
  | group inner => exact hereditary.group inner (hereditary.of_expression inner)
  | object properties => exact hereditary.object properties (hereditary.of_properties properties)

theorem Hereditary.of_expression (hereditary : Hereditary onOperand onExpression onProperty)
    (expression : Expression) : onExpression expression := by
  cases expression with
  | mk first others =>
      refine hereditary.expression first others (List.forall_mem_cons.2 ⟨?_, ?_⟩)
      · exact hereditary.of_operand first
      · exact hereditary.of_operands others

theorem Hereditary.of_property (hereditary : Hereditary onOperand onExpression onProperty)
    (property : Property) : onProperty property := by
  cases property with
  | named key value => exact hereditary.named key value (hereditary.of_operand value)
  | shorthand name => exact hereditary.shorthand name
  | computed key value =>
      exact hereditary.computed key value (hereditary.of_expression key)
        (hereditary.of_operand value)

theorem Hereditary.of_operands (hereditary : Hereditary onOperand onExpression onProperty)
    (operands : List Operand) : ∀ operand ∈ operands, onOperand operand := by
  match operands with
  | [] => simp
  | operand :: rest =>
      exact List.forall_mem_cons.2 ⟨hereditary.of_operand operand, hereditary.of_operands rest⟩

theorem Hereditary.of_properties (hereditary : Hereditary onOperand onExpression onProperty)
    (properties : List Property) : ∀ property ∈ properties, onProperty property := by
  match properties with
  | [] => simp
  | property :: rest =>
      exact List.forall_mem_cons.2
        ⟨hereditary.of_property property, hereditary.of_properties rest⟩

end

end Hereditary

def Expression.operands : Expression → List Operand
  | .mk first others => first :: others

def Expression.append : Expression → List Operand → Expression
  | .mk first others, more => .mk first (others ++ more)

/-- What stands for an operand in a sequence: a sequence loses its parentheses where a defect prints
none. -/
def Operand.opened (defect : Option Defect) : Operand → Expression
  | .group inner => if defect = some .flattenSequences then inner else .mk (.group inner) []
  | operand => .mk operand []

def Key.alter (defect : Option Defect) : Key → Key
  | .number value =>
      if defect = some .quoteNumericKeys then .string (String.ofList value.scriptText)
      else .number value
  | key => key

mutual

def Operand.alter (defect : Option Defect) : Operand → Operand
  | .group inner => .group (inner.alter defect)
  | .object properties => .object (propertiesAlter defect properties)
  | operand => operand

def Expression.alter (defect : Option Defect) : Expression → Expression
  | .mk first others =>
      ((first.alter defect).opened defect).append (operandsAlter defect others)

def Property.alter (defect : Option Defect) : Property → Property
  | .named key value => .named (key.alter defect) (value.alter defect)
  | .shorthand name =>
      if defect = some .expandShorthand then .named (.identifier name) (.identifier name)
      else .shorthand name
  | .computed key value => .computed (key.alter defect) (value.alter defect)

def operandsAlter (defect : Option Defect) : List Operand → List Operand
  | [] => []
  | operand :: rest =>
      ((operand.alter defect).opened defect).operands ++ operandsAlter defect rest

def propertiesAlter (defect : Option Defect) : List Property → List Property
  | [] => []
  | property :: rest => property.alter defect :: propertiesAlter defect rest

end

/-- The operands that stand for an operand in an altered sequence. -/
def Operand.parts (defect : Option Defect) (operand : Operand) : List Operand :=
  ((operand.alter defect).opened defect).operands

section Alter

variable {defect : Option Defect}

theorem operandsAlter_eq (operands : List Operand) :
    operandsAlter defect operands = operands.flatMap (Operand.parts defect) := by
  induction operands with
  | nil => rfl
  | cons operand rest induction => rw [operandsAlter, induction, List.flatMap_cons, Operand.parts]

theorem propertiesAlter_eq (properties : List Property) :
    propertiesAlter defect properties = properties.map (Property.alter defect) := by
  induction properties with
  | nil => rfl
  | cons property rest induction => rw [propertiesAlter, induction, List.map_cons]

theorem Expression.operands_append (expression : Expression) (more : List Operand) :
    (expression.append more).operands = expression.operands ++ more := by
  cases expression
  rfl

theorem Expression.append_nil (expression : Expression) : expression.append [] = expression := by
  cases expression with
  | mk first others => rw [append, List.append_nil]

theorem Expression.operands_alter (expression : Expression) :
    (expression.alter defect).operands = expression.operands.flatMap (Operand.parts defect) := by
  cases expression with
  | mk first others =>
      rw [Expression.alter, operands_append, operandsAlter_eq, operands, List.flatMap_cons,
        Operand.parts]

theorem Operand.opened_of_kept (kept : defect ≠ some .flattenSequences) (operand : Operand) :
    operand.opened defect = .mk operand [] := by
  cases operand with
  | group inner => rw [opened, if_neg kept]
  | number | string | identifier | object => rfl

theorem Operand.parts_ne_nil (operand : Operand) : operand.parts defect ≠ [] := by
  rw [parts]
  cases (operand.alter defect).opened defect
  exact List.cons_ne_nil _ _

theorem hereditary_alter_none :
    Hereditary (fun operand => operand.alter none = operand)
      (fun expression => expression.alter none = expression)
      (fun property => property.alter none = property) where
  number := fun _ => rfl
  string := fun _ => rfl
  identifier := fun _ => rfl
  group := fun inner same => by rw [Operand.alter, same]
  object := fun properties same => by
    rw [Operand.alter, propertiesAlter_eq, List.map_congr_left same, List.map_id']
  expression := fun first others same => by
    have parts : others.flatMap (Operand.parts none) = others.flatMap fun operand => [operand] := by
      refine List.flatMap_congr fun operand member => ?_
      rw [Operand.parts, same operand (List.mem_cons_of_mem _ member),
        Operand.opened_of_kept (by simp), Expression.operands]
    rw [Expression.alter, operandsAlter_eq, parts, same first List.mem_cons_self,
      Operand.opened_of_kept (by simp), Expression.append]
    simp
  named := fun key value same => by
    rw [Property.alter, same]
    cases key <;> rfl
  shorthand := fun _ => rfl
  computed := fun key value sameKey sameValue => by rw [Property.alter, sameKey, sameValue]

theorem Expression.alter_none (expression : Expression) : expression.alter none = expression :=
  hereditary_alter_none.of_expression expression

/-- Where sequences lose their parentheses no operand of a sequence has any. -/
theorem hereditary_bare :
    Hereditary
      (fun operand => ∀ part ∈ operand.parts (some .flattenSequences), ∀ inner,
        part ≠ .group inner)
      (fun expression => ∀ part ∈ (expression.alter (some .flattenSequences)).operands,
        ∀ inner, part ≠ .group inner)
      (fun _ => True) where
  number := fun value => by simp [Operand.parts, Operand.alter, Operand.opened, Expression.operands]
  string := fun value => by simp [Operand.parts, Operand.alter, Operand.opened, Expression.operands]
  identifier := fun name => by
    simp [Operand.parts, Operand.alter, Operand.opened, Expression.operands]
  group := fun inner bare => by
    rw [Operand.parts, Operand.alter, Operand.opened, if_pos rfl]
    exact bare
  object := fun properties _ => by
    simp [Operand.parts, Operand.alter, Operand.opened, Expression.operands]
  expression := fun first others bare => by
    rw [Expression.operands_alter, Expression.operands]
    intro part member
    obtain ⟨operand, among, inside⟩ := List.mem_flatMap.1 member
    exact bare operand among part inside
  named := fun _ _ _ => trivial
  shorthand := fun _ => trivial
  computed := fun _ _ _ _ => trivial

end Alter

section Words

def Lexeme.From (lexemes : List Lexeme) (lexeme : Lexeme) : Prop :=
  lexeme ∈ lexemes ∨ ∃ value, lexeme = .string value ""

variable {word : Lexeme}

theorem Lexeme.ne_mark (isWord : word.isWord = true) (c : Char) : word ≠ .mark c := by
  rintro rfl
  contradiction

theorem mem_othersLexemes (isWord : word.isWord = true) {operands : List Operand} :
    word ∈ othersLexemes operands ↔ ∃ operand ∈ operands, word ∈ operand.lexemes := by
  induction operands with
  | nil => simp [othersLexemes]
  | cons operand rest induction => simp [othersLexemes, Lexeme.ne_mark isWord, induction]

theorem Expression.mem_lexemes (isWord : word.isWord = true) {expression : Expression} :
    word ∈ expression.lexemes ↔ ∃ operand ∈ expression.operands, word ∈ operand.lexemes := by
  cases expression with
  | mk first others => simp [lexemes, operands, mem_othersLexemes isWord]

theorem mem_propertiesLexemes (isWord : word.isWord = true) {properties : List Property} :
    word ∈ propertiesLexemes properties ↔ ∃ property ∈ properties, word ∈ property.lexemes := by
  induction properties with
  | nil => simp [propertiesLexemes]
  | cons property rest induction =>
      cases rest with
      | nil => simp [propertiesLexemes]
      | cons next rest => simp [propertiesLexemes, Lexeme.ne_mark isWord, induction]

theorem Operand.mem_lexemes_opened (isWord : word.isWord = true) {defect : Option Defect}
    {operand : Operand} :
    word ∈ (operand.opened defect).lexemes ↔ word ∈ operand.lexemes := by
  cases operand with
  | group inner =>
      rw [opened]
      split
      · simp [Operand.lexemes, Lexeme.ne_mark isWord]
      · simp [Expression.lexemes, othersLexemes]
  | number | string | identifier | object => simp [opened, Expression.lexemes, othersLexemes]

theorem hereditary_words (defect : Option Defect) (isWord : word.isWord = true) :
    Hereditary
      (fun operand => word ∈ (operand.alter defect).lexemes → word.From operand.lexemes)
      (fun expression => word ∈ (expression.alter defect).lexemes → word.From expression.lexemes)
      (fun property => word ∈ (property.alter defect).lexemes → word.From property.lexemes) := by
  have noMark := Lexeme.ne_mark isWord
  exact {
    number := fun _ => .inl
    string := fun _ => .inl
    identifier := fun _ => .inl
    group := by
      intro inner known
      simpa [Operand.alter, Operand.lexemes, noMark, Lexeme.From] using known
    object := by
      intro properties known member
      rw [Operand.alter, propertiesAlter_eq] at member
      simp only [Operand.lexemes, List.mem_cons, noMark, List.mem_append, List.not_mem_nil,
        mem_propertiesLexemes isWord, false_or, or_false, List.mem_map,
        exists_exists_and_eq_and] at member
      obtain ⟨property, among, inside⟩ := member
      refine (known property among inside).imp_left fun stands => ?_
      simp only [Operand.lexemes, List.mem_cons, List.mem_append, mem_propertiesLexemes isWord]
      exact .inr (.inl ⟨property, among, stands⟩)
    expression := by
      intro first others known member
      rw [Expression.mem_lexemes isWord, Expression.operands_alter] at member
      obtain ⟨part, among, inside⟩ := member
      obtain ⟨operand, here, stands⟩ := List.mem_flatMap.1 among
      have opened : word ∈ ((operand.alter defect).opened defect).lexemes :=
        (Expression.mem_lexemes isWord).2 ⟨part, stands, inside⟩
      rw [Operand.mem_lexemes_opened isWord] at opened
      exact (known operand here opened).imp_left fun original =>
        (Expression.mem_lexemes isWord).2 ⟨operand, here, original⟩
    named := by
      intro key value known member
      simp only [Property.alter, Property.lexemes, List.mem_cons, noMark, false_or] at member
      rcases member with same | inside
      · cases key with
        | number number =>
            rw [Key.alter] at same
            split at same
            · exact .inr ⟨_, same⟩
            · exact .inl (same ▸ List.mem_cons_self)
        | string | identifier => exact .inl (same ▸ List.mem_cons_self)
      · refine (known inside).imp_left fun stands => ?_
        exact List.mem_cons_of_mem _ (List.mem_cons_of_mem _ stands)
    shorthand := by
      intro name member
      refine .inl ?_
      rw [Property.alter] at member
      split at member
      · simpa [Property.lexemes, Key.lexeme, Operand.lexemes, noMark] using member
      · exact member
    computed := by
      intro key value knownKey knownValue member
      simp only [Property.alter, Property.lexemes, List.mem_cons, List.mem_append, noMark,
        false_or] at member
      rcases member with inside | inside
      · refine (knownKey inside).imp_left fun stands => ?_
        simp [Property.lexemes, stands]
      · refine (knownValue inside).imp_left fun stands => ?_
        simp [Property.lexemes, stands] }

theorem Expression.from_of_mem_alter {defect : Option Defect} {expression : Expression}
    (isWord : word.isWord = true) (member : word ∈ (expression.alter defect).lexemes) :
    word.From expression.lexemes :=
  (hereditary_words defect isWord).of_expression expression member

end Words

end Minilang

end Reparse
