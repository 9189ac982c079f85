import Reparse.Proofs.Minilang.Parser

/-!
Tokens have one derivation at most, so the parser accepts the grammar and nothing else, and its tree
is that of the one derivation.

The first lexeme of a rule tells its cases apart, except that an operand goes on at a comma and that
an identifier in an object is a key before a colon.  There the lexemes behind the rule decide.
-/

namespace Reparse

namespace Minilang

open Ast (Node Value)

theorem Key.lexeme_injective {left right : Key} (same : left.lexeme = right.lexeme) :
    left = right := by
  cases left <;> cases right <;> cases same <;> rfl

theorem Property.lexemes_append_ne (property : Property) (after rest : List Lexeme) :
    property.lexemes ++ after ≠ .mark '\x7d' :: rest := by
  cases property with
  | named key value => cases key <;> simp [Property.lexemes, Key.lexeme]
  | shorthand | computed => simp [Property.lexemes]

theorem propertiesLexemes_append_ne (first : Property) (others : List Property)
    (after rest : List Lexeme) :
    propertiesLexemes (first :: others) ++ after ≠ .mark '\x7d' :: rest := by
  cases others with
  | nil => exact first.lexemes_append_ne after rest
  | cons next others =>
      rw [propertiesLexemes, List.append_assoc]
      exact first.lexemes_append_ne _ rest

mutual

/-- Where two texts are alike, so are the derivations at their front and what stands behind. -/
theorem Operand.lexemes_append_injective (left right : Operand) {after rest : List Lexeme}
    (same : left.lexemes ++ after = right.lexemes ++ rest) : left = right ∧ after = rest := by
  cases left with
  | number value =>
      cases right with
      | number other =>
          cases same
          exact ⟨rfl, rfl⟩
      | string | identifier | group | object => cases same
  | string value =>
      cases right with
      | string other =>
          cases same
          exact ⟨rfl, rfl⟩
      | number | identifier | group | object => cases same
  | identifier name =>
      cases right with
      | identifier other =>
          cases same
          exact ⟨rfl, rfl⟩
      | number | string | group | object => cases same
  | group inner =>
      cases right with
      | group other =>
          simp only [Operand.lexemes, List.cons_append, List.append_assoc] at same
          obtain ⟨alike, behind⟩ := inner.lexemes_append_injective other
            (List.cons.inj same).2 (by simp) (by simp)
          rw [alike]
          exact ⟨rfl, (List.cons.inj behind).2⟩
      | number | string | identifier => cases same
      | object => simp [Operand.lexemes] at same
  | object properties =>
      cases right with
      | object others =>
          simp only [Operand.lexemes, List.cons_append, List.append_assoc] at same
          obtain ⟨alike, behind⟩ := propertiesLexemes_append_injective properties others
            (List.cons.inj same).2
          rw [alike]
          exact ⟨rfl, behind⟩
      | number | string | identifier => cases same
      | group => simp [Operand.lexemes] at same

theorem Expression.lexemes_append_injective (left right : Expression) {after rest : List Lexeme}
    (same : left.lexemes ++ after = right.lexemes ++ rest)
    (leftEnds : after.head? ≠ some (.mark ',')) (rightEnds : rest.head? ≠ some (.mark ',')) :
    left = right ∧ after = rest := by
  cases left with
  | mk first others =>
      cases right with
      | mk second operands =>
          simp only [Expression.lexemes, List.append_assoc] at same
          obtain ⟨alike, behind⟩ := first.lexemes_append_injective second same
          obtain ⟨others, behind⟩ :=
            othersLexemes_append_injective others operands behind leftEnds rightEnds
          rw [alike, others]
          exact ⟨rfl, behind⟩

theorem othersLexemes_append_injective (left right : List Operand) {after rest : List Lexeme}
    (same : othersLexemes left ++ after = othersLexemes right ++ rest)
    (leftEnds : after.head? ≠ some (.mark ',')) (rightEnds : rest.head? ≠ some (.mark ',')) :
    left = right ∧ after = rest := by
  match left, right with
  | [], [] => exact ⟨rfl, same⟩
  | [], operand :: operands =>
      have behind : after = othersLexemes (operand :: operands) ++ rest := same
      exact absurd (congrArg List.head? behind) leftEnds
  | operand :: operands, [] =>
      have behind : rest = othersLexemes (operand :: operands) ++ after := same.symm
      exact absurd (congrArg List.head? behind) rightEnds
  | operand :: operands, other :: others =>
      simp only [othersLexemes, List.cons_append, List.append_assoc] at same
      obtain ⟨alike, behind⟩ := operand.lexemes_append_injective other (List.cons.inj same).2
      obtain ⟨tail, behind⟩ :=
        othersLexemes_append_injective operands others behind leftEnds rightEnds
      rw [alike, tail]
      exact ⟨rfl, behind⟩

theorem propertiesLexemes_append_injective (left right : List Property)
    {after rest : List Lexeme}
    (same : propertiesLexemes left ++ .mark '\x7d' :: after =
      propertiesLexemes right ++ .mark '\x7d' :: rest) :
    left = right ∧ after = rest := by
  match left, right with
  | [], [] => exact ⟨rfl, (List.cons.inj same).2⟩
  | [], property :: properties =>
      exact absurd same.symm (propertiesLexemes_append_ne property properties _ _)
  | property :: properties, [] =>
      exact absurd same (propertiesLexemes_append_ne property properties _ _)
  | [property], [other] =>
      obtain ⟨alike, behind⟩ :=
        property.lexemes_append_injective other same (by simp) (by simp)
      rw [alike]
      exact ⟨rfl, (List.cons.inj behind).2⟩
  -- A first property that both have leaves a brace against a comma.
  | [property], other :: next :: others =>
      simp only [propertiesLexemes, List.append_assoc, List.cons_append] at same
      obtain ⟨-, behind⟩ := property.lexemes_append_injective other same (by simp) (by simp)
      simp at behind
  | property :: next :: properties, [other] =>
      simp only [propertiesLexemes, List.append_assoc, List.cons_append] at same
      obtain ⟨-, behind⟩ := property.lexemes_append_injective other same (by simp) (by simp)
      simp at behind
  | property :: next :: properties, other :: second :: others =>
      simp only [propertiesLexemes, List.append_assoc, List.cons_append] at same
      obtain ⟨alike, behind⟩ :=
        property.lexemes_append_injective other same (by simp) (by simp)
      obtain ⟨tail, behind⟩ := propertiesLexemes_append_injective (next :: properties)
        (second :: others) (List.cons.inj behind).2
      rw [alike, tail]
      exact ⟨rfl, behind⟩

theorem Property.lexemes_append_injective (left right : Property) {after rest : List Lexeme}
    (same : left.lexemes ++ after = right.lexemes ++ rest)
    (leftEnds : after.head? ≠ some (.mark ':')) (rightEnds : rest.head? ≠ some (.mark ':')) :
    left = right ∧ after = rest := by
  cases left with
  | named key value =>
      simp only [Property.lexemes, List.cons_append] at same
      cases right with
      | named other operand =>
          obtain ⟨first, behind⟩ := List.cons.inj same
          obtain ⟨alike, behind⟩ :=
            value.lexemes_append_injective operand (List.cons.inj behind).2
          rw [Key.lexeme_injective first, alike]
          exact ⟨rfl, behind⟩
      | shorthand name =>
          -- The colon of the one would stand behind the other.
          have behind := congrArg List.head? (List.cons.inj same).2
          exact absurd behind.symm rightEnds
      | computed other operand => cases key <;> cases (List.cons.inj same).1
  | shorthand name =>
      cases right with
      | named other operand =>
          have behind := congrArg List.head? (List.cons.inj same).2
          exact absurd behind leftEnds
      | shorthand other =>
          cases same
          exact ⟨rfl, rfl⟩
      | computed other operand => cases same
  | computed key value =>
      cases right with
      | named other operand => cases other <;> cases (List.cons.inj same).1
      | shorthand name => cases same
      | computed other operand =>
          simp only [Property.lexemes, List.cons_append, List.append_assoc] at same
          obtain ⟨alike, behind⟩ :=
            key.lexemes_append_injective other (List.cons.inj same).2 (by simp) (by simp)
          obtain ⟨tail, behind⟩ := value.lexemes_append_injective operand
            (List.cons.inj (List.cons.inj behind).2).2
          rw [alike, tail]
          exact ⟨rfl, behind⟩

end

theorem programLexemes_injective {left right : List Expression}
    (same : programLexemes left = programLexemes right) : left = right := by
  induction left generalizing right with
  | nil =>
      cases right with
      | nil => rfl
      | cons statement statements => simp [programLexemes] at same
  | cons statement statements induction =>
      cases right with
      | nil => simp [programLexemes] at same
      | cons other others =>
          obtain ⟨alike, behind⟩ :=
            statement.lexemes_append_injective other same (by simp) (by simp)
          rw [alike, induction (List.cons.inj behind).2]

def Derives (program : List Expression) (tokens : List Token) : Prop :=
  contents tokens = programLexemes program

theorem Derives.unique {program other : List Expression} {tokens : List Token}
    (first : Derives program tokens) (second : Derives other tokens) : program = other :=
  programLexemes_injective (first.symm.trans second)

theorem derives_iff_exists_builds {program : List Expression} {tokens : List Token} :
    Derives program tokens ↔ ∃ body, ProgramBuilds program tokens body := by
  constructor
  · intro derives
    exact exists_programBuilds program derives
  · rintro ⟨body, built⟩
    exact built.contents

theorem allowed_contents {goal : Goal} {tokens : List Token} :
    Allowed goal (contents tokens) ↔
      (goal = .module → ∀ token ∈ tokens, token.lexeme ≠ .identifier "await") := by
  have content (lexeme : Lexeme) :
      lexeme.content = .identifier "await" ↔ lexeme = .identifier "await" := by
    cases lexeme <;> simp [Lexeme.content]
  simp only [Allowed, contents, List.mem_map, content, not_exists, not_and]

/-- A source that has tokens is accepted exactly when a program derives them and, in module code,
none of them is `await`.  The program is the only one, and the tree is what it builds. -/
theorem parse_iff_derives {source : String} {lexed : Lexed} (lexes : lex source = .ok lexed)
    (goal : Goal) :
    ((∃ tree, parse source goal = .ok tree) ↔
      (∃ program, Derives program lexed.tokens) ∧
        (goal = .module → ∀ token ∈ lexed.tokens, token.lexeme ≠ .identifier "await")) ∧
    (∀ program other, Derives program lexed.tokens → Derives other lexed.tokens →
      program = other) ∧
    ∀ tree program, parse source goal = .ok tree → Derives program lexed.tokens →
      tree.unmarked = programTree program goal ∧
        ∃ body, ProgramBuilds program lexed.tokens body ∧
          tree = programNode body goal lexed.comments source.utf8ByteSize := by
  have accepted (tree : Node) : parse source goal = .ok tree ↔
      ∃ program body, ProgramBuilds program lexed.tokens body ∧
        Allowed goal (contents lexed.tokens) ∧
        tree = programNode body goal lexed.comments source.utf8ByteSize := by
    rw [parse_eq_ok]
    constructor
    · rintro ⟨other, program, body, relexes, built, allowed, same⟩
      obtain rfl : lexed = other := Except.ok.inj (lexes.symm.trans relexes)
      exact ⟨program, body, built, allowed, same⟩
    · rintro ⟨program, body, built, allowed, same⟩
      exact ⟨lexed, program, body, lexes, built, allowed, same⟩
  refine ⟨?_, fun program other => Derives.unique, ?_⟩
  · rw [← allowed_contents]
    constructor
    · rintro ⟨tree, read⟩
      obtain ⟨program, body, built, allowed, -⟩ := (accepted tree).1 read
      exact ⟨⟨program, built.contents⟩, allowed⟩
    · rintro ⟨⟨program, derives⟩, allowed⟩
      obtain ⟨body, built⟩ := derives_iff_exists_builds.1 derives
      exact ⟨_, (accepted _).2 ⟨program, body, built, allowed, rfl⟩⟩
  · intro tree program read derives
    obtain ⟨other, body, built, -, rfl⟩ := (accepted tree).1 read
    obtain rfl : program = other := derives.unique built.contents
    exact ⟨unmarked_program built _ _ _, body, built, rfl⟩

theorem parse_iff_derives_sample :
    ∃ lexed tree, lex "{a, [b]: c}, (d, e);" = .ok lexed ∧
      parse "{a, [b]: c}, (d, e);" .module = .ok tree ∧
      tree.unmarked = programTree
        [.mk (.object [.shorthand "a", .computed (.mk (.identifier "b") []) (.identifier "c")])
          [.group (.mk (.identifier "d") [.identifier "e"])]] .module := by
  have spelled : (lex "{a, [b]: c}, (d, e);").toOption.map (fun lexed => contents lexed.tokens) =
      some (programLexemes
        [.mk (.object [.shorthand "a", .computed (.mk (.identifier "b") []) (.identifier "c")])
          [.group (.mk (.identifier "d") [.identifier "e"])]]) := by
    decide +kernel
  have free : (lex "{a, [b]: c}, (d, e);").toOption.all (fun lexed =>
      lexed.tokens.all fun token => token.lexeme ≠ .identifier "await") = true := by
    decide +kernel
  cases lexes : lex "{a, [b]: c}, (d, e);" with
  | error fault =>
      rw [lexes] at spelled
      contradiction
  | ok lexed =>
      rw [lexes] at spelled free
      have derives := Option.some.inj spelled
      have allowed : ∀ token ∈ lexed.tokens, token.lexeme ≠ .identifier "await" := by
        simpa [Except.toOption] using free
      obtain ⟨accepts, -, built⟩ := parse_iff_derives lexes .module
      obtain ⟨tree, read⟩ := accepts.2 ⟨⟨_, derives⟩, fun _ => allowed⟩
      exact ⟨lexed, tree, rfl, read, (built tree _ read derives).1⟩

end Minilang

end Reparse
