import Mathlib.Data.List.Forall2
import Reparse.Proofs.Minilang.Grouping
import Reparse.Proofs.Minilang.Segments
import Reparse.Proofs.Minilang.Unambiguous

namespace Reparse

namespace Minilang

open Ast (Node)

/-- Lexemes that say the same, however they are spelled: numbers and strings of one value, one name,
or one mark. -/
def Lexeme.Agrees : Lexeme → Lexeme → Prop
  | .number left _, .number right _ => left.equal right = true
  | .string left _, .string right _ => left = right
  | .identifier left, .identifier right => left = right
  | .mark left, .mark right => left = right
  | _, _ => False

section Agreement

theorem IsMagnitude.eq_of_equal {x y : Binary64} (left : IsMagnitude x) (right : IsMagnitude y)
    (same : x.equal y = true) : x = y := by
  rw [← left.parts.2.2, Binary64.representative_of_equal same, right.parts.2.2]

theorem Lexeme.content_of_agrees {left right : Lexeme} (agrees : left.Agrees right)
    (genuine : left.Genuine) (otherGenuine : right.Genuine) : left.content = right.content := by
  cases left with
  | number value spelling =>
      cases right with
      | number other otherSpelling =>
          have same : value = other := IsMagnitude.eq_of_equal genuine otherGenuine agrees
          rw [same, content, content]
      | string | identifier | mark => exact absurd agrees id
  | string value spelling =>
      cases right with
      | string other otherSpelling =>
          have same : value = other := agrees
          rw [same, content, content]
      | number | identifier | mark => exact absurd agrees id
  | identifier name =>
      cases right with
      | identifier other => exact congrArg Lexeme.identifier agrees
      | number | string | mark => exact absurd agrees id
  | mark c =>
      cases right with
      | mark other => exact congrArg Lexeme.mark agrees
      | number | string | identifier => exact absurd agrees id

theorem contents_of_agree {left right : List Token}
    (agree : List.Forall₂ (fun token other => token.lexeme.Agrees other.lexeme) left right)
    (genuine : ∀ token ∈ left, token.lexeme.Genuine)
    (otherGenuine : ∀ token ∈ right, token.lexeme.Genuine) : contents left = contents right := by
  induction agree with
  | nil => rfl
  | cons first rest induction =>
      rw [List.forall_mem_cons] at genuine otherGenuine
      rw [contents_cons, contents_cons, induction genuine.2 otherGenuine.2,
        Lexeme.content_of_agrees first genuine.1 otherGenuine.1]

end Agreement

section Parsing

variable {source other : String} {lexed relexed : Lexed} {goal : Goal} {tree : Node}

theorem Place.Turns.allowed {place : Place} {lexemes enclosed : List Lexeme}
    (turns : place.Turns lexemes enclosed) (allowed : Allowed goal lexemes) :
    Allowed goal enclosed := by
  rw [← turns.given, allowed_append, allowed_append] at allowed
  obtain ⟨before, inside, after⟩ := allowed
  have closed := allowed_append.2 ⟨inside, allowed_cons.2 ⟨allowed_mark ')', after⟩⟩
  rw [← turns.enclosed]
  exact allowed_append.2 ⟨before, allowed_cons.2 ⟨allowed_mark '(', closed⟩⟩

theorem exists_parse_of_contents (parsed : parse source goal = .ok tree)
    (lexes : lex source = .ok lexed) (relexes : lex other = .ok relexed)
    (same : contents lexed.tokens = contents relexed.tokens) :
    ∃ copy, parse other goal = .ok copy ∧ copy.canonicalText = tree.canonicalText := by
  obtain ⟨found, program, again, derives, allowed, built⟩ := parse_sound parsed
  obtain rfl : lexed = found := Except.ok.inj (lexes.symm.trans again)
  obtain ⟨copy, accepted, rebuilt⟩ := parse_complete relexes (same.symm.trans derives) allowed
  exact ⟨copy, accepted, Node.canonicalText_of_unmarked (rebuilt.trans built.symm)⟩

theorem parse_of_contents (lexes : lex source = .ok lexed) (relexes : lex other = .ok relexed)
    (same : contents lexed.tokens = contents relexed.tokens) (goal : Goal) :
    ((∃ fault, parse source goal = .error fault) ∧ ∃ fault, parse other goal = .error fault) ∨
      ∃ tree copy, parse source goal = .ok tree ∧ parse other goal = .ok copy ∧
        copy.canonicalText = tree.canonicalText := by
  cases parsed : parse source goal with
  | ok tree =>
      obtain ⟨copy, accepted, text⟩ := exists_parse_of_contents parsed lexes relexes same
      exact .inr ⟨tree, copy, rfl, accepted, text⟩
  | error fault =>
      cases reparsed : parse other goal with
      | error otherFault => exact .inl ⟨⟨fault, rfl⟩, otherFault, rfl⟩
      | ok copy =>
          obtain ⟨tree, accepted, -⟩ := exists_parse_of_contents reparsed relexes lexes same.symm
          rw [parsed] at accepted
          contradiction

theorem exists_parse_encloseAt {program enclosed : List Expression} {place : Place}
    (encloses : ProgramEncloses program place enclosed) (lexes : lex source = .ok lexed)
    (derives : Derives program lexed.tokens) (allowed : Allowed goal (programLexemes program)) :
    ∃ front middle behind, lexed.tokens = front ++ (middle ++ behind) ∧
      contents front = place.before ∧ contents middle = place.inside ∧
      contents behind = place.after ∧
      ∃ copy, parse (encloseAt (offsetOf middle) (stopOf middle) source) goal = .ok copy ∧
        copy.unmarked = programTree enclosed goal := by
  have turns := encloses.turns
  obtain ⟨front, rest, split, before, others⟩ :=
    contents_eq_append (derives.trans turns.given.symm)
  obtain ⟨middle, behind, rfl, inside, after⟩ := contents_eq_append others
  have begun : middle ≠ [] := by
    rintro rfl
    exact turns.begun inside.symm
  obtain ⟨relexed, relexes, said⟩ := lex_encloseAt lexes split begun
  rw [before, inside, after, turns.enclosed] at said
  exact ⟨front, middle, behind, split, before, inside, after,
    parse_complete relexes said (turns.allowed allowed)⟩

end Parsing

/-- Two sources whose tokens say the same are both rejected, or both accepted and compare as equal.
An accepted source stays accepted, and compares as equal, when a pair of parentheses is put around
an operand or around the first operands of an expression. -/
theorem parse_respelled (goal : Goal) :
    (∀ source other lexed relexed, lex source = .ok lexed → lex other = .ok relexed →
      List.Forall₂ (fun left right : Token => left.lexeme.Agrees right.lexeme)
        lexed.tokens relexed.tokens →
      ((∃ fault, parse source goal = .error fault) ∧ ∃ fault, parse other goal = .error fault) ∨
        ∃ tree copy, parse source goal = .ok tree ∧ parse other goal = .ok copy ∧
          copy.canonicalText = tree.canonicalText) ∧
    ∀ source tree, parse source goal = .ok tree →
      ∃ lexed program, lex source = .ok lexed ∧ Derives program lexed.tokens ∧
        ∀ place enclosed, ProgramEncloses program place enclosed →
          ∃ front middle behind, lexed.tokens = front ++ (middle ++ behind) ∧
            contents front = place.before ∧ contents middle = place.inside ∧
            contents behind = place.after ∧
            ∃ copy, parse (encloseAt (offsetOf middle) (stopOf middle) source) goal = .ok copy ∧
              copy.canonicalText = tree.canonicalText := by
  constructor
  · intro source other lexed relexed lexes relexes agree
    have same := contents_of_agree agree (lex_genuine lexes) (lex_genuine relexes)
    exact parse_of_contents lexes relexes same goal
  · intro source tree parsed
    obtain ⟨lexed, program, lexes, derives, allowed, built⟩ := parse_sound parsed
    refine ⟨lexed, program, lexes, derives, ?_⟩
    intro place enclosed encloses
    obtain ⟨front, middle, behind, split, before, inside, after, copy, accepted, rebuilt⟩ :=
      exists_parse_encloseAt encloses lexes derives allowed
    refine ⟨front, middle, behind, split, before, inside, after, copy, accepted, ?_⟩
    calc copy.canonicalText = (programTree enclosed goal).canonicalText := by
          rw [← rebuilt]
          exact (copy.canonicalText_strip Ast.covers_none).symm
      _ = (programTree program goal).canonicalText := encloses.canonicalText goal
      _ = tree.canonicalText := by
          rw [← built]
          exact tree.canonicalText_strip Ast.covers_none

theorem parse_respelled_sample :
    (∃ tree copy, parse "1.50, 'a';" .script = .ok tree ∧
      parse "1.5,\"\\a\"; // once" .script = .ok copy ∧
      copy.canonicalText = tree.canonicalText) ∧
    ∃ tree copy, parse "a, b, c;" .module = .ok tree ∧ parse "(a, b), c;" .module = .ok copy ∧
      copy.canonicalText = tree.canonicalText := by
  constructor
  · have lexes : lex "1.50, 'a';" = .ok ⟨
        [⟨.number (numberValue ['1'] ['5', '0']) "1.50", ⟨0, 4⟩⟩, ⟨.mark ',', ⟨4, 5⟩⟩,
          ⟨.string "a" "'a'", ⟨6, 9⟩⟩, ⟨.mark ';', ⟨9, 10⟩⟩], []⟩ := by
      decide +kernel
    have relexes : lex "1.5,\"\\a\"; // once" = .ok ⟨
        [⟨.number (numberValue ['1'] ['5']) "1.5", ⟨0, 3⟩⟩, ⟨.mark ',', ⟨3, 4⟩⟩,
          ⟨.string "a" "\"\\a\"", ⟨4, 8⟩⟩, ⟨.mark ';', ⟨8, 9⟩⟩], [⟨" once", ⟨10, 17⟩⟩]⟩ := by
      decide +kernel
    have number : (numberValue ['1'] ['5', '0']).equal (numberValue ['1'] ['5']) = true := by
      decide +kernel
    have accepted : (parse "1.50, 'a';" .script).toOption.isSome = true := by decide +kernel
    rcases (parse_respelled .script).1 _ _ _ _ lexes relexes
        (.cons number (.cons rfl (.cons rfl (.cons rfl .nil)))) with ⟨⟨fault, rejected⟩, -⟩ | same
    · rw [rejected] at accepted
      cases accepted
    · exact same
  · have accepted : (parse "a, b, c;" .module).toOption.isSome = true := by decide +kernel
    cases parsed : parse "a, b, c;" .module with
    | error fault =>
        rw [parsed] at accepted
        contradiction
    | ok tree =>
        have lexes : lex "a, b, c;" = .ok ⟨
            [⟨.identifier "a", ⟨0, 1⟩⟩, ⟨.mark ',', ⟨1, 2⟩⟩, ⟨.identifier "b", ⟨3, 4⟩⟩,
              ⟨.mark ',', ⟨4, 5⟩⟩, ⟨.identifier "c", ⟨6, 7⟩⟩, ⟨.mark ';', ⟨7, 8⟩⟩], []⟩ := by
          decide +kernel
        obtain ⟨lexed, program, again, derives, around⟩ := (parse_respelled .module).2 _ tree parsed
        obtain rfl := Except.ok.inj (again.symm.trans lexes)
        obtain rfl : program = [.mk (.identifier "a") [.identifier "b", .identifier "c"]] :=
          derives.unique rfl
        obtain ⟨front, middle, behind, split, before, inside, -, copy, reparsed, same⟩ :=
          around _ _ (.here [] (.front (.identifier "a") [.identifier "b"] [.identifier "c"]))
        obtain rfl := List.map_eq_nil_iff.1 before
        have length : middle.length = 3 :=
          (List.length_map _).symm.trans (congrArg List.length inside)
        obtain rfl := (List.take_left' length).symm.trans (congrArg (List.take 3) split).symm
        exact ⟨tree, copy, rfl, reparsed, same⟩

end Minilang

end Reparse
