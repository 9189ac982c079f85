import Reparse.Minilang.Tools
import Reparse.Proofs.Minilang.Parser
import Reparse.Proofs.Minilang.Printer
import Reparse.Proofs.Trial.Course

namespace Reparse

namespace Minilang

open Ast (Node Value)

def Lexeme.number? : Lexeme → Option Binary64
  | .number value _ => some value
  | _ => none

def Lexed.numbers (lexed : Lexed) : List Binary64 :=
  lexed.tokens.filterMap fun token => token.lexeme.number?

section Tidy

variable {statements : List Expression}

theorem programTree_tidy (statements : List Expression) (goal : Goal) :
    programTree (statements.map Expression.tidy) goal = programTree statements goal := by
  have trees : (statements.map Expression.tidy).map statementTree =
      statements.map statementTree := by
    simp [statementTree, Expression.tree_tidy]
  rw [programTree, trees, programTree]

theorem programWords_tidy (statements : List Expression) :
    (programLexemes (statements.map Expression.tidy)).filter Lexeme.isWord =
      (programLexemes statements).filter Lexeme.isWord := by
  induction statements with
  | nil => rfl
  | cons statement rest induction =>
      simp [programLexemes, List.filter_cons, Expression.words_tidy, induction]

theorem word_mem_tidy {lexeme : Lexeme} (word : lexeme.isWord = true) :
    lexeme ∈ programLexemes (statements.map Expression.tidy) ↔
      lexeme ∈ programLexemes statements := by
  have words := congrArg (lexeme ∈ ·) (programWords_tidy statements)
  simpa [List.mem_filter, word] using words

theorem mark_mem_programLexemes {c : Char} (member : .mark c ∈ programLexemes statements) :
    c ∈ marks := by
  induction statements with
  | nil => contradiction
  | cons statement rest induction =>
      rcases List.mem_append.1 member with member | member
      · exact statement.neat.known c member
      · rcases List.mem_cons.1 member with same | member
        · cases same
          decide
        · exact induction member

end Tidy

/-- A printed program is read back if all its numbers are plain, and nothing is read if one has an
exponent. -/
theorem reads_programText (compact : Bool) (statements : List Expression) {after : List Char}
    {later : Option (List Lexeme)} (readsAfter : Reads after later)
    (genuine : ∀ lexeme ∈ programLexemes (statements.map Expression.tidy), lexeme.Genuine) :
    ∃ heard, Reads (programText compact statements ++ after) heard ∧
      ((∀ lexeme ∈ programLexemes (statements.map Expression.tidy), lexeme.Plain) →
        heard = later.map
          ((programLexemes (statements.map Expression.tidy)).map Lexeme.content ++ ·)) ∧
      ((∃ lexeme ∈ programLexemes (statements.map Expression.tidy), lexeme.Scientific) →
        heard = none) := by
  induction statements with
  | nil =>
      refine ⟨later, readsAfter, fun _ => ?_, by simp [programLexemes]⟩
      cases later <;> rfl
  | cons statement rest induction =>
      simp only [List.map_cons, programLexemes, List.forall_mem_append, List.forall_mem_cons]
        at genuine ⊢
      obtain ⟨heardRest, readsRest, plainRest, noneRest⟩ := induction genuine.2.2
      have ended :
          Reads (';' :: (if compact then [] else ['\n']) ++ (programText compact rest ++ after))
            (heardRest.map (.mark ';' :: ·)) := by
        refine .mark (by decide) ?_
        cases compact with
        | true => exact readsRest
        | false => exact .newline readsRest
      obtain ⟨heard, reads, plain, silent⟩ :=
        reads_lexemesText statement.tidy.neat genuine.1 (by decide) ended
      refine ⟨heard, ?_, ?_, ?_⟩
      · have front : programText compact (statement :: rest) ++ after =
            lexemesText statement.tidy.lexemes ++
              (';' :: (if compact then [] else ['\n']) ++ (programText compact rest ++ after)) := by
          cases compact <;> simp [programText, Expression.text]
        rw [front]
        exact reads
      · rintro ⟨plainFirst, -, plainOthers⟩
        rw [plain plainFirst, plainRest plainOthers]
        cases later <;> simp [Lexeme.content]
      · rintro ⟨lexeme, member, long⟩
        rcases List.mem_append.1 member with member | member
        · exact silent (.inl ⟨lexeme, member, long⟩)
        · rcases List.mem_cons.1 member with rfl | member
          · contradiction
          · exact silent (.inr (by rw [noneRest ⟨lexeme, member, long⟩]; rfl))

theorem map_alter_none (statements : List Expression) :
    statements.map (Expression.alter none) = statements :=
  (List.map_congr_left fun statement _ => statement.alter_none).trans (List.map_id _)

theorem mem_programLexemes {word : Lexeme} (isWord : word.isWord = true)
    {statements : List Expression} :
    word ∈ programLexemes statements ↔ ∃ statement ∈ statements, word ∈ statement.lexemes := by
  induction statements with
  | nil => simp [programLexemes]
  | cons statement rest induction => simp [programLexemes, Lexeme.ne_mark isWord, induction]

theorem from_of_mem_alter {defect : Option Defect} {word : Lexeme} (isWord : word.isWord = true)
    {statements : List Expression}
    (member : word ∈ programLexemes (statements.map (Expression.alter defect))) :
    word.From (programLexemes statements) := by
  rw [mem_programLexemes isWord] at member
  obtain ⟨altered, among, inside⟩ := member
  obtain ⟨statement, here, rfl⟩ := List.mem_map.1 among
  exact (Expression.from_of_mem_alter isWord inside).imp_left fun stands =>
    (mem_programLexemes isWord).2 ⟨statement, here, stands⟩

section Source

variable {lexed : Lexed} {statements : List Expression}

def printedLexemes (defect : Option Defect) (statements : List Expression) : List Lexeme :=
  programLexemes ((statements.map (Expression.alter defect)).map Expression.tidy)

variable {defect : Option Defect}

theorem cases_of_mem_printed (same : contents lexed.tokens = programLexemes statements)
    {lexeme : Lexeme} (member : lexeme ∈ printedLexemes defect statements) :
    (∃ token ∈ lexed.tokens, token.lexeme.content = lexeme) ∨
      (∃ value, lexeme = .string value "") ∨ ∃ c ∈ marks, lexeme = .mark c := by
  cases word : lexeme.isWord with
  | true =>
      rw [printedLexemes, word_mem_tidy word] at member
      rcases from_of_mem_alter word member with stands | string
      · rw [← same] at stands
        exact .inl (List.mem_map.1 stands)
      · exact .inr (.inl string)
  | false =>
      cases lexeme with
      | mark c => exact .inr (.inr ⟨c, mark_mem_programLexemes member, rfl⟩)
      | number | string | identifier => contradiction

theorem number_mem_numbers {value : Binary64} {spelling : String} {token : Token}
    (member : token ∈ lexed.tokens) (same : token.lexeme.content = .number value spelling) :
    value ∈ lexed.numbers := by
  refine List.mem_filterMap.2 ⟨token, member, ?_⟩
  cases number : token.lexeme with
  | number other written =>
      rw [number] at same
      cases same
      rfl
  | string | identifier | mark =>
      rw [number] at same
      contradiction

theorem genuine_printed {source : String} (lexes : lex source = .ok lexed)
    (same : contents lexed.tokens = programLexemes statements) :
    ∀ lexeme ∈ printedLexemes defect statements, lexeme.Genuine := by
  intro lexeme member
  rcases cases_of_mem_printed same member with ⟨token, stands, rfl⟩ | ⟨value, rfl⟩ | ⟨c, known, rfl⟩
  · have genuine := lex_genuine lexes token stands
    cases content : token.lexeme <;> rw [content] at genuine <;> exact genuine
  · trivial
  · exact known

theorem plain_printed (same : contents lexed.tokens = programLexemes statements)
    (plain : ∀ x ∈ lexed.numbers, IsPlain x) :
    ∀ lexeme ∈ printedLexemes defect statements, lexeme.Plain := by
  intro lexeme member
  cases lexeme with
  | number value spelling =>
      rcases cases_of_mem_printed same member with
        ⟨token, stands, number⟩ | ⟨_, string⟩ | ⟨_, _, mark⟩
      · exact plain value (number_mem_numbers stands number)
      · contradiction
      · contradiction
  | string | identifier | mark => trivial

theorem scientific_printed (same : contents lexed.tokens = programLexemes statements)
    (long : ∃ x ∈ lexed.numbers, HasExponent x) :
    ∃ lexeme ∈ printedLexemes none statements, lexeme.Scientific := by
  obtain ⟨value, member, exponent⟩ := long
  obtain ⟨token, stands, number⟩ := List.mem_filterMap.1 member
  refine ⟨.number value "", (word_mem_tidy rfl).2 ?_, exponent⟩
  rw [map_alter_none, ← same]
  refine List.mem_map.2 ⟨token, stands, ?_⟩
  cases spelled : token.lexeme with
  | number other written =>
      rw [spelled] at number
      cases number
      rfl
  | string | identifier | mark =>
      rw [spelled] at number
      contradiction

theorem map_content_printed (same : contents lexed.tokens = programLexemes statements) :
    (printedLexemes defect statements).map Lexeme.content = printedLexemes defect statements := by
  refine (List.map_congr_left fun lexeme member => ?_).trans (List.map_id _)
  rcases cases_of_mem_printed same member with ⟨token, -, rfl⟩ | ⟨value, rfl⟩ | ⟨c, -, rfl⟩
  · cases token.lexeme <;> rfl
  · rfl
  · rfl

theorem allowed_printed {goal : Goal} (allowed : Allowed goal (programLexemes statements)) :
    Allowed goal (printedLexemes defect statements) := by
  intro module member
  rw [printedLexemes, word_mem_tidy rfl] at member
  rcases from_of_mem_alter rfl member with stands | ⟨value, string⟩
  · exact allowed module stands
  · contradiction

theorem reads_printed {source : String} (lexes : lex source = .ok lexed)
    (same : contents lexed.tokens = programLexemes statements)
    (plain : ∀ x ∈ lexed.numbers, IsPlain x) (defect : Option Defect) (compact : Bool)
    {after : List Char} {behind : List Lexeme} (readsAfter : Reads after (some behind)) :
    Reads (programText compact (statements.map (Expression.alter defect)) ++ after)
      (some (printedLexemes defect statements ++ behind)) := by
  obtain ⟨heard, reads, plainText, -⟩ := reads_programText compact _ readsAfter
    (genuine_printed lexes same)
  rw [plainText (plain_printed same plain)] at reads
  rwa [← map_content_printed same]

/-- What is printed of a source with plain numbers is a program, that of the altered derivation. -/
theorem parse_printed {source : String} {goal : Goal} (lexes : lex source = .ok lexed)
    (same : contents lexed.tokens = programLexemes statements)
    (allowed : Allowed goal (programLexemes statements)) (plain : ∀ x ∈ lexed.numbers, IsPlain x)
    (defect : Option Defect) (compact : Bool) :
    ∃ reparsed,
      parse (String.ofList (programText compact (statements.map (Expression.alter defect)))) goal =
        .ok reparsed ∧
      reparsed.unmarked = programTree (statements.map (Expression.alter defect)) goal := by
  have reads := reads_printed lexes same plain defect compact .nil
  rw [List.append_nil, List.append_nil] at reads
  obtain ⟨relexed, relexes, resame⟩ := lex_of_reads reads
  obtain ⟨reparsed, read, rederived⟩ := parse_complete relexes resame (allowed_printed allowed)
  exact ⟨reparsed, read, by rw [rederived, programTree_tidy]⟩

end Source

theorem parse_print {source : String} {goal : Goal} {tree : Node}
    (accepted : parse source goal = .ok tree) :
    ∃ lexed, lex source = .ok lexed ∧ ∀ options, ∃ text, print none tree options = .ok text ∧
      ((∀ x ∈ lexed.numbers, IsPlain x) →
        ∃ reparsed, parse text goal = .ok reparsed ∧ reparsed.unmarked = tree.unmarked) ∧
      ((∃ x ∈ lexed.numbers, HasExponent x) → ∃ fault, parse text goal = .error fault) := by
  obtain ⟨lexed, statements, lexes, same, allowed, derived⟩ := parse_sound accepted
  refine ⟨lexed, lexes, fun options => ?_⟩
  have printable : ∀ statement ∈ statements, Printable none statement.tree :=
    fun _ _ rejects => absurd rejects (by simp)
  have written := print_programTree statements goal options printable
  rw [← derived, print_unmarked, if_neg (by simp), List.append_nil] at written
  refine ⟨_, written, ?_, ?_⟩
  · intro plain
    obtain ⟨reparsed, read, rederived⟩ :=
      parse_printed lexes same allowed plain none options.compact
    exact ⟨reparsed, read, by rw [rederived, derived, map_alter_none]⟩
  · intro long
    obtain ⟨heard, reads, -, silent⟩ :=
      reads_programText options.compact (statements.map (Expression.alter none)) .nil
        (genuine_printed lexes same)
    rw [silent (scientific_printed same long), List.append_nil] at reads
    obtain ⟨fault, refused⟩ := lex_of_reads_none reads
    refine ⟨fault, ?_⟩
    rw [parse, refused]
    rfl

section Trial

variable {σ : Type} {source : String} {goal : Goal} {tree : Node}

theorem tools_parse {defect : Option Defect} {state : σ} (read : parse source goal = .ok tree) :
    ((tools σ defect).parse state source goal).answer = .ok tree := by
  simp [tools, read, Except.mapError]

theorem tools_refuse {defect : Option Defect} {state : σ} {fault : Fault}
    (refused : parse source goal = .error fault) :
    ((tools σ defect).parse state source goal).answer = .error ⟨fault.message⟩ := by
  simp [tools, refused, Except.mapError]

theorem tools_generate {defect : Option Defect} {state : σ} {options : GenerateOptions}
    {text : String} (written : print defect tree options = .ok text) :
    ((tools σ defect).generate state tree options).answer = .ok text := by
  simp [tools, written, Except.mapError]

theorem twins_of_parse {defect : Option Defect} (accepted : parse source goal = .ok tree)
    (id : String) (state : σ) :
    Trial.Twins (tools σ defect) ⟨id, source, source, goal⟩ state tree :=
  ⟨tools_parse accepted, tree, tools_parse accepted, rfl⟩

/-- The round trip of an accepted program.  Where the texts of all numbers are plain, the printed
text has the same tree again, and the program verifies against itself; where a text has an
exponent, the printed text is not parsed. -/
theorem round_trip (accepted : parse source goal = .ok tree) :
    ∃ lexed, lex source = .ok lexed ∧
      ((∀ x ∈ lexed.numbers, IsPlain x) →
        (∀ options, ∃ text reparsed, print none tree options = .ok text ∧
          parse text goal = .ok reparsed ∧ reparsed.unmarked = tree.unmarked) ∧
        ∀ (id : String) (session : Session σ),
          (((Trial.mk id source source goal).verify (tools σ none)).run session).1 = .success) ∧
      ((∃ x ∈ lexed.numbers, HasExponent x) →
        ∀ (id : String) (session : Session σ),
          (((Trial.mk id source source goal).verify (tools σ none)).run session).1 =
            .generatedNotParsed) := by
  obtain ⟨lexed, lexes, printed⟩ := parse_print accepted
  refine ⟨lexed, lexes, fun plain => ⟨fun options => ?_, fun id session => ?_⟩,
    fun long id session => ?_⟩
  · obtain ⟨text, written, reads, -⟩ := printed options
    obtain ⟨reparsed, read, same⟩ := reads plain
    exact ⟨text, reparsed, written, read, same⟩
  · obtain ⟨text, written, reads, -⟩ := printed .roundTrip
    obtain ⟨reparsed, read, same⟩ := reads plain
    have course := Trial.Course.success (twins_of_parse accepted id session.state)
      (tools_generate written) (tools_parse read)
      (Node.canonicalText_of_unmarked same.symm)
    rw [course.verify_run]
  · obtain ⟨text, written, -, refused⟩ := printed .roundTrip
    obtain ⟨fault, refused⟩ := refused long
    have course := Trial.Course.generatedNotParsed (twins_of_parse accepted id session.state)
      (tools_generate written) (tools_refuse refused)
    rw [course.verify_run]

theorem round_trip_sample :
    (((Trial.mk "plain" "({a, b: (1, 2.50)}, 'c');" "({a, b: (1, 2.50)}, 'c');" .script).verify
      (tools Unit none)).run ⟨(), [], []⟩).1 = .success ∧
    (((Trial.mk "long" "1000000000000000000000;" "1000000000000000000000;" .script).verify
      (tools Unit none)).run ⟨(), [], []⟩).1 = .generatedNotParsed := by
  constructor
  · have accepted : (parse "({a, b: (1, 2.50)}, 'c');" .script).isOk = true := by decide +kernel
    have plain : (lex "({a, b: (1, 2.50)}, 'c');").toOption.all
        (fun lexed => decide (∀ x ∈ lexed.numbers, IsPlain x)) = true := by decide +kernel
    cases read : parse "({a, b: (1, 2.50)}, 'c');" .script with
    | error fault =>
        rw [read] at accepted
        exact absurd accepted Bool.false_ne_true
    | ok tree =>
        obtain ⟨lexed, lexes, success, -⟩ := round_trip (σ := Unit) read
        rw [lexes] at plain
        exact (success (of_decide_eq_true plain)).2 _ _
  · have accepted : (parse "1000000000000000000000;" .script).isOk = true := by decide +kernel
    have long : (lex "1000000000000000000000;").toOption.all
        (fun lexed => decide (∃ x ∈ lexed.numbers, HasExponent x)) = true := by decide +kernel
    cases read : parse "1000000000000000000000;" .script with
    | error fault =>
        rw [read] at accepted
        exact absurd accepted Bool.false_ne_true
    | ok tree =>
        obtain ⟨lexed, lexes, -, refused⟩ := round_trip (σ := Unit) read
        rw [lexes] at long
        exact refused (of_decide_eq_true long) _ _

end Trial

end Minilang

end Reparse
