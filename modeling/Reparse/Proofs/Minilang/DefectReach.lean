import Reparse.Proofs.Minilang.RoundTrip
import Reparse.Proofs.Minilang.Tolerance

namespace Reparse

namespace Ast.Node

def isLongNumber (node : Node) : Bool :=
  node.kind == .numericLiteral &&
    (node.field? "value" >>= Value.number?).any fun value => !decide (Minilang.IsPlain value)

end Ast.Node

namespace Minilang

open Ast (Node Value)

def PlainNumbers (tree : Node) : Prop :=
  ∀ node ∈ tree.nodes, node.kind = .numericLiteral →
    ∀ value, node.field? "value" = some (.number value) → IsPlain value

section Numbers

theorem plainNumbers_iff {tree : Node} : PlainNumbers tree ↔ tree.Lacks Node.isLongNumber := by
  refine forall₂_congr fun node _ => ?_
  rw [Node.isLongNumber]
  cases node.field? "value" with
  | none => simp
  | some value => cases value <;> simp [Value.number?]

theorem isLongNumber_unmarked (node : Node) :
    node.unmarked.isLongNumber = node.isLongNumber := by
  have kind : node.unmarked.kind = node.kind := node.kind_strip
  rw [Node.isLongNumber, Node.isLongNumber, kind, numberField_unmarked]

theorem Key.plain_of_lacks (key : Key) {value : Binary64}
    (lacks : key.tree.Lacks Node.isLongNumber) (same : key.lexeme = .number value "") :
    IsPlain value := by
  cases key with
  | number number =>
      cases same
      have short := (Node.lacks_iff.1 lacks).1
      simpa [Node.isLongNumber, Node.field?, Dictionary.find?_cons, Value.number?] using short
  | string | identifier => contradiction

theorem hereditary_numbers (value : Binary64) :
    Hereditary
      (fun operand => operand.tree.Lacks Node.isLongNumber →
        .number value "" ∈ operand.lexemes → IsPlain value)
      (fun expression => expression.tree.Lacks Node.isLongNumber →
        .number value "" ∈ expression.lexemes → IsPlain value)
      (fun property => property.tree.Lacks Node.isLongNumber →
        .number value "" ∈ property.lexemes → IsPlain value) where
  number := by
    intro number lacks member
    exact Key.plain_of_lacks (.number number) lacks (List.mem_singleton.1 member).symm
  string := fun _ _ member => by simp [Operand.lexemes] at member
  identifier := fun _ _ member => by simp [Operand.lexemes] at member
  group := by
    intro inner plain lacks member
    refine plain lacks ?_
    simpa [Operand.lexemes] using member
  object := by
    intro properties plain lacks member
    have each := (lacks_objectTree.1 lacks).2
    rw [propertiesTrees_eq, List.forall_mem_map] at each
    have inside : .number value "" ∈ propertiesLexemes properties := by
      simpa [Operand.lexemes] using member
    obtain ⟨property, among, stands⟩ := (mem_propertiesLexemes rfl).1 inside
    exact plain property among (each property among) stands
  expression := by
    intro first others plain lacks member
    obtain ⟨operand, among, stands⟩ := (Expression.mem_lexemes rfl).1 member
    refine plain operand among ?_ stands
    match others with
    | [] =>
        rw [List.mem_singleton.1 among]
        exact lacks
    | second :: others =>
        have each := (lacks_sequence.1 lacks).2
        rw [← operandsTrees, operandsTrees_eq, List.forall_mem_map] at each
        exact each operand among
  named := by
    intro key operand plain lacks member
    obtain ⟨-, lacksKey, lacksValue⟩ := lacks_propertyTree.1 lacks
    rcases List.mem_cons.1 member with same | member
    · exact key.plain_of_lacks lacksKey same.symm
    · refine plain lacksValue ?_
      simpa using member
  shorthand := fun _ _ member => by simp [Property.lexemes] at member
  computed := by
    intro key operand plainKey plainValue lacks member
    obtain ⟨-, lacksKey, lacksValue⟩ := lacks_propertyTree.1 lacks
    have parts : .number value "" ∈ key.lexemes ∨ .number value "" ∈ operand.lexemes := by
      simpa [Property.lexemes] using member
    rcases parts with inside | inside
    · exact plainKey lacksKey inside
    · exact plainValue lacksValue inside

variable {lexed : Lexed} {statements : List Expression} {goal : Goal} {tree : Node}

/-- Where the numbers of the tree are plain, so are those that the source spells. -/
theorem plain_of_plainNumbers (same : contents lexed.tokens = programLexemes statements)
    (derived : tree.unmarked = programTree statements goal) (plain : PlainNumbers tree) :
    ∀ x ∈ lexed.numbers, IsPlain x := by
  have lacks := plainNumbers_iff.1 plain
  rw [← Node.lacks_unmarked isLongNumber_unmarked, derived,
    lacks_programTree rfl fun _ => rfl] at lacks
  intro value member
  obtain ⟨token, stands, number⟩ := List.mem_filterMap.1 member
  have spelled : .number value "" ∈ programLexemes statements := by
    rw [← same]
    refine List.mem_map.2 ⟨token, stands, ?_⟩
    cases written : token.lexeme with
    | number other spelling =>
        rw [written] at number
        cases number
        rfl
    | string | identifier | mark =>
        rw [written] at number
        contradiction
  obtain ⟨statement, among, inside⟩ := (mem_programLexemes rfl).1 spelled
  exact (hereditary_numbers value).of_expression statement (lacks statement among) inside

end Numbers

section Rejection

theorem exists_ok_of_mapM {α β ε : Type} {print : α → Except ε β} {items : List α}
    {texts : List β} (printed : items.mapM print = .ok texts) :
    ∀ item ∈ items, ∃ text, print item = .ok text := by
  induction items generalizing texts with
  | nil => simp
  | cons item rest induction =>
      rw [List.mapM_cons, bind_eq_ok] at printed
      obtain ⟨text, first, printed⟩ := printed
      rw [bind_eq_ok] at printed
      obtain ⟨others, later, -⟩ := printed
      exact List.forall_mem_cons.2 ⟨⟨text, first⟩, induction later⟩

theorem Key.lacks_isObject (key : Key) : key.tree.Lacks Node.isObject := by
  have lacks : key.tree.Lacks (Defect.symptom .rejectObjects) := key.lacks_tree
  exact lacks

theorem hereditary_objectless :
    Hereditary
      (fun operand => ∀ depth nested text,
        printExpression (some .rejectObjects) depth nested operand.tree = .ok text →
          operand.tree.Lacks Node.isObject)
      (fun expression => ∀ depth nested text,
        printExpression (some .rejectObjects) depth nested expression.tree = .ok text →
          expression.tree.Lacks Node.isObject)
      (fun _ => True) where
  number := fun value _ _ _ _ => (Key.number value).lacks_isObject
  string := fun value _ _ _ _ => (Key.string value).lacks_isObject
  identifier := fun name _ _ _ _ => (Key.identifier name).lacks_isObject
  group := fun _ lacks => lacks
  object := by
    intro properties _ depth nested text printed
    cases depth with
    | zero => contradiction
    | succ depth => contradiction
  expression := by
    intro first others lacks depth nested text printed
    match others, depth with
    | [], depth => exact lacks first List.mem_cons_self depth nested text printed
    | second :: others, 0 => contradiction
    | second :: others, depth + 1 =>
        change ((operandsTrees (first :: second :: others)).mapM
          (printItem (some .rejectObjects) (printExpression (some .rejectObjects) depth)) >>=
            fun texts => _) = _ at printed
        obtain ⟨texts, items, -⟩ := bind_eq_ok.1 printed
        refine lacks_sequence.2 ⟨rfl, ?_⟩
        rw [← operandsTrees, operandsTrees_eq, List.forall_mem_map]
        intro operand member
        have item : Value.node operand.tree ∈ operandsTrees (first :: second :: others) := by
          rw [operandsTrees_eq]
          exact List.mem_map_of_mem member
        obtain ⟨part, printedPart⟩ := exists_ok_of_mapM items _ item
        exact lacks operand member depth _ part printedPart
  named := fun _ _ _ => trivial
  shorthand := fun _ => trivial
  computed := fun _ _ _ _ => trivial

theorem lacks_of_print {statements : List Expression} {goal : Goal} {options : GenerateOptions}
    {text : String}
    (printed : print (some .rejectObjects) (programTree statements goal) options = .ok text) :
    ∀ statement ∈ statements, statement.tree.Lacks Node.isObject := by
  change ((statements.map statementTree).mapM
    (printStatement (some .rejectObjects) options.compact) >>= fun texts => _) = _ at printed
  obtain ⟨texts, items, -⟩ := bind_eq_ok.1 printed
  intro statement member
  obtain ⟨line, printedLine⟩ := exists_ok_of_mapM items _ (List.mem_map_of_mem member)
  change (printExpression (some .rejectObjects) statement.tree.height false statement.tree >>=
    fun text => _) = _ at printedLine
  obtain ⟨part, printedPart, -⟩ := bind_eq_ok.1 printedLine
  exact hereditary_objectless.of_expression statement _ _ part printedPart

end Rejection

section Trailing

variable {lexed : Lexed} {statements : List Expression} {source : String}

theorem getLast?_programLexemes (statements : List Expression) :
    ∀ last ∈ (programLexemes statements).getLast?, last = .mark ';' := by
  induction statements with
  | nil => simp [programLexemes]
  | cons statement rest induction =>
      intro last isLast
      rw [programLexemes, List.getLast?_append_cons, List.getLast?_cons] at isLast
      cases ended : (programLexemes rest).getLast? with
      | none =>
          rw [ended] at isLast
          exact (Option.mem_some_iff.1 isLast).symm
      | some other =>
          rw [ended] at isLast
          exact induction last (ended.trans isLast)

theorem parse_trailing (goal : Goal) (lexes : lex source = .ok lexed)
    (same : contents lexed.tokens = programLexemes statements)
    (plain : ∀ x ∈ lexed.numbers, IsPlain x) (defect : Option Defect) (compact : Bool) :
    ∃ fault,
      parse (String.ofList
        (programText compact (statements.map (Expression.alter defect)) ++ [')'])) goal =
          .error fault := by
  have parenthesis : Reads [')'] (some [.mark ')']) := .mark (by decide) .nil
  have reads := reads_printed lexes same plain defect compact parenthesis
  obtain ⟨relexed, relexes, resame⟩ := lex_of_reads reads
  cases read : parse (String.ofList
      (programText compact (statements.map (Expression.alter defect)) ++ [')'])) goal with
  | error fault => exact ⟨fault, rfl⟩
  | ok tree =>
      obtain ⟨lexedAgain, derivations, lexesAgain, sameAgain, -⟩ := parse_sound read
      cases relexes.symm.trans lexesAgain
      have last : .mark ')' ∈ (programLexemes derivations).getLast? := by
        rw [← sameAgain, resame]
        simp
      have semicolon := getLast?_programLexemes derivations _ last
      contradiction

end Trailing

section Outcomes

variable {σ : Type} {source : String} {goal : Goal} {tree : Node}

theorem tools_reject {defect : Option Defect} {state : σ} {options : GenerateOptions}
    {error : PrintError} (failed : print defect tree options = .error error) :
    ((tools σ defect).generate state tree options).answer = .error ⟨error.message⟩ := by
  simp [tools, failed, Except.mapError]

/-- A defect that the printer and the parser let pass is found by comparison or not at all. -/
theorem verify_of_printable (accepted : parse source goal = .ok tree) (plain : PlainNumbers tree)
    (defect : Defect) (closed : defect ≠ .trailingParen)
    (accepts : defect = .rejectObjects → tree.Lacks Node.isObject) (id : String)
    (session : Session σ) :
    (((Trial.mk id source source goal).verify (tools σ (some defect))).run session).1 =
      if tree.nodes.any defect.symptom then .generatedTreesNotEqual else .success := by
  obtain ⟨lexed, statements, lexes, same, allowed, derived⟩ := parse_sound accepted
  have printable : ∀ statement ∈ statements, Printable (some defect) statement.tree := by
    intro statement member rejects
    cases rejects
    exact (lacks_symptom_iff .rejectObjects derived).1 (accepts rfl) statement member
  have written := print_programTree statements goal .roundTrip printable
  rw [← derived, print_unmarked, if_neg fun same => closed (Option.some.inj same),
    List.append_nil] at written
  obtain ⟨reparsed, read, rederived⟩ := parse_printed lexes same allowed
    (plain_of_plainNumbers same derived plain) (some defect) GenerateOptions.roundTrip.compact
  have texts : tree.canonicalText = reparsed.canonicalText ↔ tree.Lacks defect.symptom := by
    rw [← canonicalText_alter_iff_lacks derived accepts, ← derived, ← rederived, eq_comm]
    simp only [Node.unmarked, Node.canonicalText_strip Ast.covers_none]
  have twins : Trial.Twins (tools σ (some defect)) ⟨id, source, source, goal⟩ session.state tree :=
    twins_of_parse accepted id session.state
  cases shows : tree.nodes.any defect.symptom with
  | false =>
      have course := Trial.Course.success twins (tools_generate written) (tools_parse read)
        (texts.2 (Node.any_nodes_eq_false.1 shows))
      rw [course.verify_run]
      rfl
  | true =>
      have different : tree.canonicalText ≠ reparsed.canonicalText := by
        intro alike
        rw [Node.any_nodes_eq_false.2 (texts.1 alike)] at shows
        contradiction
      have course := Trial.Course.generatedTreesNotEqual twins (tools_generate written)
        (tools_parse read) different
      rw [course.verify_run]
      rfl

theorem verify_trailing (accepted : parse source goal = .ok tree) (plain : PlainNumbers tree)
    (id : String) (session : Session σ) :
    (((Trial.mk id source source goal).verify (tools σ (some .trailingParen))).run session).1 =
      .generatedNotParsed := by
  obtain ⟨lexed, statements, lexes, same, -, derived⟩ := parse_sound accepted
  have printable : ∀ statement ∈ statements, Printable (some .trailingParen) statement.tree :=
    fun _ _ rejects => absurd rejects (by simp)
  have written := print_programTree statements goal .roundTrip printable
  rw [← derived, print_unmarked, if_pos rfl] at written
  obtain ⟨fault, refused⟩ := parse_trailing goal lexes same
    (plain_of_plainNumbers same derived plain) (some .trailingParen)
    GenerateOptions.roundTrip.compact
  have course := Trial.Course.generatedNotParsed (twins_of_parse accepted id session.state)
    (tools_generate written) (tools_refuse refused)
  rw [course.verify_run]

theorem verify_rejected (accepted : parse source goal = .ok tree)
    (shows : ¬tree.Lacks Node.isObject) (id : String) (session : Session σ) :
    (((Trial.mk id source source goal).verify (tools σ (some .rejectObjects))).run session).1 =
      .generateFailed := by
  obtain ⟨lexed, statements, lexes, same, -, derived⟩ := parse_sound accepted
  cases printed : print (some .rejectObjects) tree .roundTrip with
  | error error =>
      have course := Trial.Course.generateFailed (twins_of_parse accepted id session.state)
        (tools_reject printed)
      rw [course.verify_run]
  | ok text =>
      rw [← print_unmarked, derived] at printed
      exact absurd ((lacks_symptom_iff .rejectObjects derived).2 (lacks_of_print printed)) shows

/-- What comes of verifying an accepted program with plain numbers against itself, for each defect
of the printer: the two harmful spellings are found by comparison exactly where the program has
something for them to spell, the stray parenthesis is found by the parser, the printer itself gives
up exactly on objects, and quoted keys are harmless. -/
theorem verify_defects (accepted : parse source goal = .ok tree) (plain : PlainNumbers tree)
    (id : String) (session : Session σ) :
    let outcome (defect : Defect) :=
      (((Trial.mk id source source goal).verify (tools σ (some defect))).run session).1
    (outcome .expandShorthand =
      if tree.nodes.any Node.isShorthand then .generatedTreesNotEqual else .success) ∧
    outcome .quoteNumericKeys = .success ∧
    (outcome .flattenSequences =
      if tree.nodes.any Node.nestsBehind then .generatedTreesNotEqual else .success) ∧
    outcome .trailingParen = .generatedNotParsed ∧
    (outcome .rejectObjects =
      if tree.nodes.any Node.isObject then .generateFailed else .success) := by
  intro outcome
  have unharmed (defect : Defect) (closed : defect ≠ .trailingParen)
      (accepts : defect ≠ .rejectObjects) :
      outcome defect =
        if tree.nodes.any defect.symptom then .generatedTreesNotEqual else .success :=
    verify_of_printable accepted plain defect closed (fun rejects => absurd rejects accepts) id
      session
  refine ⟨unharmed .expandShorthand (by simp) (by simp), ?_,
    unharmed .flattenSequences (by simp) (by simp), verify_trailing accepted plain id session, ?_⟩
  · rw [unharmed .quoteNumericKeys (by simp) (by simp)]
    have harmless : tree.nodes.any (Defect.symptom .quoteNumericKeys) = false :=
      Node.any_nodes_eq_false.2 fun _ _ => rfl
    rw [harmless]
    rfl
  · cases shows : tree.nodes.any Node.isObject with
    | true =>
        refine verify_rejected accepted (fun lacks => ?_) id session
        rw [Node.any_nodes_eq_false.2 lacks] at shows
        contradiction
    | false =>
        have lacks := Node.any_nodes_eq_false.1 shows
        have found := verify_of_printable accepted plain .rejectObjects (by simp) (fun _ => lacks)
          id session
        have clear : tree.nodes.any (Defect.symptom .rejectObjects) = false := shows
        rw [clear] at found
        exact found

theorem verify_defects_sample :
    (Defect.all.map fun defect =>
        (((Trial.mk "all" "({a, 1: (2, (3, 4))});" "({a, 1: (2, (3, 4))});" .script).verify
          (tools Unit (some defect))).run ⟨(), [], []⟩).1) =
      [.generatedTreesNotEqual, .success, .generatedTreesNotEqual, .generatedNotParsed,
        .generateFailed] ∧
    (Defect.all.map fun defect =>
        (((Trial.mk "none" "(x, y), 2.5, 'z';" "(x, y), 2.5, 'z';" .script).verify
          (tools Unit (some defect))).run ⟨(), [], []⟩).1) =
      [.success, .success, .success, .generatedNotParsed, .success] := by
  have outcomes (id source : String) (shows : Bool)
      (facts : (parse source .script).toOption.any (fun tree =>
        !tree.nodes.any Node.isLongNumber && tree.nodes.any Node.isShorthand == shows &&
          tree.nodes.any Node.nestsBehind == shows && tree.nodes.any Node.isObject == shows) =
            true) :
      (Defect.all.map fun defect =>
          (((Trial.mk id source source .script).verify (tools Unit (some defect))).run
            ⟨(), [], []⟩).1) =
        if shows then
          [.generatedTreesNotEqual, .success, .generatedTreesNotEqual, .generatedNotParsed,
            .generateFailed]
        else [.success, .success, .success, .generatedNotParsed, .success] := by
    cases read : parse source .script with
    | error fault =>
        rw [read] at facts
        exact absurd facts Bool.false_ne_true
    | ok tree =>
        simp only [read, Except.toOption, Option.any_some, Bool.and_eq_true, Bool.not_eq_true',
          beq_iff_eq, and_assoc] at facts
        obtain ⟨plain, shorthand, behind, object⟩ := facts
        obtain ⟨first, second, third, fourth, fifth⟩ := verify_defects read
          (plainNumbers_iff.2 (Node.any_nodes_eq_false.1 plain)) id (⟨(), [], []⟩ : Session Unit)
        rw [shorthand] at first
        rw [behind] at third
        rw [object] at fifth
        simp only [Defect.all, List.map_cons, List.map_nil, first, second, third, fourth, fifth]
        cases shows <;> rfl
  exact ⟨outcomes _ _ true (by decide +kernel), outcomes _ _ false (by decide +kernel)⟩

end Outcomes

end Minilang

end Reparse
