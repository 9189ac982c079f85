import Reparse.Proofs.Minilang.Grammar

/-!
The node that a derivation builds from the tokens it derives.

Spans and metadata come from the tokens: a group only leaves a mark on what it holds, a sequence
reaches from its first operand to its last, and the key of a shorthand property is its value too.
-/

namespace Reparse

namespace Minilang

open Ast (Node Value)

def stopOf (tokens : List Token) : Nat :=
  (tokens.getLast?.map fun token => token.span.stop).getD 0

theorem stopOf_append {left right : List Token} (more : right ≠ []) :
    stopOf (left ++ right) = stopOf right := by
  simp only [stopOf, List.getLast?_append_of_ne_nil left more]

theorem stopOf_cons {token : Token} {tokens : List Token} (more : tokens ≠ []) :
    stopOf (token :: tokens) = stopOf tokens := by
  rw [← List.singleton_append]
  exact stopOf_append more

theorem stopOf_concat (tokens : List Token) (token : Token) :
    stopOf (tokens ++ [token]) = token.span.stop :=
  stopOf_append (List.cons_ne_nil _ _)

theorem stopOf_bracketed (first : Token) (tokens : List Token) (last : Token) :
    stopOf (first :: (tokens ++ [last])) = last.span.stop :=
  stopOf_concat (first :: tokens) last

theorem offsetOf_append {left right : List Token} (more : left ≠ []) :
    offsetOf (left ++ right) = offsetOf left := by
  cases left with
  | nil => contradiction
  | cons token left => rfl

inductive Key.Builds : Key → Token → Node → Prop where
  | number (value : Binary64) (spelling : String) (span : Ast.Span) :
      Key.Builds (.number value) ⟨.number value spelling, span⟩ (numberNode value spelling span)
  | string (value spelling : String) (span : Ast.Span) :
      Key.Builds (.string value) ⟨.string value spelling, span⟩ (stringNode value spelling span)
  | identifier (name : String) (span : Ast.Span) :
      Key.Builds (.identifier name) ⟨.identifier name, span⟩ (identifierNode name span)

mutual

inductive Operand.Builds : Operand → List Token → Node → Prop where
  | number (value : Binary64) (spelling : String) (span : Ast.Span) :
      Operand.Builds (.number value) [⟨.number value spelling, span⟩]
        (numberNode value spelling span)
  | string (value spelling : String) (span : Ast.Span) :
      Operand.Builds (.string value) [⟨.string value spelling, span⟩]
        (stringNode value spelling span)
  | identifier (name : String) (span : Ast.Span) :
      Operand.Builds (.identifier name) [⟨.identifier name, span⟩] (identifierNode name span)
  | group (opening closing : Ast.Span) {inner tokens node}
      (built : Expression.Builds inner tokens node) :
      Operand.Builds (.group inner)
        (⟨.mark '(', opening⟩ :: (tokens ++ [⟨.mark ')', closing⟩])) (markParenthesized node)
  | object (opening closing : Ast.Span) {properties tokens nodes}
      (built : PropertiesBuild properties tokens nodes) :
      Operand.Builds (.object properties)
        (⟨.mark '\x7b', opening⟩ :: (tokens ++ [⟨.mark '\x7d', closing⟩]))
        (objectNode nodes ⟨opening.start, closing.stop⟩)

inductive Expression.Builds : Expression → List Token → Node → Prop where
  | single {operand tokens node} (built : Operand.Builds operand tokens node) :
      Expression.Builds (.mk operand []) tokens node
  | sequence {first second others front rest node nodes}
      (head : Operand.Builds first front node) (tail : OthersBuild (second :: others) rest nodes) :
      Expression.Builds (.mk first (second :: others)) (front ++ rest)
        (sequenceNode (node :: nodes) ⟨offsetOf front, stopOf rest⟩)

inductive OthersBuild : List Operand → List Token → List Node → Prop where
  | nil : OthersBuild [] [] []
  | cons (comma : Ast.Span) {operand operands front rest node nodes}
      (head : Operand.Builds operand front node) (tail : OthersBuild operands rest nodes) :
      OthersBuild (operand :: operands) (⟨.mark ',', comma⟩ :: (front ++ rest)) (node :: nodes)

inductive PropertiesBuild : List Property → List Token → List Node → Prop where
  | nil : PropertiesBuild [] [] []
  | single {property tokens node} (built : Property.Builds property tokens node) :
      PropertiesBuild [property] tokens [node]
  | cons (comma : Ast.Span) {property next properties front rest node nodes}
      (head : Property.Builds property front node)
      (tail : PropertiesBuild (next :: properties) rest nodes) :
      PropertiesBuild (property :: next :: properties) (front ++ ⟨.mark ',', comma⟩ :: rest)
        (node :: nodes)

inductive Property.Builds : Property → List Token → Node → Prop where
  | named (colon : Ast.Span) {key value token tokens keyNode valueNode}
      (left : Key.Builds key token keyNode) (right : Operand.Builds value tokens valueNode) :
      Property.Builds (.named key value) (token :: ⟨.mark ':', colon⟩ :: tokens)
        (propertyNode keyNode valueNode false false ⟨token.span.start, stopOf tokens⟩)
  | shorthand (name : String) (span : Ast.Span) :
      Property.Builds (.shorthand name) [⟨.identifier name, span⟩]
        (propertyNode (identifierNode name span) (identifierNode name span) false true span)
  | computed (opening closing colon : Ast.Span) {key value front tokens keyNode valueNode}
      (left : Expression.Builds key front keyNode) (right : Operand.Builds value tokens valueNode) :
      Property.Builds (.computed key value)
        (⟨.mark '[', opening⟩ ::
          (front ++ ⟨.mark ']', closing⟩ :: ⟨.mark ':', colon⟩ :: tokens))
        (propertyNode keyNode valueNode true false ⟨opening.start, stopOf tokens⟩)

end

inductive ProgramBuilds : List Expression → List Token → List Node → Prop where
  | nil : ProgramBuilds [] [] []
  | cons (semicolon : Ast.Span) {statement statements front rest node nodes}
      (head : Expression.Builds statement front node) (tail : ProgramBuilds statements rest nodes) :
      ProgramBuilds (statement :: statements) (front ++ ⟨.mark ';', semicolon⟩ :: rest)
        (statementNode node ⟨offsetOf front, semicolon.stop⟩ :: nodes)

section Contents

variable {left right tokens : List Token} {following others : List Lexeme}

theorem contents_append : contents (left ++ right) = contents left ++ contents right :=
  List.map_append

theorem contents_cons (token : Token) :
    contents (token :: tokens) = token.lexeme.content :: contents tokens :=
  rfl

theorem contents_eq_append (same : contents tokens = following ++ others) :
    ∃ front rest, tokens = front ++ rest ∧ contents front = following ∧ contents rest = others :=
  List.map_eq_append_iff.1 same

theorem contents_eq_cons {lexeme : Lexeme} (same : contents tokens = lexeme :: following) :
    ∃ written span rest, tokens = ⟨written, span⟩ :: rest ∧ written.content = lexeme ∧
      contents rest = following := by
  cases tokens with
  | nil => contradiction
  | cons token rest =>
      obtain ⟨first, others⟩ := List.cons.inj same
      exact ⟨token.lexeme, token.span, rest, rfl, first, others⟩

theorem contents_eq_mark {c : Char} (same : contents tokens = .mark c :: following) :
    ∃ span rest, tokens = ⟨.mark c, span⟩ :: rest ∧ contents rest = following := by
  obtain ⟨written, span, rest, rfl, first, others⟩ := contents_eq_cons same
  cases written <;> cases first
  exact ⟨span, rest, rfl, others⟩

theorem contents_eq_append_mark {c : Char}
    (same : contents tokens = following ++ .mark c :: others) :
    ∃ front span rest, tokens = front ++ ⟨.mark c, span⟩ :: rest ∧ contents front = following ∧
      contents rest = others := by
  obtain ⟨front, back, rfl, before, behind⟩ := contents_eq_append same
  obtain ⟨span, rest, rfl, after⟩ := contents_eq_mark behind
  exact ⟨front, span, rest, rfl, before, after⟩

theorem contents_eq_singleton {lexeme : Lexeme} (same : contents tokens = [lexeme]) :
    ∃ written span, tokens = [⟨written, span⟩] ∧ written.content = lexeme := by
  obtain ⟨written, span, rest, rfl, first, others⟩ := contents_eq_cons same
  obtain rfl := List.map_eq_nil_iff.1 others
  exact ⟨written, span, rfl, first⟩

theorem contents_eq_bracketed {c d : Char}
    (same : contents tokens = .mark c :: (following ++ [.mark d])) :
    ∃ opening front closing, tokens = ⟨.mark c, opening⟩ :: (front ++ [⟨.mark d, closing⟩]) ∧
      contents front = following := by
  obtain ⟨opening, rest, rfl, behind⟩ := contents_eq_mark same
  obtain ⟨front, closing, last, rfl, inside, after⟩ := contents_eq_append_mark behind
  obtain rfl := List.map_eq_nil_iff.1 after
  exact ⟨opening, front, closing, rfl, inside⟩

end Contents

section NonEmpty

variable {tokens : List Token} {node : Node}

theorem Operand.Builds.ne_nil {operand : Operand} (built : operand.Builds tokens node) :
    tokens ≠ [] := by
  cases built with
  | number | string | identifier | group | object => exact List.cons_ne_nil _ _

theorem Expression.Builds.ne_nil {expression : Expression}
    (built : expression.Builds tokens node) : tokens ≠ [] := by
  cases built with
  | single built => exact built.ne_nil
  | sequence head tail => exact List.append_ne_nil_of_left_ne_nil head.ne_nil _

theorem OthersBuild.ne_nil {first : Operand} {others : List Operand} {nodes : List Node}
    (built : OthersBuild (first :: others) tokens nodes) : tokens ≠ [] := by
  cases built
  exact List.cons_ne_nil _ _

theorem Property.Builds.ne_nil {property : Property} (built : property.Builds tokens node) :
    tokens ≠ [] := by
  cases built with
  | named | shorthand | computed => exact List.cons_ne_nil _ _

end NonEmpty

section Derived

theorem Key.Builds.content {key : Key} {token : Token} (built : key.Builds token node) :
    token.lexeme.content = key.lexeme := by
  cases built <;> rfl

mutual

theorem Operand.Builds.contents {operand : Operand} {tokens : List Token} {node : Node}
    (built : operand.Builds tokens node) : contents tokens = operand.lexemes := by
  cases built with
  | number | string | identifier => rfl
  | group opening closing built =>
      simp only [contents_cons, contents_append, built.contents, Operand.lexemes]
      rfl
  | object opening closing built =>
      simp only [contents_cons, contents_append, built.contents, Operand.lexemes]
      rfl

theorem Expression.Builds.contents {expression : Expression} {tokens : List Token} {node : Node}
    (built : expression.Builds tokens node) : contents tokens = expression.lexemes := by
  cases built with
  | single built => simp only [built.contents, Expression.lexemes, othersLexemes, List.append_nil]
  | sequence head tail =>
      simp only [contents_append, head.contents, tail.contents, Expression.lexemes]

theorem OthersBuild.contents {operands : List Operand} {tokens : List Token} {nodes : List Node}
    (built : OthersBuild operands tokens nodes) : contents tokens = othersLexemes operands := by
  cases built with
  | nil => rfl
  | cons comma head tail =>
      simp only [contents_cons, contents_append, head.contents, tail.contents, othersLexemes]
      rfl

theorem PropertiesBuild.contents {properties : List Property} {tokens : List Token}
    {nodes : List Node} (built : PropertiesBuild properties tokens nodes) :
    contents tokens = propertiesLexemes properties := by
  cases built with
  | nil => rfl
  | single built => simp only [built.contents, propertiesLexemes]
  | cons comma head tail =>
      simp only [contents_cons, contents_append, head.contents, tail.contents, propertiesLexemes]
      rfl

theorem Property.Builds.contents {property : Property} {tokens : List Token} {node : Node}
    (built : property.Builds tokens node) : contents tokens = property.lexemes := by
  cases built with
  | named colon left right =>
      simp only [contents_cons, left.content, right.contents, Property.lexemes]
      rfl
  | shorthand => rfl
  | computed opening closing colon left right =>
      simp only [contents_cons, contents_append, left.contents, right.contents, Property.lexemes]
      rfl

end

theorem ProgramBuilds.contents {statements : List Expression} {tokens : List Token}
    {nodes : List Node} (built : ProgramBuilds statements tokens nodes) :
    contents tokens = programLexemes statements := by
  induction built with
  | nil => rfl
  | cons semicolon head tail induction =>
      simp only [contents_cons, contents_append, head.contents, induction, programLexemes]
      rfl

end Derived

section Existence

theorem Key.exists_builds (key : Key) {tokens : List Token} {following : List Lexeme}
    (same : contents tokens = key.lexeme :: following) :
    ∃ token rest node, tokens = token :: rest ∧ contents rest = following ∧
      key.Builds token node := by
  obtain ⟨written, span, rest, rfl, first, others⟩ := contents_eq_cons same
  cases key with
  | number value =>
      cases written <;> cases first
      exact ⟨_, rest, _, rfl, others, .number value _ span⟩
  | string value =>
      cases written <;> cases first
      exact ⟨_, rest, _, rfl, others, .string value _ span⟩
  | identifier name =>
      cases written <;> cases first
      exact ⟨_, rest, _, rfl, others, .identifier name span⟩

mutual

/-- Tokens that a derivation derives do build a node. -/
theorem Operand.exists_builds (operand : Operand) {tokens : List Token}
    (same : contents tokens = operand.lexemes) : ∃ node, operand.Builds tokens node := by
  cases operand with
  | number value =>
      obtain ⟨written, span, rfl, first⟩ := contents_eq_singleton same
      cases written <;> cases first
      exact ⟨_, .number value _ span⟩
  | string value =>
      obtain ⟨written, span, rfl, first⟩ := contents_eq_singleton same
      cases written <;> cases first
      exact ⟨_, .string value _ span⟩
  | identifier name =>
      obtain ⟨written, span, rfl, first⟩ := contents_eq_singleton same
      cases written <;> cases first
      exact ⟨_, .identifier name span⟩
  | group inner =>
      obtain ⟨opening, front, closing, rfl, inside⟩ := contents_eq_bracketed same
      obtain ⟨node, built⟩ := inner.exists_builds inside
      exact ⟨_, .group opening closing built⟩
  | object properties =>
      obtain ⟨opening, front, closing, rfl, inside⟩ := contents_eq_bracketed same
      obtain ⟨nodes, built⟩ := exists_propertiesBuild properties inside
      exact ⟨_, .object opening closing built⟩

theorem Expression.exists_builds (expression : Expression) {tokens : List Token}
    (same : contents tokens = expression.lexemes) : ∃ node, expression.Builds tokens node := by
  cases expression with
  | mk first others =>
      obtain ⟨front, rest, rfl, before, behind⟩ := contents_eq_append same
      obtain ⟨node, head⟩ := first.exists_builds before
      obtain ⟨nodes, tail⟩ := exists_othersBuild others behind
      cases others with
      | nil =>
          cases tail
          rw [List.append_nil]
          exact ⟨node, .single head⟩
      | cons second others => exact ⟨_, .sequence head tail⟩

theorem exists_othersBuild (operands : List Operand) {tokens : List Token}
    (same : contents tokens = othersLexemes operands) :
    ∃ nodes, OthersBuild operands tokens nodes := by
  match operands with
  | [] =>
      obtain rfl := List.map_eq_nil_iff.1 same
      exact ⟨[], .nil⟩
  | operand :: operands =>
      obtain ⟨comma, rest, rfl, behind⟩ := contents_eq_mark same
      obtain ⟨front, rest, rfl, before, behind⟩ := contents_eq_append behind
      obtain ⟨node, head⟩ := operand.exists_builds before
      obtain ⟨nodes, tail⟩ := exists_othersBuild operands behind
      exact ⟨node :: nodes, .cons comma head tail⟩

theorem exists_propertiesBuild (properties : List Property) {tokens : List Token}
    (same : contents tokens = propertiesLexemes properties) :
    ∃ nodes, PropertiesBuild properties tokens nodes := by
  match properties with
  | [] =>
      obtain rfl := List.map_eq_nil_iff.1 same
      exact ⟨[], .nil⟩
  | [property] =>
      obtain ⟨node, built⟩ := property.exists_builds same
      exact ⟨[node], .single built⟩
  | property :: next :: properties =>
      obtain ⟨front, comma, rest, rfl, before, behind⟩ := contents_eq_append_mark same
      obtain ⟨node, head⟩ := property.exists_builds before
      obtain ⟨nodes, tail⟩ := exists_propertiesBuild (next :: properties) behind
      exact ⟨node :: nodes, .cons comma head tail⟩

theorem Property.exists_builds (property : Property) {tokens : List Token}
    (same : contents tokens = property.lexemes) : ∃ node, property.Builds tokens node := by
  cases property with
  | named key value =>
      obtain ⟨token, rest, node, rfl, behind, left⟩ := key.exists_builds same
      obtain ⟨colon, rest, rfl, after⟩ := contents_eq_mark behind
      obtain ⟨valueNode, right⟩ := value.exists_builds after
      exact ⟨_, .named colon left right⟩
  | shorthand name =>
      obtain ⟨written, span, rfl, first⟩ := contents_eq_singleton same
      cases written <;> cases first
      exact ⟨_, .shorthand name span⟩
  | computed key value =>
      obtain ⟨opening, rest, rfl, behind⟩ := contents_eq_mark same
      obtain ⟨front, closing, rest, rfl, before, behind⟩ := contents_eq_append_mark behind
      obtain ⟨colon, rest, rfl, after⟩ := contents_eq_mark behind
      obtain ⟨keyNode, left⟩ := key.exists_builds before
      obtain ⟨valueNode, right⟩ := value.exists_builds after
      exact ⟨_, .computed opening closing colon left right⟩

end

theorem exists_programBuilds (statements : List Expression) {tokens : List Token}
    (same : contents tokens = programLexemes statements) :
    ∃ nodes, ProgramBuilds statements tokens nodes := by
  induction statements generalizing tokens with
  | nil =>
      obtain rfl := List.map_eq_nil_iff.1 same
      exact ⟨[], .nil⟩
  | cons statement statements induction =>
      obtain ⟨front, semicolon, rest, rfl, before, behind⟩ := contents_eq_append_mark same
      obtain ⟨node, head⟩ := statement.exists_builds before
      obtain ⟨nodes, tail⟩ := induction behind
      exact ⟨_, .cons semicolon head tail⟩

end Existence

section Trees

theorem unmarked_markParenthesized (node : Node) :
    (markParenthesized node).unmarked = node.unmarked := by
  cases node with
  | mk kind span fields metadata =>
      simp only [markParenthesized]
      split
      · rfl
      · rfl

theorem unmarked_sequenceNode (expressions : List Node) (span : Ast.Span) :
    (sequenceNode expressions span).unmarked =
      Node.sequence (expressions.map fun node => .node node.unmarked) := by
  simp [sequenceNode, Node.unmarked, Node.strip, Ast.entriesStrip, Value.strip,
    Ast.itemsStrip_eq_map, Node.sequence, Node.bare]

theorem unmarked_objectNode (properties : List Node) (span : Ast.Span) :
    (objectNode properties span).unmarked =
      objectTree (properties.map fun node => .node node.unmarked) := by
  simp [objectNode, Node.unmarked, Node.strip, Ast.entriesStrip, Value.strip,
    Ast.itemsStrip_eq_map, objectTree]

theorem unmarked_propertyNode (key value : Node) (computed shorthand : Bool) (span : Ast.Span) :
    (propertyNode key value computed shorthand span).unmarked =
      propertyTree key.unmarked value.unmarked computed shorthand := by
  simp [propertyNode, Node.unmarked, Node.strip, Ast.entriesStrip, Value.strip, propertyTree]

theorem unmarked_statementNode (expression : Node) (span : Ast.Span) :
    (statementNode expression span).unmarked =
      ⟨.other "ExpressionStatement", none, [("expression", .node expression.unmarked)], []⟩ := by
  simp [statementNode, Node.unmarked, Node.strip, Ast.entriesStrip, Value.strip]

theorem unmarked_programNode (body : List Node) (goal : Goal) (comments : List Comment)
    (length : Nat) :
    (programNode body goal comments length).unmarked =
      ⟨.other "Program", none,
        [("body", .list (body.map fun node => .node node.unmarked)),
          ("sourceType", .text goal.name)], []⟩ := by
  simp [programNode, Node.unmarked, Node.strip, Ast.entriesStrip, Value.strip,
    Ast.itemsStrip_eq_map]

theorem Key.Builds.tree {key : Key} {token : Token} {node : Node}
    (built : key.Builds token node) : node.unmarked = key.tree := by
  cases built <;> rfl

mutual

/-- Without spans and metadata the node is the tree of the derivation. -/
theorem Operand.Builds.tree {operand : Operand} {tokens : List Token} {node : Node}
    (built : operand.Builds tokens node) : node.unmarked = operand.tree := by
  cases built with
  | number | string | identifier => rfl
  | group opening closing built =>
      rw [unmarked_markParenthesized]
      exact built.tree
  | object opening closing built => rw [unmarked_objectNode, built.trees, Operand.tree]

theorem Expression.Builds.tree {expression : Expression} {tokens : List Token} {node : Node}
    (built : expression.Builds tokens node) : node.unmarked = expression.tree := by
  cases built with
  | single built => exact built.tree
  | sequence head tail =>
      rw [unmarked_sequenceNode, List.map_cons, head.tree, tail.trees, Expression.tree]

theorem OthersBuild.trees {operands : List Operand} {tokens : List Token} {nodes : List Node}
    (built : OthersBuild operands tokens nodes) :
    nodes.map (fun node => Value.node node.unmarked) = operandsTrees operands := by
  cases built with
  | nil => rfl
  | cons comma head tail => rw [List.map_cons, head.tree, tail.trees, operandsTrees]

theorem PropertiesBuild.trees {properties : List Property} {tokens : List Token}
    {nodes : List Node} (built : PropertiesBuild properties tokens nodes) :
    nodes.map (fun node => Value.node node.unmarked) = propertiesTrees properties := by
  cases built with
  | nil => rfl
  | single built => rw [List.map_singleton, built.tree, propertiesTrees, propertiesTrees]
  | cons comma head tail =>
      rw [List.map_cons, head.tree, tail.trees]
      rfl

theorem Property.Builds.tree {property : Property} {tokens : List Token} {node : Node}
    (built : property.Builds tokens node) : node.unmarked = property.tree := by
  cases built with
  | named colon left right => rw [unmarked_propertyNode, left.tree, right.tree, Property.tree]
  | shorthand => rfl
  | computed opening closing colon left right =>
      rw [unmarked_propertyNode, left.tree, right.tree, Property.tree]

end

theorem ProgramBuilds.trees {statements : List Expression} {tokens : List Token}
    {nodes : List Node} (built : ProgramBuilds statements tokens nodes) :
    nodes.map (fun node => Value.node node.unmarked) = statements.map statementTree := by
  induction built with
  | nil => rfl
  | cons semicolon head tail induction =>
      rw [List.map_cons, List.map_cons, unmarked_statementNode, head.tree, induction, statementTree]

end Trees

end Minilang

end Reparse
