import Mathlib.Logic.Relation
import Reparse.Proofs.Dictionary
import Reparse.Proofs.Minilang.Coverage
import Reparse.Proofs.Minilang.Parser

/-!
Where the nodes of a parsed program stand.

The tokens of a derivation stand in order between two offsets, and the node it builds reaches from
the first of them to the last.  A token that is left out, such as a parenthesis, only leaves room
around the node, so what stands in a row stays in a row and what is inside stays inside.
-/

namespace Reparse

namespace Ast

mutual

def Value.topNodes : Value → List Node
  | .list items => itemsTopNodes items
  | .map entries => entriesTopNodes entries
  | .node node => [node]
  | _ => []

def itemsTopNodes : List Value → List Node
  | [] => []
  | item :: rest => item.topNodes ++ itemsTopNodes rest

def entriesTopNodes : List (String × Value) → List Node
  | [] => []
  | (_, value) :: rest => value.topNodes ++ entriesTopNodes rest

end

def Node.children (node : Node) : List Node :=
  entriesTopNodes node.fields ++ entriesTopNodes node.metadata

def Node.Contains (tree node : Node) : Prop :=
  Relation.ReflTransGen (fun parent child => child ∈ parent.children) tree node

/-- All of some nodes have spans, and each span ends before the later ones begin. -/
def InRow (nodes : List Node) : Prop :=
  ∃ spans : List Span, nodes.map Node.span = spans.map some ∧ spans.Pairwise Span.Before

def Node.raw? (node : Node) : Option String :=
  match Dictionary.find? node.metadata "extra" with
  | some (.map extra) => Dictionary.find? extra "raw" >>= Value.text?
  | _ => none

section Children

@[simp] theorem itemsTopNodes_map_node (nodes : List Node) :
    itemsTopNodes (nodes.map .node) = nodes := by
  induction nodes with
  | nil => rfl
  | cons node nodes induction =>
      rw [List.map_cons, itemsTopNodes, induction, Value.topNodes, List.singleton_append]

theorem mem_entriesTopNodes {entries : List (String × Value)} {node : Node} :
    node ∈ entriesTopNodes entries ↔ ∃ entry ∈ entries, node ∈ entry.2.topNodes := by
  induction entries with
  | nil => simp [entriesTopNodes]
  | cons entry entries induction =>
      rw [entriesTopNodes, List.mem_append, induction, List.exists_mem_cons_iff]

theorem mem_entriesTopNodes_insert {entries : List (String × Value)} {name : String}
    {value : Value} {node : Node}
    (member : node ∈ entriesTopNodes (Dictionary.insert entries name value)) :
    node ∈ entriesTopNodes entries ∨ node ∈ value.topNodes := by
  obtain ⟨entry, inserted, among⟩ := mem_entriesTopNodes.1 member
  rcases Dictionary.mem_of_mem_insert inserted with old | rfl
  · exact .inl (mem_entriesTopNodes.2 ⟨entry, old, among⟩)
  · exact .inr among

theorem Node.contains_iff {tree node : Node} :
    tree.Contains node ↔ node = tree ∨ ∃ child ∈ tree.children, child.Contains node :=
  Relation.ReflTransGen.cases_head_iff.trans (or_congr_left eq_comm)

end Children

def rowNames : List String :=
  ["body", "expressions", "properties"]

/-- What the span of a node tells of its source: the part that it cuts out is the text of the node,
and what stands in the node stands in that part, in its order. -/
structure Node.StandsAt (node : Node) (source : String) (span : Span) : Prop where
  fits : span.Fits source
  children : ∀ child ∈ node.children, ∃ inner, child.span = some inner ∧ inner.Within span
  rows : ∀ name ∈ rowNames, ∀ value, node.field? name = some value →
    ∃ nodes, value = .list (nodes.map .node) ∧ InRow nodes
  identifier : node.kind = .identifier → node.field? "name" = some (.text (span.slice source))
  literal : node.kind = .numericLiteral ∨ node.kind = .stringLiteral →
    node.raw? = some (span.slice source)
  comment : node.kind = .other "CommentLine" →
    ∃ text, node.field? "value" = some (.text text) ∧ span.slice source = "//" ++ text

def spelledKinds : List Kind :=
  [.identifier, .numericLiteral, .stringLiteral, .other "CommentLine"]

/-- Every node of a tree has a span and stands there. -/
def Node.Placed (source : String) (tree : Node) : Prop :=
  ∀ node, tree.Contains node → ∃ span, node.span = some span ∧ node.StandsAt source span

def Node.PlacedIn (source : String) (outer : Span) (tree : Node) : Prop :=
  (∃ span, tree.span = some span ∧ span.Within outer) ∧ tree.Placed source

theorem Node.placed_iff {source : String} {tree : Node} :
    tree.Placed source ↔
      (∃ span, tree.span = some span ∧ tree.StandsAt source span) ∧
        ∀ child ∈ tree.children, child.Placed source := by
  simp only [Placed, @contains_iff tree]
  constructor
  · intro placed
    exact ⟨placed tree (.inl rfl), fun child below node inside =>
      placed node (.inr ⟨child, below, inside⟩)⟩
  · rintro ⟨stands, below⟩ node (rfl | ⟨child, isChild, inside⟩)
    · exact stands
    · exact below child isChild node inside

end Ast

namespace Minilang

open Ast (Node Value)

/-- Nodes stand in order between two offsets of a source, with all that is in them. -/
structure Stand (source : String) (low high : Nat) (nodes : List Node) : Prop where
  inOrder : ∃ spans, nodes.map Node.span = spans.map some ∧ InOrder low high spans
  placed : ∀ node ∈ nodes, node.Placed source

section Stand

variable {source : String} {low middle high : Nat} {nodes left right : List Node} {node : Node}
  {span : Ast.Span}

theorem Stand.append (before : Stand source low middle left)
    (after : Stand source middle high right) : Stand source low high (left ++ right) where
  inOrder := by
    obtain ⟨spans, same, inOrder⟩ := before.inOrder
    obtain ⟨others, sameOthers, inOrderOthers⟩ := after.inOrder
    refine ⟨spans ++ others, ?_, inOrder.append inOrderOthers⟩
    rw [List.map_append, same, sameOthers, List.map_append]
  placed := List.forall_mem_append.2 ⟨before.placed, after.placed⟩

theorem Stand.inRow (stand : Stand source low high nodes) : Ast.InRow nodes := by
  obtain ⟨spans, same, inOrder⟩ := stand.inOrder
  exact ⟨spans, same, inOrder.ordered⟩

theorem Stand.placedIn (stand : Stand source low high nodes) (member : node ∈ nodes) :
    node.PlacedIn source ⟨low, high⟩ := by
  obtain ⟨spans, same, inOrder⟩ := stand.inOrder
  have found : node.span ∈ spans.map some := by
    rw [← same]
    exact List.mem_map_of_mem member
  obtain ⟨inner, isSpan, same⟩ := List.mem_map.1 found
  exact ⟨⟨inner, same.symm, inOrder.within inner isSpan⟩, stand.placed node member⟩

theorem Stand.single (isSpan : node.span = some span) (forward : span.start ≤ span.stop)
    (within : span.Within ⟨low, high⟩) (placed : node.Placed source) :
    Stand source low high [node] where
  inOrder := by
    refine ⟨[span], ?_, .single forward within⟩
    rw [List.map_singleton, isSpan, List.map_singleton]
  placed := List.forall_mem_singleton.2 placed

theorem Stand.nil (bounded : low ≤ high) : Stand source low high [] where
  inOrder := ⟨[], rfl, bounded, .nil, nofun, nofun⟩
  placed := nofun

/-- A node that reaches from the first of its tokens to the last stands where they do. -/
theorem Written.stand {tokens : List Token} (written : Written source low high tokens)
    (begun : tokens ≠ []) (isSpan : node.span = some span) (start : offsetOf tokens = span.start)
    (stop : stopOf tokens = span.stop)
    (placed : span.Fits source → Written source span.start span.stop tokens → node.Placed source) :
    Stand source low high [node] := by
  have fits := written.fits_tokens begun
  have within := written.within begun
  have tight := written.tight begun
  rw [start, stop] at fits within tight
  exact .single isSpan fits.ordered within (placed fits tight)

end Stand

section Placed

variable {source : String} {span : Ast.Span} {nodes : List Node} {node : Node}

@[simp] theorem children_propertyNode (key value : Node) (computed shorthand : Bool)
    (span : Ast.Span) :
    (propertyNode key value computed shorthand span).children = [key, value] :=
  rfl

@[simp] theorem children_statementNode (expression : Node) (span : Ast.Span) :
    (statementNode expression span).children = [expression] :=
  rfl

@[simp] theorem children_programNode (body : List Node) (goal : Goal) (comments : List Comment)
    (length : Nat) :
    (programNode body goal comments length).children = body ++ comments.map commentNode := by
  have nodes : comments.map (fun comment => Value.node (commentNode comment)) =
      (comments.map commentNode).map .node := by
    rw [List.map_map]
    rfl
  simp only [Node.children, programNode, nodes]
  split
  · next none =>
      obtain rfl := List.isEmpty_iff.1 none
      simp [Ast.entriesTopNodes, Value.topNodes]
  · simp only [Ast.entriesTopNodes, Value.topNodes, Ast.itemsTopNodes_map_node, List.append_nil]

theorem placed_literal {kind : Ast.Kind} {value : Value} {spelling : String}
    (isLiteral : kind = .numericLiteral ∨ kind = .stringLiteral) (fits : span.Fits source)
    (cut : span.slice source = spelling) (plain : value.topNodes = []) :
    Node.Placed source ⟨kind, some span, [("value", value)], extraRaw spelling⟩ := by
  have childless : Node.children ⟨kind, some span, [("value", value)], extraRaw spelling⟩ = [] := by
    simp [Node.children, extraRaw, Ast.entriesTopNodes, Value.topNodes, plain]
  refine Node.placed_iff.2 ⟨⟨span, rfl, fits, ?_, ?_, ?_, ?_, ?_⟩, ?_⟩
  · simp [childless]
  · simp [Node.field?, Dictionary.find?_cons, Ast.rowNames]
  · rintro rfl
    simp at isLiteral
  · intro _
    rw [cut]
    rfl
  · rintro rfl
    simp at isLiteral
  · simp [childless]

theorem placed_identifierNode {name : String} (fits : span.Fits source)
    (cut : span.slice source = name) : (identifierNode name span).Placed source := by
  refine Node.placed_iff.2 ⟨⟨span, rfl, fits, nofun, ?_, ?_, nofun, nofun⟩, nofun⟩
  · simp [identifierNode, Node.field?, Dictionary.find?_cons, Ast.rowNames]
  · intro _
    rw [cut]
    rfl

theorem placed_of_children (isSpan : node.span = some span) (fits : span.Fits source)
    (unspelled : node.kind ∉ Ast.spelledKinds)
    (children : ∀ child ∈ node.children, child.PlacedIn source span)
    (rows : ∀ name ∈ Ast.rowNames, ∀ value, node.field? name = some value →
      ∃ nodes, value = .list (nodes.map .node) ∧ Ast.InRow nodes) : node.Placed source := by
  simp only [Ast.spelledKinds, List.mem_cons, not_or] at unspelled
  obtain ⟨notIdentifier, notNumber, notString, notComment, -⟩ := unspelled
  refine Node.placed_iff.2 ⟨⟨span, isSpan, fits, ?_, rows, ?_, ?_, ?_⟩, ?_⟩
  · exact fun child member => (children child member).1
  · exact fun isIdentifier => absurd isIdentifier notIdentifier
  · rintro (isNumber | isString)
    · exact absurd isNumber notNumber
    · exact absurd isString notString
  · exact fun isComment => absurd isComment notComment
  · exact fun child member => (children child member).2

theorem placed_listNode {kind : Ast.Kind} {field : String}
    (unspelled : kind ∉ Ast.spelledKinds) (fits : span.Fits source)
    (stand : Stand source span.start span.stop nodes) :
    Node.Placed source ⟨kind, some span, [(field, .list (nodes.map .node))], []⟩ := by
  refine placed_of_children rfl fits unspelled ?_ ?_
  · intro child member
    simp only [Node.children, Ast.entriesTopNodes, Value.topNodes, Ast.itemsTopNodes_map_node,
      List.append_nil] at member
    exact stand.placedIn member
  · intro name _ value found
    rw [Node.field?, Dictionary.find?_cons] at found
    split at found
    · cases found
      exact ⟨nodes, rfl, stand.inRow⟩
    · contradiction

theorem placed_propertyNode {key value : Node} {computed shorthand : Bool}
    (fits : span.Fits source) (left : key.PlacedIn source span)
    (right : value.PlacedIn source span) :
    (propertyNode key value computed shorthand span).Placed source := by
  refine placed_of_children rfl fits (by simp [propertyNode, Ast.spelledKinds]) ?_ ?_
  · rw [children_propertyNode]
    exact List.forall_mem_cons.2 ⟨left, List.forall_mem_singleton.2 right⟩
  · simp [propertyNode, Node.field?, Dictionary.find?_cons, Ast.rowNames]

theorem placed_statementNode (fits : span.Fits source) (inner : node.PlacedIn source span) :
    (statementNode node span).Placed source := by
  refine placed_of_children rfl fits (by simp [statementNode, Ast.spelledKinds]) ?_ ?_
  · rw [children_statementNode]
    exact List.forall_mem_singleton.2 inner
  · simp [statementNode, Node.field?, Dictionary.find?_cons, Ast.rowNames]

theorem raw?_markParenthesized (node : Node) : (markParenthesized node).raw? = node.raw? := by
  simp only [markParenthesized, Node.raw?]
  cases found : Dictionary.find? node.metadata "extra" with
  | none => simp [Node.withMetadata, Dictionary.find?_insert, Dictionary.find?_cons]
  | some value =>
      cases value with
      | map extra => simp [Node.withMetadata, Dictionary.find?_insert]
      | null | bool | number | text | list | node =>
          simp [Node.withMetadata, Dictionary.find?_insert, Dictionary.find?_cons]

theorem children_markParenthesized {child : Node}
    (member : child ∈ (markParenthesized node).children) : child ∈ node.children := by
  rw [Node.children, List.mem_append] at member ⊢
  rw [markParenthesized] at member
  split at member
  · next extra found =>
      refine member.imp_right fun inserted => ?_
      rcases Ast.mem_entriesTopNodes_insert inserted with old | new
      · exact old
      · refine Ast.mem_entriesTopNodes.2 ⟨_, Dictionary.mem_of_find? found, ?_⟩
        exact (Ast.mem_entriesTopNodes_insert new).resolve_right List.not_mem_nil
  · refine member.imp_right fun inserted => ?_
    exact (Ast.mem_entriesTopNodes_insert inserted).resolve_right List.not_mem_nil

theorem markParenthesized_keeps (node : Node) :
    (markParenthesized node).kind = node.kind ∧ (markParenthesized node).span = node.span ∧
      (markParenthesized node).fields = node.fields := by
  rw [markParenthesized]
  split
  · exact ⟨rfl, rfl, rfl⟩
  · exact ⟨rfl, rfl, rfl⟩

theorem placed_markParenthesized (placed : node.Placed source) :
    (markParenthesized node).Placed source := by
  obtain ⟨⟨span, isSpan, stands⟩, below⟩ := Node.placed_iff.1 placed
  obtain ⟨sameKind, sameSpan, sameFields⟩ := markParenthesized_keeps node
  have sameField : (markParenthesized node).field? = node.field? := by
    funext name
    rw [Node.field?, Node.field?, sameFields]
  refine Node.placed_iff.2 ⟨⟨span, sameSpan.trans isSpan, stands.fits, ?_, ?_, ?_, ?_, ?_⟩, ?_⟩
  · exact fun child member => stands.children child (children_markParenthesized member)
  · rw [sameField]
    exact stands.rows
  · rw [sameKind, sameField]
    exact stands.identifier
  · rw [sameKind, raw?_markParenthesized]
    exact stands.literal
  · rw [sameKind, sameField]
    exact stands.comment
  · exact fun child member => below child (children_markParenthesized member)

theorem Stand.parenthesized {low high : Nat} (stand : Stand source low high [node]) :
    Stand source low high [markParenthesized node] := by
  obtain ⟨spans, same, inOrder⟩ := stand.inOrder
  refine ⟨⟨spans, ?_, inOrder⟩, List.forall_mem_singleton.2 ?_⟩
  · rw [List.map_singleton, (markParenthesized_keeps node).2.1]
    exact same
  · exact placed_markParenthesized (stand.placed node List.mem_cons_self)

end Placed

section Builds

variable {source : String}

theorem Key.Builds.stand {key : Key} {token : Token} {node : Node}
    (built : key.Builds token node) {low high : Nat} (written : Written source low high [token]) :
    Stand source low high [node] := by
  have cut := written.cuts token List.mem_cons_self
  cases built with
  | number value spelling span =>
      refine written.stand (List.cons_ne_nil _ _) rfl rfl rfl fun fits _ => ?_
      exact placed_literal (.inl rfl) fits cut rfl
  | string value spelling span =>
      refine written.stand (List.cons_ne_nil _ _) rfl rfl rfl fun fits _ => ?_
      exact placed_literal (.inr rfl) fits cut rfl
  | identifier name span =>
      refine written.stand (List.cons_ne_nil _ _) rfl rfl rfl fun fits _ => ?_
      exact placed_identifierNode fits cut

mutual

theorem Operand.Builds.stand {operand : Operand} {tokens : List Token} {node : Node}
    (built : operand.Builds tokens node) {low high : Nat}
    (written : Written source low high tokens) : Stand source low high [node] := by
  cases built with
  | number value spelling span => exact Key.Builds.stand (.number value spelling span) written
  | string value spelling span => exact Key.Builds.stand (.string value spelling span) written
  | identifier name span => exact Key.Builds.stand (.identifier name span) written
  | group opening closing built =>
      -- The node keeps its span, so it also stands between the offsets around the parentheses.
      have inside := written.sublist ((List.sublist_append_left _ _).cons _)
      exact (built.stand inside).parenthesized
  | object opening closing built =>
      refine written.stand (List.cons_ne_nil _ _) rfl rfl (stopOf_bracketed _ _ _) ?_
      intro fits tight
      have inside := tight.sublist ((List.sublist_append_left _ _).cons _)
      exact placed_listNode (by decide) fits (built.stand inside)

theorem Expression.Builds.stand {expression : Expression} {tokens : List Token} {node : Node}
    (built : expression.Builds tokens node) {low high : Nat}
    (written : Written source low high tokens) : Stand source low high [node] := by
  cases built with
  | single built => exact built.stand written
  | sequence head tail =>
      refine written.stand (List.append_ne_nil_of_left_ne_nil head.ne_nil _)
        rfl (offsetOf_append head.ne_nil) (stopOf_append tail.ne_nil) ?_
      intro fits tight
      obtain ⟨middle, before, after⟩ := tight.split
      exact placed_listNode (by decide) fits ((head.stand before).append (tail.stand after))

theorem OthersBuild.stand {operands : List Operand} {tokens : List Token} {nodes : List Node}
    (built : OthersBuild operands tokens nodes) {low high : Nat}
    (written : Written source low high tokens) : Stand source low high nodes := by
  cases built with
  | nil => exact .nil written.inOrder.bounded
  | cons comma head tail =>
      obtain ⟨middle, before, after⟩ := (written.sublist (List.sublist_cons_self _ _)).split
      exact (head.stand before).append (tail.stand after)

theorem PropertiesBuild.stand {properties : List Property} {tokens : List Token}
    {nodes : List Node} (built : PropertiesBuild properties tokens nodes) {low high : Nat}
    (written : Written source low high tokens) : Stand source low high nodes := by
  cases built with
  | nil => exact .nil written.inOrder.bounded
  | single built => exact built.stand written
  | cons comma head tail =>
      obtain ⟨middle, before, after⟩ := written.split
      have behind := after.sublist (List.sublist_cons_self _ _)
      exact (head.stand before).append (tail.stand behind)

theorem Property.Builds.stand {property : Property} {tokens : List Token} {node : Node}
    (built : property.Builds tokens node) {low high : Nat}
    (written : Written source low high tokens) : Stand source low high [node] := by
  cases built with
  | named colon left right =>
      refine written.stand (List.cons_ne_nil _ _) rfl rfl
        ((stopOf_cons (List.cons_ne_nil _ _)).trans (stopOf_cons right.ne_nil)) ?_
      intro fits tight
      have key := left.stand (tight.sublist (List.singleton_sublist.2 List.mem_cons_self))
      have value := right.stand
        (tight.sublist ((List.sublist_cons_self _ _).trans (List.sublist_cons_self _ _)))
      exact placed_propertyNode fits (key.placedIn List.mem_cons_self)
        (value.placedIn List.mem_cons_self)
  | shorthand name span =>
      refine written.stand (List.cons_ne_nil _ _) rfl rfl rfl ?_
      intro fits tight
      have key := Key.Builds.stand (.identifier name span) tight
      exact placed_propertyNode fits (key.placedIn List.mem_cons_self)
        (key.placedIn List.mem_cons_self)
  | @computed opening closing colon _ _ front tokens _ _ left right =>
      have stop : stopOf (⟨.mark '[', opening⟩ ::
          (front ++ ⟨.mark ']', closing⟩ :: ⟨.mark ':', colon⟩ :: tokens)) = stopOf tokens := by
        rw [stopOf_cons (List.append_ne_nil_of_left_ne_nil left.ne_nil _),
          stopOf_append (List.cons_ne_nil _ _), stopOf_cons (List.cons_ne_nil _ _),
          stopOf_cons right.ne_nil]
      refine written.stand (List.cons_ne_nil _ _) rfl rfl stop ?_
      intro fits tight
      have inside := tight.sublist (List.sublist_cons_self _ _)
      have key := left.stand (inside.sublist (List.sublist_append_left _ _))
      have behind := inside.sublist (List.sublist_append_right _ _)
      have value := right.stand (behind.sublist
        ((List.sublist_cons_self _ _).trans (List.sublist_cons_self _ _)))
      exact placed_propertyNode fits (key.placedIn List.mem_cons_self)
        (value.placedIn List.mem_cons_self)

end

theorem ProgramBuilds.stand {program : List Expression} {tokens : List Token}
    {nodes : List Node} (built : ProgramBuilds program tokens nodes) {low high : Nat}
    (written : Written source low high tokens) : Stand source low high nodes := by
  induction built generalizing low with
  | nil => exact .nil written.inOrder.bounded
  | @cons semicolon _ _ front rest node _ head tail induction =>
      rw [← List.singleton_append, ← List.append_assoc] at written
      obtain ⟨middle, before, after⟩ := written.split
      have first : Stand source low middle
          [statementNode node ⟨offsetOf front, semicolon.stop⟩] := by
        refine before.stand (List.append_ne_nil_of_left_ne_nil head.ne_nil _) rfl
          (offsetOf_append head.ne_nil) (stopOf_concat _ _) ?_
        intro fits tight
        have inside := head.stand (tight.sublist (List.sublist_append_left _ _))
        exact placed_statementNode fits (inside.placedIn List.mem_cons_self)
      exact first.append (induction after)

end Builds

section Parsed

variable {source : String} {lexed : Lexed}

theorem placed_commentNode {comment : Comment} (fits : comment.span.Fits source)
    (cut : comment.span.slice source = "//" ++ comment.text) :
    (commentNode comment).Placed source := by
  refine Node.placed_iff.2 ⟨⟨comment.span, rfl, fits, nofun, ?_, nofun, nofun, ?_⟩, nofun⟩
  · simp [commentNode, Node.field?, Dictionary.find?_cons, Ast.rowNames]
  · intro _
    exact ⟨comment.text, rfl, cut⟩

theorem placed_programNode (tiles : lexed.Tiles source) {body : List Node}
    (stand : Stand source 0 source.utf8ByteSize body) (goal : Goal) :
    (programNode body goal lexed.comments source.utf8ByteSize).Placed source := by
  refine placed_of_children rfl (fits_source source) (by simp [programNode, Ast.spelledKinds]) ?_ ?_
  · rw [children_programNode, List.forall_mem_append]
    refine ⟨fun child member => stand.placedIn member, ?_⟩
    intro child member
    obtain ⟨comment, isComment, rfl⟩ := List.mem_map.1 member
    have fits := tiles.fits comment.span
      (List.mem_append_right _ (List.mem_map_of_mem isComment))
    exact ⟨⟨comment.span, rfl, Nat.zero_le _, fits.bounded⟩,
      placed_commentNode fits (tiles.comment comment isComment)⟩
  · intro name known value found
    simp only [programNode, Node.field?, Dictionary.find?_cons] at found
    split at found
    · cases found
      exact ⟨body, rfl, stand.inRow⟩
    · split at found
      · next same =>
          subst same
          simp [Ast.rowNames] at known
      · contradiction

/-- The tokens and comments of a source account for all of it but blanks, and each node of its tree
stands where its text is, inside the node above it and in its place among the nodes beside it. -/
theorem spans_lose_nothing (source : String) :
    (∀ lexed, lex source = .ok lexed → lexed.Tiles source) ∧
      ∀ goal tree, parse source goal = .ok tree → tree.Placed source := by
  refine ⟨fun lexed => tiles_of_lex, ?_⟩
  intro goal tree parsed
  obtain ⟨lexed, program, body, lexes, built, -, rfl⟩ := parse_eq_ok.1 parsed
  have tiles := tiles_of_lex lexes
  exact placed_programNode tiles (built.stand tiles.written) goal

theorem spans_lose_nothing_sample :
    ∃ lexed tree, lex "('é'), {a}; // ß" = .ok lexed ∧
      parse "('é'), {a}; // ß" .script = .ok tree ∧
      lexed.spans =
        [⟨0, 1⟩, ⟨1, 5⟩, ⟨5, 6⟩, ⟨6, 7⟩, ⟨8, 9⟩, ⟨9, 10⟩, ⟨10, 11⟩, ⟨11, 12⟩, ⟨13, 18⟩] ∧
      lexed.Tiles "('é'), {a}; // ß" ∧ tree.Placed "('é'), {a}; // ß" := by
  let program : List Expression :=
    [.mk (.group (.mk (.string "é") [])) [.object [.shorthand "a"]]]
  have spelled : (lex "('é'), {a}; // ß").toOption.map
      (fun lexed => (lexed.spans, contents lexed.tokens)) =
        some ([⟨0, 1⟩, ⟨1, 5⟩, ⟨5, 6⟩, ⟨6, 7⟩, ⟨8, 9⟩, ⟨9, 10⟩, ⟨10, 11⟩, ⟨11, 12⟩, ⟨13, 18⟩],
          programLexemes program) := by
    decide +kernel
  have allowed : Allowed .script (programLexemes program) := nofun
  obtain ⟨tiles, placed⟩ := spans_lose_nothing "('é'), {a}; // ß"
  cases lexes : lex "('é'), {a}; // ß" with
  | error fault =>
      rw [lexes] at spelled
      contradiction
  | ok lexed =>
      rw [lexes] at spelled
      obtain ⟨spans, derives⟩ := Prod.mk.inj (Option.some.inj spelled)
      obtain ⟨tree, parsed, -⟩ := parse_complete lexes derives allowed
      exact ⟨lexed, tree, rfl, parsed, spans, tiles lexed lexes, placed .script tree parsed⟩

end Parsed

end Minilang

end Reparse
