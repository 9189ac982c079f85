import Reparse.Proofs.Ast.Key
import Reparse.Proofs.Ast.Sequence

namespace Reparse

namespace Ast

/-- Two expressions that begin with a left nest of `inner` further pairs, each in a sequence of
nothing but its two expressions, and the values read off from the innermost outward. -/
inductive LeftSpine : (inner : Nat) → (pair : List Value) → (values : List Value) → Prop where
  | innermost (first second : Value) : LeftSpine 0 [first, second] [first, second]
  | outward {inner : Nat} {pair values : List Value} (inside : LeftSpine inner pair values)
      (last : Value) :
      LeftSpine (inner + 1)
        [.node ⟨.sequenceExpression, none, [("expressions", .list pair)], []⟩, last]
        (values ++ [last])

theorem leftSpine_leftNest (first second : Value) (rest : List Value) :
    LeftSpine rest.length (Node.leftNest first second rest) (first :: second :: rest) := by
  induction rest using List.reverseRecOn with
  | nil => exact .innermost first second
  | append_singleton rest last induction =>
      rw [Node.leftNest_append, List.length_append, List.length_singleton]
      exact .outward induction last

theorem leftSpine_nested {items : List Value} (long : 2 ≤ items.length) :
    LeftSpine (items.length - 2) (nested items) items := by
  match items with
  | first :: second :: rest => exact leftSpine_leftNest first second rest
  | [] | [_] => simp at long

theorem Value.number?_normalForm (value : Value) : value.normalForm.number? = value.number? := by
  cases value <;> rfl

theorem Value.text?_normalForm (value : Value) : value.normalForm.text? = value.text? := by
  cases value <;> rfl

namespace Node

/-- A sequence of expressions that the normal form nests. -/
structure Nests (node : Node) (items : List Value) : Prop where
  kind : node.kind = .sequenceExpression
  stands : node.field? "expressions" = some (.list items)
  long : 3 ≤ items.length

/-- A member with a key that the normal form spells as a string, and that string. -/
inductive Respells (node : Node) : String → Prop where
  | number {key : Node} {value : Binary64} (member : node.kind.isKeyedMember = true)
      (stands : node.field? "key" = some (.node key)) (kind : key.kind = .numericLiteral)
      (told : key.field? "value" = some (.number value)) :
      Respells node (String.ofList value.scriptText)
  | name {key : Node} {name : String} (member : node.kind.isKeyedMember = true)
      (stands : node.field? "key" = some (.node key)) (kind : key.kind = .identifier)
      (told : key.field? "name" = some (.text name)) (written : node.flag "shorthand" = false)
      (plain : node.flag "computed" = false) :
      Respells node name

/-- A tree and its normal form, field by field. -/
structure Reshapes (tree result : Node) : Prop where
  kind : result.kind = tree.kind
  span : result.span = tree.span
  metadata : result.metadata = tree.metadata
  names : Dictionary.names result.fields = Dictionary.names tree.fields
  kept : ∀ name, (name = "expressions" → ∀ items, ¬tree.Nests items) →
    (name = "key" → ∀ text, ¬tree.Respells text) →
      result.field? name = (tree.field? name).map Value.normalForm
  nested : ∀ items, tree.Nests items →
    ∃ pair, result.field? "expressions" = some (.list pair) ∧
      LeftSpine (items.length - 2) pair (items.map Value.normalForm)
  respelled : ∀ text, tree.Respells text →
    result.field? "key" = some (.node ⟨.stringLiteral, none, [("value", .text text)], []⟩)

section Rules

variable {node : Node}

theorem field?_replace (node : Node) (name other : String) (value : Value) :
    Node.field? { node with fields := Dictionary.replace node.fields name value } other =
      if name = other then (node.field? other).map fun _ => value else node.field? other :=
  Dictionary.find?_replace node.fields name other value

theorem span_reshape (node : Node) : node.reshape.span = node.span := by
  obtain ⟨fields, -, same⟩ := node.exists_reshape_eq
  rw [same]

theorem metadata_reshape (node : Node) : node.reshape.metadata = node.metadata := by
  obtain ⟨fields, -, same⟩ := node.exists_reshape_eq
  rw [same]

/-- Nesting changes no field but expressions, and those only when there are three or more. -/
theorem field?_nestExpressions {name : String}
    (kept : name = "expressions" → ∀ items, node.field? name = some (.list items) →
      items.length ≤ 2) :
    node.nestExpressions.field? name = node.field? name := by
  unfold nestExpressions
  split
  · next first second third rest found =>
      rw [field?_replace]
      split
      · next same =>
          subst same
          have short := kept rfl _ found
          simp at short
      · rfl
  · rfl

theorem field?_spellKey {name : String} (kept : name = "key" → node.spelling? = none) :
    node.spellKey.field? name = node.field? name := by
  by_cases same : name = "key"
  · rw [spellKey_eq, kept same]
  · exact field?_spellKey_of_ne node same

end Rules

section Root

variable {node : Node} {text : String}

theorem normalForm_eq (node : Node) : node.normalForm = node.settled.reshape := by
  cases node
  rfl

theorem kind_settled (node : Node) : node.settled.kind = node.kind :=
  rfl

theorem field?_settled_eq_list {name : String} {values : List Value} :
    node.settled.field? name = some (.list values) ↔
      ∃ items, node.field? name = some (.list items) ∧ items.map Value.normalForm = values := by
  rw [field?_settled]
  cases node.field? name with
  | none => simp
  | some value => cases value <;> simp [Value.normalForm, itemsNormalForm_eq_map]

theorem normalForm_of_others (noSequence : node.kind ≠ .sequenceExpression)
    (noMember : ¬node.kind.isKeyedMember = true) : node.normalForm = node.settled := by
  rw [normalForm_eq, reshape, kind_settled, if_neg noSequence, if_neg noMember]

theorem keyText?_settled (plain : Bool) (key : Node) :
    keyText? plain key.settled = keyText? plain key := by
  simp only [keyText?, kind_settled, field?_settled, Option.bind_eq_bind, Option.bind_map,
    Function.comp_def, Value.number?_normalForm, Value.text?_normalForm]

theorem keyText?_normalForm (plain : Bool) (key : Node) :
    keyText? plain key.normalForm = keyText? plain key := by
  cases kind : key.kind with
  | numericLiteral | identifier =>
      rw [normalForm_of_others (by simp [kind]) (by simp [kind, Kind.isKeyedMember]),
        keyText?_settled]
  | _ => simp [keyText?, kind_normalForm, kind]

/-- The rule for members finds the key in normal form, which has the text that it had before. -/
theorem spelling?_settled : node.settled.spelling? = node.spelling? := by
  rw [spelling?, spelling?, flag_settled, flag_settled, fieldNode?, fieldNode?, field?_settled]
  cases node.field? "key" with
  | none => rfl
  | some value =>
      simp only [Option.map_some, Option.bind_eq_bind, Option.bind_some, Value.node?_normalForm]
      cases value.node? with
      | none => rfl
      | some key => exact keyText?_normalForm _ key

theorem Respells.member (respells : node.Respells text) : node.kind.isKeyedMember = true := by
  cases respells with
  | number member | name member => exact member

theorem spelling?_eq_some_iff (member : node.kind.isKeyedMember = true) :
    node.spelling? = some text ↔ node.Respells text := by
  rw [spelling?, Option.bind_eq_some_iff]
  constructor
  · rintro ⟨key, found, told⟩
    rw [fieldNode?_eq_some_iff] at found
    rcases keyText?_eq_some_iff.1 told with ⟨kind, value, holds, rfl⟩ | ⟨kind, plain, holds⟩
    · exact .number member found kind holds
    · rw [Bool.and_eq_true, Bool.not_eq_true', Bool.not_eq_true'] at plain
      exact .name member found kind holds plain.1 plain.2
  · rintro (⟨-, stands, kind, told⟩ | ⟨-, stands, kind, told, written, plain⟩)
    · exact ⟨_, fieldNode?_eq_some_iff.2 stands, keyText?_eq_some_iff.2 (.inl ⟨kind, _, told, rfl⟩)⟩
    · refine ⟨_, fieldNode?_eq_some_iff.2 stands, keyText?_eq_some_iff.2 (.inr ⟨kind, ?_, told⟩)⟩
      rw [written, plain]
      rfl

theorem field?_normalForm {name : String}
    (noNest : name = "expressions" → ∀ items, ¬node.Nests items)
    (noSpelling : name = "key" → ∀ text, ¬node.Respells text) :
    node.normalForm.field? name = (node.field? name).map Value.normalForm := by
  rw [normalForm_eq, ← field?_settled, reshape, kind_settled]
  split
  · next isSequence =>
      refine field?_nestExpressions fun same values found => ?_
      obtain ⟨items, stands, rfl⟩ := field?_settled_eq_list.1 found
      have short : ¬3 ≤ items.length := by
        intro long
        subst same
        exact noNest rfl items ⟨isSequence, stands, long⟩
      rw [List.length_map]
      omega
  · split
    · next member =>
        refine field?_spellKey fun same => ?_
        rw [spelling?_settled, Option.eq_none_iff_forall_ne_some]
        intro text spelled
        exact noSpelling same text ((spelling?_eq_some_iff member).1 spelled)
    · rfl

theorem Nests.leftSpine {items : List Value} (nests : node.Nests items) :
    ∃ pair, node.normalForm.field? "expressions" = some (.list pair) ∧
      LeftSpine (items.length - 2) pair (items.map Value.normalForm) := by
  have inside := field?_settled_eq_list.2 ⟨items, nests.stands, rfl⟩
  have long : 2 ≤ (items.map Value.normalForm).length := by
    rw [List.length_map]
    exact Nat.le_of_succ_le nests.long
  have spine := leftSpine_nested long
  rw [List.length_map] at spine
  refine ⟨_, ?_, spine⟩
  rw [normalForm_eq, reshape, kind_settled, if_pos nests.kind,
    nestExpressions_of_list inside, field?_replace, if_pos rfl, inside, Option.map_some]

theorem Respells.field?_key (respells : node.Respells text) :
    node.normalForm.field? "key" =
      some (.node ⟨.stringLiteral, none, [("value", .text text)], []⟩) := by
  have member := respells.member
  have spelled := (spelling?_eq_some_iff member).2 respells
  obtain ⟨key, found, -⟩ := Option.bind_eq_some_iff.1 spelled
  rw [fieldNode?_eq_some_iff] at found
  rw [normalForm_of_member member, spellKey_eq, spelling?_settled, spelled]
  rw [field?_replace, if_pos rfl, field?_settled, found]
  rfl

end Root

end Node

/-- The normal form of a tree is the tree with its fields in normal form, but for expressions that
nest and a key that is spelled as a string.  Lists and untyped maps keep all their parts, each in
normal form, and other values stay as they are. -/
theorem normalForm_frame (tree : Node) :
    tree.Reshapes tree.normalForm ∧
    (Value.node tree).normalForm = .node tree.normalForm ∧
    (∀ items, (Value.list items).normalForm = .list (items.map Value.normalForm)) ∧
    (∀ entries, (Value.map entries).normalForm =
      .map (entries.map fun entry => (entry.1, entry.2.normalForm))) ∧
    ∀ value : Value, (∀ node, value ≠ .node node) → (∀ items, value ≠ .list items) →
      (∀ entries, value ≠ .map entries) → value.normalForm = value := by
  refine ⟨⟨tree.kind_normalForm, ?_, ?_, tree.names_normalForm, fun _ => Node.field?_normalForm,
    fun _ nests => nests.leftSpine, fun _ respells => respells.field?_key⟩, rfl, ?_, ?_, ?_⟩
  · rw [Node.normalForm_eq, Node.span_reshape]
    rfl
  · rw [Node.normalForm_eq, Node.metadata_reshape]
    rfl
  · intro items
    rw [Value.normalForm, itemsNormalForm_eq_map]
  · intro entries
    rw [Value.normalForm, entriesNormalForm_eq_map]
  · intro value noNode noList noMap
    cases value with
    | node node => exact absurd rfl (noNode node)
    | list items => exact absurd rfl (noList items)
    | map entries => exact absurd rfl (noMap entries)
    | null | bool | number | text => rfl

theorem normalForm_frame_sample :
    (∃ pair,
      (Node.sequence [.text "a", .text "b", .text "c"]).normalForm.field? "expressions" =
        some (.list pair) ∧ LeftSpine 1 pair [.text "a", .text "b", .text "c"]) ∧
    (⟨.objectMethod, none,
      [("key", .node ⟨.identifier, some ⟨0, 1⟩, [("name", .text "a")], []⟩)],
      []⟩ : Node).normalForm.field? "key" =
        some (.node ⟨.stringLiteral, none, [("value", .text "a")], []⟩) := by
  constructor
  · exact (normalForm_frame (.sequence [.text "a", .text "b", .text "c"])).1.nested
      [.text "a", .text "b", .text "c"] ⟨rfl, rfl, Nat.le_refl 3⟩
  · exact (normalForm_frame ⟨.objectMethod, none, _, []⟩).1.respelled "a"
      (.name rfl rfl rfl rfl rfl rfl)

end Ast

end Reparse
