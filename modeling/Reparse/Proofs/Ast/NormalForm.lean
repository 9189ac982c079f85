import Reparse.Ast.CanonicalText
import Reparse.Proofs.Ast.Condition

/-!
Trees in normal form.

The rule for a root makes the root normal and keeps normal what stands below it, and it leaves a
normal root as it is.  So the normal form of a tree is normal throughout, and only trees that are
normal throughout are their own normal forms.
-/

namespace Reparse

namespace Ast

theorem find?_entriesNormalForm (entries : List (String × Value)) (name : String) :
    Dictionary.find? (entriesNormalForm entries) name =
      (Dictionary.find? entries name).map Value.normalForm := by
  rw [entriesNormalForm_eq_map]
  exact Dictionary.find?_map entries (fun _ => Value.normalForm) name

theorem names_entriesNormalForm (entries : List (String × Value)) :
    Dictionary.names (entriesNormalForm entries) = Dictionary.names entries := by
  rw [entriesNormalForm_eq_map, Dictionary.names, Dictionary.names, List.map_map]
  rfl

theorem contains_entriesNormalForm (entries : List (String × Value)) (name : String) :
    Dictionary.contains (entriesNormalForm entries) name = Dictionary.contains entries name := by
  rw [Dictionary.contains, Dictionary.contains, find?_entriesNormalForm, Option.isSome_map]

namespace Node

/-- The rule for roots changes nothing but the values of fields. -/
theorem exists_reshape_eq (node : Node) :
    ∃ fields, Dictionary.names fields = Dictionary.names node.fields ∧
      node.reshape = { node with fields := fields } := by
  have kept : ∃ fields, Dictionary.names fields = Dictionary.names node.fields ∧
      node = { node with fields := fields } := by
    cases node with
    | mk kind span fields metadata => exact ⟨fields, rfl, rfl⟩
  unfold reshape nestExpressions spellKey
  split
  · split
    · exact ⟨_, Dictionary.names_replace _ _ _, rfl⟩
    · exact kept
  · split
    · split
      · exact ⟨_, Dictionary.names_replace _ _ _, rfl⟩
      · exact kept
    · exact kept

theorem kind_reshape (node : Node) : node.reshape.kind = node.kind := by
  obtain ⟨fields, -, same⟩ := node.exists_reshape_eq
  rw [same]

theorem names_reshape (node : Node) :
    Dictionary.names node.reshape.fields = Dictionary.names node.fields := by
  obtain ⟨fields, names, same⟩ := node.exists_reshape_eq
  rw [same]
  exact names

theorem kind_normalForm (node : Node) : node.normalForm.kind = node.kind := by
  cases node
  exact kind_reshape _

theorem names_normalForm (node : Node) :
    Dictionary.names node.normalForm.fields = Dictionary.names node.fields := by
  cases node with
  | mk kind span fields metadata =>
      rw [normalForm, names_reshape]
      exact names_entriesNormalForm fields

end Node

namespace Condition

/-- Normal forms turn one condition into another: it holds of what becomes of nodes and maps with
the first one, and of the nodes that the rules for roots put in. -/
structure Becomes (before after : Condition) : Prop where
  pair : ∀ first second, after.onNode (.sequence [first, second])
  literal : ∀ text, after.onNode (.stringLiteral text)
  onNode : ∀ node, before.onNode node → after.onNode node.normalForm
  onMap : ∀ entries, before.onMap entries → after.onMap (entriesNormalForm entries)
  shallow : ¬after.inMetadata

namespace Becomes

variable {before after : Condition}

theorem meets_leftNest (becomes : before.Becomes after) (first second : Value) (rest : List Value)
    (all : ItemsMeet after (first :: second :: rest)) :
    ItemsMeet after (Node.leftNest first second rest) := by
  induction rest generalizing first second with
  | nil => exact all
  | cons next rest induction =>
      obtain ⟨firstMeets, secondMeets, restMeets⟩ := all
      have pair : (Node.sequence [first, second]).Meets after :=
        ⟨becomes.pair first second, ⟨⟨firstMeets, secondMeets, trivial⟩, trivial⟩,
          becomes.shallow.elim⟩
      exact induction _ _ ⟨pair, restMeets⟩

theorem meets_fields_reshape (becomes : before.Becomes after) {node : Node}
    (all : EntriesMeet after node.fields) : EntriesMeet after node.reshape.fields := by
  unfold Node.reshape Node.nestExpressions Node.spellKey
  split
  · split
    · next first second third rest found =>
        have nest : (Value.list (Node.leftNest first second (third :: rest))).Meets after :=
          becomes.meets_leftNest first second _ (meets_of_find? all found)
        exact entriesMeet_replace "expressions" all nest
    · exact all
  · split
    · split
      · next text spelled =>
          have literal : (Node.stringLiteral text).Meets after :=
            ⟨becomes.literal text, ⟨trivial, trivial⟩, becomes.shallow.elim⟩
          exact entriesMeet_replace "key" all literal
      · exact all
    · exact all

end Becomes

end Condition

section Becomes

variable {before after : Condition}

mutual

/-- Where normal forms turn one condition into another, a tree that meets the first one throughout
has a normal form that meets the other throughout. -/
theorem Node.meets_normalForm (becomes : before.Becomes after) (node : Node)
    (all : node.Meets before) : node.normalForm.Meets after := by
  have root : after.onNode node.normalForm := becomes.onNode node (Node.meets_iff.1 all).1
  refine Node.meets_iff.2 ⟨root, ?_, becomes.shallow.elim⟩
  cases node with
  | mk kind span fields metadata =>
      exact becomes.meets_fields_reshape (entriesMeet_normalForm becomes fields all.2.1)

theorem Value.meets_normalForm (becomes : before.Becomes after) (value : Value)
    (all : value.Meets before) : value.normalForm.Meets after := by
  cases value with
  | list items => exact itemsMeet_normalForm becomes items all
  | map entries =>
      exact ⟨becomes.onMap entries all.1, entriesMeet_normalForm becomes entries all.2⟩
  | node node => exact Node.meets_normalForm becomes node all
  | null | bool | number | text => trivial

theorem itemsMeet_normalForm (becomes : before.Becomes after) (items : List Value)
    (all : ItemsMeet before items) : ItemsMeet after (itemsNormalForm items) := by
  match items with
  | [] => trivial
  | item :: rest =>
      exact ⟨Value.meets_normalForm becomes item all.1, itemsMeet_normalForm becomes rest all.2⟩

theorem entriesMeet_normalForm (becomes : before.Becomes after) (entries : List (String × Value))
    (all : EntriesMeet before entries) : EntriesMeet after (entriesNormalForm entries) := by
  match entries with
  | [] => trivial
  | (name, value) :: rest =>
      exact ⟨Value.meets_normalForm becomes value all.1,
        entriesMeet_normalForm becomes rest all.2⟩

end

end Becomes

theorem Condition.Becomes.mapsUntyped : Becomes .mapsUntyped .mapsUntyped where
  pair := fun _ _ => trivial
  literal := fun _ => trivial
  onNode := fun _ _ => trivial
  onMap := fun entries untyped => (contains_entriesNormalForm entries "type").trans untyped
  shallow := id

/-- A node that no rule changes: at most two expressions in a sequence, and no key in a member that
is spelled as a string elsewhere. -/
structure Node.IsNormal (node : Node) : Prop where
  pair : node.kind = .sequenceExpression → ∀ items,
    node.field? "expressions" = some (.list items) → items.length ≤ 2
  numericKey : node.kind.isKeyedMember = true → ∀ key value,
    node.field? "key" = some (.node key) → key.kind = .numericLiteral →
      key.field? "value" ≠ some (.number value)
  plainKey : node.kind.isKeyedMember = true → node.flag "shorthand" = false →
    node.flag "computed" = false → ∀ key name,
      node.field? "key" = some (.node key) → key.kind = .identifier →
        key.field? "name" ≠ some (.text name)

def Condition.normal : Condition where
  onNode := Node.IsNormal
  onMap := fun _ => True
  inMetadata := False

namespace Node

theorem length_leftNest (first second : Value) (rest : List Value) :
    (leftNest first second rest).length = 2 := by
  induction rest generalizing first second with
  | nil => rfl
  | cons next rest induction => exact induction _ _

theorem fieldNode?_eq_some_iff {node inner : Node} {name : String} :
    node.fieldNode? name = some inner ↔ node.field? name = some (.node inner) := by
  rw [fieldNode?]
  cases node.field? name with
  | none => simp
  | some value => cases value <;> simp [Value.node?]

/-- The text that the key of a member is spelled as, where the rule for members changes it. -/
def spelling? (node : Node) : Option String :=
  (node.fieldNode? "key").bind (keyText? (!node.flag "shorthand" && !node.flag "computed"))

theorem spellKey_eq (node : Node) :
    node.spellKey =
      match node.spelling? with
      | some text =>
          { node with
            fields := Dictionary.replace node.fields "key" (.node (stringLiteral text)) }
      | none => node :=
  rfl

theorem keyText?_eq_some_iff {plain : Bool} {key : Node} {text : String} :
    keyText? plain key = some text ↔
      (key.kind = .numericLiteral ∧ ∃ value, key.field? "value" = some (.number value) ∧
        String.ofList value.scriptText = text) ∨
      (key.kind = .identifier ∧ plain = true ∧ key.field? "name" = some (.text text)) := by
  rw [keyText?]
  cases key.kind with
  | numericLiteral =>
      cases key.field? "value" with
      | none => simp
      | some value => cases value <;> simp [Value.number?]
  | identifier =>
      cases plain with
      | false => simp
      | true =>
          cases key.field? "name" with
          | none => simp
          | some value => cases value <;> simp [Value.text?]
  | _ => simp

theorem keyText?_eq_none_iff {plain : Bool} {key : Node} :
    keyText? plain key = none ↔
      (key.kind = .numericLiteral → ∀ value, key.field? "value" ≠ some (.number value)) ∧
      (plain = true → key.kind = .identifier → ∀ name, key.field? "name" ≠ some (.text name)) := by
  rw [Option.eq_none_iff_forall_ne_some]
  constructor
  · intro absent
    refine ⟨fun numeric value told => ?_, fun written named name told => ?_⟩
    · exact absent _ (keyText?_eq_some_iff.2 (.inl ⟨numeric, value, told, rfl⟩))
    · exact absent name (keyText?_eq_some_iff.2 (.inr ⟨named, written, told⟩))
  · rintro ⟨noNumber, noName⟩ text spelled
    rcases keyText?_eq_some_iff.1 spelled with ⟨numeric, value, told, -⟩ | ⟨named, written, told⟩
    · exact noNumber numeric value told
    · exact noName written named text told

theorem isNormal_iff_of_member {node : Node} (member : node.kind.isKeyedMember = true) :
    node.IsNormal ↔ node.spelling? = none := by
  have noSequence : node.kind ≠ .sequenceExpression := by
    intro same
    rw [same] at member
    contradiction
  rw [spelling?, Option.bind_eq_none_iff]
  constructor
  · intro normal key found
    rw [fieldNode?_eq_some_iff] at found
    refine keyText?_eq_none_iff.2 ⟨fun numeric value => ?_, fun plain named name => ?_⟩
    · exact normal.numericKey member key value found numeric
    · rw [Bool.and_eq_true, Bool.not_eq_true', Bool.not_eq_true'] at plain
      exact normal.plainKey member plain.1 plain.2 key name found named
  · intro kept
    refine ⟨fun same => absurd same noSequence, fun _ key value found numeric => ?_,
      fun _ shorthand computed key name found named => ?_⟩
    · exact (keyText?_eq_none_iff.1 (kept key (fieldNode?_eq_some_iff.2 found))).1 numeric value
    · refine (keyText?_eq_none_iff.1 (kept key (fieldNode?_eq_some_iff.2 found))).2 ?_ named name
      rw [shorthand, computed]
      rfl

theorem isNormal_of_sequence {node : Node} (isSequence : node.kind = .sequenceExpression)
    (short : ∀ items, node.field? "expressions" = some (.list items) → items.length ≤ 2) :
    node.IsNormal := by
  have noMember : node.kind.isKeyedMember ≠ true := by
    rw [isSequence]
    exact Bool.false_ne_true
  exact ⟨fun _ => short, fun member => absurd member noMember,
    fun member => absurd member noMember⟩

theorem isNormal_of_others {node : Node} (noSequence : node.kind ≠ .sequenceExpression)
    (noMember : node.kind.isKeyedMember ≠ true) : node.IsNormal :=
  ⟨fun same => absurd same noSequence, fun member => absurd member noMember,
    fun member => absurd member noMember⟩

theorem nestExpressions_of_isNormal {node : Node} (isSequence : node.kind = .sequenceExpression)
    (normal : node.IsNormal) : node.nestExpressions = node := by
  unfold nestExpressions
  split
  · next first second third rest found =>
      have short := normal.pair isSequence _ found
      simp at short
  · rfl

theorem spellKey_of_isNormal {node : Node} (member : node.kind.isKeyedMember = true)
    (normal : node.IsNormal) : node.spellKey = node := by
  rw [spellKey_eq, (isNormal_iff_of_member member).1 normal]

theorem reshape_of_isNormal {node : Node} (normal : node.IsNormal) : node.reshape = node := by
  unfold reshape
  split
  · next isSequence => exact nestExpressions_of_isNormal isSequence normal
  · split
    · next member => exact spellKey_of_isNormal member normal
    · rfl

theorem isNormal_nestExpressions {node : Node} (isSequence : node.kind = .sequenceExpression) :
    node.nestExpressions.IsNormal := by
  unfold nestExpressions
  split
  · next first second third rest found =>
      refine isNormal_of_sequence isSequence fun items kept => ?_
      rw [field?] at found
      rw [field?, Dictionary.find?_replace, if_pos rfl, found] at kept
      cases kept
      exact Nat.le_of_eq (length_leftNest first second (third :: rest))
  · next short =>
      refine isNormal_of_sequence isSequence fun items found => ?_
      match items with
      | first :: second :: third :: rest => exact absurd found (short first second third rest)
      | [] | [_] | [_, _] => simp

theorem isNormal_spellKey {node : Node} (member : node.kind.isKeyedMember = true) :
    node.spellKey.IsNormal := by
  rw [spellKey_eq]
  split
  · next text spelled =>
      obtain ⟨key, found, -⟩ := Option.bind_eq_some_iff.1 spelled
      rw [fieldNode?_eq_some_iff] at found
      refine (isNormal_iff_of_member ?_).2 (Option.bind_eq_none_iff.2 fun literal same => ?_)
      · exact member
      · rw [fieldNode?_eq_some_iff, field?, Dictionary.find?_replace, if_pos rfl] at same
        rw [field?] at found
        rw [found] at same
        cases same
        rfl
  · next kept => exact (isNormal_iff_of_member member).2 kept

theorem isNormal_reshape (node : Node) : node.reshape.IsNormal := by
  unfold reshape
  split
  · next isSequence => exact isNormal_nestExpressions isSequence
  · next noSequence =>
      split
      · next member => exact isNormal_spellKey member
      · next noMember => exact isNormal_of_others noSequence noMember

end Node

theorem Condition.Becomes.normal : Becomes .unrestricted .normal where
  pair := fun first second => by
    refine Node.isNormal_of_sequence rfl fun items found => ?_
    cases found
    exact Nat.le_refl 2
  literal := fun _ => Node.isNormal_of_others Kind.noConfusion Bool.false_ne_true
  onNode := fun node _ => by
    cases node
    exact Node.isNormal_reshape _
  onMap := fun _ _ => trivial
  shallow := id

theorem Node.normal_normalForm (node : Node) : node.normalForm.Meets .normal :=
  node.meets_normalForm .normal node.meets_unrestricted

mutual

theorem Node.normalForm_of_meets {node : Node} (normal : node.Meets .normal) :
    node.normalForm = node := by
  cases node with
  | mk kind span fields metadata =>
      obtain ⟨root, below, -⟩ := normal
      rw [Node.normalForm, entriesNormalForm_of_meet below]
      exact Node.reshape_of_isNormal root

theorem Value.normalForm_of_meets {value : Value} (normal : value.Meets .normal) :
    value.normalForm = value := by
  cases value with
  | list items => exact congrArg Value.list (itemsNormalForm_of_meet normal)
  | map entries => exact congrArg Value.map (entriesNormalForm_of_meet normal.2)
  | node node => exact congrArg Value.node (Node.normalForm_of_meets normal)
  | null | bool | number | text => rfl

theorem itemsNormalForm_of_meet {items : List Value} (normal : ItemsMeet .normal items) :
    itemsNormalForm items = items := by
  match items with
  | [] => rfl
  | item :: rest =>
      rw [itemsNormalForm, Value.normalForm_of_meets normal.1, itemsNormalForm_of_meet normal.2]

theorem entriesNormalForm_of_meet {entries : List (String × Value)}
    (normal : EntriesMeet .normal entries) : entriesNormalForm entries = entries := by
  match entries with
  | [] => rfl
  | (name, value) :: rest =>
      rw [entriesNormalForm, Value.normalForm_of_meets normal.1,
        entriesNormalForm_of_meet normal.2]

end

/-- Normal forms are normal throughout, and a tree is its own normal form exactly when it is normal
throughout.  So taking the normal form twice changes nothing, nor does it change the canonical
text. -/
theorem normalForm_eq_self_iff_normal (tree : Node) :
    tree.normalForm.Meets .normal ∧ (tree.normalForm = tree ↔ tree.Meets .normal) ∧
      tree.normalForm.normalForm = tree.normalForm ∧
      tree.normalForm.canonicalText = tree.canonicalText := by
  have normal := tree.normal_normalForm
  have again : tree.normalForm.normalForm = tree.normalForm := Node.normalForm_of_meets normal
  refine ⟨normal, ⟨fun same => ?_, Node.normalForm_of_meets⟩, again, ?_⟩
  · rw [← same]
    exact normal
  · rw [Node.canonicalText_eq, again, ← Node.canonicalText_eq]

end Ast

end Reparse
