import Reparse.Proofs.Ast.Sequence
import Reparse.Proofs.Minilang.Printer

/-!
Which altered derivations comparison tells from the given ones.

The tree of a derivation and that of the altered derivation mean the same exactly when no node has
the feature that the defect goes by.  Where a node has it, it has it in the meaning of the tree too,
and no altered tree has.
-/

namespace Reparse

namespace Minilang

open Ast (Node Value nested)

section Trees

theorem Operand.tree_opened (defect : Option Defect) (operand : Operand) :
    (operand.opened defect).tree = operand.tree := by
  cases operand with
  | group inner =>
      rw [opened]
      split
      · rfl
      · rfl
  | number | string | identifier | object => rfl

theorem Operand.kind_tree_of_bare {operand : Operand} (bare : ∀ inner, operand ≠ .group inner) :
    operand.tree.kind ≠ .sequenceExpression := by
  cases operand with
  | group inner => exact absurd rfl (bare inner)
  | number | string | identifier | object => exact Ast.Kind.noConfusion

theorem Key.meets {condition : Ast.Condition}
    (holds : ∀ node : Node, node.kind.Canonical → condition.onNode node)
    (shallow : ¬condition.inMetadata) (key : Key) : key.tree.Meets condition := by
  cases key <;> exact ⟨holds _ rfl, ⟨trivial, trivial⟩, shallow.elim⟩

theorem hereditary_meets {condition : Ast.Condition}
    (holds : ∀ node : Node, node.kind.Canonical → condition.onNode node)
    (shallow : ¬condition.inMetadata) :
    Hereditary (fun operand => operand.tree.Meets condition)
      (fun expression => expression.tree.Meets condition)
      (fun property => property.tree.Meets condition) where
  number := fun _ => ⟨holds _ rfl, ⟨trivial, trivial⟩, shallow.elim⟩
  string := fun _ => ⟨holds _ rfl, ⟨trivial, trivial⟩, shallow.elim⟩
  identifier := fun _ => ⟨holds _ rfl, ⟨trivial, trivial⟩, shallow.elim⟩
  group := fun _ inner => inner
  object := by
    intro properties meet
    have items : Ast.ItemsMeet condition (propertiesTrees properties) := by
      rw [propertiesTrees_eq, Ast.itemsMeet_iff, List.forall_mem_map]
      exact meet
    exact ⟨holds _ rfl, ⟨items, trivial⟩, shallow.elim⟩
  expression := by
    intro first others meet
    match others with
    | [] => exact meet first List.mem_cons_self
    | second :: others =>
        have items : Ast.ItemsMeet condition (operandsTrees (first :: second :: others)) := by
          rw [operandsTrees_eq, Ast.itemsMeet_iff, List.forall_mem_map]
          exact meet
        exact ⟨holds _ rfl, ⟨items, trivial⟩, shallow.elim⟩
  named := fun key _ value =>
    ⟨holds _ rfl, ⟨trivial, key.meets holds shallow, trivial, value, trivial⟩, shallow.elim⟩
  shorthand := by
    intro name
    have identifier := (Key.identifier name).meets holds shallow
    exact ⟨holds _ rfl, ⟨trivial, identifier, trivial, identifier, trivial⟩, shallow.elim⟩
  computed := fun _ _ key value =>
    ⟨holds _ rfl, ⟨trivial, key, trivial, value, trivial⟩, shallow.elim⟩

theorem Key.kinds (key : Key) : key.tree.Meets .canonicalKinds :=
  key.meets (fun _ => id) id

theorem Expression.kinds (expression : Expression) : expression.tree.Meets .canonicalKinds :=
  (hereditary_meets (fun _ => id) id).of_expression expression

theorem Operand.kinds (operand : Operand) : operand.tree.Meets .canonicalKinds :=
  (hereditary_meets (fun _ => id) id).of_operand operand

theorem Expression.mapsUntyped (expression : Expression) : expression.tree.MapsUntyped :=
  (hereditary_meets (fun _ _ => trivial) id).of_expression expression

end Trees

section Meanings

theorem kind_meaning {node : Node} (kinds : node.Meets .canonicalKinds) :
    node.meaning.kind = node.kind := by
  rw [Node.meaning_eq kinds, Node.kind_reshape]

theorem meaning_sequence (operands : List Operand) :
    (Node.sequence (operandsTrees operands)).meaning =
      Node.sequence (nested (operands.map fun operand => .node operand.tree.meaning)) := by
  have items : Ast.ItemsMeet .canonicalKinds (operandsTrees operands) := by
    rw [operandsTrees_eq, Ast.itemsMeet_iff, List.forall_mem_map]
    exact fun operand _ => operand.kinds
  have kinds : (Node.sequence (operandsTrees operands)).Meets .canonicalKinds :=
    ⟨rfl, ⟨items, trivial⟩, False.elim⟩
  rw [Node.meaning_of_sequence kinds rfl rfl, operandsTrees_eq, List.map_map]
  rfl

theorem Expression.meaning_sequence {expression : Expression}
    (long : 2 ≤ expression.operands.length) :
    expression.tree.meaning =
      Node.sequence
        (nested (expression.operands.map fun operand => .node operand.tree.meaning)) := by
  match expression with
  | .mk first (second :: others) => exact Minilang.meaning_sequence (first :: second :: others)
  | .mk first [] => simp [operands] at long

/-- More operands go around what an expression means, since sequences nest to the left. -/
theorem Expression.meaning_append (expression : Expression) {more : List Operand}
    (begun : more ≠ []) :
    (expression.append more).tree.meaning =
      Node.sequence (nested (.node expression.tree.meaning ::
        more.map fun operand => .node operand.tree.meaning)) := by
  have long : 2 ≤ (expression.append more).operands.length := by
    have positive := List.length_pos_iff.2 begun
    cases expression
    rw [operands_append, List.length_append, operands, List.length_cons]
    omega
  rw [meaning_sequence long, operands_append, List.map_append]
  cases expression with
  | mk first others =>
      cases others with
      | nil => rfl
      | cons second others =>
          have group : 2 ≤ ((first :: second :: others).map fun operand : Operand =>
              Value.node operand.tree.meaning).length := by simp
          rw [meaning_sequence (by simp [operands]), operands,
            ← Ast.nested_append group (by simpa using begun)]

theorem meaning_objectTree (properties : List Property) :
    (objectTree (propertiesTrees properties)).meaning =
      objectTree (properties.map fun property => .node property.tree.meaning) := by
  have kinds : (objectTree (propertiesTrees properties)).Meets .canonicalKinds :=
    Operand.kinds (.object properties)
  have entries : Ast.entriesMeaning (objectTree (propertiesTrees properties)).fields =
      [("properties", (Value.list (propertiesTrees properties)).meaning)] := rfl
  rw [Node.meaning_eq kinds, entries, Value.meaning_list, propertiesTrees_eq, List.map_map]
  rfl

theorem meaning_propertyTree {key value : Node} {computed shorthand : Bool}
    (keyKinds : key.Meets .canonicalKinds) (valueKinds : value.Meets .canonicalKinds) :
    (propertyTree key value computed shorthand).meaning =
      (propertyTree key.meaning value.meaning computed shorthand).spellKey := by
  have kinds : (propertyTree key value computed shorthand).Meets .canonicalKinds :=
    ⟨rfl, ⟨trivial, keyKinds, trivial, valueKinds, trivial⟩, False.elim⟩
  rw [Node.meaning_eq kinds]
  rfl

theorem spellKey_propertyTree (key value : Node) (computed shorthand : Bool) :
    (propertyTree key value computed shorthand).spellKey =
      match Node.keyText? (!shorthand && !computed) key with
      | some text => propertyTree (stringTree text) value computed shorthand
      | none => propertyTree key value computed shorthand := by
  have flags : (!(propertyTree key value computed shorthand).flag "shorthand" &&
      !(propertyTree key value computed shorthand).flag "computed") =
        (!shorthand && !computed) := rfl
  have found : (propertyTree key value computed shorthand).fieldNode? "key" = some key := rfl
  rw [Node.spellKey, flags, found]
  change (match Node.keyText? (!shorthand && !computed) key with | some text => _ | none => _) = _
  cases Node.keyText? (!shorthand && !computed) key with
  | none => rfl
  | some text => rfl

theorem kind_of_keyText? {key : Node} {text : String}
    (spelled : Node.keyText? false key = some text) : key.kind = .numericLiteral := by
  rw [Node.keyText?] at spelled
  cases kind : key.kind with
  | numericLiteral => rfl
  | _ =>
      rw [kind] at spelled
      contradiction

def Key.spelled : Key → String
  | .number value => String.ofList value.scriptText
  | .string value => value
  | .identifier name => name

theorem Key.spelled_alter (defect : Option Defect) (key : Key) :
    (key.alter defect).spelled = key.spelled := by
  cases key with
  | number value =>
      rw [alter]
      split
      · rfl
      · rfl
  | string | identifier => rfl

theorem Key.spellKey_tree (key : Key) (value : Node) :
    (propertyTree key.tree.meaning value false false).spellKey =
      propertyTree (stringTree key.spelled) value false false := by
  rw [spellKey_propertyTree]
  cases key with
  | number number =>
      have text : Node.keyText? true (Key.number number).tree.meaning =
          some (String.ofList number.representative.scriptText) := rfl
      simp only [Bool.not_false, Bool.and_self, text, Binary64.scriptText_representative]
      rfl
  | string | identifier => rfl

theorem meaning_named (key : Key) (value : Operand) :
    (Property.named key value).tree.meaning =
      propertyTree (stringTree key.spelled) value.tree.meaning false false := by
  rw [Property.tree, meaning_propertyTree key.kinds value.kinds, key.spellKey_tree]

theorem meaning_computed (key : Expression) (value : Operand) :
    (Property.computed key value).tree.meaning =
      (propertyTree key.tree.meaning value.tree.meaning true false).spellKey :=
  meaning_propertyTree key.kinds value.kinds

end Meanings

section Symptoms

variable {defect : Defect}

theorem symptom_objectTree (accepts : defect ≠ .rejectObjects) (items : List Value) :
    defect.symptom (objectTree items) = false := by
  cases defect with
  | rejectObjects => contradiction
  | expandShorthand | quoteNumericKeys | flattenSequences | trailingParen => rfl

theorem symptom_objectTree_congr (items others : List Value) :
    defect.symptom (objectTree items) = defect.symptom (objectTree others) := by
  cases defect <;> rfl

theorem symptom_propertyTree (key value : Node) (computed : Bool) :
    defect.symptom (propertyTree key value computed false) = false := by
  cases defect <;> rfl

theorem symptom_shorthand (keeps : defect ≠ .expandShorthand) (key value : Node)
    (computed : Bool) : defect.symptom (propertyTree key value computed true) = false := by
  cases defect with
  | expandShorthand => contradiction
  | quoteNumericKeys | flattenSequences | trailingParen | rejectObjects => rfl

theorem symptom_sequence_iff {items : List Value} :
    defect.symptom (Node.sequence items) = false ↔
      (defect = .flattenSequences → ∀ item ∈ items.tail, item.isSequence = false) := by
  cases defect with
  | flattenSequences =>
      have tail : Defect.symptom .flattenSequences (Node.sequence items) =
          items.tail.any Value.isSequence := rfl
      simp [tail]
  | expandShorthand | quoteNumericKeys | trailingParen | rejectObjects => simp; rfl

theorem lacks_numberTree (value : Binary64) : (numberTree value).Lacks defect.symptom := by
  refine Node.lacks_iff.2 ⟨?_, by simp⟩
  cases defect <;> rfl

theorem lacks_stringTree (value : String) : (stringTree value).Lacks defect.symptom := by
  refine Node.lacks_iff.2 ⟨?_, by simp⟩
  cases defect <;> rfl

theorem lacks_identifierTree (name : String) : (identifierTree name).Lacks defect.symptom := by
  refine Node.lacks_iff.2 ⟨?_, by simp⟩
  cases defect <;> rfl

theorem Key.lacks_tree (key : Key) : key.tree.Lacks defect.symptom := by
  cases key with
  | number value => exact lacks_numberTree value
  | string value => exact lacks_stringTree value
  | identifier name => exact lacks_identifierTree name

theorem lacks_sequence_map {operands : List Operand} {tree : Operand → Node} :
    (Node.sequence (operands.map fun operand => .node (tree operand))).Lacks defect.symptom ↔
      (defect = .flattenSequences →
        ∀ operand ∈ operands.tail, (tree operand).kind ≠ .sequenceExpression) ∧
      ∀ operand ∈ operands, (tree operand).Lacks defect.symptom := by
  rw [lacks_sequence, symptom_sequence_iff, ← List.map_tail, List.forall_mem_map,
    List.forall_mem_map]
  simp [Value.isSequence]

theorem lacks_leftNest (first second : Value) (rest : List Value) :
    (Node.sequence (Node.leftNest first second rest)).Lacks defect.symptom ↔
      (Node.sequence (first :: second :: rest)).Lacks defect.symptom := by
  induction rest generalizing first second with
  | nil => rfl
  | cons next rest induction =>
      rw [Node.leftNest, induction]
      simp only [lacks_sequence, symptom_sequence_iff, List.tail_cons, List.forall_mem_cons,
        Value.lacks_node, List.not_mem_nil, false_implies, implies_true, and_true]
      tauto

theorem hereditary_numeric (defect : Defect) :
    Hereditary
      (fun operand => operand.tree.kind = .numericLiteral → operand.tree.Lacks defect.symptom)
      (fun expression =>
        expression.tree.kind = .numericLiteral → expression.tree.Lacks defect.symptom)
      (fun _ => True) where
  number := fun value _ => lacks_numberTree value
  string := fun value _ => lacks_stringTree value
  identifier := fun name _ => lacks_identifierTree name
  group := fun _ lacks => lacks
  object := fun _ _ => Ast.Kind.noConfusion
  expression := by
    intro first others lacks
    match others with
    | [] => exact lacks first List.mem_cons_self
    | second :: others => exact Ast.Kind.noConfusion
  named := fun _ _ _ => trivial
  shorthand := fun _ => trivial
  computed := fun _ _ _ _ => trivial

theorem hereditary_lacks_meaning (defect : Defect) :
    Hereditary
      (fun operand =>
        operand.tree.meaning.Lacks defect.symptom ↔ operand.tree.Lacks defect.symptom)
      (fun expression =>
        expression.tree.meaning.Lacks defect.symptom ↔ expression.tree.Lacks defect.symptom)
      (fun property =>
        property.tree.meaning.Lacks defect.symptom ↔ property.tree.Lacks defect.symptom) where
  number := fun value =>
    iff_of_true (lacks_numberTree value.representative) (lacks_numberTree value)
  string := fun _ => Iff.rfl
  identifier := fun _ => Iff.rfl
  group := fun _ same => same
  object := by
    intro properties same
    rw [Operand.tree, meaning_objectTree, lacks_objectTree, lacks_objectTree, propertiesTrees_eq,
      List.forall_mem_map, List.forall_mem_map]
    refine and_congr (by rw [symptom_objectTree_congr]) ?_
    exact forall₂_congr same
  expression := by
    intro first others same
    match others with
    | [] => exact same first List.mem_cons_self
    | second :: others =>
        have nest : (Node.sequence (nested ((first :: second :: others).map
              fun operand => .node operand.tree.meaning))).Lacks defect.symptom ↔
            (Node.sequence ((first :: second :: others).map
              fun operand => .node operand.tree.meaning)).Lacks defect.symptom :=
          lacks_leftNest _ _ _
        rw [Expression.meaning_sequence (by simp [Expression.operands]), Expression.operands, nest,
          Expression.tree, ← operandsTrees, operandsTrees_eq, lacks_sequence_map,
          lacks_sequence_map]
        refine and_congr ?_ (forall₂_congr same)
        simp only [kind_meaning (Operand.kinds _)]
  named := by
    intro key value same
    rw [meaning_named, Property.tree, lacks_propertyTree, lacks_propertyTree, same,
      symptom_propertyTree, symptom_propertyTree]
    simp [lacks_stringTree, key.lacks_tree]
  shorthand := fun _ => Iff.rfl
  computed := by
    intro key value sameKey sameValue
    rw [meaning_computed, spellKey_propertyTree, Property.tree, lacks_propertyTree]
    simp only [symptom_propertyTree, true_and]
    cases spelled : Node.keyText? (!false && !true) key.tree.meaning with
    | none => rw [lacks_propertyTree, symptom_propertyTree, sameKey, sameValue]; simp
    | some text =>
        have numeric : key.tree.kind = .numericLiteral := by
          rw [← kind_meaning key.kinds]
          exact kind_of_keyText? spelled
        have lacks := (hereditary_numeric defect).of_expression key numeric
        rw [lacks_propertyTree, symptom_propertyTree, sameValue]
        simp [lacks_stringTree, lacks]

end Symptoms

section Tolerance

variable {defect : Defect}

theorem lacks_of_parts {expression : Expression}
    (lacks : ∀ part ∈ expression.operands, part.tree.Lacks defect.symptom)
    (bare : defect = .flattenSequences →
      ∀ part ∈ expression.operands, ∀ inner, part ≠ .group inner) :
    expression.tree.Lacks defect.symptom := by
  match expression with
  | .mk first [] => exact lacks first List.mem_cons_self
  | .mk first (second :: others) =>
      rw [Expression.tree, ← operandsTrees, operandsTrees_eq, lacks_sequence_map]
      refine ⟨fun flattens operand member => ?_, lacks⟩
      exact Operand.kind_tree_of_bare (bare flattens operand (List.mem_of_mem_tail member))

/-- No altered tree has the feature that the defect goes by, if it is not that of all objects. -/
theorem hereditary_cured (accepts : defect ≠ .rejectObjects) :
    Hereditary
      (fun operand => ∀ part ∈ operand.parts (some defect), part.tree.Lacks defect.symptom)
      (fun expression =>
        ∀ part ∈ (expression.alter (some defect)).operands, part.tree.Lacks defect.symptom)
      (fun property => (property.alter (some defect)).tree.Lacks defect.symptom) := by
  -- A sequence must not be among the operands, and that its tree does not tell: parentheses around
  -- a single operand leave no node.
  have inParts {expression : Expression}
      (cured : ∀ part ∈ (expression.alter (some defect)).operands,
        part.tree.Lacks defect.symptom) :
      (expression.alter (some defect)).tree.Lacks defect.symptom := by
    refine lacks_of_parts cured fun flattens => ?_
    rw [flattens]
    exact hereditary_bare.of_expression expression
  have ofOperand {operand : Operand}
      (cured : ∀ part ∈ operand.parts (some defect), part.tree.Lacks defect.symptom) :
      (operand.alter (some defect)).tree.Lacks defect.symptom := by
    rw [← Operand.tree_opened (some defect)]
    refine lacks_of_parts cured fun flattens => ?_
    rw [flattens]
    exact hereditary_bare.of_operand operand
  exact {
    number := fun value => List.forall_mem_singleton.2 (lacks_numberTree value)
    string := fun value => List.forall_mem_singleton.2 (lacks_stringTree value)
    identifier := fun name => List.forall_mem_singleton.2 (lacks_identifierTree name)
    group := by
      intro inner cured
      rw [Operand.parts, Operand.alter, Operand.opened]
      split
      · exact cured
      · exact List.forall_mem_singleton.2 (inParts cured)
    object := by
      intro properties cured
      refine List.forall_mem_singleton.2 (lacks_objectTree.2 ⟨symptom_objectTree accepts _, ?_⟩)
      rw [propertiesTrees_eq, propertiesAlter_eq, List.forall_mem_map, List.forall_mem_map]
      exact cured
    expression := by
      intro first others cured
      rw [Expression.operands_alter]
      intro part member
      obtain ⟨operand, among, inside⟩ := List.mem_flatMap.1 member
      exact cured operand among part inside
    named := by
      intro key value cured
      exact lacks_propertyTree.2
        ⟨symptom_propertyTree _ _ _, Key.lacks_tree _, ofOperand cured⟩
    shorthand := by
      intro name
      rw [Property.alter]
      split
      · exact lacks_propertyTree.2
          ⟨symptom_propertyTree _ _ _, lacks_identifierTree name, lacks_identifierTree name⟩
      · next keeps =>
          have keeps : defect ≠ .expandShorthand := fun same => keeps (congrArg some same)
          exact lacks_propertyTree.2
            ⟨symptom_shorthand keeps _ _ _, lacks_identifierTree name, lacks_identifierTree name⟩
    computed := by
      intro key value curedKey curedValue
      exact lacks_propertyTree.2
        ⟨symptom_propertyTree _ _ _, inParts curedKey, ofOperand curedValue⟩ }

theorem Expression.lacks_alter (accepts : defect ≠ .rejectObjects) (expression : Expression) :
    (expression.alter (some defect)).tree.Lacks defect.symptom := by
  refine lacks_of_parts ((hereditary_cured accepts).of_expression expression) fun flattens => ?_
  rw [flattens]
  exact hereditary_bare.of_expression expression

theorem Operand.map_parts {operand : Operand}
    (single : defect = .flattenSequences →
      (operand.alter (some defect)).tree.kind ≠ .sequenceExpression) :
    (operand.parts (some defect)).map (fun part => Value.node part.tree.meaning) =
      [.node (operand.alter (some defect)).tree.meaning] := by
  by_cases flattens : defect = .flattenSequences
  · have kind := single flattens
    rw [← tree_opened (some defect)] at kind ⊢
    rw [parts]
    cases opened : (operand.alter (some defect)).opened (some defect) with
    | mk first others =>
        cases others with
        | nil => rfl
        | cons second others =>
            rw [opened] at kind
            exact absurd rfl kind
  · rw [parts, opened_of_kept fun same => flattens (Option.some.inj same)]
    rfl

/-- Where no node has the feature, the altered tree means the same. -/
theorem hereditary_tolerated (defect : Defect) :
    Hereditary
      (fun operand => operand.tree.Lacks defect.symptom →
        (operand.alter (some defect)).tree.meaning = operand.tree.meaning)
      (fun expression => expression.tree.Lacks defect.symptom →
        (expression.alter (some defect)).tree.meaning = expression.tree.meaning)
      (fun property => property.tree.Lacks defect.symptom →
        (property.alter (some defect)).tree.meaning = property.tree.meaning) where
  number := fun _ _ => rfl
  string := fun _ _ => rfl
  identifier := fun _ _ => rfl
  group := fun _ same => same
  object := by
    intro properties same lacks
    have each := (lacks_objectTree.1 lacks).2
    rw [propertiesTrees_eq, List.forall_mem_map] at each
    rw [Operand.alter, Operand.tree, Operand.tree, meaning_objectTree, meaning_objectTree,
      propertiesAlter_eq, List.map_map]
    refine congrArg objectTree (List.map_congr_left fun property member => ?_)
    exact congrArg Value.node (same property member (each property member))
  expression := by
    intro first others same lacks
    match others with
    | [] =>
        rw [Expression.alter, operandsAlter, Expression.append_nil, Operand.tree_opened]
        exact same first List.mem_cons_self lacks
    | second :: others =>
        -- Only the first operand may lose its parentheses, and nesting to the left puts them back.
        have items := lacks
        rw [Expression.tree, ← operandsTrees, operandsTrees_eq, lacks_sequence_map] at items
        obtain ⟨flat, each⟩ := items
        have begun : operandsAlter (some defect) (second :: others) ≠ [] := by
          rw [operandsAlter]
          exact List.append_ne_nil_of_left_ne_nil (Operand.parts_ne_nil second) _
        have behind : (operandsAlter (some defect) (second :: others)).map
            (fun part => Value.node part.tree.meaning) =
              (second :: others).map fun operand => .node operand.tree.meaning := by
          rw [operandsAlter_eq, List.map_flatMap, List.map_eq_flatMap]
          refine List.flatMap_congr fun operand member => ?_
          have meaning := same operand (List.mem_cons_of_mem _ member)
            (each operand (List.mem_cons_of_mem _ member))
          rw [Operand.map_parts fun flattens => ?_, meaning]
          rw [← kind_meaning (Operand.kinds _), meaning, kind_meaning operand.kinds]
          exact flat flattens operand member
        rw [Expression.alter, Expression.meaning_append _ begun, Operand.tree_opened,
          same first List.mem_cons_self (each first List.mem_cons_self), behind,
          Expression.meaning_sequence (by simp [Expression.operands])]
        rfl
  named := by
    intro key value same lacks
    rw [Property.alter, meaning_named, meaning_named, key.spelled_alter,
      same (lacks_propertyTree.1 lacks).2.2]
  shorthand := by
    intro name lacks
    rw [Property.alter]
    split
    · next expands =>
        cases expands
        have clear : true = false := (lacks_propertyTree.1 lacks).1
        contradiction
    · rfl
  computed := by
    intro key value sameKey sameValue lacks
    obtain ⟨-, lacksKey, lacksValue⟩ := lacks_propertyTree.1 lacks
    rw [Property.alter, meaning_computed, meaning_computed, sameKey lacksKey,
      sameValue lacksValue]

/-- The altered tree means the same exactly when no node has the feature. -/
theorem Expression.meaning_alter_iff (accepts : defect ≠ .rejectObjects)
    (expression : Expression) :
    (expression.alter (some defect)).tree.meaning = expression.tree.meaning ↔
      expression.tree.Lacks defect.symptom := by
  -- The altered tree lacks the feature whatever the given tree has, and meaning keeps it.
  have kept := (hereditary_lacks_meaning defect).of_expression
  constructor
  · intro same
    rw [← kept expression, ← same, kept]
    exact expression.lacks_alter accepts
  · exact (hereditary_tolerated defect).of_expression expression

end Tolerance

section Programs

variable {defect : Defect} {statements : List Expression} {goal : Goal} {tree : Node}

theorem Defect.symptom_unmarked (defect : Defect) (node : Node) :
    defect.symptom node.unmarked = defect.symptom node := by
  have kind : node.unmarked.kind = node.kind := node.kind_strip
  cases defect with
  | expandShorthand =>
      have flag : node.unmarked.flag "shorthand" = node.flag "shorthand" := node.flag_strip rfl
      simp only [symptom, Node.isShorthand, kind, flag]
  | flattenSequences =>
      have alike : Value.isSequence ∘ Value.strip (fun _ => false) = Value.isSequence := by
        funext value
        cases value with
        | node inner =>
            have kind : inner.unmarked.kind = inner.kind := inner.kind_strip
            exact congrArg (· == Ast.Kind.sequenceExpression) kind
        | null | bool | number | text | list | map => rfl
      simp only [symptom, Node.nestsBehind, kind, listField_unmarked]
      cases node.field? "expressions" >>= Value.list? with
      | none => rfl
      | some items =>
          simp only [Option.map_some, Option.getD_some, ← List.map_tail, List.any_map, alike]
  | rejectObjects => simp only [symptom, Node.isObject, kind]
  | quoteNumericKeys | trailingParen => rfl

theorem lacks_symptom_iff (defect : Defect)
    (derived : tree.unmarked = programTree statements goal) :
    tree.Lacks defect.symptom ↔
      ∀ statement ∈ statements, statement.tree.Lacks defect.symptom := by
  rw [← Node.lacks_unmarked defect.symptom_unmarked, derived]
  refine lacks_programTree ?_ fun expression => ?_
  · cases defect <;> rfl
  · cases defect <;> rfl

def statementOf (tree : Node) : Node :=
  ⟨.other "ExpressionStatement", none, [("expression", .node tree)], []⟩

def programOf (trees : List Node) (goal : Goal) : Node where
  kind := .other "Program"
  span := none
  fields :=
    [("body", .list (trees.map fun tree => .node (statementOf tree))),
      ("sourceType", .text goal.name)]
  metadata := []

theorem programTree_eq (statements : List Expression) (goal : Goal) :
    programTree statements goal = programOf (statements.map Expression.tree) goal := by
  rw [programTree, programOf, List.map_map]
  rfl

theorem programOf_inj {trees others : List Node}
    (same : programOf trees goal = programOf others goal) : trees = others := by
  have fields := congrArg Node.fields same
  simp only [programOf, List.cons.injEq, Prod.mk.injEq, Value.list.injEq, true_and, and_true]
    at fields
  refine List.map_injective_iff.2 (fun left right alike => ?_) fields
  simpa [statementOf] using alike

theorem meaning_programOf {trees : List Node}
    (kinds : ∀ tree ∈ trees, tree.Meets .canonicalKinds) :
    (programOf trees goal).meaning = programOf (trees.map Node.meaning) goal := by
  have statement (tree : Node) (treeKinds : tree.Meets .canonicalKinds) :
      (statementOf tree).Meets .canonicalKinds ∧
        (statementOf tree).meaning = statementOf tree.meaning := by
    have all : (statementOf tree).Meets .canonicalKinds :=
      ⟨rfl, ⟨treeKinds, trivial⟩, False.elim⟩
    exact ⟨all, Node.meaning_eq all⟩
  have items : Ast.ItemsMeet .canonicalKinds (trees.map fun tree => .node (statementOf tree)) := by
    rw [Ast.itemsMeet_iff, List.forall_mem_map]
    exact fun tree member => (statement tree (kinds tree member)).1
  have all : (programOf trees goal).Meets .canonicalKinds :=
    ⟨rfl, ⟨items, trivial, trivial⟩, False.elim⟩
  have entries : Ast.entriesMeaning (programOf trees goal).fields =
      [("body", (Value.list (trees.map fun tree => .node (statementOf tree))).meaning),
        ("sourceType", .text goal.name)] := rfl
  have body : (Value.list (trees.map fun tree => .node (statementOf tree))).meaning =
      .list ((trees.map Node.meaning).map fun tree => .node (statementOf tree)) := by
    rw [Value.meaning_list, List.map_map, List.map_map]
    refine congrArg Value.list (List.map_congr_left fun tree member => ?_)
    exact congrArg Value.node (statement tree (kinds tree member)).2
  rw [Node.meaning_eq all, entries, body]
  rfl

theorem mapsUntyped_programTree (statements : List Expression) (goal : Goal) :
    (programTree statements goal).MapsUntyped := by
  have items : Ast.ItemsMeet .mapsUntyped (statements.map statementTree) := by
    rw [Ast.itemsMeet_iff, List.forall_mem_map]
    exact fun statement _ => ⟨trivial, ⟨statement.mapsUntyped, trivial⟩, False.elim⟩
  exact ⟨trivial, ⟨items, trivial, trivial⟩, False.elim⟩

theorem canonicalText_programTree_iff (statements others : List Expression) (goal : Goal) :
    (programTree statements goal).canonicalText = (programTree others goal).canonicalText ↔
      (statements.map fun statement => statement.tree.meaning) =
        others.map fun statement => statement.tree.meaning := by
  have kinds (statements : List Expression) :
      ∀ tree ∈ statements.map Expression.tree, tree.Meets .canonicalKinds :=
    List.forall_mem_map.2 fun statement _ => statement.kinds
  rw [Node.canonicalText_eq_iff (mapsUntyped_programTree _ goal) (mapsUntyped_programTree _ goal),
    programTree_eq, programTree_eq, meaning_programOf (kinds _), meaning_programOf (kinds _),
    List.map_map, List.map_map]
  constructor
  · exact programOf_inj
  · exact congrArg (programOf · goal)

theorem canonicalText_alter_iff (defect : Defect) (statements : List Expression) (goal : Goal) :
    (programTree (statements.map (Expression.alter (some defect))) goal).canonicalText =
        (programTree statements goal).canonicalText ↔
      ∀ statement ∈ statements,
        (statement.alter (some defect)).tree.meaning = statement.tree.meaning := by
  rw [canonicalText_programTree_iff, List.map_map]
  exact List.map_inj_left

theorem canonicalText_alter_iff_lacks (derived : tree.unmarked = programTree statements goal)
    (accepts : defect = .rejectObjects → tree.Lacks Node.isObject) :
    (programTree (statements.map (Expression.alter (some defect))) goal).canonicalText =
        (programTree statements goal).canonicalText ↔ tree.Lacks defect.symptom := by
  rw [canonicalText_alter_iff, lacks_symptom_iff defect derived]
  by_cases rejects : defect = .rejectObjects
  -- An altered object is an object still, but here there is none.
  · subst rejects
    have lacks := (lacks_symptom_iff .rejectObjects derived).1 (accepts rfl)
    refine iff_of_true (fun statement member => ?_) lacks
    exact (hereditary_tolerated .rejectObjects).of_expression statement (lacks statement member)
  · exact forall₂_congr fun statement _ => statement.meaning_alter_iff rejects

end Programs

end Minilang

end Reparse
