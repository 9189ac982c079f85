import Reparse.Proofs.Ast.CanonicalText
import Reparse.Proofs.Ast.Condition

/-!
The meaning of a tree is made of the meanings of its parts.

The rule for the root of a tree looks at kinds, names and numbers of the parts, and erasing keeps
of these whatever the rule can tell apart.  So erasing may be done first.
-/

namespace Reparse

namespace Ast

theorem entriesErase_eq (entries : List (String × Value)) :
    entriesErase entries =
      (semanticEntries entries).map fun entry => (entry.1, entry.2.erase) := by
  induction entries with
  | nil => rfl
  | cons entry rest induction =>
      obtain ⟨name, value⟩ := entry
      rw [semanticEntries] at induction ⊢
      simp only [entriesErase, List.filter_cons]
      cases isMetadataName name with
      | true => simpa using induction
      | false => simpa using induction

theorem itemsErase_eq_map (items : List Value) : itemsErase items = items.map Value.erase := by
  induction items with
  | nil => rfl
  | cons item rest induction => simp [itemsErase, induction]

theorem find?_entriesErase (entries : List (String × Value)) {name : String}
    (semantic : isMetadataName name = false) :
    Dictionary.find? (entriesErase entries) name =
      (Dictionary.find? entries name).map Value.erase := by
  rw [entriesErase_eq, Dictionary.find?_map _ fun _ => Value.erase, find?_semanticEntries, semantic]
  rfl

theorem entriesErase_replace (entries : List (String × Value)) {name : String} (value : Value)
    (semantic : isMetadataName name = false) :
    entriesErase (Dictionary.replace entries name value) =
      Dictionary.replace (entriesErase entries) name value.erase := by
  induction entries with
  | nil => rfl
  | cons entry rest induction =>
      obtain ⟨key, old⟩ := entry
      simp only [Dictionary.replace]
      by_cases same : key = name
      · subst same
        simp [entriesErase, semantic, Dictionary.replace]
      · rw [if_neg same]
        simp only [entriesErase]
        split
        · exact induction
        · simp [Dictionary.replace, same, induction]

theorem Value.node?_erase (value : Value) : value.erase.node? = value.node?.map Node.erase := by
  cases value <;> rfl

theorem Value.text?_erase (value : Value) : value.erase.text? = value.text? := by
  cases value <;> rfl

theorem Value.bool?_erase (value : Value) : value.erase.bool? = value.bool? := by
  cases value <;> rfl

namespace Node

theorem kind_erase {node : Node} (canonical : node.kind.Canonical) :
    node.erase.kind = node.kind := by
  cases node
  exact canonical

theorem fields_erase (node : Node) : node.erase.fields = entriesErase node.fields := by
  cases node
  rfl

theorem field?_erase (node : Node) {name : String} (semantic : isMetadataName name = false) :
    node.erase.field? name = (node.field? name).map Value.erase := by
  rw [field?, fields_erase]
  exact find?_entriesErase node.fields semantic

theorem fieldNode?_erase (node : Node) {name : String} (semantic : isMetadataName name = false) :
    node.erase.fieldNode? name = (node.fieldNode? name).map Node.erase := by
  simp only [fieldNode?, node.field?_erase semantic]
  cases node.field? name with
  | none => rfl
  | some value => exact value.node?_erase

theorem flag_erase (node : Node) {name : String} (semantic : isMetadataName name = false) :
    node.erase.flag name = node.flag name := by
  simp only [flag, node.field?_erase semantic]
  cases node.field? name with
  | none => rfl
  | some value => simp [value.bool?_erase]

theorem erase_withFields (node : Node) (fields : List (String × Value)) :
    ({ node with fields := fields }.erase) =
      { node.erase with fields := entriesErase fields } := by
  cases node
  rfl

theorem erase_sequence (items : List Value) :
    (sequence items).erase = sequence (items.map Value.erase) := by
  have semantic : isMetadataName "expressions" = false := by decide
  simp only [sequence, bare, erase, entriesErase, semantic, Value.erase, itemsErase_eq_map]
  rfl

theorem erase_stringLiteral (text : String) : (stringLiteral text).erase = stringLiteral text := by
  have semantic : isMetadataName "value" = false := by decide
  simp only [stringLiteral, bare, erase, entriesErase, semantic, Value.erase]
  rfl

theorem map_erase_leftNest (first second : Value) (rest : List Value) :
    (leftNest first second rest).map Value.erase =
      leftNest first.erase second.erase (rest.map Value.erase) := by
  induction rest generalizing first second with
  | nil => rfl
  | cons next rest induction =>
      rw [leftNest, induction, List.map_cons, leftNest, Value.erase, erase_sequence]
      rfl

theorem erase_nestExpressions (node : Node) :
    node.nestExpressions.erase = node.erase.nestExpressions := by
  have semantic : isMetadataName "expressions" = false := by decide
  simp only [nestExpressions, node.field?_erase semantic]
  cases node.field? "expressions" with
  | none => rfl
  | some value =>
      cases value with
      | list items =>
          match items with
          | first :: second :: third :: rest =>
              simp only [erase_withFields, fields_erase, entriesErase_replace _ _ semantic,
                Value.erase, itemsErase_eq_map, map_erase_leftNest, List.map_cons, Option.map_some]
          | [] | [_] | [_, _] => rfl
      | null | bool | number | text | map | node => rfl

theorem keyText?_erase (plain : Bool) {key : Node} (canonical : key.kind.Canonical) :
    keyText? plain key.erase = keyText? plain key := by
  have value : isMetadataName "value" = false := by decide
  have name : isMetadataName "name" = false := by decide
  simp only [keyText?, kind_erase canonical, key.field?_erase value, key.field?_erase name]
  cases key.kind with
  | numericLiteral =>
      cases key.field? "value" with
      | none => rfl
      | some value =>
          cases value with
          | number value => simp [Value.erase, Value.number?, value.scriptText_representative]
          | null | bool | text | list | map | node => rfl
  | identifier =>
      cases key.field? "name" with
      | none => rfl
      | some value => simp [value.text?_erase]
  | _ => rfl

theorem erase_spellKey (node : Node)
    (keyCanonical : ∀ key, node.fieldNode? "key" = some key → key.kind.Canonical) :
    node.spellKey.erase = node.erase.spellKey := by
  have semantic : isMetadataName "key" = false := by decide
  have shorthand : isMetadataName "shorthand" = false := by decide
  have computed : isMetadataName "computed" = false := by decide
  have spelled (plain : Bool) :
      (node.erase.fieldNode? "key" >>= keyText? plain) =
        (node.fieldNode? "key" >>= keyText? plain) := by
    rw [node.fieldNode?_erase semantic]
    cases found : node.fieldNode? "key" with
    | none => rfl
    | some key => exact keyText?_erase plain (keyCanonical key found)
  simp only [spellKey, spelled, node.flag_erase shorthand, node.flag_erase computed]
  cases node.fieldNode? "key" >>= keyText? (!node.flag "shorthand" && !node.flag "computed") with
  | none => rfl
  | some text =>
      simp only [erase_withFields, fields_erase, entriesErase_replace _ _ semantic, Value.erase,
        erase_stringLiteral]

theorem erase_reshape {node : Node} (canonical : node.kind.Canonical)
    (keyCanonical : ∀ key, node.fieldNode? "key" = some key → key.kind.Canonical) :
    node.reshape.erase = node.erase.reshape := by
  simp only [reshape, kind_erase canonical]
  split
  · exact node.erase_nestExpressions
  · split
    · exact node.erase_spellKey keyCanonical
    · rfl

end Node

/-- What comparison keeps of a tree: all but what is erased of its normal form. -/
def Node.meaning (node : Node) : Node :=
  node.normalForm.erase

def Value.meaning (value : Value) : Value :=
  value.normalForm.erase

def entriesMeaning (entries : List (String × Value)) : List (String × Value) :=
  entriesErase (entriesNormalForm entries)

theorem entriesMeaning_cons (name : String) (value : Value) (rest : List (String × Value)) :
    entriesMeaning ((name, value) :: rest) =
      if isMetadataName name then entriesMeaning rest
      else (name, value.meaning) :: entriesMeaning rest := rfl

theorem entriesMeaning_eq (entries : List (String × Value)) :
    entriesMeaning entries =
      (semanticEntries entries).map fun entry => (entry.1, entry.2.meaning) := by
  induction entries with
  | nil => rfl
  | cons entry rest induction =>
      obtain ⟨name, value⟩ := entry
      rw [semanticEntries] at induction ⊢
      rw [entriesMeaning_cons, List.filter_cons]
      cases isMetadataName name with
      | true => simpa using induction
      | false => simpa using induction

theorem find?_entriesMeaning (entries : List (String × Value)) {name : String}
    (semantic : isMetadataName name = false) :
    Dictionary.find? (entriesMeaning entries) name =
      (Dictionary.find? entries name).map Value.meaning := by
  rw [entriesMeaning, find?_entriesErase _ semantic, find?_entriesNormalForm, Option.map_map]
  rfl

theorem find?_entriesMeaning_of_metadata (entries : List (String × Value)) {name : String}
    (metadata : isMetadataName name = true) :
    Dictionary.find? (entriesMeaning entries) name = none := by
  rw [entriesMeaning_eq, Dictionary.find?_map _ fun _ => Value.meaning, find?_semanticEntries,
    metadata]
  rfl

theorem ordered_entriesMeaning {entries : List (String × Value)}
    (ordered : Dictionary.Ordered entries) : Dictionary.Ordered (entriesMeaning entries) := by
  rw [entriesMeaning_eq]
  exact Dictionary.ordered_map (Dictionary.ordered_filter ordered _) fun _ => Value.meaning

/-- An entry may change to one that means the same. -/
theorem entriesMeaning_replace {entries : List (String × Value)} {name : String} {old new : Value}
    (found : Dictionary.find? entries name = some old) (same : new.meaning = old.meaning) :
    entriesMeaning (Dictionary.replace entries name new) = entriesMeaning entries := by
  induction entries with
  | nil => rfl
  | cons entry rest induction =>
      obtain ⟨key, value⟩ := entry
      rw [Dictionary.find?_cons] at found
      simp only [Dictionary.replace]
      split
      · next this =>
          subst this
          rw [if_pos rfl] at found
          cases found
          rw [entriesMeaning_cons, entriesMeaning_cons, same]
      · next different =>
          rw [if_neg different] at found
          rw [entriesMeaning_cons, entriesMeaning_cons, induction found]

@[simp] theorem Value.meaning_node (node : Node) : (Value.node node).meaning = .node node.meaning :=
  rfl

@[simp] theorem Value.meaning_map (entries : List (String × Value)) :
    (Value.map entries).meaning = .map (entriesMeaning entries) := rfl

@[simp] theorem Value.meaning_list (items : List Value) :
    (Value.list items).meaning = .list (items.map Value.meaning) := by
  simp only [meaning, normalForm, erase, itemsNormalForm_eq_map, itemsErase_eq_map, List.map_map]
  rfl

theorem Value.node?_normalForm (value : Value) :
    value.normalForm.node? = value.node?.map Node.normalForm := by
  cases value <;> rfl

/-- The rule for the root may look at the meanings of the fields in place of the fields. -/
theorem Node.meaning_eq {node : Node} (kinds : node.Meets .canonicalKinds) :
    node.meaning = reshape ⟨node.kind, none, entriesMeaning node.fields, []⟩ := by
  cases node with
  | mk kind span fields metadata =>
      have canonical : Kind.ofName kind.name = kind := Node.canonical_of_meets kinds
      rw [meaning, normalForm, erase_reshape]
      · simp only [erase, canonical]
        rfl
      · exact canonical
      · -- The key is in normal form already, which keeps its kind.
        intro key found
        simp only [fieldNode?, field?, find?_entriesNormalForm] at found
        cases value : Dictionary.find? fields "key" with
        | none =>
            rw [value] at found
            contradiction
        | some value' =>
            rw [value] at found
            have inForm : value'.normalForm.node? = some key := found
            rw [Value.node?_normalForm] at inForm
            obtain ⟨inner, isNode, rfl⟩ := Option.map_eq_some_iff.1 inForm
            rw [kind_normalForm]
            exact canonical_of_meets (Value.meets_of_node? (meets_of_find? kinds.2.1 value) isNode)

def Value.canonicalText (value : Value) : String :=
  String.ofList value.normalForm.plainText

theorem Value.canonicalText_node (node : Node) :
    (Value.node node).canonicalText = node.canonicalText :=
  node.canonicalText_eq.symm

theorem Value.plainText_inj {left right : Value} (leftMaps : left.MapsUntyped)
    (rightMaps : right.MapsUntyped) (same : left.plainText = right.plainText) :
    left.erase = right.erase := by
  have texts : left.plainText ++ [] = right.plainText ++ [] := by rw [same]
  have ends : EndsValue [] := by
    intro c member
    contradiction
  exact (Value.plainText_append_inj left right leftMaps rightMaps ends ends texts).1

theorem Value.canonicalText_of_meaning {left right : Value}
    (same : left.meaning = right.meaning) : left.canonicalText = right.canonicalText := by
  have erased : left.normalForm.erase = right.normalForm.erase := same
  rw [canonicalText, canonicalText, ← plainText_erase, erased, plainText_erase]

theorem Value.canonicalText_eq_iff {left right : Value} (leftMaps : left.MapsUntyped)
    (rightMaps : right.MapsUntyped) :
    left.canonicalText = right.canonicalText ↔ left.meaning = right.meaning := by
  constructor
  · intro texts
    exact plainText_inj (left.meets_normalForm .mapsUntyped leftMaps)
      (right.meets_normalForm .mapsUntyped rightMaps) (String.ofList_inj.1 texts)
  · exact canonicalText_of_meaning

theorem Node.canonicalText_eq_iff {left right : Node} (leftMaps : left.MapsUntyped)
    (rightMaps : right.MapsUntyped) :
    left.canonicalText = right.canonicalText ↔ left.meaning = right.meaning := by
  have asValues : (Value.node left).canonicalText = (Value.node right).canonicalText ↔
      (Value.node left).meaning = (Value.node right).meaning :=
    Value.canonicalText_eq_iff leftMaps rightMaps
  rwa [Value.canonicalText_node, Value.canonicalText_node, Value.meaning_node, Value.meaning_node,
    Value.node.injEq] at asValues

theorem map_canonicalText_eq_iff {lefts rights : List Value}
    (leftMaps : ∀ item ∈ lefts, item.MapsUntyped) (rightMaps : ∀ item ∈ rights, item.MapsUntyped) :
    lefts.map Value.canonicalText = rights.map Value.canonicalText ↔
      lefts.map Value.meaning = rights.map Value.meaning := by
  induction lefts generalizing rights with
  | nil => cases rights <;> simp
  | cons left lefts induction =>
      cases rights with
      | nil => simp
      | cons right rights =>
          obtain ⟨leftFirst, leftRest⟩ := List.forall_mem_cons.1 leftMaps
          obtain ⟨rightFirst, rightRest⟩ := List.forall_mem_cons.1 rightMaps
          rw [List.map_cons, List.map_cons, List.map_cons, List.map_cons, List.cons.injEq,
            List.cons.injEq, Value.canonicalText_eq_iff leftFirst rightFirst,
            induction leftRest rightRest]

end Ast

end Reparse
