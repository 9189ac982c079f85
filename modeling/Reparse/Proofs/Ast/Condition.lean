import Reparse.Ast.Tree
import Reparse.Proofs.Dictionary

namespace Reparse

namespace Ast

structure Condition where
  onNode : Node → Prop
  onMap : Dictionary Value → Prop
  inMetadata : Prop

mutual

/-- The condition holds of every node and every map that it reaches. -/
def Node.Meets (condition : Condition) : Node → Prop
  | ⟨kind, span, fields, metadata⟩ =>
      condition.onNode ⟨kind, span, fields, metadata⟩ ∧ EntriesMeet condition fields ∧
        (condition.inMetadata → EntriesMeet condition metadata)

def Value.Meets (condition : Condition) : Value → Prop
  | .list items => ItemsMeet condition items
  | .map entries => condition.onMap entries ∧ EntriesMeet condition entries
  | .node node => node.Meets condition
  | _ => True

def ItemsMeet (condition : Condition) : List Value → Prop
  | [] => True
  | item :: rest => item.Meets condition ∧ ItemsMeet condition rest

def EntriesMeet (condition : Condition) : List (String × Value) → Prop
  | [] => True
  | (_, value) :: rest => value.Meets condition ∧ EntriesMeet condition rest

end

section Meets

variable {condition : Condition}

section Decidable

variable [DecidablePred condition.onNode] [DecidablePred condition.onMap]
  [Decidable condition.inMetadata]

mutual

instance Node.decidableMeets : (node : Node) → Decidable (node.Meets condition)
  | ⟨kind, span, fields, metadata⟩ =>
      have := decidableEntriesMeet fields
      have := decidableEntriesMeet metadata
      inferInstanceAs (Decidable (condition.onNode ⟨kind, span, fields, metadata⟩ ∧
        EntriesMeet condition fields ∧ (condition.inMetadata → EntriesMeet condition metadata)))

instance Value.decidableMeets : (value : Value) → Decidable (value.Meets condition)
  | .list items => decidableItemsMeet items
  | .map entries =>
      have := decidableEntriesMeet entries
      inferInstanceAs (Decidable (condition.onMap entries ∧ EntriesMeet condition entries))
  | .node node => node.decidableMeets
  | .null | .bool _ | .number _ | .text _ => .isTrue trivial

instance decidableItemsMeet : (items : List Value) → Decidable (ItemsMeet condition items)
  | [] => .isTrue trivial
  | item :: rest =>
      have := item.decidableMeets
      have := decidableItemsMeet rest
      inferInstanceAs (Decidable (item.Meets condition ∧ ItemsMeet condition rest))

instance decidableEntriesMeet : (entries : List (String × Value)) →
    Decidable (EntriesMeet condition entries)
  | [] => .isTrue trivial
  | (_, value) :: rest =>
      have := value.decidableMeets
      have := decidableEntriesMeet rest
      inferInstanceAs (Decidable (value.Meets condition ∧ EntriesMeet condition rest))

end

end Decidable

theorem Node.meets_iff {node : Node} :
    node.Meets condition ↔ condition.onNode node ∧ EntriesMeet condition node.fields ∧
      (condition.inMetadata → EntriesMeet condition node.metadata) := by
  cases node
  rfl

theorem itemsMeet_iff {items : List Value} :
    ItemsMeet condition items ↔ ∀ item ∈ items, item.Meets condition := by
  induction items with
  | nil => simp [ItemsMeet]
  | cons item rest induction => simp [ItemsMeet, induction]

theorem entriesMeet_iff {entries : List (String × Value)} :
    EntriesMeet condition entries ↔ ∀ entry ∈ entries, entry.2.Meets condition := by
  induction entries with
  | nil => simp [EntriesMeet]
  | cons entry rest induction => simp [EntriesMeet, induction]

theorem Value.meets_of_node? {value : Value} {node : Node} (all : value.Meets condition)
    (found : value.node? = some node) : node.Meets condition := by
  cases value with
  | node inner =>
      cases found
      exact all
  | null | bool | number | text | list | map => contradiction

theorem meets_of_find? {entries : List (String × Value)} {name : String} {value : Value}
    (all : EntriesMeet condition entries)
    (found : Dictionary.find? entries name = some value) : value.Meets condition :=
  entriesMeet_iff.1 all _ (Dictionary.mem_of_find? found)

theorem entriesMeet_replace {entries : List (String × Value)} (name : String) {value : Value}
    (all : EntriesMeet condition entries) (new : value.Meets condition) :
    EntriesMeet condition (Dictionary.replace entries name value) := by
  induction entries with
  | nil => exact all
  | cons entry rest induction =>
      obtain ⟨key, old⟩ := entry
      simp only [Dictionary.replace]
      split
      · exact ⟨new, all.2⟩
      · exact ⟨all.1, induction all.2⟩

end Meets

namespace Condition

def unrestricted : Condition where
  onNode := fun _ => True
  onMap := fun _ => True
  inMetadata := False

/-- Every kind below fields is the one that its name gives. -/
def canonicalKinds : Condition where
  onNode := fun node => node.kind.Canonical
  onMap := fun _ => True
  inMetadata := False

instance : DecidablePred canonicalKinds.onNode :=
  fun node => inferInstanceAs (Decidable node.kind.Canonical)

instance : DecidablePred canonicalKinds.onMap :=
  fun _ => .isTrue trivial

instance : Decidable canonicalKinds.inMetadata :=
  .isFalse id

/-- No map has an entry that would make it look like a node. -/
def mapsUntyped : Condition where
  onNode := fun _ => True
  onMap := fun entries => Dictionary.contains entries "type" = false
  inMetadata := False

instance : DecidablePred mapsUntyped.onNode :=
  fun _ => .isTrue trivial

instance : DecidablePred mapsUntyped.onMap :=
  fun entries => inferInstanceAs (Decidable (Dictionary.contains entries "type" = false))

instance : Decidable mapsUntyped.inMetadata :=
  .isFalse id

end Condition

abbrev Node.MapsUntyped (node : Node) : Prop :=
  node.Meets .mapsUntyped

abbrev Value.MapsUntyped (value : Value) : Prop :=
  value.Meets .mapsUntyped

mutual

theorem Node.meets_unrestricted (node : Node) : node.Meets .unrestricted := by
  cases node with
  | mk kind span fields metadata => exact ⟨trivial, entriesMeet_unrestricted fields, False.elim⟩

theorem Value.meets_unrestricted (value : Value) : value.Meets .unrestricted := by
  cases value with
  | list items => exact itemsMeet_unrestricted items
  | map entries => exact ⟨trivial, entriesMeet_unrestricted entries⟩
  | node node => exact Node.meets_unrestricted node
  | null | bool | number | text => trivial

theorem itemsMeet_unrestricted (items : List Value) : ItemsMeet .unrestricted items := by
  match items with
  | [] => trivial
  | item :: rest => exact ⟨Value.meets_unrestricted item, itemsMeet_unrestricted rest⟩

theorem entriesMeet_unrestricted (entries : List (String × Value)) :
    EntriesMeet .unrestricted entries := by
  match entries with
  | [] => trivial
  | (name, value) :: rest => exact ⟨Value.meets_unrestricted value, entriesMeet_unrestricted rest⟩

end

theorem Node.canonical_of_meets {node : Node} (kinds : node.Meets .canonicalKinds) :
    node.kind.Canonical :=
  (Node.meets_iff.1 kinds).1

theorem Node.fields_meet {condition : Condition} {node : Node} (all : node.Meets condition) :
    EntriesMeet condition node.fields :=
  (Node.meets_iff.1 all).2.1

end Ast

end Reparse
