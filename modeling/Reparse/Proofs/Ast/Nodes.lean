import Reparse.Proofs.Ast.Unmarked

namespace Reparse

namespace Ast

mutual

def Node.nodes : Node → List Node
  | ⟨kind, span, fields, metadata⟩ => ⟨kind, span, fields, metadata⟩ :: entriesNodes fields

def Value.nodes : Value → List Node
  | .list items => itemsNodes items
  | .map entries => entriesNodes entries
  | .node node => node.nodes
  | _ => []

def itemsNodes : List Value → List Node
  | [] => []
  | item :: rest => item.nodes ++ itemsNodes rest

def entriesNodes : List (String × Value) → List Node
  | [] => []
  | (_, value) :: rest => value.nodes ++ entriesNodes rest

end

mutual

theorem Node.nodes_unmarked (node : Node) :
    node.unmarked.nodes = node.nodes.map Node.unmarked := by
  cases node with
  | mk kind span fields metadata =>
      exact congrArg (_ :: ·) (entriesNodes_unmarked fields)

theorem Value.nodes_unmarked (value : Value) :
    (value.strip fun _ => false).nodes = value.nodes.map Node.unmarked := by
  cases value with
  | list items => exact itemsNodes_unmarked items
  | map entries => exact entriesNodes_unmarked entries
  | node node => exact Node.nodes_unmarked node
  | null | bool | number | text => rfl

theorem itemsNodes_unmarked (items : List Value) :
    itemsNodes (itemsStrip (fun _ => false) items) = (itemsNodes items).map Node.unmarked := by
  match items with
  | [] => rfl
  | item :: rest =>
      simp [itemsStrip, itemsNodes, Value.nodes_unmarked item, itemsNodes_unmarked rest]

theorem entriesNodes_unmarked (entries : List (String × Value)) :
    entriesNodes (entriesStrip (fun _ => false) entries) =
      (entriesNodes entries).map Node.unmarked := by
  match entries with
  | [] => rfl
  | (name, value) :: rest =>
      simp [entriesStrip, entriesNodes, Value.nodes_unmarked value, entriesNodes_unmarked rest]

end

/-- A feature of nodes that no node of a tree has. -/
def Node.Lacks (feature : Node → Bool) (tree : Node) : Prop :=
  ∀ node ∈ tree.nodes, feature node = false

def Value.Lacks (feature : Node → Bool) (value : Value) : Prop :=
  ∀ node ∈ value.nodes, feature node = false

section Lacks

variable {feature : Node → Bool}

theorem Node.lacks_iff {kind : Kind} {span : Option Span}
    {fields metadata : List (String × Value)} :
    Node.Lacks feature ⟨kind, span, fields, metadata⟩ ↔
      feature ⟨kind, span, fields, metadata⟩ = false ∧
        ∀ entry ∈ fields, entry.2.Lacks feature := by
  have below (entries : List (String × Value)) :
      (∀ node ∈ entriesNodes entries, feature node = false) ↔
        ∀ entry ∈ entries, entry.2.Lacks feature := by
    induction entries with
    | nil => simp [entriesNodes]
    | cons entry rest induction =>
        rw [entriesNodes, List.forall_mem_append, induction, List.forall_mem_cons]
        rfl
  rw [Node.Lacks, Node.nodes, List.forall_mem_cons, below]

@[simp] theorem Value.lacks_list {items : List Value} :
    (Value.list items).Lacks feature ↔ ∀ item ∈ items, item.Lacks feature := by
  induction items with
  | nil => simp [Value.Lacks, Value.nodes, itemsNodes]
  | cons item rest induction =>
      simp only [Value.Lacks, Value.nodes] at induction
      simp only [Value.Lacks, Value.nodes, itemsNodes, List.forall_mem_append, List.forall_mem_cons,
        induction]

@[simp] theorem Value.lacks_node {node : Node} :
    (Value.node node).Lacks feature ↔ node.Lacks feature :=
  Iff.rfl

@[simp] theorem Value.lacks_bool (value : Bool) : (Value.bool value).Lacks feature := by
  simp [Value.Lacks, Value.nodes]

@[simp] theorem Value.lacks_number (value : Binary64) : (Value.number value).Lacks feature := by
  simp [Value.Lacks, Value.nodes]

@[simp] theorem Value.lacks_text (value : String) : (Value.text value).Lacks feature := by
  simp [Value.Lacks, Value.nodes]

theorem Node.any_nodes_eq_false {tree : Node} :
    tree.nodes.any feature = false ↔ tree.Lacks feature := by
  rw [List.any_eq_false]
  simp [Node.Lacks]

/-- A feature that does not tell circumstances is found with them and without. -/
theorem Node.lacks_unmarked (blind : ∀ node : Node, feature node.unmarked = feature node)
    {tree : Node} : tree.unmarked.Lacks feature ↔ tree.Lacks feature := by
  rw [Node.Lacks, tree.nodes_unmarked, List.forall_mem_map]
  simp only [blind]
  rfl

end Lacks

end Ast

end Reparse
