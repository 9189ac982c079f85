import Reparse.Proofs.Ast.Screen

namespace Reparse

namespace Ast

mutual

/-- A tree without positions, metadata and the entries under hidden names. -/
def Node.strip (hidden : String → Bool) : Node → Node
  | ⟨kind, _, fields, _⟩ => ⟨kind, none, entriesStrip hidden fields, []⟩

def Value.strip (hidden : String → Bool) : Value → Value
  | .list items => .list (itemsStrip hidden items)
  | .map entries => .map (entriesStrip hidden entries)
  | .node node => .node (node.strip hidden)
  | value => value

def itemsStrip (hidden : String → Bool) : List Value → List Value
  | [] => []
  | item :: rest => item.strip hidden :: itemsStrip hidden rest

def entriesStrip (hidden : String → Bool) : List (String × Value) → List (String × Value)
  | [] => []
  | (name, value) :: rest =>
      if hidden name then entriesStrip hidden rest
      else (name, value.strip hidden) :: entriesStrip hidden rest

end

def Node.unmarked (node : Node) : Node :=
  node.strip fun _ => false

/-- Nothing is hidden but what comparison passes over anyway. -/
def Covers (hidden : String → Bool) : Prop :=
  ∀ name, hidden name = true → isMetadataName name = true

section Strip

variable {hidden : String → Bool}

theorem itemsStrip_eq_map (items : List Value) :
    itemsStrip hidden items = items.map (Value.strip hidden) := by
  induction items with
  | nil => rfl
  | cons item rest induction => simp [itemsStrip, induction]

mutual

theorem Node.strip_eq_seen (node : Node) : node.strip hidden = node.seen ⟨hidden, id⟩ := by
  cases node with
  | mk kind span fields metadata => simp [Node.strip, Node.seen, entriesStrip_eq_seen fields]

theorem Value.strip_eq_seen (value : Value) : value.strip hidden = value.seen ⟨hidden, id⟩ := by
  cases value with
  | list items => exact congrArg Value.list (itemsStrip_eq_seen items)
  | map entries => exact congrArg Value.map (entriesStrip_eq_seen entries)
  | node node => exact congrArg Value.node (Node.strip_eq_seen node)
  | null | bool | number | text => rfl

theorem itemsStrip_eq_seen (items : List Value) :
    itemsStrip hidden items = itemsSeen ⟨hidden, id⟩ items := by
  match items with
  | [] => rfl
  | item :: rest =>
      rw [itemsStrip, itemsSeen, Value.strip_eq_seen item, itemsStrip_eq_seen rest]

theorem entriesStrip_eq_seen (entries : List (String × Value)) :
    entriesStrip hidden entries = entriesSeen ⟨hidden, id⟩ entries := by
  match entries with
  | [] => rfl
  | (name, value) :: rest =>
      rw [entriesStrip, entriesSeen, Value.strip_eq_seen value, entriesStrip_eq_seen rest]

end

theorem Value.strip_eq : Value.strip hidden = Value.seen ⟨hidden, id⟩ :=
  funext Value.strip_eq_seen

theorem Node.strip_eq : Node.strip hidden = Node.seen ⟨hidden, id⟩ :=
  funext Node.strip_eq_seen

theorem Node.kind_strip (node : Node) : (node.strip hidden).kind = node.kind := by
  cases node
  rfl

theorem Node.field?_strip (node : Node) {name : String} (visible : hidden name = false) :
    (node.strip hidden).field? name = (node.field? name).map (Value.strip hidden) := by
  rw [strip_eq_seen, Value.strip_eq]
  exact node.field?_seen visible

theorem Node.fieldNode?_strip (node : Node) {name : String} (visible : hidden name = false) :
    (node.strip hidden).fieldNode? name = (node.fieldNode? name).map (Node.strip hidden) := by
  rw [strip_eq]
  exact node.fieldNode?_seen visible

theorem Node.flag_strip (node : Node) {name : String} (visible : hidden name = false) :
    (node.strip hidden).flag name = node.flag name := by
  rw [strip_eq_seen]
  exact node.flag_seen visible

theorem Value.text?_strip (value : Value) : (value.strip hidden).text? = value.text? := by
  cases value <;> rfl

theorem Value.number?_strip (value : Value) : (value.strip hidden).number? = value.number? := by
  cases value <;> rfl

theorem Value.list?_strip (value : Value) :
    (value.strip hidden).list? = value.list?.map (itemsStrip hidden) := by
  cases value <;> rfl

theorem Node.canonicalText_strip (covers : Covers hidden) (node : Node) :
    (node.strip hidden).canonicalText = node.canonicalText := by
  have faithful : Screen.Faithful ⟨hidden, id⟩ := ⟨covers, fun _ => rfl⟩
  rw [strip_eq_seen, node.canonicalText_seen faithful]

end Strip

mutual

theorem Node.height_unmarked (node : Node) : node.unmarked.height = node.height := by
  cases node with
  | mk kind span fields metadata =>
      exact congrArg (· + 1) (entriesHeight_unmarked fields)

theorem Value.height_unmarked (value : Value) :
    (value.strip fun _ => false).height = value.height := by
  cases value with
  | list items => exact congrArg (· + 1) (itemsHeight_unmarked items)
  | map entries => exact congrArg (· + 1) (entriesHeight_unmarked entries)
  | node node => exact congrArg (· + 1) (Node.height_unmarked node)
  | null | bool | number | text => rfl

theorem itemsHeight_unmarked (items : List Value) :
    itemsHeight (itemsStrip (fun _ => false) items) = itemsHeight items := by
  match items with
  | [] => rfl
  | item :: rest =>
      simp [itemsStrip, itemsHeight, Value.height_unmarked item, itemsHeight_unmarked rest]

theorem entriesHeight_unmarked (entries : List (String × Value)) :
    entriesHeight (entriesStrip (fun _ => false) entries) = entriesHeight entries := by
  match entries with
  | [] => rfl
  | (name, value) :: rest =>
      simp [entriesStrip, entriesHeight, Value.height_unmarked value, entriesHeight_unmarked rest]

end

theorem covers_none : Covers fun _ => false := by
  intro name secret
  contradiction

/-- Trees that differ in their circumstances alone share their canonical text. -/
theorem Node.canonicalText_of_unmarked {left right : Node}
    (same : left.unmarked = right.unmarked) : left.canonicalText = right.canonicalText := by
  rw [← left.canonicalText_strip covers_none, ← right.canonicalText_strip covers_none]
  exact congrArg canonicalText same

end Ast

end Reparse
