import Reparse.Proofs.Ast.Composition

namespace Reparse

namespace Ast

inductive Step where
  | field (name : String)
  | entry (name : String)
  | item (index : Nat)
deriving DecidableEq

def Value.part? : Value → Step → Option Value
  | .node inner, .field name => inner.field? name
  | .map entries, .entry name => Dictionary.find? entries name
  | .list items, .item index => items[index]?
  | _, _ => none

def Value.setPart : Value → Step → Value → Value
  | .node inner, .field name, part =>
      .node { inner with fields := Dictionary.replace inner.fields name part }
  | .map entries, .entry name, part => .map (Dictionary.replace entries name part)
  | .list items, .item index, part => .list (items.set index part)
  | value, _, _ => value

def Value.at? (value : Value) : List Step → Option Value
  | [] => some value
  | step :: rest => value.part? step >>= fun part => part.at? rest

/-- Put a value in the place of what stands at the end of a path. -/
def Value.put (value : Value) (position : List Step) (new : Value) : Value :=
  match position with
  | [] => new
  | step :: rest =>
      match value.part? step with
      | some part => value.setPart step (part.put rest new)
      | none => value

def Node.at? (tree : Node) (position : List Step) : Option Node :=
  (Value.node tree).at? position >>= Value.node?

def Node.put (tree : Node) (position : List Step) (new : Node) : Node :=
  (((Value.node tree).put position (.node new)).node?).getD tree

namespace Value

theorem at?_cons (value : Value) (step : Step) (rest : List Step) :
    value.at? (step :: rest) = value.part? step >>= fun part => part.at? rest := rfl

theorem exists_of_at?_cons {value found : Value} {step : Step} {rest : List Step}
    (stands : value.at? (step :: rest) = some found) :
    ∃ part, value.part? step = some part ∧ part.at? rest = some found := by
  rw [at?_cons] at stands
  exact Option.bind_eq_some_iff.1 stands

theorem put_cons {value part : Value} {step : Step} (found : value.part? step = some part)
    (rest : List Step) (new : Value) :
    value.put (step :: rest) new = value.setPart step (part.put rest new) := by
  rw [put, found]

/-- A step leads from a node into a field, from a map to an entry, or from a list to an item. -/
theorem part?_cases {value part : Value} {step : Step} (found : value.part? step = some part) :
    (∃ parent name, value = .node parent ∧ step = .field name ∧
      Dictionary.find? parent.fields name = some part) ∨
    (∃ entries name, value = .map entries ∧ step = .entry name ∧
      Dictionary.find? entries name = some part) ∨
    ∃ items index, value = .list items ∧ step = .item index ∧ items[index]? = some part := by
  unfold part? at found
  split at found
  · exact .inl ⟨_, _, rfl, rfl, found⟩
  · exact .inr (.inl ⟨_, _, rfl, rfl, found⟩)
  · exact .inr (.inr ⟨_, _, rfl, rfl, found⟩)
  · contradiction

theorem part?_setPart {value part : Value} {step : Step} (isPart : value.part? step = some part)
    (new : Value) : (value.setPart step new).part? step = some new := by
  have replaced {entries : Dictionary Value} {name : String}
      (found : Dictionary.find? entries name = some part) :
      Dictionary.find? (Dictionary.replace entries name new) name = some new := by
    rw [Dictionary.find?_replace, if_pos rfl, found]
    rfl
  obtain ⟨parent, name, rfl, rfl, found⟩ | ⟨entries, name, rfl, rfl, found⟩ |
    ⟨items, index, rfl, rfl, found⟩ := part?_cases isPart
  · exact replaced found
  · exact replaced found
  · exact List.getElem?_set_self (List.getElem?_eq_some_iff.1 found).1

theorem meets_part {condition : Condition} {value part : Value} {step : Step}
    (all : value.Meets condition) (isPart : value.part? step = some part) :
    part.Meets condition := by
  obtain ⟨parent, name, rfl, rfl, found⟩ | ⟨entries, name, rfl, rfl, found⟩ |
    ⟨items, index, rfl, rfl, found⟩ := part?_cases isPart
  · exact meets_of_find? (Node.fields_meet all) found
  · exact meets_of_find? all.2 found
  · exact itemsMeet_iff.1 all part (List.mem_of_getElem? found)

theorem canonicalKinds_setPart {value part new : Value} {step : Step}
    (kinds : value.Meets .canonicalKinds) (newKinds : new.Meets .canonicalKinds)
    (isPart : value.part? step = some part) : (value.setPart step new).Meets .canonicalKinds := by
  obtain ⟨parent, name, rfl, rfl, -⟩ | ⟨entries, name, rfl, rfl, -⟩ |
    ⟨items, index, rfl, rfl, -⟩ := part?_cases isPart
  · have canonical : parent.kind.Canonical := Node.canonical_of_meets kinds
    have fields := entriesMeet_replace name (Node.fields_meet kinds) newKinds
    exact Node.meets_iff.2 ⟨canonical, fields, False.elim⟩
  · exact ⟨trivial, entriesMeet_replace name kinds.2 newKinds⟩
  · refine itemsMeet_iff.2 fun item member => ?_
    rcases List.mem_or_eq_of_mem_set member with old | rfl
    · exact itemsMeet_iff.1 kinds item old
    · exact newKinds

theorem meaning_setPart {value part new : Value} {step : Step}
    (kinds : value.Meets .canonicalKinds) (newKinds : new.Meets .canonicalKinds)
    (isPart : value.part? step = some part) (same : new.meaning = part.meaning) :
    (value.setPart step new).meaning = value.meaning := by
  have newTreeKinds := canonicalKinds_setPart kinds newKinds isPart
  obtain ⟨parent, name, rfl, rfl, found⟩ | ⟨entries, name, rfl, rfl, found⟩ |
    ⟨items, index, rfl, rfl, found⟩ := part?_cases isPart
  · simp only [setPart, meaning_node]
    rw [Node.meaning_eq kinds, Node.meaning_eq newTreeKinds, entriesMeaning_replace found same]
  · simp only [setPart, meaning_map]
    rw [entriesMeaning_replace found same]
  · have kept : (items.map Value.meaning)[index]? = some part.meaning := by
      rw [List.getElem?_map, found]
      rfl
    obtain ⟨inside, standing⟩ := List.getElem?_eq_some_iff.1 kept
    simp only [setPart, meaning_list]
    rw [List.map_set, same, ← standing, List.set_getElem_self]

theorem meets_at? {condition : Condition} {value found : Value} {position : List Step}
    (all : value.Meets condition) (stands : value.at? position = some found) :
    found.Meets condition := by
  induction position generalizing value with
  | nil =>
      cases stands
      exact all
  | cons step rest induction =>
      obtain ⟨part, isPart, below⟩ := exists_of_at?_cons stands
      exact induction (meets_part all isPart) below

theorem at?_put {value old : Value} {position : List Step}
    (stands : value.at? position = some old) (new : Value) :
    (value.put position new).at? position = some new := by
  induction position generalizing value with
  | nil => rfl
  | cons step rest induction =>
      obtain ⟨part, isPart, below⟩ := exists_of_at?_cons stands
      rw [put_cons isPart, at?_cons, part?_setPart isPart]
      exact induction below

theorem canonicalKinds_put {value old new : Value} {position : List Step}
    (kinds : value.Meets .canonicalKinds) (newKinds : new.Meets .canonicalKinds)
    (stands : value.at? position = some old) :
    (value.put position new).Meets .canonicalKinds := by
  induction position generalizing value with
  | nil => exact newKinds
  | cons step rest induction =>
      obtain ⟨part, isPart, below⟩ := exists_of_at?_cons stands
      rw [put_cons isPart]
      exact canonicalKinds_setPart kinds (induction (meets_part kinds isPart) below) isPart

/-- What stands at a position may change to what means the same. -/
theorem meaning_put {value old new : Value} {position : List Step}
    (kinds : value.Meets .canonicalKinds) (newKinds : new.Meets .canonicalKinds)
    (stands : value.at? position = some old) (same : new.meaning = old.meaning) :
    (value.put position new).meaning = value.meaning := by
  induction position generalizing value with
  | nil =>
      cases stands
      exact same
  | cons step rest induction =>
      obtain ⟨part, isPart, below⟩ := exists_of_at?_cons stands
      have partKinds := meets_part kinds isPart
      rw [put_cons isPart]
      exact meaning_setPart kinds (canonicalKinds_put partKinds newKinds below) isPart
        (induction partKinds below)

end Value

namespace Node

theorem exists_of_at? {tree found : Node} {position : List Step}
    (stands : tree.at? position = some found) :
    (Value.node tree).at? position = some (.node found) := by
  obtain ⟨value, standing, isNode⟩ := Option.bind_eq_some_iff.1 stands
  cases value with
  | node node =>
      cases isNode
      exact standing
  | null | bool | number | text | list | map => contradiction

theorem node_put {tree old : Node} {position : List Step}
    (stands : tree.at? position = some old) (new : Node) :
    (Value.node tree).put position (.node new) = .node (tree.put position new) := by
  have standing := exists_of_at? stands
  cases position with
  | nil => rfl
  | cons step rest =>
      obtain ⟨part, isPart, -⟩ := Value.exists_of_at?_cons standing
      rw [put, Value.put_cons isPart]
      cases step with
      | field name => rfl
      | entry name => contradiction
      | item index => contradiction

end Node

/-- Canonical equality is a congruence: a node anywhere in a tree may be replaced by one with its
canonical text. -/
theorem canonicalText_put {tree old new : Node} {position : List Step}
    (stands : tree.at? position = some old) (same : old.canonicalText = new.canonicalText)
    (treeKinds : tree.Meets .canonicalKinds) (newKinds : new.Meets .canonicalKinds)
    (treeMaps : tree.MapsUntyped) (newMaps : new.MapsUntyped) :
    (tree.put position new).at? position = some new ∧
      (tree.put position new).canonicalText = tree.canonicalText := by
  have standing := Node.exists_of_at? stands
  have whole := Node.node_put stands new
  constructor
  · rw [Node.at?, ← whole, Value.at?_put standing]
    rfl
  · have rootKinds : (Value.node tree).Meets .canonicalKinds := treeKinds
    have rootMaps : (Value.node tree).MapsUntyped := treeMaps
    have partKinds : (Value.node new).Meets .canonicalKinds := newKinds
    have oldMaps : old.MapsUntyped := Value.meets_at? rootMaps standing
    have parts : (Value.node new).meaning = (Value.node old).meaning := by
      have meanings := (Node.canonicalText_eq_iff oldMaps newMaps).1 same
      rw [Value.meaning_node, Value.meaning_node, meanings]
    have wholes := Value.canonicalText_of_meaning
      (Value.meaning_put rootKinds partKinds standing parts)
    rwa [whole, Value.canonicalText_node, Value.canonicalText_node] at wholes

theorem canonicalText_put_key :
    ((Node.sequence
        [.node ⟨.objectProperty, none,
          [("key", .node ⟨.numericLiteral, none, [("value", .number (.ofCode true 0))], []⟩)], []⟩,
        .null]).put [.field "expressions", .item 0, .field "key"]
        ⟨.numericLiteral, some ⟨0, 1⟩, [("value", .number (.ofCode false 0))],
          [("extra", .text "0")]⟩).canonicalText =
      (Node.sequence
        [.node ⟨.objectProperty, none,
          [("key", .node ⟨.numericLiteral, none, [("value", .number (.ofCode true 0))], []⟩)], []⟩,
        .null]).canonicalText := by
  have same : (⟨.numericLiteral, none, [("value", .number (.ofCode true 0))], []⟩ :
        Node).canonicalText =
      (⟨.numericLiteral, some ⟨0, 1⟩, [("value", .number (.ofCode false 0))],
        [("extra", .text "0")]⟩ : Node).canonicalText :=
    (Node.canonicalText_eq_iff (by decide) (by decide)).2 rfl
  exact (canonicalText_put rfl same (by decide) (by decide) (by decide) (by decide)).2

end Ast

end Reparse
