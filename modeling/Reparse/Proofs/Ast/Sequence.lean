import Mathlib.Data.List.Induction
import Reparse.Proofs.Ast.Composition

/-!
Sequences compare up to groups in front.

The normal form nests to the left, so a group that begins a sequence may as well be opened.  What
remains when no group is left in front, the spine, is exactly what comparison keeps.
-/

namespace Reparse

namespace Ast

/-- The expressions of a sequence of two or more that has no other semantic field. -/
def Value.group? : Value → Option (List Value)
  | .node ⟨.sequenceExpression, _, fields, _⟩ =>
      match semanticEntries fields with
      | [(name, .list (first :: second :: rest))] =>
          if name = "expressions" then some (first :: second :: rest) else none
      | _ => none
  | _ => none

theorem Value.group?_eq_some_iff {value : Value} {group : List Value} :
    value.group? = some group ↔
      2 ≤ group.length ∧ ∃ span fields metadata,
        value = .node ⟨.sequenceExpression, span, fields, metadata⟩ ∧
          semanticEntries fields = [("expressions", .list group)] := by
  constructor
  · intro grouped
    unfold group? at grouped
    split at grouped
    · next span fields metadata =>
        split at grouped
        · next name first second rest entries =>
            split at grouped
            · next named =>
                subst named
                cases grouped
                exact ⟨by simp, span, fields, metadata, rfl, entries⟩
            · contradiction
        · contradiction
    · contradiction
  · rintro ⟨long, span, fields, metadata, rfl, entries⟩
    match group with
    | first :: second :: rest => simp [group?, entries]
    | [] | [_] => simp at long

theorem Value.sizeOf_group {value : Value} {group : List Value}
    (grouped : value.group? = some group) : sizeOf group < sizeOf value := by
  obtain ⟨-, span, fields, metadata, rfl, entries⟩ := group?_eq_some_iff.1 grouped
  have member : ("expressions", Value.list group) ∈ semanticEntries fields := by
    rw [entries]
    exact List.mem_cons_self
  have smaller := List.sizeOf_lt_of_mem (List.mem_filter.1 member).1
  simp only [Prod.mk.sizeOf_spec, Value.list.sizeOf_spec] at smaller
  simp only [Value.node.sizeOf_spec, Node.mk.sizeOf_spec]
  omega

/-- The expressions of a sequence when groups in front are opened as long as there are any. -/
def spine : List Value → List Value
  | [] => []
  | first :: rest =>
      match _grouped : first.group? with
      | some group => spine group ++ rest
      | none => first :: rest
termination_by items => sizeOf items
decreasing_by
  have := Value.sizeOf_group _grouped
  simp only [List.cons.sizeOf_spec]
  omega

theorem spine_of_group {first : Value} {group : List Value} (grouped : first.group? = some group)
    (rest : List Value) : spine (first :: rest) = spine group ++ rest := by
  rw [spine]
  split
  · next other opened =>
      rw [grouped] at opened
      cases opened
      rfl
  · next closed =>
      rw [grouped] at closed
      contradiction

theorem spine_of_none {first : Value} (closed : first.group? = none) (rest : List Value) :
    spine (first :: rest) = first :: rest := by
  rw [spine]
  split
  · next opened =>
      rw [closed] at opened
      contradiction
  · rfl

theorem spine_append {front : List Value} (begun : front ≠ []) (rest : List Value) :
    spine (front ++ rest) = spine front ++ rest := by
  match front with
  | [] => contradiction
  | first :: others =>
      rw [List.cons_append]
      cases grouped : first.group? with
      | none => rw [spine_of_none grouped, spine_of_none grouped, List.cons_append]
      | some group => rw [spine_of_group grouped, spine_of_group grouped, List.append_assoc]

theorem two_le_length_spine {items : List Value} (long : 2 ≤ items.length) :
    2 ≤ (spine items).length := by
  fun_induction spine items with
  | case1 => exact long
  | case2 first rest group grouped induction =>
      have grown := induction (Value.group?_eq_some_iff.1 grouped).1
      rw [List.length_append]
      omega
  | case3 => exact long

theorem group?_head_spine {items : List Value} {lead : Value} (first : lead ∈ (spine items).head?) :
    lead.group? = none := by
  fun_induction spine items with
  | case1 => contradiction
  | case2 item rest group grouped induction =>
      have long := two_le_length_spine (Value.group?_eq_some_iff.1 grouped).1
      match opened : spine group with
      | [] => simp [opened] at long
      | other :: others =>
          rw [opened] at first induction
          exact induction first
  | case3 item rest closed =>
      cases first
      exact closed

theorem mem_spine {property : Value → Prop}
    (opens : ∀ {value group}, property value → value.group? = some group →
      ∀ item ∈ group, property item)
    {items : List Value} (all : ∀ item ∈ items, property item) :
    ∀ item ∈ spine items, property item := by
  fun_induction spine items with
  | case1 => exact all
  | case2 first rest group grouped induction =>
      intro item member
      rcases List.mem_append.1 member with inside | after
      · exact induction (opens (all first List.mem_cons_self) grouped) item inside
      · exact all item (List.mem_cons_of_mem _ after)
  | case3 => exact all

theorem Value.mem_fields_of_group {value : Value} {group : List Value}
    (grouped : value.group? = some group) :
    ∃ node, value = .node node ∧ ("expressions", Value.list group) ∈ node.fields := by
  obtain ⟨-, span, fields, metadata, rfl, entries⟩ := group?_eq_some_iff.1 grouped
  have member : ("expressions", Value.list group) ∈ semanticEntries fields := by
    rw [entries]
    exact List.mem_cons_self
  exact ⟨_, rfl, (List.mem_filter.1 member).1⟩

theorem meets_of_group {condition : Condition} {value : Value} {group : List Value}
    (all : value.Meets condition) (grouped : value.group? = some group) :
    ∀ item ∈ group, item.Meets condition := by
  obtain ⟨node, rfl, member⟩ := Value.mem_fields_of_group grouped
  have items : (Value.list group).Meets condition :=
    entriesMeet_iff.1 (Node.fields_meet all) _ member
  exact itemsMeet_iff.1 items

namespace Node

theorem leftNest_append (first second next : Value) (rest more : List Value) :
    leftNest first second (rest ++ next :: more) =
      leftNest (.node (sequence (leftNest first second rest))) next more := by
  induction rest generalizing first second with
  | nil => rfl
  | cons third rest induction => exact induction _ _

theorem sequence_inj {left right : List Value} (same : sequence left = sequence right) :
    left = right := by
  have fields : [("expressions", Value.list left)] = [("expressions", Value.list right)] :=
    congrArg Node.fields same
  simpa using fields

theorem field?_sequence_of_ne {items : List Value} {name : String}
    (different : name ≠ "expressions") : (sequence items).field? name = none := by
  rw [sequence, field?, Dictionary.find?_cons, if_neg (Ne.symm different)]
  rfl

end Node

/-- The left nest of two or more expressions; fewer stay as they are. -/
def nested : List Value → List Value
  | first :: second :: rest => Node.leftNest first second rest
  | items => items

theorem nested_append {group rest : List Value} (long : 2 ≤ group.length) (more : rest ≠ []) :
    nested (.node (.sequence (nested group)) :: rest) = nested (group ++ rest) := by
  match group, rest with
  | first :: second :: others, next :: rest =>
      exact (Node.leftNest_append first second next others rest).symm
  | [], _ | [_], _ => simp at long
  | _ :: _ :: _, [] => contradiction

def Value.IsPair (value : Value) : Prop :=
  ∃ first second, value = .node (.sequence [first, second])

theorem Node.isPair_leftNest (first second : Value) (rest : List Value) :
    (Value.node (sequence (leftNest first second rest))).IsPair := by
  induction rest generalizing first second with
  | nil => exact ⟨first, second, rfl⟩
  | cons next rest induction => exact induction _ _

/-- A left nest tells its expressions, because the first of them is no pair. -/
theorem Node.leftNest_inj {first second first' second' : Value} {rest rest' : List Value}
    (plain : ¬first.IsPair) (plain' : ¬first'.IsPair)
    (same : leftNest first second rest = leftNest first' second' rest') :
    first :: second :: rest = first' :: second' :: rest' := by
  induction rest using List.reverseRecOn generalizing rest' with
  | nil =>
      rcases rest'.eq_nil_or_concat with rfl | ⟨others, last, rfl⟩
      · exact same
      · rw [List.concat_eq_append, leftNest_append] at same
        exact absurd ((List.cons.inj same).1 ▸ isPair_leftNest first' second' others) plain
  | append_singleton others last induction =>
      rw [leftNest_append] at same
      rcases rest'.eq_nil_or_concat with rfl | ⟨others', last', rfl⟩
      · exact absurd ((List.cons.inj same).1 ▸ isPair_leftNest first second others) plain'
      · rw [List.concat_eq_append, leftNest_append] at same
        obtain ⟨inner, lasts⟩ := List.cons.inj same
        have heads := induction (sequence_inj (Value.node.inj inner))
        rw [List.concat_eq_append, (List.cons.inj lasts).1]
        exact congrArg (· ++ [last']) heads

theorem nested_inj {left right : List Value} (leftLong : 2 ≤ left.length)
    (rightLong : 2 ≤ right.length) (leftPlain : ∀ lead ∈ left.head?, ¬lead.IsPair)
    (rightPlain : ∀ lead ∈ right.head?, ¬lead.IsPair) (same : nested left = nested right) :
    left = right := by
  match left, right with
  | first :: second :: rest, first' :: second' :: rest' =>
      exact Node.leftNest_inj (leftPlain first rfl) (rightPlain first' rfl) same
  | [], _ | [_], _ => simp at leftLong
  | _ :: _ :: _, [] | _ :: _ :: _, [_] => simp at rightLong

theorem Node.nestExpressions_of_list {node : Node} {items : List Value}
    (found : node.field? "expressions" = some (.list items)) :
    node.nestExpressions =
      { node with
        fields := Dictionary.replace node.fields "expressions" (.list (nested items)) } := by
  match items with
  | first :: second :: third :: rest =>
      rw [nestExpressions, found]
      rfl
  | [] | [_] | [_, _] =>
      rw [nestExpressions, found]
      simp only [nested, leftNest]
      rw [Dictionary.replace_of_find? found]
      cases node
      rfl

theorem Node.meaning_of_sequence {node : Node} {items : List Value}
    (kinds : node.Meets .canonicalKinds) (isSequence : node.kind = .sequenceExpression)
    (found : node.field? "expressions" = some (.list items)) :
    node.meaning =
      ⟨.sequenceExpression, none,
        Dictionary.replace (entriesMeaning node.fields) "expressions"
          (.list (nested (items.map Value.meaning))), []⟩ := by
  have kept : Dictionary.find? (entriesMeaning node.fields) "expressions" =
      some (.list (items.map Value.meaning)) := by
    have original : Dictionary.find? node.fields "expressions" = some (.list items) := found
    rw [find?_entriesMeaning _ (by decide), original, Option.map_some, Value.meaning_list]
  rw [meaning_eq kinds, isSequence, reshape, if_pos rfl]
  exact nestExpressions_of_list kept

theorem Value.meaning_of_group {value : Value} {group : List Value}
    (kinds : value.Meets .canonicalKinds) (grouped : value.group? = some group) :
    value.meaning = .node (.sequence (nested (group.map Value.meaning))) := by
  obtain ⟨-, span, fields, metadata, rfl, entries⟩ := group?_eq_some_iff.1 grouped
  have found := find?_of_semanticEntries entries
  rw [meaning_node, Node.meaning_of_sequence kinds rfl found, entriesMeaning_eq, entries]
  rfl

theorem Value.list_of_meaning {value : Value} {items : List Value}
    (same : value.meaning = .list items) :
    ∃ others, value = .list others ∧ items = others.map Value.meaning := by
  cases value with
  | list others =>
      rw [meaning_list] at same
      exact ⟨others, rfl, (Value.list.inj same).symm⟩
  | null | bool | number | text | map | node => simp [meaning, normalForm, erase] at same

theorem Node.list_of_nestExpressions {value first second : Value}
    (same : nestExpressions ⟨.sequenceExpression, none, [("expressions", value)], []⟩ =
      sequence [first, second]) :
    ∃ items, value = .list items ∧ 2 ≤ items.length := by
  cases value with
  | list items =>
      refine ⟨items, rfl, ?_⟩
      match items with
      | [] | [_] =>
          simp [nestExpressions, field?, Dictionary.find?_cons, sequence, bare] at same
      | _ :: _ :: _ => simp
  | null | bool | number | text | map | node =>
      simp [nestExpressions, field?, Dictionary.find?_cons, sequence, bare] at same

theorem Value.group_of_isPair {value : Value} (kinds : value.Meets .canonicalKinds)
    (pair : value.meaning.IsPair) : ∃ group, value.group? = some group := by
  obtain ⟨first, second, same⟩ := pair
  cases value with
  | node node =>
      obtain ⟨kind, span, fields, metadata⟩ := node
      have root : Node.reshape ⟨kind, none, entriesMeaning fields, []⟩ =
          .sequence [first, second] := by
        rw [← Value.node.inj same]
        exact (Node.meaning_eq kinds).symm
      have isSequence : kind = .sequenceExpression := by
        have kinds := congrArg Node.kind root
        rwa [Node.kind_reshape] at kinds
      subst isSequence
      have names : Dictionary.names (entriesMeaning fields) = ["expressions"] := by
        have names := congrArg (fun node => Dictionary.names node.fields) root
        simp only [Node.names_reshape] at names
        exact names
      rw [entriesMeaning_eq, Dictionary.names, List.map_map] at names
      have single : (semanticEntries fields).length = 1 := by
        simpa using congrArg List.length names
      obtain ⟨⟨name, inner⟩, entries⟩ := List.length_eq_one_iff.1 single
      rw [entries] at names
      obtain rfl : name = "expressions" := by simpa using names
      rw [entriesMeaning_eq, entries, Node.reshape, if_pos rfl] at root
      obtain ⟨items, meant, long⟩ := Node.list_of_nestExpressions root
      obtain ⟨group, rfl, rfl⟩ := list_of_meaning meant
      rw [List.length_map] at long
      exact ⟨group, group?_eq_some_iff.2 ⟨long, span, fields, metadata, rfl, entries⟩⟩
  | list items => simp [meaning_list] at same
  | null | bool | number | text | map => simp [meaning, normalForm, erase] at same

/-- Opening the groups in front of a sequence leaves its left nest. -/
theorem nested_spine {items : List Value} (long : 2 ≤ items.length)
    (kinds : ∀ item ∈ items, item.Meets .canonicalKinds) :
    nested ((spine items).map Value.meaning) = nested (items.map Value.meaning) := by
  fun_induction spine items with
  | case1 => rfl
  | case2 first rest group grouped induction =>
      have first_kinds := kinds first List.mem_cons_self
      have groupLong := (Value.group?_eq_some_iff.1 grouped).1
      have spineLong : 2 ≤ ((spine group).map Value.meaning).length := by
        rw [List.length_map]
        exact two_le_length_spine groupLong
      have more : rest.map Value.meaning ≠ [] := by
        intro none
        rw [List.map_eq_nil_iff] at none
        simp [none] at long
      rw [List.map_append, ← nested_append spineLong more,
        induction groupLong (meets_of_group first_kinds grouped), List.map_cons,
        Value.meaning_of_group first_kinds grouped]
  | case3 => rfl

theorem nested_map_meaning_inj {left right : List Value} (leftLong : 2 ≤ left.length)
    (rightLong : 2 ≤ right.length) (leftKinds : ∀ item ∈ left, item.Meets .canonicalKinds)
    (rightKinds : ∀ item ∈ right, item.Meets .canonicalKinds)
    (same : nested (left.map Value.meaning) = nested (right.map Value.meaning)) :
    (spine left).map Value.meaning = (spine right).map Value.meaning := by
  have long {items : List Value} (long : 2 ≤ items.length) :
      2 ≤ ((spine items).map Value.meaning).length := by
    rw [List.length_map]
    exact two_le_length_spine long
  have plain {items : List Value} (kinds : ∀ item ∈ items, item.Meets .canonicalKinds) :
      ∀ lead ∈ ((spine items).map Value.meaning).head?, ¬lead.IsPair := by
    intro lead first pair
    rw [List.head?_map] at first
    obtain ⟨item, isHead, rfl⟩ := Option.map_eq_some_iff.1 first
    have meets := mem_spine meets_of_group kinds item (List.mem_of_mem_head? isHead)
    obtain ⟨group, grouped⟩ := Value.group_of_isPair meets pair
    rw [group?_head_spine isHead] at grouped
    contradiction
  apply nested_inj (long leftLong) (long rightLong) (plain leftKinds) (plain rightKinds)
  rw [nested_spine leftLong leftKinds, nested_spine rightLong rightKinds, same]

/-- A sequence of two or more expressions, such as can stand in a document: its fields are a
dictionary, its kinds are canonical, and none of its maps looks like a node. -/
structure Node.IsSequence (node : Node) (items : List Value) : Prop where
  kind : node.kind = .sequenceExpression
  list : node.field? "expressions" = some (.list items)
  long : 2 ≤ items.length
  ordered : Dictionary.Ordered node.fields
  kinds : node.Meets .canonicalKinds
  maps : node.MapsUntyped

namespace Node.IsSequence

variable {node left right : Node} {items lefts rights : List Value}

theorem sequence (long : 2 ≤ items.length) (kinds : ItemsMeet .canonicalKinds items)
    (maps : ItemsMeet .mapsUntyped items) : (Node.sequence items).IsSequence items where
  kind := rfl
  list := rfl
  long := long
  ordered := List.pairwise_singleton _ _
  kinds := ⟨rfl, ⟨kinds, trivial⟩, False.elim⟩
  maps := ⟨trivial, ⟨maps, trivial⟩, False.elim⟩

theorem meets_items {condition : Condition} (isSequence : node.IsSequence items)
    (all : node.Meets condition) : ∀ item ∈ items, item.Meets condition := by
  have list : (Value.list items).Meets condition :=
    meets_of_find? (Node.fields_meet all) isSequence.list
  exact itemsMeet_iff.1 list

theorem find?_meaning (isSequence : node.IsSequence items) (name : String) :
    Dictionary.find? node.meaning.fields name =
      if name = "expressions" then some (.list (nested (items.map Value.meaning)))
      else Dictionary.find? (entriesMeaning node.fields) name := by
  rw [Node.meaning_of_sequence isSequence.kinds isSequence.kind isSequence.list]
  simp only [Dictionary.find?_replace]
  split
  · next same =>
      have kept : Dictionary.find? node.fields "expressions" = some (.list items) :=
        isSequence.list
      rw [if_pos same.symm, ← same, find?_entriesMeaning _ (by decide), kept]
      rfl
  · next different => rw [if_neg (Ne.symm different)]

theorem ordered_meaning (isSequence : node.IsSequence items) :
    Dictionary.Ordered node.meaning.fields := by
  rw [Node.meaning_of_sequence isSequence.kinds isSequence.kind isSequence.list]
  exact Dictionary.ordered_replace (ordered_entriesMeaning isSequence.ordered) _ _

theorem meaning_eq_iff (isLeft : left.IsSequence lefts) (isRight : right.IsSequence rights)
    (others : ∀ name, name ≠ "expressions" →
      Dictionary.find? (entriesMeaning left.fields) name =
        Dictionary.find? (entriesMeaning right.fields) name) :
    left.meaning = right.meaning ↔
      nested (lefts.map Value.meaning) = nested (rights.map Value.meaning) := by
  constructor
  · intro same
    have found := isLeft.find?_meaning "expressions"
    rw [same, isRight.find?_meaning "expressions", if_pos rfl, if_pos rfl] at found
    simpa using found.symm
  · intro same
    have fields : left.meaning.fields = right.meaning.fields := by
      apply Dictionary.ext isLeft.ordered_meaning isRight.ordered_meaning
      intro name
      rw [isLeft.find?_meaning, isRight.find?_meaning, same]
      split
      · rfl
      · next different => exact others name different
    rw [Node.meaning_of_sequence isLeft.kinds isLeft.kind isLeft.list,
      Node.meaning_of_sequence isRight.kinds isRight.kind isRight.list] at fields ⊢
    exact congrArg (fun fields => (⟨.sequenceExpression, none, fields, []⟩ : Node)) fields

theorem canonicalText_eq_iff_nested (isLeft : left.IsSequence lefts)
    (isRight : right.IsSequence rights)
    (others : ∀ name, name ≠ "expressions" → isMetadataName name = false →
      (left.field? name).map Value.canonicalText = (right.field? name).map Value.canonicalText) :
    left.canonicalText = right.canonicalText ↔
      nested (lefts.map Value.meaning) = nested (rights.map Value.meaning) := by
  rw [Node.canonicalText_eq_iff isLeft.maps isRight.maps]
  apply isLeft.meaning_eq_iff isRight
  intro name different
  cases semantic : isMetadataName name with
  | true =>
      rw [find?_entriesMeaning_of_metadata _ semantic, find?_entriesMeaning_of_metadata _ semantic]
  | false =>
      rw [find?_entriesMeaning _ semantic, find?_entriesMeaning _ semantic]
      have texts := others name different semantic
      simp only [Node.field?] at texts
      cases leftFound : Dictionary.find? left.fields name with
      | none =>
          rw [leftFound] at texts
          cases rightFound : Dictionary.find? right.fields name with
          | none => rfl
          | some value => simp [rightFound] at texts
      | some leftValue =>
          rw [leftFound] at texts
          cases rightFound : Dictionary.find? right.fields name with
          | none => simp [rightFound] at texts
          | some rightValue =>
              rw [rightFound] at texts
              have leftMaps := meets_of_find? (Node.fields_meet isLeft.maps) leftFound
              have rightMaps := meets_of_find? (Node.fields_meet isRight.maps) rightFound
              rw [Option.map_some, Option.map_some,
                (Value.canonicalText_eq_iff leftMaps rightMaps).1 (Option.some.inj texts)]

end Node.IsSequence

/-- Sequences that agree on their other fields share their canonical text exactly when their spines
have the same texts in the same order.  So a group in front may be opened, and no other group. -/
theorem canonicalText_eq_iff_spine {left right : Node} {lefts rights : List Value}
    (isLeft : left.IsSequence lefts) (isRight : right.IsSequence rights)
    (others : ∀ name, name ≠ "expressions" → isMetadataName name = false →
      (left.field? name).map Value.canonicalText = (right.field? name).map Value.canonicalText) :
    (left.canonicalText = right.canonicalText ↔
      (spine lefts).map Value.canonicalText = (spine rights).map Value.canonicalText) ∧
    (∀ leader group rest, leader.group? = some group →
      lefts = leader :: rest → rights = group ++ rest →
        left.canonicalText = right.canonicalText) ∧
    (∀ front leader group rest, front ≠ [] → leader.group? = some group →
      lefts = front ++ leader :: rest → rights = front ++ (group ++ rest) →
        left.canonicalText ≠ right.canonicalText) := by
  have exact_spine : left.canonicalText = right.canonicalText ↔
      (spine lefts).map Value.canonicalText = (spine rights).map Value.canonicalText := by
    have leftKinds := isLeft.meets_items isLeft.kinds
    have rightKinds := isRight.meets_items isRight.kinds
    rw [isLeft.canonicalText_eq_iff_nested isRight others,
      map_canonicalText_eq_iff (mem_spine meets_of_group (isLeft.meets_items isLeft.maps))
        (mem_spine meets_of_group (isRight.meets_items isRight.maps))]
    constructor
    · exact nested_map_meaning_inj isLeft.long isRight.long leftKinds rightKinds
    · intro same
      rw [← nested_spine isLeft.long leftKinds, same, nested_spine isRight.long rightKinds]
  refine ⟨exact_spine, ?_, ?_⟩
  · intro leader group rest grouped leftItems rightItems
    subst leftItems
    subst rightItems
    have begun : group ≠ [] := by
      rintro rfl
      simpa using (Value.group?_eq_some_iff.1 grouped).1
    rw [exact_spine, spine_of_group grouped, spine_append begun]
  · intro front leader group rest begun grouped leftItems rightItems same
    subst leftItems
    subst rightItems
    have long := (Value.group?_eq_some_iff.1 grouped).1
    have lengths := congrArg List.length (exact_spine.1 same)
    rw [spine_append begun, spine_append begun] at lengths
    simp only [List.length_map, List.length_append, List.length_cons] at lengths
    omega

theorem canonicalText_eq_iff_spine_groups :
    (Node.sequence [.node (.sequence [.text "a", .text "b"]), .text "c"]).canonicalText =
      (Node.sequence [.text "a", .text "b", .text "c"]).canonicalText ∧
    (Node.sequence [.text "a", .node (.sequence [.text "b", .text "c"])]).canonicalText ≠
      (Node.sequence [.text "a", .text "b", .text "c"]).canonicalText := by
  have flat : (Node.sequence [.text "a", .text "b", .text "c"]).IsSequence
      [.text "a", .text "b", .text "c"] :=
    .sequence (by decide) (by decide) (by decide)
  have front : (Node.sequence [.node (.sequence [.text "a", .text "b"]), .text "c"]).IsSequence
      [.node (.sequence [.text "a", .text "b"]), .text "c"] :=
    .sequence (by decide) (by decide) (by decide)
  have behind : (Node.sequence [.text "a", .node (.sequence [.text "b", .text "c"])]).IsSequence
      [.text "a", .node (.sequence [.text "b", .text "c"])] :=
    .sequence (by decide) (by decide) (by decide)
  have others {lefts rights : List Value} (name : String) (different : name ≠ "expressions")
      (_ : isMetadataName name = false) :
      ((Node.sequence lefts).field? name).map Value.canonicalText =
        ((Node.sequence rights).field? name).map Value.canonicalText := by
    rw [Node.field?_sequence_of_ne different, Node.field?_sequence_of_ne different]
  constructor
  · exact (canonicalText_eq_iff_spine front flat others).2.1 _ [.text "a", .text "b"] [.text "c"]
      rfl rfl rfl
  · exact (canonicalText_eq_iff_spine behind flat others).2.2 [.text "a"] _
      [.text "b", .text "c"] [] (by simp) rfl rfl rfl

end Ast

end Reparse
