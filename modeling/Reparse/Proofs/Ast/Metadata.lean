import Reparse.Proofs.Ast.Reading
import Reparse.Proofs.Ast.Unmarked

namespace Reparse

namespace Ast

/-- What comparison sees: no metadata, and numbers without the sign of a zero. -/
def Screen.semantic : Screen where
  hidden := isMetadataName
  number := Binary64.representative

theorem Screen.faithful_semantic : semantic.Faithful where
  hidden := fun _ named => named
  number := Binary64.scriptText_representative

mutual

theorem Node.seen_of_equal (left right : Node) (same : left.equal right = true) :
    left.seen .semantic = right.seen .semantic := by
  cases left with
  | mk kind span fields metadata =>
      cases right with
      | mk kind' span' fields' metadata' =>
          simp only [Node.equal, Bool.and_eq_true, beq_iff_eq] at same
          obtain ⟨⟨⟨rfl, -⟩, sameFields⟩, -⟩ := same
          rw [Node.seen, Node.seen, entriesSeen_of_equal fields fields' sameFields]
termination_by structural left

theorem Value.seen_of_equal (left right : Value) (same : left.equal right = true) :
    left.seen .semantic = right.seen .semantic := by
  cases left with
  | null =>
      cases right with
      | null => rfl
      | _ => simp [Value.equal] at same
  | bool value =>
      cases right with
      | bool other =>
          rw [Value.equal, beq_iff_eq] at same
          rw [same]
      | _ => simp [Value.equal] at same
  | number x =>
      cases right with
      | number y =>
          rw [Value.equal] at same
          exact congrArg Value.number (Binary64.representative_of_equal same)
      | _ => simp [Value.equal] at same
  | text value =>
      cases right with
      | text other =>
          rw [Value.equal, beq_iff_eq] at same
          rw [same]
      | _ => simp [Value.equal] at same
  | list items =>
      cases right with
      | list others =>
          rw [Value.equal] at same
          exact congrArg Value.list (itemsSeen_of_equal items others same)
      | _ => simp [Value.equal] at same
  | map entries =>
      cases right with
      | map others =>
          rw [Value.equal] at same
          exact congrArg Value.map (entriesSeen_of_equal entries others same)
      | _ => simp [Value.equal] at same
  | node node =>
      cases right with
      | node other =>
          rw [Value.equal] at same
          exact congrArg Value.node (Node.seen_of_equal node other same)
      | _ => simp [Value.equal] at same
termination_by structural left

theorem itemsSeen_of_equal (left right : List Value) (same : itemsEqual left right = true) :
    itemsSeen .semantic left = itemsSeen .semantic right := by
  match left, right with
  | [], [] => rfl
  | [], _ :: _ => simp [itemsEqual] at same
  | _ :: _, [] => simp [itemsEqual] at same
  | item :: rest, other :: others =>
      rw [itemsEqual, Bool.and_eq_true] at same
      rw [itemsSeen, itemsSeen, Value.seen_of_equal item other same.1,
        itemsSeen_of_equal rest others same.2]
termination_by structural left

theorem entriesSeen_of_equal (left right : List (String × Value))
    (same : entriesEqual left right = true) :
    entriesSeen .semantic left = entriesSeen .semantic right := by
  match left, right with
  | [], [] => rfl
  | [], _ :: _ => simp [entriesEqual] at same
  | _ :: _, [] => simp [entriesEqual] at same
  | (name, value) :: rest, (name', other) :: others =>
      rw [entriesEqual, Bool.and_eq_true, Bool.and_eq_true, beq_iff_eq] at same
      obtain ⟨⟨rfl, first⟩, later⟩ := same
      rw [entriesSeen, entriesSeen, Value.seen_of_equal value other first,
        entriesSeen_of_equal rest others later]
termination_by structural left

end

mutual

/-- A document without the members under metadata names, its numbers taken for others. -/
def seenDocument (number : JsonNumber → JsonNumber) : Json → Json
  | .number value => .number (number value)
  | .array items => .array (seenItems number items)
  | .object members => .object (seenMembers number members)
  | json => json

def seenItems (number : JsonNumber → JsonNumber) : List Json → List Json
  | [] => []
  | item :: rest => seenDocument number item :: seenItems number rest

def seenMembers (number : JsonNumber → JsonNumber) : List (String × Json) → List (String × Json)
  | [] => []
  | (name, json) :: rest =>
      if isMetadataName name then seenMembers number rest
      else (name, seenDocument number json) :: seenMembers number rest

end

def withoutMetadata (document : Json) : Json :=
  seenDocument id document

def semanticNumber (number : JsonNumber) : JsonNumber :=
  .float number.toBinary64.representative

mutual

theorem seenDocument_seen (number : JsonNumber → JsonNumber) (json : Json) :
    seenDocument number (seenDocument id json) = seenDocument number json := by
  cases json with
  | null | bool | number | string => rfl
  | array items => exact congrArg Json.array (seenItems_seen number items)
  | object members => exact congrArg Json.object (seenMembers_seen number members)

theorem seenItems_seen (number : JsonNumber → JsonNumber) (items : List Json) :
    seenItems number (seenItems id items) = seenItems number items := by
  match items with
  | [] => rfl
  | item :: rest =>
      rw [seenItems, seenItems, seenItems, seenDocument_seen number item,
        seenItems_seen number rest]

theorem seenMembers_seen (number : JsonNumber → JsonNumber) (members : List (String × Json)) :
    seenMembers number (seenMembers id members) = seenMembers number members := by
  match members with
  | [] => rfl
  | (name, json) :: rest =>
      rw [seenMembers, seenMembers]
      split
      · exact seenMembers_seen number rest
      · next shown =>
          rw [seenMembers, if_neg shown, seenDocument_seen number json,
            seenMembers_seen number rest]

end

theorem find?_seenMembers (number : JsonNumber → JsonNumber) (members : List (String × Json))
    (name : String) :
    Dictionary.find? (seenMembers number members) name =
      if isMetadataName name then none
      else (Dictionary.find? members name).map (seenDocument number) := by
  have mapped : seenMembers number members =
      (members.filter fun member => !isMetadataName member.1).map fun member =>
        (member.1, seenDocument number member.2) := by
    induction members with
    | nil => rfl
    | cons member rest induction =>
        obtain ⟨key, json⟩ := member
        rw [seenMembers, List.filter_cons, induction]
        cases isMetadataName key with
        | true => rfl
        | false => rfl
  rw [mapped, Dictionary.find?_map _ fun _ => seenDocument number,
    Dictionary.find?_filter members fun key => !isMetadataName key]
  cases isMetadataName name with
  | true => rfl
  | false => rfl

theorem spanOf?_seenMembers (number : JsonNumber → JsonNumber) (members : List (String × Json)) :
    spanOf? (seenMembers number members) = none := by
  rw [spanOf?, find?_seenMembers, if_pos (by decide)]

theorem entriesSeen_eq (entries : List (String × Value)) :
    entriesSeen .semantic entries =
      (semanticEntries entries).map fun entry => (entry.1, entry.2.seen .semantic) := by
  induction entries with
  | nil => rfl
  | cons entry rest induction =>
      obtain ⟨name, value⟩ := entry
      rw [entriesSeen, induction, semanticEntries, semanticEntries, List.filter_cons]
      cases named : isMetadataName name with
      | true => simp [Screen.semantic, named]
      | false => simp [Screen.semantic, named]

theorem Node.ofEntries_seen (kind : String) (span : Option Span)
    (entries : List (String × Value)) :
    ofEntries kind none (entriesSeen .semantic entries) =
      (ofEntries kind span entries).seen .semantic := by
  have fields : (ofEntries kind none (entriesSeen .semantic entries)).fields =
      entriesSeen .semantic (ofEntries kind span entries).fields := by
    rw [fields_ofEntries, fields_ofEntries, entriesSeen_eq, entriesSeen_eq, semanticEntries,
      semanticEntries, List.filter_map, List.filter_filter, List.filter_filter]
    simp only [Function.comp_def, Bool.and_comm]
  have metadata : (ofEntries kind none (entriesSeen .semantic entries)).metadata = [] := by
    rw [metadata_ofEntries, entriesSeen_eq, semanticEntries, List.filter_map, List.filter_filter]
    simp
  have parts : ofEntries kind none (entriesSeen .semantic entries) =
      ⟨.ofName kind, none, (ofEntries kind none (entriesSeen .semantic entries)).fields,
        (ofEntries kind none (entriesSeen .semantic entries)).metadata⟩ := rfl
  rw [parts, fields, metadata]
  rfl

mutual

theorem Value.ofJson_seenDocument (json : Json) {value : Value}
    (read : Value.ofJson json = .ok value) :
    Value.ofJson (seenDocument semanticNumber json) = .ok (value.seen .semantic) := by
  cases json with
  | null | bool | string | number =>
      cases read
      rfl
  | array items =>
      obtain ⟨values, inner, rfl⟩ := exists_of_map_eq_ok read
      rw [seenDocument, Value.ofJson, itemsOfJson_seenItems items inner]
      rfl
  | object members =>
      obtain ⟨entries, inner, ⟨absent, rfl⟩ | ⟨kind, typed, rfl⟩⟩ := Value.ofJson_object_eq_ok read
      · have untyped : Dictionary.find? (seenMembers semanticNumber members) "type" = none := by
          rw [find?_seenMembers, absent]
          rfl
        rw [seenDocument, Value.ofJson, untyped]
        simp only []
        rw [entriesOfJson_seenMembers members inner]
        rfl
      · have told : Dictionary.find? (seenMembers semanticNumber members) "type" =
            some (.string kind) := by
          rw [find?_seenMembers, typed]
          rfl
        rw [seenDocument, Value.ofJson, told]
        simp only []
        rw [entriesOfJson_seenMembers members inner, spanOf?_seenMembers]
        exact congrArg (fun node => Except.ok (Value.node node))
          (Node.ofEntries_seen kind (spanOf? members) entries)

theorem itemsOfJson_seenItems (items : List Json) {values : List Value}
    (read : itemsOfJson items = .ok values) :
    itemsOfJson (seenItems semanticNumber items) = .ok (itemsSeen .semantic values) := by
  match items with
  | [] =>
      cases read
      rfl
  | item :: rest =>
      obtain ⟨first, others, firstRead, othersRead, rfl⟩ := itemsOfJson_cons_eq_ok read
      rw [seenItems, itemsOfJson, Value.ofJson_seenDocument item firstRead,
        itemsOfJson_seenItems rest othersRead]
      rfl

theorem entriesOfJson_seenMembers (members : List (String × Json))
    {entries : List (String × Value)} (read : entriesOfJson members = .ok entries) :
    entriesOfJson (seenMembers semanticNumber members) = .ok (entriesSeen .semantic entries) := by
  match members with
  | [] =>
      cases read
      rfl
  | (name, json) :: rest =>
      obtain ⟨first, others, firstRead, othersRead, rfl⟩ := entriesOfJson_cons_eq_ok read
      have later := entriesOfJson_seenMembers rest othersRead
      rw [seenMembers, entriesSeen]
      -- A member under a metadata name is read as well, but nothing is seen of it.
      cases named : isMetadataName name with
      | true =>
          have hidden : Screen.semantic.hidden name = true := named
          rw [if_pos rfl, if_pos hidden, later]
      | false =>
          have shown : ¬Screen.semantic.hidden name = true := by simp [Screen.semantic, named]
          rw [if_neg Bool.false_ne_true, if_neg shown, entriesOfJson,
            Value.ofJson_seenDocument json firstRead, later]

end

/-- Trees that comparison sees alike share their canonical text, among them trees that are equal
without their positions, metadata and entries under metadata names.  The same holds of the trees
that are read from documents that comparison sees alike, among them documents that are the same
without their members under metadata names. -/
theorem canonicalText_of_seen :
    (∀ left right : Node, left.seen .semantic = right.seen .semantic →
      left.canonicalText = right.canonicalText) ∧
    (∀ left right : Node,
      (left.strip isMetadataName).equal (right.strip isMetadataName) = true →
        left.canonicalText = right.canonicalText) ∧
    ∀ (left right : Json) (leftTree rightTree : Node), Node.ofJson left = .ok leftTree →
      Node.ofJson right = .ok rightTree →
        (seenDocument semanticNumber left = seenDocument semanticNumber right →
          leftTree.canonicalText = rightTree.canonicalText) ∧
        (withoutMetadata left = withoutMetadata right →
          leftTree.canonicalText = rightTree.canonicalText) := by
  have texts (left right : Node) (same : left.seen .semantic = right.seen .semantic) :
      left.canonicalText = right.canonicalText := by
    rw [← left.canonicalText_seen Screen.faithful_semantic, same,
      right.canonicalText_seen Screen.faithful_semantic]
  refine ⟨texts, ?_, ?_⟩
  · intro left right same
    have covers : Covers isMetadataName := fun _ named => named
    rw [← left.canonicalText_strip covers, ← right.canonicalText_strip covers]
    exact texts _ _ (Node.seen_of_equal _ _ same)
  · intro left right leftTree rightTree leftRead rightRead
    have read (same : seenDocument semanticNumber left = seenDocument semanticNumber right) :
        leftTree.canonicalText = rightTree.canonicalText := by
      have leftSeen := Value.ofJson_seenDocument left (Node.ofJson_eq_ok_iff.1 leftRead)
      have rightSeen := Value.ofJson_seenDocument right (Node.ofJson_eq_ok_iff.1 rightRead)
      rw [same, rightSeen] at leftSeen
      exact texts _ _ (Value.node.inj (Except.ok.inj leftSeen)).symm
    refine ⟨read, fun same => read ?_⟩
    rw [← seenDocument_seen semanticNumber left, ← seenDocument_seen semanticNumber right]
    exact congrArg (seenDocument semanticNumber) same

def markedProperty : Node :=
  ⟨.objectProperty, some ⟨0, 4⟩,
    [("comments", .list [.null]),
      ("key", .node ⟨.identifier, some ⟨0, 1⟩, [("loc", .null), ("name", .text "a")], []⟩),
      ("value", .map [("extra", .text "raw"), ("zero", .number (.ofCode true 0))])],
    [("extra", .bool true)]⟩

def spannedIdentifier : Json :=
  .object
    [("end", .number (.integer 2)), ("name", .string "a"), ("start", .number (.integer 1)),
      ("type", .string "Identifier")]

def startedIdentifier : Json :=
  .object
    [("name", .string "a"), ("start", .object [("type", .string "Position")]),
      ("type", .string "Identifier")]

theorem canonicalText_of_seen_marked :
    markedProperty.canonicalText =
      (⟨.objectProperty, none,
        [("key", .node ⟨.identifier, none, [("name", .text "a")], []⟩),
          ("value", .map [("zero", .number (.ofCode false 0))])], []⟩ : Node).canonicalText ∧
    ∃ left right, Node.ofJson spannedIdentifier = .ok left ∧
      Node.ofJson startedIdentifier = .ok right ∧ left.span = some ⟨1, 2⟩ ∧ right.span = none ∧
      left.canonicalText = right.canonicalText := by
  constructor
  · exact canonicalText_of_seen.2.1 _ _ (by decide +kernel)
  · refine ⟨_, _, rfl, rfl, rfl, rfl, ?_⟩
    exact (canonicalText_of_seen.2.2 spannedIdentifier startedIdentifier _ _ rfl rfl).2 rfl

end Ast

end Reparse
