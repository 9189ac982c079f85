import Reparse.Proofs.Ast.Meaning
import Reparse.Proofs.Ast.NormalForm
import Reparse.Proofs.Ast.Reading
import Reparse.Proofs.Json.Quoted

/-!
The canonical text of a tree is exact: two trees share it when, and only when, nothing is left of
their normal forms in which they differ.

Every part of a text tells where it ends, numbers by the mark that follows them, so the parts are
compared from the front to the back.
-/

namespace Reparse

namespace Ast

mutual

/-- The text of a tree is the text of what erasing leaves of it. -/
theorem Node.plainText_erase (node : Node) : node.erase.plainText = node.plainText := by
  cases node with
  | mk kind span fields metadata =>
      simp [Node.erase, Node.plainText, fieldsText_erase fields]

theorem Value.plainText_erase (value : Value) : value.erase.plainText = value.plainText := by
  cases value with
  | number value => simp [Value.erase, Value.plainText, Binary64.scriptText_representative]
  | list items => simp [Value.erase, Value.plainText, itemsText_erase items]
  | map entries => simp [Value.erase, Value.plainText, entriesText_erase entries]
  | node node => simp [Value.erase, Value.plainText, Node.plainText_erase node]
  | null | bool | text => rfl

theorem itemsText_erase (items : List Value) : itemsText (itemsErase items) = itemsText items := by
  match items with
  | [] => rfl
  | [item] => simp [itemsErase, itemsText, Value.plainText_erase item]
  | item :: next :: rest =>
      have others := itemsText_erase (next :: rest)
      simp only [itemsErase] at others
      simp [itemsErase, itemsText, Value.plainText_erase item, others]

theorem fieldsText_erase (entries : List (String × Value)) :
    fieldsText (entriesErase entries) = fieldsText entries := by
  match entries with
  | [] => rfl
  | (name, value) :: rest =>
      simp only [entriesErase, fieldsText]
      split
      · exact fieldsText_erase rest
      · next kept => simp [fieldsText, kept, Value.plainText_erase value, fieldsText_erase rest]

theorem entriesText_erase (entries : List (String × Value)) :
    entriesText (entriesErase entries) = entriesText entries := by
  match entries with
  | [] => rfl
  | (name, value) :: rest =>
      simp only [entriesErase, entriesText]
      split
      · exact entriesText_erase rest
      · next kept => simp [entriesText, kept, Value.plainText_erase value, fieldsText_erase rest]

end

def isEnd (c : Char) : Bool :=
  c == ',' || c == ']' || c == '\x7d'

def EndsValue (text : List Char) : Prop :=
  ∀ c ∈ text.head?, isEnd c = true

/-- What a number text is cut off by does not belong to it. -/
theorem append_inj_of_endsValue {left right leftRest rightRest : List Char}
    (leftInside : ∀ c ∈ left, isEnd c = false) (rightInside : ∀ c ∈ right, isEnd c = false)
    (leftEnds : EndsValue leftRest) (rightEnds : EndsValue rightRest)
    (same : left ++ leftRest = right ++ rightRest) : left = right ∧ leftRest = rightRest := by
  have cut {inside rest : List Char} (plain : ∀ c ∈ inside, isEnd c = false)
      (ends : EndsValue rest) : (inside ++ rest).takeWhile (fun c => !isEnd c) = inside := by
    refine (Decimal.span_append (fun c member => ?_) (fun c first => ?_)).1
    · simpa using plain c member
    · simpa using ends c first
  have front : left = right := by
    rw [← cut leftInside leftEnds, same, cut rightInside rightEnds]
  subst front
  exact ⟨rfl, List.append_cancel_left same⟩

theorem isEnd_scriptText {x : Binary64} {c : Char} (member : c ∈ x.scriptText) :
    isEnd c = false := by
  rcases Binary64.mem_scriptText member with digit | mark
  · have comma : c ≠ ',' := Decimal.isDigit_ne digit (by decide)
    have bracket : c ≠ ']' := Decimal.isDigit_ne digit (by decide)
    have brace : c ≠ '\x7d' := Decimal.isDigit_ne digit (by decide)
    simp [isEnd, comma, bracket, brace]
  · have marks : ∀ c ∈ Binary64.numberMarks, isEnd c = false :=
      List.all_iff_forall_prop.1 (by decide)
    exact marks c mark

/-- The shapes of values that their texts begin in different ways with. -/
inductive Shape where
  | null
  | bool
  | number
  | text
  | list
  | object
deriving DecidableEq

def Value.shape : Value → Shape
  | .null => .null
  | .bool _ => .bool
  | .number _ => .number
  | .text _ => .text
  | .list _ => .list
  | .map _ => .object
  | .node _ => .object

def Shape.ofLead? (c : Char) : Option Shape :=
  if isEnd c then none
  else if c = 'n' then some .null
  else if c = 't' ∨ c = 'f' then some .bool
  else if c = '"' then some .text
  else if c = '[' then some .list
  else if c = '\x7b' then some .object
  else some .number

theorem Shape.ofLead?_number {c : Char} (begun : c.isDigit = true ∨ c ∈ ['-', 'N', 'I']) :
    ofLead? c = some .number := by
  rcases begun with digit | mark
  · have other {d : Char} (letter : d.isDigit = false) : c ≠ d := Decimal.isDigit_ne digit letter
    simp [ofLead?, isEnd, other (d := ',') (by decide), other (d := ']') (by decide),
      other (d := '\x7d') (by decide), other (d := 'n') (by decide),
      other (d := 't') (by decide), other (d := 'f') (by decide), other (d := '"') (by decide),
      other (d := '[') (by decide), other (d := '\x7b') (by decide)]
  · have marks : ∀ c ∈ ['-', 'N', 'I'], ofLead? c = some .number :=
      List.all_iff_forall_prop.1 (by decide)
    exact marks c mark

theorem Value.plainText_eq_cons (value : Value) :
    ∃ lead rest, value.plainText = lead :: rest ∧ Shape.ofLead? lead = some value.shape := by
  cases value with
  | null => exact ⟨_, _, rfl, by decide⟩
  | bool value => cases value <;> exact ⟨_, _, rfl, by decide⟩
  | number value =>
      obtain ⟨lead, rest, text, begun⟩ := value.scriptText_eq_cons
      exact ⟨lead, rest, text, Shape.ofLead?_number begun⟩
  | text value => exact ⟨_, _, rfl, rfl⟩
  | list items => exact ⟨_, _, rfl, rfl⟩
  | map entries => exact ⟨_, _, rfl, rfl⟩
  | node node =>
      cases node
      exact ⟨_, _, rfl, rfl⟩

theorem Value.shape_eq_of_plainText {left right : Value} {leftRest rightRest : List Char}
    (same : left.plainText ++ leftRest = right.plainText ++ rightRest) :
    left.shape = right.shape := by
  obtain ⟨leftLead, _, leftText, leftShape⟩ := left.plainText_eq_cons
  obtain ⟨rightLead, _, rightText, rightShape⟩ := right.plainText_eq_cons
  rw [leftText, rightText] at same
  obtain rfl := (List.cons.inj same).1
  exact Option.some.inj (leftShape.symm.trans rightShape)

theorem Value.isEnd_lead {value : Value} {lead : Char} {rest following : List Char}
    (text : value.plainText ++ following = lead :: rest) : isEnd lead = false := by
  obtain ⟨first, _, parts, shape⟩ := value.plainText_eq_cons
  rw [parts] at text
  obtain rfl := (List.cons.inj text).1
  cases ends : isEnd first with
  | false => rfl
  | true => simp [Shape.ofLead?, ends] at shape

theorem itemsText_cons (item : Value) (rest : List Value) :
    itemsText (item :: rest) =
      item.plainText ++ (if rest = [] then [] else ',' :: itemsText rest) := by
  cases rest with
  | nil => simp [itemsText]
  | cons next rest => simp [itemsText]

/-- Fields without a semantic entry have no text; others begin with the text of the first. -/
theorem fieldsText_cases (entries : List (String × Value)) :
    (fieldsText entries = [] ∧ entriesErase entries = []) ∨
      ∃ (name : String) (value : Value) (rest : List (String × Value)),
        fieldsText entries =
            ',' :: (Quoted.encode name.toList ++ ':' :: (value.plainText ++ fieldsText rest)) ∧
          entriesErase entries = (name, value.erase) :: entriesErase rest ∧
          (EntriesMeet .mapsUntyped entries →
            value.MapsUntyped ∧ EntriesMeet .mapsUntyped rest) := by
  induction entries with
  | nil => exact .inl ⟨rfl, rfl⟩
  | cons entry rest induction =>
      obtain ⟨name, value⟩ := entry
      simp only [fieldsText, entriesErase]
      split
      · rcases induction with none | ⟨other, first, others, text, erased, untyped⟩
        · exact .inl none
        · exact .inr ⟨other, first, others, text, erased, fun all => untyped all.2⟩
      · exact .inr ⟨name, value, rest, by simp, rfl, id⟩

theorem entriesText_cases (entries : List (String × Value)) :
    (entriesText entries = [] ∧ entriesErase entries = []) ∨
      ∃ (name : String) (value : Value) (rest : List (String × Value)),
        entriesText entries =
            Quoted.encode name.toList ++ ':' :: (value.plainText ++ fieldsText rest) ∧
          entriesErase entries = (name, value.erase) :: entriesErase rest ∧
          (EntriesMeet .mapsUntyped entries → value.MapsUntyped ∧ EntriesMeet .mapsUntyped rest) ∧
          (Dictionary.contains entries "type" = false → name ≠ "type") := by
  induction entries with
  | nil => exact .inl ⟨rfl, rfl⟩
  | cons entry rest induction =>
      obtain ⟨name, value⟩ := entry
      have later (absent : Dictionary.contains ((name, value) :: rest) "type" = false) :
          name ≠ "type" ∧ Dictionary.contains rest "type" = false := by
        simp only [Dictionary.contains, Dictionary.find?_cons] at absent ⊢
        split at absent
        · contradiction
        · next different => exact ⟨different, absent⟩
      simp only [entriesText, entriesErase]
      split
      · rcases induction with none | ⟨other, first, others, text, erased, untyped, named⟩
        · exact .inl none
        · exact .inr ⟨other, first, others, text, erased, fun all => untyped all.2,
            fun absent => named (later absent).2⟩
      · exact .inr ⟨name, value, rest, by simp, rfl, id, fun absent => (later absent).1⟩

theorem endsValue_fieldsText (entries : List (String × Value)) (rest : List Char) :
    EndsValue (fieldsText entries ++ '\x7d' :: rest) := by
  rcases fieldsText_cases entries with ⟨text, -⟩ | ⟨_, _, _, text, -⟩
  · rw [text]
    simp [EndsValue, isEnd]
  · rw [text]
    simp [EndsValue, isEnd]

theorem endsValue_itemsText (rest : List Value) (following : List Char) :
    EndsValue ((if rest = [] then [] else ',' :: itemsText rest) ++ ']' :: following) := by
  split
  · simp [EndsValue, isEnd]
  · simp [EndsValue, isEnd]

/-- A map without a kind does not look like a node. -/
theorem entriesText_ne_nodeText {entries : List (String × Value)} {node : Node}
    {leftRest rightRest : List Char} (absent : Dictionary.contains entries "type" = false) :
    (Value.map entries).plainText ++ leftRest ≠ node.plainText ++ rightRest := by
  obtain ⟨kind, span, fields, metadata⟩ := node
  intro same
  simp only [Value.plainText, Node.plainText, List.cons_append, List.append_assoc,
    List.cons.injEq, true_and] at same
  rcases entriesText_cases entries with ⟨text, -⟩ | ⟨name, value, rest, text, -, -, named⟩
  · rw [text] at same
    exact absurd (List.cons.inj same).1 (by decide)
  · rw [text, List.append_assoc] at same
    have names := (Quoted.encode_append_inj same).1
    exact named absent (String.toList_inj.1 names)

theorem entryText_append_inj {leftName rightName : String} {left right : Value}
    {lefts rights : List (String × Value)} {leftRest rightRest : List Char}
    (valueInj : ∀ {leftRest rightRest}, EndsValue leftRest → EndsValue rightRest →
      left.plainText ++ leftRest = right.plainText ++ rightRest →
        left.erase = right.erase ∧ leftRest = rightRest)
    (fieldsInj : fieldsText lefts ++ '\x7d' :: leftRest = fieldsText rights ++ '\x7d' :: rightRest →
      entriesErase lefts = entriesErase rights ∧ leftRest = rightRest)
    (same : (Quoted.encode leftName.toList ++ ':' :: (left.plainText ++ fieldsText lefts)) ++
        '\x7d' :: leftRest =
      (Quoted.encode rightName.toList ++ ':' :: (right.plainText ++ fieldsText rights)) ++
        '\x7d' :: rightRest) :
    (leftName, left.erase) :: entriesErase lefts =
        (rightName, right.erase) :: entriesErase rights ∧
      leftRest = rightRest := by
  simp only [List.append_assoc, List.cons_append] at same
  obtain ⟨names, values⟩ := Quoted.encode_append_inj same
  obtain ⟨erased, fields⟩ :=
    valueInj (endsValue_fieldsText lefts leftRest) (endsValue_fieldsText rights rightRest)
      (List.cons.inj values).2
  obtain ⟨others, rests⟩ := fieldsInj fields
  rw [String.toList_inj.1 names, erased, others]
  exact ⟨rfl, rests⟩

mutual

theorem Node.plainText_append_inj (left right : Node) (leftMaps : left.MapsUntyped)
    (rightMaps : right.MapsUntyped) {leftRest rightRest : List Char}
    (same : left.plainText ++ leftRest = right.plainText ++ rightRest) :
    left.erase = right.erase ∧ leftRest = rightRest := by
  cases left with
  | mk leftKind leftSpan leftFields leftMetadata =>
      cases right with
      | mk rightKind rightSpan rightFields rightMetadata =>
          simp only [Node.plainText, List.cons_append, List.append_assoc, List.cons.injEq,
            true_and, List.nil_append] at same
          have kinds := (List.cons.inj (List.append_cancel_left same)).2
          obtain ⟨names, fields⟩ := Quoted.encode_append_inj kinds
          obtain ⟨erased, rests⟩ :=
            fieldsText_append_inj leftFields rightFields leftMaps.2.1 rightMaps.2.1 fields
          simp only [Node.erase, String.toList_inj.1 names, erased]
          exact ⟨trivial, rests⟩
termination_by structural left

theorem Value.plainText_append_inj (left right : Value) (leftMaps : left.MapsUntyped)
    (rightMaps : right.MapsUntyped) {leftRest rightRest : List Char}
    (leftEnds : EndsValue leftRest) (rightEnds : EndsValue rightRest)
    (same : left.plainText ++ leftRest = right.plainText ++ rightRest) :
    left.erase = right.erase ∧ leftRest = rightRest := by
  have shapes := Value.shape_eq_of_plainText same
  cases left with
  | null =>
      cases right with
      | null => exact ⟨rfl, List.append_cancel_left same⟩
      | _ => simp [Value.shape] at shapes
  | bool left =>
      cases right with
      | bool right =>
          cases left <;> cases right <;> simp_all [Value.plainText, Value.erase]
      | _ => simp [Value.shape] at shapes
  | number left =>
      cases right with
      | number right =>
          obtain ⟨texts, rests⟩ :=
            append_inj_of_endsValue (fun _ => isEnd_scriptText) (fun _ => isEnd_scriptText)
              leftEnds rightEnds same
          simp only [Value.erase, (Binary64.scriptText_eq_iff left right).1 texts]
          exact ⟨trivial, rests⟩
      | _ => simp [Value.shape] at shapes
  | text left =>
      cases right with
      | text right =>
          obtain ⟨texts, rests⟩ := Quoted.encode_append_inj same
          rw [String.toList_inj.1 texts]
          exact ⟨rfl, rests⟩
      | _ => simp [Value.shape] at shapes
  | list left =>
      cases right with
      | list right =>
          simp only [Value.plainText, List.cons_append, List.append_assoc, List.cons.injEq,
            true_and, List.nil_append] at same
          obtain ⟨erased, rests⟩ := itemsText_append_inj left right leftMaps rightMaps same
          simp only [Value.erase, erased]
          exact ⟨trivial, rests⟩
      | _ => simp [Value.shape] at shapes
  | map left =>
      cases right with
      | map right =>
          simp only [Value.plainText, List.cons_append, List.append_assoc, List.cons.injEq,
            true_and, List.nil_append] at same
          obtain ⟨erased, rests⟩ := entriesText_append_inj left right leftMaps.2 rightMaps.2 same
          simp only [Value.erase, erased]
          exact ⟨trivial, rests⟩
      | node right => exact absurd same (entriesText_ne_nodeText leftMaps.1)
      | _ => simp [Value.shape] at shapes
  | node left =>
      cases right with
      | map right => exact absurd same.symm (entriesText_ne_nodeText rightMaps.1)
      | node right =>
          obtain ⟨erased, rests⟩ := Node.plainText_append_inj left right leftMaps rightMaps same
          simp only [Value.erase, erased]
          exact ⟨trivial, rests⟩
      | _ => simp [Value.shape] at shapes
termination_by structural left

theorem itemsText_append_inj (left right : List Value) (leftMaps : ItemsMeet .mapsUntyped left)
    (rightMaps : ItemsMeet .mapsUntyped right) {leftRest rightRest : List Char}
    (same : itemsText left ++ ']' :: leftRest = itemsText right ++ ']' :: rightRest) :
    itemsErase left = itemsErase right ∧ leftRest = rightRest := by
  match left, right with
  | [], [] => exact ⟨rfl, (List.cons.inj same).2⟩
  | [], item :: rest =>
      rw [itemsText_cons, List.append_assoc] at same
      exact absurd (Value.isEnd_lead same.symm) (by decide)
  | item :: rest, [] =>
      rw [itemsText_cons, List.append_assoc] at same
      exact absurd (Value.isEnd_lead same) (by decide)
  | left :: lefts, right :: rights =>
      rw [itemsText_cons, itemsText_cons, List.append_assoc, List.append_assoc] at same
      obtain ⟨erased, rests⟩ :=
        Value.plainText_append_inj left right leftMaps.1 rightMaps.1
          (endsValue_itemsText lefts leftRest) (endsValue_itemsText rights rightRest) same
      simp only [itemsErase, erased]
      match lefts, rights with
      | [], [] => exact ⟨rfl, (List.cons.inj rests).2⟩
      | [], _ :: _ => exact absurd (List.cons.inj rests).1 (by decide)
      | _ :: _, [] => exact absurd (List.cons.inj rests).1 (by decide)
      | leftNext :: lefts, rightNext :: rights =>
          obtain ⟨others, rests⟩ :=
            itemsText_append_inj (leftNext :: lefts) (rightNext :: rights) leftMaps.2 rightMaps.2
              (List.cons.inj rests).2
          rw [others]
          exact ⟨rfl, rests⟩
termination_by structural left

theorem fieldsText_append_inj (left right : List (String × Value))
    (leftMaps : EntriesMeet .mapsUntyped left) (rightMaps : EntriesMeet .mapsUntyped right)
    {leftRest rightRest : List Char}
    (same : fieldsText left ++ '\x7d' :: leftRest = fieldsText right ++ '\x7d' :: rightRest) :
    entriesErase left = entriesErase right ∧ leftRest = rightRest := by
  match left with
  | [] =>
      rcases fieldsText_cases right with ⟨text, erased⟩ | ⟨_, _, _, text, -, -⟩
      · rw [text] at same
        exact ⟨erased.symm, (List.cons.inj same).2⟩
      · rw [text] at same
        exact absurd (List.cons.inj same).1 (by decide)
  | (name, value) :: rest =>
      simp only [fieldsText] at same
      simp only [entriesErase]
      split at same
      · next metadata =>
          rw [if_pos metadata]
          exact fieldsText_append_inj rest right leftMaps.2 rightMaps same
      · next semantic =>
          rw [if_neg semantic]
          rcases fieldsText_cases right with
            ⟨text, -⟩ | ⟨otherName, otherValue, otherRest, text, erased, untyped⟩
          · rw [text] at same
            exact absurd (List.cons.inj same).1 (by decide)
          · obtain ⟨otherMaps, restMaps⟩ := untyped rightMaps
            rw [erased]
            rw [text] at same
            simp only [List.cons_append, List.cons.injEq, true_and] at same
            exact entryText_append_inj
              (Value.plainText_append_inj value otherValue leftMaps.1 otherMaps)
              (fieldsText_append_inj rest otherRest leftMaps.2 restMaps)
              (by simpa using same)
termination_by structural left

theorem entriesText_append_inj (left right : List (String × Value))
    (leftMaps : EntriesMeet .mapsUntyped left) (rightMaps : EntriesMeet .mapsUntyped right)
    {leftRest rightRest : List Char}
    (same : entriesText left ++ '\x7d' :: leftRest = entriesText right ++ '\x7d' :: rightRest) :
    entriesErase left = entriesErase right ∧ leftRest = rightRest := by
  match left with
  | [] =>
      rcases entriesText_cases right with ⟨text, erased⟩ | ⟨_, _, _, text, -, -, -⟩
      · rw [text] at same
        exact ⟨erased.symm, (List.cons.inj same).2⟩
      · rw [text] at same
        exact absurd (List.cons.inj same).1 (by decide)
  | (name, value) :: rest =>
      simp only [entriesText] at same
      simp only [entriesErase]
      split at same
      · next metadata =>
          rw [if_pos metadata]
          exact entriesText_append_inj rest right leftMaps.2 rightMaps same
      · next semantic =>
          rw [if_neg semantic]
          rcases entriesText_cases right with
            ⟨text, -⟩ | ⟨otherName, otherValue, otherRest, text, erased, untyped, -⟩
          · rw [text] at same
            exact absurd (List.cons.inj same).1 (by decide)
          · obtain ⟨otherMaps, restMaps⟩ := untyped rightMaps
            rw [erased]
            rw [text] at same
            exact entryText_append_inj
              (Value.plainText_append_inj value otherValue leftMaps.1 otherMaps)
              (fieldsText_append_inj rest otherRest leftMaps.2 restMaps)
              (by simpa using same)
termination_by structural left

end

theorem Node.plainText_inj {left right : Node} (leftMaps : left.MapsUntyped)
    (rightMaps : right.MapsUntyped) (same : left.plainText = right.plainText) :
    left.erase = right.erase := by
  have texts : left.plainText ++ [] = right.plainText ++ [] := by rw [same]
  exact (Node.plainText_append_inj left right leftMaps rightMaps texts).1

/-- Trees share their canonical text exactly when erasing leaves the same of their normal forms.
Trees read from documents meet the condition on maps. -/
theorem canonicalText_eq_iff_erase (left right : Node) (leftMaps : left.MapsUntyped)
    (rightMaps : right.MapsUntyped) :
    (left.canonicalText = right.canonicalText ↔ left.normalForm.erase = right.normalForm.erase) ∧
      (left.sameMeaning right = true ↔ left.normalForm.erase = right.normalForm.erase) ∧
      ∀ document tree, Node.ofJson document = .ok tree → tree.MapsUntyped := by
  have texts :
      left.canonicalText = right.canonicalText ↔
        left.normalForm.erase = right.normalForm.erase := by
    rw [Node.canonicalText_eq, Node.canonicalText_eq, String.ofList_inj]
    constructor
    · intro same
      exact Node.plainText_inj (left.meets_normalForm .mapsUntyped leftMaps)
        (right.meets_normalForm .mapsUntyped rightMaps) same
    · intro erased
      rw [← Node.plainText_erase, erased, Node.plainText_erase]
  refine ⟨texts, ?_, fun _ _ => Node.mapsUntyped_ofJson⟩
  rw [Node.sameMeaning, beq_iff_eq, texts]

/-- A map of negative zero beside a position has the text of a map of zero; a list of one null has
not the text of an empty list. -/
theorem canonicalText_eq_iff_erase_map :
    (⟨.other "Program", none,
        [("body", .list [.map [("end", .null), ("value", .number (.ofCode true 0))]])], []⟩ :
          Node).canonicalText =
      (⟨.other "Program", some ⟨0, 4⟩,
        [("body", .list [.map [("value", .number (.ofCode false 0))]])], []⟩ : Node).canonicalText ∧
    (⟨.other "Program", none, [("body", .list [.null])], []⟩ : Node).canonicalText ≠
      (⟨.other "Program", none, [("body", .list [])], []⟩ : Node).canonicalText := by
  constructor
  · exact (canonicalText_eq_iff_erase _ _ (by decide) (by decide)).1.2 rfl
  · intro same
    have erased := (canonicalText_eq_iff_erase _ _ (by decide) (by decide)).1.1 same
    have fields : [("body", Value.list [.null])] = [("body", Value.list [])] :=
      congrArg Node.fields erased
    exact absurd fields (by simp)

end Ast

end Reparse
