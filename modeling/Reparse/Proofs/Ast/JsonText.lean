import Reparse.Proofs.Ast.Boundary
import Reparse.Proofs.Ast.Reading
import Reparse.Proofs.Binary64.Denotation
import Reparse.Proofs.Json.Grammar
import Reparse.Proofs.Json.Valid

namespace Reparse

namespace Ast

open Json (joined memberText IsValueText)

mutual

/-- The numbers that stand in the text of a node. -/
def Node.numbers : Node → List Binary64
  | ⟨_, _, fields, _⟩ => entriesNumbers fields

def Value.numbers : Value → List Binary64
  | .number x => [x]
  | .list items => itemsNumbers items
  | .map entries => entriesNumbers entries
  | .node node => node.numbers
  | _ => []

def itemsNumbers : List Value → List Binary64
  | [] => []
  | item :: rest => item.numbers ++ itemsNumbers rest

def entriesNumbers : List (String × Value) → List Binary64
  | [] => []
  | (name, value) :: rest =>
      if isMetadataName name then entriesNumbers rest else value.numbers ++ entriesNumbers rest

end

theorem mem_entriesNumbers {x : Binary64} {entries : List (String × Value)} :
    x ∈ entriesNumbers entries ↔
      ∃ entry ∈ entries, isMetadataName entry.1 = false ∧ x ∈ entry.2.numbers := by
  induction entries with
  | nil => simp [entriesNumbers]
  | cons entry rest induction =>
      obtain ⟨name, value⟩ := entry
      rw [entriesNumbers]
      cases named : isMetadataName name with
      | true => simp [named, induction]
      | false => simp [named, induction]

theorem itemsText_eq (items : List Value) :
    itemsText items = joined (items.map Value.plainText) := by
  induction items with
  | nil => rfl
  | cons item rest induction =>
      cases rest with
      | nil => simp [itemsText, joined]
      | cons next rest =>
          rw [itemsText, induction]
          exact (Json.joined_cons_cons _ _ _).symm

theorem fieldsText_eq (entries : List (String × Value)) :
    fieldsText entries = (fieldTexts entries).flatMap fun member => ',' :: memberText member :=
  fieldsText_eq_flatMap entries

theorem fieldTexts_cons_of_metadata {name : String} (named : isMetadataName name = true)
    (value : Value) (rest : List (String × Value)) :
    fieldTexts ((name, value) :: rest) = fieldTexts rest := by
  simp [fieldTexts, semanticEntries, named]

theorem fieldTexts_cons_of_semantic {name : String} (named : isMetadataName name = false)
    (value : Value) (rest : List (String × Value)) :
    fieldTexts ((name, value) :: rest) = (name, value.plainText) :: fieldTexts rest := by
  simp [fieldTexts, semanticEntries, named]

theorem entriesText_eq (entries : List (String × Value)) :
    entriesText entries = joined ((fieldTexts entries).map memberText) := by
  induction entries with
  | nil => rfl
  | cons entry rest induction =>
      obtain ⟨name, value⟩ := entry
      rw [entriesText]
      cases named : isMetadataName name with
      | true =>
          rw [if_pos rfl, induction, fieldTexts_cons_of_metadata named]
      | false =>
          rw [if_neg Bool.false_ne_true, fieldsText_eq]
          rw [fieldTexts_cons_of_semantic named, List.map_cons, joined, List.flatMap_map]
          simp [memberText]

def nodeTexts (kind : Kind) (fields : List (String × Value)) : List (String × List Char) :=
  ("type", Quoted.encode kind.name.toList) :: fieldTexts fields

theorem Node.plainText_eq (kind : Kind) (span : Option Span)
    (fields metadata : List (String × Value)) :
    (Node.mk kind span fields metadata).plainText =
      '\x7b' :: joined ((nodeTexts kind fields).map memberText) ++ ['\x7d'] := by
  rw [plainText, fieldsText_eq, nodeTexts, List.map_cons, joined, List.flatMap_map]
  simp [memberText]

mutual

theorem Node.isValueText (node : Node) (finite : ∀ x ∈ node.numbers, x.isFinite = true) :
    IsValueText node.plainText := by
  cases node with
  | mk kind span fields metadata =>
      rw [Node.plainText_eq]
      refine Json.isValueText_object (List.forall_mem_cons.2 ⟨?_, ?_⟩)
      · exact .string (Json.isStringText_encode _)
      · exact isValueText_fieldTexts fields finite

theorem Value.isValueText (value : Value) (finite : ∀ x ∈ value.numbers, x.isFinite = true) :
    IsValueText value.plainText := by
  cases value with
  | null => exact .null
  | bool value =>
      cases value with
      | false => exact .false
      | true => exact .true
  | number x =>
      obtain ⟨numeral, text⟩ := Binary64.exists_numeral (finite x List.mem_cons_self)
      rw [Value.plainText, ← text]
      exact .number numeral
  | text text => exact .string (Json.isStringText_encode _)
  | list items =>
      rw [Value.plainText, itemsText_eq]
      exact .array _ (isValueText_items items finite)
  | map entries =>
      rw [Value.plainText, entriesText_eq]
      exact Json.isValueText_object (isValueText_fieldTexts entries finite)
  | node node => exact Node.isValueText node finite

theorem isValueText_items (items : List Value)
    (finite : ∀ x ∈ itemsNumbers items, x.isFinite = true) :
    ∀ text ∈ items.map Value.plainText, IsValueText text := by
  match items with
  | [] => simp
  | item :: rest =>
      obtain ⟨first, others⟩ := List.forall_mem_append.1 finite
      exact List.forall_mem_cons.2
        ⟨Value.isValueText item first, isValueText_items rest others⟩

theorem isValueText_fieldTexts (entries : List (String × Value))
    (finite : ∀ x ∈ entriesNumbers entries, x.isFinite = true) :
    ∀ member ∈ fieldTexts entries, IsValueText member.2 := by
  match entries with
  | [] => simp [fieldTexts, semanticEntries]
  | (name, value) :: rest =>
      rw [entriesNumbers] at finite
      cases named : isMetadataName name with
      | true =>
          rw [named, if_pos rfl] at finite
          rw [fieldTexts_cons_of_metadata named]
          exact isValueText_fieldTexts rest finite
      | false =>
          rw [named, if_neg Bool.false_ne_true] at finite
          obtain ⟨first, others⟩ := List.forall_mem_append.1 finite
          rw [fieldTexts_cons_of_semantic named]
          exact List.forall_mem_cons.2
            ⟨Value.isValueText value first, isValueText_fieldTexts rest others⟩

end

theorem Node.numbers_ofEntries (kind : String) (span : Option Span)
    {entries : List (String × Value)} {x : Binary64}
    (member : x ∈ (ofEntries kind span entries).numbers) : x ∈ entriesNumbers entries := by
  have inside : x ∈ entriesNumbers (ofEntries kind span entries).fields := member
  rw [fields_ofEntries] at inside
  obtain ⟨entry, kept, semantic, within⟩ := mem_entriesNumbers.1 inside
  exact mem_entriesNumbers.2 ⟨entry, (List.mem_filter.1 kept).1, semantic, within⟩

mutual

/-- The numbers of what is read from a document are finite. -/
theorem Value.finite_ofJson (json : Json) (valid : json.Valid) {value : Value}
    (read : Value.ofJson json = .ok value) : ∀ x ∈ value.numbers, x.isFinite = true := by
  cases json with
  | null | bool | string =>
      cases read
      intro x member
      contradiction
  | number number =>
      cases read
      intro x member
      obtain rfl := List.mem_singleton.1 member
      exact JsonNumber.Valid.isFinite_toBinary64 valid
  | array items =>
      obtain ⟨values, inner, rfl⟩ := exists_of_map_eq_ok read
      exact finite_itemsOfJson items valid inner
  | object members =>
      obtain ⟨entries, inner, ⟨-, rfl⟩ | ⟨kind, -, rfl⟩⟩ := Value.ofJson_object_eq_ok read
      · exact finite_entriesOfJson members valid.2 inner
      · intro x member
        exact finite_entriesOfJson members valid.2 inner x
          (Node.numbers_ofEntries kind (spanOf? members) member)

theorem finite_itemsOfJson (items : List Json) (valid : ItemsValid items) {values : List Value}
    (read : itemsOfJson items = .ok values) : ∀ x ∈ itemsNumbers values, x.isFinite = true := by
  match items with
  | [] =>
      cases read
      intro x member
      contradiction
  | item :: rest =>
      obtain ⟨first, others, firstRead, othersRead, rfl⟩ := itemsOfJson_cons_eq_ok read
      exact List.forall_mem_append.2
        ⟨Value.finite_ofJson item valid.1 firstRead, finite_itemsOfJson rest valid.2 othersRead⟩

theorem finite_entriesOfJson (members : List (String × Json)) (valid : MembersValid members)
    {entries : List (String × Value)} (read : entriesOfJson members = .ok entries) :
    ∀ x ∈ entriesNumbers entries, x.isFinite = true := by
  match members with
  | [] =>
      cases read
      intro x member
      contradiction
  | (name, json) :: rest =>
      obtain ⟨first, others, firstRead, othersRead, rfl⟩ := entriesOfJson_cons_eq_ok read
      have later := finite_entriesOfJson rest valid.2 othersRead
      rw [entriesNumbers]
      split
      · exact later
      · exact List.forall_mem_append.2 ⟨Value.finite_ofJson json valid.1 firstRead, later⟩

end

theorem mem_numbers_of_find? {entries : List (String × Value)} {name : String} {value : Value}
    {x : Binary64} (found : Dictionary.find? entries name = some value)
    (semantic : isMetadataName name = false) (member : x ∈ value.numbers) :
    x ∈ entriesNumbers entries :=
  mem_entriesNumbers.2 ⟨_, Dictionary.mem_of_find? found, semantic, member⟩

theorem mem_numbers_of_replace {entries : List (String × Value)} {name : String} {value : Value}
    {x : Binary64} (member : x ∈ entriesNumbers (Dictionary.replace entries name value)) :
    x ∈ entriesNumbers entries ∨ x ∈ value.numbers := by
  obtain ⟨entry, kept, semantic, within⟩ := mem_entriesNumbers.1 member
  rcases Dictionary.mem_of_mem_replace kept with old | rfl
  · exact .inl (mem_entriesNumbers.2 ⟨entry, old, semantic, within⟩)
  · exact .inr within

theorem Node.mem_numbers_leftNest {first second : Value} {rest : List Value} {x : Binary64}
    (member : x ∈ itemsNumbers (leftNest first second rest)) :
    x ∈ itemsNumbers (first :: second :: rest) := by
  induction rest generalizing first second with
  | nil => exact member
  | cons next rest induction =>
      have inside := induction member
      have expressions : isMetadataName "expressions" = false := by decide
      have pair :
          (Value.node (sequence [first, second])).numbers = first.numbers ++ second.numbers := by
        simp [Value.numbers, Node.numbers, sequence, bare, entriesNumbers, itemsNumbers,
          expressions]
      rw [itemsNumbers, pair] at inside
      simpa [itemsNumbers] using inside

theorem Node.mem_numbers_reshape {node : Node} {x : Binary64}
    (member : x ∈ node.reshape.numbers) : x ∈ node.numbers := by
  obtain ⟨kind, span, fields, metadata⟩ := node
  unfold reshape nestExpressions spellKey at member
  split at member
  · split at member
    · next first second third rest found =>
        rcases mem_numbers_of_replace member with old | new
        · exact old
        · exact mem_numbers_of_find? found (by decide) (mem_numbers_leftNest new)
    · exact member
  · split at member
    · split at member
      · next text spelled =>
          rcases mem_numbers_of_replace member with old | new
          · exact old
          · have value : isMetadataName "value" = false := by decide
            simp [Value.numbers, numbers, stringLiteral, bare, entriesNumbers, value] at new
      · exact member
    · exact member

mutual

theorem Node.mem_numbers_normalForm (node : Node) {x : Binary64}
    (member : x ∈ node.normalForm.numbers) : x ∈ node.numbers := by
  cases node with
  | mk kind span fields metadata =>
      exact mem_numbers_entriesNormalForm fields (Node.mem_numbers_reshape member)

theorem Value.mem_numbers_normalForm (value : Value) {x : Binary64}
    (member : x ∈ value.normalForm.numbers) : x ∈ value.numbers := by
  cases value with
  | list items => exact mem_numbers_itemsNormalForm items member
  | map entries => exact mem_numbers_entriesNormalForm entries member
  | node node => exact Node.mem_numbers_normalForm node member
  | null | bool | number | text => exact member

theorem mem_numbers_itemsNormalForm (items : List Value) {x : Binary64}
    (member : x ∈ itemsNumbers (itemsNormalForm items)) : x ∈ itemsNumbers items := by
  match items with
  | [] => exact member
  | item :: rest =>
      rcases List.mem_append.1 member with first | later
      · exact List.mem_append_left _ (Value.mem_numbers_normalForm item first)
      · exact List.mem_append_right _ (mem_numbers_itemsNormalForm rest later)

theorem mem_numbers_entriesNormalForm (entries : List (String × Value)) {x : Binary64}
    (member : x ∈ entriesNumbers (entriesNormalForm entries)) : x ∈ entriesNumbers entries := by
  match entries with
  | [] => exact member
  | (name, value) :: rest =>
      rw [entriesNormalForm, entriesNumbers] at member
      rw [entriesNumbers]
      split at member
      · next named =>
          rw [if_pos named]
          exact mem_numbers_entriesNormalForm rest member
      · next named =>
          rw [if_neg named]
          rcases List.mem_append.1 member with first | later
          · exact List.mem_append_left _ (Value.mem_numbers_normalForm value first)
          · exact List.mem_append_right _ (mem_numbers_entriesNormalForm rest later)

end

end Ast

end Reparse
