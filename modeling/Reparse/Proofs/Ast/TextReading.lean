import Reparse.Proofs.Ast.Nesting
import Reparse.Proofs.Ast.NormalForm
import Reparse.Proofs.Ast.Sequence
import Reparse.Proofs.Ast.Unmarked
import Reparse.Proofs.Json.Reads

/-!
Reading the canonical text.

The text of a value is read as a document that has its entries in their order and nothing of its
circumstances.  The tree of this document is what a reader sees who passes over metadata and takes
each number as its text is read.
-/

namespace Reparse

/-- The text of a double is a number to the reader, and the number is this double. -/
def Binary64.ReadsBack (x : Binary64) : Prop :=
  ∃ number, JsonNumber.read? x.scriptText = some (number, []) ∧ number.toBinary64.equal x = true

/-- What the text of a double is read as; the double itself where the reader fails. -/
def JsonNumber.reread (x : Binary64) : JsonNumber :=
  match read? x.scriptText with
  | some (number, []) => if number.toBinary64.equal x then number else .float x
  | _ => .float x

namespace JsonNumber

theorem read?_of_readsBack {x : Binary64} (back : x.ReadsBack) :
    read? x.scriptText = some (reread x, []) := by
  obtain ⟨number, read, same⟩ := back
  simp only [reread, read, if_pos same]

theorem reread_cases (x : Binary64) :
    (reread x).toBinary64 = x ∨ (reread x).toBinary64.equal x = true := by
  unfold reread
  split
  · split
    · next same => exact .inr same
    · exact .inl rfl
  · exact .inl rfl

theorem scriptText_reread (x : Binary64) : (reread x).toBinary64.scriptText = x.scriptText := by
  rcases reread_cases x with same | same
  · rw [same]
  · rw [← Binary64.scriptText_representative, Binary64.representative_of_equal same,
      Binary64.scriptText_representative]

theorem equal_reread {x : Binary64} (finite : x.isFinite = true) :
    (reread x).toBinary64.equal x = true := by
  rcases reread_cases x with same | same
  · rw [same]
    exact Binary64.equal_self finite
  · exact same

end JsonNumber

namespace Ast

open Json (Reads joined memberText)

mutual

def Node.document : Node → Json
  | ⟨kind, _, fields, _⟩ => .ofMembers (("type", .string kind.name) :: entriesDocument fields)

def Value.document : Value → Json
  | .null => .null
  | .bool value => .bool value
  | .number x => .number (.reread x)
  | .text text => .string text
  | .list items => .array (itemsDocument items)
  | .map entries => .ofMembers (entriesDocument entries)
  | .node node => node.document

def itemsDocument : List Value → List Json
  | [] => []
  | item :: rest => item.document :: itemsDocument rest

def entriesDocument : List (String × Value) → List (String × Json)
  | [] => []
  | (name, value) :: rest =>
      if isMetadataName name then entriesDocument rest
      else (name, value.document) :: entriesDocument rest

end

def Legible (x : Binary64) : Prop :=
  x.isFinite = true ∧ x.ReadsBack

theorem reads_number {x : Binary64} (legible : Legible x) (depth : Nat) :
    Reads depth x.scriptText (.number (.reread x)) := by
  obtain ⟨numeral, text⟩ := Binary64.exists_numeral legible.1
  have read := JsonNumber.read?_of_readsBack legible.2
  rw [← text] at read ⊢
  exact .number read

theorem reads_text (text : String) (depth : Nat) :
    Reads depth (Quoted.encode text.toList) (.string text) := by
  have read : Reads depth (Quoted.encode text.toList) (.string (String.ofList text.toList)) :=
    .string text.toList
  rwa [String.ofList_toList] at read

mutual

/-- The text of a node is read as its document where enough containers may be opened. -/
theorem Node.reads (node : Node) {depth : Nat} (deep : node.nesting ≤ depth)
    (legible : ∀ x ∈ node.numbers, Legible x) : Reads depth node.plainText node.document := by
  cases node with
  | mk kind span fields metadata =>
      rw [Node.nesting] at deep
      obtain ⟨depth, rfl⟩ : ∃ less, depth = less + 1 := ⟨depth - 1, by omega⟩
      rw [Node.plainText_eq]
      have kindRead : Reads.ReadsMember depth ("type", Quoted.encode kind.name.toList)
          ("type", .string kind.name) := ⟨rfl, reads_text kind.name depth⟩
      exact .object (.cons kindRead (reads_fieldTexts fields (by omega) legible))

theorem Value.reads (value : Value) {depth : Nat} (deep : value.nesting ≤ depth)
    (legible : ∀ x ∈ value.numbers, Legible x) : Reads depth value.plainText value.document := by
  cases value with
  | null => exact .null
  | bool value =>
      cases value with
      | false => exact .false
      | true => exact .true
  | number x => exact reads_number (legible x List.mem_cons_self) depth
  | text text => exact reads_text text depth
  | list items =>
      rw [Value.nesting] at deep
      obtain ⟨depth, rfl⟩ : ∃ less, depth = less + 1 := ⟨depth - 1, by omega⟩
      rw [Value.plainText, itemsText_eq]
      exact .array (reads_items items (by omega) legible)
  | map entries =>
      rw [Value.nesting] at deep
      obtain ⟨depth, rfl⟩ : ∃ less, depth = less + 1 := ⟨depth - 1, by omega⟩
      rw [Value.plainText, entriesText_eq]
      exact .object (reads_fieldTexts entries (by omega) legible)
  | node node => exact Node.reads node deep legible

theorem reads_items (items : List Value) {depth : Nat} (deep : itemsNesting items ≤ depth)
    (legible : ∀ x ∈ itemsNumbers items, Legible x) :
    List.Forall₂ (Reads depth) (items.map Value.plainText) (itemsDocument items) := by
  match items with
  | [] => exact .nil
  | item :: rest =>
      rw [itemsNesting] at deep
      obtain ⟨first, others⟩ := List.forall_mem_append.1 legible
      exact .cons (Value.reads item (by omega) first) (reads_items rest (by omega) others)

theorem reads_fieldTexts (entries : List (String × Value)) {depth : Nat}
    (deep : entriesNesting entries ≤ depth) (legible : ∀ x ∈ entriesNumbers entries, Legible x) :
    List.Forall₂ (Reads.ReadsMember depth) (fieldTexts entries) (entriesDocument entries) := by
  match entries with
  | [] => exact .nil
  | (name, value) :: rest =>
      rw [entriesNesting] at deep
      rw [entriesNumbers] at legible
      rw [entriesDocument]
      cases named : isMetadataName name with
      | true =>
          rw [named, if_pos rfl] at deep legible
          rw [fieldTexts_cons_of_metadata named, if_pos rfl]
          exact reads_fieldTexts rest deep legible
      | false =>
          rw [named, if_neg Bool.false_ne_true] at deep legible
          obtain ⟨first, others⟩ := List.forall_mem_append.1 legible
          rw [fieldTexts_cons_of_semantic named, if_neg Bool.false_ne_true]
          exact .cons ⟨rfl, Value.reads value (by omega) first⟩
            (reads_fieldTexts rest (by omega) others)

end

def Screen.printed : Screen where
  hidden := isMetadataName
  number := fun x => (JsonNumber.reread x).toBinary64

theorem Screen.faithful_printed : printed.Faithful where
  hidden := fun _ named => named
  number := JsonNumber.scriptText_reread

/-- Nodes and maps whose entries stand in order, and where only the kinds of nodes are told by
`type`. -/
def Condition.readable : Condition where
  onNode := fun node =>
    node.kind.Canonical ∧ Dictionary.Ordered node.fields ∧ "type" ∉ Dictionary.names node.fields
  onMap := fun entries => Dictionary.Ordered entries ∧ "type" ∉ Dictionary.names entries
  inMetadata := False

theorem entriesDocument_eq_map (entries : List (String × Value)) :
    entriesDocument entries =
      (semanticEntries entries).map fun entry => (entry.1, entry.2.document) := by
  induction entries with
  | nil => rfl
  | cons entry rest induction =>
      obtain ⟨name, value⟩ := entry
      rw [entriesDocument, induction]
      cases named : isMetadataName name with
      | true => simp [semanticEntries, named]
      | false => simp [semanticEntries, named]

theorem find?_entriesDocument (entries : List (String × Value)) (name : String) :
    Dictionary.find? (entriesDocument entries) name =
      if isMetadataName name then none
      else (Dictionary.find? entries name).map Value.document := by
  rw [entriesDocument_eq_map, Dictionary.find?_map _ fun _ => Value.document,
    find?_semanticEntries]
  split
  · rfl
  · rfl

theorem ordered_entriesDocument {entries : List (String × Value)}
    (ordered : Dictionary.Ordered entries) : Dictionary.Ordered (entriesDocument entries) := by
  rw [entriesDocument_eq_map]
  exact Dictionary.ordered_map (Dictionary.ordered_filter ordered _) fun _ => Value.document

theorem find?_type_entriesDocument {entries : List (String × Value)}
    (untyped : "type" ∉ Dictionary.names entries) :
    Dictionary.find? (entriesDocument entries) "type" = none := by
  rw [find?_entriesDocument, Dictionary.find?_eq_none_iff.2 untyped]
  rfl

theorem mem_entriesSeen_printed {entries : List (String × Value)} {entry : String × Value}
    (member : entry ∈ entriesSeen .printed entries) :
    isMetadataName entry.1 = false ∧ entry.1 ∈ Dictionary.names entries := by
  induction entries with
  | nil => contradiction
  | cons first rest induction =>
      obtain ⟨name, value⟩ := first
      rw [entriesSeen] at member
      split at member
      · exact (induction member).imp_right (List.mem_cons_of_mem name)
      · next shown =>
          rcases List.mem_cons.1 member with rfl | later
          · exact ⟨Bool.eq_false_iff.2 shown, List.mem_cons_self⟩
          · exact (induction later).imp_right (List.mem_cons_of_mem name)

theorem entriesOfJson_cons_of_ok {name : String} {json : Json} {value : Value}
    {rest : List (String × Json)} {entries : List (String × Value)}
    (first : Value.ofJson json = .ok value) (others : entriesOfJson rest = .ok entries) :
    entriesOfJson ((name, json) :: rest) = .ok ((name, value) :: entries) := by
  rw [entriesOfJson, first, others]

theorem entriesOfJson_insert {members : List (String × Json)} {entries : List (String × Value)}
    (name : String) {json : Json} {value : Value} (read : entriesOfJson members = .ok entries)
    (valueRead : Value.ofJson json = .ok value) :
    entriesOfJson (Dictionary.insert members name json) =
      .ok (Dictionary.insert entries name value) := by
  induction members generalizing entries with
  | nil =>
      cases read
      exact entriesOfJson_cons_of_ok valueRead rfl
  | cons member rest induction =>
      obtain ⟨key, old⟩ := member
      obtain ⟨first, others, firstRead, othersRead, rfl⟩ := entriesOfJson_cons_eq_ok read
      simp only [Dictionary.insert]
      split
      · exact entriesOfJson_cons_of_ok valueRead othersRead
      · split
        · exact entriesOfJson_cons_of_ok valueRead read
        · exact entriesOfJson_cons_of_ok firstRead (induction othersRead)

theorem Node.document_eq {kind : Kind} {span : Option Span}
    {fields metadata : List (String × Value)} (ordered : Dictionary.Ordered fields)
    (untyped : "type" ∉ Dictionary.names fields) :
    (Node.mk kind span fields metadata).document =
      .object (Dictionary.insert (entriesDocument fields) "type" (.string kind.name)) := by
  have absent := find?_type_entriesDocument untyped
  have inOrder := ordered_entriesDocument ordered
  rw [document, Json.ofMembers]
  apply congrArg Json.object
  apply Dictionary.ext (Dictionary.ordered_ofList _) (Dictionary.ordered_insert inOrder _ _)
  intro name
  have distinct : (Dictionary.names
      (("type", Json.string kind.name) :: entriesDocument fields)).Nodup :=
    List.nodup_cons.2 ⟨Dictionary.find?_eq_none_iff.1 absent, Dictionary.nodup_names inOrder⟩
  rw [Dictionary.find?_ofList distinct, Dictionary.find?_insert, Dictionary.find?_cons]

theorem spanOf?_document (fields : List (String × Value)) (kind : Json) :
    spanOf? (Dictionary.insert (entriesDocument fields) "type" kind) = none := by
  have start : isMetadataName "start" = true := by decide
  have absent : Dictionary.find? (Dictionary.insert (entriesDocument fields) "type" kind) "start" =
      none := by
    rw [Dictionary.find?_insert, if_neg (by decide), find?_entriesDocument, if_pos start]
  rw [spanOf?, absent]

theorem Node.ofEntries_printed {kind : Kind} {entries : List (String × Value)}
    (canonical : kind.Canonical) (untyped : "type" ∉ Dictionary.names entries) :
    ofEntries kind.name none
        (Dictionary.insert (entriesSeen .printed entries) "type" (.text kind.name)) =
      ⟨kind, none, entriesSeen .printed entries, []⟩ := by
  let read := Dictionary.insert (entriesSeen .printed entries) "type" (.text kind.name)
  have parts : ofEntries kind.name none read =
      ⟨.ofName kind.name, none, (ofEntries kind.name none read).fields,
        (ofEntries kind.name none read).metadata⟩ := rfl
  have noType {entry : String × Value} (member : entry ∈ entriesSeen .printed entries) :
      entry.1 ≠ "type" :=
    fun same => untyped (same ▸ (mem_entriesSeen_printed member).2)
  have fields : (ofEntries kind.name none read).fields = entriesSeen .printed entries := by
    rw [fields_ofEntries,
      Dictionary.filter_insert _ (fun name => name != "type" && !isMetadataName name) _ rfl,
      List.filter_eq_self]
    intro entry member
    simp [noType member, (mem_entriesSeen_printed member).1]
  have metadata : (ofEntries kind.name none read).metadata = [] := by
    have semantic : isMetadataName "type" = false := by decide
    let kept (name : String) : Bool :=
      isMetadataName name && !((none : Option Span).isSome && isPositionName name)
    have dropped : kept "type" = false := by simp [kept, semantic]
    rw [metadata_ofEntries]
    refine (Dictionary.filter_insert _ kept _ dropped).trans (List.filter_eq_nil_iff.2 ?_)
    intro entry member
    simp [kept, (mem_entriesSeen_printed member).1]
  rw [parts, fields, metadata, canonical]

mutual

theorem Node.ofJson_document (node : Node) (meets : node.Meets .readable) :
    Value.ofJson node.document = .ok (.node (node.seen .printed)) := by
  cases node with
  | mk kind span fields metadata =>
      obtain ⟨⟨canonical, ordered, untyped⟩, below, -⟩ := meets
      have kindRead : Value.ofJson (.string kind.name) = .ok (.text kind.name) := rfl
      have read := entriesOfJson_insert "type" (entriesOfJson_document fields below) kindRead
      have typed : Dictionary.find? (Dictionary.insert (entriesDocument fields) "type"
          (.string kind.name)) "type" = some (.string kind.name) := by
        rw [Dictionary.find?_insert, if_pos rfl]
      rw [Node.document_eq ordered untyped, Value.ofJson, typed]
      simp only []
      rw [read, spanOf?_document]
      exact congrArg (fun node => Except.ok (Value.node node))
        (Node.ofEntries_printed canonical untyped)

theorem Value.ofJson_document (value : Value) (meets : value.Meets .readable) :
    Value.ofJson value.document = .ok (value.seen .printed) := by
  cases value with
  | null | bool | number | text => rfl
  | list items =>
      rw [Value.document, Value.ofJson, itemsOfJson_document items meets]
      rfl
  | map entries =>
      obtain ⟨⟨ordered, untyped⟩, below⟩ := meets
      rw [Value.document, Json.ofMembers, Dictionary.ofList_of_ordered
        (ordered_entriesDocument ordered), Value.ofJson, find?_type_entriesDocument untyped]
      simp only []
      rw [entriesOfJson_document entries below]
      rfl
  | node node => exact Node.ofJson_document node meets

theorem itemsOfJson_document (items : List Value) (meets : ItemsMeet .readable items) :
    itemsOfJson (itemsDocument items) = .ok (itemsSeen .printed items) := by
  match items with
  | [] => rfl
  | item :: rest =>
      rw [itemsDocument, itemsOfJson, Value.ofJson_document item meets.1,
        itemsOfJson_document rest meets.2]
      rfl

theorem entriesOfJson_document (entries : List (String × Value))
    (meets : EntriesMeet .readable entries) :
    entriesOfJson (entriesDocument entries) = .ok (entriesSeen .printed entries) := by
  match entries with
  | [] => rfl
  | (name, value) :: rest =>
      have later := entriesOfJson_document rest meets.2
      have hidden : Screen.printed.hidden = isMetadataName := rfl
      rw [entriesDocument, entriesSeen, hidden]
      split
      · exact later
      · exact entriesOfJson_cons_of_ok (Value.ofJson_document value meets.1) later

end

mutual

/-- What the text is read as differs from what stands in it in the sign of zeros at most. -/
theorem Node.equal_printed (node : Node) (finite : ∀ x ∈ node.numbers, x.isFinite = true) :
    (node.seen .printed).equal (node.strip isMetadataName) = true := by
  cases node with
  | mk kind span fields metadata =>
      simp [Node.seen, Node.strip, Node.equal, entriesEqual, entriesEqual_printed fields finite]

theorem Value.equal_printed (value : Value) (finite : ∀ x ∈ value.numbers, x.isFinite = true) :
    (value.seen .printed).equal (value.strip isMetadataName) = true := by
  cases value with
  | null | bool | text => simp [Value.seen, Value.strip, Value.equal]
  | number x =>
      have same := JsonNumber.equal_reread (finite x List.mem_cons_self)
      simpa [Value.seen, Value.strip, Value.equal, Screen.printed] using same
  | list items =>
      rw [Value.seen, Value.strip, Value.equal]
      exact itemsEqual_printed items finite
  | map entries =>
      rw [Value.seen, Value.strip, Value.equal]
      exact entriesEqual_printed entries finite
  | node node =>
      rw [Value.seen, Value.strip, Value.equal]
      exact Node.equal_printed node finite

theorem itemsEqual_printed (items : List Value)
    (finite : ∀ x ∈ itemsNumbers items, x.isFinite = true) :
    itemsEqual (itemsSeen .printed items) (itemsStrip isMetadataName items) = true := by
  match items with
  | [] => simp [itemsSeen, itemsStrip, itemsEqual]
  | item :: rest =>
      obtain ⟨first, others⟩ := List.forall_mem_append.1 finite
      simp [itemsSeen, itemsStrip, itemsEqual, Value.equal_printed item first,
        itemsEqual_printed rest others]

theorem entriesEqual_printed (entries : List (String × Value))
    (finite : ∀ x ∈ entriesNumbers entries, x.isFinite = true) :
    entriesEqual (entriesSeen .printed entries) (entriesStrip isMetadataName entries) = true := by
  match entries with
  | [] => simp [entriesSeen, entriesStrip, entriesEqual]
  | (name, value) :: rest =>
      have hidden : Screen.printed.hidden = isMetadataName := rfl
      rw [entriesNumbers] at finite
      rw [entriesSeen, entriesStrip, hidden]
      cases named : isMetadataName name with
      | true =>
          rw [named, if_pos rfl] at finite
          exact entriesEqual_printed rest finite
      | false =>
          rw [named, if_neg Bool.false_ne_true] at finite
          obtain ⟨first, others⟩ := List.forall_mem_append.1 finite
          simp [entriesEqual, Value.equal_printed value first, entriesEqual_printed rest others]

end

/-- Nodes without span, metadata and entries under metadata names, and maps without such entries. -/
def Condition.unmarked : Condition where
  onNode := fun node =>
    node.span = none ∧ node.metadata = [] ∧ ∀ entry ∈ node.fields, isMetadataName entry.1 = false
  onMap := fun entries => ∀ entry ∈ entries, isMetadataName entry.1 = false
  inMetadata := True

mutual

theorem Node.unmarked_printed (node : Node) : (node.seen .printed).Meets .unmarked := by
  cases node with
  | mk kind span fields metadata =>
      exact ⟨⟨rfl, rfl, fun _ member => (mem_entriesSeen_printed member).1⟩,
        entriesUnmarked_printed fields, fun _ => trivial⟩

theorem Value.unmarked_printed (value : Value) : (value.seen .printed).Meets .unmarked := by
  cases value with
  | null | bool | number | text => trivial
  | list items => exact itemsUnmarked_printed items
  | map entries =>
      exact ⟨fun _ member => (mem_entriesSeen_printed member).1, entriesUnmarked_printed entries⟩
  | node node => exact Node.unmarked_printed node

theorem itemsUnmarked_printed (items : List Value) :
    ItemsMeet .unmarked (itemsSeen .printed items) := by
  match items with
  | [] => trivial
  | item :: rest => exact ⟨Value.unmarked_printed item, itemsUnmarked_printed rest⟩

theorem entriesUnmarked_printed (entries : List (String × Value)) :
    EntriesMeet .unmarked (entriesSeen .printed entries) := by
  match entries with
  | [] => trivial
  | (name, value) :: rest =>
      rw [entriesSeen]
      split
      · exact entriesUnmarked_printed rest
      · exact ⟨Value.unmarked_printed value, entriesUnmarked_printed rest⟩

end

theorem readable_ofEntries {entries : List (String × Value)} (kind : String) (span : Option Span)
    (ordered : Dictionary.Ordered entries) :
    Condition.readable.onNode (.ofEntries kind span entries) := by
  refine ⟨Kind.canonical_ofName kind, ?_, ?_⟩
  · rw [Node.fields_ofEntries]
    exact Dictionary.ordered_filter ordered _
  · rw [Node.fields_ofEntries]
    intro member
    obtain ⟨entry, kept, isType⟩ := List.mem_map.1 member
    simp [isType] at kept

mutual

theorem Value.readable_ofJson (json : Json) (valid : json.Valid) {value : Value}
    (read : Value.ofJson json = .ok value) : value.Meets .readable := by
  cases json with
  | null | bool | number | string =>
      cases read
      trivial
  | array items =>
      obtain ⟨values, inner, rfl⟩ := exists_of_map_eq_ok read
      exact itemsReadable_ofJson items valid inner
  | object members =>
      obtain ⟨entries, inner, ⟨absent, rfl⟩ | ⟨kind, -, rfl⟩⟩ := Value.ofJson_object_eq_ok read
      · have below := entriesReadable_ofJson members valid.2 inner
        refine ⟨⟨ordered_entriesOfJson inner valid.1, ?_⟩, below⟩
        rw [← Dictionary.find?_eq_none_iff]
        have untyped := contains_entriesOfJson inner "type"
        rw [Dictionary.contains, Dictionary.contains, absent, Option.isSome_none,
          Option.isSome_eq_false_iff, Option.isNone_iff_eq_none] at untyped
        exact untyped
      · exact Node.meets_ofEntries
          (readable_ofEntries kind _ (ordered_entriesOfJson inner valid.1))
          (entriesReadable_ofJson members valid.2 inner)

theorem itemsReadable_ofJson (items : List Json) (valid : ItemsValid items) {values : List Value}
    (read : itemsOfJson items = .ok values) : ItemsMeet .readable values := by
  match items with
  | [] =>
      cases read
      trivial
  | item :: rest =>
      obtain ⟨first, others, firstRead, othersRead, rfl⟩ := itemsOfJson_cons_eq_ok read
      exact ⟨Value.readable_ofJson item valid.1 firstRead,
        itemsReadable_ofJson rest valid.2 othersRead⟩

theorem entriesReadable_ofJson (members : List (String × Json)) (valid : MembersValid members)
    {entries : List (String × Value)} (read : entriesOfJson members = .ok entries) :
    EntriesMeet .readable entries := by
  match members with
  | [] =>
      cases read
      trivial
  | (name, json) :: rest =>
      obtain ⟨first, others, firstRead, othersRead, rfl⟩ := entriesOfJson_cons_eq_ok read
      exact ⟨Value.readable_ofJson json valid.1 firstRead,
        entriesReadable_ofJson rest valid.2 othersRead⟩

end

theorem Condition.Becomes.readable : Becomes .readable .readable where
  pair := fun first second => by
    have canonical : Kind.sequenceExpression.Canonical := by decide
    have untyped : "type" ∉ ["expressions"] := by decide
    exact ⟨canonical, List.pairwise_singleton _ _, untyped⟩
  literal := fun text => by
    have canonical : Kind.stringLiteral.Canonical := by decide
    have untyped : "type" ∉ ["value"] := by decide
    exact ⟨canonical, List.pairwise_singleton _ _, untyped⟩
  onNode := fun node readable => by
    simp only [Condition.readable, Dictionary.ordered_iff_names] at readable ⊢
    rw [Node.kind_normalForm, Node.names_normalForm]
    exact readable
  onMap := fun entries readable => by
    simp only [Condition.readable, Dictionary.ordered_iff_names] at readable ⊢
    rw [names_entriesNormalForm]
    exact readable
  shallow := id

/-- The canonical text of a tree that was read from a document follows the JSON grammar.  Where its
numbers are read back and its containers stand less than one hundred and twenty-eight deep, it is
read as a tree without circumstances that is equal to the normal form without its own.  So the new
tree has the same canonical text and is its own normal form. -/
theorem parse_canonicalText {document : Json} {tree : Node} (valid : document.Valid)
    (read : Node.ofJson document = .ok tree) :
    Json.IsValueText tree.canonicalText.toList ∧
    ((∀ x ∈ tree.normalForm.numbers, x.ReadsBack) → nesting tree.canonicalText.toList < 128 →
      ∃ again, Node.parse tree.canonicalText = .ok again ∧ again.Meets .unmarked ∧
        again.equal (tree.normalForm.strip isMetadataName) = true ∧
        again.canonicalText = tree.canonicalText ∧ again.normalForm = again) := by
  have value := Node.ofJson_eq_ok_iff.1 read
  have finite : ∀ x ∈ tree.normalForm.numbers, x.isFinite = true := fun x member =>
    Value.finite_ofJson document valid value x (Node.mem_numbers_normalForm tree member)
  have text : tree.canonicalText.toList = tree.normalForm.plainText := by
    rw [Node.canonicalText_eq, String.toList_ofList]
  rw [text]
  refine ⟨tree.normalForm.isValueText finite, fun back shallow => ?_⟩
  rw [Node.nesting_plainText] at shallow
  have reads := tree.normalForm.reads (Nat.le_of_lt_succ shallow)
    fun x member => ⟨finite x member, back x member⟩
  have readable : tree.normalForm.Meets .readable :=
    tree.meets_normalForm .readable (Value.readable_ofJson document valid value)
  have again := Node.ofJson_eq_ok_iff.2 (Node.ofJson_document _ readable)
  have faithful := Screen.faithful_printed
  refine ⟨tree.normalForm.seen .printed, ?_, Node.unmarked_printed _,
    Node.equal_printed _ finite, ?_, ?_⟩
  · rw [Node.parse, text, reads.parse?_eq]
    exact again
  · rw [Node.canonicalText_seen faithful, Node.canonicalText_eq,
      Node.normalForm_of_meets tree.normal_normalForm, ← Node.canonicalText_eq]
  · rw [← Node.seen_normalForm faithful, Node.normalForm_of_meets tree.normal_normalForm]

def spannedSequence : Json :=
  .object
    [("end", .number (.integer 9)),
      ("expressions", .array
        [.number (.float (.ofCode true 0)), .object [("extra", .null)],
          .object
            [("type", .string "ObjectProperty"),
              ("value", .number (.float ⟨0x444b1ae4d6e2ef50⟩))]]),
      ("loc", .object []), ("start", .number (.integer 0)),
      ("type", .string "SequenceExpression")]

theorem parse_canonicalText_sequence :
    ∃ tree again, Node.ofJson spannedSequence = .ok tree ∧
      tree.canonicalText.toList =
        "\x7b\"type\":\"SequenceExpression\",\"expressions\":[".toList ++
          "\x7b\"type\":\"SequenceExpression\",\"expressions\":[0,\x7b\x7d]\x7d,".toList ++
            "\x7b\"type\":\"ObjectProperty\",\"value\":1e+21\x7d]\x7d".toList ∧
      Node.parse tree.canonicalText = .ok again ∧ again.Meets .unmarked ∧
      again.normalForm = again := by
  let tree : Node :=
    ⟨.sequenceExpression, some ⟨0, 9⟩,
      [("expressions", .list
        [.number (.ofCode true 0), .map [("extra", .null)],
          .node ⟨.objectProperty, none, [("value", .number ⟨0x444b1ae4d6e2ef50⟩)], []⟩])],
      [("loc", .map [])]⟩
  have valid : spannedSequence.Valid := by decide +kernel
  have read : Node.ofJson spannedSequence = .ok tree := rfl
  have zero : (Binary64.ofCode true 0).ReadsBack :=
    ⟨.integer 0, by decide +kernel, by decide +kernel⟩
  have large : (⟨0x444b1ae4d6e2ef50⟩ : Binary64).ReadsBack :=
    ⟨.float ⟨0x444b1ae4d6e2ef50⟩, by decide +kernel, by decide +kernel⟩
  have back : ∀ x ∈ tree.normalForm.numbers, x.ReadsBack :=
    List.forall_mem_cons.2 ⟨zero, List.forall_mem_singleton.2 large⟩
  obtain ⟨again, found, unmarked, -, -, normal⟩ :=
    (parse_canonicalText valid read).2 back (by decide +kernel)
  exact ⟨tree, again, read, by decide +kernel, found, unmarked, normal⟩

end Ast

end Reparse
