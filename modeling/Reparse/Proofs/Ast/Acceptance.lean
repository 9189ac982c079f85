import Reparse.Proofs.Ast.Reading

namespace Reparse

namespace Json

mutual

def objects : Json → List (List (String × Json))
  | .array items => itemsObjects items
  | .object members => members :: membersObjects members
  | _ => []

def itemsObjects : List Json → List (List (String × Json))
  | [] => []
  | item :: rest => item.objects ++ itemsObjects rest

def membersObjects : List (String × Json) → List (List (String × Json))
  | [] => []
  | (_, json) :: rest => json.objects ++ membersObjects rest

end

def IsTyped (json : Json) : Prop :=
  ∃ members kind, json = .object members ∧ Dictionary.find? members "type" = some kind

theorem isTyped_iff {document : Json} :
    document.IsTyped ↔ (document.member? "type").isSome = true := by
  cases document with
  | object members => simp [IsTyped, member?, Option.isSome_iff_exists]
  | null | bool | number | string | array => simp [IsTyped, member?]

end Json

namespace Ast

def KindIsString (members : Dictionary Json) : Prop :=
  ∀ kind, Dictionary.find? members "type" = some kind → ∃ name, kind = .string name

/-- The names of the kinds that are known otherwise than by their names. -/
def Kind.knownNames : List String :=
  ["SequenceExpression", "ObjectProperty", "ObjectMethod", "ClassMethod", "NumericLiteral",
    "StringLiteral", "Identifier"]

/-- Each entry of a node stands where its name puts it. -/
structure Node.WellPlaced (node : Node) : Prop where
  kind : ∀ name, node.kind = .other name → name ∉ Kind.knownNames
  fields : ∀ entry ∈ node.fields, entry.1 ≠ "type" ∧ isMetadataName entry.1 = false
  metadata : ∀ entry ∈ node.metadata, isMetadataName entry.1 = true
  span : node.span.isSome = true → ∀ entry ∈ node.metadata, entry.1 ≠ "start" ∧ entry.1 ≠ "end"

/-- All nodes are so, metadata included, and no map looks like a node. -/
def Condition.wellPlaced : Condition where
  onNode := Node.WellPlaced
  onMap := fun entries => ∀ entry ∈ entries, entry.1 ≠ "type"
  inMetadata := True

theorem Kind.not_known_of_ofName {kind name : String} (other : ofName kind = .other name) :
    name ∉ knownNames := by
  have canonical := canonical_ofName kind
  rw [other] at canonical
  -- Each known name gives a kind of its own.
  have known : ∀ name ∈ knownNames, ofName name ≠ .other name := by decide
  exact fun member => known name member canonical

theorem Node.wellPlaced_ofEntries (kind : String) (span : Option Span)
    (entries : List (String × Value)) : (ofEntries kind span entries).WellPlaced where
  kind := fun _ => Kind.not_known_of_ofName
  fields := by
    rw [fields_ofEntries]
    intro entry member
    simpa using (List.mem_filter.1 member).2
  metadata := by
    rw [metadata_ofEntries]
    intro entry member
    exact (Bool.and_eq_true_iff.1 (List.mem_filter.1 member).2).1
  span := by
    rw [metadata_ofEntries]
    intro told entry member
    have spanned : span.isSome = true := told
    have kept := (Bool.and_eq_true_iff.1 (List.mem_filter.1 member).2).2
    simpa [spanned, isPositionName] using kept

theorem Condition.OfReading.wellPlaced : OfReading .wellPlaced where
  onNode := Node.wellPlaced_ofEntries
  onMap := by
    rintro entries untyped ⟨_, value⟩ member rfl
    have absent := Option.isNone_iff_eq_none.1 (Option.isSome_eq_false_iff.1 untyped)
    exact Dictionary.find?_eq_none_iff.1 absent (List.mem_map_of_mem member)

theorem exists_map_eq_ok {ε α β : Type} {f : α → β} {result : Except ε α} :
    (∃ value, result.map f = .ok value) ↔ ∃ inner, result = .ok inner := by
  cases result with
  | error error => simp [Except.map]
  | ok inner => simp [Except.map]

theorem itemsOfJson_cons (item : Json) (rest : List Json) :
    (∃ values, itemsOfJson (item :: rest) = .ok values) ↔
      (∃ value, Value.ofJson item = .ok value) ∧ ∃ values, itemsOfJson rest = .ok values := by
  simp only [itemsOfJson]
  cases Value.ofJson item with
  | error error => simp
  | ok value => cases itemsOfJson rest <;> simp

theorem entriesOfJson_cons (name : String) (json : Json) (rest : List (String × Json)) :
    (∃ entries, entriesOfJson ((name, json) :: rest) = .ok entries) ↔
      (∃ value, Value.ofJson json = .ok value) ∧ ∃ entries, entriesOfJson rest = .ok entries := by
  simp only [entriesOfJson]
  cases Value.ofJson json with
  | error error => simp
  | ok value => cases entriesOfJson rest <;> simp

/-- An object is read when its members are, and its kind is none or a string. -/
theorem Value.ofJson_object (members : List (String × Json)) :
    (∃ value, Value.ofJson (.object members) = .ok value) ↔
      KindIsString members ∧ ∃ entries, entriesOfJson members = .ok entries := by
  simp only [Value.ofJson, KindIsString]
  cases Dictionary.find? members "type" with
  | none => simp [exists_map_eq_ok]
  | some kind => cases kind <;> simp [exists_map_eq_ok]

mutual

theorem Value.exists_ofJson_iff (json : Json) :
    (∃ value, Value.ofJson json = .ok value) ↔ ∀ members ∈ json.objects, KindIsString members := by
  cases json with
  | null | bool | number | string => simp [Value.ofJson, Json.objects]
  | array items =>
      rw [Value.ofJson, exists_map_eq_ok]
      exact exists_itemsOfJson_iff items
  | object members =>
      rw [Value.ofJson_object, Json.objects, List.forall_mem_cons,
        exists_entriesOfJson_iff members]

theorem exists_itemsOfJson_iff (items : List Json) :
    (∃ values, itemsOfJson items = .ok values) ↔
      ∀ members ∈ Json.itemsObjects items, KindIsString members := by
  match items with
  | [] => simp [itemsOfJson, Json.itemsObjects]
  | item :: rest =>
      rw [itemsOfJson_cons, Json.itemsObjects, List.forall_mem_append,
        Value.exists_ofJson_iff item, exists_itemsOfJson_iff rest]

theorem exists_entriesOfJson_iff (members : List (String × Json)) :
    (∃ entries, entriesOfJson members = .ok entries) ↔
      ∀ inner ∈ Json.membersObjects members, KindIsString inner := by
  match members with
  | [] => simp [entriesOfJson, Json.membersObjects]
  | (name, json) :: rest =>
      rw [entriesOfJson_cons, Json.membersObjects, List.forall_mem_append,
        Value.exists_ofJson_iff json, exists_entriesOfJson_iff rest]

end

mutual

/-- Nothing but a kind keeps a value from being read. -/
theorem Value.eq_of_ofJson_error (json : Json) {error : DocumentError}
    (failed : Value.ofJson json = .error error) : error = .kindNotString := by
  have mapped {α β : Type} {f : α → β} {result : Except DocumentError α}
      (inner : result = .error error → error = .kindNotString)
      (failed : result.map f = .error error) : error = .kindNotString := by
    cases result with
    | error other =>
        cases failed
        exact inner rfl
    | ok value => cases failed
  cases json with
  | null | bool | number | string => cases failed
  | array items => exact mapped (eq_of_itemsOfJson_error items) failed
  | object members =>
      simp only [Value.ofJson] at failed
      split at failed
      · exact mapped (eq_of_entriesOfJson_error members) failed
      · exact mapped (eq_of_entriesOfJson_error members) failed
      · cases failed
        rfl

theorem eq_of_itemsOfJson_error (items : List Json) {error : DocumentError}
    (failed : itemsOfJson items = .error error) : error = .kindNotString := by
  match items with
  | [] => cases failed
  | item :: rest =>
      simp only [itemsOfJson] at failed
      split at failed
      · next first =>
          cases failed
          exact Value.eq_of_ofJson_error item first
      · next later =>
          cases failed
          exact eq_of_itemsOfJson_error rest later
      · cases failed

theorem eq_of_entriesOfJson_error (members : List (String × Json)) {error : DocumentError}
    (failed : entriesOfJson members = .error error) : error = .kindNotString := by
  match members with
  | [] => cases failed
  | (name, json) :: rest =>
      simp only [entriesOfJson] at failed
      split at failed
      · next first =>
          cases failed
          exact Value.eq_of_ofJson_error json first
      · next later =>
          cases failed
          exact eq_of_entriesOfJson_error rest later
      · cases failed

end

theorem Node.ofJson_of_isTyped {document : Json} (typed : document.IsTyped) :
    (∃ tree, Value.ofJson document = .ok (.node tree) ∧ Node.ofJson document = .ok tree) ∨
      (Value.ofJson document = .error .kindNotString ∧
        Node.ofJson document = .error .kindNotString) := by
  have told := Json.isTyped_iff.1 typed
  obtain ⟨members, kind, rfl, found⟩ := typed
  cases read : Value.ofJson (.object members) with
  | error error =>
      obtain rfl := Value.eq_of_ofJson_error _ read
      exact .inr ⟨rfl, by rw [Node.ofJson, if_pos told, read]⟩
  | ok value =>
      obtain ⟨entries, -, ⟨absent, -⟩ | ⟨name, -, rfl⟩⟩ := Value.ofJson_object_eq_ok read
      · rw [found] at absent
        cases absent
      · exact .inl ⟨_, rfl, by rw [Node.ofJson, if_pos told, read]⟩

/-- A document without a kind is no tree; one with a kind is a tree unless an object in it, wherever
it stands, has a kind that is not a string.  There is no other way to fail, and in every tree that
is read all entries are well placed. -/
theorem ofJson_accepts (document : Json) :
    (Node.ofJson document = .error .rootNotNode ↔ ¬document.IsTyped) ∧
    (Node.ofJson document = .error .kindNotString ↔
      document.IsTyped ∧ ∃ members ∈ document.objects, ¬KindIsString members) ∧
    ((∃ tree, Node.ofJson document = .ok tree ∧ tree.Meets .wellPlaced) ↔
      document.IsTyped ∧ ∀ members ∈ document.objects, KindIsString members) := by
  have strings := Value.exists_ofJson_iff document
  have strange : (∃ members ∈ document.objects, ¬KindIsString members) ↔
      ¬∀ members ∈ document.objects, KindIsString members := by simp
  rw [strange, ← strings]
  by_cases typed : document.IsTyped
  · rcases Node.ofJson_of_isTyped typed with ⟨tree, value, read⟩ | ⟨value, read⟩
    · have placed : tree.Meets .wellPlaced :=
        Value.meets_ofJson .wellPlaced document value
      simp [typed, value, read, placed]
    · simp [typed, value, read]
  · have untold : ¬(document.member? "type").isSome = true := mt Json.isTyped_iff.2 typed
    have read : Node.ofJson document = .error .rootNotNode := by rw [Node.ofJson, if_neg untold]
    simp [typed, read]

example :
    Node.ofJson (.object [("loc", .object [("type", .null)]), ("type", .string "File")]) =
      .error .kindNotString :=
  rfl

end Ast

end Reparse
