import Reparse.Ast.Document
import Reparse.Proofs.Ast.Condition

namespace Reparse

namespace Ast

theorem exists_of_map_eq_ok {ε α β : Type} {f : α → β} {result : Except ε α} {value : β}
    (same : result.map f = .ok value) : ∃ inner, result = .ok inner ∧ f inner = value := by
  cases result with
  | error error => contradiction
  | ok inner => exact ⟨inner, rfl, Except.ok.inj same⟩

theorem Value.ofJson_object_eq_ok {members : List (String × Json)} {value : Value}
    (read : Value.ofJson (.object members) = .ok value) :
    ∃ entries, entriesOfJson members = .ok entries ∧
      ((Dictionary.find? members "type" = none ∧ value = .map entries) ∨
        ∃ kind, Dictionary.find? members "type" = some (.string kind) ∧
          value = .node (.ofEntries kind (spanOf? members) entries)) := by
  simp only [Value.ofJson] at read
  split at read
  · next absent =>
      obtain ⟨entries, inner, rfl⟩ := exists_of_map_eq_ok read
      exact ⟨entries, inner, .inl ⟨absent, rfl⟩⟩
  · next kind found =>
      obtain ⟨entries, inner, rfl⟩ := exists_of_map_eq_ok read
      exact ⟨entries, inner, .inr ⟨kind, found, rfl⟩⟩
  · contradiction

theorem itemsOfJson_cons_eq_ok {item : Json} {rest : List Json} {values : List Value}
    (read : itemsOfJson (item :: rest) = .ok values) :
    ∃ first others, Value.ofJson item = .ok first ∧ itemsOfJson rest = .ok others ∧
      values = first :: others := by
  simp only [itemsOfJson] at read
  split at read
  · contradiction
  · contradiction
  · next first others firstRead othersRead =>
      cases read
      exact ⟨first, others, firstRead, othersRead, rfl⟩

theorem entriesOfJson_cons_eq_ok {name : String} {json : Json} {rest : List (String × Json)}
    {entries : List (String × Value)} (read : entriesOfJson ((name, json) :: rest) = .ok entries) :
    ∃ first others, Value.ofJson json = .ok first ∧ entriesOfJson rest = .ok others ∧
      entries = (name, first) :: others := by
  simp only [entriesOfJson] at read
  split at read
  · contradiction
  · contradiction
  · next first others firstRead othersRead =>
      cases read
      exact ⟨first, others, firstRead, othersRead, rfl⟩

theorem contains_entriesOfJson {members : List (String × Json)} {entries : List (String × Value)}
    (read : entriesOfJson members = .ok entries) (name : String) :
    Dictionary.contains entries name = Dictionary.contains members name := by
  induction members generalizing entries with
  | nil =>
      cases read
      rfl
  | cons member rest induction =>
      obtain ⟨key, json⟩ := member
      obtain ⟨first, others, -, othersRead, rfl⟩ := entriesOfJson_cons_eq_ok read
      have same := induction othersRead
      simp only [Dictionary.contains, Dictionary.find?_cons] at same ⊢
      split
      · rfl
      · exact same

theorem Node.ofJson_eq_ok_iff {document : Json} {tree : Node} :
    Node.ofJson document = .ok tree ↔ Value.ofJson document = .ok (.node tree) := by
  constructor
  · intro read
    simp only [Node.ofJson] at read
    split at read
    · split at read
      · next value =>
          cases read
          exact value
      · contradiction
      · contradiction
    · contradiction
  · intro read
    have typed : (document.member? "type").isSome = true := by
      cases document with
      | null | bool | number | string => cases read
      | array items =>
          obtain ⟨values, -, same⟩ := exists_of_map_eq_ok read
          cases same
      | object members =>
          obtain ⟨entries, -, ⟨-, same⟩ | ⟨kind, found, -⟩⟩ := Value.ofJson_object_eq_ok read
          · cases same
          · rw [Json.member?, found]
            rfl
    rw [Node.ofJson, if_pos typed, read]

theorem find?_entriesOfJson {members : List (String × Json)} {entries : List (String × Value)}
    (read : entriesOfJson members = .ok entries) {name : String} {value : Value} :
    Dictionary.find? entries name = some value ↔
      ∃ json, Dictionary.find? members name = some json ∧ Value.ofJson json = .ok value := by
  induction members generalizing entries with
  | nil =>
      cases read
      simp
  | cons member rest induction =>
      obtain ⟨key, json⟩ := member
      obtain ⟨first, others, firstRead, othersRead, rfl⟩ := entriesOfJson_cons_eq_ok read
      rw [Dictionary.find?_cons, Dictionary.find?_cons]
      split
      · simp [firstRead]
      · exact induction othersRead

theorem ordered_entriesOfJson {members : List (String × Json)} {entries : List (String × Value)}
    (read : entriesOfJson members = .ok entries) (ordered : Dictionary.Ordered members) :
    Dictionary.Ordered entries := by
  have names : Dictionary.names entries = Dictionary.names members := by
    clear ordered
    induction members generalizing entries with
    | nil =>
        cases read
        rfl
    | cons member rest induction =>
        obtain ⟨key, json⟩ := member
        obtain ⟨first, others, -, othersRead, rfl⟩ := entriesOfJson_cons_eq_ok read
        exact congrArg (key :: ·) (induction othersRead)
  rw [Dictionary.ordered_iff_names] at ordered ⊢
  rwa [names]

def isPositionName (name : String) : Bool :=
  name == "start" || name == "end"

theorem isMetadataName_of_position {name : String} (position : isPositionName name = true) :
    isMetadataName name = true := by
  simp only [isPositionName, Bool.or_eq_true, beq_iff_eq] at position
  rcases position with rfl | rfl
  · decide
  · decide

theorem Node.fields_ofEntries (kind : String) (span : Option Span)
    (entries : List (String × Value)) :
    (ofEntries kind span entries).fields =
      entries.filter fun entry => entry.1 != "type" && !isMetadataName entry.1 := by
  simp only [ofEntries, List.filter_filter]
  apply List.filter_congr
  intro entry _
  cases position : isPositionName entry.1 with
  | true =>
      rw [isMetadataName_of_position position]
      simp
  | false =>
      rw [isPositionName] at position
      rw [isStructural, position, Bool.and_false, Bool.or_false, Bool.and_comm]
      rfl

theorem Node.metadata_ofEntries (kind : String) (span : Option Span)
    (entries : List (String × Value)) :
    (ofEntries kind span entries).metadata =
      entries.filter fun entry =>
        isMetadataName entry.1 && !(span.isSome && isPositionName entry.1) := by
  simp only [ofEntries, List.filter_filter]
  apply List.filter_congr
  intro entry _
  by_cases isType : entry.1 = "type"
  · have type : isMetadataName "type" = false := by decide
    rw [isType, type, Bool.false_and, Bool.false_and]
  · rw [isStructural, beq_false_of_ne isType, Bool.false_or]
    rfl

/-- The condition holds of every node made of entries and of every map without a kind. -/
structure Condition.OfReading (condition : Condition) : Prop where
  onNode : ∀ kind span entries, condition.onNode (.ofEntries kind span entries)
  onMap : ∀ entries, Dictionary.contains entries "type" = false → condition.onMap entries

variable {condition : Condition}

theorem Node.meets_ofEntries {kind : String} {span : Option Span} {entries : List (String × Value)}
    (root : condition.onNode (ofEntries kind span entries))
    (all : EntriesMeet condition entries) : (ofEntries kind span entries).Meets condition := by
  have filtered {kept : String × Value → Bool} : EntriesMeet condition (entries.filter kept) :=
    entriesMeet_iff.2 fun entry member => entriesMeet_iff.1 all entry (List.mem_filter.1 member).1
  refine meets_iff.2 ⟨root, ?_, fun _ => ?_⟩
  · rw [fields_ofEntries]
    exact filtered
  · rw [metadata_ofEntries]
    exact filtered

mutual

/-- A condition of reading holds throughout what is read. -/
theorem Value.meets_ofJson (holds : condition.OfReading) (json : Json) {value : Value}
    (read : Value.ofJson json = .ok value) : value.Meets condition := by
  cases json with
  | null | bool | number | string =>
      cases read
      trivial
  | array items =>
      obtain ⟨values, inner, rfl⟩ := exists_of_map_eq_ok read
      exact itemsMeet_ofJson holds items inner
  | object members =>
      obtain ⟨entries, inner, ⟨absent, rfl⟩ | ⟨kind, -, rfl⟩⟩ := Value.ofJson_object_eq_ok read
      · have untyped : Dictionary.contains entries "type" = false := by
          rw [contains_entriesOfJson inner, Dictionary.contains, absent]
          rfl
        exact ⟨holds.onMap entries untyped, entriesMeet_ofJson holds members inner⟩
      · exact Node.meets_ofEntries (holds.onNode kind _ entries)
          (entriesMeet_ofJson holds members inner)

theorem itemsMeet_ofJson (holds : condition.OfReading) (items : List Json) {values : List Value}
    (read : itemsOfJson items = .ok values) : ItemsMeet condition values := by
  match items with
  | [] =>
      cases read
      trivial
  | item :: rest =>
      obtain ⟨first, others, firstRead, othersRead, rfl⟩ := itemsOfJson_cons_eq_ok read
      exact ⟨Value.meets_ofJson holds item firstRead, itemsMeet_ofJson holds rest othersRead⟩

theorem entriesMeet_ofJson (holds : condition.OfReading) (members : List (String × Json))
    {entries : List (String × Value)} (read : entriesOfJson members = .ok entries) :
    EntriesMeet condition entries := by
  match members with
  | [] =>
      cases read
      trivial
  | (name, json) :: rest =>
      obtain ⟨first, others, firstRead, othersRead, rfl⟩ := entriesOfJson_cons_eq_ok read
      exact ⟨Value.meets_ofJson holds json firstRead, entriesMeet_ofJson holds rest othersRead⟩

end

theorem Condition.OfReading.canonicalKinds : OfReading .canonicalKinds :=
  ⟨fun kind _ _ => Kind.canonical_ofName kind, fun _ _ => trivial⟩

theorem Condition.OfReading.mapsUntyped : OfReading .mapsUntyped :=
  ⟨fun _ _ _ => trivial, fun _ untyped => untyped⟩

theorem Node.mapsUntyped_ofJson {document : Json} {tree : Node}
    (read : ofJson document = .ok tree) : tree.MapsUntyped :=
  Value.meets_ofJson .mapsUntyped document (ofJson_eq_ok_iff.1 read)

end Ast

end Reparse
