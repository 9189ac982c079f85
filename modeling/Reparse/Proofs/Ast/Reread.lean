import Reparse.Proofs.Ast.Composition
import Reparse.Proofs.Ast.WriteBack

/-!
Reading again what was written.

A tree that was read from a document can be written and read once more.  The new tree means the
same and is written the same, and it is the same tree unless a position that was told by a double
that is a natural number comes back as a span.
-/

namespace Reparse

namespace Ast

def Value.IsPosition : Value → Prop
  | .number x => x.isFinite = true ∧ ∃ position : Nat, x.toRat = position ∧ position < 2 ^ 53
  | _ => False

/-- A node without a span whose metadata hold both positions of one. -/
def Node.HidesSpan (node : Node) : Prop :=
  node.span = none ∧
    (∃ start, Dictionary.find? node.metadata "start" = some start ∧ start.IsPosition) ∧
    ∃ stop, Dictionary.find? node.metadata "end" = some stop ∧ stop.IsPosition

/-- No node hides a span, metadata included. -/
def Condition.spansShown : Condition where
  onNode := fun node => ¬node.HidesSpan
  onMap := fun _ => True
  inMetadata := True

structure Value.Rereads (value again : Value) : Prop where
  meaning : again.meaning = value.meaning
  equal : again.equal value = true ↔ value.Meets .spansShown

def EntryRereads (entry again : String × Value) : Prop :=
  again.1 = entry.1 ∧ entry.2.Rereads again.2

theorem itemsEqual_iff {items again : List Value}
    (rereads : List.Forall₂ Value.Rereads items again) :
    itemsEqual again items = true ↔ ItemsMeet .spansShown items := by
  induction rereads with
  | nil => simp [itemsEqual, ItemsMeet]
  | cons first _ induction => simp [itemsEqual, ItemsMeet, first.equal, induction]

theorem map_meaning_of_rereads {items again : List Value}
    (rereads : List.Forall₂ Value.Rereads items again) :
    again.map Value.meaning = items.map Value.meaning := by
  induction rereads with
  | nil => rfl
  | cons first _ induction => rw [List.map_cons, List.map_cons, first.meaning, induction]

theorem entriesEqual_iff {entries again : List (String × Value)}
    (rereads : List.Forall₂ EntryRereads entries again) :
    entriesEqual again entries = true ↔ EntriesMeet .spansShown entries := by
  induction rereads with
  | nil => simp [entriesEqual, EntriesMeet]
  | @cons entry new _ _ first _ induction =>
      obtain ⟨name, value⟩ := entry
      obtain ⟨_, newValue⟩ := new
      obtain ⟨rfl, rereads⟩ := first
      simp [entriesEqual, EntriesMeet, rereads.equal, induction]

theorem entriesMeaning_of_rereads {entries again : List (String × Value)}
    (rereads : List.Forall₂ EntryRereads entries again) :
    entriesMeaning again = entriesMeaning entries := by
  induction rereads with
  | nil => rfl
  | cons first _ induction =>
      rw [entriesMeaning_cons, entriesMeaning_cons, first.1, first.2.meaning, induction]

theorem filter_rereads {entries again : List (String × Value)}
    (rereads : List.Forall₂ EntryRereads entries again) (kept : String → Bool) :
    List.Forall₂ EntryRereads (entries.filter fun entry => kept entry.1)
      (again.filter fun entry => kept entry.1) := by
  induction rereads with
  | nil => exact .nil
  | cons first _ induction =>
      rw [List.filter_cons, List.filter_cons, first.1]
      split
      · exact .cons first induction
      · exact induction

theorem Value.isPosition_ofJson {json : Json} {value : Value} (valid : json.Valid)
    (read : Value.ofJson json = .ok value) :
    value.IsPosition ↔ isNatural (roundedDocument json) = true := by
  cases json with
  | null | bool | string =>
      cases read
      simp [IsPosition, roundedDocument, isNatural]
  | number number =>
      cases read
      have finite := JsonNumber.Valid.isFinite_toBinary64 valid
      rw [roundedDocument, isNatural_number, JsonNumber.Valid.natural?_rounded valid]
      exact and_iff_right finite
  | array items =>
      obtain ⟨values, -, rfl⟩ := exists_of_map_eq_ok read
      simp [IsPosition, roundedDocument, isNatural]
  | object members =>
      obtain ⟨entries, -, ⟨-, rfl⟩ | ⟨kind, -, rfl⟩⟩ := Value.ofJson_object_eq_ok read
      · simp [IsPosition, roundedDocument, isNatural]
      · simp [IsPosition, roundedDocument, isNatural]

theorem membersValid_of_find? {members : List (String × Json)} {name : String} {json : Json}
    (valid : MembersValid members) (found : Dictionary.find? members name = some json) :
    json.Valid :=
  membersValid_iff.1 valid _ (Dictionary.mem_of_find? found)

theorem exists_isPosition_iff {members : List (String × Json)} {entries : List (String × Value)}
    (valid : MembersValid members) (read : entriesOfJson members = .ok entries) (name : String) :
    (∃ value, Dictionary.find? entries name = some value ∧ value.IsPosition) ↔
      (Dictionary.find? (roundedMembers false members) name).any isNatural = true := by
  rw [find?_roundedMembers, Option.any_map]
  cases found : Dictionary.find? members name with
  | none =>
      have absent : Dictionary.contains entries name = false := by
        rw [contains_entriesOfJson read, Dictionary.contains, found]
        rfl
      have missing : Dictionary.find? entries name = none :=
        Option.isNone_iff_eq_none.1 (Option.isSome_eq_false_iff.1 absent)
      simp [missing]
  | some json =>
      have present : Dictionary.contains entries name = true := by
        rw [contains_entriesOfJson read, Dictionary.contains, found]
        rfl
      obtain ⟨value, stored⟩ := Option.isSome_iff_exists.1 present
      obtain ⟨source, same, valueRead⟩ := (find?_entriesOfJson read).1 stored
      rw [found] at same
      cases same
      have position := Value.isPosition_ofJson (membersValid_of_find? valid found) valueRead
      simpa [stored] using position

/-- A node that was read hides a span when writing the document brings one to light. -/
theorem Node.hidesSpan_ofEntries {members : List (String × Json)} {entries : List (String × Value)}
    (valid : MembersValid members) (read : entriesOfJson members = .ok entries) (kind : String) :
    (ofEntries kind (spanOf? members) entries).HidesSpan ↔
      spanOf? (roundedMembers (spanOf? members).isSome members) ≠ spanOf? members := by
  cases told : spanOf? members with
  | some span =>
      have kept : spanOf? (roundedMembers true members) = some span := by
        have start : isPositionName "start" = true := by decide
        have stop : isPositionName "end" = true := by decide
        rw [spanOf?_eq_some_iff] at told ⊢
        rw [find?_roundedMembers, find?_roundedMembers, told.1, told.2, start, stop]
        exact ⟨rfl, rfl⟩
      simp [HidesSpan, ofEntries, kept]
  | none =>
      have start : isMetadataName "start" = true := by decide
      have stop : isMetadataName "end" = true := by decide
      have stored {name : String} (metadata : isMetadataName name = true) :
          Dictionary.find? (ofEntries kind none entries).metadata name =
            Dictionary.find? entries name := by
        rw [metadata_ofEntries, Dictionary.find?_filter entries fun name =>
          isMetadataName name && !((none : Option Span).isSome && isPositionName name), metadata]
        rfl
      have shown : spanOf? (roundedMembers false members) ≠ none ↔
          (Dictionary.find? (roundedMembers false members) "start").any isNatural = true ∧
            (Dictionary.find? (roundedMembers false members) "end").any isNatural = true := by
        rw [Option.ne_none_iff_isSome, isSome_spanOf?, Bool.and_eq_true]
      rw [Option.isSome_none, shown, HidesSpan, stored start, stored stop,
        exists_isPosition_iff valid read, exists_isPosition_iff valid read]
      exact and_iff_right rfl

theorem Node.equal_iff {left right : Node} :
    left.equal right = true ↔ left.kind = right.kind ∧ left.span = right.span ∧
      entriesEqual left.fields right.fields = true ∧
        entriesEqual left.metadata right.metadata = true := by
  cases left
  cases right
  simp [equal, and_assoc]

/-- A node whose entries reread rereads itself, unless it hides a span. -/
theorem Node.rereads_ofEntries {members : List (String × Json)}
    {entries again : List (String × Value)} {kind : String} (valid : MembersValid members)
    (read : entriesOfJson members = .ok entries)
    (readAgain : entriesOfJson (roundedMembers (spanOf? members).isSome members) = .ok again)
    (rereads : List.Forall₂ EntryRereads entries again) :
    (Value.node (ofEntries kind (spanOf? members) entries)).Rereads
      (.node (ofEntries kind
        (spanOf? (roundedMembers (spanOf? members).isSome members)) again)) := by
  have hides := hidesSpan_ofEntries valid read kind
  generalize spanOf? (roundedMembers (spanOf? members).isSome members) = spanAgain at hides ⊢
  generalize spanOf? members = span at hides ⊢
  have canonicalKinds := Condition.OfReading.canonicalKinds
  constructor
  · have kinds : (ofEntries kind span entries).Meets .canonicalKinds :=
      meets_ofEntries (canonicalKinds.onNode kind span entries)
        (entriesMeet_ofJson canonicalKinds members read)
    have kindsAgain : (ofEntries kind spanAgain again).Meets .canonicalKinds :=
      meets_ofEntries (canonicalKinds.onNode kind spanAgain again)
        (entriesMeet_ofJson canonicalKinds _ readAgain)
    have fields := filter_rereads rereads fun name => name != "type" && !isMetadataName name
    rw [Value.meaning_node, Value.meaning_node, meaning_eq kinds, meaning_eq kindsAgain,
      fields_ofEntries, fields_ofEntries, entriesMeaning_of_rereads fields]
    rfl
  · have fields := entriesEqual_iff
      (filter_rereads rereads fun name => name != "type" && !isMetadataName name)
    have metadata := entriesEqual_iff (filter_rereads rereads fun name =>
      isMetadataName name && !(span.isSome && isPositionName name))
    have shown : (ofEntries kind span entries).Meets .spansShown ↔
        ¬(ofEntries kind span entries).HidesSpan ∧
          EntriesMeet .spansShown (ofEntries kind span entries).fields ∧
            (True → EntriesMeet .spansShown (ofEntries kind span entries).metadata) := meets_iff
    rw [Value.equal, Value.Meets, equal_iff, shown, hides, not_not, true_imp_iff,
      fields_ofEntries, fields_ofEntries, fields]
    by_cases same : spanAgain = span
    · subst same
      rw [metadata_ofEntries, metadata_ofEntries, metadata]
      exact and_iff_right rfl
    · exact ⟨fun equal => absurd equal.2.1 same, fun meets => absurd meets.1 same⟩

theorem Value.rereads_number {x y : Binary64} (same : y.representative = x.representative)
    (equal : y.equal x = true) : (Value.number x).Rereads (.number y) where
  meaning := congrArg Value.number same
  equal := by
    rw [Value.equal]
    exact iff_of_true equal trivial

theorem Value.rereads_of_isNatural {json : Json} {value : Value} (valid : json.Valid)
    (natural : isNatural json = true) (read : Value.ofJson json = .ok value) :
    value.Rereads value := by
  cases json with
  | number number =>
      cases read
      exact rereads_number rfl (Binary64.equal_self (JsonNumber.Valid.isFinite_toBinary64 valid))
  | null | bool | string | array | object => simp [isNatural] at natural

mutual

/-- What is read from a document is also read from the rounded one, up to hidden spans. -/
theorem Value.exists_rereads (json : Json) (valid : json.Valid) {value : Value}
    (read : Value.ofJson json = .ok value) :
    ∃ again, Value.ofJson (roundedDocument json) = .ok again ∧ value.Rereads again := by
  cases json with
  | null =>
      cases read
      exact ⟨.null, rfl, rfl, by simp [Value.equal, Value.Meets]⟩
  | bool truth =>
      cases read
      exact ⟨.bool truth, rfl, rfl, by simp [Value.equal, Value.Meets]⟩
  | string content =>
      cases read
      exact ⟨.text content, rfl, rfl, by simp [Value.equal, Value.Meets]⟩
  | number number =>
      cases read
      exact ⟨.number number.rounded.toBinary64, rfl,
        Value.rereads_number number.representative_rounded (JsonNumber.Valid.equal_rounded valid)⟩
  | array items =>
      obtain ⟨values, inner, rfl⟩ := exists_of_map_eq_ok read
      obtain ⟨again, innerAgain, rereads⟩ := exists_itemsReread items valid inner
      refine ⟨.list again, ?_, ?_, ?_⟩
      · rw [roundedDocument, Value.ofJson, innerAgain]
        rfl
      · rw [Value.meaning_list, Value.meaning_list, map_meaning_of_rereads rereads]
      · rw [Value.equal, Value.Meets]
        exact itemsEqual_iff rereads
  | object members =>
      obtain ⟨entries, inner, ⟨absent, rfl⟩ | ⟨kind, typed, rfl⟩⟩ :=
        Value.ofJson_object_eq_ok read
      · obtain ⟨again, innerAgain, rereads⟩ :=
          exists_entriesReread false members valid.2 inner (by simp)
        have absentAgain : Dictionary.find? (roundedMembers false members) "type" = none := by
          rw [find?_roundedMembers, absent]
          rfl
        refine ⟨.map again, ?_, ?_, ?_⟩
        · rw [roundedDocument, hasSpan_of_untyped absent]
          simp only [Value.ofJson, absentAgain, innerAgain]
          rfl
        · rw [Value.meaning_map, Value.meaning_map, entriesMeaning_of_rereads rereads]
        · rw [Value.equal, Value.Meets, entriesEqual_iff rereads]
          exact (and_iff_right trivial).symm
      · -- The node keeps a span only when both positions are natural numbers.
        have positions : (spanOf? members).isSome = true → ∀ member ∈ members,
            isPositionName member.1 = true → isNatural member.2 = true := by
          intro told member stored position
          rw [isSome_spanOf?, Bool.and_eq_true] at told
          have found := Dictionary.find?_of_mem valid.1 stored
          simp only [isPositionName, Bool.or_eq_true, beq_iff_eq] at position
          rcases position with same | same
          · rw [same] at found
            simpa [found] using told.1
          · rw [same] at found
            simpa [found] using told.2
        obtain ⟨again, innerAgain, rereads⟩ :=
          exists_entriesReread (spanOf? members).isSome members valid.2 inner positions
        have typedAgain :
            Dictionary.find? (roundedMembers (spanOf? members).isSome members) "type" =
              some (.string kind) := by
          have notPosition : isPositionName "type" = false := by decide
          rw [find?_roundedMembers, typed, notPosition, Bool.and_false]
          rfl
        refine ⟨_, ?_, Node.rereads_ofEntries valid.2 inner innerAgain rereads⟩
        rw [roundedDocument, hasSpan_of_type typed]
        simp only [Value.ofJson, typedAgain, innerAgain]
        rfl

theorem exists_itemsReread (items : List Json) (valid : ItemsValid items) {values : List Value}
    (read : itemsOfJson items = .ok values) :
    ∃ again, itemsOfJson (roundedItems items) = .ok again ∧
      List.Forall₂ Value.Rereads values again := by
  match items with
  | [] =>
      cases read
      exact ⟨[], rfl, .nil⟩
  | item :: rest =>
      obtain ⟨first, others, firstRead, othersRead, rfl⟩ := itemsOfJson_cons_eq_ok read
      obtain ⟨firstAgain, firstReadAgain, firstRereads⟩ :=
        Value.exists_rereads item valid.1 firstRead
      obtain ⟨othersAgain, othersReadAgain, othersReread⟩ :=
        exists_itemsReread rest valid.2 othersRead
      refine ⟨firstAgain :: othersAgain, ?_, .cons firstRereads othersReread⟩
      simp only [roundedItems, itemsOfJson, firstReadAgain, othersReadAgain]

theorem exists_entriesReread (spanKept : Bool) (members : List (String × Json))
    (valid : MembersValid members) {entries : List (String × Value)}
    (read : entriesOfJson members = .ok entries)
    (positions : spanKept = true → ∀ member ∈ members,
      isPositionName member.1 = true → isNatural member.2 = true) :
    ∃ again, entriesOfJson (roundedMembers spanKept members) = .ok again ∧
      List.Forall₂ EntryRereads entries again := by
  match members with
  | [] =>
      cases read
      exact ⟨[], rfl, .nil⟩
  | (name, json) :: rest =>
      obtain ⟨first, others, firstRead, othersRead, rfl⟩ := entriesOfJson_cons_eq_ok read
      obtain ⟨othersAgain, othersReadAgain, othersReread⟩ :=
        exists_entriesReread spanKept rest valid.2 othersRead fun kept member stored =>
          positions kept member (List.mem_cons_of_mem _ stored)
      obtain ⟨firstAgain, firstReadAgain, firstRereads⟩ :
          ∃ again, Value.ofJson (if spanKept && isPositionName name then json
            else roundedDocument json) = .ok again ∧ first.Rereads again := by
        split
        · next told =>
            -- The position of a span is kept as it is, so it reads as before.
            obtain ⟨kept, position⟩ := Bool.and_eq_true_iff.1 told
            have natural := positions kept (name, json) List.mem_cons_self position
            exact ⟨first, firstRead, Value.rereads_of_isNatural valid.1 natural firstRead⟩
        · exact Value.exists_rereads json valid.1 firstRead
      refine ⟨(name, firstAgain) :: othersAgain, ?_, .cons ⟨rfl, firstRereads⟩ othersReread⟩
      simp only [roundedMembers, entriesOfJson, firstReadAgain, othersReadAgain]

end

/-- A tree that was read can be written and read again.  What comes back means the same and is
written the same, and it is the same tree exactly when no node hides a span. -/
theorem reread_of_ofJson {document : Json} {tree : Node} (valid : document.Valid)
    (read : Node.ofJson document = .ok tree) :
    ∃ again, Node.ofJson tree.toJson = .ok again ∧
      again.canonicalText = tree.canonicalText ∧ again.toJson = tree.toJson ∧
      (again.equal tree = true ↔ tree.Meets .spansShown) := by
  have value := Node.ofJson_eq_ok_iff.1 read
  have written : tree.toJson = roundedDocument document := Value.toJson_ofJson document valid value
  obtain ⟨again, valueAgain, rereads⟩ := Value.exists_rereads document valid value
  obtain ⟨node, rfl⟩ : ∃ node, again = .node node := by
    have meaning := rereads.meaning
    cases again with
    | node node => exact ⟨node, rfl⟩
    | null | bool | number | text | list | map => cases meaning
  have equal : node.equal tree = true ↔ tree.Meets .spansShown := by
    have values := rereads.equal
    rwa [Value.equal, Value.Meets] at values
  have writtenAgain : node.toJson = roundedDocument (roundedDocument document) :=
    Value.toJson_ofJson _ (valid_roundedDocument document valid) valueAgain
  refine ⟨node, ?_, ?_, ?_, equal⟩
  · rw [written]
    exact Node.ofJson_eq_ok_iff.2 valueAgain
  · have texts := Value.canonicalText_of_meaning rereads.meaning
    rwa [Value.canonicalText_node, Value.canonicalText_node] at texts
  · rw [writtenAgain, roundedDocument_rounded, written]

def lateSpan : Json :=
  .object
    [("end", .number (.integer 2)), ("start", .number (.float (.ofInt 1))),
      ("type", .string "Identifier")]

theorem reread_of_ofJson_lateSpan :
    ∃ tree again, Node.ofJson lateSpan = .ok tree ∧ Node.ofJson tree.toJson = .ok again ∧
      again.canonicalText = tree.canonicalText ∧ again.equal tree = false := by
  have valid : lateSpan.Valid := by decide +kernel
  obtain ⟨again, read, texts, -, equal⟩ := reread_of_ofJson valid rfl
  refine ⟨_, again, rfl, read, texts, ?_⟩
  rw [← Bool.not_eq_true, equal]
  intro shown
  apply (Node.meets_iff.1 shown).1
  exact (Node.hidesSpan_ofEntries valid.2 rfl "Identifier").2 (by decide +kernel)

end Ast

end Reparse
