import Reparse.Proofs.Ast.Rounded

namespace Reparse

namespace Ast

theorem entriesToJson_eq_map (entries : List (String × Value)) :
    entriesToJson entries = entries.map fun entry => (entry.1, entry.2.toJson) := by
  induction entries with
  | nil => rfl
  | cons entry rest induction => simp [entriesToJson, induction]

theorem find?_entriesToJson (entries : List (String × Value)) (name : String) :
    Dictionary.find? (entriesToJson entries) name =
      (Dictionary.find? entries name).map Value.toJson := by
  rw [entriesToJson_eq_map]
  exact Dictionary.find?_map entries (fun _ => Value.toJson) name

theorem find?_headMembers_type (kind : Kind) (span : Option Span) :
    Dictionary.find? (headMembers kind span) "type" = some (.string kind.name) := by
  unfold headMembers
  cases span with
  | none =>
      rw [Dictionary.find?_ofList (by simp [Dictionary.names]), Dictionary.find?_cons, if_pos rfl]
  | some span =>
      rw [Dictionary.find?_ofList (by simp [Dictionary.names]), Dictionary.find?_cons, if_pos rfl]

theorem find?_headMembers_of_ne {kind : Kind} {span : Option Span} {name : String}
    (notType : name ≠ "type") (notTold : (span.isSome && isPositionName name) = false) :
    Dictionary.find? (headMembers kind span) name = none := by
  unfold headMembers
  cases span with
  | none =>
      rw [Dictionary.find?_ofList (by simp [Dictionary.names]), Dictionary.find?_cons,
        if_neg (Ne.symm notType), Dictionary.find?_nil]
  | some span =>
      simp only [isPositionName, Option.isSome_some, Bool.true_and, Bool.or_eq_false_iff,
        beq_eq_false_iff_ne] at notTold
      rw [Dictionary.find?_ofList (by simp [Dictionary.names]), Dictionary.find?_cons,
        if_neg (Ne.symm notType), Dictionary.find?_cons, if_neg (Ne.symm notTold.1),
        Dictionary.find?_cons, if_neg (Ne.symm notTold.2), Dictionary.find?_nil]

theorem find?_headMembers_of_told {kind : Kind} {members : List (String × Json)} {span : Span}
    (told : spanOf? members = some span) {name : String} (position : isPositionName name = true) :
    Dictionary.find? (headMembers kind (some span)) name = Dictionary.find? members name := by
  obtain ⟨start, stop⟩ := spanOf?_eq_some_iff.1 told
  simp only [isPositionName, Bool.or_eq_true, beq_iff_eq] at position
  unfold headMembers
  rw [Dictionary.find?_ofList (by simp [Dictionary.names])]
  rcases position with rfl | rfl
  · rw [start]
    rfl
  · rw [stop]
    rfl

theorem ordered_entriesToJson {entries : List (String × Value)}
    (ordered : Dictionary.Ordered entries) : Dictionary.Ordered (entriesToJson entries) := by
  rw [entriesToJson_eq_map]
  exact Dictionary.ordered_map ordered fun _ => Value.toJson

/-- A node made of entries is written as the members that its entries were read from. -/
theorem Node.toJson_ofEntries {members : List (String × Json)} {entries : List (String × Value)}
    {kind : String} (ordered : Dictionary.Ordered members)
    (entriesOrdered : Dictionary.Ordered entries)
    (typed : Dictionary.find? members "type" = some (.string kind))
    (written : entriesToJson entries = roundedMembers false members) :
    (ofEntries kind (spanOf? members) entries).toJson =
      .object (roundedMembers (spanOf? members).isSome members) := by
  have wrote (name : String) : (Dictionary.find? entries name).map Value.toJson =
      (Dictionary.find? members name).map roundedDocument := by
    rw [← find?_entriesToJson, written, find?_roundedMembers]
    rfl
  have distinct (kept : String × Value → Bool) :
      (Dictionary.names (entriesToJson (entries.filter kept))).Nodup :=
    Dictionary.nodup_names (ordered_entriesToJson (Dictionary.ordered_filter entriesOrdered kept))
  have parts : (ofEntries kind (spanOf? members) entries).toJson =
      .object
        (Dictionary.insertAll
          (Dictionary.insertAll (headMembers (.ofName kind) (spanOf? members))
            (entriesToJson (ofEntries kind (spanOf? members) entries).metadata))
          (entriesToJson (ofEntries kind (spanOf? members) entries).fields)) := rfl
  rw [parts, fields_ofEntries, metadata_ofEntries]
  apply congrArg Json.object
  apply Dictionary.ext
  · exact Dictionary.ordered_insertAll
      (Dictionary.ordered_insertAll (Dictionary.ordered_ofList _) _) _
  · exact ordered_roundedMembers _ ordered
  intro name
  rw [Dictionary.find?_insertAll _ (distinct _), Dictionary.find?_insertAll _ (distinct _),
    find?_entriesToJson, find?_entriesToJson,
    Dictionary.find?_filter entries fun name => name != "type" && !isMetadataName name,
    Dictionary.find?_filter entries fun name =>
      isMetadataName name && !((spanOf? members).isSome && isPositionName name),
    find?_roundedMembers]
  by_cases isType : name = "type"
  · subst isType
    have semantic : isMetadataName "type" = false ∧ isPositionName "type" = false := by decide
    rw [find?_headMembers_type, typed, Kind.name_ofName, semantic.1, semantic.2]
    simp [roundedDocument]
  cases told : (spanOf? members).isSome && isPositionName name with
  | true =>
      -- Kept out of the metadata, the position is told by the span.
      obtain ⟨isSome, position⟩ := Bool.and_eq_true_iff.1 told
      obtain ⟨span, found⟩ := Option.isSome_iff_exists.1 isSome
      rw [isMetadataName_of_position position, found, find?_headMembers_of_told found position]
      simp
  | false =>
      rw [find?_headMembers_of_ne isType told]
      cases metadata : isMetadataName name with
      | true => simp [wrote]
      | false => simp [isType, wrote]

mutual

theorem Value.toJson_ofJson (json : Json) (valid : json.Valid) {value : Value}
    (read : Value.ofJson json = .ok value) : value.toJson = roundedDocument json := by
  cases json with
  | null | bool | string =>
      cases read
      rfl
  | number number =>
      cases read
      rw [Value.toJson, JsonNumber.ofBinary64?_toBinary64 valid]
      rfl
  | array items =>
      obtain ⟨values, inner, rfl⟩ := exists_of_map_eq_ok read
      rw [Value.toJson, itemsToJson_itemsOfJson items valid inner]
      rfl
  | object members =>
      obtain ⟨entries, inner, ⟨absent, rfl⟩ | ⟨kind, typed, rfl⟩⟩ :=
        Value.ofJson_object_eq_ok read
      · have written := entriesToJson_entriesOfJson members valid.2 inner
        rw [Value.toJson, written, roundedDocument, hasSpan_of_untyped absent]
      · have written := entriesToJson_entriesOfJson members valid.2 inner
        rw [Value.toJson, roundedDocument, hasSpan_of_type typed]
        exact Node.toJson_ofEntries valid.1 (ordered_entriesOfJson inner valid.1) typed written

theorem itemsToJson_itemsOfJson (items : List Json) (valid : ItemsValid items)
    {values : List Value} (read : itemsOfJson items = .ok values) :
    itemsToJson values = roundedItems items := by
  match items with
  | [] =>
      cases read
      rfl
  | item :: rest =>
      obtain ⟨first, others, firstRead, othersRead, rfl⟩ := itemsOfJson_cons_eq_ok read
      rw [itemsToJson, Value.toJson_ofJson item valid.1 firstRead,
        itemsToJson_itemsOfJson rest valid.2 othersRead, roundedItems]

theorem entriesToJson_entriesOfJson (members : List (String × Json))
    (valid : MembersValid members) {entries : List (String × Value)}
    (read : entriesOfJson members = .ok entries) :
    entriesToJson entries = roundedMembers false members := by
  match members with
  | [] =>
      cases read
      rfl
  | (name, json) :: rest =>
      obtain ⟨first, others, firstRead, othersRead, rfl⟩ := entriesOfJson_cons_eq_ok read
      rw [entriesToJson, Value.toJson_ofJson json valid.1 firstRead,
        entriesToJson_entriesOfJson rest valid.2 othersRead]
      rfl

end

/-- A tree is written back as its document, but for the form of numbers.  Positions of a span are
kept as they are, and every other number has the form of its double: an integer where that is one
below `2 ^ 53`, and the double otherwise. -/
theorem toJson_of_ofJson {document : Json} {tree : Node} (valid : document.Valid)
    (read : Node.ofJson document = .ok tree) :
    tree.toJson = roundedDocument document ∧
      ∀ number : JsonNumber, number.Valid → number.rounded.IsFormOf number.toBinary64 := by
  have value := Node.ofJson_eq_ok_iff.1 read
  refine ⟨?_, fun _ valid => valid.rounded_isFormOf⟩
  have written := Value.toJson_ofJson document valid value
  rwa [Value.toJson] at written

def largestSpan : Json :=
  .object
    [("end", .number (.integer (2 ^ 64 - 1))),
      ("extra", .object [("start", .number (.float (.ofInt 1)))]),
      ("start", .number (.integer 0)), ("type", .string "File")]

theorem toJson_of_ofJson_largestSpan :
    ∃ tree, Node.ofJson largestSpan = .ok tree ∧
      tree.toJson =
        .object
          [("end", .number (.integer (2 ^ 64 - 1))),
            ("extra", .object [("start", .number (.integer 1))]),
            ("start", .number (.integer 0)), ("type", .string "File")] := by
  have valid : largestSpan.Valid := by decide +kernel
  have one : (JsonNumber.float (.ofInt 1)).rounded = .integer 1 := by decide +kernel
  refine ⟨_, rfl, (toJson_of_ofJson valid rfl).1.trans ?_⟩
  simp only [largestSpan, roundedDocument, roundedMembers, one]
  rfl

end Ast

end Reparse
