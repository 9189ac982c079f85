import Reparse.Proofs.Ast.Reading
import Reparse.Proofs.Json.Valid

namespace Reparse

namespace Ast

def isNatural : Json → Bool
  | .number (.integer (.ofNat _)) => true
  | _ => false

def hasSpan (members : List (String × Json)) : Bool :=
  Dictionary.contains members "type" && (Dictionary.find? members "start").any isNatural &&
    (Dictionary.find? members "end").any isNatural

mutual

/-- The document with each number in the form of its double, positions of spans excepted. -/
def roundedDocument : Json → Json
  | .number number => .number number.rounded
  | .array items => .array (roundedItems items)
  | .object members => .object (roundedMembers (hasSpan members) members)
  | json => json

def roundedItems : List Json → List Json
  | [] => []
  | item :: rest => roundedDocument item :: roundedItems rest

def roundedMembers (spanKept : Bool) : List (String × Json) → List (String × Json)
  | [] => []
  | (name, json) :: rest =>
      (name, if spanKept && isPositionName name then json else roundedDocument json) ::
        roundedMembers spanKept rest

end

theorem roundedMembers_eq_map (spanKept : Bool) (members : List (String × Json)) :
    roundedMembers spanKept members =
      members.map fun member =>
        (member.1, if spanKept && isPositionName member.1 then member.2
          else roundedDocument member.2) := by
  induction members with
  | nil => rfl
  | cons member rest induction => simp [roundedMembers, induction]

theorem find?_roundedMembers (spanKept : Bool) (members : List (String × Json)) (name : String) :
    Dictionary.find? (roundedMembers spanKept members) name =
      (Dictionary.find? members name).map fun json =>
        if spanKept && isPositionName name then json else roundedDocument json := by
  rw [roundedMembers_eq_map]
  exact Dictionary.find?_map members
    (fun name json => if spanKept && isPositionName name then json else roundedDocument json) name

theorem ordered_roundedMembers {members : List (String × Json)} (spanKept : Bool)
    (ordered : Dictionary.Ordered members) :
    Dictionary.Ordered (roundedMembers spanKept members) := by
  rw [roundedMembers_eq_map]
  exact Dictionary.ordered_map ordered
    fun name json => if spanKept && isPositionName name then json else roundedDocument json

theorem isNatural_number (number : JsonNumber) :
    isNatural (.number number) = true ↔ ∃ position, number.natural? = some position := by
  cases number with
  | integer value => cases value <;> simp [isNatural, JsonNumber.natural?]
  | float x => simp [isNatural, JsonNumber.natural?]

theorem spanOf?_eq_some_iff {members : List (String × Json)} {span : Span} :
    spanOf? members = some span ↔
      Dictionary.find? members "start" = some (.number (.integer span.start)) ∧
        Dictionary.find? members "end" = some (.number (.integer span.stop)) := by
  have natural {number : JsonNumber} {position : Nat} :
      number.natural? = some position ↔ number = .integer position := by
    cases number with
    | integer value => cases value <;> simp [JsonNumber.natural?]
    | float x => simp [JsonNumber.natural?]
  constructor
  · intro told
    unfold spanOf? at told
    split at told
    · next start stop foundStart foundStop =>
        split at told
        · next first last isStart isStop =>
            cases told
            rw [foundStart, foundStop, natural.1 isStart, natural.1 isStop]
            exact ⟨rfl, rfl⟩
        · cases told
    · cases told
  · rintro ⟨foundStart, foundStop⟩
    rw [spanOf?, foundStart, foundStop]
    rfl

theorem isSome_spanOf? (members : List (String × Json)) :
    (spanOf? members).isSome =
      ((Dictionary.find? members "start").any isNatural &&
        (Dictionary.find? members "end").any isNatural) := by
  have position (json : Json) : isNatural json = true ↔
      ∃ value : Nat, json = .number (.integer value) := by
    unfold isNatural
    split
    · simp
    · next other =>
        simp only [Bool.false_eq_true, false_iff, not_exists]
        rintro value rfl
        exact other value rfl
  rw [Bool.eq_iff_iff, Option.isSome_iff_exists]
  simp only [Bool.and_eq_true, Option.any_eq_true, position, spanOf?_eq_some_iff]
  constructor
  · rintro ⟨span, start, stop⟩
    exact ⟨⟨_, start, span.start, rfl⟩, _, stop, span.stop, rfl⟩
  · rintro ⟨⟨_, start, first, rfl⟩, _, stop, last, rfl⟩
    exact ⟨⟨first, last⟩, start, stop⟩

theorem hasSpan_of_type {members : List (String × Json)} {kind : String}
    (typed : Dictionary.find? members "type" = some (.string kind)) :
    hasSpan members = (spanOf? members).isSome := by
  rw [isSome_spanOf?, hasSpan, Dictionary.contains, typed, Option.isSome_some, Bool.true_and]

theorem hasSpan_of_untyped {members : List (String × Json)}
    (absent : Dictionary.find? members "type" = none) : hasSpan members = false := by
  rw [hasSpan, Dictionary.contains, absent, Option.isSome_none, Bool.false_and, Bool.false_and]

mutual

theorem valid_roundedDocument (json : Json) (valid : json.Valid) :
    (roundedDocument json).Valid := by
  cases json with
  | null | bool | string => trivial
  | number number => exact JsonNumber.Valid.rounded valid
  | array items => exact valid_roundedItems items valid
  | object members =>
      exact ⟨ordered_roundedMembers _ valid.1, valid_roundedMembers _ members valid.2⟩

theorem valid_roundedItems (items : List Json) (valid : ItemsValid items) :
    ItemsValid (roundedItems items) := by
  match items with
  | [] => trivial
  | item :: rest => exact ⟨valid_roundedDocument item valid.1, valid_roundedItems rest valid.2⟩

theorem valid_roundedMembers (spanKept : Bool) (members : List (String × Json))
    (valid : MembersValid members) : MembersValid (roundedMembers spanKept members) := by
  match members with
  | [] => trivial
  | (name, json) :: rest =>
      refine ⟨?_, valid_roundedMembers spanKept rest valid.2⟩
      split
      · exact valid.1
      · exact valid_roundedDocument json valid.1

end

theorem hasSpan_roundedMembers {members : List (String × Json)}
    (told : hasSpan members = true) : hasSpan (roundedMembers true members) = true := by
  have start : isPositionName "start" = true := by decide
  have stop : isPositionName "end" = true := by decide
  simp only [hasSpan, Dictionary.contains, find?_roundedMembers, Option.isSome_map] at told ⊢
  simpa [start, stop] using told

mutual

theorem roundedDocument_rounded (json : Json) :
    roundedDocument (roundedDocument json) = roundedDocument json := by
  cases json with
  | null | bool | string => rfl
  | number number => exact congrArg Json.number number.rounded_rounded
  | array items => exact congrArg Json.array (roundedItems_rounded items)
  | object members =>
      have kept : hasSpan members = true →
          hasSpan (roundedMembers (hasSpan members) members) = true := by
        intro told
        rw [told]
        exact hasSpan_roundedMembers told
      exact congrArg Json.object (roundedMembers_rounded kept members)

theorem roundedItems_rounded (items : List Json) :
    roundedItems (roundedItems items) = roundedItems items := by
  match items with
  | [] => rfl
  | item :: rest =>
      simp only [roundedItems]
      rw [roundedDocument_rounded item, roundedItems_rounded rest]

theorem roundedMembers_rounded {spanKept spanKeptThen : Bool}
    (kept : spanKept = true → spanKeptThen = true) (members : List (String × Json)) :
    roundedMembers spanKeptThen (roundedMembers spanKept members) =
      roundedMembers spanKept members := by
  match members with
  | [] => rfl
  | (name, json) :: rest =>
      simp only [roundedMembers]
      rw [roundedMembers_rounded kept rest]
      cases spanKept with
      | true =>
          rw [kept rfl, Bool.true_and]
          split
          · rfl
          · rw [roundedDocument_rounded json]
      | false =>
          rw [Bool.false_and, if_neg Bool.false_ne_true, roundedDocument_rounded json, ite_self]

end

end Ast

end Reparse
