import Reparse.Json.Basic
import Reparse.Proofs.Binary64.Integer
import Reparse.Proofs.Dictionary

namespace Reparse

/-- An integer of a machine word, with or without a sign, or a finite double. -/
def JsonNumber.Valid : JsonNumber → Prop
  | .integer value => -2 ^ 63 ≤ value ∧ value < 2 ^ 64
  | .float value => value.isFinite = true

mutual

def Json.Valid : Json → Prop
  | .number number => number.Valid
  | .array items => ItemsValid items
  | .object members => Dictionary.Ordered members ∧ MembersValid members
  | _ => True

def ItemsValid : List Json → Prop
  | [] => True
  | item :: rest => item.Valid ∧ ItemsValid rest

def MembersValid : List (String × Json) → Prop
  | [] => True
  | (_, json) :: rest => json.Valid ∧ MembersValid rest

end

instance : DecidablePred JsonNumber.Valid
  | .integer value => inferInstanceAs (Decidable (-2 ^ 63 ≤ value ∧ value < 2 ^ 64))
  | .float value => inferInstanceAs (Decidable (value.isFinite = true))

mutual

instance Json.decidableValid : (json : Json) → Decidable json.Valid
  | .number number => inferInstanceAs (Decidable number.Valid)
  | .array items => decidableItemsValid items
  | .object members =>
      have := decidableMembersValid members
      have : Decidable (Dictionary.Ordered members) :=
        inferInstanceAs (Decidable (members.Pairwise fun left right => left.1 < right.1))
      inferInstanceAs (Decidable (Dictionary.Ordered members ∧ MembersValid members))
  | .null | .bool _ | .string _ => .isTrue trivial

instance decidableItemsValid : (items : List Json) → Decidable (ItemsValid items)
  | [] => .isTrue trivial
  | item :: rest =>
      have := item.decidableValid
      have := decidableItemsValid rest
      inferInstanceAs (Decidable (item.Valid ∧ ItemsValid rest))

instance decidableMembersValid : (members : List (String × Json)) → Decidable (MembersValid members)
  | [] => .isTrue trivial
  | (_, json) :: rest =>
      have := json.decidableValid
      have := decidableMembersValid rest
      inferInstanceAs (Decidable (json.Valid ∧ MembersValid rest))

end

theorem membersValid_iff {members : List (String × Json)} :
    MembersValid members ↔ ∀ member ∈ members, member.2.Valid := by
  induction members with
  | nil => simp [MembersValid]
  | cons member rest induction => simp [MembersValid, induction]

namespace JsonNumber

theorem Valid.isFinite_toBinary64 {number : JsonNumber} (valid : number.Valid) :
    number.toBinary64.isFinite = true := by
  cases number with
  | integer value =>
      have bounded : value.natAbs ≤ 2 ^ 64 := by
        have := valid.1
        have := valid.2
        omega
      exact Binary64.isFinite_ofInt bounded
  | float value => exact valid

def rounded (number : JsonNumber) : JsonNumber :=
  match number.toBinary64.smallInteger? with
  | some value => .integer value
  | none => .float number.toBinary64

/-- The number form of a double is an integer exactly when the double is one below `2 ^ 53`. -/
def IsFormOf (x : Binary64) : JsonNumber → Prop
  | .integer value => x.toRat = value ∧ value.natAbs < 2 ^ 53
  | .float y => y = x ∧ ¬∃ value : Int, x.toRat = value ∧ value.natAbs < 2 ^ 53

theorem Valid.rounded_isFormOf {number : JsonNumber} (valid : number.Valid) :
    IsFormOf number.toBinary64 number.rounded := by
  unfold rounded
  split
  · next value small => exact (Binary64.smallInteger?_eq_some_iff.1 small).2
  · next large =>
      refine ⟨rfl, ?_⟩
      rintro ⟨value, number, bounded⟩
      have small :=
        Binary64.smallInteger?_eq_some_iff.2 ⟨valid.isFinite_toBinary64, number, bounded⟩
      rw [large] at small
      contradiction

theorem ofBinary64?_toBinary64 {number : JsonNumber} (valid : number.Valid) :
    ofBinary64? number.toBinary64 = some number.rounded := by
  unfold ofBinary64? rounded
  cases number.toBinary64.smallInteger? with
  | some value => rfl
  | none => exact if_pos valid.isFinite_toBinary64

theorem Valid.rounded {number : JsonNumber} (valid : number.Valid) : number.rounded.Valid := by
  unfold JsonNumber.rounded
  split
  · next value small =>
      have bounded := (Binary64.smallInteger?_eq_some_iff.1 small).2.2
      simp only [JsonNumber.Valid]
      omega
  · exact valid.isFinite_toBinary64

theorem rounded_rounded (number : JsonNumber) : number.rounded.rounded = number.rounded := by
  cases small : number.toBinary64.smallInteger? with
  | some value =>
      have first : number.rounded = .integer value := by rw [rounded, small]
      rw [first, rounded, toBinary64, Binary64.smallInteger?_ofInt small]
  | none =>
      have first : number.rounded = .float number.toBinary64 := by rw [rounded, small]
      rw [first, rounded, toBinary64, small]

theorem Valid.equal_rounded {number : JsonNumber} (valid : number.Valid) :
    number.rounded.toBinary64.equal number.toBinary64 = true := by
  unfold JsonNumber.rounded
  split
  · next value small => exact Binary64.equal_ofInt small
  · exact Binary64.equal_self valid.isFinite_toBinary64

theorem representative_rounded (number : JsonNumber) :
    number.rounded.toBinary64.representative = number.toBinary64.representative := by
  unfold rounded
  split
  · next value small => exact Binary64.representative_ofInt small
  · rfl

theorem Valid.natural?_rounded {number : JsonNumber} (valid : number.Valid) :
    (∃ position, number.rounded.natural? = some position) ↔
      ∃ position : Nat, number.toBinary64.toRat = position ∧ position < 2 ^ 53 := by
  have form := valid.rounded_isFormOf
  cases shape : number.rounded with
  | integer value =>
      rw [shape] at form
      obtain ⟨exactly, bounded⟩ := form
      cases value with
      | ofNat position => simpa [natural?] using ⟨position, exactly, bounded⟩
      | negSucc below =>
          rw [exactly]
          simp only [natural?, reduceCtorEq, exists_false, false_iff, not_exists]
          rintro position ⟨same, -⟩
          have whole : Int.negSucc below = (position : Int) := by exact_mod_cast same
          contradiction
  | float x =>
      rw [shape] at form
      simp only [natural?, reduceCtorEq, exists_false, false_iff, not_exists]
      rintro position ⟨exactly, bounded⟩
      exact form.2 ⟨position, by exact_mod_cast exactly, by simpa using bounded⟩

end JsonNumber

end Reparse
