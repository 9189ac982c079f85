import Reparse.Json.Reader
import Reparse.Proofs.Json.Valid

namespace Reparse

namespace JsonNumber

open Binary64

theorem powerCode_large {power : Nat} (positive : 0 < power) :
    2 * unitsPerOne ≤ scaledOfCode (powerCode power) := by
  apply two_le_scaledOfCode_nearestCode
  have ten : 10 ^ 1 ≤ 10 ^ power := Nat.pow_le_pow_right (by decide) positive
  exact Nat.le_trans (by decide) ten

theorem scaleCode?_lt {code scaled : Nat} {exponent : Int} (finite : code < infinityCode)
    (read : scaleCode? code exponent = some scaled) : scaled < infinityCode := by
  fun_induction scaleCode? code exponent with
  | case1 code exponent near negative =>
      cases read
      exact divCode_lt_infinityCode finite (powerCode_large (by omega))
  | case2 => simp at read
  | case3 code exponent near positive product notInfinite =>
      rw [← Option.some.inj read]
      exact Nat.lt_of_le_of_ne (nearestCode_le_infinityCode _ _) notInfinite
  | case4 =>
      cases read
      decide
  | case5 code exponent far nonzero negative induction =>
      exact induction (divCode_lt_infinityCode finite (powerCode_large (by decide))) read
  | case6 => contradiction

theorem absorb_lt {value : Nat} (bounded : value < 2 ^ 64) (digits : List Char) :
    (absorb value digits).1 < 2 ^ 64 := by
  fun_induction absorb value digits with
  | case1 => exact bounded
  | case2 value digit rest fits induction => exact induction fits
  | case3 => exact bounded

theorem valid_ofParts? {negative : Bool} {significand : Nat} {exponent : Int}
    {number : JsonNumber} (bounded : significand < 2 ^ 64)
    (read : ofParts? negative significand exponent = some number) : number.Valid := by
  obtain ⟨code, scaled, rfl⟩ := Option.map_eq_some_iff.1 read
  have finite := nearestCode_one_lt_infinityCode (Nat.le_of_lt bounded)
  exact isFinite_ofCode (scaleCode?_lt finite scaled) negative

theorem valid_ofWhole {value : Nat} (negative : Bool) (bounded : value < 2 ^ 64) :
    (ofWhole negative value).Valid := by
  unfold ofWhole
  split
  · split
    · exact isFinite_ofCode (nearestCode_one_lt_infinityCode (Nat.le_of_lt bounded)) true
    · simp only [JsonNumber.Valid]
      omega
  · simp only [JsonNumber.Valid]
    omega

theorem valid_ofNumeral? {negative : Bool} {whole : List Char} {fraction : Option (List Char)}
    {exponent : Option Int} {number : JsonNumber}
    (read : ofNumeral? negative whole fraction exponent = some number) : number.Valid := by
  have bounded := absorb_lt (by decide : 0 < 2 ^ 64) whole
  simp only [ofNumeral?] at read
  split at read
  · cases read
    exact valid_ofWhole negative bounded
  · exact valid_ofParts? bounded read
  · exact valid_ofParts? (absorb_lt bounded _) read

theorem valid_readUnsigned? {negative : Bool} {text rest : List Char} {number : JsonNumber}
    (read : readUnsigned? negative text = some (number, rest)) : number.Valid := by
  simp only [readUnsigned?, Option.bind_eq_bind, Option.bind_eq_some_iff, Option.pure_def,
    Option.some.injEq, Prod.mk.injEq] at read
  obtain ⟨whole, -, fraction, -, exponent, -, found, numeral, rfl, -⟩ := read
  exact valid_ofNumeral? numeral

theorem valid_read? {text rest : List Char} {number : JsonNumber}
    (read : read? text = some (number, rest)) : number.Valid := by
  unfold read? at read
  split at read
  · exact valid_readUnsigned? read
  · exact valid_readUnsigned? read

end JsonNumber

theorem membersValid_insert {members : List (String × Json)} {json : Json} (name : String)
    (valid : MembersValid members) (new : json.Valid) :
    MembersValid (Dictionary.insert members name json) := by
  refine membersValid_iff.2 fun member inserted => ?_
  rcases Dictionary.mem_of_mem_insert inserted with old | rfl
  · exact membersValid_iff.1 valid member old
  · exact new

theorem membersValid_insertAll {members added : List (String × Json)}
    (valid : MembersValid members) (new : MembersValid added) :
    MembersValid (Dictionary.insertAll members added) := by
  induction added generalizing members with
  | nil => exact valid
  | cons member rest induction => exact induction (membersValid_insert _ valid new.1) new.2

namespace Json

theorem valid_ofMembers {members : List (String × Json)} (valid : MembersValid members) :
    (ofMembers members).Valid :=
  ⟨Dictionary.ordered_ofList members, membersValid_insertAll trivial valid⟩

mutual

theorem valid_readValue (fuel depth : Nat) {text rest : List Char} {json : Json}
    (read : readValue fuel depth text = some (json, rest)) : json.Valid := by
  match fuel with
  | 0 => contradiction
  | fuel + 1 =>
      simp only [readValue] at read
      split at read
      · cases read
        trivial
      · cases read
        trivial
      · cases read
        trivial
      · obtain ⟨content, -, same⟩ := Option.map_eq_some_iff.1 read
        cases same
        trivial
      · split at read
        · contradiction
        · split at read
          · cases read
            trivial
          · obtain ⟨items, found, same⟩ := Option.map_eq_some_iff.1 read
            cases same
            exact valid_readItems fuel _ found
      · split at read
        · contradiction
        · split at read
          · cases read
            exact ⟨List.Pairwise.nil, trivial⟩
          · obtain ⟨members, found, same⟩ := Option.map_eq_some_iff.1 read
            cases same
            exact valid_ofMembers (valid_readMembers fuel _ found)
      · obtain ⟨number, found, same⟩ := Option.map_eq_some_iff.1 read
        cases same
        exact JsonNumber.valid_read? found

theorem valid_readItems (fuel depth : Nat) {text rest : List Char} {items : List Json}
    (read : readItems fuel depth text = some (items, rest)) : ItemsValid items := by
  match fuel with
  | 0 => contradiction
  | fuel + 1 =>
      simp only [readItems] at read
      split at read
      · contradiction
      · next item _ first =>
          have itemValid := valid_readValue fuel depth first
          split at read
          · cases read
            exact ⟨itemValid, trivial⟩
          · obtain ⟨others, found, same⟩ := Option.map_eq_some_iff.1 read
            cases same
            exact ⟨itemValid, valid_readItems fuel depth found⟩
          · contradiction

theorem valid_readMembers (fuel depth : Nat) {text rest : List Char}
    {members : List (String × Json)}
    (read : readMembers fuel depth text = some (members, rest)) : MembersValid members := by
  match fuel with
  | 0 => contradiction
  | fuel + 1 =>
      simp only [readMembers] at read
      split at read
      · split at read
        · contradiction
        · split at read
          · split at read
            · contradiction
            · next first =>
                have memberValid := valid_readValue fuel depth first
                split at read
                · cases read
                  exact ⟨memberValid, trivial⟩
                · obtain ⟨others, found, same⟩ := Option.map_eq_some_iff.1 read
                  cases same
                  exact ⟨memberValid, valid_readMembers fuel depth found⟩
                · contradiction
          · contradiction
      · contradiction

end

/-- Every document that is read is one that can be held. -/
theorem valid_of_parse? {text : List Char} {document : Json}
    (read : parse? text = some document) : document.Valid := by
  unfold parse? at read
  split at read
  · next found =>
      split at read
      · cases read
        exact valid_readValue _ _ found
      · contradiction
  · contradiction

end Json

end Reparse
