import Reparse.Json.Reader
import Reparse.Proofs.Json.Grammar

namespace Reparse

namespace Json

open JsonNumber

/-- Wherever a number could end, the reader takes a text for a value, inside containers of which
`depth` more may be opened. -/
structure Reads (depth : Nat) (text : List Char) (json : Json) : Prop where
  begins : ∃ c rest, text = c :: rest ∧ isSpace c = false ∧ c ≠ ']'
  reads : ∀ fuel rest, text.length ≤ fuel → EndsNumeral rest →
    readValue fuel depth (text ++ rest) = some (json, rest)

theorem skipSpace_cons {c : Char} (solid : isSpace c = false) (rest : List Char) :
    skipSpace (c :: rest) = c :: rest := by
  simp [skipSpace, solid]

theorem endsNumeral_cons {c : Char} (mark : c ∈ [',', ']', '\x7d']) (rest : List Char) :
    EndsNumeral (c :: rest) := by
  intro first found
  cases found
  have all : ∀ c ∈ [',', ']', '\x7d'], c.isDigit = false ∧ c ∉ ['.', 'e', 'E'] :=
    List.all_iff_forall_prop.1 (by decide)
  exact all c mark

namespace Reads

variable {depth : Nat}

theorem exists_fuel {text : List Char} {fuel : Nat} (long : text ≠ [])
    (enough : text.length ≤ fuel) : ∃ less, fuel = less + 1 := by
  have := List.length_pos_iff.2 long
  exact ⟨fuel - 1, by omega⟩

theorem null : Reads depth ['n', 'u', 'l', 'l'] .null where
  begins := ⟨_, _, rfl, by decide, by decide⟩
  reads := by
    intro fuel rest enough _
    obtain ⟨fuel, rfl⟩ := exists_fuel (by simp) enough
    simp [readValue, skipSpace, isSpace]

theorem true : Reads depth ['t', 'r', 'u', 'e'] (.bool true) where
  begins := ⟨_, _, rfl, by decide, by decide⟩
  reads := by
    intro fuel rest enough _
    obtain ⟨fuel, rfl⟩ := exists_fuel (by simp) enough
    simp [readValue, skipSpace, isSpace]

theorem false : Reads depth ['f', 'a', 'l', 's', 'e'] (.bool false) where
  begins := ⟨_, _, rfl, by decide, by decide⟩
  reads := by
    intro fuel rest enough _
    obtain ⟨fuel, rfl⟩ := exists_fuel (by simp) enough
    simp [readValue, skipSpace, isSpace]

theorem string (content : List Char) :
    Reads depth (Quoted.encode content) (.string (String.ofList content)) where
  begins := ⟨_, _, rfl, by decide, by decide⟩
  reads := by
    intro fuel rest enough _
    obtain ⟨fuel, rfl⟩ := exists_fuel (by simp [Quoted.encode]) enough
    have body := Quoted.decode?_escape content rest
    simp [Quoted.encode, readValue, skipSpace, isSpace, body]

/-- The characters that a number cannot begin with, but a value can. -/
def openings : List Char :=
  ['n', 't', 'f', '"', '[', '\x7b']

theorem text_eq_cons (numeral : Numeral) :
    ∃ lead others, numeral.text = lead :: others ∧ isSpace lead = Bool.false ∧ lead ≠ ']' ∧
      lead ∉ openings := by
  obtain ⟨digit, others, parts, isDigit⟩ := numeral.whole_eq_cons
  rw [Numeral.text, parts]
  cases numeral.negative with
  | true => exact ⟨'-', _, rfl, by decide, by decide, by decide⟩
  | false =>
      have apart {c : Char} (letter : c.isDigit = Bool.false) : digit ≠ c :=
        Decimal.isDigit_ne isDigit letter
      refine ⟨digit, _, rfl, ?_, apart (by decide), fun member => ?_⟩
      · simp [isSpace, apart]
      · have all : ∀ c ∈ openings, c.isDigit = Bool.false :=
          List.all_iff_forall_prop.1 (by decide)
        exact apart (all digit member) rfl

theorem number {numeral : Numeral} {value : JsonNumber}
    (read : read? numeral.text = some (value, [])) : Reads depth numeral.text (.number value) := by
  obtain ⟨lead, others, parts, solid, bracket, number⟩ := text_eq_cons numeral
  refine ⟨⟨lead, others, parts, solid, bracket⟩, fun fuel rest enough ends => ?_⟩
  obtain ⟨fuel, rfl⟩ := exists_fuel (by simp [parts]) enough
  have found := numeral.read?_text_append_of_read? ends read
  rw [parts, List.cons_append] at found ⊢
  rw [readValue, skipSpace_cons solid]
  have apart {c : Char} {tail : List Char} (same : lead :: (others ++ rest) = c :: tail) :
      c ∉ openings :=
    (List.cons.inj same).1 ▸ number
  split
  · next same => exact absurd (by decide) (apart same)
  · next same => exact absurd (by decide) (apart same)
  · next same => exact absurd (by decide) (apart same)
  · next same => exact absurd (by decide) (apart same)
  · next same => exact absurd (by decide) (apart same)
  · next same => exact absurd (by decide) (apart same)
  · rw [found]
    rfl

theorem readItems_joined {texts : List (List Char)} {items : List Json}
    (all : List.Forall₂ (Reads depth) texts items) (begun : texts ≠ []) (fuel : Nat)
    (enough : (joined texts).length < fuel) (rest : List Char) :
    readItems fuel depth (joined texts ++ ']' :: rest) = some (items, rest) := by
  induction all generalizing fuel with
  | nil => contradiction
  | @cons text item texts items first others induction =>
      obtain ⟨fuel, rfl⟩ : ∃ less, fuel = less + 1 := ⟨fuel - 1, by omega⟩
      cases others with
      | nil =>
          simp only [joined, List.flatMap_nil, List.append_nil] at enough ⊢
          have read := first.reads fuel (']' :: rest) (by omega) (endsNumeral_cons (by decide) _)
          simp [readItems, read, skipSpace, isSpace]
      | @cons next nextItem texts items second others =>
          rw [joined_cons_cons] at enough ⊢
          simp only [List.length_append, List.length_cons] at enough
          rw [List.append_assoc, List.cons_append]
          have read := first.reads fuel (',' :: (joined (next :: texts) ++ ']' :: rest)) (by omega)
            (endsNumeral_cons (by decide) _)
          have more := induction (by simp) fuel (by omega)
          simp [readItems, read, skipSpace, isSpace, more]

theorem begins_joined {text : List Char} {item : Json} (first : Reads depth text item)
    (texts : List (List Char)) :
    ∃ c rest, joined (text :: texts) = c :: rest ∧ isSpace c = Bool.false ∧ c ≠ ']' := by
  obtain ⟨c, rest, rfl, solid, bracket⟩ := first.begins
  exact ⟨c, _, rfl, solid, bracket⟩

theorem array {texts : List (List Char)} {items : List Json}
    (all : List.Forall₂ (Reads depth) texts items) :
    Reads (depth + 1) ('[' :: joined texts ++ [']']) (.array items) where
  begins := ⟨_, _, rfl, by decide, by decide⟩
  reads := by
    intro fuel rest enough ends
    obtain ⟨fuel, rfl⟩ := exists_fuel (by simp) enough
    simp only [List.length_cons, List.length_append] at enough
    have bracket : isSpace '[' = Bool.false := by decide
    rw [List.cons_append, List.cons_append, List.append_assoc, List.singleton_append, readValue,
      skipSpace_cons bracket]
    cases all with
    | nil => rfl
    | @cons text item texts items first others =>
        have body := readItems_joined (.cons first others) (by simp) fuel (by omega) rest
        obtain ⟨c, behind, parts, solid, closing⟩ := begins_joined first texts
        rw [parts] at body ⊢
        rw [List.cons_append] at body ⊢
        simp only [skipSpace_cons solid]
        split
        · next same => exact absurd (List.cons.inj same).1 closing
        · rw [body]
          rfl

def ReadsMember (depth : Nat) (member : String × List Char) (read : String × Json) : Prop :=
  member.1 = read.1 ∧ Reads depth member.2 read.2

theorem readMembers_joined {texts : List (String × List Char)} {members : List (String × Json)}
    (all : List.Forall₂ (ReadsMember depth) texts members) (begun : texts ≠ []) (fuel : Nat)
    (enough : (joined (texts.map memberText)).length < fuel) (rest : List Char) :
    readMembers fuel depth (joined (texts.map memberText) ++ '\x7d' :: rest) =
      some (members, rest) := by
  induction all generalizing fuel with
  | nil => contradiction
  | @cons text member texts members first others induction =>
      obtain ⟨fuel, rfl⟩ : ∃ less, fuel = less + 1 := ⟨fuel - 1, by omega⟩
      obtain ⟨name, text⟩ := text
      obtain ⟨_, value⟩ := member
      obtain ⟨rfl, first⟩ := first
      have short := length_lt_memberText (name, text)
      cases others with
      | nil =>
          simp only [List.map_cons, List.map_nil, joined, List.flatMap_nil, List.append_nil]
            at enough ⊢
          have read := first.reads fuel ('\x7d' :: rest) (by omega) (endsNumeral_cons (by decide) _)
          rw [memberText_append]
          simp [readMembers, Quoted.decode?_escape, read, skipSpace, isSpace]
      | @cons next nextMember texts members second others =>
          simp only [List.map_cons] at enough induction ⊢
          rw [joined_cons_cons] at enough ⊢
          simp only [List.length_append, List.length_cons] at enough
          rw [List.append_assoc, List.cons_append, memberText_append]
          have read := first.reads fuel
            (',' :: (joined (memberText next :: texts.map memberText) ++ '\x7d' :: rest)) (by omega)
            (endsNumeral_cons (by decide) _)
          have more := induction (by simp) fuel (by omega)
          simp [readMembers, Quoted.decode?_escape, read, skipSpace, isSpace, more]

theorem object {texts : List (String × List Char)} {members : List (String × Json)}
    (all : List.Forall₂ (ReadsMember depth) texts members) :
    Reads (depth + 1) ('\x7b' :: joined (texts.map memberText) ++ ['\x7d'])
      (ofMembers members) where
  begins := ⟨_, _, rfl, by decide, by decide⟩
  reads := by
    intro fuel rest enough ends
    obtain ⟨fuel, rfl⟩ := exists_fuel (by simp) enough
    simp only [List.length_cons, List.length_append] at enough
    have brace : isSpace '\x7b' = Bool.false := by decide
    have quote : isSpace '"' = Bool.false := by decide
    rw [List.cons_append, List.cons_append, List.append_assoc, List.singleton_append, readValue,
      skipSpace_cons brace]
    cases all with
    | nil => rfl
    | @cons text member texts members first others =>
        have body := readMembers_joined (.cons first others) (by simp) fuel (by omega) rest
        obtain ⟨behind, parts⟩ :
            ∃ behind, joined ((text :: texts).map memberText) = '"' :: behind := ⟨_, rfl⟩
        rw [parts] at body ⊢
        rw [List.cons_append] at body ⊢
        simp only [skipSpace_cons quote]
        split
        · next same => exact absurd (List.cons.inj same).1 (by decide)
        · rw [body]
          rfl

theorem parse?_eq {text : List Char} {json : Json} (read : Reads deepest text json) :
    parse? text = some json := by
  have alone := read.reads (2 * text.length + 2) [] (by omega) endsNumeral_nil
  rw [List.append_nil] at alone
  rw [parse?, alone]
  rfl

end Reads

end Json

end Reparse
