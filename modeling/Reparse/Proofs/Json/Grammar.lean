import Reparse.Proofs.Json.Numeral
import Reparse.Proofs.Json.Quoted

namespace Reparse

namespace Json

def joined : List (List Char) → List Char
  | [] => []
  | first :: rest => first ++ rest.flatMap (',' :: ·)

theorem joined_cons_cons (first second : List Char) (rest : List (List Char)) :
    joined (first :: second :: rest) = first ++ ',' :: joined (second :: rest) := by
  simp [joined]

/-- The text of a member of an object. -/
def memberText (member : String × List Char) : List Char :=
  Quoted.encode member.1.toList ++ ':' :: member.2

theorem memberText_append (member : String × List Char) (rest : List Char) :
    memberText member ++ rest =
      '"' :: (member.1.toList.flatMap Quoted.escape ++ '"' :: ':' :: (member.2 ++ rest)) := by
  simp [memberText, Quoted.encode]

theorem length_lt_memberText (member : String × List Char) :
    member.2.length < (memberText member).length := by
  simp only [memberText, List.length_append, List.length_cons]
  omega

/-- One character of a string, raw or escaped. -/
inductive IsCharText : List Char → Prop
  | raw (c : Char) (quote : c ≠ '"') (backslash : c ≠ '\\') (control : ¬c.toNat < 0x20) :
      IsCharText [c]
  | short (c : Char) (known : c ∈ ['"', '\\', '/', 'b', 'f', 'n', 'r', 't']) :
      IsCharText ['\\', c]
  | unit (a b c d : Char) (digits : ∀ digit ∈ [a, b, c, d], (Quoted.hexValue? digit).isSome) :
      IsCharText ['\\', 'u', a, b, c, d]

inductive IsStringText : List Char → Prop
  | quoted (pieces : List (List Char)) (all : ∀ piece ∈ pieces, IsCharText piece) :
      IsStringText ('"' :: pieces.flatten ++ ['"'])

inductive IsValueText : List Char → Prop
  | null : IsValueText ['n', 'u', 'l', 'l']
  | true : IsValueText ['t', 'r', 'u', 'e']
  | false : IsValueText ['f', 'a', 'l', 's', 'e']
  | number (numeral : JsonNumber.Numeral) : IsValueText numeral.text
  | string {text : List Char} (string : IsStringText text) : IsValueText text
  | array (items : List (List Char)) (values : ∀ item ∈ items, IsValueText item) :
      IsValueText ('[' :: joined items ++ [']'])
  | object (members : List (List Char × List Char))
      (names : ∀ member ∈ members, IsStringText member.1)
      (values : ∀ member ∈ members, IsValueText member.2) :
      IsValueText ('\x7b' :: joined (members.map fun member => member.1 ++ ':' :: member.2) ++
        ['\x7d'])

theorem isCharText_escape (c : Char) : IsCharText (Quoted.escape c) := by
  unfold Quoted.escape
  split_ifs with quote backslash newline carriage tab backspace formFeed control
  · exact .short _ (by decide)
  · exact .short _ (by decide)
  · exact .short _ (by decide)
  · exact .short _ (by decide)
  · exact .short _ (by decide)
  · exact .short _ (by decide)
  · exact .short _ (by decide)
  · refine .unit _ _ _ _ ?_
    have zero : (Quoted.hexValue? '0').isSome = Bool.true := by decide
    have high := Quoted.hexValue?_digitChar (c.toNat / 16) (by omega)
    have low := Quoted.hexValue?_digitChar (c.toNat % 16) (by omega)
    simp [zero, high, low]
  · exact .raw c quote backslash control

theorem isStringText_encode (text : List Char) : IsStringText (Quoted.encode text) := by
  have pieces : IsStringText ('"' :: (text.map Quoted.escape).flatten ++ ['"']) := by
    refine .quoted _ fun piece member => ?_
    obtain ⟨c, -, rfl⟩ := List.mem_map.1 member
    exact isCharText_escape c
  rwa [← List.flatMap_def] at pieces

theorem isValueText_object {members : List (String × List Char)}
    (values : ∀ member ∈ members, IsValueText member.2) :
    IsValueText ('\x7b' :: joined (members.map memberText) ++ ['\x7d']) := by
  let parts := members.map fun member => (Quoted.encode member.1.toList, member.2)
  have texts : members.map memberText = parts.map fun part => part.1 ++ ':' :: part.2 := by
    simp [parts, memberText]
  rw [texts]
  refine .object parts (fun part inside => ?_) (fun part inside => ?_)
  · obtain ⟨member, -, rfl⟩ := List.mem_map.1 inside
    exact isStringText_encode _
  · obtain ⟨member, known, rfl⟩ := List.mem_map.1 inside
    exact values member known

end Json

end Reparse
