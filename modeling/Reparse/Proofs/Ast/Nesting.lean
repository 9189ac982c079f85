import Reparse.Proofs.Ast.JsonText

namespace Reparse

namespace Ast

open Json (joined memberText)

/-- How deep brackets stand in what is left of a text, read from inside `depth` brackets. -/
def bracketDepth (depth : Nat) : Place → List Char → Nat
  | _, [] => depth
  | .escaped, _ :: rest => bracketDepth depth .quoted rest
  | .quoted, c :: rest =>
      if c = '\\' then bracketDepth depth .escaped rest
      else if c = '"' then bracketDepth depth .plain rest
      else bracketDepth depth .quoted rest
  | .plain, c :: rest =>
      if c = '"' then bracketDepth depth .quoted rest
      else if c = '[' ∨ c = '\x7b' then bracketDepth (depth + 1) .plain rest
      else if c = ']' ∨ c = '\x7d' then max depth (bracketDepth (depth - 1) .plain rest)
      else bracketDepth depth .plain rest

def nesting (text : List Char) : Nat :=
  bracketDepth 0 .plain text

theorem le_bracketDepth (depth : Nat) (place : Place) (text : List Char) :
    depth ≤ bracketDepth depth place text := by
  fun_induction bracketDepth depth place text <;> omega

/-- Inside a text brackets stand `levels` deep, and behind it the reader is where it was. -/
def Nests (levels : Nat) (text : List Char) : Prop :=
  ∀ depth rest, bracketDepth depth .plain (text ++ rest) =
    max (depth + levels) (bracketDepth depth .plain rest)

namespace Nests

variable {levels more : Nat} {left right text : List Char}

theorem nil : Nests 0 [] := by
  intro depth rest
  have := le_bracketDepth depth .plain rest
  rw [List.nil_append]
  omega

theorem append (leftNests : Nests levels left) (rightNests : Nests more right) :
    Nests (max levels more) (left ++ right) := by
  intro depth rest
  rw [List.append_assoc, leftNests, rightNests]
  omega

theorem singleton {c : Char} (quote : c ≠ '"') (left : ¬(c = '[' ∨ c = '\x7b'))
    (right : ¬(c = ']' ∨ c = '\x7d')) : Nests 0 [c] := by
  intro depth rest
  have := le_bracketDepth depth .plain rest
  rw [List.singleton_append, bracketDepth, if_neg quote, if_neg left, if_neg right]
  omega

theorem cons {c : Char} (quote : c ≠ '"') (left : ¬(c = '[' ∨ c = '\x7b'))
    (right : ¬(c = ']' ∨ c = '\x7d')) (nests : Nests levels text) : Nests levels (c :: text) := by
  have both := (singleton quote left right).append nests
  rwa [Nat.zero_max] at both

theorem comma (nests : Nests levels text) : Nests levels (',' :: text) :=
  cons (by decide) (by decide) (by decide) nests

theorem colon (nests : Nests levels text) : Nests levels (':' :: text) :=
  cons (by decide) (by decide) (by decide) nests

theorem enclosed {opening closing : Char} (opens : opening = '[' ∨ opening = '\x7b')
    (closes : closing = ']' ∨ closing = '\x7d') (nests : Nests levels text) :
    Nests (levels + 1) (opening :: text ++ [closing]) := by
  have begun : opening ≠ '"' := by
    rcases opens with rfl | rfl
    · decide
    · decide
  have ended : closing ≠ '"' ∧ ¬(closing = '[' ∨ closing = '\x7b') := by
    rcases closes with rfl | rfl
    · decide
    · decide
  intro depth rest
  have := le_bracketDepth depth .plain rest
  rw [List.cons_append, List.cons_append, List.append_assoc, bracketDepth, if_neg begun,
    if_pos opens, nests, List.singleton_append, bracketDepth, if_neg ended.1, if_neg ended.2,
    if_pos closes, Nat.add_sub_cancel]
  omega

theorem of_forall {text : List Char} (plain : ∀ c ∈ text, c ∉ structureMarks) :
    Nests 0 text := by
  induction text with
  | nil => exact nil
  | cons c rest induction =>
      obtain ⟨first, others⟩ := List.forall_mem_cons.1 plain
      simp only [structureMarks, List.mem_cons, List.not_mem_nil, or_false, not_or] at first
      obtain ⟨quote, leftBracket, leftBrace, -, rightBracket, rightBrace⟩ := first
      exact cons quote (not_or.2 ⟨leftBracket, leftBrace⟩) (not_or.2 ⟨rightBracket, rightBrace⟩)
        (induction others)

theorem encode (text : List Char) : Nests 0 (Quoted.encode text) := by
  intro depth rest
  have body := Quoted.skips_escapes (bracketDepth depth .quoted)
    (fun c rest quote backslash => by rw [bracketDepth, if_neg backslash, if_neg quote])
    (fun _ _ => rfl) text ('"' :: rest)
  have := le_bracketDepth depth .plain rest
  rw [Quoted.encode, List.cons_append, List.cons_append, List.append_assoc, bracketDepth,
    if_pos rfl]
  refine body.trans ?_
  rw [bracketDepth, if_neg (by decide), if_pos rfl]
  omega

theorem scriptText (x : Binary64) : Nests 0 x.scriptText :=
  of_forall fun _ => notMem_structureMarks

theorem memberText (name : String) (nests : Nests levels text) :
    Nests levels (Json.memberText (name, text)) := by
  have both := (encode name.toList).append nests.colon
  rwa [Nat.zero_max] at both

end Nests

mutual

/-- How deep the containers of a node stand that are not under metadata names. -/
def Node.nesting : Node → Nat
  | ⟨_, _, fields, _⟩ => entriesNesting fields + 1

def Value.nesting : Value → Nat
  | .list items => itemsNesting items + 1
  | .map entries => entriesNesting entries + 1
  | .node node => node.nesting
  | _ => 0

def itemsNesting : List Value → Nat
  | [] => 0
  | item :: rest => max item.nesting (itemsNesting rest)

def entriesNesting : List (String × Value) → Nat
  | [] => 0
  | (name, value) :: rest =>
      if isMetadataName name then entriesNesting rest else max value.nesting (entriesNesting rest)

end

mutual

theorem Node.nests_plainText (node : Node) : Nests node.nesting node.plainText := by
  cases node with
  | mk kind span fields metadata =>
      have head := (Nests.encode kind.name.toList).memberText "type"
      have members := head.append (nests_fieldsText fields)
      rw [Nat.zero_max] at members
      have text : (Node.mk kind span fields metadata).plainText =
          '\x7b' :: (Json.memberText ("type", Quoted.encode kind.name.toList) ++
            fieldsText fields) ++ ['\x7d'] := by
        simp [Node.plainText, Json.memberText]
      rw [text, Node.nesting]
      exact members.enclosed (.inr rfl) (.inr rfl)

theorem Value.nests_plainText (value : Value) : Nests value.nesting value.plainText := by
  cases value with
  | null => exact .of_forall (List.all_iff_forall_prop.1 (by decide))
  | bool value =>
      cases value with
      | false => exact .of_forall (List.all_iff_forall_prop.1 (by decide))
      | true => exact .of_forall (List.all_iff_forall_prop.1 (by decide))
  | number x => exact .scriptText x
  | text text => exact .encode text.toList
  | list items => exact .enclosed (.inl rfl) (.inl rfl) (nests_itemsText items)
  | map entries => exact .enclosed (.inr rfl) (.inr rfl) (nests_entriesText entries)
  | node node => exact Node.nests_plainText node

theorem nests_itemsText (items : List Value) : Nests (itemsNesting items) (itemsText items) := by
  match items with
  | [] => exact .nil
  | [item] =>
      have first := Value.nests_plainText item
      rwa [← Nat.max_zero item.nesting] at first
  | item :: next :: rest =>
      exact (Value.nests_plainText item).append (nests_itemsText (next :: rest)).comma

theorem nests_fieldsText (entries : List (String × Value)) :
    Nests (entriesNesting entries) (fieldsText entries) := by
  match entries with
  | [] => exact .nil
  | (name, value) :: rest =>
      rw [entriesNesting, fieldsText]
      split
      · exact nests_fieldsText rest
      · exact ((Value.nests_plainText value).memberText name).comma.append (nests_fieldsText rest)

theorem nests_entriesText (entries : List (String × Value)) :
    Nests (entriesNesting entries) (entriesText entries) := by
  match entries with
  | [] => exact .nil
  | (name, value) :: rest =>
      rw [entriesNesting, entriesText]
      split
      · exact nests_entriesText rest
      · exact ((Value.nests_plainText value).memberText name).append (nests_fieldsText rest)

end

theorem Node.nesting_plainText (node : Node) : Ast.nesting node.plainText = node.nesting := by
  have whole := node.nests_plainText 0 []
  rw [List.append_nil] at whole
  rw [Ast.nesting, whole, bracketDepth]
  omega

end Ast

end Reparse
