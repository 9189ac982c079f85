import Reparse.Proofs.Ast.CanonicalText
import Reparse.Proofs.Dictionary

/-!
Where the text of a value ends.

Brackets balance and quotes close within the text of a value, so a value reaches to the first mark
outside both that can follow it.  This holds of maps that look like nodes too: the text of a node
always tells its kind, the names of its fields and the texts of their values.
-/

namespace Reparse

namespace Ast

/-- Where a reader of a text stands. -/
inductive Place where
  | plain
  | quoted
  | escaped

/-- What is left of a text from the first mark on that ends a value, read from inside `depth`
brackets. -/
def behind (depth : Nat) : Place → List Char → List Char
  | _, [] => []
  | .escaped, _ :: rest => behind depth .quoted rest
  | .quoted, c :: rest =>
      if c = '\\' then behind depth .escaped rest
      else if c = '"' then behind depth .plain rest
      else behind depth .quoted rest
  | .plain, c :: rest =>
      -- A bracket that opens is no end, and one that closes is an end outside all brackets only.
      if c = '"' then behind depth .quoted rest
      else if c = '[' ∨ c = '\x7b' then behind (depth + 1) .plain rest
      else if depth = 0 ∧ isEnd c = true then c :: rest
      else if c = ']' ∨ c = '\x7d' then behind (depth - 1) .plain rest
      else behind depth .plain rest

def structureMarks : List Char :=
  ['"', '[', '\x7b', ',', ']', '\x7d']

theorem notMem_structureMarks {x : Binary64} {c : Char} (member : c ∈ x.scriptText) :
    c ∉ structureMarks := by
  intro structural
  rcases Binary64.mem_scriptText member with digit | mark
  · have letters : ∀ c ∈ structureMarks, c.isDigit = false :=
      List.all_iff_forall_prop.1 (by decide)
    rw [letters c structural] at digit
    contradiction
  · have apart : ∀ c ∈ Binary64.numberMarks, c ∉ structureMarks :=
      List.all_iff_forall_prop.1 (by decide)
    exact apart c mark structural

theorem behind_of_endsValue {rest : List Char} (ends : EndsValue rest) :
    behind 0 .plain rest = rest := by
  cases rest with
  | nil => rfl
  | cons c rest =>
      have isMark : isEnd c = true := ends c rfl
      have quote : c ≠ '"' := by
        rintro rfl
        exact absurd isMark (by decide)
      have bracket : ¬(c = '[' ∨ c = '\x7b') := by
        rintro (rfl | rfl)
        · exact absurd isMark (by decide)
        · exact absurd isMark (by decide)
      rw [behind, if_neg quote, if_neg bracket, if_pos ⟨rfl, isMark⟩]

/-- Reading over a text leaves the reader where it was, inside `least` brackets or more. -/
def Passed (least : Nat) (text : List Char) : Prop :=
  ∀ depth rest, least ≤ depth → behind depth .plain (text ++ rest) = behind depth .plain rest

namespace Passed

variable {least : Nat} {left right text : List Char}

theorem nil (least : Nat) : Passed least [] :=
  fun _ _ _ => rfl

theorem append (leftPassed : Passed least left) (rightPassed : Passed least right) :
    Passed least (left ++ right) := by
  intro depth rest deep
  rw [List.append_assoc, leftPassed depth _ deep, rightPassed depth rest deep]

theorem inside (passed : Passed 0 text) : Passed 1 text :=
  fun depth rest _ => passed depth rest depth.zero_le

theorem singleton {c : Char} (quote : c ≠ '"') (left : ¬(c = '[' ∨ c = '\x7b'))
    (right : ¬(c = ']' ∨ c = '\x7d')) (ends : isEnd c = true → 1 ≤ least) : Passed least [c] := by
  intro depth rest deep
  have goesOn : ¬(depth = 0 ∧ isEnd c = true) := by
    rintro ⟨rfl, isMark⟩
    exact absurd (Nat.le_trans (ends isMark) deep) (by decide)
  rw [List.singleton_append, behind, if_neg quote, if_neg left, if_neg goesOn, if_neg right]

theorem comma : Passed 1 [','] :=
  singleton (by decide) (by decide) (by decide) fun _ => Nat.le_refl 1

theorem colon : Passed 1 [':'] :=
  singleton (by decide) (by decide) (by decide) fun _ => Nat.le_refl 1

theorem enclosed {opening closing : Char} (opens : opening = '[' ∨ opening = '\x7b')
    (closes : closing = ']' ∨ closing = '\x7d') (passed : Passed 1 text) :
    Passed 0 (opening :: text ++ [closing]) := by
  have begun : opening ≠ '"' := by
    rcases opens with rfl | rfl
    · decide
    · decide
  have ended : closing ≠ '"' ∧ ¬(closing = '[' ∨ closing = '\x7b') := by
    rcases closes with rfl | rfl
    · decide
    · decide
  intro depth rest _
  rw [List.cons_append, List.cons_append, List.append_assoc, behind, if_neg begun, if_pos opens,
    passed _ _ (Nat.le_add_left 1 depth), List.singleton_append, behind, if_neg ended.1,
    if_neg ended.2, if_neg (by simp), if_pos closes, Nat.add_sub_cancel]

theorem brackets (passed : Passed 1 text) : Passed 0 ('[' :: text ++ [']']) :=
  enclosed (.inl rfl) (.inl rfl) passed

theorem braces (passed : Passed 1 text) : Passed 0 ('\x7b' :: text ++ ['\x7d']) :=
  enclosed (.inr rfl) (.inr rfl) passed

theorem of_forall {text : List Char} (plain : ∀ c ∈ text, c ∉ structureMarks) :
    Passed 0 text := by
  induction text with
  | nil => exact nil 0
  | cons c rest induction =>
      obtain ⟨first, others⟩ := List.forall_mem_cons.1 plain
      have single : Passed 0 [c] := by
        simp only [structureMarks, List.mem_cons, List.not_mem_nil, or_false, not_or] at first
        obtain ⟨quote, leftBracket, leftBrace, comma, rightBracket, rightBrace⟩ := first
        refine singleton quote (not_or.2 ⟨leftBracket, leftBrace⟩)
          (not_or.2 ⟨rightBracket, rightBrace⟩) fun isMark => ?_
        simp [isEnd, comma, rightBracket, rightBrace] at isMark
      exact append single (induction others)

theorem scriptText (x : Binary64) : Passed 0 x.scriptText :=
  of_forall fun _ => notMem_structureMarks

theorem encode (text : List Char) : Passed 0 (Quoted.encode text) := by
  intro depth rest _
  have body := Quoted.skips_escapes (behind depth .quoted)
    (fun c rest quote backslash => by rw [behind, if_neg backslash, if_neg quote])
    (fun _ _ => rfl) text ('"' :: rest)
  rw [Quoted.encode, List.cons_append, List.cons_append, List.append_assoc, behind, if_pos rfl]
  exact body

theorem entry (name : String) {value : List Char} (valuePassed : Passed 0 value) :
    Passed 1 (Quoted.encode name.toList ++ ':' :: value) :=
  (encode name.toList).inside.append (colon.append valuePassed.inside)

end Passed

mutual

theorem Node.passed_plainText (node : Node) : Passed 0 node.plainText := by
  cases node with
  | mk kind span fields metadata =>
      have head : Passed 1 (Quoted.encode "type".toList ++ ':' :: Quoted.encode kind.name.toList) :=
        .entry "type" (.encode _)
      exact Passed.braces (head.append (passed_fieldsText fields))

theorem Value.passed_plainText (value : Value) : Passed 0 value.plainText := by
  cases value with
  | null => exact .of_forall (List.all_iff_forall_prop.1 (by decide))
  | bool value =>
      cases value with
      | false => exact .of_forall (List.all_iff_forall_prop.1 (by decide))
      | true => exact .of_forall (List.all_iff_forall_prop.1 (by decide))
  | number x => exact .scriptText x
  | text text => exact .encode text.toList
  | list items => exact .brackets (passed_itemsText items)
  | map entries => exact .braces (passed_entriesText entries)
  | node node => exact Node.passed_plainText node

theorem passed_itemsText (items : List Value) : Passed 1 (itemsText items) := by
  match items with
  | [] => exact .nil 1
  | [item] => exact (Value.passed_plainText item).inside
  | item :: next :: rest =>
      exact (Value.passed_plainText item).inside.append
        (Passed.comma.append (passed_itemsText (next :: rest)))

theorem passed_fieldsText (entries : List (String × Value)) : Passed 1 (fieldsText entries) := by
  match entries with
  | [] => exact .nil 1
  | (name, value) :: rest =>
      rw [fieldsText]
      split
      · exact passed_fieldsText rest
      · exact Passed.comma.append
          ((Passed.entry name (Value.passed_plainText value)).append (passed_fieldsText rest))

theorem passed_entriesText (entries : List (String × Value)) :
    Passed 1 (entriesText entries) := by
  match entries with
  | [] => exact .nil 1
  | (name, value) :: rest =>
      rw [entriesText]
      split
      · exact passed_entriesText rest
      · exact (Passed.entry name (Value.passed_plainText value)).append (passed_fieldsText rest)

end

/-- The text of a value and what follows it are told by the whole. -/
theorem Value.plainText_append_cancel {left right : Value} {leftRest rightRest : List Char}
    (leftEnds : EndsValue leftRest) (rightEnds : EndsValue rightRest)
    (same : left.plainText ++ leftRest = right.plainText ++ rightRest) :
    left.plainText = right.plainText ∧ leftRest = rightRest := by
  -- Read over either value, the reader stands where that value ends.
  have rests : leftRest = rightRest := by
    rw [← behind_of_endsValue leftEnds, ← left.passed_plainText 0 leftRest (Nat.le_refl 0), same,
      right.passed_plainText 0 rightRest (Nat.le_refl 0), behind_of_endsValue rightEnds]
  subst rests
  exact ⟨List.append_cancel_right same, rfl⟩

def fieldTexts (entries : List (String × Value)) : List (String × List Char) :=
  (semanticEntries entries).map fun entry => (entry.1, entry.2.plainText)

theorem find?_fieldTexts (entries : List (String × Value)) (name : String) :
    Dictionary.find? (fieldTexts entries) name =
      if isMetadataName name then none
      else (Dictionary.find? entries name).map Value.plainText := by
  rw [fieldTexts, Dictionary.find?_map _ fun _ => Value.plainText, find?_semanticEntries]
  split
  · rfl
  · rfl

theorem ordered_fieldTexts {entries : List (String × Value)}
    (ordered : Dictionary.Ordered entries) : Dictionary.Ordered (fieldTexts entries) :=
  Dictionary.ordered_map (Dictionary.ordered_filter ordered _) fun _ => Value.plainText

def entryText (entry : String × List Char) : List Char :=
  ',' :: (Quoted.encode entry.1.toList ++ ':' :: entry.2)

theorem fieldsText_eq_flatMap (entries : List (String × Value)) :
    fieldsText entries = (fieldTexts entries).flatMap entryText := by
  induction entries with
  | nil => rfl
  | cons entry rest induction =>
      obtain ⟨name, value⟩ := entry
      rw [fieldsText, induction]
      cases named : isMetadataName name with
      | true => simp [fieldTexts, semanticEntries, named]
      | false => simp [fieldTexts, semanticEntries, named, entryText]

theorem exists_of_mem_fieldTexts {entries : List (String × Value)} {entry : String × List Char}
    (member : entry ∈ fieldTexts entries) : ∃ value : Value, entry.2 = value.plainText := by
  obtain ⟨source, -, rfl⟩ := List.mem_map.1 member
  exact ⟨source.2, rfl⟩

theorem endsValue_flatMap_entryText (entries : List (String × List Char)) :
    EndsValue (entries.flatMap entryText ++ ['\x7d']) := by
  cases entries with
  | nil => simp [EndsValue, isEnd]
  | cons entry rest => simp [EndsValue, isEnd, entryText]

theorem flatMap_entryText_inj {lefts rights : List (String × List Char)}
    (leftValues : ∀ entry ∈ lefts, ∃ value : Value, entry.2 = value.plainText)
    (rightValues : ∀ entry ∈ rights, ∃ value : Value, entry.2 = value.plainText)
    (same : lefts.flatMap entryText ++ ['\x7d'] = rights.flatMap entryText ++ ['\x7d']) :
    lefts = rights := by
  -- From the front to the back: each value ends before the comma of the next entry.
  induction lefts generalizing rights with
  | nil =>
      cases rights with
      | nil => rfl
      | cons right rights => exact absurd (List.cons.inj same).1 (by decide)
  | cons left lefts induction =>
      cases rights with
      | nil => exact absurd (List.cons.inj same).1 (by decide)
      | cons right rights =>
          obtain ⟨leftName, _⟩ := left
          obtain ⟨rightName, _⟩ := right
          obtain ⟨⟨left, rfl⟩, leftOthers⟩ := List.forall_mem_cons.1 leftValues
          obtain ⟨⟨right, rfl⟩, rightOthers⟩ := List.forall_mem_cons.1 rightValues
          simp only [List.flatMap_cons, entryText, List.cons_append, List.append_assoc,
            List.cons.injEq, true_and] at same
          obtain ⟨names, values⟩ := Quoted.encode_append_inj same
          obtain ⟨texts, rests⟩ := Value.plainText_append_cancel
            (endsValue_flatMap_entryText lefts) (endsValue_flatMap_entryText rights)
            (List.cons.inj values).2
          rw [String.toList_inj.1 names, texts, induction leftOthers rightOthers rests]

/-- Two nodes share their text when they share the name of their kind and, entry by entry, the
texts of their semantic fields. -/
theorem Node.plainText_eq_iff {left right : Node} :
    left.plainText = right.plainText ↔
      left.kind.name = right.kind.name ∧ fieldTexts left.fields = fieldTexts right.fields := by
  cases left with
  | mk leftKind leftSpan leftFields leftMetadata =>
      cases right with
      | mk rightKind rightSpan rightFields rightMetadata =>
          simp only [Node.plainText, fieldsText_eq_flatMap]
          constructor
          · intro same
            simp only [List.cons_append, List.append_assoc, List.cons.injEq, true_and] at same
            have kinds := (List.cons.inj (List.append_cancel_left same)).2
            obtain ⟨names, fields⟩ := Quoted.encode_append_inj kinds
            exact ⟨String.toList_inj.1 names,
              flatMap_entryText_inj (fun _ => exists_of_mem_fieldTexts)
                (fun _ => exists_of_mem_fieldTexts) fields⟩
          · rintro ⟨names, fields⟩
            rw [names, fields]

end Ast

end Reparse
