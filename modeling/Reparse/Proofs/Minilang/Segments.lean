import Reparse.Proofs.Minilang.Derivation
import Reparse.Proofs.Minilang.Lexer

/-!
A source is a row of segments, which are pieces with the characters they are read from.

Each segment ends where nothing can be taken for a part of it, and this is all that the lexer asks:
it reads a row of such segments back one by one.  So a mark can be put in between two of them, if it
does not come to stand behind a comment.
-/

namespace Reparse

namespace Minilang

structure Segment where
  piece : Piece
  text : List Char

def rowText (segments : List Segment) : List Char :=
  segments.flatMap Segment.text

/-- Each segment is spelled out, and it ends where the next begins. -/
def IsRow : List Segment → Prop
  | [] => True
  | segment :: segments =>
      Spells segment.piece segment.text ∧ segment.piece.EndsAt (rowText segments) ∧ IsRow segments

def layout : (offset : Nat) → List Segment → Lexed
  | _, [] => ⟨[], []⟩
  | offset, segment :: segments =>
      let stop := offset + byteLength segment.text
      (layout stop segments).cons segment.piece ⟨offset, stop⟩

def Segment.content? (segment : Segment) : Option Lexeme :=
  match segment.piece with
  | .lexeme lexeme => some lexeme.content
  | _ => none

section Row

variable {segments left right : List Segment}

theorem byteLength_append (text more : List Char) :
    byteLength (text ++ more) = byteLength text + byteLength more := by
  induction text with
  | nil => simp [byteLength]
  | cons c text induction => simp only [List.cons_append, byteLength, induction, Nat.add_assoc]

theorem rowText_cons (segment : Segment) (segments : List Segment) :
    rowText (segment :: segments) = segment.text ++ rowText segments :=
  List.flatMap_cons

theorem rowText_singleton (segment : Segment) : rowText [segment] = segment.text :=
  List.flatMap_singleton _ _

theorem rowText_append (left right : List Segment) :
    rowText (left ++ right) = rowText left ++ rowText right :=
  List.flatMap_append

theorem tokens_layout_append (offset : Nat) (left right : List Segment) :
    (layout offset (left ++ right)).tokens =
      (layout offset left).tokens ++
        (layout (offset + byteLength (rowText left)) right).tokens := by
  induction left generalizing offset with
  | nil => rfl
  | cons segment left induction =>
      rw [rowText_cons, byteLength_append, ← Nat.add_assoc, List.cons_append, layout, layout]
      cases segment.piece with
      | blank | comment => exact induction _
      | lexeme lexeme => exact congrArg _ (induction _)

theorem contents_layout (offset : Nat) (segments : List Segment) :
    contents (layout offset segments).tokens = segments.filterMap Segment.content? := by
  induction segments generalizing offset with
  | nil => rfl
  | cons segment segments induction =>
      rw [layout, List.filterMap_cons, Segment.content?]
      cases segment.piece with
      | blank | comment => exact induction _
      | lexeme lexeme => exact congrArg _ (induction _)

theorem lexFrom_of_isRow (row : IsRow segments) (fuel offset : Nat)
    (enough : (rowText segments).length ≤ fuel) :
    lexFrom fuel offset (rowText segments) = .ok (layout offset segments) := by
  induction segments generalizing fuel offset with
  | nil => exact lexFrom_nil fuel offset
  | cons segment segments induction =>
      obtain ⟨spells, ends, others⟩ := row
      obtain ⟨c, rest, text, scans⟩ := scan_of_spells spells ends
      have shorter := (scan_sound (scans offset)).shorter
      rw [rowText_cons, text] at enough ⊢
      simp only [List.length_cons] at shorter enough
      cases fuel with
      | zero => omega
      | succ fuel =>
          exact lexFrom_cons_eq_ok.2
            ⟨_, _, scans offset, induction others fuel _ (by omega), rfl⟩

theorem head?_ne_point {fuel offset : Nat} {text : List Char} {lexed : Lexed}
    (read : lexFrom fuel offset text = .ok lexed) (enough : text.length ≤ fuel) :
    text.head? ≠ some '.' := by
  intro first
  obtain ⟨rest, rfl⟩ := List.head?_eq_some_iff.1 first
  cases fuel with
  | zero => simp at enough
  | succ fuel =>
      obtain ⟨scanned, -, front, -⟩ := lexFrom_cons_eq_ok.1 read
      have refused : scan offset '.' rest = .error (.unexpectedCharacter '.' offset) := rfl
      rw [refused] at front
      contradiction

theorem exists_row {fuel offset : Nat} {text : List Char} {lexed : Lexed}
    (read : lexFrom fuel offset text = .ok lexed) (enough : text.length ≤ fuel) :
    ∃ segments, IsRow segments ∧ rowText segments = text ∧ layout offset segments = lexed := by
  induction fuel generalizing offset text lexed with
  | zero =>
      obtain rfl := List.eq_nil_of_length_eq_zero (Nat.le_zero.1 enough)
      cases read
      exact ⟨[], trivial, rfl, rfl⟩
  | succ fuel induction =>
      cases text with
      | nil =>
          cases read
          exact ⟨[], trivial, rfl, rfl⟩
      | cons c rest =>
          obtain ⟨scanned, later, front, found, rfl⟩ := lexFrom_cons_eq_ok.1 read
          obtain ⟨parts, spells, ends⟩ := scan_isFront front
          have shorter := (scan_sound front).shorter
          simp only [List.length_cons] at shorter enough
          obtain ⟨segments, row, text, rfl⟩ := induction found (by omega)
          refine ⟨⟨scanned.piece, scanned.spelling⟩ :: segments, ⟨spells, ?_, row⟩, ?_, rfl⟩
          · rw [text]
            exact ends (head?_ne_point found (by omega))
          · rw [rowText_cons, text, parts]

/-- The sources that lex are the texts of rows. -/
theorem lex_eq_ok {source : String} {lexed : Lexed} :
    lex source = .ok lexed ↔
      ∃ segments, IsRow segments ∧ rowText segments = source.toList ∧
        layout 0 segments = lexed := by
  constructor
  · intro read
    exact exists_row read (Nat.le_refl _)
  · rintro ⟨segments, row, text, rfl⟩
    rw [lex, ← text]
    exact lexFrom_of_isRow row _ _ (Nat.le_refl _)

theorem exists_segment_of_token {offset : Nat} {front behind : List Token} {token : Token}
    (same : (layout offset segments).tokens = front ++ token :: behind) :
    ∃ left text right, segments = left ++ ⟨.lexeme token.lexeme, text⟩ :: right ∧
      (layout offset left).tokens = front ∧
      token.span.start = offset + byteLength (rowText left) ∧
      token.span.stop = offset + byteLength (rowText left) + byteLength text := by
  induction segments generalizing offset front with
  | nil => simp [layout] at same
  | cons segment segments induction =>
      have further {others : List Token}
          (later : (layout (offset + byteLength segment.text) segments).tokens =
            others ++ token :: behind) :
          ∃ left text right, segment :: segments = left ++ ⟨.lexeme token.lexeme, text⟩ :: right ∧
            (layout offset left).tokens = (layout offset [segment]).tokens ++ others ∧
            token.span.start = offset + byteLength (rowText left) ∧
            token.span.stop = offset + byteLength (rowText left) + byteLength text := by
        obtain ⟨left, text, right, rfl, before, start, stop⟩ := induction later
        refine ⟨segment :: left, text, right, rfl, ?_, ?_, ?_⟩
        · rw [← List.singleton_append, tokens_layout_append, rowText_singleton, before]
        · rw [rowText_cons, byteLength_append, ← Nat.add_assoc, start]
        · rw [rowText_cons, byteLength_append, ← Nat.add_assoc, stop]
      obtain ⟨piece, text⟩ := segment
      cases piece with
      | blank | comment => exact further same
      | lexeme lexeme =>
          cases front with
          | nil =>
              obtain ⟨rfl, -⟩ := List.cons.inj same
              exact ⟨[], text, segments, rfl, rfl, rfl, rfl⟩
          | cons first front =>
              obtain ⟨rfl, later⟩ := List.cons.inj same
              exact further later

/-- A mark in between takes nothing from the segments before it, unless it comes to stand behind a
comment. -/
theorem IsRow.insert {c : Char} (row : IsRow (left ++ right)) (known : c ∈ marks)
    (clear : ∀ segment ∈ left.getLast?, ¬segment.piece.IsComment) :
    IsRow (left ++ ⟨.lexeme (.mark c), [c]⟩ :: right) := by
  induction left with
  | nil => exact ⟨.mark known, trivial, row⟩
  | cons segment left induction =>
      obtain ⟨spells, ends, others⟩ := row
      cases left with
      | nil =>
          have endsAtMark := Piece.endsAt_mark (clear segment rfl) known (rowText right)
          exact ⟨spells, endsAtMark, .mark known, trivial, others⟩
      | cons next left =>
          have begins (row : List Segment) :
              (rowText (next :: row)).head? = next.text.head? := by
            rw [rowText_cons, List.head?_append_of_ne_nil _ others.1.ne_nil]
          exact ⟨spells, ends.congr ((begins _).trans (begins _).symm), induction others clear⟩

theorem IsRow.clear {lexeme : Lexeme} {text : List Char}
    (row : IsRow (left ++ ⟨.lexeme lexeme, text⟩ :: right)) :
    ∀ segment ∈ left.getLast?, ¬segment.piece.IsComment := by
  induction left with
  | nil => simp
  | cons segment left induction =>
      obtain ⟨spells, ends, others⟩ := row
      cases left with
      | cons next left => exact induction others
      | nil =>
          obtain ⟨first, more, rfl⟩ := List.exists_cons_of_ne_nil others.1.ne_nil
          obtain ⟨piece, body⟩ := segment
          cases piece with
          | blank | lexeme =>
              rintro _ ⟨⟩
              exact id
          | comment line =>
              have ended : first = '\n' := ends first rfl
              exact absurd (congrArg some ended) others.1.head?_ne

end Row

def insertAt (c : Char) : (offset : Nat) → List Char → List Char
  | 0, text => c :: text
  | _, [] => [c]
  | offset, d :: text => d :: insertAt c (offset - d.utf8Size) text

theorem insertAt_append (c : Char) (left right : List Char) :
    insertAt c (byteLength left) (left ++ right) = left ++ c :: right := by
  induction left with
  | nil => cases right <;> rfl
  | cons d left induction =>
      have positive := d.utf8Size_pos
      rw [List.cons_append, byteLength, insertAt, Nat.add_sub_cancel_left, induction,
        List.cons_append]
      omega

def encloseAt (start stop : Nat) (source : String) : String :=
  String.ofList (insertAt '(' start (insertAt ')' stop source.toList))

section Enclose

variable {front middle behind : List Token}

/-- Tokens in a row are those of a part of the segments, which ends with the last of them and has no
comment before it. -/
theorem IsRow.exists_part {segments : List Segment} (row : IsRow segments)
    (same : (layout 0 segments).tokens = front ++ (middle ++ behind)) (begun : middle ≠ []) :
    ∃ left inner right, segments = left ++ (inner ++ right) ∧
      byteLength (rowText left) = offsetOf middle ∧
      byteLength (rowText (left ++ inner)) = stopOf middle ∧
      left.filterMap Segment.content? = contents front ∧
      inner.filterMap Segment.content? = contents middle ∧
      (∀ segment ∈ left.getLast?, ¬segment.piece.IsComment) ∧
      ∀ segment ∈ (left ++ inner).getLast?, ¬segment.piece.IsComment := by
  obtain ⟨first, more, cut⟩ := List.exists_cons_of_ne_nil begun
  rw [cut] at same
  obtain ⟨left, text, rest, rfl, before, start, -⟩ := exists_segment_of_token same
  -- From here on the segments before the part are out of the way.
  have inside : (layout (0 + byteLength (rowText left))
      (⟨.lexeme first.lexeme, text⟩ :: rest)).tokens = middle ++ behind := by
    rw [tokens_layout_append, before] at same
    rw [List.append_cancel_left same, cut]
  obtain ⟨others, last, ending⟩ : ∃ others last, middle = others ++ [last] :=
    ⟨_, _, (List.dropLast_concat_getLast begun).symm⟩
  rw [ending, List.append_assoc] at inside
  obtain ⟨within, final, right, parts, among, -, stop⟩ := exists_segment_of_token inside
  refine ⟨left, within ++ [⟨.lexeme last.lexeme, final⟩], right, ?_, ?_, ?_, ?_, ?_, row.clear, ?_⟩
  · rw [parts, List.append_assoc, List.singleton_append]
  · rw [cut, offsetOf, start, Nat.zero_add]
  · rw [ending, stopOf_concat, stop, rowText_append, rowText_append, byteLength_append,
      byteLength_append, rowText_singleton, Nat.zero_add, Nat.add_assoc]
  · rw [← before, contents_layout]
  · rw [List.filterMap_append, ← contents_layout, among, ending, contents_append]
    rfl
  · rw [← List.append_assoc, List.getLast?_concat]
    rintro _ ⟨⟩
    exact id

/-- Parentheses put around tokens leave all tokens as they are. -/
theorem lex_encloseAt {source : String} {lexed : Lexed} (lexes : lex source = .ok lexed)
    (split : lexed.tokens = front ++ (middle ++ behind)) (begun : middle ≠ []) :
    ∃ relexed, lex (encloseAt (offsetOf middle) (stopOf middle) source) = .ok relexed ∧
      contents relexed.tokens =
        contents front ++ .mark '(' :: (contents middle ++ .mark ')' :: contents behind) := by
  obtain ⟨segments, row, text, rfl⟩ := lex_eq_ok.1 lexes
  have said := contents_layout 0 segments
  obtain ⟨left, inner, right, rfl, start, stop, before, inside, clearLeft, clearInner⟩ :=
    row.exists_part split begun
  rw [split, contents_append, contents_append, List.filterMap_append, List.filterMap_append,
    before, inside] at said
  have after := List.append_cancel_left (List.append_cancel_left said)
  -- The later parenthesis goes in first, so the offset of the other one stays.
  have closed : IsRow (left ++ (inner ++ ⟨.lexeme (.mark ')'), [')']⟩ :: right)) := by
    rw [← List.append_assoc] at row ⊢
    exact row.insert (by decide) clearInner
  have enclosed := closed.insert (c := '(') (by decide) clearLeft
  refine ⟨_, lex_eq_ok.2 ⟨_, enclosed, ?_, rfl⟩, ?_⟩
  · rw [encloseAt, String.toList_ofList, ← text, ← start, ← stop, ← List.append_assoc left,
      rowText_append (left ++ inner), insertAt_append, rowText_append left inner,
      List.append_assoc, insertAt_append]
    simp [rowText]
  · rw [contents_layout]
    simp [before, inside, after, Segment.content?, Lexeme.content]

end Enclose

end Minilang

end Reparse
