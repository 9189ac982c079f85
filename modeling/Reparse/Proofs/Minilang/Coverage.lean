import Mathlib.Data.String.Basic
import Reparse.Proofs.Minilang.Segments

namespace Reparse

def Ast.Span.slice (span : Ast.Span) (source : String) : String :=
  String.Pos.Raw.extract source ⟨span.start⟩ ⟨span.stop⟩

structure Ast.Span.Fits (span : Ast.Span) (source : String) : Prop where
  ordered : span.start ≤ span.stop
  bounded : span.stop ≤ source.utf8ByteSize
  startValid : String.Pos.Raw.IsValid source ⟨span.start⟩
  stopValid : String.Pos.Raw.IsValid source ⟨span.stop⟩

/-- A span ends before another begins, or just there. -/
def Ast.Span.Before (left right : Ast.Span) : Prop :=
  left.stop ≤ right.start

def Ast.Span.Within (inner outer : Ast.Span) : Prop :=
  outer.start ≤ inner.start ∧ inner.stop ≤ outer.stop

namespace Minilang

def Lexeme.spelling : Lexeme → String
  | .number _ spelling => spelling
  | .string _ spelling => spelling
  | .identifier name => name
  | .mark c => String.ofList [c]

def Lexed.spans (lexed : Lexed) : List Ast.Span :=
  lexed.tokens.map Token.span ++ lexed.comments.map Comment.span

/-- Tokens and comments stand in a source in their order and apart from each other, and what they
leave of it is blank. -/
structure Lexed.Tiles (lexed : Lexed) (source : String) : Prop where
  fits : ∀ span ∈ lexed.spans, span.Fits source
  filled : ∀ span ∈ lexed.spans, span.start < span.stop
  tokensOrdered : (lexed.tokens.map Token.span).Pairwise Ast.Span.Before
  commentsOrdered : (lexed.comments.map Comment.span).Pairwise Ast.Span.Before
  apart : ∀ token ∈ lexed.tokens, ∀ comment ∈ lexed.comments,
    token.span.Before comment.span ∨ comment.span.Before token.span
  token : ∀ token ∈ lexed.tokens, token.span.slice source = token.lexeme.spelling
  comment : ∀ comment ∈ lexed.comments, comment.span.slice source = "//" ++ comment.text
  blank : ∀ left c right, source.toList = left ++ c :: right → isBlank c = false →
    ∃ span ∈ lexed.spans,
      span.start ≤ byteLength left ∧ byteLength left + c.utf8Size ≤ span.stop

section Cut

variable {source : String} {left piece right : List Char}

theorem byteLength_eq_utf8Len (text : List Char) : byteLength text = String.utf8Len text := by
  induction text with
  | nil => rfl
  | cons c text induction => rw [byteLength, String.utf8Len, induction, Nat.add_comm]

theorem byteLength_toList (source : String) : byteLength source.toList = source.utf8ByteSize := by
  rw [byteLength_eq_utf8Len, String.utf8Len_toList]

theorem isValid_byteLength (parts : source.toList = left ++ right) :
    String.Pos.Raw.IsValid source ⟨byteLength left⟩ := by
  refine String.Pos.Raw.isValid_iff_exists_append.2 ⟨.ofList left, .ofList right, ?_, ?_⟩
  · rw [← String.ofList_append, ← parts, String.ofList_toList]
  · rw [String.rawEndPos_ofList, byteLength_eq_utf8Len]

theorem fits_of_parts (parts : source.toList = left ++ (piece ++ right)) :
    Ast.Span.Fits ⟨byteLength left, byteLength left + byteLength piece⟩ source where
  ordered := Nat.le_add_right _ _
  bounded := by
    rw [← byteLength_toList, parts, byteLength_append, byteLength_append, ← Nat.add_assoc]
    exact Nat.le_add_right _ _
  startValid := isValid_byteLength parts
  stopValid := by
    rw [← List.append_assoc] at parts
    rw [← byteLength_append]
    exact isValid_byteLength parts

theorem slice_of_parts (parts : source.toList = left ++ (piece ++ right)) :
    Ast.Span.slice ⟨byteLength left, byteLength left + byteLength piece⟩ source =
      .ofList piece := by
  rw [← String.ofList_toList (s := source), parts, ← List.append_assoc, byteLength_eq_utf8Len,
    byteLength_eq_utf8Len]
  exact String.extract_of_valid left piece right

theorem fits_source (source : String) : Ast.Span.Fits ⟨0, source.utf8ByteSize⟩ source := by
  have parts : source.toList = [] ++ (source.toList ++ []) := (List.append_nil _).symm
  have fits := fits_of_parts parts
  rwa [byteLength, Nat.zero_add, byteLength_toList] at fits

end Cut

/-- Spans stand in order between two offsets. -/
structure InOrder (low high : Nat) (spans : List Ast.Span) : Prop where
  bounded : low ≤ high
  ordered : spans.Pairwise Ast.Span.Before
  forward : ∀ span ∈ spans, span.start ≤ span.stop
  within : ∀ span ∈ spans, span.Within ⟨low, high⟩

section InOrder

variable {low middle high : Nat} {left right spans part : List Ast.Span} {span : Ast.Span}

theorem InOrder.sublist (inOrder : InOrder low high spans) (sub : part.Sublist spans) :
    InOrder low high part where
  bounded := inOrder.bounded
  ordered := inOrder.ordered.sublist sub
  forward := fun span member => inOrder.forward span (sub.subset member)
  within := fun span member => inOrder.within span (sub.subset member)

theorem InOrder.single (forward : span.start ≤ span.stop) (within : span.Within ⟨low, high⟩) :
    InOrder low high [span] where
  bounded := within.1.trans (forward.trans within.2)
  ordered := List.pairwise_singleton _ _
  forward := List.forall_mem_singleton.2 forward
  within := List.forall_mem_singleton.2 within

theorem InOrder.append (before : InOrder low middle left) (after : InOrder middle high right) :
    InOrder low high (left ++ right) where
  bounded := before.bounded.trans after.bounded
  ordered := by
    refine List.pairwise_append.2 ⟨before.ordered, after.ordered, ?_⟩
    intro first isLeft second isRight
    exact (before.within first isLeft).2.trans (after.within second isRight).1
  forward := List.forall_mem_append.2 ⟨before.forward, after.forward⟩
  within := by
    refine List.forall_mem_append.2 ⟨?_, ?_⟩
    · intro span member
      have within := before.within span member
      exact ⟨within.1, within.2.trans after.bounded⟩
    · intro span member
      have within := after.within span member
      exact ⟨before.bounded.trans within.1, within.2⟩

theorem InOrder.split (inOrder : InOrder low high (left ++ right)) :
    ∃ middle, InOrder low middle left ∧ InOrder middle high right := by
  have before := inOrder.sublist (List.sublist_append_left left right)
  have after := inOrder.sublist (List.sublist_append_right left right)
  -- The offset between them is where the later spans begin, if there are any.
  cases right with
  | nil => exact ⟨high, before, Nat.le_refl _, .nil, nofun, nofun⟩
  | cons first right =>
      obtain ⟨-, behind, apart⟩ := List.pairwise_append.1 inOrder.ordered
      have firstWithin := after.within first List.mem_cons_self
      have firstForward := after.forward first List.mem_cons_self
      refine ⟨first.start, ⟨firstWithin.1, before.ordered, before.forward, ?_⟩,
        ⟨firstForward.trans firstWithin.2, after.ordered, after.forward, ?_⟩⟩
      · intro span member
        exact ⟨(before.within span member).1, apart span member first List.mem_cons_self⟩
      · intro span member
        refine ⟨?_, (after.within span member).2⟩
        rcases List.mem_cons.1 member with rfl | later
        · exact Nat.le_refl _
        · exact firstForward.trans ((List.pairwise_cons.1 behind).1 span later)

end InOrder

def located : (offset : Nat) → List Segment → List (Segment × Ast.Span)
  | _, [] => []
  | offset, segment :: segments =>
      let stop := offset + byteLength segment.text
      (segment, ⟨offset, stop⟩) :: located stop segments

def tokenAt? : Segment × Ast.Span → Option Token
  | (⟨.lexeme lexeme, _⟩, span) => some ⟨lexeme, span⟩
  | _ => none

def commentAt? : Segment × Ast.Span → Option Comment
  | (⟨.comment text, _⟩, span) => some ⟨.ofList text, span⟩
  | _ => none

section Located

variable {segments : List Segment} {offset : Nat}

theorem layout_eq_located (offset : Nat) (segments : List Segment) :
    layout offset segments =
      ⟨(located offset segments).filterMap tokenAt?,
        (located offset segments).filterMap commentAt?⟩ := by
  induction segments generalizing offset with
  | nil => rfl
  | cons segment segments induction =>
      obtain ⟨piece, text⟩ := segment
      rw [layout, induction, located]
      cases piece with
      | blank | comment | lexeme => rfl

theorem exists_of_mem_located {segment : Segment} {span : Ast.Span}
    (member : (segment, span) ∈ located offset segments) :
    ∃ left right, segments = left ++ segment :: right ∧
      span = ⟨offset + byteLength (rowText left),
        offset + byteLength (rowText left) + byteLength segment.text⟩ := by
  induction segments generalizing offset with
  | nil => contradiction
  | cons first segments induction =>
      rcases List.mem_cons.1 member with same | later
      · cases same
        exact ⟨[], segments, rfl, rfl⟩
      · obtain ⟨left, right, rfl, rfl⟩ := induction later
        refine ⟨first :: left, right, rfl, ?_⟩
        rw [rowText_cons, byteLength_append, ← Nat.add_assoc]

theorem pairwise_located (offset : Nat) (segments : List Segment) :
    (located offset segments).Pairwise fun left right => left.2.Before right.2 := by
  induction segments generalizing offset with
  | nil => exact .nil
  | cons segment segments induction =>
      refine List.pairwise_cons.2 ⟨?_, induction _⟩
      rintro ⟨other, span⟩ later
      obtain ⟨left, right, -, rfl⟩ := exists_of_mem_located later
      exact Nat.le_add_right _ _

theorem apart_of_mem_located {left right : Segment × Ast.Span}
    (isLeft : left ∈ located offset segments) (isRight : right ∈ located offset segments)
    (different : left ≠ right) : left.2.Before right.2 ∨ right.2.Before left.2 := by
  let Apart (left right : Segment × Ast.Span) : Prop :=
    left.2.Before right.2 ∨ right.2.Before left.2
  have symmetric : Std.Symm Apart := ⟨fun _ _ => Or.symm⟩
  have ordered : (located offset segments).Pairwise Apart :=
    (pairwise_located offset segments).imp Or.inl
  exact ordered.forall isLeft isRight different

theorem exists_located_of_char (offset : Nat) {left right : List Char} {c : Char}
    (parts : rowText segments = left ++ c :: right) :
    ∃ entry ∈ located offset segments, c ∈ entry.1.text ∧
      entry.2.start ≤ offset + byteLength left ∧
      offset + byteLength left + c.utf8Size ≤ entry.2.stop := by
  induction segments generalizing offset left with
  | nil => simp [rowText] at parts
  | cons segment segments induction =>
      rw [rowText_cons] at parts
      -- What is before the character reaches beyond the first segment, to its end or not so far.
      rcases List.append_eq_append_iff.1 parts with
        ⟨beyond, rfl, later⟩ | ⟨inside, here, after⟩
      · obtain ⟨entry, member, among, start, stop⟩ := induction _ later
        refine ⟨entry, List.mem_cons_of_mem _ member, among, ?_, ?_⟩
        · rwa [byteLength_append, ← Nat.add_assoc]
        · rwa [byteLength_append, ← Nat.add_assoc]
      · cases inside with
        | nil =>
            rw [List.append_nil] at here
            have next : rowText segments = [] ++ c :: right := after.symm
            obtain ⟨entry, member, among, start, stop⟩ :=
              induction (offset + byteLength segment.text) next
            rw [here] at start stop
            exact ⟨entry, List.mem_cons_of_mem _ member, among, start, stop⟩
        | cons first inside =>
            obtain ⟨rfl, -⟩ := List.cons.inj after
            refine ⟨_, List.mem_cons_self, ?_, Nat.le_add_right _ _, ?_⟩
            · rw [here]
              exact List.mem_append_right _ List.mem_cons_self
            · simp only [here, byteLength_append, byteLength]
              omega

theorem IsRow.spells (row : IsRow segments) {segment : Segment} {span : Ast.Span}
    (member : (segment, span) ∈ located offset segments) :
    Spells segment.piece segment.text := by
  induction segments generalizing offset with
  | nil => contradiction
  | cons first segments induction =>
      obtain ⟨spells, -, others⟩ := row
      rcases List.mem_cons.1 member with same | later
      · cases same
        exact spells
      · exact induction others later

end Located

section Tiles

variable {source : String} {segments : List Segment} {offset : Nat}

theorem tokenAt?_eq_some {entry : Segment × Ast.Span} {token : Token} :
    tokenAt? entry = some token ↔ ∃ text, entry = (⟨.lexeme token.lexeme, text⟩, token.span) := by
  obtain ⟨⟨piece, text⟩, span⟩ := entry
  cases piece with
  | blank | comment => simp [tokenAt?]
  | lexeme lexeme =>
      constructor
      · rintro ⟨⟩
        exact ⟨text, rfl⟩
      · rintro ⟨_, ⟨⟩⟩
        rfl

theorem commentAt?_eq_some {entry : Segment × Ast.Span} {comment : Comment} :
    commentAt? entry = some comment ↔
      ∃ body text, entry = (⟨.comment body, text⟩, comment.span) ∧ .ofList body = comment.text := by
  obtain ⟨⟨piece, text⟩, span⟩ := entry
  cases piece with
  | blank | lexeme => simp [commentAt?]
  | comment body =>
      constructor
      · rintro ⟨⟩
        exact ⟨body, text, rfl, rfl⟩
      · obtain ⟨said, other⟩ := comment
        rintro ⟨_, _, ⟨⟩, rfl⟩
        rfl

theorem mem_tokens_layout {token : Token} :
    token ∈ (layout offset segments).tokens ↔
      ∃ text, (⟨.lexeme token.lexeme, text⟩, token.span) ∈ located offset segments := by
  rw [layout_eq_located, List.mem_filterMap]
  simp only [tokenAt?_eq_some]
  constructor
  · rintro ⟨_, member, text, rfl⟩
    exact ⟨text, member⟩
  · rintro ⟨text, member⟩
    exact ⟨_, member, text, rfl⟩

theorem mem_comments_layout {comment : Comment} :
    comment ∈ (layout offset segments).comments ↔
      ∃ body text, (⟨.comment body, text⟩, comment.span) ∈ located offset segments ∧
        .ofList body = comment.text := by
  rw [layout_eq_located, List.mem_filterMap]
  simp only [commentAt?_eq_some]
  constructor
  · rintro ⟨_, member, body, text, rfl, same⟩
    exact ⟨body, text, member, same⟩
  · rintro ⟨body, text, member, same⟩
    exact ⟨_, member, body, text, rfl, same⟩

theorem mem_spans_layout {span : Ast.Span} :
    span ∈ (layout offset segments).spans ↔
      ∃ segment, (segment, span) ∈ located offset segments ∧ segment.piece ≠ .blank := by
  rw [Lexed.spans, List.mem_append, List.mem_map, List.mem_map]
  simp only [mem_tokens_layout, mem_comments_layout]
  constructor
  · rintro (⟨token, ⟨text, member⟩, rfl⟩ | ⟨comment, ⟨body, text, member, -⟩, rfl⟩)
    · exact ⟨_, member, by simp⟩
    · exact ⟨_, member, by simp⟩
  · rintro ⟨⟨piece, text⟩, member, notBlank⟩
    cases piece with
    | blank => contradiction
    | comment body => exact .inr ⟨⟨.ofList body, span⟩, ⟨body, text, member, rfl⟩, rfl⟩
    | lexeme lexeme => exact .inl ⟨⟨lexeme, span⟩, ⟨text, member⟩, rfl⟩

theorem byteLength_pos {text : List Char} (begun : text ≠ []) : 0 < byteLength text := by
  obtain ⟨c, rest, rfl⟩ := List.exists_cons_of_ne_nil begun
  exact Nat.add_pos_left c.utf8Size_pos _

/-- A segment of a source cuts out its own text. -/
theorem IsRow.cuts (row : IsRow segments) (text : rowText segments = source.toList)
    {segment : Segment} {span : Ast.Span} (member : (segment, span) ∈ located 0 segments) :
    span.Fits source ∧ span.start < span.stop ∧ span.slice source = .ofList segment.text := by
  have filled := byteLength_pos (row.spells member).ne_nil
  obtain ⟨left, right, rfl, rfl⟩ := exists_of_mem_located member
  have parts : source.toList = rowText left ++ (segment.text ++ rowText right) := by
    rw [← text, rowText_append, rowText_cons]
  rw [Nat.zero_add]
  exact ⟨fits_of_parts parts, Nat.lt_add_of_pos_right filled, slice_of_parts parts⟩

theorem Spells.spelling {lexeme : Lexeme} {text : List Char}
    (spells : Spells (.lexeme lexeme) text) : String.ofList text = lexeme.spelling := by
  cases spells with
  | number | string | name | mark => rfl

theorem Spells.comment_text {body text : List Char} (spells : Spells (.comment body) text) :
    String.ofList text = "//" ++ String.ofList body := by
  cases spells with
  | comment =>
      rw [← String.ofList_append]
      rfl

theorem pairwise_before_filterMap {α : Type} {choose : Segment × Ast.Span → Option α}
    {span : α → Ast.Span}
    (kept : ∀ entry chosen, choose entry = some chosen → entry.2 = span chosen) :
    (((located offset segments).filterMap choose).map span).Pairwise Ast.Span.Before := by
  rw [List.pairwise_map, List.pairwise_filterMap]
  refine (pairwise_located offset segments).imp ?_
  intro left right before first found second foundLater
  rw [← kept _ _ found, ← kept _ _ foundLater]
  exact before

theorem IsRow.tiles (row : IsRow segments) (text : rowText segments = source.toList) :
    (layout 0 segments).Tiles source where
  fits := by
    intro span member
    obtain ⟨segment, member, -⟩ := mem_spans_layout.1 member
    exact (row.cuts text member).1
  filled := by
    intro span member
    obtain ⟨segment, member, -⟩ := mem_spans_layout.1 member
    exact (row.cuts text member).2.1
  tokensOrdered := by
    rw [layout_eq_located]
    apply pairwise_before_filterMap
    intro entry token found
    obtain ⟨text, rfl⟩ := tokenAt?_eq_some.1 found
    rfl
  commentsOrdered := by
    rw [layout_eq_located]
    apply pairwise_before_filterMap
    intro entry comment found
    obtain ⟨body, text, rfl, -⟩ := commentAt?_eq_some.1 found
    rfl
  apart := by
    intro token isToken comment isComment
    obtain ⟨text, left⟩ := mem_tokens_layout.1 isToken
    obtain ⟨body, whole, right, -⟩ := mem_comments_layout.1 isComment
    exact apart_of_mem_located left right (by simp)
  token := by
    intro token isToken
    obtain ⟨spelling, member⟩ := mem_tokens_layout.1 isToken
    obtain ⟨-, -, cut⟩ := row.cuts text member
    rw [cut, (row.spells member).spelling]
  comment := by
    intro comment isComment
    obtain ⟨body, spelling, member, same⟩ := mem_comments_layout.1 isComment
    obtain ⟨-, -, cut⟩ := row.cuts text member
    rw [cut, (row.spells member).comment_text, same]
  blank := by
    intro left c right parts notBlank
    obtain ⟨⟨⟨piece, spelling⟩, span⟩, member, among, start, stop⟩ :=
      exists_located_of_char 0 (text.trans parts)
    rw [Nat.zero_add] at start stop
    refine ⟨span, mem_spans_layout.2 ⟨_, member, ?_⟩, start, stop⟩
    rintro rfl
    cases row.spells member with
    | blank white =>
        obtain rfl := List.mem_singleton.1 among
        rw [white] at notBlank
        contradiction

theorem tiles_of_lex {lexed : Lexed} (lexes : lex source = .ok lexed) : lexed.Tiles source := by
  obtain ⟨segments, row, text, rfl⟩ := lex_eq_ok.1 lexes
  exact row.tiles text

end Tiles

/-- Tokens stand in order between two offsets of a source, and each cuts out its spelling. -/
structure Written (source : String) (low high : Nat) (tokens : List Token) : Prop where
  inOrder : InOrder low high (tokens.map Token.span)
  fits : ∀ token ∈ tokens, token.span.Fits source
  cuts : ∀ token ∈ tokens, token.span.slice source = token.lexeme.spelling

section Written

variable {source : String} {lexed : Lexed} {low high : Nat}
  {tokens left right part : List Token}

theorem Written.sublist (written : Written source low high tokens) (sub : part.Sublist tokens) :
    Written source low high part where
  inOrder := written.inOrder.sublist (sub.map _)
  fits := fun token member => written.fits token (sub.subset member)
  cuts := fun token member => written.cuts token (sub.subset member)

theorem Written.split (written : Written source low high (left ++ right)) :
    ∃ middle, Written source low middle left ∧ Written source middle high right := by
  have inOrder := written.inOrder
  rw [List.map_append] at inOrder
  obtain ⟨middle, before, after⟩ := inOrder.split
  obtain ⟨fitsLeft, fitsRight⟩ := List.forall_mem_append.1 written.fits
  obtain ⟨cutsLeft, cutsRight⟩ := List.forall_mem_append.1 written.cuts
  exact ⟨middle, ⟨before, fitsLeft, cutsLeft⟩, ⟨after, fitsRight, cutsRight⟩⟩

theorem Written.offsetOf_le (written : Written source low high tokens) {token : Token}
    (member : token ∈ tokens) : offsetOf tokens ≤ token.span.start := by
  cases tokens with
  | nil => contradiction
  | cons first tokens =>
      have ordered := (List.pairwise_cons.1 written.inOrder.ordered).1
      have forward := written.inOrder.forward first.span List.mem_cons_self
      rcases List.mem_cons.1 member with rfl | later
      · exact Nat.le_refl _
      · exact forward.trans (ordered _ (List.mem_map_of_mem later))

theorem Written.le_stopOf (written : Written source low high tokens) {token : Token}
    (member : token ∈ tokens) : token.span.stop ≤ stopOf tokens := by
  obtain rfl | ⟨others, last, rfl⟩ := tokens.eq_nil_or_concat'
  · contradiction
  · have inOrder := written.inOrder
    rw [List.map_append] at inOrder
    have ordered := (List.pairwise_append.1 inOrder.ordered).2.2
    have forward := inOrder.forward last.span (by simp)
    rw [stopOf_concat]
    rcases List.mem_append.1 member with earlier | final
    · exact (ordered _ (List.mem_map_of_mem earlier) _ List.mem_cons_self).trans forward
    · obtain rfl := List.mem_singleton.1 final
      exact Nat.le_refl _

theorem exists_offsetOf_eq (begun : tokens ≠ []) :
    ∃ token ∈ tokens, offsetOf tokens = token.span.start := by
  obtain ⟨first, rest, rfl⟩ := List.exists_cons_of_ne_nil begun
  exact ⟨first, List.mem_cons_self, rfl⟩

theorem exists_stopOf_eq (begun : tokens ≠ []) :
    ∃ token ∈ tokens, stopOf tokens = token.span.stop := by
  refine ⟨tokens.getLast begun, List.getLast_mem begun, ?_⟩
  rw [← stopOf_concat tokens.dropLast, List.dropLast_concat_getLast]

theorem Written.tight (written : Written source low high tokens) (begun : tokens ≠ []) :
    Written source (offsetOf tokens) (stopOf tokens) tokens where
  inOrder := by
    have forward := List.forall_mem_map.1 written.inOrder.forward
    refine ⟨?_, written.inOrder.ordered, written.inOrder.forward, ?_⟩
    · obtain ⟨token, member⟩ := List.exists_mem_of_ne_nil tokens begun
      exact (written.offsetOf_le member).trans ((forward token member).trans
        (written.le_stopOf member))
    · exact List.forall_mem_map.2 fun token member =>
        ⟨written.offsetOf_le member, written.le_stopOf member⟩
  fits := written.fits
  cuts := written.cuts

theorem Written.within (written : Written source low high tokens) (begun : tokens ≠ []) :
    Ast.Span.Within ⟨offsetOf tokens, stopOf tokens⟩ ⟨low, high⟩ := by
  obtain ⟨first, isFirst, start⟩ := exists_offsetOf_eq begun
  obtain ⟨last, isLast, stop⟩ := exists_stopOf_eq begun
  have within := List.forall_mem_map.1 written.inOrder.within
  constructor
  · rw [start]
    exact (within first isFirst).1
  · rw [stop]
    exact (within last isLast).2

theorem Written.fits_tokens (written : Written source low high tokens) (begun : tokens ≠ []) :
    Ast.Span.Fits ⟨offsetOf tokens, stopOf tokens⟩ source := by
  obtain ⟨first, isFirst, start⟩ := exists_offsetOf_eq begun
  obtain ⟨last, isLast, stop⟩ := exists_stopOf_eq begun
  refine ⟨(written.tight begun).inOrder.bounded, ?_, ?_, ?_⟩
  · rw [stop]
    exact (written.fits last isLast).bounded
  · rw [start]
    exact (written.fits first isFirst).startValid
  · rw [stop]
    exact (written.fits last isLast).stopValid

theorem Lexed.Tiles.written (tiles : lexed.Tiles source) :
    Written source 0 source.utf8ByteSize lexed.tokens where
  inOrder := by
    have fits : ∀ span ∈ lexed.tokens.map Token.span, span.Fits source :=
      fun span member => tiles.fits span (List.mem_append_left _ member)
    refine ⟨Nat.zero_le _, tiles.tokensOrdered, ?_, ?_⟩
    · exact fun span member => (fits span member).ordered
    · exact fun span member => ⟨Nat.zero_le _, (fits span member).bounded⟩
  fits := fun token member =>
    tiles.fits token.span (List.mem_append_left _ (List.mem_map_of_mem member))
  cuts := tiles.token

end Written

end Minilang

end Reparse
