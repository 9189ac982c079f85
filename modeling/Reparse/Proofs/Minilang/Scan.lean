import Reparse.Minilang.Printer
import Reparse.Proofs.Minilang.Number

namespace Reparse

namespace Minilang

def IsName (text : List Char) : Prop :=
  ∃ c rest, text = c :: rest ∧ isIdentifierStart c = true ∧
    ∀ d ∈ rest, isIdentifierPart d = true

def Lexeme.Genuine : Lexeme → Prop
  | .number value _ => IsMagnitude value
  | .string _ _ => True
  | .identifier name => IsName name.toList
  | .mark c => c ∈ marks

section Characters

variable {c : Char}

theorem not_blank_of_isDigit (digit : c.isDigit = true) : isBlank c = false := by
  obtain ⟨low, high⟩ := Char.isDigit_iff_toNat.1 digit
  simp only [Char.reduceToNat] at low high
  simp [isBlank]
  omega

theorem isIdentifierPart_of_isIdentifierStart (start : isIdentifierStart c = true) :
    isIdentifierPart c = true := by
  simp only [isIdentifierStart, Bool.or_eq_true] at start
  simp only [isIdentifierPart, Char.isAlphanum, Bool.or_eq_true]
  rcases start with (alpha | underscore) | dollar
  · exact .inl (.inl (.inl alpha))
  · exact .inl (.inr underscore)
  · exact .inr dollar

theorem toNat_of_isIdentifierStart (start : isIdentifierStart c = true) :
    c.toNat = 36 ∨ (65 ≤ c.toNat ∧ c.toNat ≤ 90) ∨ c.toNat = 95 ∨
      (97 ≤ c.toNat ∧ c.toNat ≤ 122) := by
  have alpha : c.isAlpha =
      (decide (c.val ≥ 65 ∧ c.val ≤ 90) || (c.val ≥ 97 && c.val ≤ 122)) := rfl
  simp only [isIdentifierStart, alpha, Bool.or_eq_true, Bool.and_eq_true, decide_eq_true_eq,
    beq_iff_eq, ge_iff_le, UInt32.le_iff_toNat_le] at start
  rcases start with ((upper | lower) | rfl) | rfl
  · exact .inr (.inl upper)
  · exact .inr (.inr (.inr lower))
  · exact .inr (.inr (.inl rfl))
  · exact .inl rfl

theorem not_blank_of_isIdentifierStart (start : isIdentifierStart c = true) :
    isBlank c = false := by
  have number := toNat_of_isIdentifierStart start
  simp [isBlank]
  omega

theorem not_digit_of_isIdentifierStart (start : isIdentifierStart c = true) :
    ¬c.isDigit = true := by
  have number := toNat_of_isIdentifierStart start
  rw [Char.isDigit_iff_toNat]
  simp only [Char.reduceToNat]
  omega

theorem ne_of_isIdentifierStart (start : isIdentifierStart c = true) {other : Char}
    (different : isIdentifierStart other = false) : c ≠ other := by
  rintro rfl
  rw [start] at different
  contradiction

theorem mark_ends {c : Char} (known : c ∈ marks) : isIdentifierPart c = false ∧ c ≠ '.' := by
  have all : ∀ c ∈ marks, isIdentifierPart c = false ∧ c ≠ '.' :=
    List.all_iff_forall_prop.1 (by decide)
  exact all c known

end Characters

/-- Texts that are read as a piece, if they end there. -/
inductive Spells : Piece → List Char → Prop where
  | blank {c : Char} (blank : isBlank c = true) : Spells .blank [c]
  | comment {text : List Char} (line : '\n' ∉ text) :
      Spells (.comment text) ('/' :: '/' :: text)
  | number {whole fraction : List Char} (begun : whole ≠ [])
      (wholeDigits : ∀ d ∈ whole, d.isDigit = true)
      (fractionDigits : ∀ d ∈ fraction, d.isDigit = true) :
      Spells
        (.lexeme (.number (numberValue whole fraction) (String.ofList (pointText whole fraction))))
        (pointText whole fraction)
  | string {quote : Char} {value text : List Char} (quoted : quote = '"' ∨ quote = '\'')
      (body : ∀ after, stringBody quote (text ++ after) = some (value, text, after)) :
      Spells (.lexeme (.string (String.ofList value) (String.ofList (quote :: text))))
        (quote :: text)
  | name {text : List Char} (name : IsName text) :
      Spells (.lexeme (.identifier (String.ofList text))) text
  | mark {c : Char} (known : c ∈ marks) : Spells (.lexeme (.mark c)) [c]

/-- What can stand behind a piece without being taken for a part of it. -/
def Piece.EndsAt (piece : Piece) (after : List Char) : Prop :=
  match piece with
  | .comment _ => ∀ c ∈ after.head?, c = '\n'
  | .lexeme (.number _ _) => ∀ c ∈ after.head?, c.isDigit = false ∧ c ≠ '.'
  | .lexeme (.identifier _) => ∀ c ∈ after.head?, isIdentifierPart c = false
  | _ => True

def Piece.IsComment : Piece → Prop
  | .comment _ => True
  | _ => False

section Pieces

variable {c : Char}

theorem Piece.EndsAt.congr {piece : Piece} {after other : List Char}
    (ends : piece.EndsAt after) (same : after.head? = other.head?) : piece.EndsAt other := by
  cases piece with
  | blank => trivial
  | comment text => simpa only [EndsAt, same] using ends
  | lexeme lexeme =>
      cases lexeme with
      | number | identifier => simpa only [EndsAt, same] using ends
      | string | mark => trivial

theorem Piece.endsAt_mark {piece : Piece} (notComment : ¬piece.IsComment) (known : c ∈ marks)
    (after : List Char) : piece.EndsAt (c :: after) := by
  have ends := mark_ends known
  cases piece with
  | blank => trivial
  | comment text => exact absurd trivial notComment
  | lexeme lexeme =>
      cases lexeme with
      | number value spelling =>
          rintro _ ⟨⟩
          have part := ends.1
          simp only [isIdentifierPart, Char.isAlphanum, Bool.or_eq_false_iff] at part
          exact ⟨part.1.1.2, ends.2⟩
      | identifier name =>
          rintro _ ⟨⟩
          exact ends.1
      | string | mark => trivial

theorem Spells.ne_nil {piece : Piece} {text : List Char} (spells : Spells piece text) :
    text ≠ [] := by
  cases spells with
  | blank | comment | string | mark => exact List.cons_ne_nil _ _
  | number begun => exact List.append_ne_nil_of_left_ne_nil begun _
  | name name =>
      obtain ⟨first, others, rfl, -⟩ := name
      exact List.cons_ne_nil _ _

theorem Spells.head?_ne {lexeme : Lexeme} {text : List Char}
    (spells : Spells (.lexeme lexeme) text) : text.head? ≠ some '\n' := by
  intro first
  cases spells with
  | number begun wholeDigits =>
      obtain ⟨digit, others, rfl⟩ := List.exists_cons_of_ne_nil begun
      cases first
      exact absurd (wholeDigits '\n' List.mem_cons_self) (by decide)
  | string quoted =>
      cases first
      exact absurd quoted (by decide)
  | name name =>
      obtain ⟨start, others, rfl, begins, -⟩ := name
      cases first
      exact absurd begins (by decide)
  | mark known =>
      cases first
      exact absurd known (by decide)

theorem Spells.genuine {lexeme : Lexeme} {text : List Char}
    (spells : Spells (.lexeme lexeme) text) : lexeme.Genuine := by
  cases spells with
  | number => exact isMagnitude_numberValue _ _
  | string => trivial
  | @name text name =>
      rw [← String.toList_ofList (l := text)] at name
      exact name
  | mark known => exact known

end Pieces

section Scan

variable (offset : Nat)

theorem scan_mark {c : Char} (known : c ∈ marks) (rest : List Char) :
    scan offset c rest = .ok ⟨.lexeme (.mark c), [c], rest⟩ := by
  simp only [marks, List.mem_cons, List.not_mem_nil, or_false] at known
  rcases known with rfl | rfl | rfl | rfl | rfl | rfl | rfl | rfl | rfl
  all_goals rfl

theorem scan_newline (rest : List Char) :
    scan offset '\n' rest = .ok ⟨.blank, ['\n'], rest⟩ :=
  rfl

theorem escape_cases (c : Char) :
    (escape c = [c] ∧ c ≠ '"' ∧ c ≠ '\\') ∨
      ∃ code, escape c = ['\\', code] ∧ unescape code = c := by
  unfold escape
  split
  · exact .inr ⟨'"', rfl, rfl⟩
  · exact .inr ⟨'\\', rfl, rfl⟩
  · exact .inr ⟨'n', rfl, rfl⟩
  · exact .inr ⟨'t', rfl, rfl⟩
  · next quote backslash newline tab => exact .inl ⟨rfl, quote, backslash⟩

theorem stringBody_plain {quote c : Char} (plain : c ≠ '\\') (text : List Char) :
    stringBody quote (c :: text) =
      if c = quote then
        some ([], [c], text)
      else
        (stringBody quote text).map fun (value, spelling, rest) =>
          (c :: value, c :: spelling, rest) :=
  stringBody.eq_4 _ _ _ (fun same _ => plain same) (fun _ _ same _ => plain same)

theorem stringBody_escape (text rest : List Char) :
    stringBody '"' (text.flatMap escape ++ '"' :: rest) =
      some (text, text.flatMap escape ++ ['"'], rest) := by
  induction text with
  | nil => rfl
  | cons c text induction =>
      rw [List.flatMap_cons, List.append_assoc]
      rcases escape_cases c with ⟨plain, quote, backslash⟩ | ⟨code, coded, reads⟩
      · rw [plain, List.singleton_append, stringBody_plain backslash, if_neg quote, induction]
        rfl
      · rw [coded, List.cons_append, List.cons_append, List.nil_append, stringBody, induction,
          reads]
        rfl

theorem scan_quote (text : String) (rest : List Char) :
    scan offset '"' (text.toList.flatMap escape ++ '"' :: rest) =
      .ok
        { piece := .lexeme (.string text (String.ofList (quote text)))
          spelling := quote text
          rest := rest } := by
  have body := stringBody_escape text.toList rest
  have notBlank : ¬isBlank '"' = true := by decide
  have notDigit : ¬Char.isDigit '"' = true := by decide
  rw [scan, if_neg notBlank, if_neg (fun slash => absurd slash.1 (by decide)), if_neg notDigit,
    if_pos (.inl rfl), body]
  simp [quote]

theorem scan_name {c : Char} {others rest : List Char} (start : isIdentifierStart c = true)
    (parts : ∀ d ∈ others, isIdentifierPart d = true)
    (ends : ∀ d ∈ rest.head?, isIdentifierPart d = false) :
    scan offset c (others ++ rest) =
      .ok ⟨.lexeme (.identifier (String.ofList (c :: others))), c :: others, rest⟩ := by
  have all : ∀ d ∈ c :: others, isIdentifierPart d = true := by
    intro d member
    rcases List.mem_cons.1 member with rfl | member
    · exact isIdentifierPart_of_isIdentifierStart start
    · exact parts d member
  have notBlank : ¬isBlank c = true := by simp [not_blank_of_isIdentifierStart start]
  have notSlash : c ≠ '/' := ne_of_isIdentifierStart start (by decide)
  have notDouble : c ≠ '"' := ne_of_isIdentifierStart start (by decide)
  have notSingle : c ≠ '\'' := ne_of_isIdentifierStart start (by decide)
  obtain ⟨taken, dropped⟩ := Decimal.span_append all ends
  simp only [List.cons_append] at taken dropped
  rw [scan, if_neg notBlank, if_neg (fun slash => notSlash slash.1),
    if_neg (not_digit_of_isIdentifierStart start),
    if_neg (fun marked => marked.elim notDouble notSingle), if_pos start]
  simp only [taken, dropped]

theorem scanNumber_pointText {whole fraction rest : List Char}
    (wholeDigits : ∀ d ∈ whole, d.isDigit = true)
    (fractionDigits : ∀ d ∈ fraction, d.isDigit = true)
    (ends : ∀ d ∈ rest.head?, d.isDigit = false ∧ d ≠ '.') :
    scanNumber (pointText whole fraction ++ rest) =
      { piece :=
          .lexeme (.number (numberValue whole fraction) (String.ofList (pointText whole fraction)))
        spelling := pointText whole fraction
        rest := rest } := by
  cases fraction with
  | nil =>
      obtain ⟨taken, dropped⟩ := Decimal.span_append wholeDigits fun d first => (ends d first).1
      simp only [pointText, if_pos, List.append_nil, scanNumber, taken, dropped]
      split
      · exact absurd rfl (ends '.' rfl).2
      · rfl
  | cons digit fraction =>
      have point : ∀ d ∈ ('.' :: digit :: fraction ++ rest).head?, d.isDigit = false := by
        rintro _ ⟨⟩
        rfl
      obtain ⟨takenWhole, droppedWhole⟩ := Decimal.span_append wholeDigits point
      obtain ⟨taken, dropped⟩ := Decimal.span_append fractionDigits fun d first => (ends d first).1
      have text : pointText whole (digit :: fraction) ++ rest =
          whole ++ ('.' :: digit :: fraction ++ rest) := by simp [pointText]
      rw [text]
      simp only [List.cons_append] at takenWhole droppedWhole taken dropped
      simp only [scanNumber, List.cons_append, takenWhole, droppedWhole, taken, dropped,
        if_pos (fractionDigits digit List.mem_cons_self)]
      simp [pointText]

theorem scan_digit {c : Char} {rest : List Char} (digit : c.isDigit = true) :
    scan offset c rest = .ok (scanNumber (c :: rest)) := by
  have notBlank : ¬isBlank c = true := by simp [not_blank_of_isDigit digit]
  have notSlash : c ≠ '/' := Decimal.isDigit_ne digit (by decide)
  rw [scan, if_neg notBlank, if_neg (fun slash => notSlash slash.1), if_pos digit]

/-- A body is some characters at the front of the text, whatever comes behind them. -/
theorem stringBody_sound {quote : Char} {text value spelling rest : List Char}
    (read : stringBody quote text = some (value, spelling, rest)) :
    spelling ++ rest = text ∧
      ∀ after, stringBody quote (spelling ++ after) = some (value, spelling, after) := by
  have ne_backslash {c : Char} {text : List Char} (notLone : c = '\\' → text = [] → False)
      (notEscape : ∀ escaped rest, c = '\\' → text = escaped :: rest → False) : c ≠ '\\' := by
    intro same
    cases text with
    | nil => exact notLone same rfl
    | cons escaped rest => exact notEscape escaped rest same rfl
  induction text using stringBody.induct quote generalizing value spelling rest with
  | case1 => simp [stringBody] at read
  | case2 => simp [stringBody] at read
  | case3 escaped text induction =>
      rw [stringBody] at read
      obtain ⟨⟨inner, code, behind⟩, inside, same⟩ := Option.map_eq_some_iff.1 read
      cases same
      obtain ⟨parts, again⟩ := induction inside
      refine ⟨by simp [parts], fun after => ?_⟩
      rw [List.cons_append, List.cons_append, stringBody, again]
      rfl
  | case4 text notLone notEscape =>
      have plain := ne_backslash notLone notEscape
      rw [stringBody_plain plain, if_pos rfl] at read
      cases read
      refine ⟨rfl, fun after => ?_⟩
      rw [List.singleton_append, stringBody_plain plain, if_pos rfl]
  | case5 c text notLone notEscape different induction =>
      have plain := ne_backslash notLone notEscape
      rw [stringBody_plain plain, if_neg different] at read
      obtain ⟨⟨inner, code, behind⟩, inside, same⟩ := Option.map_eq_some_iff.1 read
      cases same
      obtain ⟨parts, again⟩ := induction inside
      refine ⟨by simp [parts], fun after => ?_⟩
      rw [List.cons_append, stringBody_plain plain, if_neg different, again]
      rfl

theorem head?_dropWhile {p : Char → Bool} {text : List Char} :
    ∀ d ∈ (text.dropWhile p).head?, p d = false := by
  intro d first
  have failing := List.head?_dropWhile_not p text
  rw [Option.mem_def.1 first] at failing
  simpa using failing

/-- Characters at the front of a text that spell a piece, which goes on until it ends.  A point may
stand behind a number, but no piece begins with a point. -/
structure Scanned.IsFront (scanned : Scanned) (text : List Char) : Prop where
  parts : scanned.spelling ++ scanned.rest = text
  spells : Spells scanned.piece scanned.spelling
  ends : scanned.rest.head? ≠ some '.' → scanned.piece.EndsAt scanned.rest

theorem scanNumber_isFront {text : List Char} (begun : text.takeWhile Char.isDigit ≠ []) :
    (scanNumber text).IsFront text := by
  have digits (text : List Char) : ∀ d ∈ text.takeWhile Char.isDigit, d.isDigit = true :=
    List.all_eq_true.1 List.all_takeWhile
  have ends {text : List Char} (pointless : (text.dropWhile Char.isDigit).head? ≠ some '.') :
      ∀ d ∈ (text.dropWhile Char.isDigit).head?, d.isDigit = false ∧ d ≠ '.' := by
    intro d first
    refine ⟨head?_dropWhile d first, ?_⟩
    rintro rfl
    exact pointless first
  have parts := List.takeWhile_append_dropWhile (p := Char.isDigit) (l := text)
  have whole := Spells.number begun (digits text) (List.forall_mem_nil _)
  simp only [pointText, if_pos, List.append_nil] at whole
  unfold scanNumber
  dsimp only
  split
  · next next rest after =>
      split
      · next digit =>
          have fraction : (next :: rest).takeWhile Char.isDigit ≠ [] := by
            rw [List.takeWhile_cons, if_pos digit]
            exact List.cons_ne_nil _ _
          have both := Spells.number begun (digits text) (digits (next :: rest))
          rw [pointText, if_neg fraction] at both
          refine ⟨?_, both, ends⟩
          rw [List.append_assoc, List.cons_append, List.takeWhile_append_dropWhile, ← after, parts]
      · exact ⟨parts, whole, ends⟩
  · exact ⟨parts, whole, ends⟩

theorem scan_isFront {offset : Nat} {c : Char} {rest : List Char} {scanned : Scanned}
    (read : scan offset c rest = .ok scanned) : scanned.IsFront (c :: rest) := by
  unfold scan at read
  split at read
  · next blank =>
      cases read
      exact ⟨rfl, .blank blank, fun _ => trivial⟩
  · split at read
    · next slashes =>
        cases read
        obtain ⟨rfl, second⟩ := slashes
        obtain ⟨others, rfl⟩ := List.head?_eq_some_iff.1 second
        refine ⟨by simp [List.takeWhile_append_dropWhile], .comment fun member => ?_, ?_⟩
        · have line := List.all_eq_true.1 List.all_takeWhile _ member
          contradiction
        · intro _ d first
          simpa using head?_dropWhile d first
    · split at read
      · next digit =>
          cases read
          apply scanNumber_isFront
          rw [List.takeWhile_cons, if_pos digit]
          exact List.cons_ne_nil _ _
      · split at read
        · next quoted =>
            split at read
            · contradiction
            · next value spelling after body =>
                cases read
                obtain ⟨parts, again⟩ := stringBody_sound body
                exact ⟨congrArg (c :: ·) parts, .string quoted again, fun _ => trivial⟩
        · split at read
          · next start =>
              cases read
              have first := isIdentifierPart_of_isIdentifierStart start
              refine ⟨List.takeWhile_append_dropWhile, .name ?_, fun _ => head?_dropWhile⟩
              refine ⟨c, rest.takeWhile isIdentifierPart, ?_, start, ?_⟩
              · rw [List.takeWhile_cons, if_pos first]
              · exact List.all_eq_true.1 List.all_takeWhile
          · split at read
            · next known =>
                cases read
                exact ⟨rfl, .mark (List.contains_iff_mem.1 known), fun _ => trivial⟩
            · contradiction

structure Scanned.Sound (scanned : Scanned) (text : List Char) : Prop where
  parts : scanned.spelling ++ scanned.rest = text
  shorter : scanned.rest.length < text.length
  genuine : ∀ lexeme, scanned.piece = .lexeme lexeme → lexeme.Genuine

theorem scan_sound {offset : Nat} {c : Char} {rest : List Char} {scanned : Scanned}
    (read : scan offset c rest = .ok scanned) : scanned.Sound (c :: rest) := by
  obtain ⟨parts, spells, -⟩ := scan_isFront read
  refine ⟨parts, ?_, fun lexeme same => ?_⟩
  · have begun := List.length_pos_iff.2 spells.ne_nil
    rw [← parts, List.length_append]
    omega
  · rw [same] at spells
    exact spells.genuine

theorem scan_of_spells {piece : Piece} {text after : List Char} (spells : Spells piece text)
    (ends : piece.EndsAt after) :
    ∃ c rest, text ++ after = c :: rest ∧
      ∀ offset, scan offset c rest = .ok ⟨piece, text, after⟩ := by
  cases spells with
  | @blank c blank =>
      refine ⟨c, after, rfl, fun offset => ?_⟩
      rw [scan, if_pos blank]
  | @comment text line =>
      refine ⟨'/', '/' :: (text ++ after), rfl, fun offset => ?_⟩
      have inLine : ∀ d ∈ text, (d != '\n') = true := by
        intro d member
        rw [bne_iff_ne]
        rintro rfl
        exact line member
      have lineEnds : ∀ d ∈ after.head?, (d != '\n') = false := by
        intro d first
        simp [ends d first]
      obtain ⟨taken, dropped⟩ := Decimal.span_append inLine lineEnds
      have notBlank : ¬isBlank '/' = true := by decide
      rw [scan, if_neg notBlank, if_pos ⟨rfl, rfl⟩]
      simp only [List.tail_cons, taken, dropped]
  | @number whole fraction begun wholeDigits fractionDigits =>
      obtain ⟨digit, others, rfl⟩ := List.exists_cons_of_ne_nil begun
      refine ⟨digit, _, rfl, fun offset => ?_⟩
      rw [scan_digit offset (wholeDigits digit List.mem_cons_self)]
      exact congrArg Except.ok (scanNumber_pointText wholeDigits fractionDigits ends)
  | @string quote value text quoted body =>
      refine ⟨quote, text ++ after, rfl, fun offset => ?_⟩
      have notBlank : ¬isBlank quote = true := by rcases quoted with rfl | rfl <;> decide
      have notSlash : quote ≠ '/' := by rcases quoted with rfl | rfl <;> decide
      have notDigit : ¬quote.isDigit = true := by rcases quoted with rfl | rfl <;> decide
      rw [scan, if_neg notBlank, if_neg (fun slash => notSlash slash.1), if_neg notDigit,
        if_pos quoted, body after]
  | name name =>
      obtain ⟨start, others, rfl, begins, parts⟩ := name
      exact ⟨start, others ++ after, rfl, fun offset => scan_name offset begins parts ends⟩
  | @mark c known => exact ⟨c, after, rfl, fun offset => scan_mark offset known after⟩

end Scan

end Minilang

end Reparse
