import Reparse.Proofs.Minilang.Grammar
import Reparse.Proofs.Minilang.Scan

/-!
What the lexer reads off a text of lexemes.

Each piece of a text is told by its beginning and by the character that follows it, so lexemes in a
row are read back one by one where no two words stand side by side.
-/

namespace Reparse

namespace Minilang

theorem lexFrom_nil (fuel offset : Nat) : lexFrom fuel offset [] = .ok ⟨[], []⟩ := by
  cases fuel with
  | zero => rfl
  | succ fuel => rfl

-- Unfolding `scan` while the two sides are compared does not end in reasonable time.
seal scan in
theorem lexFrom_succ (fuel offset : Nat) (c : Char) (rest : List Char) :
    lexFrom (fuel + 1) offset (c :: rest) =
      match scan offset c rest with
      | .error fault => .error fault
      | .ok scanned =>
          match lexFrom fuel (offset + byteLength scanned.spelling) scanned.rest with
          | .error fault => .error fault
          | .ok lexed =>
              .ok (lexed.cons scanned.piece ⟨offset, offset + byteLength scanned.spelling⟩) :=
  rfl

theorem lexFrom_cons_eq_ok {fuel offset : Nat} {c : Char} {rest : List Char} {lexed : Lexed} :
    lexFrom (fuel + 1) offset (c :: rest) = .ok lexed ↔
      ∃ scanned later, scan offset c rest = .ok scanned ∧
        lexFrom fuel (offset + byteLength scanned.spelling) scanned.rest = .ok later ∧
        lexed = later.cons scanned.piece ⟨offset, offset + byteLength scanned.spelling⟩ := by
  rw [lexFrom_succ]
  constructor
  · intro read
    split at read
    · contradiction
    · next scanned front =>
        split at read
        · contradiction
        · next later found => exact ⟨scanned, later, front, found, (Except.ok.inj read).symm⟩
  · rintro ⟨scanned, later, front, found, rfl⟩
    rw [front]
    dsimp only
    rw [found]

/-- Fuel beyond the number of characters changes nothing. -/
theorem lexFrom_fuel (fuel other offset : Nat) (text : List Char) (enough : text.length ≤ fuel)
    (alsoEnough : text.length ≤ other) :
    lexFrom fuel offset text = lexFrom other offset text := by
  induction fuel generalizing other offset text with
  | zero =>
      obtain rfl := List.eq_nil_of_length_eq_zero (Nat.le_zero.1 enough)
      cases other <;> rfl
  | succ fuel induction =>
      match text, other with
      | [], other => rw [lexFrom_nil, lexFrom_nil]
      | c :: rest, 0 => simp at alsoEnough
      | c :: rest, other + 1 =>
          rw [lexFrom_succ, lexFrom_succ]
          cases read : scan offset c rest with
          | error fault => rfl
          | ok scanned =>
              have shorter := (scan_sound read).shorter
              simp only [List.length_cons] at shorter enough alsoEnough
              dsimp only
              rw [induction other _ scanned.rest (by omega) (by omega)]

def lexemesAt (offset : Nat) (text : List Char) : Option (List Lexeme) :=
  match lexFrom text.length offset text with
  | .error _ => none
  | .ok lexed => some (contents lexed.tokens)

/-- A text is read as lexemes, or not at all, wherever it stands. -/
def Reads (text : List Char) (lexemes : Option (List Lexeme)) : Prop :=
  ∀ offset, lexemesAt offset text = lexemes

namespace Reads

variable {c : Char} {rest after spelling : List Char} {lexemes : Option (List Lexeme)}

theorem nil : Reads [] (some []) :=
  fun _ => rfl

theorem piece {piece : Piece} (scans : ∀ offset, scan offset c rest = .ok ⟨piece, spelling, after⟩)
    (reads : Reads after lexemes) :
    Reads (c :: rest)
      (match piece with
        | .lexeme lexeme => lexemes.map (lexeme.content :: ·)
        | _ => lexemes) := by
  intro offset
  have shorter := (scan_sound (scans offset)).shorter
  simp only [List.length_cons] at shorter
  have later := reads (offset + byteLength spelling)
  rw [lexemesAt, List.length_cons, lexFrom_succ, scans offset]
  dsimp only
  rw [lexFrom_fuel rest.length after.length _ after (by omega) (Nat.le_refl _)]
  rw [lexemesAt] at later
  cases result : lexFrom after.length (offset + byteLength spelling) after with
  | error fault =>
      rw [result] at later
      subst later
      cases piece <;> rfl
  | ok lexed =>
      rw [result] at later
      subst later
      cases piece <;> rfl

theorem fault (scans : ∀ offset, ∃ fault, scan offset c rest = .error fault) :
    Reads (c :: rest) none := by
  intro offset
  obtain ⟨fault, read⟩ := scans offset
  rw [lexemesAt, List.length_cons, lexFrom_succ, read]

theorem newline (reads : Reads after lexemes) : Reads ('\n' :: after) lexemes :=
  piece (fun offset => scan_newline offset after) reads

theorem mark (known : c ∈ marks) (reads : Reads after lexemes) :
    Reads (c :: after) (lexemes.map (.mark c :: ·)) :=
  piece (fun offset => scan_mark offset known after) reads

theorem quote (text : String) (reads : Reads after lexemes) :
    Reads (Minilang.quote text ++ after) (lexemes.map (.string text "" :: ·)) := by
  have front : Minilang.quote text ++ after =
      '"' :: (text.toList.flatMap escape ++ '"' :: after) := by simp [Minilang.quote]
  rw [front]
  exact piece (fun offset => scan_quote offset text after) reads

theorem name {text : List Char} (genuine : IsName text)
    (ends : ∀ d ∈ after.head?, isIdentifierPart d = false) (reads : Reads after lexemes) :
    Reads (text ++ after) (lexemes.map (.identifier (String.ofList text) :: ·)) := by
  obtain ⟨first, others, rfl, start, parts⟩ := genuine
  exact piece (fun offset => scan_name offset start parts ends) reads

theorem digits {whole fraction : List Char} (begun : whole ≠ [])
    (wholeDigits : ∀ d ∈ whole, d.isDigit = true)
    (fractionDigits : ∀ d ∈ fraction, d.isDigit = true)
    (ends : ∀ d ∈ after.head?, d.isDigit = false ∧ d ≠ '.') (reads : Reads after lexemes) :
    Reads (pointText whole fraction ++ after)
      (lexemes.map (.number (numberValue whole fraction) "" :: ·)) := by
  obtain ⟨lead, others, rfl⟩ := List.exists_cons_of_ne_nil begun
  have scanned := scanNumber_pointText wholeDigits fractionDigits ends
  have scans (offset : Nat) :=
    (scan_digit offset (wholeDigits lead List.mem_cons_self)).trans (congrArg Except.ok scanned)
  exact piece scans reads

theorem exponent {lead : Char} {fraction : List Char} (power : Int) (digit : lead.isDigit = true)
    (fractionDigits : ∀ d ∈ fraction, d.isDigit = true) (after : List Char) :
    Reads (pointText [lead] fraction ++ NumeralStyle.script.exponentText power ++ after) none := by
  obtain ⟨sign, others, text, signed⟩ : ∃ sign others,
      NumeralStyle.script.exponentText power = 'e' :: sign :: others ∧
        (sign = '+' ∨ sign = '-') := by
    by_cases negative : power < 0
    · refine ⟨'-', Nat.toDigits 10 power.natAbs, ?_, .inr rfl⟩
      simp [NumeralStyle.exponentText, negative]
    · refine ⟨'+', Nat.toDigits 10 power.natAbs, ?_, .inl rfl⟩
      simp [NumeralStyle.exponentText, NumeralStyle.script, negative]
  have atSign : Reads (sign :: (others ++ after)) none := by
    refine fault fun offset => ⟨.unexpectedCharacter sign offset, ?_⟩
    rcases signed with rfl | rfl
    · rfl
    · rfl
  have atLetter : Reads (['e'] ++ sign :: (others ++ after)) none := by
    refine name ⟨'e', [], rfl, rfl, by simp⟩ ?_ atSign
    rintro _ ⟨⟩
    rcases signed with rfl | rfl
    · rfl
    · rfl
  rw [text, List.append_assoc]
  refine digits (by simp) (by simpa using digit) fractionDigits ?_ atLetter
  rintro _ ⟨⟩
  exact ⟨rfl, by decide⟩

end Reads

namespace Lexeme

def text : Lexeme → List Char
  | .number value _ => value.scriptText
  | .string value _ => quote value
  | .identifier name => name.toList
  | .mark c => [c]

def Plain : Lexeme → Prop
  | .number value _ => IsPlain value
  | _ => True

/-- A number whose text has an exponent. -/
def Scientific : Lexeme → Prop
  | .number value _ => HasExponent value
  | _ => False

/-- A lexeme is read off its text where no word or point follows a word.  Its text says what it
says, unless it is infinity, whose text is a name. -/
theorem reads_text {lexeme : Lexeme} (genuine : lexeme.Genuine) (short : ¬lexeme.Scientific) :
    ∃ heard, (lexeme.Plain → heard = lexeme.content) ∧
      ∀ after lexemes,
        (lexeme.isWord = true → ∀ d ∈ after.head?, isIdentifierPart d = false ∧ d ≠ '.') →
        Reads after lexemes → Reads (lexeme.text ++ after) (lexemes.map (heard :: ·)) := by
  cases lexeme with
  | number value spelling =>
      have digitEnds {d : Char} (part : isIdentifierPart d = false) : d.isDigit = false := by
        simp only [isIdentifierPart, Char.isAlphanum, Bool.or_eq_false_iff] at part
        exact part.1.1.2
      have shape := IsMagnitude.shape genuine
      simp only [Plain, Scientific, IsPlain, HasExponent, text] at short ⊢
      generalize value.scriptText = numeral at shape short ⊢
      cases shape with
      | plain whole fraction begun wholeDigits fractionDigits reads =>
          refine ⟨.number value "", fun _ => rfl, ?_⟩
          intro after lexemes ends later
          rw [← reads]
          refine .digits begun wholeDigits fractionDigits ?_ later
          exact fun d first => ⟨digitEnds (ends rfl d first).1, (ends rfl d first).2⟩
      | infinity =>
          refine ⟨.identifier "Infinity", ?_, ?_⟩
          · intro plain
            exact absurd rfl plain.2
          · intro after lexemes ends later
            refine .name ⟨'I', _, rfl, rfl, ?_⟩ (fun d first => (ends rfl d first).1) later
            exact List.all_iff_forall_prop.1 (by decide)
      | scientific lead fraction power digit fractionDigits =>
          have letter : 'e' ∈ NumeralStyle.script.exponentText power := List.mem_cons_self
          exact absurd (List.mem_append_right _ letter) short
  | string value spelling =>
      exact ⟨.string value "", fun _ => rfl, fun _ _ _ later => .quote value later⟩
  | identifier name =>
      refine ⟨.identifier name, fun _ => rfl, ?_⟩
      intro after lexemes ends later
      have reading := Reads.name genuine (fun d first => (ends rfl d first).1) later
      rwa [String.ofList_toList] at reading
  | mark c =>
      exact ⟨.mark c, fun _ => rfl, fun _ _ _ later => .mark genuine later⟩

theorem reads_text_of_scientific {lexeme : Lexeme} (genuine : lexeme.Genuine)
    (long : lexeme.Scientific) (after : List Char) : Reads (lexeme.text ++ after) none := by
  cases lexeme with
  | number value spelling =>
      obtain ⟨lead, fraction, power, digit, fractionDigits, text⟩ :=
        IsMagnitude.scientific_shape genuine long
      rw [Lexeme.text, text]
      exact .exponent power digit fractionDigits after
  | string | identifier | mark => exact absurd long id

end Lexeme

def lexemesText (lexemes : List Lexeme) : List Char :=
  lexemes.flatMap Lexeme.text

theorem Lexeme.not_scientific_of_plain {lexeme : Lexeme} (plain : lexeme.Plain) :
    ¬lexeme.Scientific := by
  cases lexeme with
  | number value spelling =>
      exact plain.1
  | string | identifier | mark => exact id

theorem Neat.ends {lexeme : Lexeme} {rest : List Lexeme} {c : Char} {after : List Char}
    (neat : Neat (lexeme :: rest)) (word : lexeme.isWord = true) (known : c ∈ marks) :
    ∀ d ∈ (lexemesText rest ++ c :: after).head?, isIdentifierPart d = false ∧ d ≠ '.' := by
  intro d first
  cases rest with
  | nil =>
      cases first
      exact mark_ends known
  | cons next rest =>
      have apart := (List.isChain_cons_cons.1 neat.apart).1
      cases next with
      | mark other =>
          cases first
          exact mark_ends (neat.known d (by simp))
      | number | string | identifier =>
          rw [word] at apart
          rcases apart with same | same
          · contradiction
          · contradiction

/-- Neat lexemes before a mark are read back if all their numbers are plain, and nothing is read if
one has an exponent. -/
theorem reads_lexemesText {lexemes : List Lexeme} {c : Char} {after : List Char}
    {later : Option (List Lexeme)} (neat : Neat lexemes)
    (genuine : ∀ lexeme ∈ lexemes, lexeme.Genuine) (known : c ∈ marks)
    (reads : Reads (c :: after) later) :
    ∃ heard, Reads (lexemesText lexemes ++ c :: after) heard ∧
      ((∀ lexeme ∈ lexemes, lexeme.Plain) →
        heard = later.map (lexemes.map Lexeme.content ++ ·)) ∧
      ((∃ lexeme ∈ lexemes, lexeme.Scientific) ∨ later = none → heard = none) := by
  -- A number with an exponent stops the lexer only when it is reached, so the text before it has
  -- to be read as something in any case: infinity is read, though as a name.
  induction lexemes with
  | nil => exact ⟨later, reads, by simp, by simp⟩
  | cons lexeme rest induction =>
      obtain ⟨heard, readsRest, plainRest, noneRest⟩ := induction neat.tail
        fun other member => genuine other (List.mem_cons_of_mem _ member)
      have whole : lexemesText (lexeme :: rest) ++ c :: after =
          lexeme.text ++ (lexemesText rest ++ c :: after) := by simp [lexemesText]
      rw [whole]
      by_cases long : lexeme.Scientific
      · refine ⟨none, lexeme.reads_text_of_scientific (genuine lexeme List.mem_cons_self) long _,
          ?_, fun _ => rfl⟩
        intro plain
        exact absurd long (lexeme.not_scientific_of_plain (plain lexeme List.mem_cons_self))
      · obtain ⟨front, plainFront, readsFront⟩ :=
          lexeme.reads_text (genuine lexeme List.mem_cons_self) long
        refine ⟨heard.map (front :: ·), readsFront _ _ ?_ readsRest, ?_, ?_⟩
        · intro word
          exact neat.ends word known
        · intro plain
          rw [plainFront (plain lexeme List.mem_cons_self),
            plainRest fun other member => plain other (List.mem_cons_of_mem _ member)]
          cases later <;> rfl
        · rintro (⟨other, member, scientific⟩ | silent)
          · rcases List.mem_cons.1 member with rfl | member
            · exact absurd scientific long
            · rw [noneRest (.inl ⟨other, member, scientific⟩)]
              rfl
          · rw [noneRest (.inr silent)]
            rfl

theorem lexFrom_genuine (fuel offset : Nat) (text : List Char) {lexed : Lexed}
    (read : lexFrom fuel offset text = .ok lexed) :
    ∀ token ∈ lexed.tokens, token.lexeme.Genuine := by
  induction fuel generalizing offset text lexed with
  | zero =>
      cases text <;> cases read <;> simp
  | succ fuel induction =>
      cases text with
      | nil =>
          cases read
          simp
      | cons c rest =>
          obtain ⟨scanned, later, front, found, rfl⟩ := lexFrom_cons_eq_ok.1 read
          have genuine := (scan_sound front).genuine
          have others := induction _ _ found
          cases same : scanned.piece with
          | blank | comment => exact others
          | lexeme lexeme =>
              intro token member
              rcases List.mem_cons.1 member with rfl | member
              · exact genuine lexeme same
              · exact others token member

theorem lex_genuine {source : String} {lexed : Lexed} (read : lex source = .ok lexed) :
    ∀ token ∈ lexed.tokens, token.lexeme.Genuine :=
  lexFrom_genuine _ _ _ read

theorem lex_of_reads {text : List Char} {lexemes : List Lexeme}
    (reads : Reads text (some lexemes)) :
    ∃ lexed, lex (String.ofList text) = .ok lexed ∧ contents lexed.tokens = lexemes := by
  have start := reads 0
  rw [lexemesAt] at start
  rw [lex, String.toList_ofList]
  cases result : lexFrom text.length 0 text with
  | error fault =>
      rw [result] at start
      contradiction
  | ok lexed =>
      rw [result] at start
      exact ⟨lexed, rfl, Option.some.inj start⟩

theorem lex_of_reads_none {text : List Char} (reads : Reads text none) :
    ∃ fault, lex (String.ofList text) = .error fault := by
  have start := reads 0
  rw [lexemesAt] at start
  rw [lex, String.toList_ofList]
  cases result : lexFrom text.length 0 text with
  | error fault => exact ⟨fault, rfl⟩
  | ok lexed =>
      rw [result] at start
      contradiction

end Minilang

end Reparse
