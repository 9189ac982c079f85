import Reparse.Shell.Token

/-!
Reading scripts.

The fuel of the functions bounds how deeply they call one another; the length of a text bounds how
much of it any part of the text needs.
-/

namespace Reparse

namespace Shell

def isNameStart (c : Char) : Bool :=
  c.isAlpha || c == '_'

def isNamePart (c : Char) : Bool :=
  c.isAlphanum || c == '_'

def isName (text : String) : Bool :=
  match text.toList with
  | [] => false
  | first :: rest => isNameStart first && rest.all isNamePart

def isSpecialParameter (c : Char) : Bool :=
  c.isDigit || ['@', '*', '#', '?', '$', '!', '-'].contains c

def endsWord (c : Char) : Bool :=
  [' ', '\t', '\n', ';', '&', '|', '<', '>', '(', ')'].contains c

def specialBuiltIns : List String :=
  [".", ":", "break", "continue", "eval", "exec", "exit", "export", "readonly", "return", "set",
    "shift", "times", "trap", "unset"]

inductive Ending where
  | word
  | quote
  | brace
  | text
  | sum (depth : Nat)
deriving DecidableEq

structure Place where
  quoted : Bool
  ending : Ending

namespace Piece

def addChar (quoted : Bool) (c : Char) (pieces : List Piece) : List Piece :=
  let bytes := (Utf8.encode (String.singleton c)).reverse
  match pieces with
  | .text content quoted' :: rest =>
      if quoted == quoted' then .text (bytes ++ content) quoted :: rest
      else .text bytes quoted :: pieces
  | _ => .text bytes quoted :: pieces

def addText (quoted : Bool) (text : List Char) (pieces : List Piece) : List Piece :=
  text.foldl (fun pieces c => addChar quoted c pieces) pieces

/-- Pieces in order, the texts of which are backwards in the given ones. -/
def inOrder (pieces : List Piece) : List Piece :=
  pieces.reverse.map fun
    | .text content quoted => .text content.reverse quoted
    | piece => piece

def addAll (added pieces : List Piece) : List Piece :=
  added.foldl
    (fun pieces piece =>
      match piece with
      | .text content quoted => .text content.reverse quoted :: pieces
      | piece => piece :: pieces)
    pieces

def plain? : List Piece → Option String
  | [.text content false] => some (Utf8.decodeLenient content)
  | _ => none

end Piece

def cutBackquote (quoted : Bool) : (inner : List Char) → List Char → Option (List Char × List Char)
  | _, [] => none
  | inner, '\x60' :: rest => some (inner.reverse, rest)
  | inner, '\\' :: c :: rest =>
      if c = '\n' then cutBackquote quoted inner rest
      else if c = '\\' || c = '\x60' || c = '$' || (quoted && c = '"') then
        cutBackquote quoted (c :: inner) rest
      else
        cutBackquote quoted (c :: '\\' :: inner) rest
  | inner, c :: rest => cutBackquote quoted (c :: inner) rest

/-- Cut a text after the end of its line; a line feed in quotes is part of the line. -/
def cutLine (quote : Option Char) (line : List Char) : List Char → List Char × List Char
  | [] => (line.reverse, [])
  | '\\' :: c :: rest =>
      if quote = some '\'' then
        if c = '\'' then cutLine none (c :: '\\' :: line) rest
        else cutLine quote (c :: '\\' :: line) rest
      else cutLine quote (c :: '\\' :: line) rest
  | c :: rest =>
      if c = '\n' && quote.isNone then ((c :: line).reverse, rest)
      else if quote = some c then cutLine none (c :: line) rest
      else if quote.isNone && (c = '"' || c = '\'') then cutLine (some c) (c :: line) rest
      else cutLine quote (c :: line) rest

def cutDocument (delimiter : List Char) (stripped : Bool) :
    (fuel : Nat) → (body : List (List Char)) → (count : Nat) → List Char →
      List Char × Nat × List Char
  | 0, body, count, text => (body.reverse.flatten, count, text)
  | fuel + 1, body, count, text =>
      if text.isEmpty then
        (body.reverse.flatten, count, [])
      else
        let line := text.takeWhile (· != '\n')
        let ending := (text.drop line.length).take 1
        let rest := text.drop (line.length + 1)
        let line := if stripped then line.dropWhile (· == '\t') else line
        if line = delimiter then
          (body.reverse.flatten, count + 1, rest)
        else
          cutDocument delimiter stripped fuel ((line ++ ending) :: body) (count + 1) rest

def cutDelimiter :
    (quote : Option Char) → (word : List Char) → (quoted : Bool) → List Char →
      List Char × Bool × List Char
  | _, word, quoted, [] => (word.reverse, quoted, [])
  | none, word, _, '\\' :: c :: rest => cutDelimiter none (c :: word) true rest
  | none, word, quoted, c :: rest =>
      if c = '"' || c = '\'' then cutDelimiter (some c) word true rest
      else if endsWord c then (word.reverse, quoted, c :: rest)
      else cutDelimiter none (c :: word) quoted rest
  | some quote, word, quoted, c :: rest =>
      if c = quote then cutDelimiter none word quoted rest
      else cutDelimiter (some quote) (c :: word) quoted rest

namespace Reader

def name : Reader String := do
  let source ← get
  let name := source.text.takeWhile isNamePart
  drop name.length
  return String.ofList name

def takeDocument (stripped : Bool) : Reader (List Char × Bool) := do
  skip false
  let source ← get
  let (delimiter, quoted, rest) := cutDelimiter none [] false source.text
  if delimiter.isEmpty && !quoted then
    let token :=
      match rest with
      | [] => Token.finish
      | '\n' :: _ => Token.newline
      | ';' :: _ => Token.semicolon
      | '&' :: _ => Token.ampersand
      | '|' :: _ => Token.bar
      | '(' :: _ => Token.leftParenthesis
      | ')' :: _ => Token.rightParenthesis
      | _ => Token.opening 0 .read
    if rest.head? == some '\n' then
      set { source with line := source.line + 1 }
    unexpected token none
  else
    let (line, after) := cutLine none [] rest
    let marks := after.takeWhile (· == lineMark)
    let (body, count, after) :=
      cutDocument delimiter stripped (after.length + 1) [] 0 (after.drop marks.length)
    set { source with text := line ++ marks ++ List.replicate count lineMark ++ after }
    return (body, quoted)

def singleQuoted : Reader (List Char) := do
  let source ← get
  let inner := source.text.takeWhile (· != '\'')
  match source.text.drop inner.length with
  | [] =>
      set { source with line := source.line + inner.count '\n' }
      fail "Unterminated quoted string"
  | _ :: rest =>
      let lines := inner.count '\n' + inner.count lineMark
      set { source with text := rest, line := source.line + lines }
      return inner.filter (· != lineMark)

def fallback? (empty : Bool) : Char → Option Fallback
  | '-' => some (.useInstead empty)
  | '+' => some (.useIfSet empty)
  | '=' => some (.assign empty)
  | '?' => some (.complain empty)
  | _ => none

mutual

/-- Pieces up to the end of their place; `pieces` have been read, the last one first. -/
def pieces : (fuel : Nat) → Place → List Piece → Reader (List Piece)
  | 0, _, _ => fail "nesting"
  | fuel + 1, place, found => do
      match ← peek with
      | none =>
          match place.ending with
          | .word => return Piece.inOrder found
          | .text => return Piece.inOrder found
          | .quote => fail "Unterminated quoted string"
          | .brace =>
              if place.quoted then fail "Unterminated quoted string" else fail "Missing '\x7d'"
          | .sum _ => fail "Missing '))'"
      | some c =>
          if c = '\\' then
            drop 1
            match ← next with
            | none => pieces fuel place (Piece.addChar true '\\' found)
            | some escaped =>
                let inBrace := decide (place.ending = .brace)
                let isFree := escaped = '\\' || escaped = '\x60' || escaped = '$' ||
                  (escaped = '"' && decide (place.ending ≠ .text)) || (escaped = '\x7d' && inBrace)
                if place.quoted && !isFree then
                  pieces fuel place (Piece.addText true ['\\', escaped] found)
                else
                  pieces fuel place (Piece.addChar true escaped found)
          else if c = '$' then
            drop 1
            let piece ← dollar fuel place.quoted
            pieces fuel place (Piece.addAll [piece] found)
          else if c = '\x60' then
            drop 1
            let piece ← backquoted fuel place.quoted
            pieces fuel place (piece :: found)
          else if c = '\'' && !place.quoted then
            drop 1
            let inner ← singleQuoted
            let found := Piece.addText true inner (.text [] true :: found)
            pieces fuel place found
          else if c = '"' && decide (place.ending = .quote) then
            drop 1
            return Piece.inOrder found
          else if c = '"' && !place.quoted then
            drop 1
            let inner ← pieces fuel ⟨true, .quote⟩ []
            let inner := if inner.isEmpty then [.text [] true] else inner
            pieces fuel place (Piece.addAll inner found)
          else if c = '"' && decide (place.ending = .brace) then
            drop 1
            pieces fuel place found
          else if c = '\x7d' && decide (place.ending = .brace) then
            drop 1
            return Piece.inOrder found
          else if decide (place.ending = .word) && endsWord c then
            return Piece.inOrder found
          else
            match place.ending with
            | .sum depth =>
                drop 0
                let _ ← next
                if c = '(' then
                  pieces fuel ⟨true, .sum (depth + 1)⟩ (Piece.addChar true c found)
                else if c = ')' then
                  if depth = 0 then
                    if ← accept ')' then
                      return Piece.inOrder found
                    else
                      pieces fuel place (Piece.addChar true c found)
                  else
                    pieces fuel ⟨true, .sum (depth - 1)⟩ (Piece.addChar true c found)
                else
                  pieces fuel place (Piece.addChar true c found)
            | _ =>
                let _ ← next
                if c = lineMark then
                  pieces fuel place found
                else
                  pieces fuel place (Piece.addChar place.quoted c found)

def dollar : (fuel : Nat) → (quoted : Bool) → Reader Piece
  | 0, _ => fail "nesting"
  | fuel + 1, quoted => do
      match ← peek with
      | some '(' =>
          drop 1
          if ← accept '(' then
            return .arithmetic (← pieces fuel ⟨true, .sum 0⟩ []) quoted
          else
            let source ← get
            set { source with again := false }
            let script ← list fuel false true none
            let token ← token fuel false false
            match token with
            | .rightParenthesis =>
                modify fun after => { after with last := source.last, again := source.again }
                return .output (script.getD .nothing) quoted
            | token => unexpected token (some .rightParenthesis)
      | some '\x7b' =>
          drop 1
          braced fuel quoted
      | some c =>
          if isNameStart c then
            return .parameter (← name) quoted
          else if isSpecialParameter c then
            drop 1
            return .parameter (String.singleton c) quoted
          else
            return .text [36] quoted
      | none => return .text [36] quoted

def braced : (fuel : Nat) → (quoted : Bool) → Reader Piece
  | 0, _ => fail "nesting"
  | fuel + 1, quoted => do
      let malformed : Reader Piece := do
        let _ ← pieces fuel ⟨quoted, .brace⟩ []
        return .malformed
      let source ← get
      match source.text with
      | '#' :: c :: rest =>
          if isNameStart c || c.isDigit then
            drop 1
            let name ← if c.isDigit then digits else name
            if ← accept '\x7d' then return .length name quoted else malformed
          else if c ≠ '\x7d' && rest.head? = some '\x7d' then
            drop 2
            if isSpecialParameter c then
              drop 1
              return .length (String.singleton c) quoted
            else
              malformed
          else
            drop 1
            operation fuel "#" quoted
      | c :: _ =>
          if isNameStart c then
            operation fuel (← name) quoted
          else if c.isDigit then
            operation fuel (← digits) quoted
          else if isSpecialParameter c then
            drop 1
            operation fuel (String.singleton c) quoted
          else
            malformed
      | [] => malformed

def digits : Reader String := do
  let source ← get
  let digits := source.text.takeWhile Char.isDigit
  drop digits.length
  return String.ofList digits

def operation : (fuel : Nat) → (name : String) → (quoted : Bool) → Reader Piece
  | 0, _, _ => fail "nesting"
  | fuel + 1, name, quoted => do
      let withFallback := fun (rule : Fallback) => do
        return Piece.fallback name rule (← pieces fuel ⟨quoted, .brace⟩ []) quoted
      let malformed : Reader Piece := do
        let _ ← pieces fuel ⟨quoted, .brace⟩ []
        return .malformed
      match ← peek with
      | some '\x7d' =>
          drop 1
          return .parameter name quoted
      | some ':' =>
          drop 1
          match (← peek) >>= fallback? true with
          | some rule =>
              drop 1
              withFallback rule
          | none => do
              let _ ← next
              malformed
      | some c =>
          if c = '%' || c = '#' then
            drop 1
            let longest ← accept c
            return .trimmed name (c = '%') longest (← pieces fuel ⟨false, .brace⟩ []) quoted
          else
            match fallback? false c with
            | some rule =>
                drop 1
                withFallback rule
            | none => malformed
      | none => malformed

def backquoted : (fuel : Nat) → (quoted : Bool) → Reader Piece
  | 0, _ => fail "nesting"
  | fuel + 1, quoted => do
      let source ← get
      match cutBackquote quoted [] source.text with
      | none => fail "EOF in backquote substitution"
      | some (inner, rest) =>
          set { source with text := inner, again := false }
          let script ← list fuel false true none
          set { source with
            text := rest
            line := source.line + (source.text.take (source.text.length - rest.length)).count '\n' }
          return .output (script.getD .nothing) quoted

def freshToken : (fuel : Nat) → Reader Token
  | 0 => fail "nesting"
  | fuel + 1 => do
      let redirection := fun (stream : Option Nat) (c : Char) => do
        drop 1
        if c = '>' then
          let stream := stream.getD 1
          if ← accept '>' then return Token.opening stream .append
          else if ← accept '|' then return Token.opening stream .write
          else if ← accept '&' then return Token.copying stream
          else return Token.opening stream .write
        else
          let stream := stream.getD 0
          if ← accept '<' then return Token.giving stream (← accept '-')
          else if ← accept '&' then return Token.copying stream
          else if ← accept '>' then return Token.opening stream .readWrite
          else return Token.opening stream .read
      match ← peek with
      | none => return .finish
      | some '\n' =>
          let _ ← next
          return .newline
      | some '&' =>
          drop 1
          return if ← accept '&' then .andThen else .ampersand
      | some '|' =>
          drop 1
          return if ← accept '|' then .orElse else .bar
      | some ';' =>
          drop 1
          return if ← accept ';' then .endArm else .semicolon
      | some '(' =>
          drop 1
          return .leftParenthesis
      | some ')' =>
          drop 1
          return .rightParenthesis
      | some c =>
          if c = '<' || c = '>' then
            redirection none c
          else
            let source ← get
            match source.text with
            | digit :: mark :: _ =>
                if digit.isDigit && (mark = '<' || mark = '>') then
                  drop 1
                  redirection (some (digit.toNat - '0'.toNat)) mark
                else
                  let word ← pieces fuel ⟨false, .word⟩ []
                  return .word word (Piece.plain? word)
            | _ =>
                let word ← pieces fuel ⟨false, .word⟩ []
                return .word word (Piece.plain? word)

/-- The next sign.  `newlines` passes over the ends of lines, and `keywords` tells apart the words
that are part of the structure of a script. -/
def token : (fuel : Nat) → (newlines keywords : Bool) → Reader Token
  | 0, _, _ => fail "nesting"
  | fuel + 1, newlines, keywords => do
      let source ← get
      let isNewline := match source.last with
        | .newline => true
        | _ => false
      let found ←
        if source.again && !(newlines && isNewline) then
          pure source.last
        else do
          skip newlines
          freshToken fuel
      modify fun source => { source with last := found, again := false }
      return if keywords then found.asKeyword else found

/-- A list of commands.  A list that is part of another command, which `isInner` tells, goes over
the ends of lines and ends before a sign that ends it, which may come at once if `mayBeEmpty`. -/
def list :
    (fuel : Nat) → (isLine mayBeEmpty : Bool) → Option Script → Reader (Option Script)
  | 0, _, _, _ => fail "nesting"
  | fuel + 1, isLine, mayBeEmpty, found => do
      let first ← token fuel (!isLine) true
      match first, isLine with
      | .newline, true => return found
      | .finish, _ =>
          pushBack
          return found
      | _, _ =>
          pushBack
          if !isLine && mayBeEmpty && first.endsList then
            return found
          else
            let command ← andOr fuel
            let after ← token fuel false false
            let command := match after with
              | .ampersand => .background command
              | _ => command
            let found := some (Script.andThen found command)
            match after with
            | .finish =>
                pushBack
                return found
            | .newline =>
                pushBack
                list fuel isLine true found
            | .ampersand => list fuel isLine true found
            | .semicolon => list fuel isLine true found
            | after =>
                if isLine then
                  unexpected after none
                else
                  pushBack
                  return found

def andOr : (fuel : Nat) → Reader Script
  | 0 => fail "nesting"
  | fuel + 1 => do
      let first ← pipeline fuel false
      andOrAfter fuel first

def andOrAfter : (fuel : Nat) → Script → Reader Script
  | 0, _ => fail "nesting"
  | fuel + 1, first => do
      match ← token fuel false false with
      | .andThen => andOrAfter fuel (.both first (← pipeline fuel true))
      | .orElse => andOrAfter fuel (.either first (← pipeline fuel true))
      | _ =>
          pushBack
          return first

def pipeline : (fuel : Nat) → (newlines : Bool) → Reader Script
  | 0, _ => fail "nesting"
  | fuel + 1, newlines => do
      match ← token fuel newlines true with
      | .keyword "!" =>
          let first ← command fuel false
          return .negated (← pipelineAfter fuel first)
      | _ =>
          pushBack
          let first ← command fuel false
          pipelineAfter fuel first

def pipelineAfter : (fuel : Nat) → Script → Reader Script
  | 0, _ => fail "nesting"
  | fuel + 1, first => do
      match ← token fuel false false with
      | .bar =>
          let second ← command fuel true
          let rest ← pipelineAfter fuel second
          return .piped first rest
      | _ =>
          pushBack
          return first

def expect : (fuel : Nat) → Token → Reader Unit
  | 0, _ => fail "nesting"
  | fuel + 1, expected => do
      let found ← token fuel false true
      if found.description ≠ expected.description then
        unexpected found (some expected)

def block : (fuel : Nat) → Reader Script
  | 0 => fail "nesting"
  | fuel + 1 => return (← list fuel false false none).getD .nothing

def command : (fuel : Nat) → (newlines : Bool) → Reader Script
  | 0, _ => fail "nesting"
  | fuel + 1, newlines => do
      let line := (← get).line
      match ← token fuel newlines true with
      | .keyword "if" =>
          let condition ← block fuel
          let body ← branches fuel condition
          redirections fuel line body
      | .keyword "while" =>
          let condition ← block fuel
          expect fuel (.keyword "do")
          let body ← block fuel
          expect fuel (.keyword "done")
          redirections fuel line (.loop true condition body)
      | .keyword "until" =>
          let condition ← block fuel
          expect fuel (.keyword "do")
          let body ← block fuel
          expect fuel (.keyword "done")
          redirections fuel line (.loop false condition body)
      | .keyword "for" =>
          match ← token fuel false false with
          | .word _ (some name) =>
              if isName name then
                let words ← forWords fuel
                expectAfterLines fuel (.keyword "do")
                let body ← block fuel
                expect fuel (.keyword "done")
                redirections fuel line (.each line name words body)
              else
                fail "Bad for loop variable"
          | _ => fail "Bad for loop variable"
      | .keyword "case" =>
          match ← token fuel false false with
          | .word subject _ =>
              expectAfterLines fuel (.keyword "in")
              let arms ← arms fuel
              redirections fuel line (.choice line subject arms)
          | token => unexpected token (some (.word [] none))
      | .leftParenthesis =>
          let body ← block fuel
          expect fuel .rightParenthesis
          redirections fuel line (.separate body)
      | .keyword "\x7b" =>
          let body ← block fuel
          expect fuel (.keyword "\x7d")
          redirections fuel line body
      | .word .. =>
          pushBack
          simple fuel line true [] [] []
      | .opening .. =>
          pushBack
          simple fuel line true [] [] []
      | .copying .. =>
          pushBack
          simple fuel line true [] [] []
      | .giving .. =>
          pushBack
          simple fuel line true [] [] []
      | token => unexpected token none

def expectAfterLines : (fuel : Nat) → Token → Reader Unit
  | 0, _ => fail "nesting"
  | fuel + 1, expected => do
      let found ← token fuel true true
      if found.description ≠ expected.description then
        unexpected found (some expected)

def branches : (fuel : Nat) → (condition : Script) → Reader Script
  | 0, _ => fail "nesting"
  | fuel + 1, condition => do
      expect fuel (.keyword "then")
      let consequence ← block fuel
      match ← token fuel false true with
      | .keyword "elif" =>
          let next ← block fuel
          return .conditional condition consequence (← branches fuel next)
      | .keyword "else" =>
          let alternative ← block fuel
          expect fuel (.keyword "fi")
          return .conditional condition consequence alternative
      | _ =>
          pushBack
          expect fuel (.keyword "fi")
          return .conditional condition consequence .nothing

def forWords : (fuel : Nat) → Reader (List (List Piece))
  | 0 => fail "nesting"
  | fuel + 1 => do
      match ← token fuel true true with
      | .keyword "in" => wordsToEnd fuel []
      | .semicolon => return [[.parameter "@" true]]
      | _ =>
          pushBack
          return [[.parameter "@" true]]

def wordsToEnd : (fuel : Nat) → List (List Piece) → Reader (List (List Piece))
  | 0, _ => fail "nesting"
  | fuel + 1, words => do
      match ← token fuel false false with
      | .word word _ => wordsToEnd fuel (word :: words)
      | .newline => return words.reverse
      | .semicolon => return words.reverse
      | token => unexpected token none

def arms : (fuel : Nat) → Reader (List (List (List Piece) × Script))
  | 0 => fail "nesting"
  | fuel + 1 => do
      match ← token fuel true true with
      | .keyword "esac" => return []
      | first =>
          let first ←
            match first with
            | .leftParenthesis => token fuel false false
            | first => pure first
          let patterns ← patterns fuel first
          let body := (← list fuel false true none).getD .nothing
          match ← token fuel true true with
          | .keyword "esac" => return [(patterns, body)]
          | .endArm => return (patterns, body) :: (← arms fuel)
          | token => unexpected token (some .endArm)

def patterns : (fuel : Nat) → Token → Reader (List (List Piece))
  | 0, _ => fail "nesting"
  | fuel + 1, first => do
      -- Another sign stands for nothing here, and what comes after it is looked at.
      let word :=
        match first, (← get).last with
        | .word word _, _ => word
        | .keyword _, .word word _ => word
        | _, _ => []
      match ← token fuel false false with
      | .bar =>
          let next ← token fuel false false
          return word :: (← patterns fuel next)
      | .rightParenthesis => return [word]
      | token => unexpected token (some .rightParenthesis)

def redirections : (fuel : Nat) → (line : Nat) → Script → Reader Script
  | 0, _, _ => fail "nesting"
  | fuel + 1, line, body => do
      let found ← redirectionList fuel []
      return if found.isEmpty then body else .redirected line body found

def redirectionList : (fuel : Nat) → List Redirection → Reader (List Redirection)
  | 0, _ => fail "nesting"
  | fuel + 1, found => do
      let first ← token fuel false true
      match ← target fuel first with
      | some redirection => redirectionList fuel (redirection :: found)
      | none =>
          pushBack
          return found.reverse

def target : (fuel : Nat) → Token → Reader (Option Redirection)
  | 0, _ => fail "nesting"
  | fuel + 1, first => do
      match first with
      | .opening stream mode =>
          match ← token fuel false false with
          | .word word _ => return some (.toFile stream mode word)
          | token => unexpected token none
      | .copying stream =>
          match ← token fuel false false with
          | .word word _ => return some (.copy stream word)
          | token => unexpected token none
      | .giving stream stripped =>
          let (body, quoted) ← takeDocument stripped
          if quoted then
            return some (.given stream [.text (Utf8.encode (String.ofList body)) true])
          else
            let source ← get
            set { source with text := body, again := false }
            let text ← pieces fuel ⟨true, .text⟩ []
            set source
            return some (.given stream text)
      | _ => return none

def simple :
    (fuel : Nat) → (line : Nat) → (inFront : Bool) → List (String × List Piece) →
      List (List Piece) → List Redirection → Reader Script
  | 0, _, _, _, _, _ => fail "nesting"
  | fuel + 1, line, inFront, settings, words, found => do
      match ← token fuel false false with
      | .word word plain =>
          match if inFront then setting? word else none with
          | some setting => simple fuel line true (setting :: settings) words found
          | none =>
              let isDefinition := words.isEmpty && settings.isEmpty && found.isEmpty
              if isDefinition && (← startsDefinition) then
                definition fuel plain
              else
                simple fuel line false settings (word :: words) found
      | first =>
          match ← target fuel first with
          | some redirection => simple fuel line inFront settings words (redirection :: found)
          | none =>
              pushBack
              return .simple line settings.reverse words.reverse found.reverse

def startsDefinition : Reader Bool := do
  skip false
  return (← peek) = some '('

def definition : (fuel : Nat) → (name : Option String) → Reader Script
  | 0, _ => fail "nesting"
  | fuel + 1, name => do
      let _ ← token fuel false false
      match ← token fuel false false with
      | .rightParenthesis =>
          match name with
          | some name =>
              if isName name && !specialBuiltIns.contains name then
                return .definition name (← command fuel true)
              else
                fail "Bad function name"
          | none => fail "Bad function name"
      | token => unexpected token (some .rightParenthesis)

def setting? (word : List Piece) : Option (String × List Piece) :=
  match word with
  | .text content false :: rest =>
      let text := Utf8.decodeLenient content
      let name := String.ofList (text.toList.takeWhile isNamePart)
      match content.drop name.utf8ByteSize with
      | 61 :: value =>
          if isName name then
            some (name, if value.isEmpty then rest else .text value false :: rest)
          else
            none
      | _ => none
  | _ => none

end

def line (source : Source) : Except ScriptError (Option Script × Source) :=
  (list (8 * source.text.length + 64) true true none).run { source with again := false }

end Reader

end Shell

end Reparse
