import Reparse.Ast.Tree
import Reparse.Binary64.Nearest
import Reparse.Text.Blank

namespace Reparse

namespace Minilang

inductive Fault where
  | unterminatedString (offset : Nat)
  | unexpectedCharacter (c : Char) (offset : Nat)
  | expected (mark : Char) (offset : Nat)
  | endOfInput
  | unexpectedMark (mark : Char) (offset : Nat)
  | endOfInputInObject
  | unexpectedMarkInObject (mark : Char) (offset : Nat)
  | reservedAwait (offset : Nat)
deriving DecidableEq

def Fault.message : Fault → String
  | .unterminatedString offset => s!"unterminated string at {offset}"
  | .unexpectedCharacter c offset => s!"unexpected character `{c}` at {offset}"
  | .expected mark offset => s!"expected `{mark}` at {offset}"
  | .endOfInput => "unexpected end of input"
  | .unexpectedMark mark offset => s!"unexpected `{mark}` at {offset}"
  | .endOfInputInObject => "unexpected end of input in object"
  | .unexpectedMarkInObject mark offset => s!"unexpected `{mark}` in object at {offset}"
  | .reservedAwait offset => s!"`await` is reserved in module code at {offset}"

inductive Lexeme where
  | number (value : Binary64) (spelling : String)
  | string (value : String) (spelling : String)
  | identifier (name : String)
  | mark (c : Char)
deriving DecidableEq

structure Token where
  lexeme : Lexeme
  span : Ast.Span
deriving DecidableEq

structure Comment where
  text : String
  span : Ast.Span
deriving DecidableEq

structure Lexed where
  tokens : List Token
  comments : List Comment
deriving DecidableEq

def byteLength : List Char → Nat
  | [] => 0
  | c :: text => c.utf8Size + byteLength text

def isIdentifierStart (c : Char) : Bool :=
  c.isAlpha || c == '_' || c == '$'

def isIdentifierPart (c : Char) : Bool :=
  c.isAlphanum || c == '_' || c == '$'

def marks : List Char :=
  ['(', ')', '\x7b', '\x7d', '[', ']', ',', ':', ';']

def digitsValue (digits : List Char) : Nat :=
  digits.foldl (fun value digit => value * 10 + (digit.toNat - '0'.toNat)) 0

def numberValue (whole fraction : List Char) : Binary64 :=
  .ofDecimal (digitsValue (whole ++ fraction)) (-(fraction.length : Int))

def unescape : Char → Char
  | 'n' => '\n'
  | 't' => '\t'
  | c => c

/-- A string up to its closing quote: the value, the characters read, and those that follow. -/
def stringBody (quote : Char) : List Char → Option (List Char × List Char × List Char)
  | [] => none
  | ['\\'] => none
  | '\\' :: escaped :: rest =>
      (stringBody quote rest).map fun (value, spelling, rest) =>
        (unescape escaped :: value, '\\' :: escaped :: spelling, rest)
  | c :: rest =>
      if c = quote then
        some ([], [c], rest)
      else
        (stringBody quote rest).map fun (value, spelling, rest) => (c :: value, c :: spelling, rest)

inductive Piece where
  | blank
  | comment (text : List Char)
  | lexeme (lexeme : Lexeme)

structure Scanned where
  piece : Piece
  spelling : List Char
  rest : List Char

def scanNumber (text : List Char) : Scanned :=
  let whole := text.takeWhile Char.isDigit
  let after := text.dropWhile Char.isDigit
  match after with
  | '.' :: next :: rest =>
      if next.isDigit then
        let fraction := (next :: rest).takeWhile Char.isDigit
        let spelling := whole ++ '.' :: fraction
        { piece := .lexeme (.number (numberValue whole fraction) (String.ofList spelling))
          spelling := spelling
          rest := (next :: rest).dropWhile Char.isDigit }
      else
        { piece := .lexeme (.number (numberValue whole []) (String.ofList whole))
          spelling := whole
          rest := after }
  | _ =>
      { piece := .lexeme (.number (numberValue whole []) (String.ofList whole))
        spelling := whole
        rest := after }

def scan (offset : Nat) (c : Char) (rest : List Char) : Except Fault Scanned :=
  if isBlank c then
    .ok { piece := .blank, spelling := [c], rest := rest }
  else if c = '/' ∧ rest.head? = some '/' then
    let body := rest.tail.takeWhile (· != '\n')
    .ok
      { piece := .comment body
        spelling := '/' :: '/' :: body
        rest := rest.tail.dropWhile (· != '\n') }
  else if c.isDigit then
    .ok (scanNumber (c :: rest))
  else if c = '"' ∨ c = '\'' then
    match stringBody c rest with
    | none => .error (.unterminatedString offset)
    | some (value, spelling, rest) =>
        .ok
          { piece :=
              .lexeme (.string (String.ofList value) (String.ofList (c :: spelling)))
            spelling := c :: spelling
            rest := rest }
  else if isIdentifierStart c then
    let spelling := (c :: rest).takeWhile isIdentifierPart
    .ok
      { piece := .lexeme (.identifier (String.ofList spelling))
        spelling := spelling
        rest := (c :: rest).dropWhile isIdentifierPart }
  else if marks.contains c then
    .ok { piece := .lexeme (.mark c), spelling := [c], rest := rest }
  else
    .error (.unexpectedCharacter c offset)

def Lexed.cons (piece : Piece) (span : Ast.Span) (lexed : Lexed) : Lexed :=
  match piece with
  | .blank => lexed
  | .comment text => { lexed with comments := ⟨String.ofList text, span⟩ :: lexed.comments }
  | .lexeme lexeme => { lexed with tokens := ⟨lexeme, span⟩ :: lexed.tokens }

/-- Tokens and comments of a text that starts at an offset.  Every piece takes a character at
least, so the number of characters is fuel enough. -/
def lexFrom : (fuel offset : Nat) → List Char → Except Fault Lexed
  | _, _, [] => .ok ⟨[], []⟩
  | 0, _, _ => .ok ⟨[], []⟩
  | fuel + 1, offset, c :: rest =>
      match scan offset c rest with
      | .error fault => .error fault
      | .ok scanned =>
          let stop := offset + byteLength scanned.spelling
          match lexFrom fuel stop scanned.rest with
          | .error fault => .error fault
          | .ok lexed => .ok (lexed.cons scanned.piece ⟨offset, stop⟩)

def lex (source : String) : Except Fault Lexed :=
  lexFrom source.toList.length 0 source.toList

end Minilang

end Reparse
