import Reparse.Shell.Script

namespace Reparse

namespace Shell

inductive Token where
  | finish
  | newline
  | semicolon
  | ampersand
  | andThen
  | orElse
  | bar
  | leftParenthesis
  | rightParenthesis
  | endArm
  | opening (stream : Nat) (mode : OpenMode)
  | copying (stream : Nat)
  /-- `stripped` tells that the lines of the text do not count the tabs at their front. -/
  | giving (stream : Nat) (stripped : Bool)
  | word (pieces : List Piece) (plain : Option String)
  | keyword (name : String)

namespace Token

def keywords : List String :=
  ["!", "case", "do", "done", "elif", "else", "esac", "fi", "for", "if", "in", "then", "until",
    "while", "\x7b", "\x7d"]

def asKeyword : Token → Token
  | .word pieces (some text) =>
      if keywords.contains text then .keyword text else .word pieces (some text)
  | token => token

def description : Token → String
  | .finish => "end of file"
  | .newline => "newline"
  | .semicolon => "\";\""
  | .ampersand => "\"&\""
  | .andThen => "\"&&\""
  | .orElse => "\"||\""
  | .bar => "\"|\""
  | .leftParenthesis => "\"(\""
  | .rightParenthesis => "\")\""
  | .endArm => "\";;\""
  | .opening .. => "redirection"
  | .copying .. => "redirection"
  | .giving .. => "redirection"
  | .word .. => "word"
  | .keyword name => s!"\"{name}\""

def endsList : Token → Bool
  | .finish => true
  | .rightParenthesis => true
  | .endArm => true
  | .keyword name => ["do", "done", "elif", "else", "esac", "fi", "then", "\x7d"].contains name
  | _ => false

end Token

structure ScriptError where
  line : Nat
  complaint : String

/-- A text that is being read: what is left, the number of the line at hand, the sign that was read
last, and whether it is to be read again. -/
structure Source where
  text : List Char
  line : Nat := 1
  last : Token := .newline
  again : Bool := false

abbrev Reader :=
  StateT Source (Except ScriptError)

namespace Reader

def fail {α : Type} (complaint : String) : Reader α := do
  throw ⟨(← get).line, s!"Syntax error: {complaint}"⟩

def unexpected {α : Type} (token : Token) (expected : Option Token) : Reader α :=
  match expected with
  | none => fail s!"{token.description} unexpected"
  | some expected => fail s!"{token.description} unexpected (expecting {expected.description})"

/-- Stands in the text for a line that has been taken out of it. -/
def lineMark : Char := '\x00'

def joinLines : List Char → List Char × Nat
  | '\\' :: '\n' :: rest =>
      let (rest, count) := joinLines rest
      (rest, count + 1)
  | text => (text, 0)

def peek : Reader (Option Char) := do
  let source ← get
  let (text, count) := joinLines source.text
  set { source with text := text, line := source.line + count }
  return text.head?

def drop (count : Nat) : Reader Unit :=
  modify fun source => { source with text := source.text.drop count }

def next : Reader (Option Char) := do
  let source ← get
  match source.text with
  | [] => return none
  | c :: rest =>
      let line := if c = '\n' || c = lineMark then source.line + 1 else source.line
      set { source with text := rest, line := line }
      return some c

def accept (c : Char) : Reader Bool := do
  if (← peek) = some c then
    drop 1
    return true
  else
    return false

/-- Pass over blanks, joined lines and comments, and over the ends of lines if asked to; `line`
counts the lines. -/
def skipBlanks (newlines inComment : Bool) (line : Nat) : List Char → List Char × Nat
  | [] => ([], line)
  | '\\' :: '\n' :: rest =>
      if inComment then skipBlanks newlines true line ('\n' :: rest)
      else skipBlanks newlines false (line + 1) rest
  | c :: rest =>
      if c = lineMark then skipBlanks newlines inComment (line + 1) rest
      else if c = '\n' then
        if newlines then skipBlanks newlines false (line + 1) rest else (c :: rest, line)
      else if inComment || c = ' ' || c = '\t' then skipBlanks newlines inComment line rest
      else if c = '#' then skipBlanks newlines true line rest
      else (c :: rest, line)
termination_by text => text.length
decreasing_by all_goals (simp_all; try omega)

def skip (newlines : Bool) : Reader Unit :=
  modify fun source =>
    let (text, line) := skipBlanks newlines false source.line source.text
    { source with text := text, line := line }

def pushBack : Reader Unit :=
  modify fun source => { source with again := true }

end Reader

end Shell

end Reparse
