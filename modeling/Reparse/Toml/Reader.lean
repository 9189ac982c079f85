import Reparse.Toml.Scalar

namespace Reparse

namespace Toml

def skipSpace (text : List Char) : List Char :=
  text.dropWhile isSpace

def comment? : List Char → Option (List Char)
  | '#' :: rest =>
      let body := rest.takeWhile (· != '\n')
      let after := rest.dropWhile (· != '\n')
      let body := if body.getLast? = some '\x0d' && !after.isEmpty then body.dropLast else body
      if body.any isControl then none else some after
  | text => some text

def endOfLine? (text : List Char) : Option (List Char) :=
  match comment? (skipSpace text) with
  | some [] => some []
  | some rest => newline? rest
  | none => none

def skipLines : (fuel : Nat) → List Char → Option (List Char)
  | 0, text => some text
  | fuel + 1, text =>
      match skipSpace text with
      | '#' :: rest =>
          match comment? ('#' :: rest) with
          | some rest => skipLines fuel rest
          | none => none
      | rest =>
          match newline? rest with
          | some rest => skipLines fuel rest
          | none => some rest

def isBareKeyPart (c : Char) : Bool :=
  c.isAlphanum || c == '_' || c == '-'

def simpleKey? (text : List Char) : Option (String × List Char) :=
  match text with
  | '"' :: rest =>
      (basicString (rest.length + 1) rest).map fun (key, rest) => (String.ofList key, rest)
  | '\'' :: rest => (literalString rest).map fun (key, rest) => (String.ofList key, rest)
  | _ =>
      match text.takeWhile isBareKeyPart with
      | [] => none
      | key => some (String.ofList key, text.dropWhile isBareKeyPart)

/-- How deep arrays and inline tables may stand in each other, and how many keys a path may have. -/
def deepest : Nat := 80

def keys? : (fuel : Nat) → List Char → Option (List String × List Char)
  | 0, _ => none
  | fuel + 1, text => do
      let (key, rest) ← simpleKey? (skipSpace text)
      match skipSpace rest with
      | '.' :: rest =>
          let (path, rest) ← keys? fuel rest
          return (key :: path, rest)
      | rest => return ([key], rest)

def path? (text : List Char) : Option (List String × List Char) := do
  let (path, rest) ← keys? (text.length + 1) text
  if deepest < path.length then none else some (path, rest)

/-- Pass over what may stand around the sign between a key and its value: spaces, and in an inline
table the ends of lines too. -/
def skipAround (inline : Bool) (text : List Char) : Option (List Char) :=
  if inline then skipLines (text.length + 1) text else some (skipSpace text)

def target? (inline : Bool) (text : List Char) : Option (List String × List Char) := do
  let (path, rest) ← path? text
  match ← skipAround inline rest with
  | '=' :: rest => return (path, ← skipAround inline rest)
  | _ => none

def endsWord (c : Char) : Bool :=
  isSpace c || c == '\n' || c == '\x0d' || c == ',' || c == ']' || c == '\x7d' || c == '#' ||
    c == '='

/-- The word at the front of a text; a date and a time may have a space between them. -/
def wordSpan (text : List Char) : List Char × List Char :=
  let word := text.takeWhile (!endsWord ·)
  let rest := text.dropWhile (!endsWord ·)
  match date? word, rest with
  | some [], ' ' :: digit :: more =>
      if digit.isDigit then
        let time := (digit :: more).takeWhile (!endsWord ·)
        (word ++ ' ' :: time, (digit :: more).dropWhile (!endsWord ·))
      else
        (word, rest)
  | _, _ => (word, rest)

mutual

def readValue : (fuel : Nat) → (depth : Nat) → List Char → Option (Value × List Char)
  | 0, _, _ => none
  | fuel + 1, depth, text =>
      match text with
      | '"' :: _ =>
          (string? text).map fun (content, rest) => (.string (String.ofList content), rest)
      | '\'' :: _ =>
          (string? text).map fun (content, rest) => (.string (String.ofList content), rest)
      | '[' :: rest =>
          if depth = 0 then
            none
          else
            (readItems fuel (depth - 1) rest).map fun (items, rest) => (.array items, rest)
      | '\x7b' :: rest =>
          if depth = 0 then
            none
          else
            (readEntries fuel (depth - 1) [] rest).map fun (entries, rest) =>
              (.table .inline entries, rest)
      | _ =>
          let (word, rest) := wordSpan text
          (word? word).map fun value => (value, rest)

def readItems : (fuel : Nat) → (depth : Nat) → List Char → Option (List Value × List Char)
  | 0, _, _ => none
  | fuel + 1, depth, text => do
      match ← skipLines (text.length + 1) text with
      | ']' :: rest => return ([], rest)
      | text =>
          let (item, rest) ← readValue fuel depth text
          match ← skipLines (rest.length + 1) rest with
          | ',' :: rest =>
              let (items, rest) ← readItems fuel depth rest
              return (item :: items, rest)
          | ']' :: rest => return ([item], rest)
          | _ => none

def readEntries :
    (fuel : Nat) → (depth : Nat) → Dictionary Value → List Char →
      Option (Dictionary Value × List Char)
  | 0, _, _, _ => none
  | fuel + 1, depth, entries, text => do
      match ← skipLines (text.length + 1) text with
      | '\x7d' :: rest => return (entries, rest)
      | text =>
          let (path, rest) ← target? true text
          let (value, rest) ← readValue fuel depth rest
          let entries ← assign? path value .header entries
          match ← skipLines (rest.length + 1) rest with
          | ',' :: rest => readEntries fuel depth entries rest
          | '\x7d' :: rest => return (entries, rest)
          | _ => none

end

def header? (brackets : List Char) (text : List Char) : Option (List String × List Char) := do
  let (path, rest) ← path? text
  if rest.take brackets.length = brackets then
    return (path, rest.drop brackets.length)
  else
    none

def statements :
    (fuel : Nat) → (header : List String) → Dictionary Value → List Char → Option (Dictionary Value)
  | 0, _, _, _ => none
  | fuel + 1, header, root, text => do
      match ← skipLines (text.length + 1) text with
      | [] => return root
      | '[' :: '[' :: rest =>
          let (path, rest) ← header? [']', ']'] rest
          let root ← openNextTable? path root
          statements fuel path root (← endOfLine? rest)
      | '[' :: rest =>
          let (path, rest) ← header? [']'] rest
          let root ← openTable? path root
          statements fuel path root (← endOfLine? rest)
      | text =>
          let (path, rest) ← target? false text
          let (value, rest) ← readValue (2 * rest.length + 2) deepest rest
          let root ← assignUnder? header path value root
          statements fuel header root (← endOfLine? rest)

def skipMark : List Char → List Char
  | '\ufeff' :: text => text
  | text => text

def parse? (text : List Char) : Option (Dictionary Value) :=
  statements (text.length + 1) [] [] (skipMark text)

end Toml

end Reparse
