import Reparse.Text.Utf8

namespace Reparse

namespace Shell

/-- What to do about a parameter that is not set, or empty; `empty` tells that an empty value counts
as none. -/
inductive Fallback where
  | useInstead (empty : Bool)
  | useIfSet (empty : Bool)
  | assign (empty : Bool)
  | complain (empty : Bool)
deriving DecidableEq

inductive OpenMode where
  | read
  | write
  | append
  | readWrite
deriving DecidableEq

mutual

/-- A part of a word.  What is quoted is not split into words. -/
inductive Piece where
  | text (content : Bytes) (quoted : Bool)
  | parameter (name : String) (quoted : Bool)
  | length (name : String) (quoted : Bool)
  | fallback (name : String) (rule : Fallback) (word : List Piece) (quoted : Bool)
  | trimmed (name : String) (fromEnd longest : Bool) (pattern : List Piece) (quoted : Bool)
  | arithmetic (expression : List Piece) (quoted : Bool)
  | output (script : Script) (quoted : Bool)
  | malformed

inductive Redirection where
  | toFile (stream : Nat) (mode : OpenMode) (target : List Piece)
  /-- To where another stream leads, or nowhere if the word is a hyphen. -/
  | copy (stream : Nat) (source : List Piece)
  | given (stream : Nat) (text : List Piece)

/-- A script.  A command that may complain has the number of its line. -/
inductive Script where
  | nothing
  | simple (line : Nat) (settings : List (String × List Piece)) (words : List (List Piece))
      (redirections : List Redirection)
  | redirected (line : Nat) (body : Script) (redirections : List Redirection)
  | sequence (first second : Script)
  | both (first second : Script)
  | either (first second : Script)
  | negated (body : Script)
  | piped (first second : Script)
  | separate (body : Script)
  | background (body : Script)
  | conditional (condition consequence alternative : Script)
  | loop (whileSuccess : Bool) (condition body : Script)
  | each (line : Nat) (name : String) (words : List (List Piece)) (body : Script)
  /-- Run the script of the first pattern that a word matches. -/
  | choice (line : Nat) (subject : List Piece) (arms : List (List (List Piece) × Script))
  | definition (name : String) (body : Script)

end

instance : Inhabited Script := ⟨.nothing⟩

namespace Script

def andThen (first : Option Script) (second : Script) : Script :=
  match first with
  | none => second
  | some first => .sequence first second

end Script

end Shell

end Reparse
