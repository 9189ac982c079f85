import Reparse.Utility.Regex

namespace Reparse

namespace Utility

namespace Awk

inductive Operation where
  | plus
  | minus
  | times
  | over
  | modulo
  | power
deriving DecidableEq

inductive Comparison where
  | less
  | atMost
  | equal
  | unequal
  | greater
  | atLeast
deriving DecidableEq

inductive Expr where
  | number (value : Float)
  | text (value : Bytes)
  | regex (source : Bytes) (compiled : Regex)
  | named (name : String)
  | element (name : String) (index : List Expr)
  | field (number : Expr)
  | assign (target value : Expr)
  | update (operation : Operation) (target value : Expr)
  /-- Add one or take it away; the value is the new or the old one. -/
  | count (isUp givesNew : Bool) (target : Expr)
  | negate (inner : Expr)
  | positive (inner : Expr)
  | not (inner : Expr)
  | arithmetic (operation : Operation) (left right : Expr)
  | compare (comparison : Comparison) (left right : Expr)
  | and (left right : Expr)
  | or (left right : Expr)
  | join (left right : Expr)
  | agree (isNegated : Bool) (text pattern : Expr)
  | isIn (index : List Expr) (name : String)
  | choose (condition yes no : Expr)
  | call (name : String) (arguments : List Expr)
  | builtIn (name : String) (arguments : List Expr)
  | several (items : List Expr)
  | readInput (target : Option Expr)
  | readFile (name : Expr) (target : Option Expr)
  | readCommand (command : Expr) (target : Option Expr)

instance : Inhabited Expr := ⟨.text []⟩

inductive Destination where
  | output
  | overFile (name : Expr)
  | afterFile (name : Expr)
  | command (text : Expr)

inductive Statement where
  | evaluate (value : Expr)
  | print (items : List Expr) (destination : Destination)
  | printFormat (items : List Expr) (destination : Destination)
  | block (body : List Statement)
  | branch (condition : Expr) (yes no : Statement)
  | loop (condition : Expr) (body : Statement)
  | loopAfter (body : Statement) (condition : Expr)
  | loopFor (start : Statement) (condition : Option Expr) (step body : Statement)
  | forEach (name table : String) (body : Statement)
  | break
  | continue
  | next
  | nextFile
  | exit (status : Option Expr)
  | return (value : Option Expr)
  | delete (name : String) (index : Option (List Expr))

instance : Inhabited Statement := ⟨.block []⟩

inductive Pattern where
  | always
  | start
  | finish
  | holds (condition : Expr)
  | between (first last : Expr)

structure Rule where
  pattern : Pattern
  action : Option Statement

structure Function where
  name : String
  parameters : List String
  body : Statement

instance : Inhabited Function := ⟨⟨"", [], .block []⟩⟩

structure Program where
  rules : List Rule := []
  functions : List Function := []

end Awk

end Utility

end Reparse
