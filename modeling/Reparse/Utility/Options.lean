import Reparse.Utility.Basic

/-!
Options among the arguments of a program.

Options may stand anywhere before two hyphens.  A long name may be cut where what is left belongs to
one option only.
-/

namespace Reparse

namespace Utility

inductive Arity where
  | never
  | always
  | perhaps
deriving DecidableEq

structure LongName where
  text : String
  arity : Arity
  letter : Char

structure OptionTable where
  letters : List (Char × Arity)
  names : List LongName := []
  wrong : Nat := 1
  /-- Whether options end at the first argument that is none. -/
  isStrict : Bool := false

namespace OptionTable

def lettersOf : List Char → List (Char × Arity)
  | letter :: ':' :: ':' :: rest => (letter, .perhaps) :: lettersOf rest
  | letter :: ':' :: rest => (letter, .always) :: lettersOf rest
  | letter :: rest => (letter, .never) :: lettersOf rest
  | [] => []

/-- A table of letters, and of long names that stand for letters. -/
def ofText (letters : String) (names : List (String × Char)) : OptionTable :=
  let letters := lettersOf letters.toList
  { letters := letters
    names := names.map fun (text, letter) => ⟨text, (letters.lookup letter).getD .never, letter⟩ }

end OptionTable

structure Parsed where
  options : List (Char × Bytes) := []
  operands : List Bytes := []

namespace Parsed

def has (parsed : Parsed) (letter : Char) : Bool :=
  parsed.options.any fun option => option.1 = letter

def value? (parsed : Parsed) (letter : Char) : Option Bytes :=
  (parsed.options.filter fun option => option.1 = letter).getLast?.map (·.2)

def values (parsed : Parsed) (letter : Char) : List Bytes :=
  (parsed.options.filter fun option => option.1 = letter).map (·.2)

def last? (parsed : Parsed) (letters : List Char) : Option Char :=
  ((parsed.options.map (·.1)).filter letters.contains).getLast?

end Parsed

namespace OptionTable

/-- The letters of one argument.  The result tells the options, and whether the next argument was
used as a value. -/
def readLetters (table : OptionTable) (next : Option Bytes) :
    Bytes → Job (List (Char × Bytes) × Bool)
  | [] => return ([], false)
  | b :: rest => do
      let letter := Char.ofNat b.toNat
      match if letter = ':' then none else table.letters.lookup letter with
      | none => Job.failUsage table.wrong (Utf8.encode "invalid option -- '" ++ [b, 39])
      | some .never =>
          let (more, used) ← readLetters table next rest
          return ((letter, []) :: more, used)
      | some .perhaps => return ([(letter, rest)], false)
      | some .always =>
          if !rest.isEmpty then
            return ([(letter, rest)], false)
          else
            match next with
            | some value => return ([(letter, value)], true)
            | none =>
                Job.failUsage table.wrong
                  (Utf8.encode "option requires an argument -- '" ++ [b, 39])

def readName (table : OptionTable) (word : Bytes) (next : Option Bytes) :
    Job (List (Char × Bytes) × Bool) := do
  let text := Utf8.decodeLenient (word.takeWhile (· != 61))
  let value := word.drop (text.utf8ByteSize + 1)
  let hasValue := word.contains 61
  let candidates := table.names.filter fun name => name.text.startsWith text
  let exact := candidates.filter fun name => name.text = text
  let chosen := if exact.isEmpty then candidates else exact
  match chosen with
  | [] => Job.failUsage table.wrong (Utf8.encode "unrecognized option '--" ++ word ++ [39])
  | first :: others =>
      if others.any fun name => name.letter ≠ first.letter then
        let names := String.join (chosen.map fun name => " '--" ++ name.text ++ "'")
        Job.failUsage table.wrong
          (Utf8.encode "option '--" ++ word ++
            Utf8.encode s!"' is ambiguous; possibilities:{names}")
      else
        let name := first.text
        match first.arity, hasValue, next with
        | .never, true, _ =>
            Job.failUsageText table.wrong s!"option '--{name}' doesn't allow an argument"
        | .always, false, some value => return ([(first.letter, value)], true)
        | .always, false, none =>
            Job.failUsageText table.wrong s!"option '--{name}' requires an argument"
        | _, _, _ => return ([(first.letter, if hasValue then value else [])], false)

def read (table : OptionTable) (parsed : Parsed) : List Bytes → Job Parsed
  | [] => return { parsed with operands := parsed.operands.reverse }
  | [word] => do
      match word with
      | [45, 45] => return { parsed with operands := parsed.operands.reverse }
      | 45 :: 45 :: name =>
          let (options, _) ← table.readName name none
          return ⟨parsed.options ++ options, parsed.operands.reverse⟩
      | 45 :: b :: letters =>
          let (options, _) ← table.readLetters none (b :: letters)
          return ⟨parsed.options ++ options, parsed.operands.reverse⟩
      | word => return { parsed with operands := (word :: parsed.operands).reverse }
  | word :: next :: rest => do
      match word with
      | [45, 45] => return { parsed with operands := parsed.operands.reverse ++ next :: rest }
      | 45 :: 45 :: name =>
          let (options, used) ← table.readName name (some next)
          let parsed := { parsed with options := parsed.options ++ options }
          if used then table.read parsed rest else table.read parsed (next :: rest)
      | 45 :: b :: letters =>
          let (options, used) ← table.readLetters (some next) (b :: letters)
          let parsed := { parsed with options := parsed.options ++ options }
          if used then table.read parsed rest else table.read parsed (next :: rest)
      | word =>
          if table.isStrict then
            return { parsed with operands := parsed.operands.reverse ++ word :: next :: rest }
          else
            table.read { parsed with operands := word :: parsed.operands } (next :: rest)
termination_by words => words.length

end OptionTable

end Utility

end Reparse
