import Reparse.Text.Age
import Reparse.Text.Break
import Reparse.Text.Script

namespace Reparse

namespace ClassName

def digits : CharacterSet :=
  CharacterSet.range 0x30 0x39

def capitals : CharacterSet :=
  CharacterSet.range 0x41 0x5A

def smallLetters : CharacterSet :=
  CharacterSet.range 0x61 0x7A

def letters : CharacterSet :=
  capitals.union smallLetters

def asciiWord : CharacterSet :=
  (digits.union letters).union (CharacterSet.single '_')

def asciiSpace : CharacterSet :=
  (CharacterSet.range 9 13).union (CharacterSet.single ' ')

def posix? (name : String) : Option CharacterSet :=
  if name = "alnum" then some (digits.union letters)
  else if name = "alpha" then some letters
  else if name = "ascii" then some .ascii
  else if name = "blank" then some ((CharacterSet.single '\t').union (CharacterSet.single ' '))
  else if name = "cntrl" then some ((CharacterSet.range 0 0x1F).union (CharacterSet.single '\x7f'))
  else if name = "digit" then some digits
  else if name = "graph" then some (CharacterSet.range 0x21 0x7E)
  else if name = "lower" then some smallLetters
  else if name = "print" then some (CharacterSet.range 0x20 0x7E)
  else if name = "punct" then
    some ((CharacterSet.range 0x21 0x7E).difference (digits.union letters))
  else if name = "space" then some asciiSpace
  else if name = "upper" then some capitals
  else if name = "word" then some asciiWord
  else if name = "xdigit" then
    some (digits.union ((CharacterSet.range 0x41 0x46).union (CharacterSet.range 0x61 0x66)))
  else none

/-- A name without the spaces, hyphens and underscores in it, in small letters, and without a
leading `is`, which stands before anything that is left out. -/
def normalName (name : String) : String :=
  let kept := fun (text : List Char) =>
    (text.filter fun c => c != ' ' && c != '_' && c != '-' && c.toNat < 0x80).map Char.toLower
  match name.toList with
  | first :: second :: rest =>
      if (first = 'i' ∨ first = 'I') ∧ (second = 's' ∨ second = 'S') then
        match kept rest with
        | ['c'] => "isc"
        | rest => String.ofList rest
      else
        String.ofList (kept (first :: second :: rest))
  | short => String.ofList (kept short)

def longNames : List (String × String) :=
  [("letter", "l"), ("casedletter", "lc"), ("uppercaseletter", "lu"), ("lowercaseletter", "ll"),
    ("titlecaseletter", "lt"), ("modifierletter", "lm"), ("otherletter", "lo"), ("mark", "m"),
    ("combiningmark", "m"), ("nonspacingmark", "mn"), ("spacingmark", "mc"),
    ("enclosingmark", "me"), ("number", "n"), ("decimalnumber", "nd"), ("digit", "nd"),
    ("letternumber", "nl"), ("othernumber", "no"), ("punctuation", "p"), ("punct", "p"),
    ("connectorpunctuation", "pc"), ("dashpunctuation", "pd"), ("openpunctuation", "ps"),
    ("closepunctuation", "pe"), ("initialpunctuation", "pi"), ("finalpunctuation", "pf"),
    ("otherpunctuation", "po"), ("symbol", "s"), ("mathsymbol", "sm"), ("currencysymbol", "sc"),
    ("modifiersymbol", "sk"), ("othersymbol", "so"), ("separator", "z"), ("spaceseparator", "zs"),
    ("lineseparator", "zl"), ("paragraphseparator", "zp"), ("other", "c"), ("control", "cc"),
    ("cntrl", "cc"), ("format", "cf"), ("privateuse", "co"), ("unassigned", "cn")]

/-- A general category or a group of them, by its normal name.  Halves of characters are no
characters, so there is no set of them. -/
def category? (name : String) : Option CharacterSet :=
  let short := ((longNames.find? fun entry => entry.1 == name).map (·.2)).getD name
  if short = "any" then some .all
  else if short = "ascii" then some .ascii
  else if short = "assigned" then some (Category.characters [.Cn]).complement
  else if short = "lc" then some (Category.characters [.Lu, .Ll, .Lt])
  else if short = "cs" ∨ short = "surrogate" then none
  else
    match short.toList with
    | [group] =>
        let letter := group.toUpper
        if ['L', 'M', 'N', 'P', 'S', 'Z', 'C'].contains letter then
          some (Category.group [letter])
        else
          none
    | [_, _] =>
        (Category.all.find? fun category => category.name.toLower == short).map fun category =>
          Category.characters [category]
    | _ => none

def script? (name : String) : Option CharacterSet :=
  (Script.ofName? name).map (·.characters)

def named? (name : String) : Option CharacterSet :=
  let name := normalName name
  (CharacterProperty.named? name).or ((category? name).or (script? name))

def valued? (property value : String) : Option CharacterSet :=
  let property := normalName property
  let value := normalName value
  if property = "gc" ∨ property = "generalcategory" then category? value
  else if property = "sc" ∨ property = "script" then script? value
  else if property = "scx" ∨ property = "scriptextensions" then
    (Script.ofName? value).map (·.extended)
  else if property = "age" then CharacterAge.named? value
  else if property = "gcb" ∨ property = "graphemeclusterbreak" then TextBreak.grapheme? value
  else if property = "wb" ∨ property = "wordbreak" then TextBreak.word? value
  else if property = "sb" ∨ property = "sentencebreak" then TextBreak.sentence? value
  else none

end ClassName

end Reparse
