import Reparse.Text.Property

namespace Reparse

namespace TextBreak

def listed? (table : List (List String × String)) (name : String) : Option CharacterSet :=
  (table.find? fun entry => entry.1.contains name).map fun entry => .ofTable entry.2

/-- Syllables of Hangul without and with a last consonant: the first of each twenty-eight in a row
has none. -/
def openSyllables : CharacterSet :=
  ⟨(List.range 399).map fun i => (0xAC00 + 28 * i, 0xAC00 + 28 * i)⟩

def closedSyllables : CharacterSet :=
  (CharacterSet.range 0xAC00 0xD7A3).difference openSyllables

def graphemeTable : List (List String × String) :=
  [(["control", "cn"],
      "0 10 1 2 1 18 95 33 13 1 1390 1 4593 1 2044 1 2 2 24 7 49 16 56975 1 240 12 13364 16 34912
      4 5327 8 798341 32 96 128 240 3600"),
    (["cr"], "13 1"),
    (["l"], "4352 96 38912 29"),
    (["lf"], "10 1"),
    (["prepend", "pp"],
      "1536 6 215 1 49 1 384 2 80 1 1131 1 66414 1 15 1 244 2 525 1 1389 1 1 1 248 1 73 6 700 1
      443 1"),
    (["regionalindicator", "ri"], "127462 26"),
    (["spacingmark", "sm"],
      "2307 1 55 1 2 3 8 4 1 2 50 2 59 2 6 2 2 2 54 1 58 3 66 1 58 3 8 1 1 2 53 2 60 1 6 2 2 2 114
      1 1 2 3 3 1 3 52 3 61 4 61 2 58 1 2 1 1 2 46 1 14 2 59 2 5 3 1 3 53 2 76 2 6 7 19 2 63 1 127
      1 138 2 63 1 177 1 9 2 25 2 44 1 1841 1 7 8 1 2 346 4 2 3 4 2 1 6 224 2 58 1 1 1 21 6 145 1
      57 4 64 1 30 1 4 2 63 1 2 3 1 1 53 8 8 2 171 1 21 1 35627 2 2 1 88 2 50 16 142 1 48 1 48 2 4
      2 2 2 111 2 2 2 24 1 157 1 2 2 5 1 237 2 1 2 1 2 1 1 25619 1 1 1 127 1 45 3 4 2 115 1 24 2
      59 1 48 3 9 1 14 1 93 3 3 2 172 3 31 2 59 1 1 4 2 2 2 2 21 2 85 2 15 1 1 2 103 3 8 2 3 1 107
      2 6 1 1 2 1 1 2 1 238 2 6 4 2 1 113 3 8 2 1 1 109 1 1 2 110 1 7 1 261 3 9 1 248 5 1 2 7 1 1
      1 142 3 8 4 4 1 84 1 29 2 62 1 407 1 14 1 106 1 7 1 2 1 213 5 4 2 1 1 350 2 12 1 48 2 8 2
      16874 3 3620 55"),
    (["t"], "4520 88 50635 49"),
    (["v"], "4448 72 50696 23 38300 1 3 4"),
    (["zwj"], "8205 1")]

def grapheme? (name : String) : Option CharacterSet :=
  if ["extend", "ex"].contains name then
    some (CharacterProperty.graphemeExtend.union (CharacterProperty.charactersOf "emojimodifier"))
  else if name = "lv" then some openSyllables
  else if name = "lvt" then some closedSyllables
  else listed? graphemeTable name

def extending : CharacterSet :=
  CharacterProperty.graphemeExtend.union
    ((Category.characters [.Mc]).union (CharacterSet.range 0x200D 0x200D))

def wordTable : List (List String × String) :=
  [(["cr"], "13 1"),
    (["doublequote", "dq"], "34 1"),
    (["extendnumlet", "ex"], "95 1 8143 1 15 2 19 1 56798 2 24 3 239 1"),
    (["format", "fo"],
      "173 1 1362 6 22 1 192 1 49 1 384 2 80 1 3883 1 2047 2 26 5 49 5 1 10 56975 1 249 3 4289 1
      15 1 9058 16 34912 4 5327 8 798342 1"),
    (["hebrewletter", "hl"], "1488 27 4 4 62762 1 1 10 1 13 1 5 1 1 1 2 1 2 1 10"),
    (["katakana", "ka"],
      "12337 5 101 2 3 91 1 4 240 16 208 47 1 88 52238 56 45138 4 1 7 1 2 1 1 287 3 50 1 14 4"),
    (["lf"], "10 1"),
    (["midletter", "ml"], "58 1 124 1 719 1 471 1 148 1 6706 1 56811 1 65 1 196 1"),
    (["midnum", "mn"],
      "44 1 14 1 834 1 522 1 130 2 94 1 395 1 6219 1 56779 1 3 1 59 1 3 1 183 1 14 1"),
    (["midnumlet", "mb"], "46 1 8169 2 10 1 56877 1 180 1 6 1"),
    (["newline", "nl"], "11 2 120 1 8098 2"),
    (["regionalindicator", "ri"], "127462 26"),
    (["singlequote", "sq"], "39 1"),
    (["wsegspace"], "32 1 5727 1 2431 7 1 3 84 1 4000 1"),
    (["zwj"], "8205 1")]

def wordExtending : CharacterSet :=
  (extending.union (CharacterProperty.charactersOf "emojimodifier")).difference
    (CharacterSet.range 0x200D 0x200D)

def wordLetterExceptions : String :=
  "706 4 12 6 6 2 5 7 1 1 1 17 602 3 1 1 43 1 69 27 4 5 2061 48 1 2 12 7 58 2 1 1 1 5 1 24 1 1 1
    10 1 2 9 1 2 5 1 1 21 4 288 43 20 1 16 6 4 4 3 1 3 2 7 3 4 13 12 1 1777 52 35 1 4 1 371 30 2 5
    11 44 4 26 86 53 82 1 5513 5 11 86 6 3 1 90 1 4 240 16 29960 15 9 2 103 2 597 5 1 10 10 5 97
    23 3 1 3 50 1 1 3 2 2 5 2 1 1 1 24 3 125 1 20417 1 1 10 1 13 1 5 1 1 1 2 1 2 1 10 1046 56 5986
    27 37 7 39081 4 1 7 1 2 1 291 15 1 29 3 2 1 14 4"

def wordLetters : CharacterSet :=
  let letters :=
    CharacterProperty.alphabetic.difference
      ((CharacterProperty.charactersOf "ideographic").union wordExtending)
  letters.exclusiveOr (.ofTable wordLetterExceptions)

def word? (name : String) : Option CharacterSet :=
  if ["aletter", "le"].contains name then some wordLetters
  else if name = "extend" then some wordExtending
  else if ["numeric", "nu"].contains name then
    some ((Category.characters [.Nd]).union (CharacterSet.range 0x66B 0x66B))
  else listed? wordTable name

def sentenceTable : List (List String × String) :=
  [(["aterm", "at"], "46 1 8181 1 56877 1 187 1"),
    (["close", "cl"],
      "34 1 4 3 49 1 1 1 29 1 1 1 45 1 15 1 3710 4 1885 2 2427 8 25 2 10 2 54 2 14 2 633 4 29 2
      1072 6 7 14 79 2 31 10 403 22 63 4 32 2 1026 14 14 2 2 10 24 1 18 8 427 10 2 8 1 3 52510 2
      215 2 28 16 2 2 16 6 169 2 49 1 1 1 29 1 1 1 1 2 1 2 63250 3"),
    (["cr"], "13 1"),
    (["format", "fo"],
      "173 1 1362 6 22 1 192 1 49 1 384 2 80 1 3883 1 2044 1 2 2 26 5 49 5 1 10 56975 1 249 3 4289
      1 15 1 9058 16 34912 4 5327 8 798342 1"),
    (["lf"], "10 1"),
    (["scontinue", "sc"],
      "44 2 12 1 1314 1 174 2 490 1 4105 1 5 1 2058 2 4076 1 52750 2 1 1 29 2 29 2 3 1 2 1 10 1
      168 2 12 1 73 1"),
    (["sep", "se"], "133 1 8098 2"),
    (["sp"], "9 1 1 2 19 1 127 1 5599 1 2431 11 36 1 47 1 4000 1")]

def sentenceLower : CharacterSet :=
  CharacterProperty.lowercase.difference
    (CharacterProperty.graphemeExtend.union
      ((CharacterSet.range 0x10D0 0x10FA).union (CharacterSet.range 0x10FD 0x10FF)))

def sentenceUpper : CharacterSet :=
  (CharacterProperty.uppercase.union (Category.characters [.Lt])).difference
    ((CharacterSet.range 0x1C90 0x1CBA).union (CharacterSet.range 0x1CBD 0x1CBF))

def sentenceLetters : CharacterSet :=
  let others :=
    CharacterProperty.alphabetic.difference (sentenceLower.union (sentenceUpper.union extending))
  others.union (CharacterSet.range 0x5F3 0x5F3)

def sentenceEnds : CharacterSet :=
  (CharacterProperty.charactersOf "sentenceterminal").difference
    ((listed? sentenceTable "aterm").getD .empty)

def sentence? (name : String) : Option CharacterSet :=
  if ["extend", "ex"].contains name then some extending
  else if ["lower", "lo"].contains name then some sentenceLower
  else if ["upper", "up"].contains name then some sentenceUpper
  else if ["oletter", "le"].contains name then some sentenceLetters
  else if ["numeric", "nu"].contains name then
    some ((Category.characters [.Nd]).union (CharacterSet.range 0x66B 0x66C))
  else if ["sterm", "st"].contains name then some sentenceEnds
  else listed? sentenceTable name

end TextBreak

end Reparse
