import Reparse.Storage.Volume

namespace Reparse

namespace Shell

inductive Chunk where
  | whole (content : Bytes) (quoted : Bool)
  | split (content : Bytes)
  | gap

abbrev Field :=
  List (UInt8 × Bool)

namespace Field

def text (field : Field) : Bytes :=
  field.map (·.1)

def isPattern (field : Field) : Bool :=
  field.any fun (b, quoted) => !quoted && (b = 42 || b = 63 || b = 91)

end Field

def isBlankByte (b : UInt8) : Bool :=
  b == 32 || b == 9 || b == 10

namespace Chunk

/-- Split text, going on with a field that has begun, if one has.  `afterBlank` tells that blanks
ended the field before, so that one other separator after them belongs to them.  The fields that are
found are put in front, the last one first, and fields that have begun are backwards. -/
def splitFields (separators : Bytes) :
    (found : List Field) → (current : Option Field) → (afterBlank : Bool) → Bytes →
      List Field × Option Field × Bool
  | found, current, afterBlank, [] => (found, current, afterBlank)
  | found, current, afterBlank, b :: rest =>
      if !separators.contains b then
        splitFields separators found (some ((b, false) :: current.getD [])) false rest
      else if isBlankByte b then
        match current with
        | some field => splitFields separators (field.reverse :: found) none true rest
        | none => splitFields separators found none afterBlank rest
      else
        match current with
        | some field => splitFields separators (field.reverse :: found) none false rest
        | none =>
            if afterBlank then splitFields separators found none false rest
            else splitFields separators ([] :: found) none false rest

def fieldsFrom (separators : Bytes) :
    (found : List Field) → (current : Option Field) → (afterBlank : Bool) → List Chunk → List Field
  | found, current, _, [] => ((current.map List.reverse).toList ++ found).reverse
  | found, current, _, .whole content quoted :: rest =>
      let added := (content.map (·, quoted)).reverse
      fieldsFrom separators found (some (added ++ current.getD [])) false rest
  | found, current, afterBlank, .split content :: rest =>
      let (found, current, afterBlank) :=
        splitFields separators found current afterBlank content
      fieldsFrom separators found current afterBlank rest
  | found, current, _, .gap :: rest =>
      fieldsFrom separators ((current.map List.reverse).toList ++ found) none false rest

def fields (separators : Bytes) (chunks : List Chunk) : List Field :=
  fieldsFrom separators [] none false chunks

def joined (joint : Bytes) (chunks : List Chunk) : Bytes :=
  chunks.flatMap fun
    | .whole content _ => content
    | .split content => content
    | .gap => joint

def pattern (joint : Bytes) (chunks : List Chunk) : Field :=
  chunks.flatMap fun
    | .whole content quoted => content.map (·, quoted)
    | .split content => content.map (·, false)
    | .gap => joint.map (·, true)

/-- Chunks of a word that takes the place of a parameter, which is split where it is not quoted. -/
def asValue (quoted : Bool) (chunks : List Chunk) : List Chunk :=
  if quoted then
    chunks
  else
    chunks.map fun
      | .whole content false => .split content
      | chunk => chunk

end Chunk

namespace Field

def namedClass (name : String) (b : UInt8) : Bool :=
  let c := Char.ofNat b.toNat
  let isAscii := b < 128
  isAscii &&
    (if name = "alpha" then c.isAlpha
    else if name = "digit" then c.isDigit
    else if name = "alnum" then c.isAlphanum
    else if name = "upper" then c.isUpper
    else if name = "lower" then c.isLower
    else if name = "space" then b = 32 || (9 ≤ b && b ≤ 13)
    else if name = "blank" then b = 32 || b = 9
    else if name = "punct" then 33 ≤ b && b ≤ 126 && !c.isAlphanum
    else if name = "print" then 32 ≤ b && b ≤ 126
    else if name = "graph" then 33 ≤ b && b ≤ 126
    else if name = "cntrl" then b < 32 || b = 127
    else if name = "xdigit" then c.isDigit || (65 ≤ b && b ≤ 70) || (97 ≤ b && b ≤ 102)
    else false)

def readNamed? (bytes : Bytes) : Option (String × Bytes) :=
  match bytes with
  | 91 :: 58 :: rest =>
      let name := rest.takeWhile (· != 58)
      match rest.drop name.length with
      | 58 :: 93 :: after => some (Utf8.decodeLenient name, after)
      | _ => none
  | _ => none

def classHolds (b : UInt8) : (fuel : Nat) → Bytes → Bool
  | 0, _ => false
  | _, [] => false
  | fuel + 1, bytes =>
      match readNamed? bytes, bytes with
      | some (name, rest), _ => namedClass name b || classHolds b fuel rest
      | none, low :: 45 :: high :: rest => (low ≤ b && b ≤ high) || classHolds b fuel rest
      | none, one :: rest => b == one || classHolds b fuel rest
      | none, [] => false

/-- The bytes of a class in brackets up to the closing one, and the pattern after it.  Brackets of
the name of a class do not close it. -/
def readClass? : (fuel : Nat) → (isFirst : Bool) → Field → Option (Field × Field)
  | 0, _, _ => none
  | _, _, [] => none
  | fuel + 1, isFirst, (b, quoted) :: rest =>
      match readNamed? (((b, quoted) :: rest).map (·.1)) with
      | some (_, after) =>
          let length := rest.length + 1 - after.length
          let name := ((b, quoted) :: rest).take length
          (readClass? fuel false (((b, quoted) :: rest).drop length)).map fun (inner, after) =>
            (name ++ inner, after)
      | none =>
          if b = 93 && !quoted && !isFirst then
            some ([], rest)
          else
            (readClass? fuel false rest).map fun (inner, after) => ((b, quoted) :: inner, after)

def matchesFrom : (fuel : Nat) → Field → Bytes → Bool
  | 0, _, _ => false
  | _, [], text => text.isEmpty
  | fuel + 1, (b, quoted) :: pattern, text =>
      if quoted then
        text.head? == some b && matchesFrom fuel pattern text.tail
      else if b = 42 then
        matchesFrom fuel pattern text ||
          (!text.isEmpty && matchesFrom fuel ((b, quoted) :: pattern) text.tail)
      else if b = 63 then
        !text.isEmpty && matchesFrom fuel pattern text.tail
      else if b = 91 then
        let (negated, inner) :=
          match pattern with
          | (33, false) :: rest => (true, rest)
          | (94, false) :: rest => (true, rest)
          | rest => (false, rest)
        match readClass? (inner.length + 1) true inner, text with
        | some (bytes, pattern), c :: text =>
            classHolds c bytes.length (bytes.map (·.1)) != negated && matchesFrom fuel pattern text
        | some _, [] => false
        | none, _ => text.head? == some b && matchesFrom fuel pattern text.tail
      else
        text.head? == some b && matchesFrom fuel pattern text.tail

def accepts (pattern : Field) (text : Bytes) : Bool :=
  matchesFrom (pattern.length + text.length + 1) pattern text

def trim (pattern : Field) (fromEnd longest : Bool) (text : Bytes) : Bytes :=
  let lengths := List.range (text.length + 1)
  let lengths := if longest then lengths.reverse else lengths
  let matched := lengths.find? fun length =>
    pattern.accepts (if fromEnd then text.drop (text.length - length) else text.take length)
  match matched with
  | none => text
  | some length => if fromEnd then text.take (text.length - length) else text.drop length

def parts : Field → List Field
  | [] => [[]]
  | (b, quoted) :: rest =>
      match parts rest with
      | [] => [[(b, quoted)]]
      | part :: others => if b = 47 then [] :: part :: others else ((b, quoted) :: part) :: others

/-- The paths below a directory that the parts of a pattern match; `base` is the text before them.
-/
def pathsFrom (volume : Volume) : (base : Bytes) → List Field → List Bytes
  | base, [] => [base]
  | base, part :: rest =>
      let separator : Bytes := if rest.isEmpty then [] else [47]
      let go := fun (name : Bytes) => pathsFrom volume (base ++ name ++ separator) rest
      if !part.isPattern then
        let path := Utf8.decodeLenient (base ++ part.text)
        if part.text.isEmpty || volume.itemExists path then go part.text else []
      else
        let directory := if base.isEmpty then "." else Utf8.decodeLenient base
        match volume.entriesIn directory with
        | .error _ => []
        | .ok entries =>
            let asksForHidden := (part.head?.map (·.1)) == some 46
            let hidden := if asksForHidden then [(".", volume.root), ("..", volume.root)] else []
            let names := (hidden ++ entries).filterMap fun entry =>
              let name := Utf8.encode entry.1
              let isHidden := name.head? == some 46
              let fits := (!isHidden || asksForHidden) && part.accepts name
              let isUsable := rest.isEmpty ||
                (match entry.2 with
                  | .directory _ => true
                  | _ => false)
              if fits && isUsable then some name else none
            names.flatMap go

def paths (volume : Volume) (field : Field) : List Bytes :=
  if field.isPattern then
    match pathsFrom volume [] field.parts with
    | [] => [field.text]
    | found => found
  else
    [field.text]

end Field

end Shell

end Reparse
