import Reparse.Pattern.Automaton
import Reparse.Text.Utf8

/-!
Globs: patterns for file names.

`?` stands for one byte and `*` for any number of them, slashes included; `[a-z]` is one of some
bytes and `{a,b}` one of some alternatives, of which empty ones do not count.  Two stars between
slashes stand for any number of directories.
-/

namespace Reparse

namespace Glob

inductive Token where
  | literal (c : Char)
  | anyOne
  | anyMany
  | leadingDirectories
  | trailingDirectories
  | innerDirectories
  | oneOf (negated : Bool) (ranges : List (Char × Char))
  | alternatives (branches : List (List Token))

def readRanges (ranges : List (Char × Char)) (waiting : Bool) :
    List Char → Option (List (Char × Char) × List Char)
  | [] => none
  | c :: rest =>
      match ranges with
      | [] => readRanges [(c, c)] false rest
      | (low, high) :: others =>
          if c = ']' then
            some ((if waiting then ('-', '-') :: ranges else ranges).reverse, rest)
          else if waiting then
            if c < low then none else readRanges ((low, c) :: others) false rest
          else if c = '-' then
            readRanges ((low, high) :: others) true rest
          else
            readRanges ((c, c) :: ranges) false rest

def readClass : List Char → Option (Token × List Char)
  | '!' :: text => (readRanges [] false text).map fun (ranges, rest) => (.oneOf true ranges, rest)
  | '^' :: text => (readRanges [] false text).map fun (ranges, rest) => (.oneOf true ranges, rest)
  | text => (readRanges [] false text).map fun (ranges, rest) => (.oneOf false ranges, rest)

/-- What has been read so far: the tokens of the branch at hand, last first; the branches before it
in the group at hand; and the groups around it. -/
structure Reading where
  tokens : List Token
  branches : List (List Token)
  outer : List (List Token × List (List Token))

namespace Reading

def start : Reading := ⟨[], [], []⟩

def push (reading : Reading) (token : Token) : Reading :=
  { reading with tokens := token :: reading.tokens }

def openGroup (reading : Reading) : Reading :=
  ⟨[], [], (reading.tokens, reading.branches) :: reading.outer⟩

def nextBranch (reading : Reading) : Reading :=
  { reading with tokens := [], branches := reading.tokens.reverse :: reading.branches }

def closeGroup? (reading : Reading) : Option Reading :=
  match reading.outer with
  | [] => none
  | (tokens, branches) :: outer =>
      let group := Token.alternatives (reading.tokens.reverse :: reading.branches).reverse
      some ⟨group :: tokens, branches, outer⟩

/-- Two stars at a place.  They stand for directories only at the front of a branch, or after a
slash or the opening of a branch, and only before a slash or the end of a branch. -/
def pushTwoStars (reading : Reading) (previous : Option Char) (text : List Char) :
    Reading × List Char :=
  let plain := ((reading.push .anyMany).push .anyMany, text)
  let inGroup := !reading.outer.isEmpty
  match reading.tokens with
  | [] =>
      match text with
      | [] => (reading.push .leadingDirectories, [])
      | '/' :: rest => (reading.push .leadingDirectories, rest)
      | _ => plain
  | last :: tokens =>
      let replaceLast := fun (token : Token) =>
        let kept :=
          match last with
          | .leadingDirectories => last
          | .trailingDirectories => last
          | _ => token
        { reading with tokens := kept :: tokens }
      if previous = some '/' || (inGroup && (previous = some ',' || previous = some '\x7b')) then
        match text with
        | [] => (replaceLast .trailingDirectories, [])
        | '/' :: rest => (replaceLast .innerDirectories, rest)
        | ',' :: _ => if inGroup then (replaceLast .trailingDirectories, text) else plain
        | '\x7d' :: _ => if inGroup then (replaceLast .trailingDirectories, text) else plain
        | _ => plain
      else
        plain

end Reading

def readTokens : (fuel : Nat) → Reading → (previous : Option Char) → List Char → Option (List Token)
  | _, reading, _, [] =>
      if reading.outer.isEmpty then some reading.tokens.reverse else none
  | 0, _, _, _ => none
  | fuel + 1, reading, previous, c :: rest =>
      if c = '?' then
        readTokens fuel (reading.push .anyOne) (some c) rest
      else if c = '*' then
        match rest with
        | '*' :: rest =>
            let (reading, after) := reading.pushTwoStars previous rest
            let previous := if after.length = rest.length then '*' else '/'
            readTokens fuel reading (some previous) after
        | _ => readTokens fuel (reading.push .anyMany) (some c) rest
      else if c = '[' then
        match readClass rest with
        | none => none
        | some (token, rest) => readTokens fuel (reading.push token) (some ']') rest
      else if c = '\x7b' then
        readTokens fuel reading.openGroup (some c) rest
      else if c = '\x7d' then
        match reading.closeGroup? with
        | none => none
        | some reading => readTokens fuel reading (some c) rest
      else if c = ',' then
        if reading.outer.isEmpty then
          readTokens fuel (reading.push (.literal c)) (some c) rest
        else
          readTokens fuel reading.nextBranch (some c) rest
      else if c = '\\' then
        match rest with
        | [] => none
        | escaped :: rest => readTokens fuel (reading.push (.literal escaped)) (some escaped) rest
      else
        readTokens fuel (reading.push (.literal c)) (some c) rest

def parse? (glob : String) : Option (List Token) :=
  readTokens glob.toList.length .start none glob.toList

abbrev ByteExpression :=
  Pattern.Expression UInt8

def byte (b : UInt8) : ByteExpression :=
  .symbol (· == b)

def anyByte : ByteExpression :=
  .symbol fun _ => true

def anyBytes : ByteExpression :=
  .repeated anyByte 0 none

def slash : ByteExpression :=
  byte 0x2F

def charBytes (c : Char) : Bytes :=
  Utf8.encode (String.singleton c)

/-- Whether a byte is in a range.  The range of two characters goes from the last byte of the one to
the first byte of the other, and the other bytes of both stand for themselves. -/
def inRange (b : UInt8) (range : Char × Char) : Bool :=
  let low := charBytes range.1
  let high := charBytes range.2
  if range.1 = range.2 then
    low.contains b
  else
    low.dropLast.contains b || high.tail.contains b ||
      (decide (low.getLast?.getD 0 ≤ b) && decide (b ≤ high.head?.getD 0))

mutual

def Token.isVoid : Token → Bool
  | .alternatives branches => branchesVoid branches
  | _ => false

def tokensVoid : List Token → Bool
  | [] => true
  | token :: rest => token.isVoid && tokensVoid rest

def branchesVoid : List (List Token) → Bool
  | [] => true
  | branch :: rest => tokensVoid branch && branchesVoid rest

end

mutual

def Token.expression : Token → ByteExpression
  | .literal c => .inSequence ((charBytes c).map byte)
  | .anyOne => anyByte
  | .anyMany => anyBytes
  | .leadingDirectories => .either (.repeated slash 0 (some 1)) (.sequence anyBytes slash)
  | .trailingDirectories => .sequence slash anyBytes
  | .innerDirectories => .either slash (.sequence slash (.sequence anyBytes slash))
  | .oneOf negated ranges => .symbol fun b => ranges.any (inRange b) != negated
  | .alternatives branches => .anyOf (branchExpressions branches)

def tokensExpression : List Token → ByteExpression
  | [] => .empty
  | token :: rest => .sequence token.expression (tokensExpression rest)

def branchExpressions : List (List Token) → List ByteExpression
  | [] => []
  | branch :: rest =>
      if tokensVoid branch then
        branchExpressions rest
      else
        tokensExpression branch :: branchExpressions rest

end

structure Nesting where
  count : Nat
  depth : Nat

mutual

def Token.nesting : Token → Nesting
  | .literal c => ⟨(charBytes c).length, 0⟩
  | .anyOne => ⟨1, 0⟩
  | .anyMany => ⟨1, 1⟩
  | .leadingDirectories => ⟨1, 4⟩
  | .trailingDirectories => ⟨2, 1⟩
  | .innerDirectories => ⟨1, 4⟩
  | .oneOf _ ranges => ⟨1, if ranges.length ≤ 1 then 1 else 2⟩
  | .alternatives branches =>
      let inner := branchesNesting branches
      if inner.count = 0 then ⟨0, 0⟩
      else ⟨1, if inner.count = 1 then inner.depth + 1 else inner.depth + 2⟩

def tokensNesting : List Token → Nesting
  | [] => ⟨0, 0⟩
  | token :: rest =>
      let first := token.nesting
      let others := tokensNesting rest
      ⟨first.count + others.count, max first.depth others.depth⟩

def branchesNesting : List (List Token) → Nesting
  | [] => ⟨0, 0⟩
  | branch :: rest =>
      let first := tokensNesting branch
      let others := branchesNesting rest
      if first.count = 0 then others
      else
        ⟨others.count + 1,
          max (if first.count = 1 then first.depth else first.depth + 1) others.depth⟩

end

def isShallow (glob : List Token) : Bool :=
  decide ((tokensNesting glob).depth + 1 ≤ 250)

/-- What a glob matches.  Two stars alone match everything. -/
def expressionOf : List Token → ByteExpression
  | [.leadingDirectories] => anyBytes
  | tokens => tokensExpression tokens

def automaton (glob : List Token) : Pattern.Automaton UInt8 :=
  (expressionOf glob).automaton

def accepts (glob : Pattern.Automaton UInt8) (name : String) : Bool :=
  glob.matchesAll (Utf8.encode name)

end Glob

end Reparse
