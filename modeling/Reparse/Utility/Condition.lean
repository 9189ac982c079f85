import Reparse.Storage.Volume

namespace Reparse

namespace Utility

inductive Role where
  | unary
  | binary
  | negation
  | conjunction
  | disjunction
  | opening
  | closing
deriving DecidableEq

namespace Condition

def unaryOperators : List String :=
  ["-r", "-w", "-x", "-e", "-f", "-d", "-c", "-b", "-p", "-u", "-g", "-k", "-s", "-t", "-z", "-n",
    "-h", "-O", "-G", "-L", "-S"]

def binaryOperators : List String :=
  ["=", "!=", "<", ">", "-eq", "-ne", "-ge", "-gt", "-le", "-lt", "-nt", "-ot", "-ef"]

def roleOf? (word : Bytes) : Option Role :=
  let text := Utf8.decodeLenient word
  if unaryOperators.contains text then some .unary
  else if binaryOperators.contains text then some .binary
  else if text = "!" then some .negation
  else if text = "-a" then some .conjunction
  else if text = "-o" then some .disjunction
  else if text = "(" then some .opening
  else if text = ")" then some .closing
  else none

/-- What the first of some words does, if it is an operator there. -/
def role? : List Bytes → Option Role
  | [] => none
  | word :: rest =>
      match roleOf? word with
      | some .unary =>
          match rest with
          | [] => none
          | [_] => some .unary
          | next :: _ => if roleOf? next = some .binary then none else some .unary
      | some .opening => if rest.isEmpty then none else some .opening
      | role => role

def fileHolds (volume : Volume) (operator : String) (path : Bytes) : Bool :=
  match volume.item (Utf8.decodeLenient path) with
  | .error _ => false
  | .ok item =>
      match operator, item with
      | "-f", .file _ => true
      | "-d", .directory _ => true
      | "-c", .device => true
      | "-x", .directory _ => true
      | "-x", .file _ => volume.isRunnable (Utf8.decodeLenient path)
      | "-r", _ => !volume.isUnreadable (Utf8.decodeLenient path)
      | "-s", .file content => !content.isEmpty
      | "-s", .directory _ => true
      | _, _ => ["-e", "-w", "-O", "-G"].contains operator

def number? (word : Bytes) : Except Bytes Int :=
  let isBlank := fun (b : UInt8) => b = 32 || (9 ≤ b && b ≤ 13)
  let text := (word.dropWhile isBlank).reverse.dropWhile isBlank |>.reverse
  let (isNegative, digits) :=
    match text with
    | 45 :: rest => (true, rest)
    | 43 :: rest => (false, rest)
    | rest => (false, rest)
  let value : Nat := digits.foldl (fun total b => total * 10 + (b.toNat - 48)) 0
  if !digits.isEmpty && digits.all (fun b => 48 ≤ b && b ≤ 57) && value < 0x8000000000000000 then
    .ok (if isNegative then -(value : Int) else value)
  else
    .error (Utf8.encode "Illegal number: " ++ word)

def relate (volume : Volume) (operator : String) (left right : Bytes) : Except Bytes Bool :=
  let numbers := fun (relation : Int → Int → Bool) => do
    let left ← number? left
    let right ← number? right
    return relation left right
  match operator with
  | "=" => .ok (left == right)
  | "!=" => .ok (left != right)
  | "<" => .ok (decide (left < right))
  | ">" => .ok (decide (right < left))
  | "-eq" => numbers fun a b => a == b
  | "-ne" => numbers fun a b => a != b
  | "-ge" => numbers fun a b => a ≥ b
  | "-gt" => numbers fun a b => a > b
  | "-le" => numbers fun a b => a ≤ b
  | "-lt" => numbers fun a b => a < b
  | "-ef" =>
      match volume.locate (Utf8.decodeLenient left), volume.locate (Utf8.decodeLenient right) with
      | .ok left, .ok right => .ok (left == right)
      | _, _ => .ok false
  | _ => .ok false

abbrev Reading :=
  Except Bytes (Bool × List Bytes)

mutual

def either (volume : Volume) : (fuel : Nat) → List Bytes → Reading
  | 0, words => .ok (false, words)
  | fuel + 1, words => do
      let (left, rest) ← both volume fuel words
      match role? rest with
      | some .disjunction =>
          let (right, rest) ← either volume fuel rest.tail
          return (left || right, rest)
      | _ => return (left, rest)

def both (volume : Volume) : (fuel : Nat) → List Bytes → Reading
  | 0, words => .ok (false, words)
  | fuel + 1, words => do
      let (left, rest) ← negated volume fuel words
      match role? rest with
      | some .conjunction =>
          let (right, rest) ← both volume fuel rest.tail
          return (left && right, rest)
      | _ => return (left, rest)

def negated (volume : Volume) : (fuel : Nat) → List Bytes → Reading
  | 0, words => .ok (false, words)
  | fuel + 1, words =>
      match role? words with
      | some .negation => do
          let (holds, rest) ← negated volume fuel words.tail
          return (!holds, rest)
      | _ => primary volume fuel words

def primary (volume : Volume) : (fuel : Nat) → List Bytes → Reading
  | 0, words => .ok (false, words)
  | _, [] => .ok (false, [])
  | fuel + 1, word :: rest =>
      match role? (word :: rest) with
      | some .opening =>
          if role? rest = some .closing then
            .ok (false, rest.tail)
          else do
            let (holds, rest) ← either volume fuel rest
            if role? rest = some .closing then
              return (holds, rest.tail)
            else
              .error (Utf8.encode "closing paren expected")
      | some .unary =>
          match rest with
          | [] => .error (word ++ Utf8.encode ": argument expected")
          | subject :: rest =>
              match Utf8.decodeLenient word with
              | "-z" => .ok (subject.isEmpty, rest)
              | "-n" => .ok (!subject.isEmpty, rest)
              | "-t" => (number? subject).map fun _ => (false, rest)
              | operator => .ok (fileHolds volume operator subject, rest)
      | _ =>
          match role? rest, rest with
          | some .binary, operator :: right :: rest =>
              (relate volume (Utf8.decodeLenient operator) word right).map (·, rest)
          | some .binary, [operator] => .error (operator ++ Utf8.encode ": argument expected")
          | _, _ => .ok (!word.isEmpty, rest)

end

def holdsIn (volume : Volume) (words : List Bytes) : Except Bytes Bool := do
  let (holds, rest) ← either volume (8 * words.length + 16) words
  if rest.isEmpty then
    return holds
  else
    let last := words[words.length - rest.length - 1]?.getD []
    .error (last ++ Utf8.encode ": unexpected operator")

def relateThree (volume : Volume) (left operator right : Bytes) : Except Bytes Bool :=
  relate volume (Utf8.decodeLenient operator) left right

/-- Whether a condition holds.  How few words mean what depends on their number. -/
def holds (volume : Volume) : (fuel : Nat) → List Bytes → Except Bytes Bool
  | 0, _ => .ok false
  | _, [] => .ok false
  | fuel + 1, words =>
      let isGroup := words.head? == some [40] && words.getLast? == some [41]
      let isNegated := words.head? == some [33]
      let inner := (words.drop 1).dropLast
      match words with
      | [left, operator, right] =>
          if roleOf? operator = some .binary then relateThree volume left operator right
          else if isGroup then holdsIn volume inner
          else if isNegated then (holds volume fuel words.tail).map (!·)
          else holdsIn volume words
      | [_, _, _, _] =>
          if isGroup then holdsIn volume inner
          else if isNegated then (holds volume fuel words.tail).map (!·)
          else holdsIn volume words
      | _ => holdsIn volume words

end Condition

end Utility

end Reparse
