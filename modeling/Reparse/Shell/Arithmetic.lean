import Reparse.Dictionary

namespace Reparse

namespace Shell

inductive Operator where
  | times | divided | remainder
  | plus | minus
  | shiftLeft | shiftRight
  | less | lessOrEqual | greater | greaterOrEqual
  | equal | notEqual
  | bitAnd
  | bitXor
  | bitOr
deriving DecidableEq

namespace Operator

def level : Operator → Nat
  | .times => 0 | .divided => 0 | .remainder => 0
  | .plus => 1 | .minus => 1
  | .shiftLeft => 2 | .shiftRight => 2
  | .less => 3 | .lessOrEqual => 3 | .greater => 3 | .greaterOrEqual => 3
  | .equal => 4 | .notEqual => 4
  | .bitAnd => 5
  | .bitXor => 6
  | .bitOr => 7

def written : List (String × Operator) :=
  [("<<", .shiftLeft), (">>", .shiftRight), ("<=", .lessOrEqual), (">=", .greaterOrEqual),
    ("==", .equal), ("!=", .notEqual), ("*", .times), ("/", .divided), ("%", .remainder),
    ("+", .plus), ("-", .minus), ("<", .less), (">", .greater), ("&", .bitAnd), ("^", .bitXor),
    ("|", .bitOr)]

def canAssign (operator : Operator) : Bool :=
  [.times, .divided, .remainder, .plus, .minus, .shiftLeft, .shiftRight, .bitAnd, .bitXor,
    .bitOr].contains operator

def combine? (operator : Operator) (left right : Int64) : Option Int64 :=
  let truth := fun (holds : Bool) => some (if holds then (1 : Int64) else 0)
  match operator with
  | .times => some (left * right)
  | .divided => if right = 0 then none else some (left / right)
  | .remainder => if right = 0 then none else some (left % right)
  | .plus => some (left + right)
  | .minus => some (left - right)
  | .shiftLeft => some (left <<< right)
  | .shiftRight => some (left >>> right)
  | .less => truth (left < right)
  | .lessOrEqual => truth (left ≤ right)
  | .greater => truth (right < left)
  | .greaterOrEqual => truth (right ≤ left)
  | .equal => truth (left = right)
  | .notEqual => truth (left ≠ right)
  | .bitAnd => some (left &&& right)
  | .bitXor => some (left ^^^ right)
  | .bitOr => some (left ||| right)

end Operator

inductive Sum where
  | number (value : Int64)
  | name (name : String)
  | negative (inner : Sum)
  | opposite (inner : Sum)
  | bitNot (inner : Sum)
  | binary (operator : Operator) (left right : Sum)
  | both (left right : Sum)
  | either (left right : Sum)
  | conditional (condition consequence alternative : Sum)
  | assign (name : String) (operator : Option Operator) (value : Sum)

namespace Sum

/-- The number at the front of a text as digits in a base, which is shown by the front of the
number. A number that is too large is the largest there is. -/
def readNumber (text : List Char) : Nat × List Char :=
  let digits := fun (base : Nat) (isDigit : Char → Bool) (text : List Char) =>
    let found := text.takeWhile isDigit
    (found.foldl (fun total c =>
      total * base +
        (if c.isDigit then c.toNat - 48 else if c.isLower then c.toNat - 87 else c.toNat - 55)) 0,
      text.drop found.length)
  let isHex := fun (c : Char) =>
    c.isDigit || ('a' ≤ c && c ≤ 'f') || ('A' ≤ c && c ≤ 'F')
  match text with
  | '0' :: x :: c :: rest =>
      if (x = 'x' || x = 'X') && isHex c then digits 16 isHex (c :: rest)
      else digits 8 (fun c => '0' ≤ c && c ≤ '7') text
  | '0' :: _ => digits 8 (fun c => '0' ≤ c && c ≤ '7') text
  | _ => digits 10 Char.isDigit text

def clamp (value : Int) : Int64 :=
  if value < -0x8000000000000000 then Int64.minValue
  else if 0x8000000000000000 ≤ value then Int64.maxValue
  else Int64.ofInt value

def number? (text : String) : Option Int64 :=
  let isBlank := fun (c : Char) => c = ' ' || ('\t' ≤ c && c ≤ '\r')
  let text := text.toList.dropWhile isBlank
  let (isNegative, digits) :=
    match text with
    | '-' :: rest => (true, rest)
    | '+' :: rest => (false, rest)
    | rest => (false, rest)
  match digits with
  | [] => if text.isEmpty then some 0 else none
  | c :: _ =>
      if c.isDigit then
        let (value, rest) := readNumber digits
        if (rest.dropWhile isBlank).isEmpty then
          some (clamp (if isNegative then -(value : Int) else value))
        else
          none
      else
        none

def isNameStart (c : Char) : Bool :=
  c.isAlpha || c == '_'

def skip (text : List Char) : List Char :=
  text.dropWhile fun c => c = ' ' || c = '\t' || c = '\n'

def after? (sign : String) (text : List Char) : Option (List Char) :=
  let text := skip text
  if sign.toList.isPrefixOf text then some (text.drop sign.length) else none

def operator? (text : List Char) : Option (Operator × List Char) :=
  let text := skip text
  Operator.written.findSome? fun (sign, operator) =>
    match after? sign text with
    | none => none
    | some rest =>
        let continues :=
          (operator.canAssign && rest.head? = some '=') ||
            (sign = "&" && rest.head? = some '&') || (sign = "|" && rest.head? = some '|')
        if continues then none else some (operator, rest)

def assignment? (text : List Char) : Option (Option Operator × List Char) :=
  let text := skip text
  match text with
  | '=' :: rest => if rest.head? = some '=' then none else some (none, rest)
  | _ =>
      Operator.written.findSome? fun (sign, operator) =>
        if operator.canAssign then
          (after? (sign ++ "=") text).map fun rest => (some operator, rest)
        else
          none

mutual

def readWhole : (fuel : Nat) → List Char → Except String (Sum × List Char)
  | 0, _ => .error "nesting"
  | fuel + 1, text =>
      let text := skip text
      let name := text.takeWhile fun c => c.isAlphanum || c == '_'
      let isName := name.head?.any isNameStart
      match if isName then assignment? (text.drop name.length) else none with
      | some (operator, rest) => do
          let (value, rest) ← readWhole fuel rest
          return (.assign (String.ofList name) operator value, rest)
      | none => do
          let (condition, rest) ← readEither fuel text
          match after? "?" rest with
          | none => return (condition, rest)
          | some rest =>
              let (consequence, rest) ← readWhole fuel rest
              match after? ":" rest with
              | none => .error "expecting ':'"
              | some rest =>
                  let (alternative, rest) ← readWhole fuel rest
                  return (.conditional condition consequence alternative, rest)

def readEither : (fuel : Nat) → List Char → Except String (Sum × List Char)
  | 0, _ => .error "nesting"
  | fuel + 1, text => do
      let (left, rest) ← readBoth fuel text
      match after? "||" rest with
      | none => return (left, rest)
      | some rest =>
          let (right, rest) ← readEither fuel rest
          return (.either left right, rest)

def readBoth : (fuel : Nat) → List Char → Except String (Sum × List Char)
  | 0, _ => .error "nesting"
  | fuel + 1, text => do
      let (left, rest) ← readBinary fuel 8 text
      match after? "&&" rest with
      | none => return (left, rest)
      | some rest =>
          let (right, rest) ← readBoth fuel rest
          return (.both left right, rest)

/-- Numbers with operators between them that bind more than a level. -/
def readBinary : (fuel level : Nat) → List Char → Except String (Sum × List Char)
  | 0, _, _ => .error "nesting"
  | fuel + 1, level, text => do
      let (left, rest) ← readPrimary fuel text
      readOperators fuel level left rest

def readOperators :
    (fuel level : Nat) → Sum → List Char → Except String (Sum × List Char)
  | 0, _, _, _ => .error "nesting"
  | fuel + 1, level, left, text =>
      match operator? text with
      | none => .ok (left, text)
      | some (operator, rest) =>
          if level ≤ operator.level then
            .ok (left, text)
          else do
            let (right, rest) ← readBinary fuel operator.level rest
            readOperators fuel level (.binary operator left right) rest

def readPrimary : (fuel : Nat) → List Char → Except String (Sum × List Char)
  | 0, _ => .error "nesting"
  | fuel + 1, text =>
      match skip text with
      | '(' :: rest => do
          let (inner, rest) ← readWhole fuel rest
          match after? ")" rest with
          | none => .error "expecting ')'"
          | some rest => return (inner, rest)
      | '+' :: rest => readPrimary fuel rest
      | '-' :: rest => do
          let (inner, rest) ← readPrimary fuel rest
          return (.negative inner, rest)
      | '!' :: rest => do
          let (inner, rest) ← readPrimary fuel rest
          return (.opposite inner, rest)
      | '~' :: rest => do
          let (inner, rest) ← readPrimary fuel rest
          return (.bitNot inner, rest)
      | c :: rest =>
          if c.isDigit then
            let (value, rest) := readNumber (c :: rest)
            .ok (.number (clamp value), rest)
          else if isNameStart c then
            let name := (c :: rest).takeWhile fun c => c.isAlphanum || c == '_'
            .ok (.name (String.ofList name), (c :: rest).drop name.length)
          else
            .error "expecting primary"
      | [] => .error "expecting primary"

end

def parse (text : List Char) : Except String Sum := do
  let (sum, rest) ← readWhole (16 * text.length + 32) text
  if (skip rest).isEmpty then return sum else .error "expecting EOF"

inductive Failure where
  | divisionByZero
  | notNumber (value : String)
  | unset (name : String)
  | readOnly (name : String)

structure Names (σ : Type) where
  value : σ → String → Except Failure Int64
  set : σ → String → Int64 → Except Failure σ

def evaluate {σ : Type} (names : Names σ) (state : σ) : Sum → Except Failure (Int64 × σ)
  | .number value => .ok (value, state)
  | .name text => (names.value state text).map (·, state)
  | .negative inner => (inner.evaluate names state).map fun (value, state) => (-value, state)
  | .opposite inner =>
      (inner.evaluate names state).map fun (value, state) => (if value = 0 then 1 else 0, state)
  | .bitNot inner => (inner.evaluate names state).map fun (value, state) => (~~~value, state)
  | .binary operator left right => do
      let (left, state) ← left.evaluate names state
      let (right, state) ← right.evaluate names state
      match operator.combine? left right with
      | some value => return (value, state)
      | none => .error .divisionByZero
  | .both left right => do
      let (left, state) ← left.evaluate names state
      if left = 0 then
        return (0, state)
      else
        let (right, state) ← right.evaluate names state
        return (if right = 0 then 0 else 1, state)
  | .either left right => do
      let (left, state) ← left.evaluate names state
      if left ≠ 0 then
        return (1, state)
      else
        let (right, state) ← right.evaluate names state
        return (if right = 0 then 0 else 1, state)
  | .conditional condition consequence alternative => do
      let (condition, state) ← condition.evaluate names state
      if condition ≠ 0 then consequence.evaluate names state else alternative.evaluate names state
  | .assign target operator value => do
      let (value, state) ← value.evaluate names state
      let value ←
        match operator with
        | none => pure value
        | some operator =>
            match operator.combine? (← names.value state target) value with
            | some value => pure value
            | none => .error .divisionByZero
      return (value, ← names.set state target value)

end Sum

end Shell

end Reparse
