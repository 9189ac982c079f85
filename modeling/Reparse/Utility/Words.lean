import Reparse.Utility.Condition
import Reparse.Utility.Format
import Reparse.Utility.Regex

namespace Reparse

namespace Utility

/-! Printing -/

def echo (call : Call) : Job Nat := do
  let (escapes, endsLine, words) := echoOptions false true call.arguments
  Job.print (echoed words (if escapes then some ⟨false, false⟩ else none) endsLine)
  return 0

def printf (call : Call) : Job Nat := do
  let arguments := match call.arguments with
    | [45, 45] :: rest => rest
    | arguments => arguments
  match arguments with
  | [] => Job.failUsageText 1 "missing operand"
  | format :: arguments =>
      let printed := printFormat ⟨false⟩ format arguments
      for complaint in printed.complaints do
        Job.complain complaint
      Job.print printed.output
      return printed.status

def yes (call : Call) : Job Nat := do
  let parsed ← ({ letters := [], isStrict := true } : OptionTable).read {} call.arguments
  let words := if parsed.operands.isEmpty then [[121]] else parsed.operands
  let line := ([32] : Bytes).intercalate words ++ [10]
  let block := (List.replicate (endlessSize / line.length + 1) line).flatten
  Job.print block
  return 0

/-! Paths -/

def dropSlashes (path : Bytes) : Bytes :=
  let kept := (path.reverse.dropWhile (· == 47)).reverse
  if kept.isEmpty && !path.isEmpty then [47] else kept

def lastName (path : Bytes) : Bytes :=
  let path := dropSlashes path
  if path = [47] then path else (path.splitOn 47).getLast?.getD []

def directoryName (path : Bytes) : Bytes :=
  let path := dropSlashes path
  if path = [47] then
    path
  else
    let name := (path.splitOn 47).getLast?.getD []
    let front := path.take (path.length - name.length)
    if front.isEmpty then [46] else dropSlashes front

def basename (call : Call) : Job Nat := do
  let table := { OptionTable.ofText "as:z" [("multiple", 'a'), ("suffix", 's'), ("zero", 'z')] with
    isStrict := true }
  let parsed ← table.read {} call.arguments
  let ending : UInt8 := if parsed.has 'z' then 0 else 10
  let cut := fun (suffix name : Bytes) =>
    if suffix.isSuffixOf name && name ≠ suffix then name.take (name.length - suffix.length)
    else name
  let many := parsed.has 'a' || parsed.has 's'
  match parsed.operands with
  | [] => Job.failUsageText 1 "missing operand"
  | operands =>
      if many then
        let suffix := (parsed.value? 's').getD []
        for path in operands do
          Job.print (cut suffix (lastName path) ++ [ending])
        return 0
      else
        match operands with
        | _ :: _ :: extra :: _ => Job.failUsage 1 (Utf8.encode "extra operand '" ++ extra ++ [39])
        | path :: rest =>
            Job.print (cut (rest.head?.getD []) (lastName path) ++ [ending])
            return 0
        | [] => return 0

def dirname (call : Call) : Job Nat := do
  let parsed ← (OptionTable.ofText "z" [("zero", 'z')]).read {} call.arguments
  if parsed.operands.isEmpty then
    Job.failUsageText 1 "missing operand"
  for path in parsed.operands do
    Job.print (directoryName path ++ [if parsed.has 'z' then 0 else 10])
  return 0

def pwd (call : Call) : Job Nat := do
  let parsed ←
    (OptionTable.ofText "LP" [("logical", 'L'), ("physical", 'P')]).read {} call.arguments
  if !parsed.operands.isEmpty then
    Job.complainText "ignoring non-option arguments"
  Job.printLine ("/" ++ "/".intercalate (← get).volume.workingDirectory)
  return 0

/-! Conditions -/

def testWords (words : List Bytes) : Job Nat := do
  match Condition.holds (← get).volume (words.length + 1) words with
  | .ok holds => return if holds then 0 else 1
  | .error complaint =>
      let last := words.getLast?.getD []
      let quoted := fun (word : Bytes) => 39 :: word ++ [39]
      let number := Utf8.encode "Illegal number: "
      if number.isPrefixOf complaint then
        Job.fail 2 (Utf8.encode "invalid integer " ++ quoted (complaint.drop number.length))
      match words with
      | [_, _] => Job.fail 2 (Utf8.encode "missing argument after " ++ quoted last)
      | [_, operator, _] =>
          Job.fail 2 (quoted operator ++ Utf8.encode ": binary operator expected")
      | _ => Job.fail 2 (Utf8.encode "extra argument " ++ quoted last)

def test (call : Call) : Job Nat :=
  testWords call.arguments

def bracket (call : Call) : Job Nat :=
  if call.arguments.getLast? == some [93] then testWords call.arguments.dropLast
  else Job.failText 2 "missing ']'"

/-! Sums -/

structure Term where
  text : Bytes

namespace Term

def number? (term : Term) : Option Int :=
  match term.text with
  | 45 :: digits => (decimal? digits).map fun value => -(value : Int)
  | digits => (decimal? digits).map Int.ofNat

def ofInt (value : Int) : Term :=
  ⟨Utf8.encode (toString value)⟩

def ofBool (value : Bool) : Term :=
  ofInt (if value then 1 else 0)

def isNull (term : Term) : Bool :=
  let digits := match term.text with
    | 45 :: rest => rest
    | text => text
  digits.isEmpty && term.text.isEmpty || (!digits.isEmpty && digits.all (· == 48))

end Term

abbrev Sum :=
  StateT (List Bytes) (Except (Nat × Bytes))

namespace Sum

def fail {α : Type} (status : Nat) (text : String) : Sum α :=
  throw (status, Utf8.encode text)

def accept (word : String) : Sum Bool := do
  match ← get with
  | first :: rest =>
      if first = Utf8.encode word then
        set rest
        return true
      else
        return false
  | [] => return false

def number (term : Term) : Sum Int :=
  match term.number? with
  | some value => return value
  | none => fail 2 "non-integer argument"

def hasGroup : Regex → Bool
  | .group .. => true
  | .both first second => hasGroup first || hasGroup second
  | .either first second => hasGroup first || hasGroup second
  | .repeated _ _ inner => hasGroup inner
  | _ => false

def matched (text pattern : Bytes) : Sum Term := do
  match Regex.parse { isExtended := false } pattern with
  | .error reason => fail 2 reason
  | .ok expression =>
      let subject : Regex.Subject := { bytes := text.toArray }
      match expression.matchAt subject 0 with
      | none => return if hasGroup expression then ⟨[]⟩ else .ofInt 0
      | some found =>
          if hasGroup expression then
            match found.groups.lookup 1 with
            | some (start, stop) => return ⟨subject.slice start stop⟩
            | none => return ⟨[]⟩
          else
            return .ofInt found.stop

def levels : List (List String) :=
  [["|"], ["&"], ["<=", "<", "==", "=", "!=", ">=", ">"], ["+", "-"], ["*", "/", "%"], [":"]]

def apply (operator : String) (left right : Term) : Sum Term := do
  let compared := fun (test : Ordering → Bool) =>
    match left.number?, right.number? with
    | some a, some b => Term.ofBool (test (compare a b))
    | _, _ =>
        Term.ofBool (test (if left.text == right.text then .eq
          else if left.text < right.text then .lt else .gt))
  match operator with
  | "|" =>
      return if !left.isNull then left else if right.isNull then .ofInt 0 else right
  | "&" => return if left.isNull || right.isNull then .ofInt 0 else left
  | "<" => return compared (· == .lt)
  | "<=" => return compared (· != .gt)
  | "=" => return compared (· == .eq)
  | "==" => return compared (· == .eq)
  | "!=" => return compared (· != .eq)
  | ">=" => return compared (· != .lt)
  | ">" => return compared (· == .gt)
  | ":" => matched left.text right.text
  | operator => do
      let a ← number left
      let b ← number right
      match operator with
      | "+" => return .ofInt (a + b)
      | "-" => return .ofInt (a - b)
      | "*" => return .ofInt (a * b)
      | "/" => if b = 0 then fail 2 "division by zero" else return .ofInt (a.tdiv b)
      | _ => if b = 0 then fail 2 "division by zero" else return .ofInt (a.tmod b)

mutual

/-- Terms with operators between them that bind at least as much as a level; `last` is the word
before, for complaints. -/
def level : (fuel : Nat) → (number : Nat) → (last : Bytes) → Sum Term
  | 0, _, _ => fail 3 "memory exhausted"
  | fuel + 1, number, last =>
      match levels[number]? with
      | none => primary fuel last
      | some operators => do
          let left ← level fuel (number + 1) last
          operations fuel number operators left

def operations : (fuel : Nat) → (number : Nat) → List String → Term → Sum Term
  | 0, _, _, _ => fail 3 "memory exhausted"
  | fuel + 1, number, operators, left => do
      match ← get with
      | word :: rest =>
          let operator := Utf8.decodeLenient word
          if operators.contains operator then
            set rest
            let right ← level fuel (number + 1) word
            operations fuel number operators (← apply operator left right)
          else
            return left
      | [] => return left

def primary : (fuel : Nat) → (last : Bytes) → Sum Term
  | 0, _ => fail 3 "memory exhausted"
  | fuel + 1, last => do
      match ← get with
      | [] => throw (2, Utf8.encode "syntax error: missing argument after '" ++ last ++ [39])
      | word :: rest =>
          set rest
          match Utf8.decodeLenient word, rest with
          | "(", _ => do
              let inner ← level fuel 0 word
              if ← accept ")" then
                return inner
              else
                match ← get with
                | [] => throw (2, Utf8.encode "syntax error: expecting ')' after '" ++
                    (rest.getLast?.getD word) ++ [39])
                | next :: _ => throw (2, Utf8.encode "syntax error: expecting ')' instead of '" ++
                    next ++ [39])
          | ")", _ => fail 2 "syntax error: unexpected ')'"
          | "+", next :: rest => do
              set rest
              return ⟨next⟩
          | "length", _ :: _ => do
              let inner ← level fuel 5 word
              return .ofInt inner.text.length
          | "match", _ :: _ => do
              let text ← level fuel 5 word
              let pattern ← level fuel 5 text.text
              matched text.text pattern.text
          | "index", _ :: _ => do
              let text ← level fuel 5 word
              let bytes ← level fuel 5 text.text
              let place := text.text.findIdx? bytes.text.contains
              return .ofInt ((place.map fun index => (index : Int) + 1).getD 0)
          | "substr", _ :: _ => do
              let text ← level fuel 5 word
              let first ← level fuel 5 text.text
              let size ← level fuel 5 first.text
              match first.number?, size.number? with
              | some first, some size =>
                  if first ≤ 0 || size ≤ 0 then return ⟨[]⟩
                  else return ⟨(text.text.drop (first.toNat - 1)).take size.toNat⟩
              | _, _ => return ⟨[]⟩
          | _, _ => return ⟨word⟩

end

end Sum

def expr (call : Call) : Job Nat := do
  let words := match call.arguments with
    | [45, 45] :: rest => rest
    | arguments => arguments
  if words.isEmpty then
    Job.failUsageText 2 "missing operand"
  match (Sum.level (16 * words.length + 32) 0 []).run words with
  | .error (status, complaint) => Job.fail status complaint
  | .ok (_, extra :: _) =>
      Job.fail 2 (Utf8.encode "syntax error: unexpected argument '" ++ extra ++ [39])
  | .ok (term, []) =>
      Job.print (term.text ++ [10])
      return if term.isNull then 1 else 0

/-! Series -/

def fixedNumber? (text : Bytes) : Option (Int × Nat) :=
  let text := text.dropWhile isSpace
  let (isNegative, digits) :=
    match text with
    | 45 :: rest => (true, rest)
    | 43 :: rest => (false, rest)
    | rest => (false, rest)
  let mantissa := digits.takeWhile fun b => b ≠ 101 && b ≠ 69
  let exponent := digits.drop (mantissa.length + 1)
  let power? : Option Int :=
    if mantissa.length = digits.length then some 0
    else
      match exponent with
      | 45 :: rest => (decimal? rest).map fun value => -(value : Int)
      | 43 :: rest => (decimal? rest).map Int.ofNat
      | rest => (decimal? rest).map Int.ofNat
  let whole := mantissa.takeWhile (· != 46)
  let fraction := mantissa.drop (whole.length + 1)
  match decimal? (whole ++ fraction), power? with
  | some value, some power =>
      let value : Int := if isNegative then -(value : Int) else value
      let places : Int := (fraction.length : Int) - power
      if 1000 < power || power < -1000 then none
      else if 0 ≤ places then some (value, places.toNat)
      else some (value * powerOfTen (-places).toNat, 0)
  | _, _ => none

def fixedText (value : Int) (places width : Nat) (fills : Bool) : Bytes :=
  let digits := Nat.toDigits 10 value.natAbs
  let digits := List.replicate (places + 1 - digits.length) '0' ++ digits
  let text :=
    if places = 0 then digits
    else digits.take (digits.length - places) ++ '.' :: digits.drop (digits.length - places)
  let sign := if value < 0 then ['-'] else []
  let zeros := if fills then List.replicate (width - text.length - sign.length) '0' else []
  Utf8.encode (String.ofList (sign ++ zeros ++ text))

def seq (call : Call) : Job Nat := do
  let table := { OptionTable.ofText "f:s:w"
      [("format", 'f'), ("separator", 's'), ("equal-width", 'w')] with
    isStrict := true }
  -- Numbers below zero are no options.
  let isNumber := fun (word : Bytes) =>
    match word with
    | 45 :: b :: _ => b = 46 || (48 ≤ b && b ≤ 57)
    | _ => false
  let front := call.arguments.takeWhile fun word => !isNumber word
  let back := call.arguments.drop front.length
  let parsed ← table.read {} (if back.isEmpty then front else front ++ [45, 45] :: back)
  let read := fun (word : Bytes) =>
    match fixedNumber? word with
    | some value => (pure value : Job (Int × Nat))
    | none => Job.failUsage 1 (Utf8.encode "invalid floating point argument: '" ++ word ++ [39])
  let operands := parsed.operands.filter (· != [45, 45])
  let (first, step, last) ←
    match operands with
    | [] => Job.failUsageText 1 "missing operand"
    | [last] => pure ((1, 0), (1, 0), ← read last)
    | [first, last] => pure (← read first, (1, 0), ← read last)
    | [first, step, last] => do
        let values := (← read first, ← read step, ← read last)
        if values.2.1.1 = 0 then
          Job.failUsage 1 (Utf8.encode "invalid Zero increment value: '" ++ step ++ [39])
        pure values
    | _ :: _ :: _ :: extra :: _ => Job.failUsage 1 (Utf8.encode "extra operand '" ++ extra ++ [39])
  let shown := max first.2 step.2
  let places := max shown last.2
  let scale := fun (value : Int × Nat) => value.1 * powerOfTen (places - value.2)
  let start := scale first
  let size := scale step
  let stop := scale last
  let count := if size = 0 then 0 else
    if 0 < size then (if stop < start then 0 else ((stop - start) / size).toNat + 1)
    else (if start < stop then 0 else ((start - stop) / -size).toNat + 1)
  let count := min count 1000000
  let values := (List.range count).map fun (index : Nat) => start + size * index
  let plain := fun (value : Int) (width : Nat) (fills : Bool) =>
    fixedText (value / powerOfTen (places - shown)) shown width fills
  let width := values.foldl (fun most value => max most (plain value 0 false).length) 0
  let texts ←
    match parsed.value? 'f' with
    | none => pure (values.map fun value => plain value width (parsed.has 'w'))
    | some format =>
        if !format.contains 37 then
          Job.fail 1 (Utf8.encode "format '" ++ format ++ Utf8.encode "' has no % directive")
        else
          pure (values.map fun value =>
            (printFormat ⟨false⟩ format [fixedText value places 0 false]).output)
  let separator := (parsed.value? 's').getD [10]
  if !texts.isEmpty then
    Job.print (separator.intercalate texts ++ [10])
  return 0

def factors (fuel : Nat) (divisor value : Nat) : List Nat :=
  match fuel with
  | 0 => [value]
  | fuel + 1 =>
      if value < 2 then []
      else if value < divisor * divisor then [value]
      else if value % divisor = 0 then divisor :: factors fuel divisor (value / divisor)
      else factors fuel (divisor + 1) value

def factor (call : Call) : Job Nat := do
  let parsed ← (OptionTable.ofText "h" [("exponents", 'h')]).read {} call.arguments
  let words ←
    if parsed.operands.isEmpty then do
      pure (((← Job.takeInput).splitOnP isSpace).filter fun word => !word.isEmpty)
    else
      pure parsed.operands
  let mut status := 0
  for word in words do
    match decimal? word with
    | some value =>
        let parts := (factors 2000000 2 value).map fun part => 32 :: textOf part
        Job.print (textOf value ++ 58 :: parts.flatten ++ [10])
    | none =>
        Job.complain (39 :: word ++ Utf8.encode "' is not a valid positive integer")
        status := 1
  return status

/-! The system -/

def printenv (call : Call) : Job Nat := do
  let table := { OptionTable.ofText "0" [("null", '0')] with wrong := 2, isStrict := true }
  let parsed ← table.read {} call.arguments
  let ending : UInt8 := if parsed.has '0' then 0 else 10
  if parsed.operands.isEmpty then
    for (name, value) in call.environment do
      Job.print (Utf8.encode (name ++ "=") ++ value ++ [ending])
    return 0
  else
    let mut status := 0
    for name in parsed.operands do
      match call.environment.lookup (Utf8.decodeLenient name) with
      | some value => Job.print (value ++ [ending])
      | none => status := 1
    return status

def sleep (call : Call) : Job Nat := do
  let parsed ← ({ letters := [] } : OptionTable).read {} call.arguments
  if parsed.operands.isEmpty then
    Job.failUsageText 1 "missing operand"
  let isUnit := fun (b : UInt8) => [115, 109, 104, 100].contains b
  for word in parsed.operands do
    let digits := if word.getLast?.any isUnit then word.dropLast else word
    if (fixedNumber? digits).isNone && digits ≠ Utf8.encode "infinity" then
      Job.failUsage 1 (Utf8.encode "invalid time interval '" ++ word ++ [39])
  return 0

def whoami (call : Call) : Job Nat := do
  let _ ← ({ letters := [] } : OptionTable).read {} call.arguments
  Job.printLine "root"
  return 0

def idOf (call : Call) : Job Nat := do
  let table := OptionTable.ofText "gGnruz"
    [("group", 'g'), ("groups", 'G'), ("name", 'n'), ("real", 'r'), ("user", 'u'), ("zero", 'z')]
  let parsed ← table.read {} call.arguments
  let isOne := parsed.has 'u' || parsed.has 'g' || parsed.has 'G'
  Job.printLine (if !isOne then "uid=0(root) gid=0(root) groups=0(root)"
    else if parsed.has 'n' then "root" else "0")
  return 0

def uname (call : Call) : Job Nat := do
  let table := OptionTable.ofText "asnrvmpio"
    [("all", 'a'), ("kernel-name", 's'), ("nodename", 'n'), ("kernel-release", 'r'),
      ("kernel-version", 'v'), ("machine", 'm'), ("operating-system", 'o')]
  let parsed ← table.read {} call.arguments
  let parts :=
    (if parsed.has 's' || parsed.has 'a' || parsed.options.isEmpty then ["Linux"] else []) ++
      (if parsed.has 'm' || parsed.has 'a' then ["x86_64"] else []) ++
      (if parsed.has 'o' || parsed.has 'a' then ["GNU/Linux"] else [])
  Job.printLine (" ".intercalate parts)
  return 0

def tty (call : Call) : Job Nat := do
  let table := { OptionTable.ofText "s" [("silent", 's'), ("quiet", 's')] with wrong := 2 }
  let parsed ← table.read {} call.arguments
  if !parsed.has 's' then
    Job.printLine "not a tty"
  return 1

end Utility

end Reparse
