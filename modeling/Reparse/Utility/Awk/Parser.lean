import Reparse.Utility.Awk.Program
import Reparse.Utility.Awk.Token

/-!
Reading programs of rules.

The level of an expression tells which operations it may have outside of parentheses; each level
reads its operands with the next higher one.  Complaints name the line.
-/

namespace Reparse

namespace Utility

namespace Awk

structure Around where
  inPrint : Bool := false
  inParentheses : Bool := false
  inLoop : Bool := false
  inFunction : Bool := false
  inRule : Bool := false

structure Reading where
  tokens : Tokens
  lastLine : Nat
  called : List String := []

abbrev Reader :=
  StateT Reading (Except Bytes)

namespace Reader

def peek? : Reader (Option Token) := do
  return (← get).tokens.head?.map Prod.fst

def isAt (sign : String) : Reader Bool := do
  match ← peek? with
  | some (.sign mark) => return mark = sign
  | _ => return false

def isAtKeyword (name : String) : Reader Bool := do
  match ← peek? with
  | some (.keyword word) => return word = name
  | _ => return false

def skip : Reader Unit :=
  modify fun reading => { reading with tokens := reading.tokens.tail }

def takes (sign : String) : Reader Bool := do
  let isThere ← isAt sign
  if isThere then skip
  return isThere

def takesKeyword (name : String) : Reader Bool := do
  let isThere ← isAtKeyword name
  if isThere then skip
  return isThere

def skipLineEnds : Reader Unit :=
  modify fun reading =>
    { reading with
      tokens := reading.tokens.dropWhile fun entry =>
        match entry.1 with
        | .lineEnd => true
        | _ => false }

def refuse {α : Type} (reason : Bytes) : Reader α := do
  let reading ← get
  let line := (reading.tokens.head?.map Prod.snd).getD reading.lastLine
  throw (Utf8.encode s!"line {line}: " ++ reason)

def refuseText {α : Type} (reason : String) : Reader α :=
  refuse (Utf8.encode reason)

def unexpected {α : Type} : Reader α := do
  match ← peek? with
  | some token => refuse (Utf8.encode "syntax error at or near " ++ token.shown)
  | none => refuseText "syntax error at or near end of line"

def expect (sign : String) : Reader Unit := do
  if !(← takes sign) then
    match sign, ← peek? with
    | ")", some (.sign "\x7d") => refuseText "missing ) near \x7d"
    | _, _ => unexpected

def name : Reader String := do
  match ← peek? with
  | some (.name word) => do
      skip
      return word
  | _ => unexpected

end Reader

open Reader

def assignment? (sign : String) : Option (Option Operation) :=
  [("=", none), ("+=", some Operation.plus), ("-=", some .minus), ("*=", some .times),
    ("/=", some .over), ("%=", some .modulo), ("^=", some .power)].lookup sign

def comparison? (sign : String) : Option Comparison :=
  [("<", Comparison.less), ("<=", .atMost), ("==", .equal), ("!=", .unequal), (">", .greater),
    (">=", .atLeast)].lookup sign

def Expr.isTarget : Expr → Bool
  | .named _ => true
  | .element .. => true
  | .field _ => true
  | _ => false

def Token.startsOperand : Token → Bool
  | .sign mark => ["!", "(", "-", "+", "++", "--", "$"].contains mark
  | .keyword _ => false
  | .lineEnd => false
  | _ => true

def arities : List (String × Nat × Nat) :=
  [("length", 0, 1), ("substr", 2, 3), ("index", 2, 2), ("split", 2, 3), ("sub", 2, 3),
    ("gsub", 2, 3), ("match", 2, 2), ("sprintf", 1, 1000), ("sin", 1, 1), ("cos", 1, 1),
    ("atan2", 2, 2), ("exp", 1, 1), ("log", 1, 1), ("sqrt", 1, 1), ("int", 1, 1), ("rand", 0, 0),
    ("srand", 0, 1), ("tolower", 1, 1), ("toupper", 1, 1), ("system", 1, 1), ("close", 1, 1),
    ("fflush", 0, 1)]

def compile (source : Bytes) : Except String Regex :=
  Regex.parse { isExtended := true, hasEscapes := true } source

mutual

def readExpr (around : Around) : (fuel : Nat) → Reader Expr
  | 0 => refuseText "program is too deep"
  | fuel + 1 => do
      let condition ← readOr around fuel
      match ← peek? with
      | some (.sign "?") => do
          skip
          skipLineEnds
          let yes ← readExpr around fuel
          skipLineEnds
          expect ":"
          skipLineEnds
          let no ← readExpr around fuel
          return .choose condition yes no
      | some (.sign mark) =>
          match assignment? mark with
          | none => return condition
          | some operation => do
              if !condition.isTarget then unexpected
              skip
              skipLineEnds
              let value ← readExpr around fuel
              match operation with
              | none => return .assign condition value
              | some operation => return .update operation condition value
      | _ => return condition

def readOr (around : Around) : (fuel : Nat) → Reader Expr
  | 0 => refuseText "program is too deep"
  | fuel + 1 => do
      let left ← readAnd around fuel
      readOrs around fuel left

def readOrs (around : Around) : (fuel : Nat) → Expr → Reader Expr
  | 0, left => return left
  | fuel + 1, left => do
      if ← takes "||" then
        let right ← readAnd around fuel
        readOrs around fuel (.or left right)
      else
        return left

def readAnd (around : Around) : (fuel : Nat) → Reader Expr
  | 0 => refuseText "program is too deep"
  | fuel + 1 => do
      let left ← readMember around fuel
      readAnds around fuel left

def readAnds (around : Around) : (fuel : Nat) → Expr → Reader Expr
  | 0, left => return left
  | fuel + 1, left => do
      if ← takes "&&" then
        let right ← readMember around fuel
        readAnds around fuel (.and left right)
      else
        return left

def readMember (around : Around) : (fuel : Nat) → Reader Expr
  | 0 => refuseText "program is too deep"
  | fuel + 1 => do
      let left ← readAgreement around fuel
      readMembers around fuel left

def readMembers (around : Around) : (fuel : Nat) → Expr → Reader Expr
  | 0, left => return left
  | fuel + 1, left => do
      if ← takesKeyword "in" then
        let table ← name
        let index :=
          match left with
          | .several items => items
          | single => [single]
        readMembers around fuel (.isIn index table)
      else
        return left

def readAgreement (around : Around) : (fuel : Nat) → Reader Expr
  | 0 => refuseText "program is too deep"
  | fuel + 1 => do
      let left ← readComparison around fuel
      readAgreements around fuel left

def readAgreements (around : Around) : (fuel : Nat) → Expr → Reader Expr
  | 0, left => return left
  | fuel + 1, left => do
      match ← peek? with
      | some (.sign "~") => do
          skip
          let right ← readComparison around fuel
          readAgreements around fuel (.agree false left right)
      | some (.sign "!~") => do
          skip
          let right ← readComparison around fuel
          readAgreements around fuel (.agree true left right)
      | _ => return left

def readComparison (around : Around) : (fuel : Nat) → Reader Expr
  | 0 => refuseText "program is too deep"
  | fuel + 1 => do
      let left ← readJoin around fuel
      match ← peek? with
      | some (.sign mark) =>
          match comparison? mark with
          | some comparison =>
              if around.inPrint && mark = ">" then
                return left
              else do
                skip
                let right ← readJoin around fuel
                return .compare comparison left right
          | none => return left
      | _ => return left

def readCommands (around : Around) : (fuel : Nat) → Expr → Reader Expr
  | 0, left => return left
  | fuel + 1, left => do
      match (← get).tokens with
      | (.sign "|", _) :: (.keyword "getline", _) :: _ => do
          skip
          skip
          let target ← readTarget around fuel
          readCommands around fuel (.readCommand left target)
      | _ => return left

def readJoin (around : Around) : (fuel : Nat) → Reader Expr
  | 0 => refuseText "program is too deep"
  | fuel + 1 => do
      let left ← readSum around fuel
      readJoins around fuel left

def readJoins (around : Around) : (fuel : Nat) → Expr → Reader Expr
  | 0, left => return left
  | fuel + 1, left => do
      let goesOn :=
        match ← peek? with
        | some (.sign "-") => false
        | some (.sign "+") => false
        | some token => token.startsOperand
        | none => false
      if goesOn then
        let right ← readSum around fuel
        readJoins around fuel (.join left right)
      else
        return left

def readSum (around : Around) : (fuel : Nat) → Reader Expr
  | 0 => refuseText "program is too deep"
  | fuel + 1 => do
      let left ← readProduct around fuel
      readSums around fuel left

def readSums (around : Around) : (fuel : Nat) → Expr → Reader Expr
  | 0, left => return left
  | fuel + 1, left => do
      if ← takes "+" then
        let right ← readProduct around fuel
        readSums around fuel (.arithmetic .plus left right)
      else if ← takes "-" then
        let right ← readProduct around fuel
        readSums around fuel (.arithmetic .minus left right)
      else
        return left

def readProduct (around : Around) : (fuel : Nat) → Reader Expr
  | 0 => refuseText "program is too deep"
  | fuel + 1 => do
      let left ← readSigned around fuel
      readProducts around fuel left

def readProducts (around : Around) : (fuel : Nat) → Expr → Reader Expr
  | 0, left => return left
  | fuel + 1, left => do
      if ← takes "*" then
        let right ← readSigned around fuel
        readProducts around fuel (.arithmetic .times left right)
      else if ← takes "/" then
        let right ← readSigned around fuel
        readProducts around fuel (.arithmetic .over left right)
      else if ← takes "%" then
        let right ← readSigned around fuel
        readProducts around fuel (.arithmetic .modulo left right)
      else
        return left

def readSigned (around : Around) : (fuel : Nat) → Reader Expr
  | 0 => refuseText "program is too deep"
  | fuel + 1 => do
      if ← takes "!" then
        return .not (← readSigned around fuel)
      else if ← takes "-" then
        return .negate (← readSigned around fuel)
      else if ← takes "+" then
        return .positive (← readSigned around fuel)
      else
        readPower around fuel

def readPower (around : Around) : (fuel : Nat) → Reader Expr
  | 0 => refuseText "program is too deep"
  | fuel + 1 => do
      let base ← readCounted around fuel
      if ← takes "^" then
        -- The power may have a sign.
        if ← takes "-" then
          return .arithmetic .power base (.negate (← readPower around fuel))
        else
          return .arithmetic .power base (← readPower around fuel)
      else
        return base

def readCounted (around : Around) : (fuel : Nat) → Reader Expr
  | 0 => refuseText "program is too deep"
  | fuel + 1 => do
      let step := fun (isUp : Bool) => do
        let target ← readOperand around fuel
        if target.isTarget then return Expr.count isUp true target else unexpected
      if ← takes "++" then
        step true
      else if ← takes "--" then
        step false
      else
        let operand ← readOperand around fuel
        if operand.isTarget then
          if ← takes "++" then return .count true false operand
          else if ← takes "--" then return .count false false operand
          else readCommands around fuel operand
        else
          readCommands around fuel operand

def readTarget (around : Around) : (fuel : Nat) → Reader (Option Expr)
  | 0 => return none
  | fuel + 1 => do
      match ← peek? with
      | some (.name _) => return some (← readOperand around fuel)
      | some (.sign "$") => return some (← readOperand around fuel)
      | _ => return none

def readItems (around : Around) (closing : String) : (fuel : Nat) → Reader (List Expr)
  | 0 => refuseText "program is too deep"
  | fuel + 1 => do
      if ← takes closing then
        return []
      else
        let first ← readExpr around fuel
        readMoreItems around closing fuel [first]

def readMoreItems (around : Around) (closing : String) : (fuel : Nat) → List Expr →
    Reader (List Expr)
  | 0, _ => refuseText "program is too deep"
  | fuel + 1, found => do
      skipLineEnds
      if ← takes "," then
        skipLineEnds
        let next ← readExpr around fuel
        readMoreItems around closing fuel (next :: found)
      else
        expect closing
        return found.reverse

def readOperand (around : Around) : (fuel : Nat) → Reader Expr
  | 0 => refuseText "program is too deep"
  | fuel + 1 => do
      let inside := { around with inPrint := false, inParentheses := true }
      match ← peek? with
      | some (.number value _) => do
          skip
          return .number (Float.ofBits value.bits)
      | some (.text value) => do
          skip
          return .text value
      | some (.regex source) => do
          match compile source with
          | .ok compiled => do
              skip
              return .regex source compiled
          | .error reason =>
              refuse (Utf8.encode "regular expression compile failed (" ++ Utf8.encode reason ++
                Utf8.encode ")\n" ++ source)
      | some (.name word) => do
          skip
          if ← takes "[" then
            return .element word (← readItems inside "]" fuel)
          else
            return .named word
      | some (.called word) => do
          skip
          skip
          modify fun reading => { reading with called := reading.called ++ [word] }
          return .call word (← readItems inside ")" fuel)
      | some (.builtIn word) => do
          skip
          let (least, most) := (arities.lookup word).getD (0, 0)
          if ← takes "(" then
            let items ← readItems inside ")" fuel
            if items.length < least || most < items.length then
              refuseText s!"wrong number of arguments in call to {word}"
            return .builtIn word items
          else if word = "length" then
            return .builtIn word []
          else
            unexpected
      | some (.keyword "getline") => do
          skip
          let target ← readTarget around fuel
          if ← takes "<" then
            let file ← readOperand around fuel
            return .readFile file target
          else
            return .readInput target
      | some (.sign "$") => do
          skip
          if ← takes "++" then
            return .field (.count true true (← readOperand around fuel))
          else if ← takes "--" then
            return .field (.count false true (← readOperand around fuel))
          else if ← takes "-" then
            return .field (.negate (← readOperand around fuel))
          else
            return .field (← readOperand around fuel)
      | some (.sign "(") => do
          skip
          match ← readItems inside ")" fuel with
          | [] => unexpected
          | [single] =>
              -- What is in parentheses cannot be assigned to.
              return if single.isTarget then .several [single] else single
          | items => return .several items
      | some (.sign "-") => return .negate (← readSigned around fuel)
      | some (.sign "+") => return .positive (← readSigned around fuel)
      | some (.sign "!") => return .not (← readSigned around fuel)
      | some (.sign "++") => readCounted around fuel
      | some (.sign "--") => readCounted around fuel
      | some (.sign "\x7d") =>
          if around.inParentheses then refuseText "missing ) near \x7d" else unexpected
      | _ => unexpected

end

def readEnd : Reader Unit := do
  match ← peek? with
  | some (.sign ";") => do
      skip
      skipLineEnds
  | some .lineEnd => skipLineEnds
  | some (.sign "\x7d") => return ()
  | none => return ()
  | some (.sign ")") => refuseText "extra ')'"
  | some (.sign "]") => refuseText "extra ']'"
  | some _ => unexpected

def readPrinted (around : Around) : (fuel : Nat) → List Expr → Reader (List Expr)
  | 0, found => return found.reverse
  | fuel + 1, found => do
      let item ← readExpr around fuel
      if ← takes "," then
        skipLineEnds
        readPrinted around fuel (item :: found)
      else
        return (item :: found).reverse

def readPrint (around : Around) (fuel : Nat) : Reader (List Expr × Destination) := do
  let around := { around with inPrint := true }
  let isOver := fun (token : Option Token) =>
    match token with
    | none => true
    | some .lineEnd => true
    | some (.sign mark) => [";", "\x7d", ">", ">>", "|"].contains mark
    | some _ => false
  let items ← if isOver (← peek?) then pure [] else readPrinted around fuel []
  let flat :=
    match items with
    | [.several inner] => inner
    | items => items
  if ← takes ">>" then
    return (flat, .afterFile (← readExpr around fuel))
  else if ← takes ">" then
    return (flat, .overFile (← readExpr around fuel))
  else if ← takes "|" then
    return (flat, .command (← readExpr around fuel))
  else
    return (flat, .output)

def readSimple (around : Around) (fuel : Nat) : Reader Statement := do
  if ← takesKeyword "print" then
    let (items, destination) ← readPrint around fuel
    return .print items destination
  else if ← takesKeyword "printf" then
    let (items, destination) ← readPrint around fuel
    if items.isEmpty then refuseText "no arguments in call to printf"
    return .printFormat items destination
  else if ← takesKeyword "delete" then
    let table ← name
    if ← takes "[" then
      return .delete table (some (← readItems {} "]" fuel))
    else
      return .delete table none
  else
    return .evaluate (← readExpr around fuel)

mutual

def readStatement (around : Around) : (fuel : Nat) → Reader Statement
  | 0 => refuseText "program is too deep"
  | fuel + 1 => do
      let within := { around with inLoop := true }
      let isAtEnd := fun (token : Option Token) =>
        match token with
        | none => true
        | some .lineEnd => true
        | some (.sign mark) => mark = ";" || mark = "\x7d"
        | some _ => false
      let word : String :=
        match ← peek? with
        | some (.keyword word) => word
        | some (.sign "\x7b") => "\x7b"
        | some (.sign ";") => ";"
        | _ => ""
      match word with
      | "\x7b" => do
          skip
          readBlock around fuel
      | ";" => do
          skip
          skipLineEnds
          return .block []
      | "if" => do
          skip
          let condition ← readCondition around fuel
          let yes ← readStatement around fuel
          skipLineEnds
          if ← takesKeyword "else" then
            skipLineEnds
            let no ← readStatement around fuel
            return .branch condition yes no
          else
            return .branch condition yes (.block [])
      | "while" => do
          skip
          let condition ← readCondition around fuel
          let body ← readStatement within fuel
          return .loop condition body
      | "do" => do
          skip
          skipLineEnds
          let body ← readStatement within fuel
          skipLineEnds
          if !(← takesKeyword "while") then unexpected
          expect "("
          let condition ← readExpr {} fuel
          expect ")"
          readEnd
          return .loopAfter body condition
      | "for" => do
          skip
          readFor around fuel
      | "next" => do
          if !around.inRule then refuseText "improper use of next"
          skip
          readEnd
          return .next
      | "nextfile" => do
          if !around.inRule then refuseText "improper use of nextfile"
          skip
          readEnd
          return .nextFile
      | "break" => do
          if !around.inLoop then refuseText "break statement outside of loop"
          skip
          readEnd
          return .break
      | "continue" => do
          if !around.inLoop then refuseText "continue statement outside of loop"
          skip
          readEnd
          return .continue
      | "exit" => do
          skip
          let status ← if isAtEnd (← peek?) then pure none else some <$> readExpr around fuel
          readEnd
          return .exit status
      | "return" => do
          if !around.inFunction then refuseText "return outside function body"
          skip
          let value ← if isAtEnd (← peek?) then pure none else some <$> readExpr around fuel
          readEnd
          return .return value
      | _ => do
          let statement ← readSimple around fuel
          readEnd
          return statement

def readCondition (_around : Around) : (fuel : Nat) → Reader Expr
  | 0 => refuseText "program is too deep"
  | fuel + 1 => do
      expect "("
      let condition ← readExpr {} fuel
      expect ")"
      skipLineEnds
      return condition

def readFor (around : Around) : (fuel : Nat) → Reader Statement
  | 0 => refuseText "program is too deep"
  | fuel + 1 => do
      let within := { around with inLoop := true }
      expect "("
      match (← get).tokens with
      | (.name item, _) :: (.keyword "in", _) :: (.name table, _) :: (.sign ")", _) :: rest => do
          modify fun reading => { reading with tokens := rest }
          skipLineEnds
          let body ← readStatement within fuel
          return .forEach item table body
      | _ => do
          let start ← if ← isAt ";" then pure (.block []) else readSimple around fuel
          expect ";"
          skipLineEnds
          let condition ← if ← isAt ";" then pure none else some <$> readExpr {} fuel
          expect ";"
          skipLineEnds
          let step ← if ← isAt ")" then pure (.block []) else readSimple around fuel
          expect ")"
          skipLineEnds
          let body ← readStatement within fuel
          return .loopFor start condition step body

def readBlock (around : Around) : (fuel : Nat) → Reader Statement
  | 0 => refuseText "program is too deep"
  | fuel + 1 => do
      skipLineEnds
      let body ← readBody around fuel []
      return .block body

def readBody (around : Around) : (fuel : Nat) → List Statement → Reader (List Statement)
  | 0, _ => refuseText "program is too deep"
  | fuel + 1, found => do
      skipLineEnds
      if ← takes "\x7d" then
        -- A sign for an end, or the end of a line, may follow.
        skipLineEnds
        return found.reverse
      else if (← peek?).isNone then
        let line := (← get).lastLine + 1
        throw (Utf8.encode s!"line {line}: missing \x7d near end of file")
      else
        let statement ← readStatement around fuel
        readBody around fuel (statement :: found)

end

def readNames : (fuel : Nat) → List String → Reader (List String)
  | 0, found => return found.reverse
  | fuel + 1, found => do
      if ← takes ")" then
        return found.reverse
      else
        let word ← name
        skipLineEnds
        if ← takes "," then
          skipLineEnds
          readNames fuel (word :: found)
        else
          expect ")"
          return (word :: found).reverse

def readFunction (fuel : Nat) : Reader Function := do
  let title ←
    match ← peek? with
    | some (.called word) => do
        skip
        pure word
    | some (.name word) => do
        skip
        pure word
    | _ => unexpected
  expect "("
  let parameters ← readNames fuel []
  skipLineEnds
  if ← takes "\x7b" then
    let body ← readBlock { inFunction := true, inRule := true } fuel
    return ⟨title, parameters, body⟩
  else
    unexpected

def readRule (fuel : Nat) : Reader Rule := do
  let pattern ←
    if ← takesKeyword "BEGIN" then pure Pattern.start
    else if ← takesKeyword "END" then pure .finish
    else if ← isAt "\x7b" then pure .always
    else do
      let first ← readExpr {} fuel
      if ← takes "," then
        skipLineEnds
        pure (.between first (← readExpr {} fuel))
      else
        pure (.holds first)
  let around : Around :=
    match pattern with
    | .start => {}
    | .finish => {}
    | _ => { inRule := true }
  let needsAction :=
    match pattern with
    | .start => true
    | .finish => true
    | _ => false
  if ← takes "\x7b" then
    return ⟨pattern, some (← readBlock around fuel)⟩
  else if needsAction then
    unexpected
  else
    return ⟨pattern, none⟩

def readRules : (fuel : Nat) → Program → Reader Program
  | 0, program => return program
  | fuel + 1, program => do
      skipLineEnds
      match ← peek? with
      | none => return ⟨program.rules.reverse, program.functions⟩
      | some (.sign ";") =>
          if program.rules.isEmpty && program.functions.isEmpty then
            unexpected
          else do
            skip
            readRules fuel program
      | some (.sign "\x7d") => do
          let line := ((← get).tokens.head?.map Prod.snd).getD 1
          throw (Utf8.encode
            s!"line {line}: extra '\x7d'\nline {line}: syntax error at or near end of line")
      | some (.keyword word) =>
          if word = "function" || word = "func" then do
            skip
            let function ← readFunction fuel
            readRules fuel { program with functions := program.functions ++ [function] }
          else do
            let rule ← readRule fuel
            readRules fuel { program with rules := rule :: program.rules }
      | some _ => do
          let rule ← readRule fuel
          readRules fuel { program with rules := rule :: program.rules }

/-- A text as a program; the error tells what is wrong, line by line. -/
def parse (text : Bytes) : Except Bytes Program :=
  let lastLine := 1 + (text.filter (· == 10)).length
  match tokens text with
  | .error reason =>
      .error (if reason.head?.any isDigit then reason else Utf8.encode "line 1: " ++ reason)
  | .ok tokens =>
      match (readRules (20 * text.length + 100) {}).run ⟨tokens, lastLine, []⟩ with
      | .error reason => .error reason
      | .ok (program, reading) =>
          let isMissing := fun (word : String) =>
            !program.functions.any fun function => function.name == word
          match reading.called.filter isMissing with
          | [] => .ok program
          | missing =>
              let lines := missing.eraseDups.map fun word =>
                s!"line {lastLine + 1}: function {word} never defined"
              .error (Utf8.encode ("\n".intercalate lines))

end Awk

end Utility

end Reparse
