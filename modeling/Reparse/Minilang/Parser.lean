import Reparse.Minilang.Token
import Reparse.Tool.Goal

/-!
The parser of the small expression language.

    program := (expr ";")*
    expr    := operand ("," operand)*
    operand := NUMBER | STRING | IDENT | "(" expr ")" | object
    object  := "{" (prop ("," prop)*)? "}"
    prop    := (IDENT | NUMBER | STRING) ":" operand | IDENT | "[" expr "]" ":" operand

`await` is no identifier in module code.  Parentheses leave no node, only a mark in the metadata.
-/

namespace Reparse

namespace Minilang

open Ast (Node Value)

structure Read (α : Type) where
  value : α
  stop : Nat
  rest : List Token

def Read.map {α β : Type} (f : α → β) (read : Read α) : Read β :=
  ⟨f read.value, read.stop, read.rest⟩

def offsetOf : List Token → Nat
  | [] => 0
  | token :: _ => token.span.start

def startsWith (mark : Char) : List Token → Bool
  | ⟨.mark c, _⟩ :: _ => c == mark
  | _ => false

def expect (mark : Char) : List Token → Except Fault (Read Unit)
  | ⟨.mark c, span⟩ :: rest =>
      if c = mark then .ok ⟨(), span.stop, rest⟩ else .error (.expected mark span.start)
  | tokens => .error (.expected mark (offsetOf tokens))

def extraRaw (spelling : String) : List (String × Value) :=
  [("extra", .map [("raw", .text spelling)])]

def numberNode (value : Binary64) (spelling : String) (span : Ast.Span) : Node where
  kind := .numericLiteral
  span := some span
  fields := [("value", .number value)]
  metadata := extraRaw spelling

def stringNode (value spelling : String) (span : Ast.Span) : Node where
  kind := .stringLiteral
  span := some span
  fields := [("value", .text value)]
  metadata := extraRaw spelling

def identifierNode (name : String) (span : Ast.Span) : Node where
  kind := .identifier
  span := some span
  fields := [("name", .text name)]
  metadata := []

def sequenceNode (expressions : List Node) (span : Ast.Span) : Node where
  kind := .sequenceExpression
  span := some span
  fields := [("expressions", .list (expressions.map .node))]
  metadata := []

def objectNode (properties : List Node) (span : Ast.Span) : Node where
  kind := .other "ObjectExpression"
  span := some span
  fields := [("properties", .list (properties.map .node))]
  metadata := []

def propertyNode (key value : Node) (computed shorthand : Bool) (span : Ast.Span) : Node where
  kind := .objectProperty
  span := some span
  fields :=
    [("computed", .bool computed), ("key", .node key), ("shorthand", .bool shorthand),
      ("value", .node value)]
  metadata := []

def statementNode (expression : Node) (span : Ast.Span) : Node where
  kind := .other "ExpressionStatement"
  span := some span
  fields := [("expression", .node expression)]
  metadata := []

def commentNode (comment : Comment) : Node where
  kind := .other "CommentLine"
  span := some comment.span
  fields := [("value", .text comment.text)]
  metadata := []

def programNode (body : List Node) (goal : Goal) (comments : List Comment) (length : Nat) :
    Node where
  kind := .other "Program"
  span := some ⟨0, length⟩
  fields := [("body", .list (body.map .node)), ("sourceType", .text goal.name)]
  metadata :=
    if comments.isEmpty then
      []
    else
      [("comments", .list (comments.map fun comment => .node (commentNode comment)))]

def identifier (goal : Goal) (name : String) (span : Ast.Span) : Except Fault Node :=
  if goal = .module ∧ name = "await" then
    .error (.reservedAwait span.start)
  else
    .ok (identifierNode name span)

def markParenthesized (node : Node) : Node :=
  match Dictionary.find? node.metadata "extra" with
  | some (.map extra) =>
      node.withMetadata "extra" (.map (Dictionary.insert extra "parenthesized" (.bool true)))
  | _ => node.withMetadata "extra" (.map [("parenthesized", .bool true)])

def propertyKey (goal : Goal) : Token → Except Fault Node
  | ⟨.identifier name, span⟩ => identifier goal name span
  | ⟨.number value spelling, span⟩ => .ok (numberNode value spelling span)
  | ⟨.string value spelling, span⟩ => .ok (stringNode value spelling span)
  | ⟨.mark c, span⟩ => .error (.unexpectedMarkInObject c span.start)

/-- A property is shorthand when it is an identifier without a colon after it. -/
def isShorthand : List Token → Bool
  | ⟨.identifier _, _⟩ :: rest => !startsWith ':' rest
  | _ => false

mutual

def expression (goal : Goal) : (fuel : Nat) → List Token → Except Fault (Read Node)
  | 0, _ => .error .endOfInput
  | fuel + 1, tokens => do
      let first ← operand goal fuel tokens
      if startsWith ',' first.rest then
        let others ← operands goal fuel first.rest
        let span : Ast.Span := ⟨offsetOf tokens, others.stop⟩
        return others.map fun rest => sequenceNode (first.value :: rest) span
      else
        return first

def operands (goal : Goal) : (fuel : Nat) → List Token → Except Fault (Read (List Node))
  | 0, _ => .error .endOfInput
  | fuel + 1, tokens => do
      let comma ← expect ',' tokens
      let first ← operand goal fuel comma.rest
      if startsWith ',' first.rest then
        let others ← operands goal fuel first.rest
        return others.map (first.value :: ·)
      else
        return first.map ([·])

def operand (goal : Goal) : (fuel : Nat) → List Token → Except Fault (Read Node)
  | 0, _ => .error .endOfInput
  | _ + 1, [] => .error .endOfInput
  | fuel + 1, token :: rest =>
      match token.lexeme with
      | .number value spelling =>
          .ok ⟨numberNode value spelling token.span, token.span.stop, rest⟩
      | .string value spelling =>
          .ok ⟨stringNode value spelling token.span, token.span.stop, rest⟩
      | .identifier name => do
          let node ← identifier goal name token.span
          return ⟨node, token.span.stop, rest⟩
      | .mark '(' => do
          let inner ← expression goal fuel rest
          let close ← expect ')' inner.rest
          return ⟨markParenthesized inner.value, close.stop, close.rest⟩
      | .mark '\x7b' => do
          let members ← object goal fuel rest
          let span : Ast.Span := ⟨token.span.start, members.stop⟩
          return members.map fun properties => objectNode properties span
      | .mark c => .error (.unexpectedMark c token.span.start)

def object (goal : Goal) : (fuel : Nat) → List Token → Except Fault (Read (List Node))
  | 0, _ => .error .endOfInput
  | fuel + 1, tokens =>
      if startsWith '\x7d' tokens then do
        let close ← expect '\x7d' tokens
        return close.map fun _ => []
      else
        properties goal fuel tokens

def properties (goal : Goal) : (fuel : Nat) → List Token → Except Fault (Read (List Node))
  | 0, _ => .error .endOfInput
  | fuel + 1, tokens => do
      let first ← property goal fuel tokens
      if startsWith '\x7d' first.rest then
        let close ← expect '\x7d' first.rest
        return close.map fun _ => [first.value]
      else
        let comma ← expect ',' first.rest
        let others ← properties goal fuel comma.rest
        return others.map (first.value :: ·)

def property (goal : Goal) : (fuel : Nat) → List Token → Except Fault (Read Node)
  | 0, _ => .error .endOfInput
  | _ + 1, [] => .error .endOfInputInObject
  | fuel + 1, token :: rest =>
      if token.lexeme = .mark '[' then do
        let key ← expression goal fuel rest
        let close ← expect ']' key.rest
        let colon ← expect ':' close.rest
        let value ← operand goal fuel colon.rest
        let span : Ast.Span := ⟨token.span.start, value.stop⟩
        return value.map fun node => propertyNode key.value node true false span
      else if isShorthand (token :: rest) then do
        let key ← propertyKey goal token
        return ⟨propertyNode key key false true token.span, token.span.stop, rest⟩
      else do
        let key ← propertyKey goal token
        let colon ← expect ':' rest
        let value ← operand goal fuel colon.rest
        let span : Ast.Span := ⟨token.span.start, value.stop⟩
        return value.map fun node => propertyNode key node false false span

end

/-- Calls that reading some tokens can nest: each rule calls at most three others before the next
token is taken. -/
def enoughFuel (tokens : List Token) : Nat :=
  4 * tokens.length + 4

def statements (goal : Goal) : (fuel : Nat) → List Token → Except Fault (List Node)
  | 0, _ => .ok []
  | _ + 1, [] => .ok []
  | fuel + 1, tokens => do
      let body ← expression goal (enoughFuel tokens) tokens
      let semicolon ← expect ';' body.rest
      let others ← statements goal fuel semicolon.rest
      return statementNode body.value ⟨offsetOf tokens, semicolon.stop⟩ :: others

def parse (source : String) (goal : Goal) : Except Fault Node := do
  let lexed ← lex source
  let body ← statements goal lexed.tokens.length lexed.tokens
  return programNode body goal lexed.comments source.utf8ByteSize

end Minilang

end Reparse
