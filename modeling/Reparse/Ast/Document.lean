import Reparse.Ast.Tree
import Reparse.Json.Reader

/-!
The JSON form of a tree.

An object with a `type` member is a node.  Members with metadata names go to its metadata, and a
`start` and an `end` that are both natural numbers become its span.
-/

namespace Reparse

namespace Ast

inductive DocumentError where
  | malformed
  | rootNotNode
  | kindNotString
deriving DecidableEq

def DocumentError.message : DocumentError → String
  | .malformed => "tree JSON is malformed: not a JSON text"
  | .rootNotNode => "tree root must be an object with a \"type\" key"
  | .kindNotString => "node \"type\" must be a string"

/-- The span that a `start` and an `end` give when both are natural numbers. -/
def spanOf? (members : List (String × Json)) : Option Span :=
  match Dictionary.find? members "start", Dictionary.find? members "end" with
  | some (.number start), some (.number stop) =>
      match start.natural?, stop.natural? with
      | some start, some stop => some ⟨start, stop⟩
      | _, _ => none
  | _, _ => none

def isStructural (span : Option Span) (name : String) : Bool :=
  name == "type" || (span.isSome && (name == "start" || name == "end"))

def Node.ofEntries (kind : String) (span : Option Span) (entries : List (String × Value)) : Node :=
  let kept := entries.filter fun entry => !isStructural span entry.1
  { kind := .ofName kind
    span := span
    fields := kept.filter fun entry => !isMetadataName entry.1
    metadata := kept.filter fun entry => isMetadataName entry.1 }

mutual

def Value.ofJson : Json → Except DocumentError Value
  | .null => .ok .null
  | .bool value => .ok (.bool value)
  | .number value => .ok (.number value.toBinary64)
  | .string value => .ok (.text value)
  | .array items => (itemsOfJson items).map .list
  | .object members =>
      match Dictionary.find? members "type" with
      | none => (entriesOfJson members).map .map
      | some (.string kind) =>
          (entriesOfJson members).map fun entries =>
            .node (.ofEntries kind (spanOf? members) entries)
      | some _ => .error .kindNotString

def itemsOfJson : List Json → Except DocumentError (List Value)
  | [] => .ok []
  | item :: rest =>
      match Value.ofJson item, itemsOfJson rest with
      | .error error, _ => .error error
      | .ok _, .error error => .error error
      | .ok item, .ok rest => .ok (item :: rest)

def entriesOfJson : List (String × Json) → Except DocumentError (List (String × Value))
  | [] => .ok []
  | (name, value) :: rest =>
      match Value.ofJson value, entriesOfJson rest with
      | .error error, _ => .error error
      | .ok _, .error error => .error error
      | .ok value, .ok rest => .ok ((name, value) :: rest)

end

def Node.ofJson (json : Json) : Except DocumentError Node :=
  if (json.member? "type").isSome then
    match Value.ofJson json with
    | .ok (.node node) => .ok node
    | .ok _ => .error .rootNotNode
    | .error error => .error error
  else
    .error .rootNotNode

def Node.parse (text : String) : Except DocumentError Node :=
  match Json.parse? text.toList with
  | some json => Node.ofJson json
  | none => .error .malformed

def headMembers (kind : Kind) (span : Option Span) : Dictionary Json :=
  Dictionary.ofList
    (("type", .string kind.name) ::
      match span with
      | none => []
      | some span =>
          [("start", .number (.integer span.start)), ("end", .number (.integer span.stop))])

mutual

/-- The JSON object of a node; of metadata and a field under one name the field stays. -/
def Node.toJson : Node → Json
  | ⟨kind, span, fields, metadata⟩ =>
      .object
        (Dictionary.insertAll (Dictionary.insertAll (headMembers kind span)
          (entriesToJson metadata))
          (entriesToJson fields))

def Value.toJson : Value → Json
  | .null => .null
  | .bool value => .bool value
  | .number value =>
      match JsonNumber.ofBinary64? value with
      | some number => .number number
      | none => .null
  | .text value => .string value
  | .list items => .array (itemsToJson items)
  | .map entries => .object (entriesToJson entries)
  | .node node => node.toJson

def itemsToJson : List Value → List Json
  | [] => []
  | item :: rest => item.toJson :: itemsToJson rest

def entriesToJson : List (String × Value) → List (String × Json)
  | [] => []
  | (name, value) :: rest => (name, value.toJson) :: entriesToJson rest

end

end Ast

end Reparse
