import Reparse.Ast.Kind
import Reparse.Binary64.Basic
import Reparse.Dictionary

namespace Reparse

namespace Ast

structure Span where
  start : Nat
  stop : Nat
deriving DecidableEq, Inhabited

def metadataNames : List String :=
  ["start", "end", "extra", "loc", "leadingComments", "trailingComments", "innerComments",
    "comments"]

def isMetadataName (name : String) : Bool :=
  metadataNames.contains name

mutual

/-- A tree whose root has a kind.  The fields hold its meaning, the metadata its circumstances. -/
structure Node where
  kind : Kind
  span : Option Span
  fields : List (String × Value)
  metadata : List (String × Value)

inductive Value where
  | null
  | bool (value : Bool)
  | number (value : Binary64)
  | text (value : String)
  | list (items : List Value)
  | map (entries : List (String × Value))
  | node (node : Node)

end

namespace Value

instance : Inhabited Value := ⟨.null⟩

def node? : Value → Option Node
  | .node inner => some inner
  | _ => none

def text? : Value → Option String
  | .text content => some content
  | _ => none

def bool? : Value → Option Bool
  | .bool value => some value
  | _ => none

def number? : Value → Option Binary64
  | .number value => some value
  | _ => none

def list? : Value → Option (List Value)
  | .list items => some items
  | _ => none

end Value

namespace Node

instance : Inhabited Node := ⟨⟨default, none, [], []⟩⟩

def bare (kind : Kind) : Node :=
  ⟨kind, none, [], []⟩

def withField (node : Node) (name : String) (value : Value) : Node :=
  { node with fields := Dictionary.insert node.fields name value }

def withMetadata (node : Node) (name : String) (value : Value) : Node :=
  { node with metadata := Dictionary.insert node.metadata name value }

def withSpan (node : Node) (start stop : Nat) : Node :=
  { node with span := some ⟨start, stop⟩ }

def field? (node : Node) (name : String) : Option Value :=
  Dictionary.find? node.fields name

def fieldNode? (node : Node) (name : String) : Option Node :=
  node.field? name >>= Value.node?

def flag (node : Node) (name : String) : Bool :=
  (node.field? name >>= Value.bool?).getD false

end Node

mutual

def Node.height : Node → Nat
  | ⟨_, _, fields, _⟩ => entriesHeight fields + 1

def Value.height : Value → Nat
  | .list items => itemsHeight items + 1
  | .map entries => entriesHeight entries + 1
  | .node node => node.height + 1
  | _ => 1

def itemsHeight : List Value → Nat
  | [] => 0
  | item :: rest => max item.height (itemsHeight rest)

def entriesHeight : List (String × Value) → Nat
  | [] => 0
  | (_, value) :: rest => max value.height (entriesHeight rest)

end

mutual

/-- Equality of trees, positions and metadata included; numbers compare as numbers. -/
def Node.equal : Node → Node → Bool
  | ⟨kind, span, fields, metadata⟩, ⟨kind', span', fields', metadata'⟩ =>
      kind == kind' && span == span' && entriesEqual fields fields' &&
        entriesEqual metadata metadata'

def Value.equal : Value → Value → Bool
  | .null, .null => true
  | .bool left, .bool right => left == right
  | .number left, .number right => left.equal right
  | .text left, .text right => left == right
  | .list left, .list right => itemsEqual left right
  | .map left, .map right => entriesEqual left right
  | .node left, .node right => left.equal right
  | _, _ => false

def itemsEqual : List Value → List Value → Bool
  | [], [] => true
  | left :: lefts, right :: rights => left.equal right && itemsEqual lefts rights
  | _, _ => false

def entriesEqual : List (String × Value) → List (String × Value) → Bool
  | [], [] => true
  | (name, left) :: lefts, (name', right) :: rights =>
      name == name' && left.equal right && entriesEqual lefts rights
  | _, _ => false

end

end Ast

end Reparse
