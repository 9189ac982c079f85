import Reparse.Binary64.Nearest
import Reparse.Dictionary

namespace Reparse

/-- A JSON number: an integer of at most sixty-four bits, or a double. -/
inductive JsonNumber where
  | integer (value : Int)
  | float (value : Binary64)
deriving DecidableEq

inductive Json where
  | null
  | bool (value : Bool)
  | number (value : JsonNumber)
  | string (value : String)
  | array (items : List Json)
  | object (members : List (String × Json))

namespace JsonNumber

def toBinary64 : JsonNumber → Binary64
  | .integer value => .ofInt value
  | .float value => value

def natural? : JsonNumber → Option Nat
  | .integer (.ofNat value) => some value
  | _ => none

/-- The JSON form of a double: an integer when it is a small one; NaN and infinities have none. -/
def ofBinary64? (x : Binary64) : Option JsonNumber :=
  match x.smallInteger? with
  | some value => some (.integer value)
  | none => if x.isFinite then some (.float x) else none

end JsonNumber

namespace Json

instance : Inhabited Json := ⟨.null⟩

def member? (json : Json) (name : String) : Option Json :=
  match json with
  | .object members => Dictionary.find? members name
  | _ => none

def ofMembers (members : List (String × Json)) : Json :=
  .object (Dictionary.ofList members)

end Json

end Reparse
