import ProtoSchema.Decimal.Binary64

set_option autoImplicit false

namespace ProtoSchema

inductive Json where
  | null
  | bool (value : Bool)
  | int (value : Int)
  | float (value : Decimal.Binary64)
  | string (value : String)
  | array (elements : List Json)
  | object (members : List (String × Json))
deriving Inhabited, Repr, BEq

namespace Json

-- An earlier member of the name gets the value in its place, and a new name comes last.
def setMember (key : String) (value : Json) : List (String × Json) → List (String × Json)
  | [] => [(key, value)]
  | (k, v) :: rest =>
    if k = key then (k, value) :: rest else (k, v) :: setMember key value rest

def member? (key : String) : Json → Option Json
  | .object members => members.lookup key
  | _ => none

def string? : Json → Option String
  | .string s => some s
  | _ => none

def elements? : Json → Option (List Json)
  | .array elements => some elements
  | _ => none

def isNull : Json → Bool
  | .null => true
  | _ => false

end Json

end ProtoSchema
