import ProtoSchema.Json.Basic

set_option autoImplicit false

namespace ProtoSchema

structure Node where
  typeName : Option String := none
  properties : List (String × Node) := []
  items : Option Node := none
  -- Any value; only an enumeration needs a list of texts here.
  enumeration : Option Json := none
  objectType : Option String := none
  additional : Option Json := none
  required : List String := []
  tag : Option UInt32 := none
  messageName : Option String := none
deriving Inhabited, Repr

namespace Node

def empty : Node := {}

def isObject (node : Node) : Bool := node.typeName == some "object"

inductive Plain where
  | typeName
  | enumeration
  | objectType
  | additional
  | required
  | tag
  | messageName
deriving DecidableEq, Repr

inductive Attribute where
  | plain (slot : Plain)
  | properties
  | items
deriving DecidableEq, Repr

namespace Attribute

def key : Attribute → String
  | .plain .typeName => "type"
  | .properties => "properties"
  | .items => "items"
  | .plain .enumeration => "enum"
  | .plain .objectType => "object_type"
  | .plain .additional => "additionalProperties"
  | .plain .required => "required"
  | .plain .tag => "protobuf_sequence_number"
  | .plain .messageName => "protobuf_name"

-- All attributes in the order in which a list of values gives them.
def all : List Attribute :=
  [.plain .typeName, .properties, .items, .plain .enumeration, .plain .objectType,
    .plain .additional, .plain .required, .plain .tag, .plain .messageName]

def ofKey? (key : String) : Option Attribute := all.find? (·.key == key)

theorem of_key_key (a : Attribute) : ofKey? a.key = some a := by
  cases a with
  | plain slot => cases slot <;> decide
  | properties => decide
  | items => decide

theorem key_of_found {key : String} {a : Attribute}
    (found : ofKey? key = some a) : a.key = key := by
  simpa using List.find?_some found

end Attribute

end Node

end ProtoSchema
