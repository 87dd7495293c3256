import ProtoSchema.Name
import ProtoSchema.SortedMap

set_option autoImplicit false

namespace ProtoSchema

structure Field where
  name : String
  typeName : String
  tag : Option UInt32
  repeated : Bool
  required : Bool
deriving DecidableEq, Repr, Inhabited

structure EnumType where
  name : String
  values : SortedMap UInt32
deriving DecidableEq, Inhabited

structure Message where
  name : String
  fields : List Field
  enums : List EnumType
  messages : List Message
deriving Inhabited

structure ProtoFile where
  version : UInt32
  package : String
  imports : List String
  enums : List EnumType
  messages : List Message
  options : SortedMap String
  extensions : List Message

namespace EnumType

-- The enumeration of a field: each literal has its place in the list as ordinal, and a literal that
-- is listed again the last of its places.
def ofLiterals (field : String) (literals : List String) : EnumType where
  name := Name.camelCase field
  values := .ofList (literals.zipIdx.map fun (literal, place) => (literal, UInt32.ofNat place))

-- The literals in the order of their ordinals; equal ordinals are in the order of the literals.
def byOrdinal (e : EnumType) : List (String × UInt32) :=
  e.values.entries.mergeSort fun a b => a.2 ≤ b.2

end EnumType

namespace ProtoFile

def empty (package : String) : ProtoFile where
  version := 3
  package := package
  imports := []
  enums := []
  messages := []
  options := .empty
  extensions := []

def umbrella (imports : List String) (package : String) : ProtoFile :=
  { empty package with imports }

end ProtoFile

end ProtoSchema
