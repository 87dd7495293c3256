import ProtoSchema.Name
import ProtoSchema.SortedMap

set_option autoImplicit false

namespace ProtoSchema

structure Imports where
  stem : String
  names : SortedMap Unit
deriving DecidableEq

namespace Imports

def empty (stem : String) : Imports := ⟨stem, .empty⟩

instance : Inhabited Imports := ⟨empty ""⟩

def nameOf (stem objectType : String) : String := stem ++ Name.snakeCase objectType

def add (imports : Imports) (name : String) : Imports :=
  { imports with names := imports.names.insert name () }

def addType (imports : Imports) (objectType : String) : Imports :=
  imports.add (nameOf imports.stem objectType)

def addTypes (imports : Imports) (objectTypes : List String) : Imports :=
  objectTypes.foldl addType imports

def size (imports : Imports) : Nat := imports.names.size

def isEmpty (imports : Imports) : Bool := imports.size == 0

def fileName (name : String) : String := name ++ ".proto"

-- The files in the order of their names without the ending.
def files (imports : Imports) : List String := imports.names.keys.map fileName

def cleared (imports : Imports) : Imports := empty imports.stem

end Imports

end ProtoSchema
