import ProtoSchema.Text.Pieces
import ProtoSchema.Text.Uppercase

set_option autoImplicit false

namespace ProtoSchema.Name

def startWord (c : Char) : List Char :=
  if c.isUpper then ['_', c.toLower] else [c]

-- A capital at the very start gets no underscore.
def snakeChars : List Char → List Char
  | [] => []
  | c :: rest => c.toLower :: rest.flatMap startWord

def snakeCase (name : String) : String := String.ofList (snakeChars name.toList)

def capitalize : List Char → List Char
  | [] => []
  | c :: rest => Text.upper c ++ rest

def camelChars (name : List Char) : List Char := (Text.pieces '_' name).flatMap capitalize

def camelCase (name : String) : String := String.ofList (camelChars name.toList)

end ProtoSchema.Name
