import ProtoSchema.FileTree.Basic
import ProtoSchema.Json.Reader
import ProtoSchema.Node.Reader

set_option autoImplicit false

namespace ProtoSchema

inductive Error where
  | notJson (fault : Json.Fault)
  | notSchema (cause : Node.Misfit)
  | unreadable (path : String) (cause : FileError)
  | unwritable (path : String) (cause : FileError)
  | missingType (field : String)
  | missingItems (field : String)
  | inlineObject (field : String)
  | missingMapValueType (field : String)
  | missingElementObjectType (field : String)
  | invalidEnumeration (field : String)
  | missingMessageName
  | missingTag (message field : String)
deriving DecidableEq, Repr

namespace Error

-- The cause on a line of its own, when there is one. The place and wording of a fault in a JSON
-- text are left to the reader of the text.
def cause? : Error → Option String
  | .notJson _ => some "<syntax>"
  | .notSchema cause => some cause.message
  | .unreadable _ cause => some cause.message
  | .unwritable _ cause => some cause.message
  | _ => none

def message : Error → String
  | .notJson _ => "failed to parse JSON: <syntax>"
  | .notSchema cause => "failed to parse JSON: " ++ cause.message
  | .unreadable path cause => "failed to read " ++ path ++ ": " ++ cause.message
  | .unwritable path cause => "failed to write " ++ path ++ ": " ++ cause.message
  | .missingType field => "field '" ++ field ++ "' has no type"
  | .missingItems field => "array field '" ++ field ++ "' has no items definition"
  | .inlineObject field =>
    "field '" ++ field ++ "' is an inline object (no object_type or additionalProperties); " ++
      "nested messages are not supported"
  | .missingMapValueType field => "map field '" ++ field ++ "' has no additionalProperties.type"
  | .missingElementObjectType field =>
    "array field '" ++ field ++ "' has object items without an object_type"
  | .invalidEnumeration field => "enum field '" ++ field ++ "' must list string literals"
  | .missingMessageName => "object schema has no protobuf_name"
  | .missingTag message field =>
    "field '" ++ field ++ "' in message '" ++ message ++ "' has no protobuf_sequence_number"

end Error

def Node.ofText (text : String) : Except Error Node :=
  match Json.read text with
  | .error fault => .error (.notJson fault)
  | .ok value => (Node.ofJson value).mapError Error.notSchema

def FileTree.readNode (tree : FileTree) (path : String) : Except Error Node :=
  match tree.readText path with
  | .error cause => .error (.unreadable path cause)
  | .ok text => Node.ofText text

end ProtoSchema
