import ProtoSchema.Imports
import ProtoSchema.Proto.Text
import ProtoSchema.Shape

set_option autoImplicit false

namespace ProtoSchema

def Options.defaultStem : String := "ipersist_"

structure Options where
  importStem : String := Options.defaultStem
  mapElementTypes : Bool := false
deriving DecidableEq, Repr

-- The table of scalar types. The two words for lists and objects only mark that their types come
-- from elsewhere; a name outside the table is its own type.
def protoTypeName (typeName : String) : String :=
  match typeName with
  | "array" => "repeated"
  | "object" => "message"
  | "integer" => "uint32"
  | "long" => "uint64"
  | "number" => "int32"
  | "string" => "string"
  | "boolean" => "bool"
  | "binary" => "bytes"
  | other => other

def Element.protoType (options : Options) : Element → String
  | .object objectType => objectType
  | .other typeName _ => if options.mapElementTypes then protoTypeName typeName else typeName

def Shape.protoType (options : Options) (name : String) : Shape → String
  | .scalar typeName => protoTypeName typeName
  | .reference objectType => objectType
  | .map valueType => "map<string, " ++ valueType ++ ">"
  | .list element => element.protoType options
  | .enumeration _ => Name.camelCase name
  | .atom => protoTypeName "atom"

structure Property where
  name : String
  node : Node
  shape : Shape

namespace Property

def ofNode (name : String) (node : Node) : Except Error Property :=
  (Shape.ofNode name node).map fun shape => ⟨name, node, shape⟩

def untilRefusal : List (String × Node) → List Property × Option Error
  | [] => ([], none)
  | (name, node) :: rest =>
    match ofNode name node with
    | .error refusal => ([], some refusal)
    | .ok property =>
      let (others, refusal) := untilRefusal rest
      (property :: others, refusal)

def field (options : Options) (property : Property) : Field where
  name := property.name
  typeName := property.shape.protoType options property.name
  tag := property.node.tag
  repeated := property.shape.isList
  required := false

def enumType? (property : Property) : Option EnumType :=
  property.shape.literals?.map (EnumType.ofLiterals property.name)

def reference? (property : Property) : Option String := property.shape.reference?

end Property

def Field.notAfter (a b : Field) : Bool :=
  match a.tag, b.tag with
  | none, _ => true
  | some _, none => false
  | some m, some n => m ≤ n

def Field.markRequired (required : List String) (field : Field) : Field :=
  { field with required := required.contains field.name }

def Field.ofNode (options : Options) (name : String) (node : Node) : Except Error Field :=
  (Property.ofNode name node).map (·.field options)

namespace Message

def ofProperties (options : Options) (name : String) (required : List String)
    (properties : List Property) : Message where
  name := name
  fields := ((properties.map (·.field options)).mergeSort Field.notAfter).map
    (Field.markRequired required)
  enums := properties.filterMap (·.enumType?)
  messages := []

def ofNode (options : Options) (node : Node) : Except Error Message :=
  match node.messageName with
  | none => .error .missingMessageName
  | some name =>
    match Property.untilRefusal node.properties with
    | (_, some refusal) => .error refusal
    | (properties, none) => .ok (ofProperties options name node.required properties)

end Message

-- The message types that an object refers to, up to the first property that has no shape. An object
-- without a name is not looked into.
def Node.references (node : Node) : List String :=
  match node.messageName with
  | none => []
  | some _ => (Property.untilRefusal node.properties).1.filterMap (·.reference?)

def ProtoFile.ofNode (options : Options) (package : String) (root : Node) :
    Except Error ProtoFile :=
  if root.isObject then
    (Message.ofNode options root).map fun message =>
      { empty package with
        imports := ((Imports.empty options.importStem).addTypes root.references).files
        messages := [message] }
  else .ok (empty package)

def Node.protoText (options : Options) (package : String) (root : Node) : Except Error String := do
  (← ProtoFile.ofNode options package root).text

def Json.protoText (options : Options) (package : String) (value : Json) : Except Error String := do
  (← (Node.ofJson value).mapError Error.notSchema).protoText options package

end ProtoSchema
