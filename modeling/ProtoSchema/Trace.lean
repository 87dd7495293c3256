import ProtoSchema.Generate

set_option autoImplicit false

namespace ProtoSchema

inductive Level where
  | error
  | warn
  | info
  | debug
  | trace
deriving DecidableEq, Repr

def Level.rank : Level → Nat
  | .error => 1
  | .warn => 2
  | .info => 3
  | .debug => 4
  | .trace => 5

def Level.name : Level → String
  | .error => "ERROR"
  | .warn => "WARN"
  | .info => "INFO"
  | .debug => "DEBUG"
  | .trace => "TRACE"

inductive Event where
  | referenceOverMap (field objectType : String)
  -- A name was noted for the first time; so many are noted now.
  | imported (count : Nat)
  | generated (field : Field)
  | listed (files : List String)
deriving DecidableEq, Repr

namespace Event

def level : Event → Level
  | .referenceOverMap _ _ => .warn
  | _ => .debug

def text : Event → String
  | .referenceOverMap field objectType =>
    "object field has both object_type and additionalProperties; treating as reference field=" ++
      Text.quoted field ++ " object_type=" ++ Text.quoted objectType
  | .imported count => "registered import count=" ++ Decimal.text count
  | .generated field =>
    "translated field field=" ++ Text.quoted field.name ++ " proto_type=" ++
      Text.quoted field.typeName ++ " tag=" ++
      (match field.tag with
        | some tag => "Some(" ++ Decimal.text tag.toNat ++ ")"
        | none => "None") ++
      " repeated=" ++ (if field.repeated then "true" else "false")
  | .listed files => "drained imports imports=" ++ Text.quotedList files

end Event

def Property.overrides (property : Property) : List Event :=
  match property.shape, property.node.additional with
  | .reference objectType, some _ => [.referenceOverMap property.name objectType]
  | _, _ => []

def Imports.additions (imports : Imports) (objectTypes : List String) : List Event :=
  match objectTypes with
  | [] => []
  | objectType :: others =>
    let next := imports.addType objectType
    (if next.size = imports.size then [] else [.imported next.size]) ++ next.additions others

def Property.events (options : Options) (imports : Imports) : List Property → List Event
  | [] => []
  | property :: others =>
    let references := property.reference?.toList
    property.overrides ++ imports.additions references ++
      .generated (property.field options) ::
        Property.events options (imports.addTypes references) others

-- What is told about the proto file of a document. The files are listed only when it succeeds.
def ProtoFile.events (options : Options) (root : Node) : List Event :=
  let imports := Imports.empty options.importStem
  if root.isObject then
    match root.messageName with
    | none => []
    | some _ =>
      let (properties, refusal) := Property.untilRefusal root.properties
      Property.events options imports properties ++
        match refusal with
        | some _ => []
        | none => [.listed (imports.addTypes root.references).files]
  else [.listed []]

end ProtoSchema
