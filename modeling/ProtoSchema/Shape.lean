import ProtoSchema.Error

set_option autoImplicit false

namespace ProtoSchema

inductive Element where
  | object (objectType : String)
  -- Elements of any other type, which may still name a message type.
  | other (typeName : String) (objectType : Option String)
deriving DecidableEq, Repr

inductive Shape where
  | scalar (typeName : String)
  | reference (objectType : String)
  | map (valueType : String)
  | list (element : Element)
  | enumeration (literals : List String)
  | atom
deriving DecidableEq, Repr

def literals? (value : Json) : Option (List String) := do
  (← value.elements?).mapM Json.string?

namespace Element

def ofNode (field : String) (node : Node) : Except Error Element :=
  match node.typeName with
  | none => .error (.missingType (field ++ ".items"))
  | some "object" =>
    match node.objectType with
    | some objectType => .ok (.object objectType)
    | none => .error (.missingElementObjectType field)
  | some typeName => .ok (.other typeName node.objectType)

end Element

namespace Shape

-- An object refers to a message type; one that names none is a map.
def ofObject (field : String) (node : Node) : Except Error Shape :=
  match node.objectType, node.additional with
  | some objectType, _ => .ok (.reference objectType)
  | none, some additional =>
    match (additional.member? "type").bind Json.string? with
    | some valueType => .ok (.map valueType)
    | none => .error (.missingMapValueType field)
  | none, none => .error (.inlineObject field)

def ofArray (field : String) (node : Node) : Except Error Shape :=
  match node.items with
  | some items => (Element.ofNode field items).map .list
  | none => .error (.missingItems field)

def ofAtom (field : String) (node : Node) : Except Error Shape :=
  match node.enumeration with
  | none => .ok .atom
  | some value =>
    match literals? value with
    | some literals => .ok (.enumeration literals)
    | none => .error (.invalidEnumeration field)

def ofNode (field : String) (node : Node) : Except Error Shape :=
  match node.typeName with
  | none => .error (.missingType field)
  | some "object" => ofObject field node
  | some "array" => ofArray field node
  | some "atom" => ofAtom field node
  | some typeName => .ok (.scalar typeName)

def reference? : Shape → Option String
  | .reference objectType => some objectType
  | .list (.object objectType) => some objectType
  | .list (.other _ objectType) => objectType
  | _ => none

def literals? : Shape → Option (List String)
  | .enumeration literals => some literals
  | _ => none

def isList : Shape → Bool
  | .list _ => true
  | _ => false

end Shape

end ProtoSchema
