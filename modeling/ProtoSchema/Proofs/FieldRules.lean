import ProtoSchema.Proofs.Shapes
import ProtoSchema.Session

set_option autoImplicit false

namespace ProtoSchema

def scalarTypes : List (String × String) := [
  ("array", "repeated"), ("object", "message"), ("integer", "uint32"), ("long", "uint64"),
  ("number", "int32"), ("string", "string"), ("boolean", "bool"), ("binary", "bytes")]

-- A name that the table does not list stays as it is.
def listedType (typeName : String) : String := (scalarTypes.lookup typeName).getD typeName

theorem proto_type_listed (typeName : String) : protoTypeName typeName = listedType typeName := by
  unfold protoTypeName
  split
  case h_9 =>
    have unlisted : scalarTypes.lookup typeName = none := by
      simp_all [scalarTypes, List.lookup_eq_none_iff]
    rw [listedType, unlisted, Option.getD_none]
  all_goals rfl

namespace Node

def valueTypeName (node : Node) : Option String := do
  (← (← node.additional).member? "type").string?

-- The type of a field that is not a list: a map of values, a message type, an enumeration that is
-- named for the field, or what the table of scalar types says.
def ruledType (name : String) (node : Node) : String :=
  if node.typeName = some "object" ∧ node.objectType = none ∧ node.additional ≠ none then
    "map<string, " ++ node.valueTypeName.getD "" ++ ">"
  else if node.typeName = some "object" ∧ node.objectType ≠ none then node.objectType.getD ""
  else if node.typeName = some "atom" ∧ node.enumeration ≠ none then Name.camelCase name
  else listedType (node.typeName.getD "")

def ruledElementType (options : Options) (items : Node) : String :=
  if items.typeName = some "object" then items.objectType.getD ""
  else if options.mapElementTypes then listedType (items.typeName.getD "")
  else items.typeName.getD ""

def ruledField (options : Options) (name : String) (node : Node) : Field :=
  let field : Field :=
    { name, typeName := node.ruledType name, tag := node.tag, repeated := false, required := false }
  if node.typeName = some "array" then
    { field with repeated := true, typeName := (node.items.getD {}).ruledElementType options }
  else field

end Node

def Imports.addReference (imports : Imports) : Option String → Imports
  | none => imports
  | some objectType => imports.add (imports.stem ++ Name.snakeCase objectType)

namespace Node.Shaped

variable {node : Node} {shape : Shape}

theorem ruled_field (shaped : node.Shaped shape) (options : Options) (name : String) :
    Property.field options ⟨name, node, shape⟩ = node.ruledField options name := by
  unfold ruledField ruledType Property.field
  cases shaped with
  | scalar typeName typed notObject notArray notAtom =>
      simp [typed, notObject, notArray, notAtom, Shape.protoType, Shape.isList, proto_type_listed]
  | reference objectType object named => simp [object, named, Shape.protoType, Shape.isList]
  | map additional valueType object unnamed present typed =>
      have named : node.valueTypeName = some valueType := by
        simpa [valueTypeName, present] using typed
      simp [object, unnamed, present, named, Shape.protoType, Shape.isList]
  | objects items objectType array present object named =>
      simp [array, present, object, named, ruledElementType, Shape.protoType, Element.protoType,
        Shape.isList]
  | others items typeName array present typed notObject =>
      simp [array, present, typed, notObject, ruledElementType, Shape.protoType, Element.protoType,
        Shape.isList, proto_type_listed]
  | enumeration value literals atom present listed =>
      simp [atom, present, Shape.protoType, Shape.isList]
  | atom atom unlisted =>
      simp [atom, unlisted, Shape.protoType, Shape.isList, proto_type_listed]

end Node.Shaped

namespace Imports

theorem add_types_reference (imports : Imports) (reference : Option String) :
    imports.addTypes reference.toList = imports.addReference reference := by
  cases reference <;> rfl

theorem answer_field_ok {node : Node} {shape : Shape} (shaped : node.Shaped shape)
    (options : Options) (imports : Imports) (name : String) :
    imports.answer options (.field name node) =
      (imports.addReference node.ruledReference, .field (.ok (node.ruledField options name))) := by
  have made := (Shape.of_node_eq_ok_iff name node shape).mpr shaped
  simp only [answer, Property.ofNode, made, Except.map, Property.reference?,
    shaped.ruled_reference, shaped.ruled_field, add_types_reference]

theorem answer_field_error {name : String} {node : Node} {e : Error} (refused : node.Refused name e)
    (options : Options) (imports : Imports) :
    imports.answer options (.field name node) = (imports, .field (.error e)) := by
  have failed := (Shape.of_node_eq_error_iff name node e).mpr refused
  simp only [answer, Property.ofNode, failed, Except.map]

end Imports

theorem field_follows_rules (options : Options) (imports : Imports) (name : String) (node : Node) :
    (∀ next e, imports.answer options (.field name node) = (next, .field (.error e)) ↔
        node.Refused name e ∧ next = imports) ∧
      ((∀ e, ¬ node.Refused name e) →
        imports.answer options (.field name node) =
          (imports.addReference node.ruledReference,
            .field (.ok (node.ruledField options name)))) := by
  cases made : Shape.ofNode name node with
  | ok shape =>
      have shaped := (Shape.of_node_eq_ok_iff name node shape).mp made
      simp [Imports.answer_field_ok shaped, ← Shape.of_node_eq_error_iff, made]
  | error own =>
      have refused := (Shape.of_node_eq_error_iff name node own).mp made
      simp [Imports.answer_field_error refused, ← Shape.of_node_eq_error_iff, made, and_comm,
        eq_comm]

-- An object that names a message type and speaks of values, with literals and elements besides.
def crossedNode : Node where
  typeName := some "object"
  items := some { typeName := some "object", objectType := some "Room" }
  enumeration := some (.array [.string "X"])
  objectType := some "HomeAddress"
  additional := some (.object [("type", .string "string")])
  tag := some 4

theorem crossed_node_refers :
    (∀ e, ¬ crossedNode.Refused "home" e) ∧
      (Imports.empty "p_").answer {} (.field "home" crossedNode) =
        ((Imports.empty "p_").add "p_home_address",
          .field (.ok ⟨"home", "HomeAddress", some 4, false, false⟩)) := by
  have fit (e : Error) : ¬ crossedNode.Refused "home" e := by
    intro refused
    cases refused <;> simp_all [crossedNode]
  refine ⟨fit, ((field_follows_rules {} (Imports.empty "p_") "home" crossedNode).2 fit).trans ?_⟩
  rfl

end ProtoSchema
