import Mathlib.Data.List.Forall2
import ProtoSchema.Generate

set_option autoImplicit false

namespace ProtoSchema

def Json.valueType? (additional : Json) : Option String :=
  (additional.member? "type").bind Json.string?

-- Two properties with the same type and number that agree on what the type uses. A type outside the
-- list uses nothing.
structure Node.SameInUse (a b : Node) : Prop where
  typeName : a.typeName = b.typeName
  tag : a.tag = b.tag
  atom : a.typeName = some "atom" → a.enumeration = b.enumeration
  object : a.typeName = some "object" → a.objectType = b.objectType
  map : a.typeName = some "object" → a.objectType = none →
    a.additional.map Json.valueType? = b.additional.map Json.valueType?
  array : a.typeName = some "array" →
    a.items.map (fun items => (items.typeName, items.objectType)) =
      b.items.map fun items => (items.typeName, items.objectType)

theorem Element.of_node_same (field : String) {a b : Node} (typeName : a.typeName = b.typeName)
    (objectType : a.objectType = b.objectType) : ofNode field a = ofNode field b := by
  unfold ofNode
  rw [typeName, objectType]

namespace Shape

theorem of_object_same (field : String) {a b : Node} (objectType : a.objectType = b.objectType)
    (map : a.objectType = none →
      a.additional.map Json.valueType? = b.additional.map Json.valueType?) :
    ofObject field a = ofObject field b := by
  unfold ofObject
  rw [← objectType]
  cases named : a.objectType with
  | some objectType => rfl
  | none =>
      have values := map named
      cases present : a.additional <;> cases other : b.additional <;> simp_all [Json.valueType?]

theorem of_array_same (field : String) {a b : Node}
    (items : a.items.map (fun items => (items.typeName, items.objectType)) =
      b.items.map fun items => (items.typeName, items.objectType)) :
    ofArray field a = ofArray field b := by
  unfold ofArray
  cases present : a.items with
  | none =>
      cases other : b.items with
      | none => rfl
      | some others => simp [present, other] at items
  | some own =>
      cases other : b.items with
      | none => simp [present, other] at items
      | some others =>
          obtain ⟨typeName, objectType⟩ : own.typeName = others.typeName ∧
              own.objectType = others.objectType := by simpa [present, other] using items
          simp only [Element.of_node_same field typeName objectType]

theorem of_atom_same (field : String) {a b : Node} (enumeration : a.enumeration = b.enumeration) :
    ofAtom field a = ofAtom field b := by
  unfold ofAtom
  rw [enumeration]

theorem of_node_same (field : String) {a b : Node} (same : a.SameInUse b) :
    ofNode field a = ofNode field b := by
  unfold ofNode
  rw [← same.typeName]
  split
  · rfl
  · rename_i object
    exact of_object_same field (same.object object) (same.map object)
  · rename_i array
    exact of_array_same field (same.array array)
  · rename_i atom
    exact of_atom_same field (same.atom atom)
  · rfl

end Shape

namespace Property

def bare (property : Property) : Property :=
  { property with node := { tag := property.node.tag } }

theorem field_bare (options : Options) (property : Property) :
    property.bare.field options = property.field options := rfl

theorem enum_type_bare (property : Property) : property.bare.enumType? = property.enumType? := rfl

theorem reference_bare (property : Property) : property.bare.reference? = property.reference? := rfl

def SameInUse (a b : String × Node) : Prop := a.1 = b.1 ∧ a.2.SameInUse b.2

theorem until_refusal_same {a b : List (String × Node)} (same : List.Forall₂ SameInUse a b) :
    (untilRefusal a).1.map bare = (untilRefusal b).1.map bare ∧
      (untilRefusal a).2 = (untilRefusal b).2 := by
  induction same with
  | nil => exact ⟨rfl, rfl⟩
  | @cons x y _ _ first _ ih =>
      obtain ⟨name, node⟩ := x
      obtain ⟨_, other⟩ := y
      obtain ⟨rfl, attributes⟩ := first
      have shapes := Shape.of_node_same name attributes
      cases shaped : Shape.ofNode name node with
      | error e =>
          rw [shaped] at shapes
          simp [untilRefusal, ofNode, shaped, ← shapes, Except.map]
      | ok shape =>
          rw [shaped] at shapes
          obtain ⟨accepted, refusal⟩ := ih
          simp only [untilRefusal, ofNode, shaped, ← shapes, Except.map, List.map_cons, accepted]
          exact ⟨congrArg (fun tag => (⟨name, { tag }, shape⟩ : Property) :: _) attributes.tag,
            refusal⟩

end Property

namespace Message

theorem of_properties_bare (options : Options) (name : String) (required : List String)
    (properties : List Property) :
    ofProperties options name required (properties.map Property.bare) =
      ofProperties options name required properties := by
  simp only [ofProperties, List.map_map, List.filterMap_map, Function.comp_def,
    Property.field_bare, Property.enum_type_bare]

theorem of_node_pass (options : Options) (node : Node) :
    ofNode options node =
      match node.messageName, (Property.untilRefusal node.properties).2 with
      | none, _ => .error .missingMessageName
      | some _, some refusal => .error refusal
      | some name, none => .ok
          (ofProperties options name node.required (Property.untilRefusal node.properties).1) := by
  unfold ofNode
  cases node.messageName with
  | none => rfl
  | some name => rcases Property.untilRefusal node.properties with ⟨accepted, _ | refusal⟩ <;> rfl

theorem of_node_same (options : Options) {a b : Node} (names : a.messageName = b.messageName)
    (required : a.required = b.required)
    (properties : List.Forall₂ Property.SameInUse a.properties b.properties) :
    ofNode options a = ofNode options b := by
  obtain ⟨accepted, refusals⟩ := Property.until_refusal_same properties
  have made (name : String) := congrArg (ofProperties options name b.required) accepted
  simp only [of_properties_bare] at made
  simp only [of_node_pass, names, required, refusals, made]

end Message

theorem Node.references_same {a b : Node} (names : a.messageName = b.messageName)
    (properties : List.Forall₂ Property.SameInUse a.properties b.properties) :
    a.references = b.references := by
  obtain ⟨accepted, _⟩ := Property.until_refusal_same properties
  have referred := congrArg (List.filterMap Property.reference?) accepted
  simp only [List.filterMap_map, Function.comp_def, Property.reference_bare] at referred
  simp only [references, names, referred]

theorem unused_attributes_ignored (options : Options) (package : String) (a b : Node)
    (aObject : a.typeName = some "object") (bObject : b.typeName = some "object")
    (names : a.messageName = b.messageName) (required : a.required = b.required)
    (properties : List.Forall₂ Property.SameInUse a.properties b.properties) :
    ProtoFile.ofNode options package a = ProtoFile.ofNode options package b := by
  simp only [ProtoFile.ofNode, Node.isObject, aObject, bObject,
    Message.of_node_same options names required properties, Node.references_same names properties]

def tidyNode : Node where
  typeName := some "object"
  messageName := some "Mixed"
  required := ["id"]
  properties := [
    ("kind", { typeName := some "atom", enumeration := some (.array [.string "X"]) }),
    ("home", { typeName := some "object", objectType := some "Home" }),
    ("labels", {
      typeName := some "object"
      additional := some (.object [("type", .string "string")]) }),
    ("sizes", { typeName := some "array", items := some { typeName := some "integer" } }),
    ("id", { typeName := some "string", tag := some 1 })]

def clutteredNode : Node where
  typeName := some "object"
  messageName := some "Mixed"
  required := ["id"]
  objectType := some "Own"
  items := some {}
  tag := some 7
  properties := [
    ("kind", {
      typeName := some "atom"
      enumeration := some (.array [.string "X"])
      objectType := some "Kind"
      additional := some .null
      messageName := some "Kind" }),
    ("home", {
      typeName := some "object"
      objectType := some "Home"
      additional := some (.bool true)
      properties := [("street", {})] }),
    ("labels", {
      typeName := some "object"
      enumeration := some (.int 0)
      additional := some (.object [("items", .null), ("type", .string "string")]) }),
    ("sizes", {
      typeName := some "array"
      objectType := some "Size"
      items := some { typeName := some "integer", enumeration := some (.array []), tag := some 2 } }),
    ("id", {
      typeName := some "string"
      tag := some 1
      enumeration := some (.array [.int 1])
      objectType := some "Id"
      items := some { objectType := some "Id" }
      required := ["id"] })]

theorem cluttered_node_file :
    ProtoFile.ofNode {} "p" tidyNode = ProtoFile.ofNode {} "p" clutteredNode ∧
      ∃ file, ProtoFile.ofNode {} "p" clutteredNode = .ok file ∧
        file.imports = ["ipersist_home.proto"] := by
  refine ⟨unused_attributes_ignored {} "p" tidyNode clutteredNode rfl rfl rfl rfl ?_, _, rfl,
    by decide⟩
  refine .cons ⟨rfl, ?_⟩ (.cons ⟨rfl, ?_⟩ (.cons ⟨rfl, ?_⟩ (.cons ⟨rfl, ?_⟩ (.cons ⟨rfl, ?_⟩ .nil))))
  all_goals constructor <;> simp [Json.valueType?, Json.member?, Json.string?, List.lookup_cons]

end ProtoSchema
