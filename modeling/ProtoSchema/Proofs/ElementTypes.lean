import ProtoSchema.Proofs.FieldOrigins

set_option autoImplicit false

namespace ProtoSchema

def Node.listsOthers (node : Node) : Bool :=
  node.typeName == some "array" && node.items.any (·.typeName != some "object")

-- The field of a property as it is when the types of list elements are looked up in the table.
def Field.lookedUp (origin : String × Node) (field : Field) : Field :=
  if origin.2.listsOthers then { field with typeName := protoTypeName field.typeName } else field

def Shape.listsOthers : Shape → Bool
  | .list (.other _ _) => true
  | _ => false

theorem Node.Shaped.lists_others {node : Node} {shape : Shape} (shaped : node.Shaped shape) :
    node.listsOthers = shape.listsOthers := by
  unfold listsOthers
  cases shaped with
  | scalar typeName typed notObject notArray notAtom => simp [typed, notArray, Shape.listsOthers]
  | reference objectType object named => simp [object, Shape.listsOthers]
  | map additional valueType object unnamed present typed => simp [object, Shape.listsOthers]
  | objects items objectType array present object named =>
      simp [array, present, object, Shape.listsOthers]
  | others items typeName array present typed notObject =>
      simp [array, present, typed, notObject, Shape.listsOthers]
  | enumeration value literals atom present listed => simp [atom, Shape.listsOthers]
  | atom atom unlisted => simp [atom, Shape.listsOthers]

theorem Property.field_looked_up (options : Options) {property : Property}
    (shaped : property.node.Shaped property.shape) :
    property.field { options with mapElementTypes := true } =
      (property.field { options with mapElementTypes := false }).lookedUp property.origin := by
  have others := shaped.lists_others
  rcases property with ⟨name, node, _ | _ | _ | ⟨_ | _⟩ | _ | _⟩
  all_goals
    have known : node.listsOthers = _ := others
    simp only [Field.lookedUp, origin, known]
    rfl

theorem Field.looked_up_marked (origin : String × Node) (required : List String) (field : Field) :
    (field.lookedUp origin).markRequired required =
      (field.markRequired required).lookedUp origin := by
  unfold lookedUp
  split <;> rfl

structure Message.DiffersInElements (options : Options) (root : Node) (plain mapped : Message) :
    Prop where
  others : mapped = { plain with fields := mapped.fields }
  fields : ∃ origins, origins.Perm root.properties ∧
    List.Forall₂ (FieldOf options root.required) origins plain.fields ∧
    mapped.fields = List.zipWith Field.lookedUp origins plain.fields

structure ProtoFile.DiffersInElements (options : Options) (root : Node) (plain mapped : ProtoFile) :
    Prop where
  others : mapped = { plain with messages := mapped.messages }
  messages : List.Forall₂ (Message.DiffersInElements options root) plain.messages mapped.messages

theorem Message.elements_differ (options : Options) (name : String) {root : Node}
    {properties : List Property}
    (attempted : root.properties.mapM Property.attempt = .ok properties) :
    DiffersInElements { options with mapElementTypes := false } root
      (ofProperties { options with mapElementTypes := false } name root.required properties)
      (ofProperties { options with mapElementTypes := true } name root.required properties) where
  others := rfl
  fields := by
    obtain ⟨ordered, permuted, origins, fields⟩ := fields_in_order name attempted
    have shaped (property : Property) (member : property ∈ ordered) :
        property.node.Shaped property.shape :=
      Property.shaped_of_made attempted (permuted.mem_iff.mp member)
    refine ⟨ordered.map Property.origin, origins, ?_, ?_⟩
    · rw [fields]
      exact Property.related_to_fields fun property member =>
        Property.field_of_shaped _ _ (shaped property member)
    · rw [fields, fields, List.zipWith_map, List.zipWith_self]
      refine List.map_congr_left fun property member => ?_
      rw [Property.field_looked_up options (shaped property member), Field.looked_up_marked]

theorem element_types_alone_looked_up (options : Options) (package : String) (root : Node) :
    (∃ e, ProtoFile.ofNode { options with mapElementTypes := true } package root = .error e ∧
        ProtoFile.ofNode { options with mapElementTypes := false } package root = .error e) ∨
      ∃ mapped plain,
        ProtoFile.ofNode { options with mapElementTypes := true } package root = .ok mapped ∧
        ProtoFile.ofNode { options with mapElementTypes := false } package root = .ok plain ∧
        plain.DiffersInElements { options with mapElementTypes := false } root mapped := by
  cases object : root.isObject with
  | false =>
      refine .inr ⟨.empty package, .empty package, ?_, ?_, rfl, .nil⟩ <;>
        simp [ProtoFile.ofNode, object]
  | true =>
      simp only [ProtoFile.ofNode, object, if_true, Message.of_node_eq]
      cases named : root.messageName with
      | none => exact .inl ⟨_, rfl, rfl⟩
      | some name =>
          cases attempted : root.properties.mapM Property.attempt with
          | error e => exact .inl ⟨e, rfl, rfl⟩
          | ok properties =>
              have differ := Message.elements_differ options name attempted
              exact .inr ⟨_, _, rfl, rfl, rfl, .cons differ .nil⟩

end ProtoSchema
