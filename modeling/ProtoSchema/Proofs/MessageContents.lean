import ProtoSchema.Proofs.FieldOrder
import ProtoSchema.Proofs.Properties

set_option autoImplicit false

namespace ProtoSchema

def Field.unmarked (field : Field) : Field := { field with required := false }

theorem Field.mark_required_iff (required : List String) (field : Field) :
    (field.markRequired required).required = true ↔ field.name ∈ required := by
  simp [markRequired]

def Translates (options : Options) (property : String × Node) (field : Field) : Prop :=
  ∀ imports : Imports,
    (imports.answer options (.field property.1 property.2)).2 = .field (.ok field)

def enumOf (property : String × Node) : Option EnumType :=
  match Shape.ofNode property.1 property.2 with
  | .ok (.enumeration literals) => some (EnumType.ofLiterals property.1 literals)
  | _ => none

theorem translates_of_attempt (options : Options) {property : String × Node} {made : Property}
    (done : Property.attempt property = .ok made) :
    Translates options property (made.field options) := by
  intro imports
  have attempted : Property.ofNode property.1 property.2 = .ok made := done
  simp only [Imports.answer, attempted]

theorem enum_of_attempt {property : String × Node} {made : Property}
    (done : Property.attempt property = .ok made) : enumOf property = made.enumType? := by
  obtain ⟨shape, shaped, rfl⟩ := (Property.of_node_eq_ok_iff _ _ made).mp done
  cases shape <;> simp [enumOf, shaped, Property.enumType?, Shape.literals?]

theorem enum_type_of_attempt (options : Options) {property : String × Node} {made : Property}
    (done : Property.attempt property = .ok made) {e : EnumType} (listed : enumOf property = some e) :
    (made.field options).typeName = e.name := by
  obtain ⟨shape, shaped, rfl⟩ := (Property.of_node_eq_ok_iff _ _ made).mp done
  cases shape <;> simp_all [enumOf]
  subst listed
  rfl

-- The fields that the properties give on their own come in document order.
structure Message.Holds (options : Options) (node : Node) (message : Message)
    (translated : List Field) : Prop where
  name : node.messageName = some message.name
  fieldOfEach : List.Forall₂ (Translates options) node.properties translated
  permuted : (message.fields.map Field.unmarked).Perm translated
  ascending : message.fields.Pairwise Field.Precedes
  stable : ∀ tag, (message.fields.map Field.unmarked).filter (·.tag == tag) =
    translated.filter (·.tag == tag)
  required : ∀ field ∈ message.fields, field.required = true ↔ field.name ∈ node.required
  enums : message.enums = node.properties.filterMap enumOf
  enumTypes : List.Forall₂ (fun property field => ∀ e, enumOf property = some e →
    field.typeName = e.name) node.properties translated
  messages : message.messages = []

theorem Message.unmarked_fields (options : Options) (name : String) (required : List String)
    (properties : List Property) :
    ((Message.ofProperties options name required properties).fields).map Field.unmarked =
      (properties.map (·.field options)).mergeSort Field.notAfter := by
  have same : ∀ field ∈ (properties.map (·.field options)).mergeSort Field.notAfter,
      (field.markRequired required).unmarked = field := by
    intro field member
    obtain ⟨property, _, rfl⟩ := List.mem_map.mp (List.mem_mergeSort.mp member)
    rfl
  simp only [Message.ofProperties, List.map_map]
  exact (List.map_congr_left same).trans (List.map_id _)

theorem Message.fields_ascending (options : Options) (name : String) (required : List String)
    (properties : List Property) :
    (Message.ofProperties options name required properties).fields.Pairwise Field.Precedes := by
  have sorted := Field.sort_ascending (properties.map (·.field options))
  exact List.pairwise_map.mpr (sorted.imp fun {_ _} before => before)

theorem Message.fields_required (options : Options) (name : String) (required : List String)
    (properties : List Property) :
    ∀ field ∈ (Message.ofProperties options name required properties).fields,
      field.required = true ↔ field.name ∈ required := by
  intro field member
  obtain ⟨unmarked, _, rfl⟩ := List.mem_map.mp member
  exact Field.mark_required_iff required unmarked

theorem message_holds_properties (options : Options) (imports next : Imports) (node : Node)
    (message : Message)
    (built : imports.answer options (.message node) = (next, .message (.ok message))) :
    ∃ translated, message.Holds options node translated := by
  have made : Message.ofNode options node = .ok message := by
    have answers := congrArg Prod.snd built
    simpa [Imports.answer] using answers
  obtain ⟨name, properties, named, attempted, rfl⟩ :=
    (Message.of_node_eq_ok_iff options node message).mp made
  have pairs := (map_m_eq_ok_iff _ _ _).mp attempted
  have unmarked := Message.unmarked_fields options name node.required properties
  exact ⟨properties.map (·.field options), {
    name := named
    fieldOfEach := List.forall₂_map_right_iff.mpr
      (pairs.imp fun _ _ done => translates_of_attempt options done)
    permuted := unmarked ▸ List.mergeSort_perm _ _
    ascending := Message.fields_ascending options name node.required properties
    stable := fun tag => unmarked ▸ Field.filter_sort tag _
    required := Message.fields_required options name node.required properties
    enums := (filter_map_of_map_m_ok attempted fun _ _ => enum_of_attempt).symm
    enumTypes := List.forall₂_map_right_iff.mpr
      (pairs.imp fun _ _ done _ listed => enum_type_of_attempt options done listed)
    messages := rfl }⟩

-- One name twice and one number twice, one property without a number, and names that are required
-- twice or belong to no property.
def crowdedNode : Node where
  typeName := some "object"
  messageName := some "Crowd"
  required := ["b", "nobody", "b"]
  properties := [
    ("b", { typeName := some "string", tag := some 2 }),
    ("kind", { typeName := some "atom", enumeration := some (.array [.string "X", .string "X"]) }),
    ("b", { typeName := some "object", objectType := some "Address", tag := some 2 }),
    ("c", { typeName := some "array", items := some { typeName := some "integer" }, tag := some 1 })]

def crowdedFields : List Field :=
  [⟨"b", "string", some 2, false, false⟩, ⟨"kind", "Kind", none, false, false⟩,
    ⟨"b", "Address", some 2, false, false⟩, ⟨"c", "integer", some 1, true, false⟩]

theorem crowded_message_holds :
    ∃ next message,
      (Imports.empty "").answer {} (.message crowdedNode) = (next, .message (.ok message)) ∧
      message.fields.map (·.typeName) = ["Kind", "integer", "string", "Address"] ∧
      ∃ translated, message.Holds {} crowdedNode translated := by
  refine ⟨_, _, rfl, ?_, message_holds_properties {} (.empty "") _ crowdedNode _ rfl⟩
  show ((crowdedFields.mergeSort Field.notAfter).map
    (Field.markRequired crowdedNode.required)).map (·.typeName) = _
  simp [crowdedFields, List.mergeSort, List.merge, List.MergeSort.Internal.splitInTwo,
    Field.notAfter, Field.markRequired]

end ProtoSchema
