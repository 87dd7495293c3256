import ProtoSchema.Proofs.FieldOrder
import ProtoSchema.Proofs.Properties

set_option autoImplicit false

namespace ProtoSchema

def FieldOf (options : Options) (required : List String) (origin : String × Node)
    (field : Field) : Prop :=
  ∃ own, Field.ofNode options origin.1 origin.2 = .ok own ∧ field = own.markRequired required

namespace Property

def origin (property : Property) : String × Node := (property.name, property.node)

theorem shaped_of_made {properties : List (String × Node)} {made : List Property}
    (done : properties.mapM attempt = .ok made) {property : Property} (member : property ∈ made) :
    property.node.Shaped property.shape := by
  obtain ⟨_, _, attempted⟩ := mem_of_map_m_ok done member
  obtain ⟨shape, shaped, rfl⟩ := (attempt_eq_ok_iff _ property).mp attempted
  exact shaped

theorem field_of_shaped (options : Options) (required : List String) {property : Property}
    (shaped : property.node.Shaped property.shape) :
    FieldOf options required property.origin ((property.field options).markRequired required) := by
  have made : ofNode property.name property.node = .ok property :=
    (attempt_eq_ok_iff property.origin property).mpr ⟨_, shaped, rfl⟩
  refine ⟨property.field options, ?_, rfl⟩
  simp only [Field.ofNode, origin, made, Except.map]

theorem related_to_fields {options : Options} {required : List String}
    {Related : String × Node → Field → Prop} {properties : List Property}
    (each : ∀ property ∈ properties,
      Related property.origin ((property.field options).markRequired required)) :
    List.Forall₂ Related (properties.map origin)
      (properties.map fun property => (property.field options).markRequired required) := by
  rw [List.forall₂_map_left_iff, List.forall₂_map_right_iff, List.forall₂_same]
  exact each

end Property

namespace Message

-- Only the numbers of the properties decide the order, so no option has a say in it.
theorem fields_in_order (name : String) {root : Node} {properties : List Property}
    (attempted : root.properties.mapM Property.attempt = .ok properties) :
    ∃ ordered : List Property, ordered.Perm properties ∧
      (ordered.map Property.origin).Perm root.properties ∧
      ∀ options, (ofProperties options name root.required properties).fields =
        ordered.map fun property => (property.field options).markRequired root.required := by
  have permuted := List.mergeSort_perm properties fun a b => (a.field {}).notAfter (b.field {})
  refine ⟨_, permuted, ?_, fun options => ?_⟩
  · rw [← Property.attempted_nodes attempted]
    exact permuted.map Property.origin
  · have sorted : (properties.mergeSort fun a b => (a.field {}).notAfter (b.field {})).map
        (·.field options) = (properties.map (·.field options)).mergeSort Field.notAfter :=
      List.map_mergeSort fun _ _ _ _ => rfl
    simp only [ofProperties, ← sorted, List.map_map, Function.comp_def]

theorem fields_related (options : Options) (name : String) {root : Node}
    {properties : List Property}
    (attempted : root.properties.mapM Property.attempt = .ok properties)
    {Related : String × Node → Field → Prop}
    (each : ∀ property ∈ properties,
      Related property.origin ((property.field options).markRequired root.required)) :
    ∃ origins, origins.Perm root.properties ∧
      List.Forall₂ (fun origin field => FieldOf options root.required origin field ∧
          Related origin field)
        origins (ofProperties options name root.required properties).fields := by
  obtain ⟨ordered, permuted, origins, fields⟩ := fields_in_order name attempted
  refine ⟨ordered.map Property.origin, origins, ?_⟩
  rw [fields]
  refine Property.related_to_fields fun property member => ?_
  have own := permuted.mem_iff.mp member
  exact ⟨Property.field_of_shaped _ _ (Property.shaped_of_made attempted own), each property own⟩

end Message

end ProtoSchema
