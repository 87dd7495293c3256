import ProtoSchema.Proofs.FieldOrigins
import ProtoSchema.Proofs.References
import ProtoSchema.Proofs.Text.Capitals

set_option autoImplicit false

namespace ProtoSchema

namespace Node

def typeWords (node : Node) : List String :=
  node.typeName.toList ++ node.objectType.toList ++
    node.items.toList.flatMap fun items => items.typeName.toList ++ items.objectType.toList

def listsType (elementType : String) (node : Node) : Bool :=
  node.typeName == some "array" && node.items.any (·.typeName == some elementType)

end Node

-- The types that the table gives no type for, each with the word that marks it.
def markers : List (String × String) := [("array", "repeated"), ("object", "message")]

def Node.Unmarked (node : Node) : Prop := ∀ marker ∈ markers, marker.2 ∉ node.typeWords

instance (node : Node) : Decidable node.Unmarked :=
  inferInstanceAs (Decidable (∀ marker ∈ markers, marker.2 ∉ node.typeWords))

section

variable {marker : String × String}

theorem marker_looked_up (known : marker ∈ markers) {typeName : String}
    (other : typeName ≠ marker.2) : protoTypeName typeName = marker.2 ↔ typeName = marker.1 := by
  unfold protoTypeName
  rcases List.mem_pair.mp known with rfl | rfl
  all_goals split <;> simp_all

theorem Name.camel_case_not_marker (known : marker ∈ markers) (name : String) :
    camelCase name ≠ marker.2 := by
  have large := camel_case_start name
  intro same
  rw [same] at large
  rcases List.mem_pair.mp known with rfl | rfl <;> cases large

theorem map_type_not_marker (known : marker ∈ markers) (valueType : String) :
    "map<string, " ++ valueType ++ ">" ≠ marker.2 := by
  intro same
  have starts := congrArg (fun typeName => typeName.toList.take 2) same
  rcases List.mem_pair.mp known with rfl | rfl <;> simp at starts

-- Only the elements of lists come to the table with whatever type they have.
theorem Node.Shaped.type_eq_marker_iff {node : Node} {shape : Shape} (shaped : node.Shaped shape)
    (known : marker ∈ markers) (unwritten : marker.2 ∉ node.typeWords) (options : Options)
    (name : String) :
    shape.protoType options name = marker.2 ↔
      options.mapElementTypes = true ∧ marker.1 ≠ "object" ∧ node.listsType marker.1 = true := by
  unfold listsType
  cases shaped with
  | scalar typeName typed notObject notArray notAtom =>
      have other : typeName ≠ marker.2 := by
        rintro rfl
        simp [typeWords, typed] at unwritten
      rw [Shape.protoType, marker_looked_up known other]
      rcases List.mem_pair.mp known with rfl | rfl <;> simp [typed, notArray, notObject]
  | reference objectType object named =>
      have other : objectType ≠ marker.2 := by
        rintro rfl
        simp [typeWords, named] at unwritten
      simp [Shape.protoType, other, object]
  | map additional valueType object unnamed present typed =>
      simp [Shape.protoType, map_type_not_marker known, object]
  | objects items objectType array present object named =>
      have other : objectType ≠ marker.2 := by
        rintro rfl
        simp [typeWords, present, named] at unwritten
      rcases List.mem_pair.mp known with rfl | rfl <;>
        simp [Shape.protoType, Element.protoType, other, present, object]
  | others items typeName array present typed notObject =>
      have other : typeName ≠ marker.2 := by
        rintro rfl
        simp [typeWords, present, typed] at unwritten
      have looked := marker_looked_up known other
      cases mapped : options.mapElementTypes with
      | false => simp [Shape.protoType, Element.protoType, mapped, other]
      | true =>
          simp only [Shape.protoType, Element.protoType, mapped, if_true, looked]
          rcases List.mem_pair.mp known with rfl | rfl <;> simp [array, present, typed, notObject]
  | enumeration value literals atom present listed =>
      simp [Shape.protoType, Name.camel_case_not_marker known, atom]
  | atom atom unlisted =>
      have other : protoTypeName "atom" ≠ marker.2 := by
        rcases List.mem_pair.mp known with rfl | rfl <;> decide
      simp [Shape.protoType, other, atom]

end

theorem marker_types (options : Options) (package : String) (root : Node) (file : ProtoFile)
    (message : Message) (built : ProtoFile.ofNode options package root = .ok file)
    (member : message ∈ file.messages)
    (unmarked : ∀ property ∈ root.properties, property.2.Unmarked) :
    ∃ origins, origins.Perm root.properties ∧
      List.Forall₂ (fun origin field => FieldOf options root.required origin field ∧
          field.typeName ≠ "message" ∧
          (field.typeName = "repeated" ↔
            options.mapElementTypes = true ∧ origin.2.listsType "array" = true))
        origins message.fields := by
  rcases (ProtoFile.of_node_eq_ok_iff options package root file).mp built with
    ⟨_, rfl⟩ | ⟨_, _, made, rfl⟩
  · cases member
  · obtain rfl := List.mem_singleton.mp member
    obtain ⟨name, properties, _, attempted, rfl⟩ := (Message.of_node_eq_ok_iff _ _ _).mp made
    refine Message.fields_related options name attempted fun property among => ?_
    have shaped := Property.shaped_of_made attempted among
    have written : property.node.Unmarked := by
      refine unmarked property.origin ?_
      rw [← Property.attempted_nodes attempted]
      exact List.mem_map_of_mem among
    have word (marker : String × String) (known : marker ∈ markers) :=
      shaped.type_eq_marker_iff known (written marker known) options property.name
    constructor
    · exact fun same => ((word _ (by decide : ("object", "message") ∈ markers)).mp same).2.1 rfl
    · refine (word _ (by decide : ("array", "repeated") ∈ markers)).trans ?_
      simp [Property.origin]

def gridProperty : String × Node := ("rows", {
  typeName := some "array"
  items := some { typeName := some "array", items := some { typeName := some "integer" } }
  tag := some 1 })

def gridNode : Node where
  typeName := some "object"
  messageName := some "Grid"
  properties := [gridProperty, ("names", {
    typeName := some "array"
    items := some { typeName := some "string" }
    tag := some 2 })]

def tableOptions : Options := { mapElementTypes := true }

theorem grid_types :
    ∃ file message, ProtoFile.ofNode tableOptions "" gridNode = .ok file ∧
      message ∈ file.messages ∧ (∀ property ∈ gridNode.properties, property.2.Unmarked) ∧
      ∃ origins, origins.Perm gridNode.properties ∧
        List.Forall₂ (fun origin field => FieldOf tableOptions gridNode.required origin field ∧
            field.typeName ≠ "message" ∧
            (field.typeName = "repeated" ↔
              tableOptions.mapElementTypes = true ∧ origin.2.listsType "array" = true))
          origins message.fields :=
  ⟨_, _, rfl, List.mem_singleton_self _, by decide,
    marker_types tableOptions "" gridNode _ _ rfl (List.mem_singleton_self _) (by decide)⟩

-- The word for lists stands for the type of the rows, though the document does not write it.
theorem grid_rows_marked :
    (∀ property ∈ gridNode.properties, property.2.Unmarked) ∧
      ∃ file message field, ProtoFile.ofNode tableOptions "" gridNode = .ok file ∧
        message ∈ file.messages ∧ field ∈ message.fields ∧ field.typeName = "repeated" := by
  refine ⟨by decide, _, _, ⟨"rows", "repeated", some 1, true, false⟩, rfl,
    List.mem_singleton_self _, ?_, rfl⟩
  refine List.mem_map.mpr ⟨⟨"rows", "repeated", some 1, true, false⟩, ?_, rfl⟩
  exact List.mem_mergeSort.mpr List.mem_cons_self

end ProtoSchema
