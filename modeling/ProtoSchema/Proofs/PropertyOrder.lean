import ProtoSchema.Proofs.FieldOrder
import ProtoSchema.Proofs.MessageContents
import ProtoSchema.Proofs.References

set_option autoImplicit false

namespace ProtoSchema

theorem Property.tags_of_attempt (options : Options) {properties : List (String × Node)}
    {made : List Property} (done : properties.mapM attempt = .ok made) :
    (made.map (·.field options)).map (·.tag) = properties.map (·.2.tag) := by
  rw [← attempted_nodes done, List.map_map, List.map_map]
  rfl

theorem enums_of_attempt {properties : List (String × Node)} {made : List Property}
    (done : properties.mapM Property.attempt = .ok made) :
    made.filterMap (·.enumType?) = properties.filterMap enumOf :=
  (filter_map_of_map_m_ok done fun _ _ => enum_of_attempt).symm

theorem perm_of_few {α : Type} {a b : List α} (permuted : a.Perm b) (few : a.length ≤ 1) :
    a = b := by
  match a, few with
  | [], _ => exact permuted.nil_eq
  | [_], _ => exact List.singleton_perm.mp permuted

structure Message.SameUpToOrder (properties : List (String × Node)) (m n : Message) : Prop where
  others : n = { m with fields := n.fields, enums := n.enums }
  enums : m.enums.Perm n.enums
  fields : (properties.map (·.2.tag)).Nodup → m.fields = n.fields
  fewEnums : (properties.filterMap enumOf).length ≤ 1 → m.enums = n.enums

theorem Message.SameUpToOrder.eq {properties : List (String × Node)} {m n : Message}
    (same : SameUpToOrder properties m n) (distinct : (properties.map (·.2.tag)).Nodup)
    (few : (properties.filterMap enumOf).length ≤ 1) : m = n := by
  rw [same.others, ← same.fields distinct, ← same.fewEnums few]
  cases m
  rfl

theorem Message.same_of_permuted {options : Options} {a b : Node} {m : Message}
    (names : a.messageName = b.messageName) (required : a.required = b.required)
    (permuted : a.properties.Perm b.properties) (built : ofNode options a = .ok m) :
    ∃ n, ofNode options b = .ok n ∧ SameUpToOrder a.properties m n := by
  obtain ⟨name, made, named, attempted, rfl⟩ := (of_node_eq_ok_iff options a m).mp built
  obtain ⟨others, otherAttempted, same⟩ := map_m_perm permuted attempted
  have enums := same.filterMap (·.enumType?)
  refine ⟨_, (of_node_eq_ok_iff options b _).mpr
    ⟨name, others, names ▸ named, otherAttempted, rfl⟩, ?_⟩
  exact {
    others := rfl
    enums := enums
    fields := fun distinct => by
      have fields := same.map (·.field options)
      rw [← Property.tags_of_attempt options attempted] at distinct
      simp only [ofProperties, required, Field.sort_unique fields distinct]
    fewEnums := fun few => by
      rw [← enums_of_attempt attempted] at few
      exact perm_of_few enums few }

theorem Node.referred_of_permuted {options : Options} {a b : Node} {m n : Message}
    (permuted : a.properties.Perm b.properties) (aBuilt : Message.ofNode options a = .ok m)
    (bBuilt : Message.ofNode options b = .ok n) (stem : String) :
    ((Imports.empty stem).addTypes a.references).files =
      ((Imports.empty stem).addTypes b.references).files := by
  refine congrArg (List.map Imports.fileName) (SortedMap.keys_unique fun name => ?_)
  simp only [Imports.mem_referred, Message.mem_references aBuilt, Message.mem_references bBuilt,
    permuted.mem_iff]

structure ProtoFile.SameUpToOrder (properties : List (String × Node)) (a b : ProtoFile) : Prop where
  imports : a.imports = b.imports
  messages : ∃ m n, a.messages = [m] ∧ b = { a with messages := [n] } ∧
    Message.SameUpToOrder properties m n
  text : (properties.map (·.2.tag)).Nodup → (properties.filterMap enumOf).length ≤ 1 →
    a.text = b.text

theorem ProtoFile.same_of_permuted {options : Options} {package : String} {a b : Node}
    {x : ProtoFile} (aObject : a.typeName = some "object") (bObject : b.typeName = some "object")
    (names : a.messageName = b.messageName) (required : a.required = b.required)
    (permuted : a.properties.Perm b.properties) (built : ofNode options package a = .ok x) :
    ∃ y, ofNode options package b = .ok y ∧ SameUpToOrder a.properties x y := by
  have bIs : b.isObject = true := by simp [Node.isObject, bObject]
  rcases (of_node_eq_ok_iff options package a x).mp built with ⟨other, _⟩ | ⟨_, m, aMade, rfl⟩
  · simp [Node.isObject, aObject] at other
  · obtain ⟨n, bMade, same⟩ := Message.same_of_permuted names required permuted aMade
    have imports := Node.referred_of_permuted permuted aMade bMade options.importStem
    refine ⟨_, (of_node_eq_ok_iff options package b _).mpr (.inr ⟨bIs, n, bMade, rfl⟩), ?_⟩
    exact {
      imports := imports
      messages := ⟨m, n, rfl, by rw [imports], same⟩
      text := fun distinct few => by rw [imports, same.eq distinct few] }

theorem property_order_irrelevant (options : Options) (package : String) (a b : Node)
    (aObject : a.typeName = some "object") (bObject : b.typeName = some "object")
    (names : a.messageName = b.messageName) (required : a.required = b.required)
    (permuted : a.properties.Perm b.properties) :
    (∃ e f, ProtoFile.ofNode options package a = .error e ∧
        ProtoFile.ofNode options package b = .error f) ∨
      ∃ x y, ProtoFile.ofNode options package a = .ok x ∧
        ProtoFile.ofNode options package b = .ok y ∧
        ProtoFile.SameUpToOrder a.properties x y := by
  cases aBuilt : ProtoFile.ofNode options package a with
  | ok x =>
      obtain ⟨y, bBuilt, same⟩ :=
        ProtoFile.same_of_permuted aObject bObject names required permuted aBuilt
      exact .inr ⟨x, y, rfl, bBuilt, same⟩
  | error e =>
      cases bBuilt : ProtoFile.ofNode options package b with
      | error f => exact .inl ⟨e, f, rfl, rfl⟩
      | ok y =>
          obtain ⟨x, aOk, _⟩ := ProtoFile.same_of_permuted bObject aObject names.symm required.symm
            permuted.symm bBuilt
          rw [aBuilt] at aOk
          cases aOk

-- A list, an enumeration and a property without a number, with one file for two references.
def mixedProperties : List (String × Node) := [
  ("kind", { typeName := some "atom", enumeration := some (.array [.string "X"]), tag := some 3 }),
  ("homes", {
    typeName := some "array"
    items := some { typeName := some "H", objectType := some "Home" }
    tag := some 1 }),
  ("home", { typeName := some "object", objectType := some "home" })]

def mixedNode : Node where
  typeName := some "object"
  messageName := some "Mixed"
  required := ["kind"]
  properties := mixedProperties

def reversedNode : Node := { mixedNode with properties := mixedProperties.reverse, tag := some 7 }

theorem mixed_node_reversed :
    ∃ x y, ProtoFile.ofNode {} "p" mixedNode = .ok x ∧
      ProtoFile.ofNode {} "p" reversedNode = .ok y ∧ x.imports = ["ipersist_home.proto"] ∧
      (mixedProperties.map (·.2.tag)).Nodup ∧ (mixedProperties.filterMap enumOf).length = 1 ∧
      x.SameUpToOrder mixedProperties y := by
  have permuted : mixedNode.properties.Perm reversedNode.properties :=
    (List.reverse_perm mixedProperties).symm
  rcases property_order_irrelevant {} "p" mixedNode reversedNode rfl rfl rfl rfl permuted with
    ⟨e, _, failed, _⟩ | ⟨x, y, aBuilt, bBuilt, same⟩
  · cases failed
  · refine ⟨x, y, aBuilt, bBuilt, ?_, by decide, by decide, same⟩
    cases aBuilt
    decide

end ProtoSchema
