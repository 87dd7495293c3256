import ProtoSchema.Proofs.ImportSession
import ProtoSchema.Proofs.Shapes

set_option autoImplicit false

namespace ProtoSchema

namespace ProtoFile

theorem of_node_eq_ok_iff (options : Options) (package : String) (root : Node) (file : ProtoFile) :
    ofNode options package root = .ok file ↔
      root.isObject = false ∧ file = empty package ∨
        root.isObject = true ∧ ∃ message, Message.ofNode options root = .ok message ∧
          file = { empty package with
            imports := ((Imports.empty options.importStem).addTypes root.references).files
            messages := [message] } := by
  cases object : root.isObject with
  | false => simp [ofNode, object, eq_comm]
  | true =>
      cases built : Message.ofNode options root <;>
        simp [ofNode, object, built, Except.map, eq_comm]

end ProtoFile

theorem Imports.mem_referred (stem : String) (objectTypes : List String) (name : String) :
    name ∈ ((empty stem).addTypes objectTypes).names.keys ↔
      ∃ objectType ∈ objectTypes, name = stem ++ Name.snakeCase objectType := by
  rw [mem_names_add_types]
  simp [empty, SortedMap.keys, SortedMap.empty]

theorem Message.references_of_built {options : Options} {node : Node} {message : Message}
    (built : ofNode options node = .ok message) :
    node.references = node.properties.filterMap fun property => property.2.ruledReference := by
  obtain ⟨name, made, named, attempted, _⟩ := (of_node_eq_ok_iff options node message).mp built
  rw [Node.references_eq, named, if_neg (Option.some_ne_none name),
    Property.accepted_all attempted]

theorem Message.mem_references {options : Options} {node : Node} {message : Message}
    (built : ofNode options node = .ok message) (objectType : String) :
    objectType ∈ node.references ↔
      ∃ property ∈ node.properties, property.2.RefersTo objectType := by
  rw [references_of_built built]
  simp only [List.mem_filterMap, Node.ruled_reference_iff]

theorem Imports.files_nodup (imports : Imports) : imports.files.Nodup :=
  (SortedMap.keys_nodup imports.names).map fun _ _ same => (String.append_left_inj ".proto").mp same

structure Node.Imported (stem : String) (root : Node) (imports names : List String) : Prop where
  files : imports = names.map (· ++ ".proto")
  nodup : imports.Nodup
  ascending : names.Pairwise fun a b => Text.bytes a < Text.bytes b
  referred : ∀ name, name ∈ names ↔ root.typeName = some "object" ∧
    ∃ property ∈ root.properties, ∃ objectType, property.2.RefersTo objectType ∧
      name = stem ++ Name.snakeCase objectType
  otherRoot : root.typeName ≠ some "object" → imports = []

theorem Node.imported_of_other (stem : String) {root : Node}
    (other : root.typeName ≠ some "object") : root.Imported stem [] [] where
  files := rfl
  nodup := List.nodup_nil
  ascending := .nil
  referred := by simp [other]
  otherRoot := fun _ => rfl

theorem Node.imported_of_object {options : Options} {root : Node} {message : Message}
    (object : root.typeName = some "object") (built : Message.ofNode options root = .ok message)
    (stem : String) :
    root.Imported stem ((Imports.empty stem).addTypes root.references).files
      ((Imports.empty stem).addTypes root.references).names.keys where
  files := rfl
  nodup := Imports.files_nodup _
  ascending := (SortedMap.keys_ascending _).imp fun {_ _} before => Text.bytes_lt before
  referred := by
    intro name
    rw [Message.references_of_built built, Imports.mem_names_add_referred]
    simp [object, Imports.empty, SortedMap.keys, SortedMap.empty]
  otherRoot := fun other => absurd object other

theorem imports_list_references (options : Options) (package : String) (root : Node)
    (file : ProtoFile) (built : ProtoFile.ofNode options package root = .ok file) :
    ∃ names, root.Imported options.importStem file.imports names := by
  rcases (ProtoFile.of_node_eq_ok_iff options package root file).mp built with
    ⟨other, rfl⟩ | ⟨object, message, made, rfl⟩
  · exact ⟨[], Node.imported_of_other _ (by simpa [Node.isObject] using other)⟩
  · exact ⟨_, Node.imported_of_object (by simpa [Node.isObject] using object) made _⟩

-- Two spellings of one file, a longer name that would come first with its ending, and references
-- that count for nothing.
def referringNode : Node where
  typeName := some "object"
  messageName := some "Referring"
  objectType := some "Own"
  properties := [
    ("a", {
      typeName := some "array"
      items := some { typeName := some "Ab", objectType := some "A-b" } }),
    ("b", {
      typeName := some "object"
      objectType := some "A"
      items := some { objectType := some "C" } }),
    ("c", {
      typeName := some "array"
      items := some { typeName := some "object", objectType := some "a" } }),
    ("d", { typeName := some "string", objectType := some "D" })]

theorem referring_node_imports :
    ∃ file, ProtoFile.ofNode {} "" referringNode = .ok file ∧
      file.imports = ["ipersist_a.proto", "ipersist_a-b.proto"] ∧
      ∃ names, referringNode.Imported "ipersist_" file.imports names := by
  refine ⟨_, rfl, by decide, imports_list_references {} "" referringNode _ rfl⟩

end ProtoSchema
