import ProtoSchema.Generate
import ProtoSchema.Proofs.FirstFailure
import ProtoSchema.Proofs.SortedKeys

set_option autoImplicit false

namespace ProtoSchema

theorem Text.append_lt_iff (start a b : String) : start ++ a < start ++ b ↔ a < b := by
  show (start ++ a).toList < (start ++ b).toList ↔ a.toList < b.toList
  rw [String.toList_append, String.toList_append]
  induction start.toList with
  | nil => rfl
  | cons c rest ih => simp [ih]

namespace Imports

theorem name_of_stem (stem own objectType : String) :
    nameOf (stem ++ own) objectType = stem ++ nameOf own objectType := String.append_assoc

def Extends (stem : String) (bare full : Imports) : Prop :=
  full.stem = stem ++ bare.stem ∧
    full.names.entries = SortedMap.renamed (stem ++ ·) bare.names.entries

theorem empty_extends (stem : String) : Extends stem (empty "") (empty stem) := by
  simp [Extends, empty, SortedMap.empty, SortedMap.renamed]

theorem add_type_extends {stem : String} {bare full : Imports} (extended : Extends stem bare full)
    (objectType : String) : Extends stem (bare.addType objectType) (full.addType objectType) := by
  obtain ⟨stems, entries⟩ := extended
  refine ⟨stems, ?_⟩
  show SortedMap.insertEntry (nameOf full.stem objectType) () full.names.entries = _
  rw [stems, entries, name_of_stem]
  exact SortedMap.insert_renamed (Text.append_lt_iff stem) _ _ _

theorem add_types_extends {stem : String} {bare full : Imports} (extended : Extends stem bare full)
    (objectTypes : List String) :
    Extends stem (bare.addTypes objectTypes) (full.addTypes objectTypes) := by
  induction objectTypes generalizing bare full with
  | nil => exact extended
  | cons first others ih => exact ih (add_type_extends extended first)

theorem files_of_extends {stem : String} {bare full : Imports} (extended : Extends stem bare full) :
    full.files = bare.files.map (stem ++ ·) := by
  simp [files, SortedMap.keys, extended.2, SortedMap.renamed, fileName, String.append_assoc]

end Imports

theorem Property.field_stem (options : Options) (stem : String) :
    field { options with importStem := stem } = field options := by
  funext property
  rcases property with ⟨name, node, _ | _ | _ | ⟨_ | _⟩ | _ | _⟩ <;> rfl

theorem Message.of_node_stem (options : Options) (stem : String) (node : Node) :
    ofNode { options with importStem := stem } node = ofNode options node := by
  simp only [ofNode, ofProperties, Property.field_stem]

theorem import_stem_in_front (options : Options) (package : String) (root : Node) :
    ProtoFile.ofNode options package root =
      (ProtoFile.ofNode { options with importStem := "" } package root).map fun file =>
        { file with imports := file.imports.map (options.importStem ++ ·) } := by
  cases object : root.isObject with
  | false => simp [ProtoFile.ofNode, object, Except.map, ProtoFile.empty]
  | true =>
      have extended := Imports.add_types_extends (Imports.empty_extends options.importStem)
        root.references
      simp only [ProtoFile.ofNode, object, if_true, Message.of_node_stem,
        Imports.files_of_extends extended]
      cases Message.ofNode options root <;> rfl

end ProtoSchema
