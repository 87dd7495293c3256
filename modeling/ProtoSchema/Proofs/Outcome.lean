import ProtoSchema.Proofs.MessageContents
import ProtoSchema.Proofs.Proto.Untagged

set_option autoImplicit false

namespace ProtoSchema

def headerText (package : String) : String :=
  if package = "" then "syntax = \"proto3\";\n"
  else "syntax = \"proto3\";\n\npackage " ++ package ++ ";\n"

theorem empty_version (package : String) :
    (ProtoFile.empty package).versionLine = .text 0 "syntax = \"proto3\";" := by
  have digits : Decimal.text 3 = "3" := by
    rw [Decimal.text, Decimal.digits]
    rfl
  show Line.text 0 ("syntax = \"proto" ++ Decimal.text 3 ++ "\";") = _
  rw [digits]
  rfl

theorem empty_blocks (package : String) :
    (ProtoFile.empty package).blocks [] =
      if package.isEmpty then [] else [[.text 0 ("package " ++ package ++ ";")]] := by
  simp [ProtoFile.blocks, ProtoFile.empty, optionalBlock, ProtoFile.packageLine]

theorem header_lines (first package : String) :
    renderLines (.text 0 first ::
        spaced (if package.isEmpty then [] else [[.text 0 ("package " ++ package ++ ";")]])) =
      first ++ "\n" ++ if package = "" then "" else "\n" ++ ("package " ++ package ++ ";\n") := by
  by_cases unnamed : package = ""
  · simp [unnamed, spaced, renderLines, Line.render]
  · simp [unnamed, spaced, renderLines, Line.render, String.append_assoc]

theorem empty_text (package : String) :
    (ProtoFile.empty package).text = .ok (headerText package) := by
  refine (ProtoFile.text_eq_ok_iff _ _).mpr ⟨[], rfl, ?_⟩
  rw [empty_blocks, empty_version, header_lines, headerText]
  by_cases unnamed : package = ""
  · rw [if_pos unnamed, if_pos unnamed]
    rfl
  · have split : "syntax = \"proto3\";\n\npackage " =
        "syntax = \"proto3\";" ++ "\n" ++ ("\n" ++ "package ") := by decide
    rw [if_neg unnamed, if_neg unnamed, split]
    simp only [String.append_assoc]

-- Sorting puts the fields without a number first but leaves their order alone, so the first of them
-- is the same before and after.
theorem first_untagged_sort (fields : List Field) :
    (fields.mergeSort Field.notAfter).find? (·.tag.isNone) = fields.find? (·.tag.isNone) := by
  have kept := Field.filter_sort none fields
  have same : (fun field : Field => field.tag == none) = fun field => field.tag.isNone := by
    funext field
    cases field.tag <;> rfl
  rw [same] at kept
  rw [← List.head?_filter, ← List.head?_filter, kept]

theorem Message.built_untagged (options : Options) (name : String) (required : List String)
    {nodes : List (String × Node)} {properties : List Property}
    (attempted : nodes.mapM Property.attempt = .ok properties) :
    (ofProperties options name required properties).untagged? =
      (nodes.find? (·.2.tag.isNone)).map fun property => .missingTag name property.1 := by
  have marked (field : Field) : (field.markRequired required).tag.isNone = field.tag.isNone := rfl
  have own (property : Property) :
      (property.field options).tag.isNone = property.node.tag.isNone := rfl
  rw [← Property.attempted_nodes attempted]
  simp only [untagged?, ofProperties, List.find?_map, Function.comp_def, marked,
    first_untagged_sort, own, Option.map_map]
  rfl

theorem Message.of_node_untagged {options : Options} {node : Node} {message : Message}
    (built : ofNode options node = .ok message) :
    message.withNested.findSome? untagged? =
      (node.properties.find? (·.2.tag.isNone)).map fun property =>
        .missingTag message.name property.1 := by
  obtain ⟨name, properties, _, attempted, rfl⟩ := (of_node_eq_ok_iff options node message).mp built
  have alone : (ofProperties options name node.required properties).withNested =
      [ofProperties options name node.required properties] := by
    rw [with_nested_eq]
    rfl
  rw [alone, List.findSome?_singleton, built_untagged options name node.required attempted]
  rfl

theorem Message.of_node_name {options : Options} {node : Node} {message : Message} {name : String}
    (built : ofNode options node = .ok message) (named : node.messageName = some name) :
    message.name = name := by
  obtain ⟨own, _, ownNamed, _, rfl⟩ := (of_node_eq_ok_iff options node message).mp built
  exact Option.some.inj (ownNamed.symm.trans named)

-- The error of an object, if it has one: a property without a shape is reported before any property
-- without a number.
def Node.defect? (node : Node) : Option Error :=
  match node.messageName with
  | none => some .missingMessageName
  | some name =>
    (firstFailure (fun property => Shape.ofNode property.1 property.2) node.properties).or
      ((node.properties.find? (·.2.tag.isNone)).map fun property => .missingTag name property.1)

theorem Message.of_node_failure (options : Options) (node : Node) {name : String}
    (named : node.messageName = some name) :
    failure? (ofNode options node) =
      firstFailure (fun property => Shape.ofNode property.1 property.2) node.properties := by
  rw [of_node_eq, named, ← Property.attempt_failure, ← failure_map_m]
  cases node.properties.mapM Property.attempt <;> rfl

theorem Node.object_text_failure (options : Options) (package : String) {root : Node}
    (object : root.isObject = true) :
    failure? (root.protoText options package) = root.defect? := by
  cases named : root.messageName with
  | none =>
      simp [protoText, ProtoFile.ofNode, object, Message.of_node_eq, named, defect?]
      rfl
  | some name =>
      have refused := Message.of_node_failure options root named
      cases built : Message.ofNode options root with
      | error e =>
          rw [built] at refused
          simp only [protoText, ProtoFile.ofNode, object, built, defect?, named, ← refused]
          rfl
      | ok message =>
          rw [built] at refused
          have sameName := Message.of_node_name built named
          have written := ProtoFile.text_failure
            { ProtoFile.empty package with
              imports := ((Imports.empty options.importStem).addTypes root.references).files
              messages := [message] }
          rw [ProtoFile.allMessages, List.flatMap_singleton,
            Message.of_node_untagged built, sameName] at written
          simp only [protoText, ProtoFile.ofNode, object, built, defect?, named, ← refused]
          exact written

theorem Node.other_text (options : Options) (package : String) {root : Node}
    (other : root.isObject = false) :
    root.protoText options package = .ok (headerText package) := by
  rw [← empty_text, protoText, ProtoFile.ofNode, other]
  rfl

theorem document_text_outcome (options : Options) (package : String) (value : Json) :
    match Node.ofJson value with
    | .error mismatch => value.protoText options package = .error (.notSchema mismatch)
    | .ok root =>
      if root.typeName ≠ some "object" then
        value.protoText options package = .ok (headerText package)
      else
        match root.messageName with
        | none => value.protoText options package = .error .missingMessageName
        | some name =>
          match firstFailure (fun property => Shape.ofNode property.1 property.2) root.properties,
            root.properties.find? (·.2.tag.isNone) with
          | some refusal, _ => value.protoText options package = .error refusal
          | none, some (field, _) =>
            value.protoText options package = .error (.missingTag name field)
          | none, none => ∃ text, value.protoText options package = .ok text := by
  cases read : Node.ofJson value with
  | error mismatch =>
      simp only [Json.protoText, read]
      rfl
  | ok root =>
      have text : value.protoText options package = root.protoText options package := by
        simp only [Json.protoText, read]
        rfl
      simp only [text]
      by_cases other : root.typeName ≠ some "object"
      · rw [if_pos other]
        exact Node.other_text options package (by simpa [Node.isObject] using other)
      · rw [if_neg other]
        have object : root.isObject = true := by simpa [Node.isObject] using other
        have failure := Node.object_text_failure options package object
        cases named : root.messageName with
        | none => simpa [Node.defect?, named, failure_eq_some_iff] using failure
        | some name =>
            simp only [Node.defect?, named] at failure
            cases refused : firstFailure
                (fun property : String × Node => Shape.ofNode property.1 property.2)
                root.properties with
            | some refusal => simpa [refused, failure_eq_some_iff] using failure
            | none =>
                cases untagged : root.properties.find? (·.2.tag.isNone) with
                | some property => simpa [refused, untagged, failure_eq_some_iff] using failure
                | none =>
                    rw [refused, untagged] at failure
                    exact (failure_eq_none_iff _).mp failure

end ProtoSchema
