import ProtoSchema.Error
import ProtoSchema.Proofs.Node.Members
import ProtoSchema.Proofs.Node.Places

set_option autoImplicit false

namespace ProtoSchema.Node

def Step.report : Step → Misfit → Misfit
  | .property name, cause => .inProperty name cause
  | .member _, cause => cause

def Place.report? (place : Place) : Option Misfit :=
  place.misfit?.map fun bare => place.path.foldr Step.report bare

theorem Place.report_under (step : Step) (place : Place) :
    (place.under step).report? = place.report?.map step.report := by
  have same : (place.under step).misfit? = place.misfit? := rfl
  simp only [report?, same, Option.map_map]
  rfl

theorem reports_under (step : Step) (places : List Place) :
    (places.map (Place.under step)).findSome? Place.report? =
      (places.findSome? Place.report?).map step.report := by
  rw [List.findSome?_map, List.map_findSome?]
  congr 1
  funext place
  exact place.report_under step

theorem Place.report_here (demand : Demand) (value : Json) :
    report? ⟨[], demand, value⟩ = demand.misfit? value :=
  Option.map_id'

theorem text_failure (value : Json) :
    failure? (readText value) = (Demand.kind .string).misfit? value := by
  cases value <;> rfl

theorem tag_failure (value : Json) :
    failure? (readTag value) = (Demand.kind .tag).misfit? value := by
  cases value with
  | int n =>
      by_cases fits : 0 ≤ n ∧ n < tagLimit <;>
        simp [readTag, Demand.misfit?, Expected.admits, fits, failure?]
  | _ => rfl

theorem plain_failure (slot : Plain) (value : Json) :
    failure? (setPlain empty slot value) =
      (Attribute.plain slot).expected?.bind fun expected =>
        (Demand.kind expected).misfit? value := by
  cases slot with
  | typeName | objectType | messageName => exact (failure_map _ _).trans (text_failure value)
  | tag => exact (failure_map _ _).trans (tag_failure value)
  | enumeration | additional | required => rfl

theorem attribute_failure {value : Json}
    (node : failure? (Node.read value) = (nodePlaces value).findSome? Place.report?)
    (properties : failure? (readProperties value) =
      ((Demand.kind .map).misfit? value).or ((propertyPlaces value).findSome? Place.report?))
    (a : Attribute) :
    failure? (a.read value) =
      (a.places value (nodePlaces value) (propertyPlaces value)).findSome? Place.report? := by
  have shown : (Step.member a).report = id := rfl
  have own : (a.ownPlaces value).findSome? Place.report? =
      a.expected?.bind fun expected => (Demand.kind expected).misfit? value := by
    unfold Attribute.ownPlaces
    cases a.expected? <;> simp [Place.report_here]
  rw [Attribute.places, reports_under, shown, Option.map_id, id, List.findSome?_append, own]
  cases a with
  | plain slot =>
      rw [Attribute.read, plain_failure]
      exact Option.or_none.symm
  | items =>
      rw [Attribute.read]
      cases null : value.isNull with
      | true => simp [null, Attribute.innerPlaces, Attribute.expected?, failure?]
      | false =>
          refine (failure_map _ _).trans (node.trans ?_)
          simp [null, Attribute.innerPlaces, Attribute.expected?]
  | properties => exact (failure_map _ _).trans properties

-- The reading comes to the places in their order and ends at its first failure, so that failure is
-- the first report; what it has read before changes nothing of it.
mutual

theorem read_failure (value : Json) :
    failure? (Node.read value) = (nodePlaces value).findSome? Place.report? := by
  match value with
  | .object members =>
      rw [Node.read, read_members_failure members empty, nodePlaces, List.findSome?_cons]
      rfl
  | .array values =>
      rw [Node.read, read_positions_failure values.length Attribute.all values empty, nodePlaces,
        List.findSome?_cons, List.findSome?_append, List.findSome?_singleton, Place.report_here,
        Place.report_here]
      rfl
  | .null | .bool _ | .int _ | .float _ | .string _ => rfl

theorem read_members_failure (members : List (String × Json)) (node : Node) :
    failure? (readMembers members node) = (memberPlaces members).findSome? Place.report? := by
  match members with
  | [] =>
      rw [read_members_nil]
      rfl
  | (key, value) :: rest =>
      rw [memberPlaces, List.findSome?_append]
      cases found : Attribute.ofKey? key with
      | none =>
          rw [read_members_unknown found]
          exact read_members_failure rest node
      | some a =>
          rw [read_members_known found,
            failure_bind fun source => read_members_failure rest (a.copy source node),
            attribute_failure (read_failure value) (read_properties_failure value)]

theorem read_positions_failure (count : Nat) (attributes : List Attribute) (values : List Json)
    (node : Node) :
    failure? (readPositions count attributes values node) =
      ((positionPlaces attributes values).findSome? Place.report?).or
        (if values.length ≤ attributes.length then none else some (.tooManyAttributes count)) := by
  match attributes, values with
  | [], [] => rfl
  | _ :: _, [] => rfl
  | [], _ :: _ => rfl
  | a :: attributes, value :: rest =>
      rw [read_positions_cons,
        failure_bind fun source =>
          read_positions_failure count attributes rest (a.copy source node),
        attribute_failure (read_failure value) (read_properties_failure value), positionPlaces,
        List.findSome?_append, Option.or_assoc]
      simp

theorem read_properties_failure (value : Json) :
    failure? (readProperties value) =
      ((Demand.kind .map).misfit? value).or
        ((propertyPlaces value).findSome? Place.report?) := by
  match value with
  | .object entries =>
      rw [readProperties, read_each_failure entries]
      rfl
  | .null | .bool _ | .int _ | .float _ | .string _ | .array _ => rfl

theorem read_each_failure (entries : List (String × Json)) :
    failure? (readEach entries) = (entryPlaces entries).findSome? Place.report? := by
  match entries with
  | [] => rfl
  | (name, value) :: rest =>
      rw [entryPlaces, List.findSome?_append, reports_under, ← read_failure value, readEach,
        ← read_each_failure rest]
      cases Node.read value with
      | error cause => rfl
      | ok node => exact failure_map (readEach rest) ((name, node) :: ·)

end

theorem root_failure (value : Json) :
    failure? (ofJson value) = (places value).findSome? Place.report? := by
  cases value with
  | object members =>
      rw [ofJson, places, ← read_failure, Node.read]
  | _ => rfl

def propertyNames (path : List Step) : List String :=
  path.filterMap fun step =>
    match step with
    | .property name => some name
    | .member _ => none

theorem Misfit.message_in_property (name : String) (cause : Misfit) :
    (Misfit.inProperty name cause).message = "property '" ++ name ++ "': " ++ cause.message := rfl

theorem reported_message (path : List Step) (bare : Misfit) :
    (path.foldr Step.report bare).message =
      String.join ((propertyNames path).map fun name => "property '" ++ name ++ "': ") ++
        bare.message := by
  induction path with
  | nil => simp [propertyNames]
  | cons step rest ih =>
      cases step with
      | member a =>
          have same : propertyNames (.member a :: rest) = propertyNames rest := rfl
          rw [same, ← ih]
          rfl
      | property name =>
          have named : propertyNames (.property name :: rest) = name :: propertyNames rest := rfl
          rw [named, List.map_cons, String.join_cons, List.foldr_cons, Step.report,
            Misfit.message_in_property, ih]
          simp only [String.append_assoc]

structure FirstMisfit (root : Json) (place : Place) (bare : Misfit) : Prop where
  lies : place.LiesIn root
  wrong : place.misfit? = some bare
  first : ∃ before after, places root = before ++ place :: after ∧
    ∀ earlier ∈ before, earlier.misfit? = none

theorem places_lie (root : Json) : ∀ place ∈ places root, place.LiesIn root := by
  cases root with
  | object members => exact node_places_lie (.object members)
  | _ => exact nofun

theorem refused_iff_misfit (root : Json) (cause : Misfit) :
    ofJson root = .error cause ↔
      ∃ place bare, FirstMisfit root place bare ∧ cause = place.path.foldr Step.report bare := by
  rw [← failure_eq_some_iff, root_failure, List.findSome?_eq_some_iff]
  constructor
  · rintro ⟨before, place, after, parts, told, quiet⟩
    obtain ⟨bare, wrong, rfl⟩ := Option.map_eq_some_iff.mp told
    refine ⟨place, bare, ⟨?_, wrong, before, after, parts, fun earlier member => ?_⟩, rfl⟩
    · exact places_lie root place (by rw [parts]; simp)
    · exact Option.map_eq_none_iff.mp (quiet earlier member)
  · rintro ⟨place, bare, ⟨_, wrong, before, after, parts, quiet⟩, rfl⟩
    refine ⟨before, place, after, parts, by simp [Place.report?, wrong], fun earlier member => ?_⟩
    simp [Place.report?, quiet earlier member]

theorem refusal_names_first_misfit (root : Json) :
    (∀ cause, ofJson root = .error cause →
      ∃ place bare, FirstMisfit root place bare ∧
        (Error.notSchema cause).message = "failed to parse JSON: " ++
          String.join ((propertyNames place.path).map fun name => "property '" ++ name ++ "': ") ++
          bare.message) ∧
      ∀ place bare, FirstMisfit root place bare → ∃ cause, ofJson root = .error cause := by
  constructor
  · intro cause refused
    obtain ⟨place, bare, first, rfl⟩ := (refused_iff_misfit root cause).mp refused
    refine ⟨place, bare, first, ?_⟩
    exact (congrArg _ (reported_message place.path bare)).trans (String.append_assoc ..).symm
  · intro place bare first
    exact ⟨_, (refused_iff_misfit root _).mpr ⟨place, bare, first, rfl⟩⟩

-- A list within elements within a property: its second value has the properties, and what stands
-- after the number of the inner one is never looked at.
def strayDocument : Json := .object [
  ("type", .string "object"),
  ("properties", .object [
    ("homes", .object [
      ("items", .array [.null, .object [("street", .object [
        ("comment", .int 1),
        ("protobuf_sequence_number", .bool true),
        ("type", .bool true)])]])]),
    ("later", .string "x")]),
  ("object_type", .int 5)]

theorem stray_document_refused :
    ∃ cause, ofJson strayDocument = .error cause ∧
      (Error.notSchema cause).message = "failed to parse JSON: property 'homes': " ++
        "property 'street': invalid type: boolean `true`, expected u32" ∧
      ∃ place bare, FirstMisfit strayDocument place bare ∧
        (Error.notSchema cause).message = "failed to parse JSON: " ++
          String.join ((propertyNames place.path).map fun name => "property '" ++ name ++ "': ") ++
          bare.message := by
  have refused : ofJson strayDocument =
    .error (.inProperty "homes" (.inProperty "street" (.wrongKind (.bool true) .tag))) := rfl
  exact ⟨_, refused, by decide, (refusal_names_first_misfit strayDocument).1 _ refused⟩

end ProtoSchema.Node
