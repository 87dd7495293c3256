import ProtoSchema.Proofs.FieldOrigins
import ProtoSchema.Proofs.MessageContents
import ProtoSchema.Proofs.References

set_option autoImplicit false

namespace ProtoSchema

def Inserts {α : Type} (added : Option α) (shorter longer : List α) : Prop :=
  ∃ front back, shorter = front ++ back ∧ longer = front ++ added.toList ++ back

namespace Inserts

variable {α β ε : Type}

theorem refl (xs : List α) : Inserts none xs xs := ⟨xs, [], by simp, by simp⟩

theorem cons {added : Option α} {shorter longer : List α} (inserts : Inserts added shorter longer)
    (x : α) : Inserts added (x :: shorter) (x :: longer) := by
  obtain ⟨front, back, rfl, rfl⟩ := inserts
  exact ⟨x :: front, back, rfl, rfl⟩

theorem map (f : α → β) {added : Option α} {shorter longer : List α}
    (inserts : Inserts added shorter longer) :
    Inserts (added.map f) (shorter.map f) (longer.map f) := by
  obtain ⟨front, back, rfl, rfl⟩ := inserts
  refine ⟨front.map f, back.map f, List.map_append, ?_⟩
  cases added <;> simp

theorem filter_map (f : α → Option β) {added : Option α} {shorter longer : List α}
    (inserts : Inserts added shorter longer) :
    Inserts (added.bind f) (shorter.filterMap f) (longer.filterMap f) := by
  obtain ⟨front, back, rfl, rfl⟩ := inserts
  refine ⟨front.filterMap f, back.filterMap f, List.filterMap_append, ?_⟩
  rw [List.filterMap_append, List.filterMap_append]
  congr 2
  cases added with
  | none => rfl
  | some x => cases made : f x <;> simp [made]

theorem map_m {attempt : α → Except ε β} {x : α} {y : β} (own : attempt x = .ok y)
    {shorter longer : List α} (inserts : Inserts (some x) shorter longer) {ys : List β}
    (done : shorter.mapM attempt = .ok ys) :
    ∃ zs, longer.mapM attempt = .ok zs ∧ Inserts (some y) ys zs := by
  obtain ⟨front, back, rfl, rfl⟩ := inserts
  induction front generalizing ys with
  | nil =>
      refine ⟨y :: ys, ?_, [], ys, rfl, rfl⟩
      have started := map_m_cons_ok own back
      rw [List.nil_append] at done
      rw [done] at started
      exact started
  | cons first front ih =>
      have pairs := (map_m_eq_ok_iff attempt _ _).mp done
      cases pairs with
      | cons made rest =>
          obtain ⟨zs, later, inserted⟩ := ih ((map_m_eq_ok_iff attempt _ _).mpr rest)
          refine ⟨_ :: zs, ?_, inserted.cons _⟩
          have started := map_m_cons_ok made (front ++ (some x).toList ++ back)
          rw [later] at started
          exact started

-- The induction puts the members in front in one by one, each into both sorted lists; the new
-- member stays the only difference, on whichever side of it they go.
theorem sort {le : α → α → Bool} (trans : ∀ a b c, le a b → le b c → le a c)
    (total : ∀ a b, le a b || le b a) {x : α} {shorter longer : List α}
    (inserts : Inserts (some x) shorter longer) :
    Inserts (some x) (shorter.mergeSort le) (longer.mergeSort le) := by
  obtain ⟨front, back, rfl, rfl⟩ := inserts
  induction front with
  | nil =>
      obtain ⟨parts, extended⟩ := merge_sort_cons le trans total x back
      exact ⟨_, _, parts, by simpa using extended⟩
  | cons y front ih =>
      obtain ⟨older, later, sorted, extended⟩ := ih
      have without := (merge_sort_cons le trans total y (front ++ back)).2
      have within := (merge_sort_cons le trans total y (front ++ (some x).toList ++ back)).2
      rw [sorted, List.filter_append, List.filter_append] at without
      rw [extended, List.filter_append, List.filter_append, List.filter_append,
        List.filter_append] at within
      cases before : le y x with
      | true =>
          refine ⟨older.filter (fun z => !le y z) ++ later.filter (fun z => !le y z) ++
            y :: older.filter (le y ·), later.filter (le y ·), ?_, ?_⟩
          · rw [List.cons_append, without]
            simp
          · rw [List.cons_append, List.cons_append, within]
            simp [before]
      | false =>
          refine ⟨older.filter (fun z => !le y z), later.filter (fun z => !le y z) ++
            y :: (older.filter (le y ·) ++ later.filter (le y ·)), ?_, ?_⟩
          · rw [List.cons_append, without]
            simp
          · rw [List.cons_append, List.cons_append, within]
            simp [before]

end Inserts

-- Keys that are there already stay where they are, so the new one may add nothing.
theorem SortedMap.keys_gain {α : Type} {a b : SortedMap α} {own : Option String} (value : α)
    (gained : ∀ key, key ∈ b.keys ↔ own = some key ∨ key ∈ a.keys) :
    ∃ added, Inserts added a.keys b.keys ∧ ∀ key ∈ added, own = some key := by
  cases own with
  | none =>
      have same : b.keys = a.keys := keys_unique fun key => by simp [gained key]
      exact ⟨none, same ▸ .refl b.keys, nofun⟩
  | some key =>
      have same : b.keys = (a.insert key value).keys := by
        refine keys_unique fun query => ?_
        rw [gained, mem_keys_insert, Option.some_inj, eq_comm]
      rw [same]
      rcases a.keys_insert key value with kept | ⟨front, back, older, newer⟩
      · exact ⟨none, kept ▸ .refl _, nofun⟩
      · exact ⟨some key, ⟨front, back, older, by simpa using newer⟩, fun _ own => own⟩

theorem Property.attempt_shaped {property : String × Node} {shape : Shape}
    (shaped : Shape.ofNode property.1 property.2 = .ok shape) :
    ∃ made, attempt property = .ok made ∧ made.origin = property ∧
      made.node.Shaped made.shape := by
  have own := (Shape.of_node_eq_ok_iff _ _ shape).mp shaped
  exact ⟨_, (attempt_eq_ok_iff property _).mpr ⟨shape, own, rfl⟩, rfl, own⟩

def Node.grown (root : Node) (before after : List (String × Node)) (property : String × Node) :
    Node :=
  { root with properties := before ++ property :: after }

structure Message.Gains (options : Options) (required : List String) (property : String × Node)
    (old new : Message) : Prop where
  others : new = { old with fields := new.fields, enums := new.enums }
  fields : ∃ field, FieldOf options required property field ∧
    Inserts (some field) old.fields new.fields
  enums : Inserts (enumOf property) old.enums new.enums

structure ProtoFile.Gains (options : Options) (required : List String) (property : String × Node)
    (old new : ProtoFile) : Prop where
  others : new = { old with imports := new.imports, messages := new.messages }
  message : ∃ m n, old.messages = [m] ∧ new.messages = [n] ∧ m.Gains options required property n
  imports : ∃ added, Inserts added old.imports new.imports ∧
    ∀ file ∈ added, ∃ objectType, property.2.RefersTo objectType ∧
      file = options.importStem ++ Name.snakeCase objectType ++ ".proto"

namespace Message

variable {options : Options} {root : Node} {before after : List (String × Node)}
  {property : String × Node} {shape : Shape} {message : Message}

theorem fields_gain (options : Options) (name : String) (required : List String)
    {own : Property} {properties extended : List Property}
    (inserts : Inserts (some own) properties extended) :
    Inserts (some ((own.field options).markRequired required))
      (ofProperties options name required properties).fields
      (ofProperties options name required extended).fields := by
  have unsorted := inserts.map fun made => made.field options
  have sorted := unsorted.sort Field.not_after_trans Field.not_after_total
  exact sorted.map (Field.markRequired required)

theorem gains_of_added (parts : root.properties = before ++ after)
    (shaped : Shape.ofNode property.1 property.2 = .ok shape)
    (built : ofNode options root = .ok message) :
    ∃ extended, ofNode options (root.grown before after property) = .ok extended ∧
      message.Gains options root.required property extended := by
  obtain ⟨name, properties, named, attempted, rfl⟩ :=
    (of_node_eq_ok_iff options root message).mp built
  have added : Inserts (some property) root.properties (before ++ property :: after) :=
    ⟨before, after, parts, by simp⟩
  obtain ⟨made, own, rfl, madeShaped⟩ := Property.attempt_shaped shaped
  obtain ⟨extended, done, inserts⟩ := added.map_m own attempted
  refine ⟨ofProperties options name root.required extended,
    (of_node_eq_ok_iff options _ _).mpr ⟨name, extended, named, done, rfl⟩, ?_⟩
  exact {
    others := rfl
    fields := ⟨_, Property.field_of_shaped options root.required madeShaped,
      fields_gain options name root.required inserts⟩
    enums := enum_of_attempt own ▸ inserts.filter_map Property.enumType? }

theorem references_gain (parts : root.properties = before ++ after) {extended : Message}
    (built : ofNode options root = .ok message)
    (extendedBuilt : ofNode options (root.grown before after property) = .ok extended)
    (objectType : String) :
    objectType ∈ (root.grown before after property).references ↔
      property.2.RefersTo objectType ∨ objectType ∈ root.references := by
  rw [mem_references extendedBuilt, mem_references built, parts]
  simp only [Node.grown, List.mem_append, List.mem_cons, or_and_right, exists_or, exists_eq_left]
  exact or_left_comm

theorem imports_gain (parts : root.properties = before ++ after) {extended : Message}
    (built : ofNode options root = .ok message)
    (extendedBuilt : ofNode options (root.grown before after property) = .ok extended)
    (stem : String) :
    ∃ added, Inserts added ((Imports.empty stem).addTypes root.references).files
        ((Imports.empty stem).addTypes (root.grown before after property).references).files ∧
      ∀ file ∈ added, ∃ objectType, property.2.RefersTo objectType ∧
        file = stem ++ Name.snakeCase objectType ++ ".proto" := by
  have gained (name : String) :
      name ∈ ((Imports.empty stem).addTypes
            (root.grown before after property).references).names.keys ↔
        property.2.ruledReference.map (stem ++ Name.snakeCase ·) = some name ∨
          name ∈ ((Imports.empty stem).addTypes root.references).names.keys := by
    simp only [Imports.mem_referred, references_gain parts built extendedBuilt,
      ← Node.ruled_reference_iff, Option.map_eq_some_iff, or_and_right, exists_or,
      @eq_comm _ name]
  obtain ⟨added, inserts, own⟩ := SortedMap.keys_gain () gained
  refine ⟨added.map Imports.fileName, inserts.map Imports.fileName, fun file member => ?_⟩
  obtain ⟨name, isAdded, rfl⟩ := Option.map_eq_some_iff.mp member
  obtain ⟨objectType, refers, rfl⟩ := Option.map_eq_some_iff.mp (own name isAdded)
  exact ⟨objectType, (Node.ruled_reference_iff property.2 objectType).mp refers, rfl⟩

end Message

theorem property_added_alone (options : Options) (package : String) (root : Node)
    (before after : List (String × Node)) (property : String × Node) (shape : Shape)
    (file : ProtoFile) (object : root.typeName = some "object")
    (parts : root.properties = before ++ after)
    (shaped : Shape.ofNode property.1 property.2 = .ok shape)
    (built : ProtoFile.ofNode options package root = .ok file) :
    ∃ extended, ProtoFile.ofNode options package (root.grown before after property) =
        .ok extended ∧
      file.Gains options root.required property extended := by
  have isObject : root.isObject = true := by simp [Node.isObject, object]
  rcases (ProtoFile.of_node_eq_ok_iff options package root file).mp built with
    ⟨other, _⟩ | ⟨_, message, made, rfl⟩
  · rw [isObject] at other
    cases other
  · obtain ⟨extended, extendedMade, gains⟩ := Message.gains_of_added parts shaped made
    refine ⟨_, (ProtoFile.of_node_eq_ok_iff options package _ _).mpr
      (.inr ⟨isObject, extended, extendedMade, rfl⟩), ?_⟩
    exact {
      others := rfl
      message := ⟨message, extended, rfl, rfl, gains⟩
      imports := Message.imports_gain parts made extendedMade options.importStem }

def earlierProperties : List (String × Node) := [
  ("home", { typeName := some "object", objectType := some "Home", tag := some 2 }),
  ("kind", { typeName := some "atom", enumeration := some (.array [.string "X"]) })]

def laterProperties : List (String × Node) :=
  [("name", { typeName := some "string", tag := some 2 })]

def addedProperty : String × Node :=
  ("areas", {
    typeName := some "array"
    items := some { typeName := some "integer", objectType := some "Area" }
    tag := some 2 })

def growingNode : Node where
  typeName := some "object"
  messageName := some "Growing"
  required := ["areas", "name"]
  properties := earlierProperties ++ laterProperties

theorem growing_node_gains :
    ∃ file extended, ProtoFile.ofNode {} "p" growingNode = .ok file ∧
      ProtoFile.ofNode {} "p"
          (growingNode.grown earlierProperties laterProperties addedProperty) = .ok extended ∧
      extended.imports = ["ipersist_area.proto", "ipersist_home.proto"] ∧
      file.Gains {} growingNode.required addedProperty extended := by
  obtain ⟨extended, built, gains⟩ := property_added_alone {} "p" growingNode earlierProperties
    laterProperties addedProperty _ _ rfl rfl rfl rfl
  refine ⟨_, extended, rfl, built, ?_, gains⟩
  cases built
  decide

end ProtoSchema
