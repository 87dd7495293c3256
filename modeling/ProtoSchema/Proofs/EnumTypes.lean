import ProtoSchema.Proofs.FieldOrigins
import ProtoSchema.Proofs.References
import ProtoSchema.Proofs.Text.Capitals

set_option autoImplicit false

namespace ProtoSchema

theorem proto_type_name_iff {name : String} (large : Text.startsSmall name = false)
    (typeName : String) : protoTypeName typeName = name ↔ typeName = name := by
  constructor
  · rintro rfl
    unfold protoTypeName at large ⊢
    split at large
    case h_9 => simp_all
    all_goals cases large
  · rintro rfl
    unfold protoTypeName
    split
    case h_9 => rfl
    all_goals cases large

namespace Node

def listsLiterals (node : Node) : Bool := node.typeName == some "atom" && node.enumeration.isSome

def writtenType? (node : Node) : Option String :=
  match node.typeName with
  | some "object" => node.objectType
  | some "array" => node.items.bind fun items =>
      if items.typeName = some "object" then items.objectType else items.typeName
  | some "atom" => none
  | typeName => typeName

def namesakes (root : Node) (name : String) : List (String × Node) :=
  root.properties.filter fun property =>
    property.2.listsLiterals && Name.camelCase property.1 == name

theorem Shaped.lists_literals {node : Node} {shape : Shape} (shaped : node.Shaped shape) :
    node.listsLiterals = shape.literals?.isSome := by
  unfold listsLiterals
  cases shaped with
  | scalar typeName typed notObject notArray notAtom => simp [typed, notAtom, Shape.literals?]
  | reference objectType object named => simp [object, Shape.literals?]
  | map additional valueType object unnamed present typed => simp [object, Shape.literals?]
  | objects items objectType array present object named => simp [array, Shape.literals?]
  | others items typeName array present typed notObject => simp [array, Shape.literals?]
  | enumeration value literals atom present listed => simp [atom, present, Shape.literals?]
  | atom atom unlisted => simp [unlisted, Shape.literals?]

-- A type that starts like an enumeration is no scalar type, no map and no plain atom.
theorem Shaped.proto_type_iff {node : Node} {shape : Shape} (shaped : node.Shaped shape)
    (plain : shape.literals? = none) (options : Options) (field : String) {name : String}
    (large : Text.startsSmall name = false) :
    shape.protoType options field = name ↔ node.writtenType? = some name := by
  unfold writtenType?
  cases shaped with
  | scalar typeName typed notObject notArray notAtom =>
      rw [typed, Shape.protoType, proto_type_name_iff large]
      split <;> simp_all
  | reference objectType object named => simp [object, named, Shape.protoType]
  | map additional valueType object unnamed present typed =>
      have small : "map<string, " ++ valueType ++ ">" ≠ name := by
        rintro rfl
        simp [Text.startsSmall] at large
      simp [object, unnamed, Shape.protoType, small]
  | objects items objectType array present object named =>
      simp [array, present, object, named, Shape.protoType, Element.protoType]
  | others items typeName array present typed notObject =>
      have looked : (if options.mapElementTypes = true then protoTypeName typeName else typeName) =
          name ↔ typeName = name := by
        split
        · exact proto_type_name_iff large typeName
        · rfl
      simp [array, present, typed, notObject, Shape.protoType, Element.protoType, looked]
  | enumeration value literals atom present listed => cases plain
  | atom atom unlisted =>
      have small : protoTypeName "atom" ≠ name := by
        rintro rfl
        cases large
      simp [atom, Shape.protoType, small]

end Node

theorem Property.enum_of_shaped {property : Property}
    (shaped : property.node.Shaped property.shape) (literals : property.node.listsLiterals = true) :
    ∃ listed, property.node.enumeration.bind literals? = some listed ∧
      property.enumType? = some (EnumType.ofLiterals property.name listed) ∧
      ∀ options, (property.field options).typeName = Name.camelCase property.name := by
  rw [shaped.lists_literals] at literals
  rcases property with ⟨name, node, shape⟩
  cases shaped with
  | enumeration value listed atom present read =>
      have known : node.enumeration = some value := present
      exact ⟨listed, by simp [known, read], rfl, fun _ => rfl⟩
  | _ => cases literals

theorem Property.no_enum_of_shaped {property : Property}
    (shaped : property.node.Shaped property.shape)
    (unlisted : property.node.listsLiterals = false) : property.enumType? = none := by
  rw [shaped.lists_literals, Option.isSome_eq_false_iff, Option.isNone_iff_eq_none] at unlisted
  simp [enumType?, unlisted]

theorem Property.enums_named (name : String) {properties : List Property}
    (shaped : ∀ property ∈ properties, property.node.Shaped property.shape) :
    ((properties.filterMap (·.enumType?)).filter (·.name == name)).length =
      (properties.filter fun property =>
        property.node.listsLiterals && Name.camelCase property.name == name).length := by
  induction properties with
  | nil => rfl
  | cons property others ih =>
      have rest := ih fun other member => shaped other (List.mem_cons_of_mem _ member)
      have first := shaped property List.mem_cons_self
      cases literals : property.node.listsLiterals with
      | false =>
          rw [List.filterMap_cons, no_enum_of_shaped first literals]
          simpa [literals] using rest
      | true =>
          obtain ⟨listed, _, made, _⟩ := enum_of_shaped first literals
          rw [List.filterMap_cons, made]
          by_cases same : Name.camelCase property.name = name
          · simp [EnumType.ofLiterals, literals, same, rest]
          · simp [EnumType.ofLiterals, literals, same, rest]

theorem related_of_mem {α β : Type} {Related : α → β → Prop} {xs : List α} {ys : List β}
    (related : List.Forall₂ Related xs ys) {x : α} (member : x ∈ xs) :
    ∃ y ∈ ys, Related x y := by
  induction related with
  | nil => cases member
  | cons first rest ih =>
      rcases List.mem_cons.mp member with rfl | later
      · exact ⟨_, List.mem_cons_self, first⟩
      · obtain ⟨y, among, own⟩ := ih later
        exact ⟨y, List.mem_cons_of_mem _ among, own⟩

theorem eq_singleton_iff_of_mem {α : Type} {xs : List α} {x : α} (member : x ∈ xs) :
    xs = [x] ↔ xs.length = 1 := by
  constructor
  · rintro rfl
    rfl
  · intro one
    obtain ⟨only, rfl⟩ := List.length_eq_one_iff.mp one
    rw [List.mem_singleton.mp member]

namespace Node

theorem namesakes_eq {root : Node} {properties : List Property}
    (attempted : root.properties.mapM Property.attempt = .ok properties) (name : String) :
    root.namesakes name = (properties.filter fun property =>
      property.node.listsLiterals && Name.camelCase property.name == name).map Property.origin := by
  rw [namesakes, ← Property.attempted_nodes attempted, List.filter_map]
  rfl

theorem mem_namesakes {root : Node} {name : String} {property : String × Node} :
    property ∈ root.namesakes name ↔ property ∈ root.properties ∧
      property.2.listsLiterals = true ∧ Name.camelCase property.1 = name := by
  simp [namesakes]

theorem namesakes_large {root : Node} {name : String} (some : root.namesakes name ≠ []) :
    Text.startsSmall name = false := by
  obtain ⟨property, member⟩ := List.exists_mem_of_ne_nil _ some
  obtain ⟨_, _, rfl⟩ := mem_namesakes.mp member
  exact Name.camel_case_start property.1

end Node

structure Message.Resolves (root : Node) (message : Message) (origin : String × Node)
    (field : Field) : Prop where
  named : (∃ e ∈ message.enums, e.name = field.typeName) ↔
    origin.2.listsLiterals = true ∨
      origin.2.writtenType? = some field.typeName ∧ root.namesakes field.typeName ≠ []
  own : origin.2.listsLiterals = true → ∃ literals,
    origin.2.enumeration.bind literals? = some literals ∧
    (EnumType.ofLiterals origin.1 literals).name = field.typeName ∧
    EnumType.ofLiterals origin.1 literals ∈ message.enums ∧
    (message.enums.filter (·.name == field.typeName) = [EnumType.ofLiterals origin.1 literals] ↔
      root.namesakes field.typeName = [origin])

namespace Message

theorem enums_of_name (options : Options) (own : String) {root : Node} {properties : List Property}
    (attempted : root.properties.mapM Property.attempt = .ok properties) (name : String) :
    ((ofProperties options own root.required properties).enums.filter (·.name == name)).length =
      (root.namesakes name).length := by
  rw [Node.namesakes_eq attempted, List.length_map]
  exact Property.enums_named name fun _ => Property.shaped_of_made attempted

theorem names_enum_iff (options : Options) (own : String) {root : Node}
    {properties : List Property}
    (attempted : root.properties.mapM Property.attempt = .ok properties) (name : String) :
    (∃ e ∈ (ofProperties options own root.required properties).enums, e.name = name) ↔
      root.namesakes name ≠ [] := by
  rw [← List.length_pos_iff, ← enums_of_name options own attempted, List.length_pos_iff]
  simp [List.filter_eq_nil_iff]

theorem resolves_other (options : Options) (own : String) {root : Node}
    {properties : List Property}
    (attempted : root.properties.mapM Property.attempt = .ok properties) {property : Property}
    (member : property ∈ properties) (unlisted : property.node.listsLiterals = false) :
    Resolves root (ofProperties options own root.required properties) property.origin
      ((property.field options).markRequired root.required) where
  named := by
    have shaped := Property.shaped_of_made attempted member
    have plain : property.shape.literals? = none := by
      rw [shaped.lists_literals, Option.isSome_eq_false_iff, Option.isNone_iff_eq_none] at unlisted
      exact unlisted
    refine (names_enum_iff options own attempted _).trans ⟨fun some => ?_, ?_⟩
    · have large := Node.namesakes_large some
      exact .inr ⟨(shaped.proto_type_iff plain options property.name large).mp rfl, some⟩
    · rintro (lists | ⟨_, some⟩)
      · exact absurd (unlisted.symm.trans lists) Bool.false_ne_true
      · exact some
  own lists := absurd (unlisted.symm.trans lists) Bool.false_ne_true

theorem resolves_enum (options : Options) (own : String) {root : Node}
    {properties : List Property}
    (attempted : root.properties.mapM Property.attempt = .ok properties) {property : Property}
    (member : property ∈ properties) (lists : property.node.listsLiterals = true) :
    Resolves root (ofProperties options own root.required properties) property.origin
      ((property.field options).markRequired root.required) := by
  obtain ⟨literals, read, made, type⟩ :=
    Property.enum_of_shaped (Property.shaped_of_made attempted member) lists
  have within : property.origin ∈ root.properties := by
    rw [← Property.attempted_nodes attempted]
    exact List.mem_map_of_mem member
  have among : property.origin ∈ root.namesakes (property.field options).typeName :=
    Node.mem_namesakes.mpr ⟨within, lists, (type options).symm⟩
  have listed : EnumType.ofLiterals property.name literals ∈
      (ofProperties options own root.required properties).enums :=
    List.mem_filterMap.mpr ⟨property, member, made⟩
  have named : EnumType.ofLiterals property.name literals ∈
      (ofProperties options own root.required properties).enums.filter
        (·.name == (property.field options).typeName) :=
    List.mem_filter.mpr ⟨listed, beq_iff_eq.mpr (type options).symm⟩
  exact {
    named := (names_enum_iff options own attempted _).trans
      ⟨fun _ => .inl lists, fun _ => List.ne_nil_of_mem among⟩
    own := fun _ => ⟨literals, read, (type options).symm, listed,
      (eq_singleton_iff_of_mem named).trans
        (enums_of_name options own attempted _ ▸ (eq_singleton_iff_of_mem among).symm)⟩ }

theorem resolves_of_made (options : Options) (own : String) {root : Node}
    {properties : List Property}
    (attempted : root.properties.mapM Property.attempt = .ok properties) {property : Property}
    (member : property ∈ properties) :
    Resolves root (ofProperties options own root.required properties) property.origin
      ((property.field options).markRequired root.required) := by
  cases lists : property.node.listsLiterals with
  | false => exact resolves_other options own attempted member lists
  | true => exact resolves_enum options own attempted member lists

end Message

theorem enum_types_resolve (options : Options) (package : String) (root : Node) (file : ProtoFile)
    (message : Message) (built : ProtoFile.ofNode options package root = .ok file)
    (member : message ∈ file.messages) :
    ∃ origins, origins.Perm root.properties ∧
      List.Forall₂ (fun origin field => FieldOf options root.required origin field ∧
        message.Resolves root origin field) origins message.fields := by
  rcases (ProtoFile.of_node_eq_ok_iff options package root file).mp built with
    ⟨_, rfl⟩ | ⟨_, _, made, rfl⟩
  · cases member
  · obtain rfl := List.mem_singleton.mp member
    obtain ⟨name, properties, _, attempted, rfl⟩ := (Message.of_node_eq_ok_iff _ _ _).mp made
    exact Message.fields_related options name attempted fun _ within =>
      Message.resolves_of_made options name attempted within

-- Two fields whose names differ only in their spelling, and one that refers to a message type of
-- the name that both enumerations get.
def colorProperty : String × Node := ("favorite_color", {
  typeName := some "atom"
  enumeration := some (.array [.string "RED"])
  tag := some 1 })

def otherColorProperty : String × Node := ("favoriteColor", {
  typeName := some "atom"
  enumeration := some (.array [.string "BLUE"])
  tag := some 2 })

def shadeProperty : String × Node := ("shade", {
  typeName := some "object"
  objectType := some "FavoriteColor"
  tag := some 3 })

def clashingNode : Node where
  typeName := some "object"
  messageName := some "Paint"
  properties := [colorProperty, otherColorProperty, shadeProperty]

theorem clashing_node_resolves :
    ∃ file message, ProtoFile.ofNode {} "" clashingNode = .ok file ∧ message ∈ file.messages ∧
      message.enums.map (·.name) = ["FavoriteColor", "FavoriteColor"] ∧
      ∃ origins, origins.Perm clashingNode.properties ∧
        List.Forall₂ (fun origin field => FieldOf {} clashingNode.required origin field ∧
          message.Resolves clashingNode origin field) origins message.fields :=
  ⟨_, _, rfl, List.mem_singleton_self _, by decide,
    enum_types_resolve {} "" clashingNode _ _ rfl (List.mem_singleton_self _)⟩

-- A field may name an enumeration that is not its own, and its own may not be the only one.
theorem clashing_node_ambiguous :
    ∃ file message, ProtoFile.ofNode {} "" clashingNode = .ok file ∧ message ∈ file.messages ∧
      (¬ ∃ origins, origins.Perm clashingNode.properties ∧
        List.Forall₂ (fun origin field => FieldOf {} clashingNode.required origin field ∧
          ((∃ e ∈ message.enums, e.name = field.typeName) ↔ origin.2.listsLiterals = true))
          origins message.fields) ∧
      ¬ ∃ origins, origins.Perm clashingNode.properties ∧
        List.Forall₂ (fun origin field => FieldOf {} clashingNode.required origin field ∧
          (origin.2.listsLiterals = true →
            ∃ e, message.enums.filter (·.name == field.typeName) = [e]))
          origins message.fields := by
  refine ⟨_, _, rfl, List.mem_singleton_self _, ?_, ?_⟩
  · rintro ⟨origins, permuted, fields⟩
    have shade : shadeProperty ∈ origins := permuted.mem_iff.mpr (by simp [clashingNode])
    obtain ⟨field, _, ⟨own, made, rfl⟩, named⟩ := related_of_mem fields shade
    obtain rfl := Except.ok.inj made
    have lists := named.mp ⟨_, List.mem_cons_self, rfl⟩
    cases lists
  · rintro ⟨origins, permuted, fields⟩
    have color : colorProperty ∈ origins := permuted.mem_iff.mpr (by simp [clashingNode])
    obtain ⟨field, _, ⟨own, made, rfl⟩, sole⟩ := related_of_mem fields color
    obtain rfl := Except.ok.inj made
    obtain ⟨e, alone⟩ := sole rfl
    have lengths : 2 = 1 := congrArg List.length alone
    cases lengths

end ProtoSchema
