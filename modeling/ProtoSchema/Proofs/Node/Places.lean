import ProtoSchema.Node.Reader

set_option autoImplicit false

namespace ProtoSchema.Node

def Expected.admits : Expected → Json → Bool
  | .node, .object _ => true
  | .node, .array _ => true
  | .string, .null => true
  | .string, .string _ => true
  | .tag, .null => true
  | .tag, .int n => 0 ≤ n && n < tagLimit
  | .map, .object _ => true
  | _, _ => false

-- What has to hold at a place. A node that is a list has no more values than there are attributes.
inductive Demand where
  | kind (expected : Expected)
  | length

def Demand.misfit? : Demand → Json → Option Misfit
  | .kind expected, value =>
    if expected.admits value then none
    else
      match expected, value with
      | .tag, .int n => some (.tagOutOfRange n)
      | _, _ => some (wrongKind value expected)
  | .length, .array values =>
    if values.length ≤ Attribute.all.length then none else some (.tooManyAttributes values.length)
  | .length, _ => none

inductive Step where
  | member (a : Attribute)
  | property (name : String)

structure Place where
  path : List Step
  demand : Demand
  value : Json

namespace Place

def misfit? (place : Place) : Option Misfit := place.demand.misfit? place.value

def under (step : Step) (place : Place) : Place := { place with path := step :: place.path }

end Place

-- The kinds of values that attributes take; the others take any value, and elements are nodes.
def Attribute.expected? : Attribute → Option Expected
  | .plain .typeName => some .string
  | .plain .objectType => some .string
  | .plain .messageName => some .string
  | .plain .tag => some .tag
  | .properties => some .map
  | _ => none

def Attribute.ownPlaces (value : Json) (a : Attribute) : List Place :=
  a.expected?.toList.map fun expected => ⟨[], .kind expected, value⟩

def Attribute.innerPlaces (value : Json) (asNode asProperties : List Place) :
    Attribute → List Place
  | .items => if value.isNull then [] else asNode
  | .properties => asProperties
  | .plain _ => []

def Attribute.places (value : Json) (asNode asProperties : List Place) (a : Attribute) :
    List Place :=
  (a.ownPlaces value ++ a.innerPlaces value asNode asProperties).map (.under (.member a))

mutual

-- The places of a node in document order, each before the places inside it.
def nodePlaces : Json → List Place
  | .object members => ⟨[], .kind .node, .object members⟩ :: memberPlaces members
  | .array values =>
    ⟨[], .kind .node, .array values⟩ ::
      (positionPlaces Attribute.all values ++ [⟨[], .length, .array values⟩])
  | value => [⟨[], .kind .node, value⟩]

def memberPlaces : List (String × Json) → List Place
  | [] => []
  | (key, value) :: rest =>
    (match Attribute.ofKey? key with
      | none => []
      | some a => a.places value (nodePlaces value) (propertyPlaces value)) ++ memberPlaces rest

def positionPlaces : List Attribute → List Json → List Place
  | a :: attributes, value :: rest =>
    a.places value (nodePlaces value) (propertyPlaces value) ++ positionPlaces attributes rest
  | _, _ => []

def propertyPlaces : Json → List Place
  | .object entries => entryPlaces entries
  | _ => []

def entryPlaces : List (String × Json) → List Place
  | [] => []
  | (name, value) :: rest =>
    (nodePlaces value).map (.under (.property name)) ++ entryPlaces rest

end

def places : Json → List Place
  | .object members => nodePlaces (.object members)
  | _ => []

inductive Leads : Json → List Step → Json → Prop
  | here (value : Json) : Leads value [] value
  | member {members : List (String × Json)} {a : Attribute} {value inner : Json}
      {path : List Step} (found : (a.key, value) ∈ members) (later : Leads value path inner) :
      Leads (.object members) (.member a :: path) inner
  | position {values : List Json} {a : Attribute} {value inner : Json} {path : List Step}
      (found : (a, value) ∈ Attribute.all.zip values) (later : Leads value path inner) :
      Leads (.array values) (.member a :: path) inner
  | property {entries : List (String × Json)} {name : String} {value inner : Json}
      {path : List Step} (found : (name, value) ∈ entries) (later : Leads value path inner) :
      Leads (.object entries) (.property name :: path) inner

def Place.LiesIn (root : Json) (place : Place) : Prop := Leads root place.path place.value

theorem Attribute.mem_places {value : Json} {asNode asProperties : List Place} {a : Attribute}
    (nodes : ∀ place ∈ asNode, place.LiesIn value)
    (properties : ∀ place ∈ asProperties, place.LiesIn value) {place : Place}
    (member : place ∈ a.places value asNode asProperties) :
    ∃ inner, place = Place.under (.member a) inner ∧ inner.LiesIn value := by
  obtain ⟨inner, among, rfl⟩ := List.mem_map.mp member
  refine ⟨inner, rfl, ?_⟩
  rcases List.mem_append.mp among with own | inside
  · obtain ⟨expected, _, rfl⟩ := List.mem_map.mp own
    exact .here value
  · cases a with
    | plain slot => cases inside
    | items =>
        cases null : value.isNull with
        | true => simp [innerPlaces, null] at inside
        | false => exact nodes inner (by simpa [innerPlaces, null] using inside)
    | properties => exact properties inner inside

mutual

theorem node_places_lie (value : Json) : ∀ place ∈ nodePlaces value, place.LiesIn value := by
  intro place member
  match value with
  | .object members =>
      rcases List.mem_cons.mp member with rfl | inside
      · exact .here _
      · obtain ⟨a, w, inner, found, rfl, lies⟩ := member_places_lie members place inside
        exact .member found lies
  | .array values =>
      rcases List.mem_cons.mp member with rfl | inside
      · exact .here _
      · rcases List.mem_append.mp inside with listed | final
        · obtain ⟨a, w, inner, found, rfl, lies⟩ := position_places_lie _ values place listed
          exact .position found lies
        · obtain rfl := List.mem_singleton.mp final
          exact .here _
  | .null | .bool _ | .int _ | .float _ | .string _ =>
      obtain rfl := List.mem_singleton.mp member
      exact .here _

theorem member_places_lie (members : List (String × Json)) :
    ∀ place ∈ memberPlaces members, ∃ a value inner, (Attribute.key a, value) ∈ members ∧
      place = Place.under (.member a) inner ∧ inner.LiesIn value := by
  intro place member
  match members with
  | [] => cases member
  | (key, value) :: rest =>
      rcases List.mem_append.mp member with own | later
      · cases found : Attribute.ofKey? key with
        | none => simp [found] at own
        | some a =>
            simp only [found] at own
            obtain ⟨inner, rfl, lies⟩ := Attribute.mem_places (node_places_lie value)
              (property_places_lie value) own
            exact ⟨a, value, inner, by simp [Attribute.key_of_found found], rfl, lies⟩
      · obtain ⟨a, w, inner, found, rfl, lies⟩ := member_places_lie rest place later
        exact ⟨a, w, inner, List.mem_cons_of_mem _ found, rfl, lies⟩

theorem position_places_lie (attributes : List Attribute) (values : List Json) :
    ∀ place ∈ positionPlaces attributes values, ∃ a value inner,
      (a, value) ∈ attributes.zip values ∧
      place = Place.under (.member a) inner ∧ inner.LiesIn value := by
  intro place member
  match attributes, values with
  | [], _ => simp [positionPlaces] at member
  | _ :: _, [] => simp [positionPlaces] at member
  | a :: attributes, value :: rest =>
      rcases List.mem_append.mp member with own | later
      · obtain ⟨inner, rfl, lies⟩ := Attribute.mem_places (node_places_lie value)
          (property_places_lie value) own
        exact ⟨a, value, inner, List.mem_cons_self, rfl, lies⟩
      · obtain ⟨b, w, inner, found, rfl, lies⟩ := position_places_lie attributes rest place later
        exact ⟨b, w, inner, List.mem_cons_of_mem _ found, rfl, lies⟩

theorem property_places_lie (value : Json) :
    ∀ place ∈ propertyPlaces value, place.LiesIn value := by
  intro place member
  match value with
  | .object entries =>
      obtain ⟨name, w, inner, found, rfl, lies⟩ := entry_places_lie entries place member
      exact .property found lies
  | .null | .bool _ | .int _ | .float _ | .string _ | .array _ => cases member

theorem entry_places_lie (entries : List (String × Json)) :
    ∀ place ∈ entryPlaces entries, ∃ name value inner, (name, value) ∈ entries ∧
      place = Place.under (.property name) inner ∧ inner.LiesIn value := by
  intro place member
  match entries with
  | [] => cases member
  | (name, value) :: rest =>
      rcases List.mem_append.mp member with own | later
      · obtain ⟨inner, among, rfl⟩ := List.mem_map.mp own
        exact ⟨name, value, inner, List.mem_cons_self, rfl, node_places_lie value inner among⟩
      · obtain ⟨other, w, inner, found, rfl, lies⟩ := entry_places_lie rest place later
        exact ⟨other, w, inner, List.mem_cons_of_mem _ found, rfl, lies⟩

end

end ProtoSchema.Node
