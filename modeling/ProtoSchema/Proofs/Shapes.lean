import ProtoSchema.Shape
import ProtoSchema.Proofs.FirstFailure

set_option autoImplicit false

namespace ProtoSchema

inductive Node.Shaped (node : Node) : Shape → Prop where
  | scalar (typeName : String) (typed : node.typeName = some typeName)
      (notObject : typeName ≠ "object") (notArray : typeName ≠ "array")
      (notAtom : typeName ≠ "atom") : Shaped node (.scalar typeName)
  | reference (objectType : String) (object : node.typeName = some "object")
      (named : node.objectType = some objectType) : Shaped node (.reference objectType)
  | map (additional : Json) (valueType : String) (object : node.typeName = some "object")
      (unnamed : node.objectType = none) (present : node.additional = some additional)
      (typed : (additional.member? "type").bind Json.string? = some valueType) :
      Shaped node (.map valueType)
  | objects (items : Node) (objectType : String) (array : node.typeName = some "array")
      (present : node.items = some items) (object : items.typeName = some "object")
      (named : items.objectType = some objectType) : Shaped node (.list (.object objectType))
  | others (items : Node) (typeName : String) (array : node.typeName = some "array")
      (present : node.items = some items) (typed : items.typeName = some typeName)
      (notObject : typeName ≠ "object") : Shaped node (.list (.other typeName items.objectType))
  | enumeration (value : Json) (literals : List String) (atom : node.typeName = some "atom")
      (present : node.enumeration = some value) (listed : literals? value = some literals) :
      Shaped node (.enumeration literals)
  | atom (atom : node.typeName = some "atom") (unlisted : node.enumeration = none) :
      Shaped node .atom

namespace Shape

theorem shaped_of_object {field : String} {node : Node} {shape : Shape}
    (object : node.typeName = some "object") (made : ofObject field node = .ok shape) :
    node.Shaped shape := by
  unfold ofObject at made
  split at made
  · rename_i objectType named
    cases made
    exact .reference objectType object named
  · rename_i additional unnamed present
    split at made
    · rename_i valueType typed
      cases made
      exact .map additional valueType object unnamed present typed
    · cases made
  · cases made

theorem shaped_of_array {field : String} {node : Node} {shape : Shape}
    (array : node.typeName = some "array") (made : ofArray field node = .ok shape) :
    node.Shaped shape := by
  unfold ofArray Element.ofNode at made
  split at made
  · rename_i items present
    split at made
    · cases made
    · rename_i object
      split at made
      · rename_i objectType named
        cases made
        exact .objects items objectType array present object named
      · cases made
    · rename_i typeName notObject typed
      cases made
      exact .others items typeName array present typed notObject
  · cases made

theorem shaped_of_atom {field : String} {node : Node} {shape : Shape}
    (atom : node.typeName = some "atom") (made : ofAtom field node = .ok shape) :
    node.Shaped shape := by
  unfold ofAtom at made
  split at made
  · rename_i unlisted
    cases made
    exact .atom atom unlisted
  · rename_i value present
    split at made
    · rename_i literals listed
      cases made
      exact .enumeration value literals atom present listed
    · cases made

theorem of_node_eq_ok_iff (field : String) (node : Node) (shape : Shape) :
    ofNode field node = .ok shape ↔ node.Shaped shape := by
  constructor
  · intro made
    unfold ofNode at made
    split at made
    · cases made
    · rename_i object
      exact shaped_of_object object made
    · rename_i array
      exact shaped_of_array array made
    · rename_i atom
      exact shaped_of_atom atom made
    · rename_i typeName notObject notArray notAtom typed
      cases made
      exact .scalar typeName typed notObject notArray notAtom
  · intro shaped
    cases shaped with
    | scalar typeName typed notObject notArray notAtom => simp [ofNode, typed]
    | reference objectType object named => simp [ofNode, ofObject, object, named]
    | map additional valueType object unnamed present typed =>
        simp [ofNode, ofObject, object, unnamed, present, typed]
    | objects items objectType array present object named =>
        simp [ofNode, ofArray, Element.ofNode, array, present, object, named, Except.map]
    | others items typeName array present typed notObject =>
        simp [ofNode, ofArray, Element.ofNode, array, present, typed, Except.map]
    | enumeration value literals atom present listed =>
        simp [ofNode, ofAtom, atom, present, listed]
    | atom atom unlisted => simp [ofNode, ofAtom, atom, unlisted]

end Shape

-- What is wrong with a node as a property of this name. At most one of the cases applies.
inductive Node.Refused (name : String) (node : Node) : Error → Prop where
  | untyped (absent : node.typeName = none) : Refused name node (.missingType name)
  | inline (object : node.typeName = some "object") (unnamed : node.objectType = none)
      (absent : node.additional = none) : Refused name node (.inlineObject name)
  | valueless (additional : Json) (object : node.typeName = some "object")
      (unnamed : node.objectType = none) (present : node.additional = some additional)
      (untyped : ∀ members valueType, additional = .object members →
        members.lookup "type" ≠ some (.string valueType)) :
      Refused name node (.missingMapValueType name)
  | itemless (array : node.typeName = some "array") (absent : node.items = none) :
      Refused name node (.missingItems name)
  | untypedItems (items : Node) (array : node.typeName = some "array")
      (present : node.items = some items) (absent : items.typeName = none) :
      Refused name node (.missingType (name ++ ".items"))
  | unnamedItems (items : Node) (array : node.typeName = some "array")
      (present : node.items = some items) (object : items.typeName = some "object")
      (unnamed : items.objectType = none) : Refused name node (.missingElementObjectType name)
  | unlisted (value : Json) (atom : node.typeName = some "atom")
      (present : node.enumeration = some value)
      (mixed : ∀ literals : List String, value ≠ .array (literals.map .string)) :
      Refused name node (.invalidEnumeration name)

namespace Json

theorem string_eq_some_iff (value : Json) (text : String) :
    value.string? = some text ↔ value = .string text := by
  cases value <;> simp [string?]

theorem member_text_eq_some_iff (key : String) (value : Json) (text : String) :
    (value.member? key).bind string? = some text ↔
      ∃ members, value = .object members ∧ members.lookup key = some (.string text) := by
  cases value <;> simp [member?, Option.bind_eq_some_iff, string_eq_some_iff]

theorem all_strings_iff (values : List Json) (texts : List String) :
    values.mapM string? = some texts ↔ values = texts.map .string := by
  induction values generalizing texts with
  | nil => cases texts <;> simp
  | cons value values ih =>
      cases texts with
      | nil => simp [List.mapM_cons, Option.bind_eq_some_iff]
      | cons text texts => simp [List.mapM_cons, Option.bind_eq_some_iff, string_eq_some_iff, ih]

end Json

theorem literals_eq_some_iff (value : Json) (texts : List String) :
    literals? value = some texts ↔ value = .array (texts.map .string) := by
  cases value <;> simp [literals?, Json.elements?, Json.all_strings_iff]

namespace Shape

theorem refused_of_object {field : String} {node : Node} {e : Error}
    (object : node.typeName = some "object") (failed : ofObject field node = .error e) :
    node.Refused field e := by
  unfold ofObject at failed
  split at failed
  · cases failed
  · rename_i additional unnamed present
    split at failed
    · cases failed
    · rename_i untyped
      cases failed
      refine .valueless additional object unnamed present fun members valueType whole found => ?_
      have typed := (Json.member_text_eq_some_iff _ _ _).mpr ⟨members, whole, found⟩
      cases untyped.symm.trans typed
  · rename_i unnamed absent
    cases failed
    exact .inline object unnamed absent

theorem refused_of_array {field : String} {node : Node} {e : Error}
    (array : node.typeName = some "array") (failed : ofArray field node = .error e) :
    node.Refused field e := by
  unfold ofArray Element.ofNode at failed
  split at failed
  · rename_i items present
    split at failed
    · rename_i absent
      cases failed
      exact .untypedItems items array present absent
    · rename_i object
      split at failed
      · cases failed
      · rename_i unnamed
        cases failed
        exact .unnamedItems items array present object unnamed
    · cases failed
  · rename_i absent
    cases failed
    exact .itemless array absent

theorem refused_of_atom {field : String} {node : Node} {e : Error}
    (atom : node.typeName = some "atom") (failed : ofAtom field node = .error e) :
    node.Refused field e := by
  unfold ofAtom at failed
  split at failed
  · cases failed
  · rename_i value present
    split at failed
    · cases failed
    · rename_i unlisted
      cases failed
      refine .unlisted value atom present fun literals same => ?_
      cases unlisted.symm.trans ((literals_eq_some_iff value literals).mpr same)

theorem of_node_eq_error_iff (field : String) (node : Node) (e : Error) :
    ofNode field node = .error e ↔ node.Refused field e := by
  constructor
  · intro failed
    unfold ofNode at failed
    split at failed
    · rename_i absent
      cases failed
      exact .untyped absent
    · rename_i object
      exact refused_of_object object failed
    · rename_i array
      exact refused_of_array array failed
    · rename_i atom
      exact refused_of_atom atom failed
    · cases failed
  · intro refused
    cases refused with
    | untyped absent => simp [ofNode, absent]
    | inline object unnamed absent => simp [ofNode, ofObject, object, unnamed, absent]
    | valueless additional object unnamed present untyped =>
        have valueless : (additional.member? "type").bind Json.string? = none := by
          refine Option.eq_none_iff_forall_ne_some.mpr fun valueType typed => ?_
          obtain ⟨members, whole, found⟩ := (Json.member_text_eq_some_iff _ _ _).mp typed
          exact untyped members valueType whole found
        simp [ofNode, ofObject, object, unnamed, present, valueless]
    | itemless array absent => simp [ofNode, ofArray, array, absent]
    | untypedItems items array present absent =>
        simp [ofNode, ofArray, Element.ofNode, array, present, absent, Except.map]
    | unnamedItems items array present object unnamed =>
        simp [ofNode, ofArray, Element.ofNode, array, present, object, unnamed, Except.map]
    | unlisted value atom present mixed =>
        have unlisted : ProtoSchema.literals? value = none :=
          Option.eq_none_iff_forall_ne_some.mpr fun literals listed =>
            mixed literals ((literals_eq_some_iff value literals).mp listed)
        simp [ofNode, ofAtom, atom, present, unlisted]

end Shape

namespace Node

def Fits (name : String) (node : Node) : Prop := ∀ e, ¬ node.Refused name e

theorem Shaped.fits {node : Node} {shape : Shape} (shaped : node.Shaped shape) (name : String) :
    node.Fits name := by
  intro e refused
  have made := (Shape.of_node_eq_ok_iff name node shape).mpr shaped
  have failed := (Shape.of_node_eq_error_iff name node e).mpr refused
  cases made.symm.trans failed

theorem fits_iff (name : String) (node : Node) :
    node.Fits name ↔ (Shape.ofNode name node).isOk = true := by
  cases made : Shape.ofNode name node with
  | ok shape =>
      have shaped := (Shape.of_node_eq_ok_iff name node shape).mp made
      exact iff_of_true (shaped.fits name) rfl
  | error e =>
      have refused := (Shape.of_node_eq_error_iff name node e).mp made
      exact iff_of_false (fun fits => fits e refused) Bool.false_ne_true

instance (name : String) (node : Node) : Decidable (node.Fits name) :=
  decidable_of_iff _ (fits_iff name node).symm

-- The message type of an object, and the one of the elements of a list whatever their type is.
def RefersTo (node : Node) (objectType : String) : Prop :=
  node.typeName = some "object" ∧ node.objectType = some objectType ∨
    node.typeName = some "array" ∧
      ∃ items, node.items = some items ∧ items.objectType = some objectType

def ruledReference (node : Node) : Option String :=
  if node.typeName = some "object" then node.objectType
  else if node.typeName = some "array" then do (← node.items).objectType
  else none

theorem ruled_reference_iff (node : Node) (objectType : String) :
    node.ruledReference = some objectType ↔ node.RefersTo objectType := by
  unfold ruledReference RefersTo
  by_cases object : node.typeName = some "object"
  · simp [object]
  · by_cases array : node.typeName = some "array" <;>
      simp [object, array, Option.bind_eq_some_iff]

theorem Shaped.ruled_reference {node : Node} {shape : Shape} (shaped : node.Shaped shape) :
    shape.reference? = node.ruledReference := by
  unfold ruledReference
  cases shaped with
  | scalar typeName typed notObject notArray notAtom =>
      simp [typed, notObject, notArray, Shape.reference?]
  | reference objectType object named => simp [object, named, Shape.reference?]
  | map additional valueType object unnamed present typed =>
      simp [object, unnamed, Shape.reference?]
  | objects items objectType array present object named =>
      simp [array, present, named, Shape.reference?]
  | others items typeName array present typed notObject =>
      simp [array, present, Shape.reference?]
  | enumeration value literals atom present listed => simp [atom, Shape.reference?]
  | atom atom unlisted => simp [atom, Shape.reference?]

end Node

end ProtoSchema
