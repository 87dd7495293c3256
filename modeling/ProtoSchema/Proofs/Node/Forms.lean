import Mathlib.Logic.Relation
import ProtoSchema.Proofs.Node.Inside

set_option autoImplicit false

namespace ProtoSchema.Node

def attributeNames : List String :=
  ["type", "properties", "items", "enum", "object_type", "additionalProperties", "required",
    "protobuf_sequence_number", "protobuf_name"]

theorem attribute_names : Attribute.all.map Attribute.key = attributeNames := rfl

def named (values : List Json) : Json := .object (attributeNames.zip values)

theorem named_take (values : List Json) : named (values.take 9) = named values := by
  have few : (attributeNames.zip values).length ≤ 9 := by
    rw [List.length_zip]
    exact Nat.min_le_left _ _
  have names : attributeNames.take 9 = attributeNames := rfl
  rw [named, named, ← List.take_of_length_le few, List.zip_eq_zipWith,
    List.zip_eq_zipWith, List.take_zipWith, names]

-- Position by position a value sets the same attribute as under its name, so the readings go the
-- same way until one of the two lists ends.
theorem read_positions_named (count : Nat) (attributes : List Attribute) (values : List Json)
    (node : Node) :
    readPositions count attributes values node =
      (readMembers ((attributes.map Attribute.key).zip values) node).bind fun done =>
        if values.length ≤ attributes.length then .ok done else .error (.tooManyAttributes count) := by
  induction attributes generalizing values node with
  | nil => cases values <;> rfl
  | cons a attributes ih =>
      cases values with
      | nil => rfl
      | cons value rest =>
          rw [read_positions_cons, List.map_cons, List.zip_cons_cons,
            read_members_known (Attribute.of_key_key a)]
          cases a.read value with
          | error cause => rfl
          | ok source => simpa [Except.bind] using ih rest (a.copy source node)

theorem read_list (values : List Json) :
    Node.read (.array values) = (Node.read (named values)).bind fun node =>
      if values.length ≤ 9 then .ok node else .error (.tooManyAttributes values.length) := by
  rw [named, Node.read, Node.read, read_positions_named, attribute_names]
  rfl

theorem read_short_list {values : List Json} (few : values.length ≤ 9) :
    Node.read (.array values) = Node.read (named values) := by
  rw [read_list]
  cases Node.read (named values) with
  | error cause => rfl
  | ok node => exact if_pos few

theorem read_long_list {values : List Json} (many : 9 < values.length) :
    (∀ cause, Node.read (named (values.take 9)) = .error cause →
      Node.read (.array values) = .error cause) ∧
    ∀ node, Node.read (named (values.take 9)) = .ok node →
      Node.read (.array values) = .error (.tooManyAttributes values.length) := by
  rw [named_take]
  constructor
  · intro cause refused
    rw [read_list, refused]
    rfl
  · intro node done
    rw [read_list, done]
    exact if_neg (Nat.not_le.mpr many)

inductive Reworded : Json → Json → Prop
  | inside (slot : Slot) (way : List Slot) {values : List Json} (few : values.length ≤ 9) :
      Reworded (slot.fill (way.foldr Slot.fill (.array values)))
        (slot.fill (way.foldr Slot.fill (named values)))

theorem read_way (way : List Slot) {v w : Json} (present : v.isNull = false ∧ w.isNull = false)
    (same : Node.read v = Node.read w) :
    Node.read (way.foldr Slot.fill v) = Node.read (way.foldr Slot.fill w) ∧
      (way.foldr Slot.fill v).isNull = false ∧ (way.foldr Slot.fill w).isNull = false := by
  induction way with
  | nil => exact ⟨same, present⟩
  | cons slot way ih =>
      obtain ⟨inner, filled⟩ := ih
      have alike := slot.read_fill same_reasons filled (inner ▸ Alike.refl same_reasons _)
      exact ⟨alike.eq, slot.fill_not_null _, slot.fill_not_null _⟩

theorem read_reworded {v w : Json} (reworded : Reworded v w) :
    Node.read v = Node.read w ∧ ofJson v = ofJson w := by
  obtain ⟨slot, way, few⟩ := reworded
  have nodes := (read_way (slot :: way) ⟨rfl, rfl⟩ (read_short_list few)).1
  exact ⟨nodes, (slot.root_fill (nodes ▸ Alike.refl same_reasons _)).eq⟩

theorem forms_read_alike :
    (∀ values, values.length ≤ 9 →
      Node.read (.array values) = Node.read (.object (attributeNames.zip values))) ∧
    (∀ values, 9 < values.length →
      (∀ cause, Node.read (.object (attributeNames.zip (values.take 9))) = .error cause →
        Node.read (.array values) = .error cause) ∧
      ∀ node, Node.read (.object (attributeNames.zip (values.take 9))) = .ok node →
        Node.read (.array values) = .error (.tooManyAttributes values.length)) ∧
    ∀ v w, Relation.EqvGen Reworded v w → Node.read v = Node.read w ∧ ofJson v = ofJson w := by
  refine ⟨fun values => read_short_list, fun values => read_long_list, fun v w chain => ?_⟩
  induction chain with
  | rel v w reworded => exact read_reworded reworded
  | refl v => exact ⟨rfl, rfl⟩
  | symm v w _ ih => exact ⟨ih.1.symm, ih.2.symm⟩
  | trans u v w _ _ first second => exact ⟨first.1.trans second.1, first.2.trans second.2⟩

-- Elements that refer to a message type, and a list of ten values, the last of which has no place.
def elementValues : List Json := [.string "Ref", .object [], .null, .null, .string "Score"]

def overlongValues : List Json := .string "Ref" :: .object [] :: List.replicate 8 .null

def scoresWith (elements : Json) : Json :=
  .object [("properties", .object [("scores", .array [.string "array", .object [], elements])])]

theorem elements_read_alike :
    Node.read (.array elementValues) =
      Node.read (.object [("type", .string "Ref"), ("properties", .object []), ("items", .null),
        ("enum", .null), ("object_type", .string "Score")]) ∧
    Node.read (.array overlongValues) = .error (.tooManyAttributes 10) ∧
    (∃ cause, Node.read (.array (.bool true :: overlongValues)) = .error cause ∧
      cause.message = "invalid type: boolean `true`, expected a string") ∧
    ofJson (scoresWith (.array elementValues)) = ofJson (scoresWith (named elementValues)) := by
  obtain ⟨short, long, anywhere⟩ := forms_read_alike
  have overlong := (long overlongValues (by decide)).2 _ rfl
  have refused := (long (.bool true :: overlongValues) (by decide)).1 _ rfl
  have reworded : Reworded (scoresWith (.array elementValues)) (scoresWith (named elementValues)) :=
    .inside (.property [] [] [] [] "scores") [.listedItems (.string "array") (.object []) []]
      (by decide)
  exact ⟨short elementValues (by decide), overlong, ⟨_, refused, by decide⟩,
    (anywhere _ _ (.rel _ _ reworded)).2⟩

end ProtoSchema.Node
