import ProtoSchema.Proofs.Node.Members

set_option autoImplicit false

namespace ProtoSchema.Node

variable {α β : Type} {E : Misfit → Misfit → Prop}

inductive Alike (E : Misfit → Misfit → Prop) : Except Misfit α → Except Misfit α → Prop
  | ok (a : α) : Alike E (.ok a) (.ok a)
  | error {e f : Misfit} (related : E e f) : Alike E (.error e) (.error f)

-- Reasons that stay related when both are put inside a property.
structure Reasons (E : Misfit → Misfit → Prop) : Prop where
  refl : ∀ e, E e e
  trans : ∀ {e f g}, E e f → E f g → E e g
  inProperty : ∀ name {e f}, E e f → E (.inProperty name e) (.inProperty name f)

theorem same_reasons : Reasons Eq where
  refl := Eq.refl
  trans := Eq.trans
  inProperty := fun name _ _ same => congrArg (Misfit.inProperty name) same

theorem any_reasons : Reasons fun _ _ => True where
  refl := fun _ => trivial
  trans := fun _ _ => trivial
  inProperty := fun _ _ _ _ => trivial

namespace Alike

theorem refl (reasons : Reasons E) (x : Except Misfit α) : Alike E x x := by
  cases x with
  | error e => exact .error (reasons.refl e)
  | ok a => exact .ok a

theorem trans (reasons : Reasons E) {x y z : Except Misfit α} (xy : Alike E x y)
    (yz : Alike E y z) : Alike E x z := by
  cases xy with
  | ok a => exact yz
  | error first =>
      cases yz with
      | error second => exact .error (reasons.trans first second)

theorem bind {x y : Except Misfit α} {f g : α → Except Misfit β} (same : Alike E x y)
    (after : ∀ a, Alike E (f a) (g a)) : Alike E (x.bind f) (y.bind g) := by
  cases same with
  | ok a => exact after a
  | error related => exact .error related

theorem map {x y : Except Misfit α} (same : Alike E x y) (f : α → β) :
    Alike E (x.map f) (y.map f) := by
  cases same with
  | ok a => exact .ok (f a)
  | error related => exact .error related

theorem eq {x y : Except Misfit α} (same : Alike Eq x y) : x = y := by
  cases same with
  | ok a => rfl
  | error related => rw [related]

theorem both {x y : Except Misfit α} (same : Alike E x y) :
    (∃ a, x = .ok a ∧ y = .ok a) ∨ ∃ e f, x = .error e ∧ y = .error f := by
  cases same with
  | ok a => exact .inl ⟨a, rfl, rfl⟩
  | error => exact .inr ⟨_, _, rfl, rfl⟩

end Alike

theorem read_members_replaced (reasons : Reasons E) {a : Attribute}
    (before after : List (String × Json)) {v w : Json} (same : Alike E (a.read v) (a.read w))
    (node : Node) :
    Alike E (readMembers (before ++ (a.key, v) :: after) node)
      (readMembers (before ++ (a.key, w) :: after) node) := by
  rw [read_members_append, read_members_append]
  refine (Alike.refl reasons _).bind fun next => ?_
  rw [read_members_known (Attribute.of_key_key a), read_members_known (Attribute.of_key_key a)]
  exact same.bind fun source => Alike.refl reasons _

theorem read_each_replaced (reasons : Reasons E) (front back : List (String × Json))
    (name : String) {v w : Json} (same : Alike E (Node.read v) (Node.read w)) :
    Alike E (readEach (front ++ (name, v) :: back)) (readEach (front ++ (name, w) :: back)) := by
  rw [read_each_append, read_each_append]
  refine (Alike.refl reasons _).bind fun first => Alike.map ?_ _
  rw [readEach, readEach]
  generalize Node.read v = x at same ⊢
  generalize Node.read w = y at same ⊢
  cases same with
  | ok node => exact Alike.refl reasons _
  | error related => exact .error (reasons.inProperty name related)

-- Positions are read in turn, so the ones before a changed one say the same and the ones after it
-- start from the same node.
theorem read_positions_replaced (reasons : Reasons E) {a : Attribute} (count : Nat)
    (attributes : List Attribute) (after : List Json) {v w : Json}
    (same : Alike E (a.read v) (a.read w)) (node : Node) :
    Alike E (readPositions count (a :: attributes) (v :: after) node)
      (readPositions count (a :: attributes) (w :: after) node) := by
  rw [read_positions_cons, read_positions_cons]
  exact same.bind fun source => Alike.refl reasons _

theorem items_replaced {v w : Json} (present : v.isNull = false ∧ w.isNull = false)
    (same : Alike E (Node.read v) (Node.read w)) :
    Alike E (Attribute.items.read v) (Attribute.items.read w) := by
  simp only [Attribute.read, present]
  exact same.map _

theorem properties_replaced (reasons : Reasons E) (front back : List (String × Json))
    (name : String) {v w : Json} (same : Alike E (Node.read v) (Node.read w)) :
    Alike E (Attribute.properties.read (.object (front ++ (name, v) :: back)))
      (Attribute.properties.read (.object (front ++ (name, w) :: back))) := by
  simp only [Attribute.read, readProperties]
  exact (read_each_replaced reasons front back name same).map _

inductive Slot where
  | items (before after : List (String × Json))
  | property (before after front back : List (String × Json)) (name : String)
  | listedItems (typeName properties : Json) (after : List Json)
  | listedProperty (typeName : Json) (front back : List (String × Json)) (name : String)
    (after : List Json)

namespace Slot

def fill : Slot → Json → Json
  | .items before after, v => .object (before ++ ("items", v) :: after)
  | .property before after front back name, v =>
    .object (before ++ ("properties", .object (front ++ (name, v) :: back)) :: after)
  | .listedItems typeName properties after, v => .array (typeName :: properties :: v :: after)
  | .listedProperty typeName front back name after, v =>
    .array (typeName :: .object (front ++ (name, v) :: back) :: after)

theorem fill_not_null (slot : Slot) (v : Json) : (slot.fill v).isNull = false := by
  cases slot <;> rfl

theorem read_fill (reasons : Reasons E) (slot : Slot) {v w : Json}
    (present : v.isNull = false ∧ w.isNull = false)
    (same : Alike E (Node.read v) (Node.read w)) :
    Alike E (Node.read (slot.fill v)) (Node.read (slot.fill w)) := by
  cases slot with
  | items before after =>
      rw [fill, fill, Node.read, Node.read]
      exact read_members_replaced reasons before after (items_replaced present same) empty
  | property before after front back name =>
      rw [fill, fill, Node.read, Node.read]
      exact read_members_replaced reasons before after
        (properties_replaced reasons front back name same) empty
  | listedItems typeName properties after =>
      rw [fill, fill, Node.read, Node.read, Attribute.all, read_positions_cons,
        read_positions_cons]
      refine (Alike.refl reasons _).bind fun first => ?_
      rw [read_positions_cons, read_positions_cons]
      refine (Alike.refl reasons _).bind fun second => ?_
      exact read_positions_replaced reasons _ _ after (items_replaced present same) _
  | listedProperty typeName front back name after =>
      rw [fill, fill, Node.read, Node.read, Attribute.all, read_positions_cons,
        read_positions_cons]
      refine (Alike.refl reasons _).bind fun first => ?_
      exact read_positions_replaced reasons _ _ after
        (properties_replaced reasons front back name same) _

theorem root_fill (slot : Slot) {v w : Json}
    (same : Alike E (Node.read (slot.fill v)) (Node.read (slot.fill w))) :
    Alike E (ofJson (slot.fill v)) (ofJson (slot.fill w)) := by
  cases slot with
  | items | property => simpa only [ofJson, fill, Node.read] using same
  | listedItems | listedProperty => exact .ok empty

end Slot

end ProtoSchema.Node
