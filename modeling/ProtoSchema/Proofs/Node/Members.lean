import ProtoSchema.Node.Reader
import ProtoSchema.Proofs.FirstFailure

set_option autoImplicit false

namespace ProtoSchema.Node

def Attribute.copy (source target : Node) : Attribute → Node
  | .plain .typeName => { target with typeName := source.typeName }
  | .plain .enumeration => { target with enumeration := source.enumeration }
  | .plain .objectType => { target with objectType := source.objectType }
  | .plain .additional => { target with additional := source.additional }
  | .plain .required => { target with required := source.required }
  | .plain .tag => { target with tag := source.tag }
  | .plain .messageName => { target with messageName := source.messageName }
  | .properties => { target with properties := source.properties }
  | .items => { target with items := source.items }

theorem Attribute.copy_comm {a b : Attribute} (different : a ≠ b) (s t node : Node) :
    b.copy t (a.copy s node) = a.copy s (b.copy t node) := by
  rcases a with slot | _ | _ <;> rcases b with other | _ | _
  case plain.plain => cases slot <;> cases other <;> first | rfl | exact absurd rfl different
  case plain.properties | plain.items => cases slot <;> rfl
  case properties.plain | items.plain => cases other <;> rfl
  all_goals first | rfl | exact absurd rfl different

theorem set_plain_eq (node : Node) (slot : Plain) (value : Json) :
    setPlain node slot value =
      (setPlain empty slot value).map (Attribute.copy · node (.plain slot)) := by
  cases slot
  case enumeration | additional | required => rfl
  case tag => cases read : readTag value <;> simp [setPlain, read, Except.map, Attribute.copy]
  all_goals cases read : readText value <;> simp [setPlain, read, Except.map, Attribute.copy]

def Attribute.read (value : Json) : Attribute → Except Misfit Node
  | .plain slot => setPlain empty slot value
  | .items =>
    if value.isNull then .ok empty
    else (Node.read value).map fun items => { empty with items := some items }
  | .properties => (readProperties value).map fun properties => { empty with properties }

theorem read_members_nil (node : Node) : readMembers [] node = .ok node := by
  rw [readMembers]

theorem read_members_unknown {key : String} (unknown : Attribute.ofKey? key = none) (value : Json)
    (rest : List (String × Json)) (node : Node) :
    readMembers ((key, value) :: rest) node = readMembers rest node := by
  rw [readMembers, unknown]

theorem read_members_known {key : String} {a : Attribute} (known : Attribute.ofKey? key = some a)
    (value : Json) (rest : List (String × Json)) (node : Node) :
    readMembers ((key, value) :: rest) node =
      (a.read value).bind fun source => readMembers rest (a.copy source node) := by
  rw [readMembers, known]
  cases a with
  | plain slot =>
      simp only [Attribute.read]
      rw [set_plain_eq]
      cases setPlain empty slot value <;> rfl
  | items =>
      simp only [Attribute.read]
      split
      · rfl
      · cases Node.read value <;> rfl
  | properties =>
      simp only [Attribute.read]
      cases readProperties value <;> rfl

theorem read_positions_cons (count : Nat) (a : Attribute) (attributes : List Attribute)
    (value : Json) (rest : List Json) (node : Node) :
    readPositions count (a :: attributes) (value :: rest) node =
      (a.read value).bind fun source =>
        readPositions count attributes rest (a.copy source node) := by
  cases a with
  | plain slot =>
      rw [readPositions, set_plain_eq]
      simp only [Attribute.read]
      cases setPlain empty slot value <;> rfl
  | items =>
      rw [readPositions]
      simp only [Attribute.read]
      split
      · rfl
      · cases Node.read value <;> rfl
  | properties =>
      rw [readPositions]
      simp only [Attribute.read]
      cases readProperties value <;> rfl

theorem read_members_append (a b : List (String × Json)) (node : Node) :
    readMembers (a ++ b) node = (readMembers a node).bind (readMembers b) := by
  induction a generalizing node with
  | nil => rw [read_members_nil, List.nil_append]; rfl
  | cons member rest ih =>
      obtain ⟨key, value⟩ := member
      rw [List.cons_append]
      cases found : Attribute.ofKey? key with
      | none => rw [read_members_unknown found, read_members_unknown found, ih]
      | some a =>
          rw [read_members_known found, read_members_known found]
          cases a.read value with
          | error e => rfl
          | ok source => exact ih (a.copy source node)

def recognized (members : List (String × Json)) : List (String × Json) :=
  members.filter fun member => (Attribute.ofKey? member.1).isSome

theorem read_members_recognized (members : List (String × Json)) (node : Node) :
    readMembers (recognized members) node = readMembers members node := by
  induction members generalizing node with
  | nil => rfl
  | cons member rest ih =>
      obtain ⟨key, value⟩ := member
      cases found : Attribute.ofKey? key with
      | none =>
          have skipped : recognized ((key, value) :: rest) = recognized rest := by
            simp [recognized, found]
          rw [skipped, read_members_unknown found, ih]
      | some a =>
          have kept : recognized ((key, value) :: rest) = (key, value) :: recognized rest := by
            simp [recognized, found]
          rw [kept, read_members_known found, read_members_known found]
          simp only [ih]

theorem Attribute.copy_properties {a : Attribute} (other : a ≠ .properties) (source target : Node) :
    (a.copy source target).properties = target.properties := by
  rcases a with slot | _ | _
  · cases slot <;> rfl
  · exact absurd rfl other
  · rfl

theorem read_members_properties {members : List (String × Json)} {node result : Node}
    (absent : ∀ member ∈ members, member.1 ≠ Attribute.properties.key)
    (done : readMembers members node = .ok result) : result.properties = node.properties := by
  induction members generalizing node with
  | nil =>
      rw [read_members_nil] at done
      cases done
      rfl
  | cons member rest ih =>
      obtain ⟨key, value⟩ := member
      have later := fun other inside => absent other (List.mem_cons_of_mem _ inside)
      cases found : Attribute.ofKey? key with
      | none =>
          rw [read_members_unknown found] at done
          exact ih later done
      | some a =>
          have other : a ≠ .properties := by
            rintro rfl
            exact absent _ List.mem_cons_self (Attribute.key_of_found found).symm
          rw [read_members_known found] at done
          obtain ⟨source, _, others⟩ := bind_eq_ok done
          exact (ih later others).trans (Attribute.copy_properties other source node)

theorem read_positions_properties {count : Nat} {attributes : List Attribute} {values : List Json}
    {node result : Node} (absent : Attribute.properties ∉ attributes)
    (done : readPositions count attributes values node = .ok result) :
    result.properties = node.properties := by
  induction attributes generalizing values node with
  | nil =>
      cases values <;> rw [readPositions] at done <;> cases done
      rfl
  | cons a rest ih =>
      cases values with
      | nil =>
          rw [readPositions] at done
          cases done
          rfl
      | cons value values =>
          rw [read_positions_cons] at done
          obtain ⟨source, _, others⟩ := bind_eq_ok done
          have kept := ih (fun inside => absent (List.mem_cons_of_mem a inside)) others
          have other : a ≠ .properties := fun same => absent (same ▸ List.mem_cons_self)
          exact kept.trans (Attribute.copy_properties other source node)

theorem read_each_append (a b : List (String × Json)) :
    readEach (a ++ b) = (readEach a).bind fun first => (readEach b).map (first ++ ·) := by
  induction a with
  | nil =>
      rw [List.nil_append, readEach]
      cases readEach b <;> rfl
  | cons member rest ih =>
      obtain ⟨name, value⟩ := member
      rw [List.cons_append, readEach, readEach, ih]
      cases Node.read value with
      | error cause => rfl
      | ok node => cases readEach rest <;> cases readEach b <;> rfl

-- The properties that members stand for, in the order of the members.
def ReadInOrder (members : List (String × Json)) (properties : List (String × Node)) : Prop :=
  List.Forall₂ (fun member property => member.1 = property.1 ∧ Node.read member.2 = .ok property.2)
    members properties

theorem read_each_eq_ok {members : List (String × Json)} {properties : List (String × Node)}
    (done : readEach members = .ok properties) : ReadInOrder members properties := by
  induction members generalizing properties with
  | nil =>
      rw [readEach] at done
      cases done
      exact .nil
  | cons member rest ih =>
      obtain ⟨name, value⟩ := member
      rw [readEach] at done
      cases first : Node.read value with
      | error cause => rw [first] at done; cases done
      | ok node =>
          rw [first] at done
          obtain ⟨tail, others, built⟩ := bind_eq_ok done
          cases built
          exact .cons ⟨rfl, first⟩ (ih others)

end ProtoSchema.Node
