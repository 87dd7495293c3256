import Mathlib.Data.List.Nodup
import Mathlib.Logic.Relation
import ProtoSchema.Proofs.Node.Inside

set_option autoImplicit false

namespace ProtoSchema.Node

variable {E : Misfit → Misfit → Prop} {change : List (String × Json) → List (String × Json) → Prop}

-- Other members than the attributes may come, go and change.
def SameAttributes (a b : List (String × Json)) : Prop := recognized a = recognized b

-- The attributes may change their order too. No attribute is given twice.
def Rearranged (a b : List (String × Json)) : Prop :=
  ((recognized a).map (·.1)).Nodup ∧ (recognized a).Perm (recognized b)

theorem read_members_swap {first second : String × Json} {a b : Attribute} (different : a ≠ b)
    (found : Attribute.ofKey? first.1 = some a) (otherFound : Attribute.ofKey? second.1 = some b)
    (node : Node) :
    Alike (fun _ _ => True) (readMembers [first, second] node)
      (readMembers [second, first] node) := by
  obtain ⟨key, value⟩ := first
  obtain ⟨otherKey, other⟩ := second
  simp only [read_members_known found, read_members_known otherFound, read_members_nil]
  cases a.read value with
  | error e => cases b.read other <;> exact .error trivial
  | ok s =>
      cases b.read other with
      | error f => exact .error trivial
      | ok t =>
          simp only [Except.bind, Attribute.copy_comm different]
          exact .ok _

theorem read_members_perm {a b : List (String × Json)} (permuted : a.Perm b)
    (known : ∀ member ∈ a, (Attribute.ofKey? member.1).isSome) (distinct : (a.map (·.1)).Nodup)
    (node : Node) : Alike (fun _ _ => True) (readMembers a node) (readMembers b node) := by
  have same (x : Except Misfit Node) : Alike (fun _ _ => True) x x :=
    Alike.refl any_reasons x
  induction permuted generalizing node with
  | nil => exact same _
  | @cons member a b _ ih =>
      have split (rest : List (String × Json)) := read_members_append [member] rest node
      simp only [List.singleton_append] at split
      rw [split a, split b]
      have others := fun other inside => known other (List.mem_cons_of_mem member inside)
      exact (same _).bind fun next => ih others (List.nodup_cons.mp distinct).2 next
  | swap first second rest =>
      obtain ⟨a, found⟩ := Option.isSome_iff_exists.mp (known second (by simp))
      obtain ⟨b, otherFound⟩ := Option.isSome_iff_exists.mp (known first (by simp))
      have different : a ≠ b := by
        rintro rfl
        have heads : second.1 = first.1 :=
          (Attribute.key_of_found found).symm.trans (Attribute.key_of_found otherFound)
        simp [heads] at distinct
      have split (x y : String × Json) := read_members_append [x, y] rest node
      simp only [List.cons_append, List.nil_append] at split
      rw [split second first, split first second]
      exact (read_members_swap different found otherFound node).bind fun next => same _
  | trans first _ ih ih' =>
      have front := ih known distinct node
      have back := ih' (fun member inside => known member (first.mem_iff.mpr inside))
        ((first.map (·.1)).nodup_iff.mp distinct) node
      exact front.trans any_reasons back

theorem read_members_rearranged {a b : List (String × Json)} (rearranged : Rearranged a b)
    (node : Node) : Alike (fun _ _ => True) (readMembers a node) (readMembers b node) := by
  rw [← read_members_recognized a, ← read_members_recognized b]
  have known := fun member (inside : member ∈ recognized a) => (List.mem_filter.mp inside).2
  exact read_members_perm rearranged.2 known rearranged.1 node

theorem read_members_same {a b : List (String × Json)} (same : SameAttributes a b) (node : Node) :
    Alike Eq (readMembers a node) (readMembers b node) := by
  rw [← read_members_recognized a, same, read_members_recognized b]
  exact Alike.refl same_reasons _

-- One node changed: the value itself, or a node inside it at any depth. The nodes on the way to it
-- may be lists.
inductive Edit (change : List (String × Json) → List (String × Json) → Prop) : Json → Json → Prop
  | here {a b : List (String × Json)} (changed : change a b) : Edit change (.object a) (.object b)
  | items (before after : List (String × Json)) {v w : Json} (inner : Edit change v w) :
      Edit change (.object (before ++ ("items", v) :: after))
        (.object (before ++ ("items", w) :: after))
  | property (before after front back : List (String × Json)) (name : String) {v w : Json}
      (inner : Edit change v w) :
      Edit change
        (.object (before ++ ("properties", .object (front ++ (name, v) :: back)) :: after))
        (.object (before ++ ("properties", .object (front ++ (name, w) :: back)) :: after))
  | listedItems (typeName properties : Json) (after : List Json) {v w : Json}
      (inner : Edit change v w) :
      Edit change (.array (typeName :: properties :: v :: after))
        (.array (typeName :: properties :: w :: after))
  | listedProperty (typeName : Json) (front back : List (String × Json)) (name : String)
      (after : List Json) {v w : Json} (inner : Edit change v w) :
      Edit change (.array (typeName :: .object (front ++ (name, v) :: back) :: after))
        (.array (typeName :: .object (front ++ (name, w) :: back) :: after))

theorem Edit.not_null {v w : Json} (edit : Edit change v w) :
    v.isNull = false ∧ w.isNull = false := by
  cases edit <;> exact ⟨rfl, rfl⟩

theorem read_edited (reasons : Reasons E)
    (members : ∀ a b, change a b → ∀ node, Alike E (readMembers a node) (readMembers b node))
    {v w : Json} (edit : Edit change v w) : Alike E (Node.read v) (Node.read w) := by
  induction edit with
  | here changed =>
      rw [Node.read, Node.read]
      exact members _ _ changed empty
  | items before after inner ih =>
      exact (Slot.items before after).read_fill reasons inner.not_null ih
  | property before after front back name inner ih =>
      exact (Slot.property before after front back name).read_fill reasons inner.not_null ih
  | listedItems typeName properties after inner ih =>
      exact (Slot.listedItems typeName properties after).read_fill reasons inner.not_null ih
  | listedProperty typeName front back name after inner ih =>
      exact (Slot.listedProperty typeName front back name after).read_fill reasons inner.not_null ih

theorem root_edited (reasons : Reasons E)
    (members : ∀ a b, change a b → ∀ node, Alike E (readMembers a node) (readMembers b node))
    {v w : Json} (edit : Edit change v w) : Alike E (ofJson v) (ofJson w) := by
  have nodes := read_edited reasons members edit
  cases edit with
  | here | items | property => simpa only [ofJson, Node.read] using nodes
  | listedItems | listedProperty => exact .ok empty

theorem root_edits (reasons : Reasons E)
    (members : ∀ a b, change a b → ∀ node, Alike E (readMembers a node) (readMembers b node))
    {v w : Json} (edits : Relation.ReflTransGen (Edit change) v w) :
    Alike E (ofJson v) (ofJson w) := by
  induction edits with
  | refl => exact Alike.refl reasons _
  | tail _ edit ih => exact ih.trans reasons (root_edited reasons members edit)

def givenProperties : Json → Option Json
  | .object members => members.lookup Attribute.properties.key
  | .array values => values[1]?
  | _ => none

def GivenOnce : Json → Prop
  | .object members => ((recognized members).map (·.1)).Nodup
  | _ => True

theorem properties_of_read {entries : List (String × Json)} {source : Node}
    (done : Attribute.properties.read (.object entries) = .ok source) (target : Node) :
    ReadInOrder entries (Attribute.properties.copy source target).properties := by
  simp only [Attribute.read, readProperties] at done
  obtain ⟨properties, each, rfl⟩ := map_eq_ok done
  exact read_each_eq_ok each

theorem not_again {a : Attribute} {before after : List (String × Json)} {value : Json}
    (once : ((recognized (before ++ (a.key, value) :: after)).map (·.1)).Nodup) :
    ∀ member ∈ after, member.1 ≠ a.key := by
  have known := Attribute.of_key_key a
  intro member inside same
  have again : member ∈ recognized after :=
    List.mem_filter.mpr ⟨inside, by rw [same, known]; rfl⟩
  simp only [recognized, List.filter_append, List.filter_cons, known, Option.isSome_some,
    if_true, List.map_append, List.map_cons] at once
  have fresh := (List.nodup_cons.mp (List.nodup_append.mp once).2.1).1
  exact fresh (List.mem_map.mpr ⟨member, again, same⟩)

theorem member_properties_in_order {members entries : List (String × Json)} {node : Node}
    (once : ((recognized members).map (·.1)).Nodup) (done : readMembers members empty = .ok node)
    (given : members.lookup Attribute.properties.key = some (.object entries)) :
    ReadInOrder entries node.properties := by
  obtain ⟨before, after, rfl, _⟩ := List.lookup_eq_some_iff.mp given
  rw [read_members_append] at done
  obtain ⟨first, _, rest⟩ := bind_eq_ok done
  rw [read_members_known (Attribute.of_key_key .properties)] at rest
  obtain ⟨source, own, later⟩ := bind_eq_ok rest
  rw [read_members_properties (not_again once) later]
  exact properties_of_read own first

theorem listed_properties_in_order {values : List Json} {entries : List (String × Json)}
    {node : Node} (done : Node.read (.array values) = .ok node)
    (given : values[1]? = some (.object entries)) : ReadInOrder entries node.properties := by
  match values, given with
  | typeName :: _ :: values, rfl =>
      rw [Node.read, Attribute.all, read_positions_cons] at done
      obtain ⟨first, _, rest⟩ := bind_eq_ok done
      rw [read_positions_cons] at rest
      obtain ⟨source, own, later⟩ := bind_eq_ok rest
      rw [read_positions_properties (by decide) later]
      exact properties_of_read own _

theorem properties_in_order {value : Json} {node : Node} {entries : List (String × Json)}
    (once : GivenOnce value) (done : Node.read value = .ok node)
    (given : givenProperties value = some (.object entries)) :
    ReadInOrder entries node.properties := by
  cases value with
  | object members =>
      rw [Node.read] at done
      exact member_properties_in_order once done given
  | array values => exact listed_properties_in_order done given
  | _ => cases given

theorem rearranged_document (value edited : Json) :
    (Relation.ReflTransGen (Edit Rearranged) value edited →
      (∃ node, ofJson value = .ok node ∧ ofJson edited = .ok node) ∨
        ∃ e f, ofJson value = .error e ∧ ofJson edited = .error f) ∧
    (Relation.ReflTransGen (Edit SameAttributes) value edited → ofJson value = ofJson edited) ∧
    (∀ node entries, GivenOnce value → Node.read value = .ok node →
      givenProperties value = some (.object entries) → ReadInOrder entries node.properties) ∧
    ∀ members, value = .object members → ofJson value = Node.read value := by
  refine ⟨fun edits => ?_, fun edits => ?_, fun node entries => properties_in_order, ?_⟩
  · exact (root_edits any_reasons (fun _ _ => read_members_rearranged) edits).both
  · exact (root_edits same_reasons (fun _ _ => read_members_same) edits).eq
  · rintro members rfl
    rw [Node.read, ofJson]

def scores (elements : Json) : Json :=
  .object [("properties", .object [("scores", .array [.string "array", .object [], elements])]),
    ("type", .string "object")]

def plainElements : Json := .object [("type", .string "Ref"), ("object_type", .string "Score")]

def notedElements : Json :=
  .object [("title", .int 1), ("object_type", .string "Score"), ("type", .string "Ref")]

def notedScores : Json :=
  .object [("type", .string "object"), ("properties", .object [
    ("scores", .array [.string "array", .object [], notedElements])]), ("$id", .null)]

theorem scores_rearranged :
    Relation.ReflTransGen (Edit Rearranged) (scores plainElements) notedScores := by
  have elements : Edit Rearranged plainElements notedElements :=
    .here ⟨by decide, List.Perm.swap _ _ []⟩
  have inner : Edit Rearranged (scores plainElements) (scores notedElements) :=
    .property [] _ [] [] "scores" (.listedItems _ _ [] elements)
  exact .tail (.single inner) (.here ⟨by decide, List.Perm.swap _ _ []⟩)

theorem scores_refused :
    Relation.ReflTransGen (Edit SameAttributes) (scores (.object [("type", .int 1)]))
      (scores (.object [("title", .null), ("type", .int 1)])) :=
  .single (.property [] _ [] [] "scores" (.listedItems _ _ [] (.here rfl)))

theorem scores_read :
    (∃ node, ofJson (scores plainElements) = .ok node ∧ ofJson notedScores = .ok node ∧
      ReadInOrder [("scores", .array [.string "array", .object [], plainElements])]
        node.properties) ∧
    ofJson (scores (.object [("title", .null), ("type", .int 1)])) =
      .error (.inProperty "scores" (.wrongKind (.int 1) .string)) := by
  obtain ⟨read, _, inOrder, root⟩ := rearranged_document (scores plainElements) notedScores
  have refused := (rearranged_document _ _).2.1 scores_refused
  have once : GivenOnce (scores plainElements) := by
    show ((recognized _).map (·.1)).Nodup
    decide
  constructor
  · rcases read scores_rearranged with ⟨node, plain, noted⟩ | ⟨_, _, failed, _⟩
    · refine ⟨node, plain, noted, inOrder node _ once ?_ rfl⟩
      rw [← root _ rfl, plain]
    · cases failed
  · rw [← refused]
    rfl

end ProtoSchema.Node
