import ProtoSchema.Session
import ProtoSchema.Proofs.Shapes

set_option autoImplicit false

namespace ProtoSchema

namespace Property

def attempt (property : String × Node) : Except Error Property := ofNode property.1 property.2

theorem of_node_eq_ok_iff (name : String) (node : Node) (property : Property) :
    ofNode name node = .ok property ↔
      ∃ shape, Shape.ofNode name node = .ok shape ∧ property = ⟨name, node, shape⟩ := by
  cases shaped : Shape.ofNode name node <;> simp [ofNode, shaped, Except.map, eq_comm]

theorem of_node_eq_error_iff (name : String) (node : Node) (e : Error) :
    ofNode name node = .error e ↔ Shape.ofNode name node = .error e := by
  cases shaped : Shape.ofNode name node <;> simp [ofNode, shaped, Except.map]

theorem attempt_failure (properties : List (String × Node)) :
    firstFailure attempt properties =
      firstFailure (fun property => Shape.ofNode property.1 property.2) properties := by
  have each (property : String × Node) :
      failure? (attempt property) = failure? (Shape.ofNode property.1 property.2) := by
    unfold attempt ofNode
    cases Shape.ofNode property.1 property.2 <;> rfl
  simp only [firstFailure, each]

theorem attempted_nodes {properties : List (String × Node)} {all : List Property}
    (done : properties.mapM attempt = .ok all) :
    all.map (fun property => (property.name, property.node)) = properties := by
  induction (map_m_eq_ok_iff attempt properties all).mp done with
  | nil => rfl
  | @cons property made _ _ first rest ih =>
      obtain ⟨shape, _, rfl⟩ := (of_node_eq_ok_iff _ _ made).mp first
      rw [List.map_cons, ih ((map_m_eq_ok_iff attempt _ _).mpr rest)]

-- The pass and the attempts agree; only the pass keeps what it accepted before a refusal.
theorem until_refusal_attempts (properties : List (String × Node)) :
    properties.mapM attempt =
      match untilRefusal properties with
      | (_, some refusal) => .error refusal
      | (all, none) => .ok all := by
  induction properties with
  | nil => rfl
  | cons property rest ih =>
      cases made : attempt property with
      | error e =>
          have refused : ofNode property.1 property.2 = .error e := made
          simp [map_m_cons_error made, untilRefusal, refused]
      | ok first =>
          have taken : ofNode property.1 property.2 = .ok first := made
          rw [map_m_cons_ok made, ih]
          simp only [untilRefusal, taken]
          rcases untilRefusal rest with ⟨others, _ | refusal⟩ <;> rfl

def accepted (properties : List (String × Node)) : List (String × Node) :=
  properties.takeWhile fun property => property.2.Fits property.1

theorem accepted_cons_fits {property : String × Node} (fits : property.2.Fits property.1)
    (rest : List (String × Node)) : accepted (property :: rest) = property :: accepted rest := by
  simp [accepted, fits]

theorem accepted_cons_refused {property : String × Node} {e : Error}
    (refused : property.2.Refused property.1 e) (rest : List (String × Node)) :
    accepted (property :: rest) = [] := by
  have unfit : ¬ property.2.Fits property.1 := fun fits => fits e refused
  simp [accepted, unfit]

theorem fits_of_accepted {properties : List (String × Node)} {property : String × Node}
    (member : property ∈ accepted properties) : property.2.Fits property.1 :=
  of_decide_eq_true (List.all_eq_true.mp List.all_takeWhile property member)

theorem attempt_eq_ok_iff (property : String × Node) (made : Property) :
    attempt property = .ok made ↔
      ∃ shape, property.2.Shaped shape ∧ made = ⟨property.1, property.2, shape⟩ := by
  simp only [attempt, of_node_eq_ok_iff, Shape.of_node_eq_ok_iff]

theorem attempt_eq_error_iff (property : String × Node) (e : Error) :
    attempt property = .error e ↔ property.2.Refused property.1 e := by
  rw [attempt, of_node_eq_error_iff, Shape.of_node_eq_error_iff]

theorem fits_of_attempt {property : String × Node} {made : Property}
    (done : attempt property = .ok made) : property.2.Fits property.1 := by
  obtain ⟨shape, shaped, _⟩ := (attempt_eq_ok_iff property made).mp done
  exact shaped.fits property.1

theorem reference_of_attempt {property : String × Node} {made : Property}
    (done : attempt property = .ok made) : property.2.ruledReference = made.reference? := by
  obtain ⟨shape, shaped, rfl⟩ := (attempt_eq_ok_iff property made).mp done
  exact shaped.ruled_reference.symm

theorem accepted_all {properties : List (String × Node)} {made : List Property}
    (done : properties.mapM attempt = .ok made) : accepted properties = properties := by
  induction (map_m_eq_ok_iff attempt properties made).mp done with
  | nil => rfl
  | cons first rest ih =>
      rw [accepted_cons_fits (fits_of_attempt first), ih ((map_m_eq_ok_iff attempt _ _).mpr rest)]

theorem until_refusal_accepts (properties : List (String × Node)) :
    (accepted properties).mapM attempt = .ok (untilRefusal properties).1 := by
  induction properties with
  | nil => rfl
  | cons property rest ih =>
      cases made : attempt property with
      | error e =>
          have refused : ofNode property.1 property.2 = .error e := made
          rw [accepted_cons_refused ((attempt_eq_error_iff property e).mp made)]
          simp [untilRefusal, refused, pure, Except.pure]
      | ok own =>
          have taken : ofNode property.1 property.2 = .ok own := made
          rw [accepted_cons_fits (fits_of_attempt made), map_m_cons_ok made, ih]
          simp [untilRefusal, taken, Except.map]

theorem refused_after_accepted {properties : List (String × Node)} {e : Error}
    (failed : properties.mapM attempt = .error e) :
    ∃ refused later, properties = accepted properties ++ refused :: later ∧
      refused.2.Refused refused.1 e := by
  induction properties with
  | nil => cases failed
  | cons property rest ih =>
      cases made : attempt property with
      | error own =>
          rw [map_m_cons_error made] at failed
          cases failed
          have refused := (attempt_eq_error_iff property e).mp made
          exact ⟨property, rest, by rw [accepted_cons_refused refused, List.nil_append], refused⟩
      | ok own =>
          rw [map_m_cons_ok made] at failed
          have later : rest.mapM attempt = .error e := by
            cases others : rest.mapM attempt with
            | error first => simpa [others, Except.map] using failed
            | ok all => simp [others, Except.map] at failed
          obtain ⟨refused, after, parts, reason⟩ := ih later
          refine ⟨refused, after, ?_, reason⟩
          rw [accepted_cons_fits (fits_of_attempt made), List.cons_append, ← parts]

end Property

namespace Message

theorem of_node_eq (options : Options) (node : Node) :
    ofNode options node =
      match node.messageName with
      | none => .error .missingMessageName
      | some name =>
        (node.properties.mapM Property.attempt).map (ofProperties options name node.required) := by
  rw [Property.until_refusal_attempts]
  cases named : node.messageName with
  | none => simp [ofNode, named]
  | some name =>
      simp only [ofNode, named]
      rcases Property.untilRefusal node.properties with ⟨all, _ | refusal⟩ <;> rfl

theorem of_node_eq_ok_iff (options : Options) (node : Node) (message : Message) :
    ofNode options node = .ok message ↔
      ∃ name properties, node.messageName = some name ∧
        node.properties.mapM Property.attempt = .ok properties ∧
        message = ofProperties options name node.required properties := by
  rw [of_node_eq]
  cases named : node.messageName with
  | none => simp
  | some name =>
      cases attempted : node.properties.mapM Property.attempt with
      | error e => simp [Except.map]
      | ok properties => simp [Except.map, eq_comm]

end Message

end ProtoSchema
