import Mathlib.Data.Finset.Card
import Mathlib.Data.List.DropRight
import ProtoSchema.Proofs.Properties
import ProtoSchema.Proofs.SortedKeys
import ProtoSchema.Proofs.Text.ByteOrder

set_option autoImplicit false

namespace ProtoSchema

namespace Request

def takes : Request → Bool
  | .takeFiles => true
  | _ => false

-- The names that a request notes, told by the attributes of the nodes alone. A message without a
-- name notes none, and one with a refused property those of the properties before it.
def names (stem : String) : Request → List String
  | .addType objectType => [stem ++ Name.snakeCase objectType]
  | .add name => [name]
  | .takeFiles => []
  | .field name node =>
    if node.Fits name then node.ruledReference.toList.map (stem ++ Name.snakeCase ·) else []
  | .message node =>
    if node.messageName = none then []
    else ((Property.accepted node.properties).filterMap fun property =>
      property.2.ruledReference).map (stem ++ Name.snakeCase ·)

theorem names_of_takes {stem : String} {request : Request} (taken : request.takes = true) :
    request.names stem = [] := by
  cases request with
  | takeFiles => rfl
  | _ => cases taken

-- The names noted since files were last taken, or from the start when they never were.
def pending (stem : String) (requests : List Request) : List String :=
  (requests.rtakeWhile fun request => !request.takes).flatMap (names stem)

theorem mem_pending_snoc (stem : String) (past : List Request) (request : Request) (name : String) :
    name ∈ pending stem (past ++ [request]) ↔
      name ∈ request.names stem ∨ request.takes = false ∧ name ∈ pending stem past := by
  cases taken : request.takes with
  | true => simp [pending, taken, names_of_takes taken]
  | false => simp [pending, taken, or_comm]

end Request

theorem Node.references_eq (node : Node) :
    node.references =
      if node.messageName = none then []
      else (Property.accepted node.properties).filterMap fun property =>
        property.2.ruledReference := by
  cases named : node.messageName with
  | none => simp [references, named]
  | some name =>
      have before := Property.until_refusal_accepts node.properties
      rw [filter_map_of_map_m_ok before fun _ _ => Property.reference_of_attempt]
      simp [references, named]

namespace Imports

def addAll (imports : Imports) (names : List String) : Imports := names.foldl add imports

theorem add_types_eq (imports : Imports) (objectTypes : List String) :
    imports.addTypes objectTypes = imports.addAll (objectTypes.map (nameOf imports.stem)) := by
  induction objectTypes generalizing imports with
  | nil => rfl
  | cons first others ih => exact ih (imports.addType first)

theorem add_all_stem (imports : Imports) (names : List String) :
    (imports.addAll names).stem = imports.stem := by
  induction names generalizing imports with
  | nil => rfl
  | cons first others ih => exact ih (imports.add first)

theorem mem_names_add_all (imports : Imports) (added : List String) (name : String) :
    name ∈ (imports.addAll added).names.keys ↔ name ∈ added ∨ name ∈ imports.names.keys := by
  induction added generalizing imports with
  | nil => simp [addAll]
  | cons first others ih =>
      have one : name ∈ (imports.add first).names.keys ↔ name = first ∨ name ∈ imports.names.keys :=
        SortedMap.mem_keys_insert imports.names first name ()
      have rest := ih (imports.add first)
      rw [one] at rest
      rw [List.mem_cons, or_assoc, or_left_comm]
      exact rest

theorem answer_state (options : Options) (imports : Imports) (request : Request) :
    (imports.answer options request).1 =
      if request.takes then imports.cleared else imports.addAll (request.names imports.stem) := by
  cases request with
  | addType objectType => rfl
  | add name => rfl
  | takeFiles => rfl
  | field name node =>
      cases made : Property.attempt (name, node) with
      | error e =>
          have failed : Property.ofNode name node = .error e := made
          have unfit : ¬ node.Fits name :=
            fun fits => fits e ((Property.attempt_eq_error_iff _ e).mp made)
          simp [answer, failed, Request.names, Request.takes, unfit, addAll]
      | ok property =>
          have taken : Property.ofNode name node = .ok property := made
          have fits : node.Fits name := Property.fits_of_attempt made
          have refers : node.ruledReference = property.reference? :=
            Property.reference_of_attempt made
          simp only [answer, taken, add_types_eq, Request.names, Request.takes, fits, refers, if_true,
            Bool.false_eq_true, if_false]
          rfl
  | message node =>
      show imports.addTypes node.references = _
      rw [add_types_eq, Node.references_eq]
      cases named : node.messageName with
      | none => simp [Request.names, Request.takes, named]
      | some name =>
          simp only [Request.names, Request.takes, named, reduceCtorEq, if_false,
            Bool.false_eq_true]
          rfl

theorem answer_stem (options : Options) (imports : Imports) (request : Request) :
    (imports.answer options request).1.stem = imports.stem := by
  rw [answer_state]
  split
  · rfl
  · exact add_all_stem imports _

theorem mem_names_answer (options : Options) (imports : Imports) (request : Request)
    (name : String) :
    name ∈ (imports.answer options request).1.names.keys ↔
      name ∈ request.names imports.stem ∨ request.takes = false ∧ name ∈ imports.names.keys := by
  rw [answer_state]
  cases taken : request.takes with
  | true => simp [Request.names_of_takes taken, cleared, empty, SortedMap.keys, SortedMap.empty]
  | false => simp [mem_names_add_all]

def reached (imports : Imports) (steps : List (Options × Request)) : Imports :=
  steps.foldl (fun imports step => (imports.answer step.1 step.2).1) imports

theorem reached_snoc (imports : Imports) (past : List (Options × Request)) (options : Options)
    (request : Request) :
    imports.reached (past ++ [(options, request)]) =
      ((imports.reached past).answer options request).1 := by
  simp [reached]

theorem reached_stem (imports : Imports) (steps : List (Options × Request)) :
    (imports.reached steps).stem = imports.stem := by
  induction steps using List.reverseRecOn with
  | nil => rfl
  | append_singleton past step ih => rw [reached_snoc, answer_stem, ih]

theorem mem_names_reached (stem : String) (steps : List (Options × Request)) (name : String) :
    name ∈ ((empty stem).reached steps).names.keys ↔
      name ∈ Request.pending stem (steps.map (·.2)) := by
  induction steps using List.reverseRecOn with
  | nil => simp [reached, empty, SortedMap.keys, SortedMap.empty, Request.pending]
  | append_singleton past step ih =>
      rw [reached_snoc, mem_names_answer, reached_stem, ih, List.map_append]
      exact (Request.mem_pending_snoc stem _ step.2 name).symm

theorem answers_reached (imports : Imports) (past later : List (Options × Request))
    (options : Options) (request : Request) :
    (imports.answers (past ++ (options, request) :: later))[past.length]? =
      some ((imports.reached past).answer options request) := by
  induction past generalizing imports with
  | nil => rfl
  | cons step past ih => exact ih (imports.answer step.1 step.2).1

theorem size_reached (stem : String) (steps : List (Options × Request)) :
    ((empty stem).reached steps).size = (Request.pending stem (steps.map (·.2))).toFinset.card := by
  have same : ((empty stem).reached steps).names.keys.toFinset =
      (Request.pending stem (steps.map (·.2))).toFinset := by
    ext name
    rw [List.mem_toFinset, List.mem_toFinset, mem_names_reached]
  rw [← same, List.toFinset_card_of_nodup (SortedMap.keys_nodup _)]
  exact (List.length_map _).symm

def Enumerates (names noted : List String) : Prop :=
  names.Nodup ∧ names.Pairwise (fun a b => Text.bytes a < Text.bytes b) ∧
    ∀ name, name ∈ names ↔ name ∈ noted

theorem files_reached (stem : String) (steps : List (Options × Request)) :
    ∃ names : List String, ((empty stem).reached steps).files = names.map (· ++ ".proto") ∧
      Enumerates names (Request.pending stem (steps.map (·.2))) := by
  have ascending := SortedMap.keys_ascending ((empty stem).reached steps).names
  exact ⟨((empty stem).reached steps).names.keys, rfl, SortedMap.keys_nodup _,
    ascending.imp fun {_ _} before => Text.bytes_lt before, mem_names_reached stem steps⟩

theorem answer_failed_field {options : Options} {imports next : Imports} {request : Request}
    {e : Error} (failed : imports.answer options request = (next, .field (.error e))) :
    next = imports := by
  cases request with
  | field name node =>
      cases made : Property.ofNode name node with
      | error own =>
          simp only [answer, made] at failed
          exact (congrArg Prod.fst failed).symm
      | ok property => simp [answer, made] at failed
  | _ => simp [answer] at failed

-- What a message that fails leaves behind: the references of the properties before the first one
-- that is refused, and nothing else.
def StoppedAt (e : Error) (properties : List (String × Node)) (before next : Imports) : Prop :=
  ∃ accepted refused later, properties = accepted ++ refused :: later ∧
    (∀ property ∈ accepted, property.2.Fits property.1) ∧
    refused.2.Refused refused.1 e ∧
    ∀ name, name ∈ next.names.keys ↔ name ∈ before.names.keys ∨
      ∃ property ∈ accepted, ∃ objectType, property.2.RefersTo objectType ∧
        name = before.stem ++ Name.snakeCase objectType

theorem mem_names_add_types (imports : Imports) (objectTypes : List String) (name : String) :
    name ∈ (imports.addTypes objectTypes).names.keys ↔ name ∈ imports.names.keys ∨
      ∃ objectType ∈ objectTypes, name = imports.stem ++ Name.snakeCase objectType := by
  rw [add_types_eq, mem_names_add_all, or_comm, List.mem_map]
  simp only [nameOf, eq_comm]

theorem mem_names_add_referred (imports : Imports) (properties : List (String × Node))
    (name : String) :
    name ∈ (imports.addTypes
          (properties.filterMap fun property => property.2.ruledReference)).names.keys ↔
      name ∈ imports.names.keys ∨ ∃ property ∈ properties, ∃ objectType,
        property.2.RefersTo objectType ∧ name = imports.stem ++ Name.snakeCase objectType := by
  rw [mem_names_add_types]
  simp only [List.mem_filterMap, Node.ruled_reference_iff]
  refine or_congr_right ⟨?_, ?_⟩
  · intro ⟨objectType, ⟨property, member, refers⟩, same⟩
    exact ⟨property, member, objectType, refers, same⟩
  · intro ⟨property, member, objectType, refers, same⟩
    exact ⟨objectType, ⟨property, member, refers⟩, same⟩

theorem answer_failed_message {options : Options} {imports next : Imports} {node : Node} {e : Error}
    (failed : imports.answer options (.message node) = (next, .message (.error e))) :
    if node.messageName = none then next = imports
    else StoppedAt e node.properties imports next := by
  have built : Message.ofNode options node = .error e := by
    simpa [answer] using congrArg Prod.snd failed
  have state : imports.addTypes node.references = next := congrArg Prod.fst failed
  rw [Message.of_node_eq] at built
  cases named : node.messageName with
  | none => simpa [Node.references_eq, named, addTypes, eq_comm] using state
  | some own =>
      have attempted : node.properties.mapM Property.attempt = .error e := by
        cases all : node.properties.mapM Property.attempt with
        | error first => simpa [named, all, Except.map] using built
        | ok properties => simp [named, all, Except.map] at built
      obtain ⟨refused, later, parts, reason⟩ := Property.refused_after_accepted attempted
      refine ⟨_, refused, later, parts, fun _ => Property.fits_of_accepted, reason, fun name => ?_⟩
      rw [← state, Node.references_eq, named, if_neg (Option.some_ne_none own)]
      exact mem_names_add_referred imports _ name

structure Accounts (stem : String) (past : List Request) (request : Request)
    (before next : Imports) (answer : Answer) : Prop where
  holds : ∀ name, name ∈ next.names.keys ↔ name ∈ Request.pending stem (past ++ [request])
  size : next.size = (Request.pending stem (past ++ [request])).toFinset.card
  isEmpty : next.isEmpty = true ↔ (Request.pending stem (past ++ [request])).toFinset.card = 0
  files : request = .takeFiles → next = empty stem ∧
    ∃ names : List String, answer = .files (names.map (· ++ ".proto")) ∧
      Enumerates names (Request.pending stem past)
  failedField : ∀ e, answer = .field (.error e) → next = before
  failedMessage : ∀ node e, request = .message node → answer = .message (.error e) →
    if node.messageName = none then next = before
    else StoppedAt e node.properties before next

theorem session_accounts (stem : String) (past later : List (Options × Request))
    (options : Options) (request : Request) :
    ∃ next answer,
      ((empty stem).answers (past ++ (options, request) :: later))[past.length]? =
        some (next, answer) ∧
      Accounts stem (past.map (·.2)) request ((empty stem).reached past) next answer := by
  have snoc := reached_snoc (empty stem) past options request
  have requests : (past ++ [(options, request)]).map (·.2) = past.map (·.2) ++ [request] := by simp
  have holds := mem_names_reached stem (past ++ [(options, request)])
  have size := size_reached stem (past ++ [(options, request)])
  have sameStem : ((empty stem).reached past).stem = stem := reached_stem (empty stem) past
  rw [requests, snoc] at size
  simp only [requests, snoc] at holds
  refine ⟨_, _, answers_reached (empty stem) past later options request, ?_⟩
  exact {
    holds := holds
    size := size
    isEmpty := size ▸ beq_iff_eq
    files := by
      rintro rfl
      obtain ⟨names, listed, rest⟩ := files_reached stem past
      exact ⟨congrArg empty sameStem, names, congrArg Answer.files listed, rest⟩
    failedField := fun e failed => answer_failed_field (Prod.ext rfl failed)
    failedMessage := by
      rintro node e rfl failed
      exact answer_failed_message (Prod.ext rfl failed) }

-- A message that is refused behind two references, one of them to a name that was taken before.
def houseNode : Node where
  typeName := some "object"
  messageName := some "House"
  properties := [
    ("hall", { typeName := some "object", objectType := some "FrontHall" }),
    ("rooms", {
      typeName := some "array"
      items := some { typeName := some "string", objectType := some "Attic" } }),
    ("roof", { typeName := some "array", items := some { objectType := some "Roof" } }),
    ("yard", { typeName := some "object", objectType := some "Yard" })]

def houseSession : List (Options × Request) := [
  ({}, .addType "FrontHall"), ({}, .add "p_front_hall"), ({}, .takeFiles),
  ({}, .message houseNode), ({}, .add "p_attic"), ({}, .takeFiles)]

theorem house_session_accounted :
    ∃ drained stopped last : Imports,
      ((empty "p_").answers houseSession)[2]? = some (drained, .files ["p_front_hall.proto"]) ∧
      ((empty "p_").answers houseSession)[3]? =
        some (stopped, .message (.error (.missingType "roof.items"))) ∧
      ((empty "p_").answers houseSession)[5]? =
        some (last, .files ["p_attic.proto", "p_front_hall.proto"]) ∧
      drained = empty "p_" ∧ stopped.size = 2 ∧
      StoppedAt (.missingType "roof.items") houseNode.properties drained stopped ∧
      Accounts "p_" ((houseSession.take 5).map (·.2)) .takeFiles
        ((empty "p_").reached (houseSession.take 5)) last
        (.files ["p_attic.proto", "p_front_hall.proto"]) := by
  obtain ⟨drained, _, atDrain, drain⟩ := session_accounts "p_" (houseSession.take 2)
    (houseSession.drop 3) {} .takeFiles
  obtain ⟨stopped, _, atStop, stop⟩ := session_accounts "p_" (houseSession.take 3)
    (houseSession.drop 4) {} (.message houseNode)
  obtain ⟨last, _, atLast, final⟩ := session_accounts "p_" (houseSession.take 5) [] {} .takeFiles
  cases atDrain
  cases atStop
  cases atLast
  have kept : StoppedAt (.missingType "roof.items") houseNode.properties _ _ :=
    stop.failedMessage houseNode _ rfl rfl
  exact ⟨_, _, _, rfl, rfl, rfl, (drain.files rfl).1, stop.size, kept, final⟩

end Imports

end ProtoSchema
