import ProtoSchema.Proofs.Proto.Lines

set_option autoImplicit false

namespace ProtoSchema

namespace Message

def untagged? (message : Message) : Option Error :=
  (message.fields.find? (·.tag.isNone)).map fun field => .missingTag message.name field.name

theorem fields_failure (depth : Nat) (message : Message) :
    firstFailure (Field.line depth message.name) message.fields = message.untagged? := by
  unfold untagged? firstFailure
  induction message.fields with
  | nil => rfl
  | cons field rest ih =>
      cases numbered : field.tag with
      | none => simp [Field.line, numbered, failure?]
      | some tag => simpa [Field.line, numbered, failure?] using ih

theorem lines_failure (message : Message) (depth : Nat) :
    failure? (message.lines depth) = message.withNested.findSome? untagged? := by
  induction message using nested_induction generalizing depth with
  | step message ih =>
      have nested : firstFailure (lines (depth + 1)) message.messages = _ :=
        find_some_flat_map _ withNested untagged? message.messages fun inner member =>
          ih inner member (depth + 1)
      rw [with_nested_eq, List.findSome?_append, ← nested, lines_eq, failure_both, failure_map_m,
        failure_map_m, fields_failure]
      simp

def ownFields (message : Message) : List (String × Field) :=
  message.fields.map fun field => (message.name, field)

theorem untagged_own_field (message : Message) :
    message.untagged? = message.ownFields.findSome? fun (holder, field) =>
      if field.tag.isNone then some (.missingTag holder field.name) else none := by
  unfold untagged? ownFields
  induction message.fields with
  | nil => rfl
  | cons field rest ih => cases numbered : field.tag <;> simp_all

end Message

namespace ProtoFile

-- All fields of the messages of a file in writing order, each with the name of the message that
-- holds it. The fields of a message come after those of the messages inside it.
def writtenFields (file : ProtoFile) : List (String × Field) :=
  file.allMessages.flatMap Message.ownFields

theorem text_failure (file : ProtoFile) :
    failure? file.text = file.allMessages.findSome? Message.untagged? := by
  have written : firstFailure (Message.lines 0) file.messages = _ :=
    find_some_flat_map _ Message.withNested Message.untagged? file.messages fun message _ =>
      message.lines_failure 0
  rw [allMessages, ← written, ← failure_map_m, text_eq]
  cases file.messages.mapM (Message.lines 0) <;> rfl

theorem text_failure_field (file : ProtoFile) :
    failure? file.text = file.writtenFields.findSome? fun (holder, field) =>
      if field.tag.isNone then some (.missingTag holder field.name) else none := by
  rw [text_failure]
  exact find_some_flat_map _ _ _ _ fun message _ => message.untagged_own_field

theorem mem_written_fields (file : ProtoFile) (holder : String) (field : Field) :
    (holder, field) ∈ file.writtenFields ↔
      ∃ message ∈ file.allMessages, message.name = holder ∧ field ∈ message.fields := by
  simp only [writtenFields, Message.ownFields, List.mem_flatMap, List.mem_map, Prod.mk.injEq]
  refine exists_congr fun message => and_congr_right fun _ => ?_
  constructor
  · rintro ⟨own, member, named, rfl⟩
    exact ⟨named, member⟩
  · rintro ⟨named, member⟩
    exact ⟨field, member, named, rfl⟩

def FirstUntagged (file : ProtoFile) (holder : String) (field : Field) : Prop :=
  field.tag = none ∧ ∃ before after, file.writtenFields = before ++ (holder, field) :: after ∧
    ∀ earlier ∈ before, earlier.2.tag ≠ none

theorem text_eq_error_iff (file : ProtoFile) (e : Error) :
    file.text = .error e ↔
      ∃ holder field, file.FirstUntagged holder field ∧ e = .missingTag holder field.name := by
  rw [← failure_eq_some_iff, text_failure_field, List.findSome?_eq_some_iff]
  constructor
  · rintro ⟨before, ⟨holder, field⟩, after, parts, told, quiet⟩
    have untagged : field.tag = none := by
      by_contra numbered
      simp [numbered] at told
    refine ⟨holder, field, ⟨untagged, before, after, parts, ?_⟩, ?_⟩
    · intro earlier member unnumbered
      simpa [unnumbered] using quiet earlier member
    · simpa [untagged, eq_comm] using told
  · rintro ⟨holder, field, ⟨untagged, before, after, parts, tagged⟩, rfl⟩
    refine ⟨before, (holder, field), after, parts, by simp [untagged], ?_⟩
    intro earlier member
    simpa using tagged earlier member

theorem text_error_of_untagged {file : ProtoFile} {holder : String} {field : Field}
    (member : (holder, field) ∈ file.writtenFields) (untagged : field.tag = none) :
    ∃ e, file.text = .error e := by
  cases written : file.text with
  | error e => exact ⟨e, rfl⟩
  | ok text =>
      have none := file.text_failure_field
      rw [written] at none
      have quiet := List.findSome?_eq_none_iff.mp none.symm _ member
      simp [untagged] at quiet

theorem first_untagged_reported (file : ProtoFile) :
    ((∃ e, file.text = .error e) ↔
        ∃ message ∈ file.allMessages, ∃ field ∈ message.fields, field.tag = none) ∧
      ∀ e, file.text = .error e ↔
        ∃ holder field, file.FirstUntagged holder field ∧ e = .missingTag holder field.name := by
  refine ⟨?_, file.text_eq_error_iff⟩
  constructor
  · rintro ⟨e, failed⟩
    obtain ⟨holder, field, ⟨untagged, before, after, parts, _⟩, _⟩ :=
      (file.text_eq_error_iff e).mp failed
    have member : (holder, field) ∈ file.writtenFields := by rw [parts]; simp
    obtain ⟨message, among, _, own⟩ := (file.mem_written_fields holder field).mp member
    exact ⟨message, among, field, own, untagged⟩
  · rintro ⟨message, among, field, own, untagged⟩
    have member := (file.mem_written_fields message.name field).mpr ⟨message, among, rfl, own⟩
    exact text_error_of_untagged member untagged

-- Two fields without a number: the one in the message inside is written first. What extends other
-- messages is not written.
example (package : String) :
    { ProtoFile.empty package with
      messages := [⟨"Outer", [⟨"late", "string", none, false, false⟩], [],
        [⟨"Inner", [⟨"first", "string", some 1, false, false⟩,
          ⟨"early", "string", none, false, false⟩], [], []⟩]⟩]
      extensions := [⟨"Extended", [⟨"never", "string", none, false, false⟩], [], []⟩] }.text =
      .error (.missingTag "Inner" "early") := rfl

end ProtoFile

end ProtoSchema
