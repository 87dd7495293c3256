import ProtoSchema.Proto.Basic

set_option autoImplicit false

namespace ProtoSchema

def EnumType.strings (e : EnumType) : List String := e.name :: e.values.keys

namespace Message

-- Messages hold lists of messages, so the induction over them is by size.
theorem nested_induction {motive : Message → Prop}
    (step : ∀ message, (∀ nested ∈ message.messages, motive nested) → motive message)
    (message : Message) : motive message := by
  refine step message fun nested member => nested_induction step nested
termination_by sizeOf message
decreasing_by
  have smaller := List.sizeOf_lt_of_mem member
  cases message
  simp only [Message.mk.sizeOf_spec] at smaller ⊢
  omega

mutual

def withNested : Message → List Message
  | ⟨name, fields, enums, messages⟩ => allWithNested messages ++ [⟨name, fields, enums, messages⟩]

def allWithNested : List Message → List Message
  | [] => []
  | message :: rest => message.withNested ++ allWithNested rest

end

theorem all_with_nested_eq (messages : List Message) :
    allWithNested messages = messages.flatMap withNested := by
  induction messages with
  | nil => rfl
  | cons message rest ih => rw [allWithNested, ih, List.flatMap_cons]

theorem with_nested_eq (message : Message) :
    message.withNested = message.messages.flatMap withNested ++ [message] := by
  cases message
  rw [withNested, all_with_nested_eq]

theorem mem_with_nested (message other : Message) :
    other ∈ message.withNested ↔
      other = message ∨ ∃ nested ∈ message.messages, other ∈ nested.withNested := by
  rw [with_nested_eq]
  simp [or_comm]

theorem self_mem_with_nested (message : Message) : message ∈ message.withNested :=
  (mem_with_nested message message).mpr (.inl rfl)

theorem nested_mem_with_nested {message nested other : Message} (member : nested ∈ message.messages)
    (inside : other ∈ nested.withNested) : other ∈ message.withNested :=
  (mem_with_nested message other).mpr (.inr ⟨nested, member, inside⟩)

def ownStrings (message : Message) : List String :=
  message.name :: (message.fields.flatMap (fun field => [field.name, field.typeName]) ++
    message.enums.flatMap EnumType.strings)

end Message

namespace ProtoFile

def allMessages (file : ProtoFile) : List Message := file.messages.flatMap Message.withNested

-- The texts a file is written with; options and extensions are not written.
def strings (file : ProtoFile) : List String :=
  file.package :: (file.imports ++ file.enums.flatMap EnumType.strings ++
    file.allMessages.flatMap Message.ownStrings)

end ProtoFile

end ProtoSchema
