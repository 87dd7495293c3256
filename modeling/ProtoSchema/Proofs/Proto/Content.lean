import ProtoSchema.Proto.Text
import ProtoSchema.Proofs.Decimal
import ProtoSchema.Proofs.Text.Cut

set_option autoImplicit false

namespace ProtoSchema

def numbered (lead : List Char) (n : Nat) : List Char :=
  lead ++ " = ".toList ++ Decimal.digits n ++ [';']

-- The name may hold the same signs, so the number is cut off from behind.
theorem numbered_unique {a b : List Char} {m n : Nat} (same : numbered a m = numbered b n) :
    a = b ∧ m = n := by
  have ends := List.append_cancel_right same
  obtain ⟨leads, numbers⟩ := Text.final_run_unique (Decimal.isDigit · = true)
    (Decimal.digits_are_digits m) (Decimal.digits_are_digits n) (by simp; decide) (by simp; decide)
    ends
  exact ⟨List.append_cancel_right leads, Decimal.digits_injective numbers⟩

theorem numbered_last (lead : List Char) (n : Nat) : (numbered lead n).getLast? = some ';' :=
  List.getLast?_concat

namespace EnumType

theorem entry_line_unique (depth : Nat) {a b : String × UInt32}
    (same : (entryLine depth a).render = (entryLine depth b).render) : a = b := by
  have contents : numbered a.1.toList a.2.toNat = numbered b.1.toList b.2.toNat := by
    simpa [entryLine, Line.render, numbered, Decimal.text] using congrArg String.toList same
  obtain ⟨literals, ordinals⟩ := numbered_unique contents
  exact Prod.ext (String.toList_inj.mp literals) (UInt32.toNat_inj.mp ordinals)

end EnumType

namespace Field

def label (field : Field) : List Char :=
  (if field.repeated then "repeated ".toList else []) ++ field.typeName.toList ++
    ' ' :: field.name.toList

def note (field : Field) : List Char := if field.required then " // required".toList else []

-- The word for lists is told from a type only if no type begins with it, and the type is told from
-- the name only if the name has no space.
def Legible (field : Field) : Prop :=
  ' ' ∉ field.name.toList ∧ ¬ "repeated ".toList <+: field.typeName.toList

instance (field : Field) : Decidable field.Legible := inferInstanceAs (Decidable (_ ∧ _))

theorem content_chars (field : Field) (tag : UInt32) :
    (field.content tag).toList = numbered field.label tag.toNat ++ field.note := by
  cases repeated : field.repeated <;> cases required : field.required <;>
    simp [content, numbered, label, note, Decimal.text, repeated, required]

theorem content_last (field : Field) (tag : UInt32) :
    (field.content tag).toList.getLast? = some (if field.required then 'd' else ';') := by
  rw [content_chars]
  cases required : field.required <;> simp [note, required, numbered_last, List.getLast?_append]

theorem label_unique {a b : Field} (aLegible : a.Legible) (bLegible : b.Legible)
    (same : a.label = b.label) :
    a.name = b.name ∧ a.typeName = b.typeName ∧ a.repeated = b.repeated := by
  obtain ⟨types, names⟩ := Text.last_separator_unique ' ' aLegible.1 bLegible.1 same
  refine ⟨String.toList_inj.mp names, ?_⟩
  cases aRepeated : a.repeated <;> cases bRepeated : b.repeated <;>
    simp only [aRepeated, bRepeated, if_true, Bool.false_eq_true, if_false, List.nil_append] at types
  · exact ⟨String.toList_inj.mp types, rfl⟩
  · exact absurd ⟨_, types.symm⟩ aLegible.2
  · exact absurd ⟨_, types⟩ bLegible.2
  · exact ⟨String.toList_inj.mp (List.append_cancel_left types), rfl⟩

theorem content_unique {a b : Field} {aTag bTag : UInt32} (aLegible : a.Legible)
    (bLegible : b.Legible) (aNumbered : a.tag = some aTag) (bNumbered : b.tag = some bTag)
    (same : a.content aTag = b.content bTag) : a = b := by
  have required : a.required = b.required := by
    have lasts := (a.content_last aTag).symm.trans (same ▸ b.content_last bTag)
    cases aRequired : a.required <;> cases bRequired : b.required <;>
      simp [aRequired, bRequired] at lasts ⊢
  have chars := congrArg String.toList same
  rw [content_chars, content_chars] at chars
  have notes : a.note = b.note := by simp only [note, required]
  rw [notes] at chars
  obtain ⟨labels, tags⟩ := numbered_unique (List.append_cancel_right chars)
  obtain ⟨names, types, repeated⟩ := label_unique aLegible bLegible labels
  have numbers : a.tag = b.tag := by rw [aNumbered, bNumbered, UInt32.toNat_inj.mp tags]
  cases a
  cases b
  simp_all

end Field

end ProtoSchema
