import Mathlib.Data.List.Lex
import Mathlib.Order.Basic

set_option autoImplicit false

namespace ProtoSchema.Text

def bytes (text : String) : List UInt8 := text.toUTF8.data.toList

theorem bytes_eq (text : String) : bytes text = text.toList.flatMap String.utf8EncodeChar := by
  rw [bytes, String.toUTF8_eq_toByteArray, ← String.utf8Encode_toList, List.utf8Encode]
  simp

theorem byte_before_iff {m n : Nat} (x y : List UInt8) (mBound : m < 256) (nBound : n < 256) :
    UInt8.ofNat m :: x < UInt8.ofNat n :: y ↔ m < n ∨ m = n ∧ x < y := by
  rw [List.cons_lt_cons_iff, UInt8.lt_iff_toNat_lt, ← UInt8.toNat_inj,
    UInt8.toNat_ofNat', UInt8.toNat_ofNat', Nat.mod_eq_of_lt mBound, Nat.mod_eq_of_lt nBound]

-- No encoding starts another one, so the first byte that differs decides, whatever follows.
theorem encode_char_lt {c d : Char} (before : c < d) (r s : List UInt8) :
    String.utf8EncodeChar c ++ r < String.utf8EncodeChar d ++ s := by
  have less : c.val.toNat < d.val.toNat := before
  have bound : d.val.toNat < 1114112 := by
    have valid := d.valid
    simp only [UInt32.isValidChar, Nat.isValidChar] at valid
    omega
  unfold String.utf8EncodeChar
  generalize c.val.toNat = m at *
  generalize d.val.toNat = n at *
  simp only
  split_ifs
  all_goals
    simp (disch := omega) only [List.cons_append, List.nil_append, byte_before_iff]
    try omega
  -- Two encodings of four bytes: the first byte that differs is looked for from the front.
  by_cases first : m / 262144 = n / 262144
  · refine .inr ⟨by rw [first], ?_⟩
    by_cases second : m / 4096 = n / 4096
    · exact .inr ⟨by rw [second], by omega⟩
    · exact .inl (by omega)
  · exact .inl (by omega)

theorem bytes_lt {a b : String} (before : a < b) : bytes a < bytes b := by
  rw [bytes_eq, bytes_eq]
  have chars : a.toList < b.toList := before
  generalize a.toList = x at *
  generalize b.toList = y at *
  induction x generalizing y with
  | nil =>
      cases y with
      | nil => cases chars
      | cons d y =>
          rw [List.flatMap_nil, List.flatMap_cons]
          cases encoded : String.utf8EncodeChar d with
          | nil => exact absurd encoded String.utf8EncodeChar_ne_nil
          | cons byte rest => exact List.nil_lt_cons _ _
  | cons c x ih =>
      cases y with
      | nil => cases chars
      | cons d y =>
          rw [List.flatMap_cons, List.flatMap_cons]
          rcases List.cons_lt_cons_iff.mp chars with before | ⟨rfl, rest⟩
          · exact encode_char_lt before _ _
          · exact List.append_left_lt (ih y rest)

end ProtoSchema.Text
