import ProtoSchema.Json.Printer
import ProtoSchema.Json.Token
import ProtoSchema.Proofs.Decimal

set_option autoImplicit false

namespace ProtoSchema.Json.Token

-- A text that no number before it reaches into.
def EndsNumber (rest : List Char) : Prop :=
  ∀ c ∈ rest.head?, Decimal.isDigit c = false ∧ c ≠ '.' ∧ c ≠ 'e' ∧ c ≠ 'E'

theorem digit_run_read {ds rest : List Char} (digits : ∀ c ∈ ds, Decimal.isDigit c = true)
    (some : ds ≠ []) (ends : EndsNumber rest) : digitRun (ds ++ rest) = .ok (ds, rest) := by
  have taken : rest.takeWhile Decimal.isDigit = [] := by
    cases rest with
    | nil => rfl
    | cons c rest => rw [List.takeWhile_cons_of_neg (by simp [(ends c rfl).1])]
  have left : rest.dropWhile Decimal.isDigit = rest := by
    cases rest with
    | nil => rfl
    | cons c rest => rw [List.dropWhile_cons_of_neg (by simp [(ends c rfl).1])]
  unfold digitRun
  rw [List.takeWhile_append_of_pos digits, List.dropWhile_append_of_pos digits, taken, left,
    List.append_nil]
  cases ds with
  | nil => exact absurd rfl some
  | cons d ds => rfl

theorem whole_part_read (n : Nat) {rest : List Char} (ends : EndsNumber rest) :
    wholePart (Decimal.digits n ++ rest) = .ok (Decimal.digits n, rest) := by
  have run := digit_run_read (Decimal.digits_are_digits n) (Decimal.digits_not_nil n) ends
  unfold wholePart
  rw [run]
  split
  · rename_i failed
    cases failed
  · rename_i d ds _ found
    have shape : Decimal.digits n = '0' :: d :: ds := congrArg Prod.fst (Except.ok.inj found)
    by_cases zero : n = 0
    · rw [zero, Decimal.digits] at shape
      cases shape
    · exact absurd (by rw [shape]; rfl) (Decimal.digits_first (Nat.pos_of_ne_zero zero))
  · rename_i found
    exact found ▸ rfl

theorem fraction_part_none {rest : List Char} (ends : EndsNumber rest) :
    fractionPart rest = .ok ([], rest) := by
  unfold fractionPart
  split
  · exact absurd rfl (ends _ rfl).2.1
  · rfl

theorem exponent_part_none {rest : List Char} (ends : EndsNumber rest) :
    exponentPart rest = .ok (none, rest) := by
  unfold exponentPart
  split
  case h_7 => rfl
  all_goals first | exact absurd rfl (ends _ rfl).2.2.1 | exact absurd rfl (ends _ rfl).2.2.2

theorem unsigned_number_read (negative : Bool) {n : Nat} {i : Int} {rest : List Char}
    (whole : wholeNumber? negative n = some i) (ends : EndsNumber rest) :
    unsignedNumber negative (Decimal.digits n ++ rest) = .ok (.int i, rest) := by
  have number : numberOf negative (Decimal.digits n) [] none = .ok (.int i) := by
    simp only [numberOf, Decimal.value_digits, whole]
  simp only [unsignedNumber, whole_part_read n ends, fraction_part_none ends,
    exponent_part_none ends, number, Except.map]

def InWord (i : Int) : Prop := -(signedLimit : Int) ≤ i ∧ i < (unsignedLimit : Int)

theorem number_read {i : Int} {rest : List Char} (inWord : InWord i) (ends : EndsNumber rest) :
    number ((Decimal.intText i).toList ++ rest) = .ok (.int i, rest) := by
  obtain ⟨least, greatest⟩ := inWord
  cases i with
  | ofNat n =>
      have whole : wholeNumber? false n = some (n : Int) := by
        simp only [wholeNumber?, Bool.false_eq_true, if_false]
        rw [if_pos (Int.ofNat_lt.mp greatest)]
      have read := unsigned_number_read false whole ends
      rw [Decimal.int_text_nat]
      unfold number
      split
      · rename_i minus
        cases shape : Decimal.digits n with
        | nil => exact absurd shape (Decimal.digits_not_nil n)
        | cons d ds =>
            have digit := Decimal.digits_are_digits n d (by rw [shape]; exact List.mem_cons_self)
            rw [shape, List.cons_append] at minus
            obtain ⟨rfl, _⟩ := List.cons.inj minus
            exact absurd digit (by decide)
      · exact read
  | negSucc n =>
      have whole : wholeNumber? true (n + 1) = some (Int.negSucc n) := by
        simp only [wholeNumber?, if_true]
        rw [if_pos ⟨Nat.succ_pos n, by omega⟩]
        rfl
      rw [Decimal.int_text_negative]
      exact unsigned_number_read true whole ends

end ProtoSchema.Json.Token
