import ProtoSchema.Decimal.Digits

set_option autoImplicit false

namespace ProtoSchema.Decimal

theorem digit_is_digit (d : Nat) : isDigit (digit d) := by
  have small : d % 10 < 10 := Nat.mod_lt d (by decide)
  unfold digit
  generalize d % 10 = r at small
  match r, small with
  | 0, _ | 1, _ | 2, _ | 3, _ | 4, _ | 5, _ | 6, _ | 7, _ | 8, _ | 9, _ => rfl

theorem digits_are_digits (n : Nat) : ∀ c ∈ digits n, isDigit c := by
  induction n using Nat.strongRecOn with
  | _ n ih =>
      rw [digits]
      split
      · simpa using digit_is_digit n
      · intro c member
        rcases List.mem_append.mp member with front | last
        · exact ih (n / 10) (by omega) c front
        · obtain rfl := List.mem_singleton.mp last
          exact digit_is_digit n

theorem digits_injective {m n : Nat} (same : digits m = digits n) : m = n := by
  simpa only [value_digits] using congrArg value same

theorem digits_not_nil (n : Nat) : digits n ≠ [] := by
  rw [digits]
  split <;> simp

theorem digits_first {n : Nat} (positive : 0 < n) : (digits n).head? ≠ some '0' := by
  induction n using Nat.strongRecOn with
  | _ n ih =>
      rw [digits]
      split
      · rename_i small
        intro zero
        have value := congrArg digitValue (Option.some.inj zero)
        rw [digit_value] at value
        have nothing : n % 10 = 0 := value
        omega
      · rename_i large
        have front := ih (n / 10) (by omega) (by omega)
        cases shape : digits (n / 10) with
        | nil => exact absurd shape (digits_not_nil _)
        | cons d ds => simpa [shape] using front

theorem int_text_nat (n : Nat) : (intText (.ofNat n)).toList = digits n := by
  simp [intText, text]

theorem int_text_negative (n : Nat) : (intText (.negSucc n)).toList = '-' :: digits (n + 1) := by
  simp [intText, text]

theorem int_text_first (i : Int) :
    ∃ c cs, (intText i).toList = c :: cs ∧ (isDigit c = true ∨ c = '-') := by
  cases i with
  | ofNat n =>
      cases shape : digits n with
      | nil => exact absurd shape (digits_not_nil n)
      | cons d ds =>
          have digit := digits_are_digits n d (by rw [shape]; exact List.mem_cons_self)
          exact ⟨d, ds, (int_text_nat n).trans shape, .inl digit⟩
  | negSucc n => exact ⟨'-', digits (n + 1), int_text_negative n, .inr rfl⟩

end ProtoSchema.Decimal
