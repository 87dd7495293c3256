set_option autoImplicit false

namespace ProtoSchema.Decimal

def isDigit (c : Char) : Bool := '0' ≤ c && c ≤ '9'

def digitValue (c : Char) : Nat := c.toNat - '0'.toNat

def digit (d : Nat) : Char := Char.ofNat ('0'.toNat + d % 10)

def value (cs : List Char) : Nat := cs.foldl (fun n c => 10 * n + digitValue c) 0

def digits (n : Nat) : List Char :=
  if n < 10 then [digit n] else digits (n / 10) ++ [digit n]
termination_by n

theorem digit_value (d : Nat) : digitValue (digit d) = d % 10 := by
  have small : d % 10 < 10 := Nat.mod_lt d (by decide)
  unfold digitValue digit
  generalize d % 10 = r at small
  match r, small with
  | 0, _ | 1, _ | 2, _ | 3, _ | 4, _ | 5, _ | 6, _ | 7, _ | 8, _ | 9, _ => rfl

theorem value_append_one (cs : List Char) (c : Char) :
    value (cs ++ [c]) = 10 * value cs + digitValue c := by
  simp [value, List.foldl_append]

theorem value_digits (n : Nat) : value (digits n) = n := by
  induction n using Nat.strongRecOn with
  | _ n ih =>
    rw [digits]
    split
    · rename_i small
      simp only [value, List.foldl_cons, List.foldl_nil, digit_value]
      omega
    · rename_i large
      rw [value_append_one, ih (n / 10) (by omega), digit_value]
      omega

def text (n : Nat) : String := String.ofList (digits n)

def intText : Int → String
  | .ofNat n => text n
  | .negSucc n => "-" ++ text (n + 1)

end ProtoSchema.Decimal
