import ProtoSchema.Decimal.Digits

set_option autoImplicit false

namespace ProtoSchema.Decimal

structure Binary64 where
  negative : Bool
  significand : Nat
  exponent : Int
deriving DecidableEq, Repr, Inhabited

def roundedQuotient (numerator denominator : Nat) : Nat :=
  let floor := numerator / denominator
  let twice := 2 * (numerator % denominator)
  if denominator < twice ∨ (twice = denominator ∧ floor % 2 = 1) then floor + 1 else floor

def scaled (base magnitude : Nat) (power : Int) : Nat × Nat :=
  match power with
  | .ofNat n => (magnitude * Nat.pow base n, 1)
  | .negSucc n => (magnitude, Nat.pow base (n + 1))

namespace Binary64

def leastExponent : Int := -1074
def greatestExponent : Int := 971
def significandLimit : Nat := Nat.pow 2 53

def zero (negative : Bool) : Binary64 := ⟨negative, 0, leastExponent⟩

-- The exponent at which a positive fraction has a significand of 53 bits or one bit more; never
-- below the least one.
def exponentOf (numerator denominator : Nat) : Int :=
  max leastExponent ((numerator.log2 : Int) - (denominator.log2 : Int) - 53)

def significandAt (numerator denominator : Nat) (exponent : Int) : Nat :=
  match exponent with
  | .ofNat n => roundedQuotient numerator (denominator * Nat.pow 2 n)
  | .negSucc n => roundedQuotient (numerator * Nat.pow 2 (n + 1)) denominator

def nearest? (negative : Bool) (numerator denominator : Nat) : Option Binary64 :=
  let low := exponentOf numerator denominator
  let exponent := if significandAt numerator denominator low < significandLimit then low else low + 1
  let significand := significandAt numerator denominator exponent
  let number : Binary64 :=
    if significand < significandLimit then ⟨negative, significand, exponent⟩
    else ⟨negative, significand / 2, exponent + 1⟩
  if number.exponent ≤ greatestExponent then some number else none

def highestPlace : Int := 310

def lowestPlace : Int := -330

-- A decimal far outside the range is settled by the place of its first digit alone.
def ofDecimal? (negative : Bool) (magnitude : Nat) (power : Int) : Option Binary64 :=
  if magnitude = 0 then some (zero negative)
  else
    let place : Int := (digits magnitude).length + power
    if highestPlace < place then none
    else if place < lowestPlace then some (zero negative)
    else
      let (numerator, denominator) := scaled 10 magnitude power
      nearest? negative numerator denominator

end Binary64

end ProtoSchema.Decimal
