import ProtoSchema.Decimal.Binary64

set_option autoImplicit false

namespace ProtoSchema.Decimal

namespace Binary64

def fraction (x : Binary64) : Nat × Nat := scaled 2 x.significand x.exponent

-- The greatest power of ten not above a positive number; all are above `10 ^ lowestPlace`.
def leadingPlace (x : Binary64) : Int :=
  let (numerator, denominator) := x.fraction
  let shift := lowestPlace.natAbs
  (digits (numerator * Nat.pow 10 shift / denominator)).length - 1 - (shift : Int)

def multiple? (x : Binary64) (power : Int) : Option Nat :=
  let (numerator, denominator) := x.fraction
  let (top, bottom) := match power with
    | .ofNat n => (numerator, denominator * Nat.pow 10 n)
    | .negSucc n => (numerator * Nat.pow 10 (n + 1), denominator)
  let below := top / bottom
  let nearest := roundedQuotient top bottom
  let farther := if nearest = below then below + 1 else below
  let readsBack (m : Nat) := decide (ofDecimal? x.negative m power = some x)
  if readsBack nearest then some nearest
  else if readsBack farther then some farther
  else none

-- Seventeen digits always tell two doubles apart.
def mostDigits : Nat := 17

def shortest (x : Binary64) : Nat × Int :=
  let powers := (List.range (mostDigits + 1)).map fun (n : Nat) => x.leadingPlace + 1 - (n : Int)
  (powers.findSome? fun power => (x.multiple? power).map (·, power)).getD (0, 0)

end Binary64

structure FloatFormat where
  leastPlainPlace : Int
  greatestPlainPlace : Int

-- Numbers from `0.00001` up to below `10 ^ 16` are written plainly.
def FloatFormat.standard : FloatFormat := ⟨-5, 15⟩

def plainNotation (ds : List Char) (place : Int) : List Char :=
  match place with
  | .negSucc n => '0' :: '.' :: (List.replicate n '0' ++ ds)
  | .ofNat n =>
    let whole := ds.take (n + 1)
    let rest := ds.drop (n + 1)
    whole ++ List.replicate (n + 1 - whole.length) '0' ++ '.' :: (if rest.isEmpty then ['0'] else rest)

def exponentNotation (ds : List Char) (place : Int) : List Char :=
  let point := if ds.length ≤ 1 then [] else ['.']
  let sign := if place < 0 then '-' else '+'
  ds.take 1 ++ point ++ ds.drop 1 ++ 'e' :: sign :: digits place.natAbs

def significantDigits (n : Nat) : List Char := (digits n).reverse.dropWhile (· == '0') |>.reverse

def FloatFormat.write (format : FloatFormat) (x : Binary64) : String :=
  let sign := if x.negative then ['-'] else []
  let body :=
    if x.significand = 0 then ['0', '.', '0']
    else
      let (whole, power) := x.shortest
      let place : Int := (digits whole).length - 1 + power
      let ds := significantDigits whole
      if format.leastPlainPlace ≤ place ∧ place ≤ format.greatestPlainPlace then
        plainNotation ds place
      else exponentNotation ds place
  String.ofList (sign ++ body)

end ProtoSchema.Decimal
