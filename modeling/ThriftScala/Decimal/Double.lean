/-
  Double-precision numbers as exact values, and the reading of decimals.

  A finite double is `± m · 2^q`.  They are read, compared, counted up and written, so the type
  holds sign, mantissa and exponent themselves and no machine word.  A decimal is read as the
  nearest double, a tie as the one with the even mantissa (`Double.ofDecimal`); the arithmetic is
  exact on natural numbers.
-/

namespace ThriftScala

/-- A double-precision number.  A finite one is `mantissa · 2^exponent` with its sign. -/
inductive Double where
  | nan
  | infinite (negative : Bool)
  | finite (negative : Bool) (mantissa : Nat) (exponent : Int)
  deriving DecidableEq, Repr, Inhabited

namespace Double

/-- Exponent of the smallest positive double. -/
def minExponent : Int := -1074

/-- Largest exponent of a finite double. -/
def maxExponent : Int := 971

/-- Mantissas stay below this bound. -/
def mantissaBound : Nat := Nat.pow 2 53

/-- Is the number zero, of either sign? -/
def isZero : Double → Bool
  | .finite _ 0 _ => true
  | _ => false

/-- `num / den` rounded to a natural number, a tie to the even neighbour. -/
def roundDiv (num den : Nat) : Nat :=
  let q := num / den
  let r := num % den
  if 2 * r < den then q
  else if den < 2 * r then q + 1
  else if q % 2 = 0 then q else q + 1

/-- The numerator and the denominator of `num / den / 2^e`. -/
def scale (num den : Nat) (e : Int) : Nat × Nat :=
  if 0 ≤ e then (num, den * Nat.pow 2 e.toNat) else (num * Nat.pow 2 (-e).toNat, den)

/-- The double nearest to the positive quotient `num / den`. -/
def ofQuotient (negative : Bool) (num den : Nat) : Double :=
  let e := max ((num.log2 : Int) - den.log2 - 53) minExponent
  let e := if (scale num den e).1 / (scale num den e).2 < mantissaBound then e else e + 1
  let m := roundDiv (scale num den e).1 (scale num den e).2
  let (m, e) := if m < mantissaBound then (m, e) else (m / 2, e + 1)
  if maxExponent < e then .infinite negative else .finite negative m e

/-- The double nearest to `digits · 10^exponent`.  What lies beyond every double or below half
    of the smallest one is settled by the number of digits alone. -/
def ofDecimal (negative : Bool) (digits : Nat) (exponent : Int) : Double :=
  let magnitude := (Nat.toDigits 10 digits).length + exponent
  if digits = 0 ∨ magnitude < -330 then .finite negative 0 minExponent
  else if 330 < magnitude then .infinite negative
  else if 0 ≤ exponent then ofQuotient negative (digits * Nat.pow 10 exponent.toNat) 1
  else ofQuotient negative digits (Nat.pow 10 (-exponent).toNat)

/-- A finite double as a quotient. -/
def quotient (negative : Bool) (mantissa : Nat) (exponent : Int) : Int × Nat :=
  let (num, den) :=
    if 0 ≤ exponent then (mantissa * Nat.pow 2 exponent.toNat, 1)
    else (mantissa, Nat.pow 2 (-exponent).toNat)
  (if negative then -(num : Int) else num, den)

/-- Is the double equal to an integer as a number? -/
def eqInt (x : Double) (n : Int) : Bool :=
  match x with
  | .finite neg m e => (quotient neg m e).1 == n * (quotient neg m e).2
  | _ => false

/-- The double nearest to the number and one more. -/
def succ : Double → Double
  | .finite neg m e =>
    let (num, den) := quotient neg m e
    let sum := num + den
    if sum = 0 then .finite false 0 minExponent else ofQuotient (sum < 0) sum.natAbs den
  | x => x

/-- Equality as numbers: the two zeros are equal, and not-a-number equals nothing. -/
def eqNumber (x y : Double) : Bool :=
  x != .nan && (x == y || x.isZero && y.isZero)

end Double

end ThriftScala
