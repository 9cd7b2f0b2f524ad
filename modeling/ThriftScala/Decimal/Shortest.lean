/-
  The shortest decimal that reads back as a given double.

  The reals that round to `m · 2^q` form an interval around it, closed iff `m` is even.
  For one, two, … seventeen digits the two neighbours of the value on that decimal grid are tried;
  the first grid with a neighbour inside the interval wins, and of two neighbours the nearer.
  `Double.write` lays the digits out by a record of decisions, `Notation10`.
-/
import ThriftScala.Decimal.Double

namespace ThriftScala

/-- Digits and the place of the decimal point: the number `0.digits · 10^point`. -/
structure Digits where
  digits : List Char
  point : Int
  deriving DecidableEq, Repr

/-- How digits are laid out as a number. -/
structure DecimalLayout where
  /-- Positional notation is used for the points above this one … -/
  pointAbove : Int
  /-- … up to this one. -/
  pointUpTo : Int
  /-- The exponent has at least this many digits. -/
  exponentWidth : Nat
  nanText : String
  infinityText : String

namespace Double

/-- The number of decimal digits of `n`. -/
def digitCount (n : Nat) : Nat := (Nat.toDigits 10 n).length

/-- The point of `num / den`: the `k` with `10^(k-1) ≤ num / den < 10^k`. -/
def pointOf (num den : Nat) : Int :=
  if den ≤ num then digitCount (num / den)
  else
    let ceiling := (den + num - 1) / num
    1 - (if ceiling ≤ 1 then 0 else digitCount (ceiling - 1) : Int)

/-- The interval of the reals that round to `m · 2^e`, in units of `2^(e-2)`: its ends. -/
def interval (m : Nat) (e : Int) : Nat × Nat :=
  (4 * m - (if m = Nat.pow 2 52 ∧ minExponent < e then 1 else 2), 4 * m + 2)

/-- The neighbour of the value `4m` on the grid of `10^place` that lies in the interval, the nearer
    one if both do.  All lengths are in units of `2^(e-2)`. -/
def neighbour? (m : Nat) (e : Int) (place : Int) : Option Nat :=
  -- a grid step is `step / unit` units
  let (step, unit) := if 0 ≤ place then (Nat.pow 10 place.toNat, 1) else (1, Nat.pow 10 (-place).toNat)
  let (step, unit) :=
    if 2 ≤ e then (step, unit * Nat.pow 2 (e - 2).toNat) else (step * Nat.pow 2 (2 - e).toNat, unit)
  let value := 4 * m * unit
  let low := (interval m e).1 * unit
  let high := (interval m e).2 * unit
  let inside (c : Nat) : Bool :=
    if m % 2 = 0 then low ≤ c * step && c * step ≤ high else low < c * step && c * step < high
  let below := value / step
  let above := below + 1
  match inside below, inside above with
  | true, true =>
    let down := value - below * step
    let up := above * step - value
    some (if down < up then below else if up < down then above
          else if below % 2 = 0 then below else above)
  | true, false => some below
  | false, true => some above
  | false, false => none

/-- Tries the grids of `n`, `n + 1`, … digits, `tries` of them. -/
def shortestFrom (m : Nat) (e : Int) (point : Int) : Nat → Nat → Option (Nat × Int)
  | 0, _ => none
  | tries + 1, n =>
    match neighbour? m e (point - n) with
    | some c => some (c, point - n)
    | none => shortestFrom m e point tries (n + 1)

/-- Cuts the zeros off the end. -/
def trimZeros (ds : List Char) : List Char := (ds.reverse.dropWhile (· == '0')).reverse

/-- The shortest digits that read back as the positive double `m · 2^e`. -/
def shortest (m : Nat) (e : Int) : Digits :=
  let point := if 0 ≤ e then pointOf (m * Nat.pow 2 e.toNat) 1 else pointOf m (Nat.pow 2 (-e).toNat)
  let (c, place) := (shortestFrom m e point 17 1).getD (m, 0)
  let ds := Nat.toDigits 10 c
  ⟨trimZeros ds, place + ds.length⟩

/-- Lays digits out: positionally near one, else with an exponent. -/
def Digits.write (layout : DecimalLayout) (d : Digits) : List Char :=
  let n : Int := d.digits.length
  if layout.pointAbove < d.point ∧ d.point ≤ layout.pointUpTo then
    if d.point ≤ 0 then '0' :: '.' :: (List.replicate (-d.point).toNat '0' ++ d.digits)
    else if n ≤ d.point then
      d.digits ++ List.replicate (d.point - n).toNat '0' ++ ['.', '0']
    else d.digits.take d.point.toNat ++ '.' :: d.digits.drop d.point.toNat
  else
    let exponent := d.point - 1
    let ds := Nat.toDigits 10 exponent.natAbs
    let mantissa :=
      match d.digits with
      | [] => []
      | [c] => [c]
      | c :: r => c :: '.' :: r
    mantissa ++ ['e', if exponent < 0 then '-' else '+']
      ++ List.replicate (layout.exponentWidth - ds.length) '0' ++ ds

/-- Writes a double by a layout. -/
def write (layout : DecimalLayout) : Double → String
  | .nan => layout.nanText
  | .infinite neg => (if neg then "-" else "") ++ layout.infinityText
  | .finite neg m e =>
    let sign := if neg then "-" else ""
    if m = 0 then sign ++ "0.0" else sign ++ .ofList (Digits.write layout (shortest m e))

end Double

/-- Numbers from `0.0001` up to seventeen digits are written positionally and always with a point,
    all others with an exponent of at least two digits. -/
def plainLayout : DecimalLayout := ⟨-4, 16, 2, "nan", "inf"⟩

end ThriftScala
