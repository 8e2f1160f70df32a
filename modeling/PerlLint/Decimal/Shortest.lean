import PerlLint.Decimal.Double
import PerlLint.Text.Numeral

/-!
# The shortest decimal of a double

The reals that round to a given double form an interval around it.  Its ends
are half way to the two neighbours, and they belong to it if the mantissa is
even.  The *shortest decimal* is the one with fewest digits in the interval, and
of those the one nearest to the double.

For one digit, two digits and so on, the decimals with that many digits at the
size of the double form a grid.  If a point of the grid lies in the interval,
one of the two grid points next to the double does.  So it is enough to look at
these two, and at most seventeen grids are tried.

`write` gives the decimal its text.  It is written positionally if its exponent
is between -5 and 15, always with a point and a digit after it.  Otherwise it
has one digit before the point, and the exponent follows with its sign.
-/

namespace PerlLint.Decimal

/-! ## The digits -/

/-- A decimal `0.d₁d₂… · 10^point`, by its digits. -/
structure Digits where
  /-- The digits, most significant first. -/
  digits : List Char
  /-- How many digits stand before the point; none or fewer if not positive. -/
  point : Int
deriving Repr, DecidableEq

namespace Double

/-- `a / b ≤ c / d` for positive denominators. -/
def ratioLe (x y : Nat × Nat) : Bool := x.1 * y.2 ≤ y.1 * x.2

/-- `a / b < c / d` for positive denominators. -/
def ratioLt (x y : Nat × Nat) : Bool := x.1 * y.2 < y.1 * x.2

/-- A number times a power of ten, as a quotient. -/
def timesPower (n : Nat) (k : Int) : Nat × Nat :=
  match k with
  | .ofNat k => (n * pow10 k, 1)
  | .negSucc k => (n, pow10 (k + 1))

/-- The ends of the interval of reals that round to the double, and whether
they belong to it. -/
def interval (x : Double) : (Nat × Nat) × (Nat × Nat) × Bool :=
  let scaled (m : Nat) : Nat × Nat :=
    match x.exponent - 2 with
    | .ofNat k => (m * pow2 k, 1)
    | .negSucc k => (m, pow2 (k + 1))
  let below := if x.mantissa = pow2 52 ∧ leastExponent < x.exponent then 1 else 2
  (scaled (4 * x.mantissa - below), scaled (4 * x.mantissa + 2), x.mantissa % 2 == 0)

/-- The number of digits before the point of a positive quotient: the least `e`
with the quotient below `10^e`. -/
def magnitude (r : Nat × Nat) : Int :=
  let guess : Int := (Nat.toDigits 10 r.1).length - (Nat.toDigits 10 r.2).length
  if ratioLt r (timesPower 1 guess) then guess else guess + 1

/-- Whether `n · 10^k` rounds to the double. -/
def roundsTo (x : Double) (n : Nat) (k : Int) : Bool :=
  let (lo, hi, closed) := x.interval
  let p := timesPower n k
  if closed then ratioLe lo p && ratioLe p hi else ratioLt lo p && ratioLt p hi

/-- Whether `n · 10^k` is nearer to the double than `(n + 1) · 10^k`.  On a tie
the even one is nearer. -/
def lowerNearer (x : Double) (n : Nat) (k : Int) : Bool :=
  let (a, b) := x.toRatio
  let (c, d) := timesPower (2 * n + 1) k
  let here := 2 * a * d
  let half := c * b
  here < half || (here == half && n % 2 == 0)

/-- The point of the grid of step `10^k` that rounds to the double, the nearer
one if there are two. -/
def gridPoint? (x : Double) (k : Int) : Option Nat :=
  let (a, b) := x.toRatio
  let n :=
    match k with
    | .ofNat k => a / (b * pow10 k)
    | .negSucc k => a * pow10 (k + 1) / b
  match x.roundsTo n k, x.roundsTo (n + 1) k with
  | true, true => some (if x.lowerNearer n k then n else n + 1)
  | true, false => some n
  | false, true => some (n + 1)
  | false, false => none

/-- Tries the grids with more and more digits, `tries` of them. -/
def shortestFrom (x : Double) (e : Int) (d : Nat) : (tries : Nat) → Nat × Int
  | 0 => (0, 0)
  | tries + 1 =>
      match x.gridPoint? (e - d) with
      | some n => (n, e - d)
      | none => shortestFrom x e (d + 1) tries
termination_by structural tries => tries

/-- The shortest decimal of the magnitude of a double. -/
def shortest (x : Double) : Digits :=
  if x.mantissa = 0 then ⟨['0'], 1⟩
  else
    let (n, k) := x.shortestFrom (magnitude x.toRatio) 1 17
    let ds := Text.natDigits n
    ⟨dropZeros ds, ds.length + k⟩
where
  /-- The digits without the zeros at the end. -/
  dropZeros (ds : List Char) : List Char := (ds.reverse.dropWhile (· == '0')).reverse

end Double

/-! ## The text -/

/-- The text of a decimal. -/
def Digits.write (x : Digits) : List Char :=
  let ds := x.digits
  let e := x.point - 1
  if 0 ≤ e ∧ e < 16 then
    let whole := ds.take x.point.toNat
    let part := ds.drop x.point.toNat
    whole ++ List.replicate (x.point.toNat - ds.length) '0' ++ ['.']
      ++ (if part.isEmpty then ['0'] else part)
  else if -5 ≤ e ∧ e < 0 then
    ['0', '.'] ++ List.replicate (-x.point).toNat '0' ++ ds
  else
    let mark := if e < 0 then ['e', '-'] else ['e', '+']
    ds.take 1 ++ (if ds.length = 1 then [] else '.' :: ds.drop 1) ++ mark
      ++ Text.natDigits e.natAbs

/-- The text of a double. -/
def Double.write (x : Double) : List Char :=
  (if x.negative then ['-'] else []) ++ x.shortest.write

example : (Double.ofScaled false 12345678901234567890 3).map Double.write
    = some "1.2345678901234568e+22".toList := by decide +kernel

end PerlLint.Decimal
