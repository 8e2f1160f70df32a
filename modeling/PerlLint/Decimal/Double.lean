/-!
# Doubles as exact numbers

A finite double is a sign and a number `mantissa · 2^exponent`.  It is kept in
this form and not as a machine word, so that everything about it is exact
arithmetic on natural numbers.  In the *normal form* the mantissa has 53 bits,
or fewer at the least exponent -1074; zero has mantissa 0 there.

`ofRatio` rounds a quotient of natural numbers to the nearest double.  A tie
goes to the even mantissa, and a value beyond the greatest double is none.
Multiplying and dividing doubles means doing so exactly and rounding once.

`ofScaled` reads a decimal `n · 10^e` in two roundings: `n` becomes a double,
and that is multiplied or divided by the double next to `10^|e|`.  Powers beyond
`10^308` are taken in steps of that size.  For short decimals the result is the
nearest double; for long ones it may be a neighbour of it.
-/

namespace PerlLint.Decimal

/-- A power of two. -/
def pow2 (k : Nat) : Nat := Nat.pow 2 k

/-- A power of ten. -/
def pow10 (k : Nat) : Nat := Nat.pow 10 k

/-- A finite double. -/
structure Double where
  /-- The sign. -/
  negative : Bool
  /-- The digits in base two. -/
  mantissa : Nat
  /-- The power of two. -/
  exponent : Int
deriving Repr, DecidableEq

namespace Double

/-! ## Rounding -/

/-- The least power of two. -/
def leastExponent : Int := -1074

/-- The greatest power of two of a mantissa of 53 bits. -/
def greatestExponent : Int := 971

/-- Zero, of either sign. -/
def zero (negative : Bool) : Double := ⟨negative, 0, leastExponent⟩

/-- The quotient rounded to the nearest natural number, a tie to the even
one. -/
def roundQuotient (num den : Nat) : Nat :=
  let q := num / den
  let r := num % den
  if 2 * r < den then q
  else if den < 2 * r then q + 1
  else if q % 2 = 0 then q else q + 1

/-- `num / (den · 2^q)` as a quotient of natural numbers. -/
def scaleDown (num den : Nat) (q : Int) : Nat × Nat :=
  match q with
  | .ofNat k => (num, den * pow2 k)
  | .negSucc k => (num * pow2 (k + 1), den)

/-- The double nearest to `num / den`.  `none` if it is beyond the greatest
double, or if `den` is 0. -/
def ofRatio (negative : Bool) (num den : Nat) : Option Double :=
  if den = 0 then none
  else if num = 0 then some (zero negative)
  else
    let guess : Int := max ((Nat.log2 num : Int) - Nat.log2 den - 53) leastExponent
    let (n, d) := scaleDown num den guess
    let q := if pow2 53 ≤ n / d then guess + 1 else guess
    let (n, d) := scaleDown num den q
    let m := roundQuotient n d
    let (m, q) := if m = pow2 53 then (pow2 52, q + 1) else (m, q)
    if greatestExponent < q then none else some ⟨negative, m, q⟩

/-- The magnitude as a quotient of natural numbers. -/
def toRatio (x : Double) : Nat × Nat :=
  match x.exponent with
  | .ofNat k => (x.mantissa * pow2 k, 1)
  | .negSucc k => (x.mantissa, pow2 (k + 1))

/-- The double next to a natural number. -/
def ofNat (n : Nat) : Option Double := ofRatio false n 1

/-- The product, rounded once. -/
def mul (x y : Double) : Option Double :=
  let (a, b) := x.toRatio
  let (c, d) := y.toRatio
  ofRatio (x.negative != y.negative) (a * c) (b * d)

/-- The quotient, rounded once. -/
def div (x y : Double) : Option Double :=
  let (a, b) := x.toRatio
  let (c, d) := y.toRatio
  ofRatio (x.negative != y.negative) (a * d) (b * c)

/-- The same magnitude with the given sign. -/
def withSign (negative : Bool) (x : Double) : Double := { x with negative }

/-! ## Decimals -/

/-- The greatest power of ten that is taken in one step. -/
def stepPower : Nat := 308

/-- Divides by `10^k`, at most `steps + 1` times in steps of `10^308`.  Three
steps make any number below `2^64` zero. -/
def divPower (x : Double) (k : Nat) : (steps : Nat) → Option Double
  | 0 => ofNat (pow10 (min k stepPower)) >>= x.div
  | steps + 1 =>
      if k ≤ stepPower then ofNat (pow10 k) >>= x.div
      else if x.mantissa = 0 then some x
      else (ofNat (pow10 stepPower) >>= x.div).bind fun y => divPower y (k - stepPower) steps
termination_by structural steps => steps

/-- The double that the decimal `n · 10^e` is read as.  `none` if it is beyond
the greatest double. -/
def ofScaled (negative : Bool) (n : Nat) (e : Int) : Option Double := do
  let x ← ofNat n
  let y ←
    match e with
    | .ofNat k =>
        if n = 0 then some x
        else if stepPower < k then none
        else ofNat (pow10 k) >>= x.mul
    | .negSucc k => divPower x (k + 1) 4
  return y.withSign negative

end Double

end PerlLint.Decimal
