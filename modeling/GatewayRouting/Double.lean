import GatewayRouting.Power

/-!
# Double-precision numbers

The finite double-precision numbers are the multiples `m · 2 ^ e` of powers of two with
`m < 2 ^ 53` and `-1074 ≤ e ≤ 971`. Here they are held as just that, with a sign, so that every
operation is exact arithmetic on natural numbers followed by one rounding, and can be computed
inside a proof.

`Double.ofRatio` is that rounding: the nearest number, of two equally near ones the one with an
even `m`, and infinity from half a step above the largest number on. Everything else goes through
it.
-/

namespace GatewayRouting

/-- The natural number nearest to `n / d`; a half goes to the even neighbour. -/
def roundDiv (n d : Nat) : Nat :=
  let q := n / d
  let r := n % d
  if 2 * r < d then q
  else if d < 2 * r then q + 1
  else if q % 2 = 0 then q
  else q + 1

/-- A double-precision number. Finite numbers are normalised: either `2 ^ 52 ≤ m`, or `e` is the
smallest exponent. -/
inductive Double where
  /-- the number `± m · 2 ^ e` -/
  | finite (negative : Bool) (m : Nat) (e : Int)
  /-- beyond all finite numbers, on one side -/
  | infinite (negative : Bool)
  /-- not a number -/
  | nan
deriving DecidableEq, Repr, Inhabited

namespace Double

/-- The smallest exponent. -/
def minExponent : Int := -1074

/-- The largest exponent. -/
def maxExponent : Int := 971

/-- Zero with a sign. -/
def zero (negative : Bool) : Double :=
  .finite negative 0 minExponent

/-- The exponent at which `n / d` has 53 binary digits before the point, give or take one. -/
def ratioExponent (n d : Nat) : Int :=
  max minExponent ((n.log2 : Int) - d.log2 - 53)

/-- `n / d` counted in steps of `2 ^ e`, rounded. -/
def steps (n d : Nat) (e : Int) : Nat :=
  if 0 ≤ e then roundDiv n (d * twoTo e.toNat) else roundDiv (n * twoTo (-e).toNat) d

/-- The number nearest to `± n / d`, for a positive `d`. -/
def ofRatio (negative : Bool) (n d : Nat) : Double :=
  if n = 0 then zero negative
  else
    let e₀ := ratioExponent n d
    let e := if steps n d e₀ < twoTo 53 then e₀ else
      if steps n d (e₀ + 1) < twoTo 53 then e₀ + 1 else e₀ + 2
    let m := steps n d e
    if maxExponent < e then .infinite negative else .finite negative m e

/-- The number nearest to an integer. -/
def ofInt (i : Int) : Double :=
  ofRatio (i < 0) i.natAbs 1

/-- The number nearest to a natural number. -/
def ofNat (n : Nat) : Double :=
  ofRatio false n 1

/-- How many decimal digits a natural number has; zero has one. -/
def decimalLength (n : Nat) : Nat :=
  (Nat.toDigits 10 n).length

/-- The number nearest to `± digits · 10 ^ exponent`. Values far outside the range are settled
without computing the power. -/
def ofDecimal (negative : Bool) (digits : Nat) (exponent : Int) : Double :=
  if digits = 0 then zero negative
  else
    let magnitude := exponent + decimalLength digits
    if 400 < magnitude then .infinite negative
    else if magnitude < -400 then zero negative
    else if 0 ≤ exponent then ofRatio negative (digits * tenTo exponent.toNat) 1
    else ofRatio negative digits (tenTo (-exponent).toNat)

/-- Whether the number has a minus sign; a zero may have one. -/
def isNegative : Double → Bool
  | .finite negative _ _ => negative
  | .infinite negative => negative
  | .nan => false

/-- Whether the number is infinite. -/
def isInfinite : Double → Bool
  | .infinite _ => true
  | _ => false

/-- Whether the number is finite. -/
def isFinite : Double → Bool
  | .finite .. => true
  | _ => false

/-- Whether the number is zero, of either sign. -/
def isZero : Double → Bool
  | .finite _ m _ => m == 0
  | _ => false

/-- The number with the other sign. -/
def neg : Double → Double
  | .finite negative m e => .finite (!negative) m e
  | .infinite negative => .infinite (!negative)
  | .nan => .nan

/-- The magnitude of a finite number as a fraction. -/
def fraction (m : Nat) (e : Int) : Nat × Nat :=
  if 0 ≤ e then (m * twoTo e.toNat, 1) else (m, twoTo (-e).toNat)

/-- The product, rounded once. -/
def mul : Double → Double → Double
  | .finite a m e, .finite b n f =>
    let x := fraction m e
    let y := fraction n f
    ofRatio (a != b) (x.1 * y.1) (x.2 * y.2)
  | .nan, _ => .nan
  | _, .nan => .nan
  | a, b => if a.isZero || b.isZero then .nan else .infinite (a.isNegative != b.isNegative)

/-- The quotient, rounded once. -/
def div : Double → Double → Double
  | .finite a m e, .finite b n f =>
    if n = 0 then if m = 0 then .nan else .infinite (a != b)
    else
      let x := fraction m e
      let y := fraction n f
      ofRatio (a != b) (x.1 * y.2) (x.2 * y.1)
  | .nan, _ => .nan
  | _, .nan => .nan
  | .infinite _, .infinite _ => .nan
  | .infinite a, b => .infinite (a != b.isNegative)
  | a, .infinite b => zero (a.isNegative != b)

/-- The number as the 64 bits of the interchange format: sign, biased exponent, the rest of `m`. -/
def bits : Double → Nat
  | .finite negative m e =>
    (if negative then twoTo 63 else 0) +
      (if m < twoTo 52 then m else (e - minExponent + 1).toNat * twoTo 52 + (m - twoTo 52))
  | .infinite negative => (if negative then twoTo 63 else 0) + 2047 * twoTo 52
  | .nan => 2047 * twoTo 52 + twoTo 51

/-- The magnitude of a finite number rounded to a whole number; a half goes up. -/
def wholePart (m : Nat) (e : Int) : Nat :=
  let x := fraction m e
  (2 * x.1 + x.2) / (2 * x.2)

/-- The nearest unsigned 64-bit integer, a half going away from zero: negative numbers give 0,
numbers beyond the range its largest member, and what is not a number 0. -/
def toUnsigned : Double → Nat
  | .finite false m e => min (wholePart m e) (twoTo 64 - 1)
  | .infinite false => twoTo 64 - 1
  | _ => 0

end Double

end GatewayRouting
