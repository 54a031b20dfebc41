import GatewayRouting.Datum
import GatewayRouting.Text.Digits

/-!
# Numbers

A JSON number is first read as it is written (`Numeral`), then given a value (`Numeral.datum?`).
Without fraction and exponent it is a whole number as long as it fits into 64 bits; minus zero and
everything else is a double-precision number.

That number is computed in a way that can differ from the nearest one in its last digit. The
digits are gathered into an unsigned 64-bit significand for as long as it does not overflow, which
is then multiplied or divided by a power of ten, with one rounding for the conversion and one for
the operation. A number too large for double precision has no value.
-/

namespace GatewayRouting
namespace Json

/-- A number as it is written. -/
structure Numeral where
  /-- whether it starts with a minus -/
  negative : Bool := false
  /-- the digits before the point: a zero alone, or digits that do not start with zero -/
  whole : List Char
  /-- the digits behind the point, if there is a point -/
  fraction : Option (List Char) := none
  /-- the sign and the digits of the exponent, if there is one -/
  exponent : Option (Bool × List Char) := none
deriving DecidableEq, Repr, Inhabited

namespace Numeral

/-! ## Reading -/

/-- The digits before the point. -/
def scanWhole? : List Char → Option (List Char × List Char)
  | [] => none
  | c :: rest =>
    if c = '0' then
      match rest with
      | d :: _ => if isDecimalDigit d then none else some (['0'], rest)
      | [] => some (['0'], [])
    else if isDecimalDigit c then
      some (c :: rest.takeWhile isDecimalDigit, rest.dropWhile isDecimalDigit)
    else none

/-- One digit or more. -/
def scanDigits? (text : List Char) : Option (List Char × List Char) :=
  match text.takeWhile isDecimalDigit with
  | [] => none
  | digits => some (digits, text.dropWhile isDecimalDigit)

/-- A point with digits behind it, or nothing. -/
def scanFraction? : List Char → Option (Option (List Char) × List Char)
  | '.' :: rest => (scanDigits? rest).map fun (digits, rest) => (some digits, rest)
  | rest => some (none, rest)

/-- The letter, an optional sign and digits, or nothing. -/
def scanExponent? : List Char → Option (Option (Bool × List Char) × List Char)
  | [] => some (none, [])
  | c :: rest =>
    if c = 'e' || c = 'E' then
      let (negative, rest) := match rest with
        | '-' :: rest => (true, rest)
        | '+' :: rest => (false, rest)
        | rest => (false, rest)
      (scanDigits? rest).map fun (digits, rest) => (some (negative, digits), rest)
    else some (none, c :: rest)

/-- A number at the start of a text, as long as it can be. -/
def scan? (text : List Char) : Option (Numeral × List Char) := do
  let (negative, text) := match text with
    | '-' :: rest => (true, rest)
    | rest => (false, rest)
  let (whole, text) ← scanWhole? text
  let (fraction, text) ← scanFraction? text
  let (exponent, text) ← scanExponent? text
  return ({ negative, whole, fraction, exponent }, text)

/-- An integer as it is written. -/
def ofInt (i : Int) : Numeral :=
  { negative := i < 0, whole := decimalDigits i.natAbs }

/-- A number, spelled out. -/
def spell (n : Numeral) : List Char :=
  (if n.negative then ['-'] else []) ++ n.whole ++
    (match n.fraction with
      | some digits => '.' :: digits
      | none => []) ++
    (match n.exponent with
      | some (negative, digits) => 'e' :: (if negative then '-' :: digits else digits)
      | none => [])

/-! ## Value -/

/-- Gathers digits into a significand until the next one would not fit into 64 bits. The digits
that are left over start with that one. -/
def gather : Nat → List Char → Nat × List Char
  | significand, [] => (significand, [])
  | significand, c :: rest =>
    let next := significand * 10 + (c.toNat - '0'.toNat)
    if next < twoTo 64 then gather next rest else (significand, c :: rest)

/-- The double-precision number `10 ^ k`. -/
def powerOfTen (k : Nat) : Double :=
  .ofDecimal false 1 k

/-- A number times a power of ten. Beyond `10 ^ 308` there is no factor to multiply by, so only
zero has a value there; below `10 ^ -308` it is divided in more than one step. -/
def scale? (value : Double) (exponent : Int) : Option Double :=
  if value.isZero then some value
  else if 308 < exponent then none
  else if 0 ≤ exponent then
    let product := value.mul (powerOfTen exponent.toNat)
    if product.isInfinite then none else some product
  else if -308 ≤ exponent then some (value.div (powerOfTen (-exponent).toNat))
  else scale? (value.div (powerOfTen 308)) (exponent + 308)
termination_by exponent.natAbs
decreasing_by omega

/-- The value of the exponent. -/
def exponentValue (n : Numeral) : Int :=
  match n.exponent with
  | some (true, digits) => -(decimalValue digits : Int)
  | some (false, digits) => decimalValue digits
  | none => 0

/-- The double-precision number that is meant. -/
def real? (n : Numeral) : Option Double :=
  let (significand, extra) := gather 0 n.whole
  let fraction := n.fraction.getD []
  let (significand, dropped) := gather significand fraction
  let exponent : Int := extra.length - (fraction.length - dropped.length : Nat) + n.exponentValue
  (scale? (.ofNat significand) exponent).map fun value => if n.negative then value.neg else value

/-- The value of a number. -/
def datum? (n : Numeral) : Option Datum :=
  let value := decimalValue n.whole
  if n.fraction.isNone && n.exponent.isNone && value < twoTo 64 then
    if !n.negative then some (.unsigned value)
    else if value = 0 || twoTo 63 < value then n.real?.map .real
    else some (.signed (-value))
  else n.real?.map .real

end Numeral
end Json
end GatewayRouting
