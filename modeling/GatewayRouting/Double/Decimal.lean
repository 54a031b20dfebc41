import GatewayRouting.Double
import GatewayRouting.Text.Digits

/-!
# Double-precision numbers in decimal

Two directions. `Double.ofText?` reads decimal text to the nearest number. `Double.shortest` finds
the shortest decimal that reads back as a given number: the numbers that round to it form an
interval, and for one digit, two digits and so on the two decimals next to the number are tried
until one falls into the interval. `Double.text` writes that decimal in full, never with an
exponent; `Double.shortText` gives very large and very small numbers one.
-/

namespace GatewayRouting
namespace Double

/-! ## Reading -/

/-- The spellings of infinity and of what is not a number, in any letter case. -/
def ofWord? (negative : Bool) (word : List Char) : Option Double :=
  match String.ofList (asciiLower word) with
  | "inf" => some (.infinite negative)
  | "infinity" => some (.infinite negative)
  | "nan" => some .nan
  | _ => none

/-- The exponent after its letter: an optional sign and at least one digit, and nothing else. -/
def exponentOfText? : List Char → Option Int :=
  intOfText? 10

/-- A magnitude: digits with a point among them or at either end, at least one digit, and an
optional exponent. -/
def magnitudeOfText? (negative : Bool) (text : List Char) : Option Double :=
  let whole := text.takeWhile isDecimalDigit
  let rest := text.dropWhile isDecimalDigit
  let fraction := match rest with
    | '.' :: rest => rest.takeWhile isDecimalDigit
    | _ => []
  let rest := match rest with
    | '.' :: rest => rest.dropWhile isDecimalDigit
    | rest => rest
  let digits := whole ++ fraction
  if digits.isEmpty then none
  else
    let exponent? := match rest with
      | [] => some 0
      | c :: rest => if c = 'e' || c = 'E' then exponentOfText? rest else none
    exponent?.map fun exponent =>
      ofDecimal negative (decimalValue digits) (exponent - fraction.length)

/-- A number with an optional sign: a decimal or one of the words. -/
def ofText? (text : List Char) : Option Double :=
  let (negative, magnitude) := match text with
    | '-' :: rest => (true, rest)
    | '+' :: rest => (false, rest)
    | rest => (false, rest)
  match magnitudeOfText? negative magnitude with
  | some d => some d
  | none => ofWord? negative magnitude

/-! ## Writing -/

/-- A positive decimal: digits times a power of ten. -/
structure Decimal where
  /-- the digits, as one number -/
  digits : Nat
  /-- the power of ten -/
  exponent : Int
deriving DecidableEq, Repr

/-- The place of the first decimal digit of `n / d`, which is the `p` with
`10 ^ p ≤ n / d < 10 ^ (p + 1)`. -/
def leadingPlace (n d : Nat) : Int :=
  if d ≤ n then decimalLength (n / d) - 1
  else
    let q := (d - 1) / n
    if q = 0 then 0 else -(decimalLength q)

/-- The numbers that round to `m · 2 ^ e` lie between these two, as halves of halves of a step:
`(below, above)` in units of `2 ^ (e - 2)`. Below a power of two the steps are half as long. -/
def roundingInterval (m : Nat) (e : Int) : Nat × Nat :=
  (if m = twoTo 52 ∧ minExponent < e then 4 * m - 1 else 4 * m - 2, 4 * m + 2)

/-- Whether the decimal `digits · 10 ^ place` rounds to `m · 2 ^ e`. The ends of the interval count
if `m` is even. -/
def reads (m : Nat) (e : Int) (digits : Nat) (place : Int) : Bool :=
  let (low, high) := roundingInterval m e
  let decimal :=
    if 0 ≤ place then (digits * tenTo place.toNat, 1) else (digits, tenTo (-place).toNat)
  let unit := fraction 1 (e - 2)
  let value := decimal.1 * unit.2
  let step := unit.1 * decimal.2
  if m % 2 = 0 then low * step ≤ value && value ≤ high * step
  else low * step < value && value < high * step

/-- The decimal with `count` digits nearest to `m · 2 ^ e` that reads back as it, if one of the two
next to it does. -/
def decimalOfLength? (m : Nat) (e : Int) (count : Nat) : Option Decimal :=
  let (n, d) := fraction m e
  let place := leadingPlace n d - count + 1
  let (n, d) := if 0 ≤ place then (n, d * tenTo place.toNat) else (n * tenTo (-place).toNat, d)
  let below := n / d
  let nearer := roundDiv n d
  let farther := if nearer = below then below + 1 else below
  if reads m e nearer place then some ⟨nearer, place⟩
  else if reads m e farther place then some ⟨farther, place⟩
  else none

/-- The shortest decimal that reads back as `m · 2 ^ e`, for a positive `m`. Seventeen digits are
always enough. -/
def shortest (m : Nat) (e : Int) : Decimal :=
  ((List.range 17).findSome? fun i => decimalOfLength? m e (i + 1)).getD ⟨0, 0⟩

/-- A decimal without the zeros at its end, as digits and a power of ten. -/
def Decimal.strip (digits : List Char) (exponent : Int) : List Char × Int :=
  let zeros := (digits.reverse.takeWhile (· == '0')).length
  if zeros < digits.length then (digits.take (digits.length - zeros), exponent + zeros)
  else (digits, exponent)

/-- A decimal in full: with zeros up to the point, and without a point if nothing follows it. -/
def Decimal.text (decimal : Decimal) : List Char :=
  let (digits, exponent) := strip (decimalDigits decimal.digits) decimal.exponent
  if 0 ≤ exponent then digits ++ List.replicate exponent.toNat '0'
  else
    let places := (-exponent).toNat
    if places < digits.length then
      digits.take (digits.length - places) ++ '.' :: digits.drop (digits.length - places)
    else '0' :: '.' :: List.replicate (places - digits.length) '0' ++ digits

/-- A number in decimal: its shortest digits, written in full. -/
def text : Double → List Char
  | .nan => "NaN".toList
  | .infinite negative => (if negative then "-inf" else "inf").toList
  | .finite negative m e =>
    (if negative then ['-'] else []) ++ (if m = 0 then ['0'] else (shortest m e).text)

/-- A decimal in short: with a power of ten behind it if it is very large or very small, and with a
point in any case where it is not. -/
def Decimal.shortText (decimal : Decimal) : List Char :=
  let (digits, exponent) := strip (decimalDigits decimal.digits) decimal.exponent
  let power := exponent + digits.length - 1
  if power < -5 || 15 < power then
    let mantissa := match digits with
      | first :: second :: more => first :: '.' :: second :: more
      | digits => digits
    mantissa ++ ['e', if power < 0 then '-' else '+'] ++ decimalDigits power.natAbs
  else if 0 ≤ exponent then decimal.text ++ ['.', '0']
  else decimal.text

/-- A number in decimal that shows that it is no integer: its shortest digits, written in short. -/
def shortText : Double → List Char
  | .nan => "NaN".toList
  | .infinite negative => (if negative then "-inf" else "inf").toList
  | .finite negative m e =>
    (if negative then ['-'] else []) ++
      (if m = 0 then ['0', '.', '0'] else (shortest m e).shortText)

end Double
end GatewayRouting
