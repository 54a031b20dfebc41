import GatewayRouting.Power

/-!
# Numbers written in digits

Reading whole numbers from text: digits of a radix up to sixteen, an optional sign, and a range
that the number has to fall in. There is no white space, no separator and no default: a text that
is not a number from its first character to its last has no value.
-/

namespace GatewayRouting

/-- The value of a digit of radix sixteen, of either letter case. -/
def digitValue? (c : Char) : Option Nat :=
  if '0' ≤ c ∧ c ≤ '9' then some (c.toNat - '0'.toNat)
  else if 'a' ≤ c ∧ c ≤ 'f' then some (c.toNat - 'a'.toNat + 10)
  else if 'A' ≤ c ∧ c ≤ 'F' then some (c.toNat - 'A'.toNat + 10)
  else none

/-- Whether a character is a decimal digit. -/
def isDecimalDigit (c : Char) : Bool :=
  '0' ≤ c && c ≤ '9'

/-- The value of one digit of a radix. -/
def digitOfRadix? (radix : Nat) (c : Char) : Option Nat :=
  match digitValue? c with
  | some d => if d < radix then some d else none
  | none => none

/-- The value of a run of digits that continues `start`. -/
def digitsValue? (radix : Nat) : Nat → List Char → Option Nat
  | start, [] => some start
  | start, c :: rest =>
    match digitOfRadix? radix c with
    | some d => digitsValue? radix (start * radix + d) rest
    | none => none

/-- The value of decimal digits that are known to be digits. -/
def decimalValue (digits : List Char) : Nat :=
  digits.foldl (fun value c => value * 10 + (c.toNat - '0'.toNat)) 0

/-- A natural number: one digit or more of the radix. -/
def natOfText? (radix : Nat) : List Char → Option Nat
  | [] => none
  | text => digitsValue? radix 0 text

/-- An integer with an optional sign, plus or minus. -/
def intOfText? (radix : Nat) : List Char → Option Int
  | '+' :: digits => (natOfText? radix digits).map Int.ofNat
  | '-' :: digits => (natOfText? radix digits).map fun n => -(n : Int)
  | digits => (natOfText? radix digits).map Int.ofNat

/-- A number with an optional plus sign. -/
def unsignedOfText? (radix : Nat) : List Char → Option Nat
  | '+' :: digits => natOfText? radix digits
  | digits => natOfText? radix digits

/-- The range of signed integers of a width. -/
def inSignedRange (width : Nat) (i : Int) : Bool :=
  -(twoTo (width - 1) : Nat) ≤ i && i < (twoTo (width - 1) : Nat)

/-- The range of unsigned integers of a width. -/
def inUnsignedRange (width : Nat) (n : Nat) : Bool :=
  n < twoTo width

/-- A signed 64-bit integer in decimal. -/
def int64OfText? (text : List Char) : Option Int :=
  (intOfText? 10 text).filter (inSignedRange 64)

/-- An unsigned 64-bit integer in decimal. -/
def uint64OfText? (text : List Char) : Option Nat :=
  (unsignedOfText? 10 text).filter (inUnsignedRange 64)

/-- The decimal digits of a natural number, the highest first. -/
def decimalDigits (n : Nat) : List Char :=
  Nat.toDigits 10 n

/-- An integer in decimal, with a sign only if it is negative. -/
def decimalText (i : Int) : List Char :=
  if i < 0 then '-' :: decimalDigits i.natAbs else decimalDigits i.natAbs

/-- The ASCII letters in lower case; every other character as it is. -/
def asciiLower (text : List Char) : List Char :=
  text.map Char.toLower

end GatewayRouting
