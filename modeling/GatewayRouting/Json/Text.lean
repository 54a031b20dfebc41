import GatewayRouting.Text.Digits

/-!
# Quoted text

A JSON string is read in two steps. `RawText.scan?` finds its end and splits it into characters
that stand for themselves, short escapes and escaped UTF-16 units. `RawText.chars?` turns those
into text; it fails only where units do not pair up, which matters for a string that is used and
not for one that is skipped.

`escape` is the written form of a character: quote, backslash and the characters below the space
are escaped, with a short escape where there is one, and nothing else is. Reading undoes it:
`chars?_escape`.
-/

namespace GatewayRouting
namespace Json

/-- One character of a quoted text as it is written. -/
inductive RawChar where
  /-- a character that stands for itself -/
  | plain (c : Char)
  /-- a backslash and a letter -/
  | short (letter : Char)
  /-- a backslash, the letter `u` and four digits of radix sixteen -/
  | unit (value : Nat)
deriving DecidableEq, Repr, Inhabited

/-- What lies between two quotes. -/
abbrev RawText := List RawChar

/-- The character that a short escape stands for. -/
def shortMeaning? : Char → Option Char
  | '"' => some '"'
  | '\\' => some '\\'
  | '/' => some '/'
  | 'b' => some '\x08'
  | 'f' => some '\x0c'
  | 'n' => some '\n'
  | 'r' => some '\r'
  | 't' => some '\t'
  | _ => none

/-- The value of four digits of radix sixteen. -/
def unitValue? (a b c d : Char) : Option Nat := do
  let a ← digitValue? a
  let b ← digitValue? b
  let c ← digitValue? c
  let d ← digitValue? d
  return ((a * 16 + b) * 16 + c) * 16 + d

namespace RawText

/-- Reads up to the closing quote, which is taken off as well. There is no value if the text ends
first, holds a character below the space, or has an escape that is none. -/
def scan? : List Char → Option (RawText × List Char)
  | [] => none
  | '"' :: rest => some ([], rest)
  | '\\' :: 'u' :: a :: b :: c :: d :: rest =>
    match unitValue? a b c d, scan? rest with
    | some value, some (raw, rest) => some (.unit value :: raw, rest)
    | _, _ => none
  | '\\' :: letter :: rest =>
    match shortMeaning? letter, scan? rest with
    | some _, some (raw, rest) => some (.short letter :: raw, rest)
    | _, _ => none
  | c :: rest =>
    if c < ' ' || c == '\\' then none
    else
      match scan? rest with
      | some (raw, rest) => some (.plain c :: raw, rest)
      | none => none

/-- A unit that needs a second one behind it. -/
def isLeading (unit : Nat) : Bool := 0xD800 ≤ unit && unit ≤ 0xDBFF

/-- A unit that needs a leading one before it. -/
def isTrailing (unit : Nat) : Bool := 0xDC00 ≤ unit && unit ≤ 0xDFFF

/-- The character of a pair of units. -/
def pairChar (leading trailing : Nat) : Char :=
  Char.ofNat (0x10000 + (leading - 0xD800) * 0x400 + (trailing - 0xDC00))

/-- The text that is meant. There is none if a leading unit is not followed by a trailing one, or a
trailing one stands alone. -/
def chars? : RawText → Option (List Char)
  | [] => some []
  | .plain c :: rest => (chars? rest).map (c :: ·)
  | .short letter :: rest =>
    match shortMeaning? letter, chars? rest with
    | some c, some text => some (c :: text)
    | _, _ => none
  | .unit value :: rest =>
    if isLeading value then
      match rest with
      | .unit trailing :: rest =>
        if isTrailing trailing then (chars? rest).map (pairChar value trailing :: ·) else none
      | _ => none
    else if isTrailing value then none
    else (chars? rest).map (Char.ofNat value :: ·)

/-- The text that is meant, as a string. -/
def text? (raw : RawText) : Option String :=
  raw.chars?.map String.ofList

end RawText

/-! ## Writing -/

/-- The written form of a character. -/
def escape (c : Char) : RawChar :=
  if c = '"' then .short '"'
  else if c = '\\' then .short '\\'
  else if c = '\x08' then .short 'b'
  else if c = '\x0c' then .short 'f'
  else if c = '\n' then .short 'n'
  else if c = '\r' then .short 'r'
  else if c = '\t' then .short 't'
  else if c < ' ' then .unit c.toNat
  else .plain c

/-- The digit of radix sixteen with a value, in lower case. -/
def hexDigit (value : Nat) : Char :=
  if value < 10 then Char.ofNat (48 + value) else Char.ofNat (87 + value)

/-- A written character, spelled out. -/
def RawChar.spell : RawChar → List Char
  | .plain c => [c]
  | .short letter => ['\\', letter]
  | .unit value =>
    ['\\', 'u', hexDigit (value / 4096 % 16), hexDigit (value / 256 % 16),
      hexDigit (value / 16 % 16), hexDigit (value % 16)]

/-- The written form of a text. -/
def RawText.ofChars (text : List Char) : RawText :=
  text.map escape

/-- What an escaped character means is that character, whatever follows. -/
theorem RawText.chars?_escape (c : Char) (rest : RawText) :
    RawText.chars? (escape c :: rest) = (RawText.chars? rest).map (c :: ·) := by
  have short (letter : Char) (h : shortMeaning? letter = some c) :
      chars? (.short letter :: rest) = (chars? rest).map (c :: ·) := by
    rw [chars?, h]
    cases chars? rest <;> rfl
  unfold escape
  split
  · next h => subst h; exact short '"' rfl
  split
  · next h => subst h; exact short '\\' rfl
  split
  · next h => subst h; exact short 'b' rfl
  split
  · next h => subst h; exact short 'f' rfl
  split
  · next h => subst h; exact short 'n' rfl
  split
  · next h => subst h; exact short 'r' rfl
  split
  · next h => subst h; exact short 't' rfl
  split
  · next h =>
    have hc : c.toNat < 32 := h
    have hl : isLeading c.toNat = false := by simp [isLeading]; omega
    have ht : isTrailing c.toNat = false := by simp [isTrailing]; omega
    rw [chars?.eq_def]
    simp [hl, ht, Char.ofNat_toNat]
  · rw [chars?]

/-- Reading undoes writing. -/
theorem RawText.chars?_ofChars (text : List Char) :
    RawText.chars? (RawText.ofChars text) = some text := by
  induction text with
  | nil => rfl
  | cons c rest ih =>
    have h : RawText.chars? (RawText.ofChars rest) = some rest := ih
    show RawText.chars? (escape c :: RawText.ofChars rest) = some (c :: rest)
    rw [RawText.chars?_escape, h]
    rfl

end Json
end GatewayRouting
