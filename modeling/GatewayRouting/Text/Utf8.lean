/-!
# UTF-8

Bytes as text. Bytes that are no text are read in pieces: a piece is as much of a character as is
there, or one byte where no character can start. A reader may refuse them or put a replacement
character in the place of each piece.
-/

namespace GatewayRouting
namespace Utf8

/-- How many bytes a text has. -/
def size (text : List Char) : Nat :=
  text.foldr (fun c bytes => c.utf8Size + bytes) 0

/-- The bytes of a text. -/
def encode (text : String) : List UInt8 :=
  text.toList.flatMap String.utf8EncodeChar

/-- What a first byte says: how many bytes follow, the range of the second one, and the bits that
it gives. There is nothing for a byte that starts no character of more than one byte. -/
def lead? (byte : Nat) : Option (Nat × Nat × Nat × Nat) :=
  if 0xC2 ≤ byte && byte ≤ 0xDF then some (1, 0x80, 0xBF, byte - 0xC0)
  else if byte = 0xE0 then some (2, 0xA0, 0xBF, 0)
  else if byte = 0xED then some (2, 0x80, 0x9F, 0xD)
  else if 0xE1 ≤ byte && byte ≤ 0xEF then some (2, 0x80, 0xBF, byte - 0xE0)
  else if byte = 0xF0 then some (3, 0x90, 0xBF, 0)
  else if byte = 0xF4 then some (3, 0x80, 0x8F, 4)
  else if 0xF1 ≤ byte && byte ≤ 0xF3 then some (3, 0x80, 0xBF, byte - 0xF0)
  else none

/-- The bytes that follow a first one, each in its range; `value` is what they continue. The
result is the character, or how many bytes of a piece were there. -/
def follow : Nat → Nat → Nat → Nat → Nat → List UInt8 → Char ⊕ Nat
  | 0, _, _, value, _, _ => .inl (Char.ofNat value)
  | n + 1, low, high, value, taken, bytes =>
    match bytes with
    | byte :: rest =>
      let b := byte.toNat
      if low ≤ b && b ≤ high then
        follow n 0x80 0xBF (value * 0x40 + (b - 0x80)) (taken + 1) rest
      else .inr taken
    | [] => .inr taken

/-- The first character or piece of some bytes, and how many bytes it has. -/
def first (byte : UInt8) (rest : List UInt8) : Option Char × Nat :=
  let b := byte.toNat
  if b < 0x80 then (some (Char.ofNat b), 1)
  else
    match lead? b with
    | none => (none, 1)
    | some (n, low, high, value) =>
      match follow n low high value 1 rest with
      | .inl c => (some c, n + 1)
      | .inr taken => (none, taken)

/-- The characters of bytes, with nothing for each piece that is no character. -/
def pieces : Nat → List UInt8 → List (Option Char)
  | 0, _ => []
  | _ + 1, [] => []
  | fuel + 1, byte :: rest =>
    let (c, n) := first byte rest
    c :: pieces fuel (rest.drop (n - 1))

/-- The text of bytes, if all of them are text. -/
def decode? (bytes : List UInt8) : Option String :=
  ((pieces bytes.length bytes).mapM id).map String.ofList

/-- The text of bytes, with a replacement character for each piece that is none. -/
def decodeLossy (bytes : List UInt8) : String :=
  String.ofList ((pieces bytes.length bytes).map fun c => c.getD '\uFFFD')

end Utf8
end GatewayRouting
