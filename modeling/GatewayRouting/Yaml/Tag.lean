import GatewayRouting.Yaml.Text

/-!
# Parts of tags and directions

The tag of a node has a handle, whose meaning lines before the document can give, and text in which
characters can be escaped by their octets. The other thing that such a line can give is a version.
-/

namespace GatewayRouting
namespace Yaml

/-- The digits of a version. -/
def versionNumber? (cursor : Cursor) : Option (Nat × Cursor) :=
  let digits := cursor.run isDecimalDigit
  if digits.isEmpty || 9 < digits.length then none
  else some (decimalValue digits, cursor.skip digits.length)

/-- The characters of a tag that stand for themselves. -/
def isTagChar (brackets : Bool) (c : Char) : Bool :=
  isNameChar c || ";/?:@&=+$.!~*'()".contains c || (brackets && (c = ',' || c = '[' || c = ']'))

/-- The octet of an escape in a tag. -/
def tagOctet? : List Char → Option (Nat × List Char)
  | '%' :: a :: b :: rest => do return ((← digitValue? a) * 16 + (← digitValue? b), rest)
  | _ => none

/-- The character that escaped octets stand for: as many of them as the first one says. If their
number is that of no character, a replacement stands in for it. -/
def tagEscape? (text : List Char) : Option (Char × List Char) := do
  let (first, text) ← tagOctet? text
  let (more, value) ←
    if first < 0x80 then some (0, first)
    else if first / 0x20 = 6 then some (1, first % 0x20)
    else if first / 0x10 = 14 then some (2, first % 0x10)
    else if first / 8 = 30 then some (3, first % 8)
    else none
  let rec go : Nat → Nat → List Char → Option (Nat × List Char)
    | 0, value, text => some (value, text)
    | n + 1, value, text => do
      let (octet, text) ← tagOctet? text
      if octet / 0x40 ≠ 2 then none
      go n (value * 0x40 + octet % 0x40) text
  let (value, text) ← go more value text
  return ((charOfNumber? value).getD '\uFFFD', text)

/-- Reads the characters of a tag. -/
def tagText? (brackets : Bool) : Nat → List Char → Option (List Char × List Char)
  | 0, text => some ([], text)
  | fuel + 1, text =>
    match text with
    | '%' :: _ => do
      let (c, text) ← tagEscape? text
      let (more, text) ← tagText? brackets fuel text
      return (c :: more, text)
    | c :: rest =>
      if isTagChar brackets c then do
        let (more, text) ← tagText? brackets fuel rest
        return (c :: more, text)
      else some ([], text)
    | [] => some ([], [])

/-- Reads the characters of a tag from a place on. -/
def tagRun? (brackets : Bool) (cursor : Cursor) : Option (List Char × Cursor) := do
  let (text, rest) ← tagText? brackets (cursor.rest.length + 1) cursor.rest
  return (text, cursor.skip (cursor.rest.length - rest.length))

/-- The handle of a tag: an exclamation mark, a name and, if it is there, another mark. -/
def handle? (cursor : Cursor) : Option (List Char × Cursor) :=
  match cursor.rest with
  | '!' :: rest =>
    let name := rest.takeWhile isNameChar
    let cursor := cursor.skip (name.length + 1)
    match cursor.rest with
    | '!' :: _ => some ('!' :: name ++ ['!'], cursor.skip 1)
    | _ => some ('!' :: name, cursor)
  | _ => none

end Yaml
end GatewayRouting
