import GatewayRouting.Settings.Yaml.Text
import GatewayRouting.Yaml.Tag
import GatewayRouting.Yaml.Token

/-!
# Tags and directions in settings

The tag of a node is a handle with what follows it, or is written out between angle brackets.
Lines before a document can give meanings to handles, or say something that means nothing here.
-/

namespace GatewayRouting
namespace SettingsYaml

open Yaml (Cursor Token isFlowMark)

/-- The characters of a place in the web, which a tag is written with. -/
def isPlaceChar (c : Char) : Bool :=
  c.isAlphanum || "-#;/?:@&=+$,_.!~*'()[]%".contains c

/-- The characters that may follow a handle. -/
def isSuffixChar (c : Char) : Bool :=
  isPlaceChar c && !isFlowMark c && c ≠ '!'

/-- The character that escaped octets stand for: an octet of its own, or the number that two of
them make where the first one announces a second. More than two make none. -/
def tagEscape? (text : List Char) : Option (Char × List Char) := do
  let (first, text) ← Yaml.tagOctet? text
  if first < 0x80 then return (← Yaml.charOfNumber? first, text)
  if first / 0x20 ≠ 6 then none
  let (second, text) ← Yaml.tagOctet? text
  if second / 0x40 ≠ 2 then none
  return (← Yaml.charOfNumber? (first * 0x100 + second), text)

/-- Reads the characters of a tag that have a property. -/
def tagText? (p : Char → Bool) : Nat → List Char → Option (List Char × List Char)
  | 0, text => some ([], text)
  | fuel + 1, text =>
    match text with
    | [] => some ([], [])
    | c :: rest =>
      if !p c then some ([], text)
      else do
        let (c, text) ← if c = '%' then tagEscape? text else some (c, rest)
        let (more, text) ← tagText? p fuel text
        return (c :: more, text)

/-- Reads such characters from a place on. -/
def tagRun? (p : Char → Bool) (cursor : Cursor) : Option (String × Cursor) := do
  let (text, rest) ← tagText? p (cursor.rest.length + 1) cursor.rest
  return (String.ofList text, cursor.skip (cursor.rest.length - rest.length))

/-- A tag; the cursor stands at its exclamation mark. A mark alone is a tag without a handle, and
so is one that is written out. -/
def tag? (inFlow : Bool) (cursor : Cursor) : Option (Token × Cursor) := do
  let (token, cursor) ←
    match cursor.rest with
    | '!' :: '<' :: _ => do
      let (text, cursor) ← tagRun? isPlaceChar (cursor.skip 2)
      if cursor.rest.head? ≠ some '>' then none
      else some (Token.tag "" text, cursor.skip 1)
    | _ => do
      let (handle, cursor) ← Yaml.handle? cursor
      let (text, cursor) ← tagRun? isSuffixChar cursor
      if 1 < handle.length && handle.getLast? == some '!' then
        if text = "" then none else some (.tag (String.ofList handle) text, cursor)
      else
        let rest := String.ofList handle.tail ++ text
        some (if rest = "" then .tag "" "!" else .tag "!" rest, cursor)
  if atGap cursor.rest || (inFlow && atFlowMark cursor.rest) then some (token, cursor) else none

/-- What a handle stands for. It may start with an exclamation mark, which stands nowhere else at a
start. -/
def meaning? (cursor : Cursor) : Option (String × Cursor) :=
  let isFirst (c : Char) : Bool := isSuffixChar c || c = '!'
  if !(cursor.rest.head?.any isFirst) then none else tagRun? isPlaceChar cursor

/-- A line of directions; the cursor stands at its percent sign. One with an unknown name gives the
handle of no name no meaning. -/
def direction? (cursor : Cursor) : Option (Token × Cursor) := do
  let name := (cursor.skip 1).run Yaml.isNameChar
  let cursor := cursor.skip (name.length + 1)
  if name.isEmpty || !atGap cursor.rest then none
  let start := cursor.skipRun Yaml.isSpaceOrTab
  let (token, cursor) ←
    match String.ofList name with
    | "YAML" => do
      let (major, cursor) ← Yaml.versionNumber? start
      if cursor.rest.head? ≠ some '.' then none
      let (minor, cursor) ← Yaml.versionNumber? (cursor.skip 1)
      some (Token.version major minor, cursor)
    | "TAG" => do
      let (handle, cursor) ← Yaml.handle? start
      if handle.getLast? ≠ some '!' then none
      let (meaning, cursor) ← meaning? (cursor.skipRun Yaml.isSpaceOrTab)
      if !atGap cursor.rest then none
      some (.tagHandle (String.ofList handle) meaning, cursor)
    | _ => some (.tagHandle "" "", cursor.skipRun fun c => !isLineEnd c)
  let cursor := (← passBlanks? cursor).rest
  if atLineEnd cursor.rest then some (token, cursor.skipBreak) else none

end SettingsYaml
end GatewayRouting
