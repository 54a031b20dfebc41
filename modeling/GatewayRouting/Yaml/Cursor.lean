import GatewayRouting.Text.Utf8

/-!
# A place in a text

A YAML text is read through a `Cursor`: what is left of it, and where that starts, counted in
characters and in bytes from the start, in lines, and in characters from the start of the line.
Columns carry the structure of a block, so every step forward keeps them right.
-/

namespace GatewayRouting
namespace Yaml

/-- The characters that may stand in a text. -/
def isAllowed (c : Char) : Bool :=
  let n := c.toNat
  n = 0x9 || n = 0xA || n = 0xD || (0x20 ≤ n && n ≤ 0x7E) || n = 0x85 ||
    (0xA0 ≤ n && n ≤ 0xD7FF) || (0xE000 ≤ n && n ≤ 0xFFFD) || 0x10000 ≤ n

/-- A space or a tab. -/
def isSpaceOrTab (c : Char) : Bool :=
  c = ' ' || c = '\t'

/-- A character that ends a line. -/
def isBreak (c : Char) : Bool :=
  c = '\n' || c = '\r' || c = '\u0085' || c = '\u2028' || c = '\u2029'

/-- Whether a text starts with a space, a tab or the end of a line, or is at its end. -/
def atGap : List Char → Bool
  | [] => true
  | c :: _ => isSpaceOrTab c || isBreak c

/-- Whether a text starts with the end of a line, or is at its end. -/
def atLineEnd : List Char → Bool
  | [] => true
  | c :: _ => isBreak c

/-- The characters of names: ASCII letters and digits, `_` and `-`. -/
def isNameChar (c : Char) : Bool :=
  c.isAlphanum || c = '_' || c = '-'

/-- What is left of a text, and where it starts. -/
structure Cursor where
  /-- what is left -/
  rest : List Char
  /-- how many characters come before -/
  index : Nat := 0
  /-- how many bytes come before -/
  bytes : Nat := 0
  /-- how many lines come before -/
  line : Nat := 0
  /-- how many characters of the line come before -/
  column : Nat := 0
  /-- whether those are spaces and tabs only -/
  leads : Bool := true
deriving Repr, Inhabited

namespace Cursor

/-- Goes on by some characters of the same line. -/
def skip (cursor : Cursor) (n : Nat) : Cursor :=
  let passed := cursor.rest.take n
  { cursor with
    rest := cursor.rest.drop n
    index := cursor.index + passed.length
    bytes := cursor.bytes + Utf8.size passed
    column := cursor.column + passed.length
    leads := cursor.leads && passed.all isSpaceOrTab }

/-- The characters from here on that have a property. -/
def run (cursor : Cursor) (p : Char → Bool) : List Char :=
  cursor.rest.takeWhile p

/-- Goes on past the characters that have a property, none of which ends a line. -/
def skipRun (cursor : Cursor) (p : Char → Bool) : Cursor :=
  cursor.skip (cursor.run p).length

/-- Goes on past the end of a line. A carriage return and a line feed are one end. -/
def skipBreak (cursor : Cursor) : Cursor :=
  let next (n : Nat) : Cursor :=
    { cursor.skip n with line := cursor.line + 1, column := 0, leads := true }
  match cursor.rest with
  | '\r' :: '\n' :: _ => next 2
  | _ :: _ => next 1
  | [] => cursor

/-- What the end of a line means inside a text: a line feed, unless it is one of the two separator
characters, which stand for themselves. -/
def breakChar (c : Char) : Char :=
  if c = '\u2028' || c = '\u2029' then c else '\n'

/-- Whether a line starts here with one of the marks between documents. -/
def atDocumentMark (cursor : Cursor) : Bool :=
  cursor.column = 0 &&
    match cursor.rest with
    | '-' :: '-' :: '-' :: rest => atGap rest
    | '.' :: '.' :: '.' :: rest => atGap rest
    | _ => false

/-- Goes on past a comment, if one starts here. -/
def skipComment (cursor : Cursor) : Cursor :=
  match cursor.rest with
  | '#' :: _ => cursor.skipRun fun c => !isBreak c
  | _ => cursor

end Cursor
end Yaml
end GatewayRouting
