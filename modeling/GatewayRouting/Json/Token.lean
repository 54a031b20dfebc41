import GatewayRouting.Json.Numeral
import GatewayRouting.Json.Text

/-!
# Tokens

A JSON text as a list of tokens. White space (space, tab, line feed, carriage return) separates
tokens and is dropped. Where no token can be read, the list ends with `bad`, so that a reader who
goes from left to right meets the fault exactly when it gets there.
-/

namespace GatewayRouting
namespace Json

/-- A smallest part of a JSON text. -/
inductive Token where
  /-- an opening brace -/
  | openObject
  /-- a closing brace -/
  | closeObject
  /-- an opening bracket -/
  | openArray
  /-- a closing bracket -/
  | closeArray
  /-- a colon -/
  | colon
  /-- a comma -/
  | comma
  /-- the word for nothing -/
  | null
  /-- one of the two truth words -/
  | bool (value : Bool)
  /-- a number -/
  | number (numeral : Numeral)
  /-- a quoted text -/
  | string (raw : RawText)
  /-- the place where the text stops being JSON -/
  | bad
deriving DecidableEq, Repr, Inhabited

/-- The four characters that may stand between tokens. -/
def isSpace (c : Char) : Bool :=
  c = ' ' || c = '\n' || c = '\t' || c = '\r'

/-- Takes a word off the start of a text. -/
def dropWord? : List Char → List Char → Option (List Char)
  | [], text => some text
  | w :: word, c :: text => if w = c then dropWord? word text else none
  | _ :: _, [] => none

/-- The token at the start of a text that does not start with white space, and the rest. -/
def Token.first? (c : Char) (rest : List Char) : Option (Token × List Char) :=
  if c = '{' then some (.openObject, rest)
  else if c = '}' then some (.closeObject, rest)
  else if c = '[' then some (.openArray, rest)
  else if c = ']' then some (.closeArray, rest)
  else if c = ':' then some (.colon, rest)
  else if c = ',' then some (.comma, rest)
  else if c = '"' then (RawText.scan? rest).map fun (raw, rest) => (.string raw, rest)
  else if c = 'n' then (dropWord? "ull".toList rest).map fun rest => (.null, rest)
  else if c = 't' then (dropWord? "rue".toList rest).map fun rest => (.bool true, rest)
  else if c = 'f' then (dropWord? "alse".toList rest).map fun rest => (.bool false, rest)
  else (Numeral.scan? (c :: rest)).map fun (numeral, rest) => (.number numeral, rest)

/-- Reads tokens for as long as there are any; `fuel` bounds their number. -/
def Token.scanWithin : Nat → List Char → List Token
  | 0, [] => []
  | 0, _ :: _ => [.bad]
  | _ + 1, [] => []
  | fuel + 1, c :: rest =>
    if isSpace c then scanWithin fuel rest
    else
      match Token.first? c rest with
      | some (token, rest) => token :: scanWithin fuel rest
      | none => [.bad]

/-- The tokens of a text. A token takes a character at least, so the length of the text bounds
their number. -/
def Token.scan (text : List Char) : List Token :=
  scanWithin text.length text

/-- A token, spelled out. -/
def Token.spell : Token → List Char
  | .openObject => ['{']
  | .closeObject => ['}']
  | .openArray => ['[']
  | .closeArray => [']']
  | .colon => [':']
  | .comma => [',']
  | .null => "null".toList
  | .bool true => "true".toList
  | .bool false => "false".toList
  | .number numeral => numeral.spell
  | .string raw => '"' :: raw.flatMap RawChar.spell ++ ['"']
  | .bad => []

end Json
end GatewayRouting
