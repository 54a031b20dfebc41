import GatewayRouting.Json.Token

/-!
# Layout

Two ways to write a list of tokens. `Json.compact` puts nothing between them. `Json.pretty` gives
each item and each member a line of its own, two spaces further in for every open bracket, and
writes brackets with nothing between them together. Both differ in white space alone.
-/

namespace GatewayRouting
namespace Json

/-- Tokens without anything between them. -/
def compact (tokens : List Token) : List Char :=
  tokens.flatMap Token.spell

/-- The start of a line. -/
def newLine (depth : Nat) : List Char :=
  '\n' :: List.replicate (2 * depth) ' '

/-- Tokens on lines, inside `depth` open brackets. -/
def prettyFrom : Nat → List Token → List Char
  | _, [] => []
  | depth, .openArray :: .closeArray :: rest => '[' :: ']' :: prettyFrom depth rest
  | depth, .openObject :: .closeObject :: rest => '{' :: '}' :: prettyFrom depth rest
  | depth, .openArray :: rest => '[' :: newLine (depth + 1) ++ prettyFrom (depth + 1) rest
  | depth, .openObject :: rest => '{' :: newLine (depth + 1) ++ prettyFrom (depth + 1) rest
  | depth, .closeArray :: rest => newLine (depth - 1) ++ ']' :: prettyFrom (depth - 1) rest
  | depth, .closeObject :: rest => newLine (depth - 1) ++ '}' :: prettyFrom (depth - 1) rest
  | depth, .comma :: rest => ',' :: newLine depth ++ prettyFrom depth rest
  | depth, .colon :: rest => ':' :: ' ' :: prettyFrom depth rest
  | depth, token :: rest => token.spell ++ prettyFrom depth rest

/-- Tokens on lines. -/
def pretty (tokens : List Token) : List Char :=
  prettyFrom 0 tokens

end Json
end GatewayRouting
