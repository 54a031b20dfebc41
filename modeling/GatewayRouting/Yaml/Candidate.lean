import GatewayRouting.Yaml.Cursor
import GatewayRouting.Yaml.Token

/-!
# Candidates for keys

A text before a colon turns out to be a key only at the colon. Until then its token is a candidate.
There is at most one candidate for every open bracket, and one for the block around them. When one
turns out to be a key, the token that says so goes before it, among tokens that were found earlier.
-/

namespace GatewayRouting
namespace Yaml

/-- A token that could turn out to be a key. -/
structure Candidate where
  /-- whether it has to be one, because nothing else can stand there -/
  required : Bool
  /-- how many tokens come before it -/
  position : Nat
  /-- where it starts -/
  place : Cursor
deriving Repr

/-- What could be a key: for every open bracket and for the block around them, the innermost
first. -/
abbrev Candidates := List (Option Candidate)

namespace Candidates

/-- Whether there is an open bracket. -/
def inFlow (candidates : Candidates) : Bool :=
  1 < candidates.length

/-- Drops the candidates that are not fresh any more. None of them may have been required. -/
def dropStale? (isFresh : Candidate → Bool) (candidates : Candidates) : Option Candidates :=
  let isStale (candidate : Option Candidate) : Bool := candidate.any fun c => !isFresh c
  if candidates.any fun c => isStale c && c.any (·.required) then none
  else some (candidates.map fun c => if isStale c then none else c)

/-- Drops the innermost candidate, which may not have been required. -/
def dropInnermost? : Candidates → Option Candidates
  | some candidate :: outer => if candidate.required then none else some (none :: outer)
  | candidates => some candidates

end Candidates

/-- Puts a token at a position among the tokens so far, of which the last one comes first. -/
def insertToken (position : Nat) (token : Token) (tokens : List Token) : List Token :=
  let later := tokens.length - position
  tokens.take later ++ token :: tokens.drop later

end Yaml
end GatewayRouting
