/-!
# Path patterns

A pattern and a request path are both cut into *segments*: the pieces between slashes, once the
slashes at both ends are gone. A pattern's segment is either written out, or a parameter
(`:id`, `{id}`) that stands for one non-empty segment, or the wildcard `*`. A wildcard in the
last place stands for one segment or more; anywhere else it stands for one non-empty segment.

`Pattern.accepts` is the decision used when routes are scanned.
-/

namespace GatewayRouting

/-- One piece of a path between two slashes. It may be empty inside a path (`/a//b`). -/
abbrev Segment := List Char

namespace Segment

/-- The segment `*`. -/
def wildcard : Segment := ['*']

/-- A parameter is a colon with something after it, or braces with something between them. -/
def isParameter (s : Segment) : Bool :=
  (s.head? == some ':' && 1 < s.length) ||
    (s.head? == some '{' && s.getLast? == some '}' && 2 < s.length)

/-- Whether one segment of a pattern accepts one segment of a path: a parameter and the wildcard
accept every non-empty segment, any other segment only itself. -/
def accepts (expected actual : Segment) : Bool :=
  if expected.isParameter || expected == wildcard then !actual.isEmpty else expected == actual

end Segment

/-- The pieces of a text between slashes: one more than it has slashes. -/
def piecesBetweenSlashes : List Char → List Segment
  | [] => [[]]
  | c :: rest =>
    if c = '/' then [] :: piecesBetweenSlashes rest
    else
      match piecesBetweenSlashes rest with
      | [] => [[c]]
      | piece :: pieces => (c :: piece) :: pieces

/-- A text without the slashes at its two ends. -/
def trimSlashes (path : List Char) : List Char :=
  (((path.dropWhile (· == '/')).reverse.dropWhile (· == '/')).reverse)

/-- The segments of a path. A path of slashes alone has none. -/
def segments (path : String) : List Segment :=
  match trimSlashes path.toList with
  | [] => []
  | trimmed => piecesBetweenSlashes trimmed

namespace Pattern

/-- Whether the segments of a pattern accept the segments of a path, from left to right. A wildcard
in the last place takes all that is left, which must be something. -/
def acceptsAll : List Segment → List Segment → Bool
  | [], path => path.isEmpty
  | expected :: pattern, path =>
    if expected == Segment.wildcard && pattern.isEmpty then !path.isEmpty
    else
      match path with
      | [] => false
      | actual :: path => expected.accepts actual && acceptsAll pattern path

/-- Whether a pattern accepts a request path. -/
def accepts (pattern path : String) : Bool :=
  acceptsAll (segments pattern) (segments path)

end Pattern

end GatewayRouting
