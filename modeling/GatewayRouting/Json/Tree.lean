import GatewayRouting.Json.Token

/-!
# Trees of what was read

A text is built into a tree from left to right. Reading may have to stop early, so an array or an
object says whether its closing bracket was reached, and a value that was due and could not be
read is `broken`. A decoder that walks the tree in order meets the first fault of the text where a
reader of the text would.

The builder keeps the frames of the brackets that are still open, innermost first, and takes one
token at a time; nothing bounds how deep the brackets nest.
-/

namespace GatewayRouting
namespace Json

/-- What was read of a value. -/
inductive Tree where
  /-- nothing, as a value -/
  | null
  /-- a truth value -/
  | bool (value : Bool)
  /-- a number -/
  | number (numeral : Numeral)
  /-- a text -/
  | string (raw : RawText)
  /-- the items of an array, and whether it was closed -/
  | array (items : List Tree) (closed : Bool)
  /-- the members of an object in their order, repeated names kept, and whether it was closed -/
  | object (members : List (RawText × Tree)) (closed : Bool)
  /-- a value was due here and could not be read -/
  | broken
deriving Inhabited

/-- Whether a value was read to its end. An array or object inside which reading stopped was not
closed, so there is no need to look further in. -/
def Tree.isWhole : Tree → Bool
  | .array _ closed => closed
  | .object _ closed => closed
  | .broken => false
  | _ => true

/-- An open bracket with what was read behind it, last first. -/
inductive Frame where
  /-- an array and its items -/
  | array (items : List Tree)
  /-- an object and its members -/
  | object (members : List (RawText × Tree))
  /-- an object and its members, and the name of the member whose value is next -/
  | member (members : List (RawText × Tree)) (name : RawText)
deriving Inhabited

/-- What a reader expects next. -/
inductive Expected where
  /-- a value -/
  | value
  /-- the first item of an array, or its end -/
  | firstItem
  /-- the first name in an object, or its end -/
  | firstName
  /-- a name -/
  | name
  /-- the colon behind a name -/
  | colon
  /-- a comma or the end, after a value -/
  | separator
deriving DecidableEq, Repr, Inhabited

/-- What is made of a text: the tree of its first value, and whether the text ends there. -/
structure Reading where
  /-- the value -/
  root : Tree
  /-- whether nothing but white space follows it -/
  isAll : Bool
deriving Inhabited

/-- The tree when reading stops inside these frames; `inner` is the value that they surround. -/
def Frame.interrupt : List Frame → Option Tree → Tree
  | [], inner => inner.getD .broken
  | .array items :: frames, inner =>
    interrupt frames (some (.array (items.reverse ++ inner.toList) false))
  | .object members :: frames, _ => interrupt frames (some (.object members.reverse false))
  | .member members name :: frames, inner =>
    interrupt frames (some (.object (members.reverse ++ [(name, inner.getD .broken)]) false))

/-- What one token does. -/
inductive Move where
  /-- reading goes on -/
  | go (expected : Expected) (frames : List Frame)
  /-- the first value of the text is complete -/
  | ended (root : Tree)
  /-- the token cannot stand here -/
  | stop
deriving Inhabited

/-- A complete value is put into the innermost frame; without a frame it is the root. -/
def Move.deliver (value : Tree) : List Frame → Move
  | [] => .ended value
  | .array items :: frames => .go .separator (.array (value :: items) :: frames)
  | .object members :: frames => .go .separator (.object members :: frames)
  | .member members name :: frames =>
    .go .separator (.object ((name, value) :: members) :: frames)

/-- The token starts a value, or it cannot stand here. -/
def Move.ofValue (frames : List Frame) : Token → Move
  | .openArray => .go .firstItem (.array [] :: frames)
  | .openObject => .go .firstName (.object [] :: frames)
  | .null => deliver .null frames
  | .bool value => deliver (.bool value) frames
  | .number numeral => deliver (.number numeral) frames
  | .string raw => deliver (.string raw) frames
  | _ => .stop

/-- The move for a token, by what was expected and the innermost frame. -/
def Move.ofToken : Expected → List Frame → Token → Move
  | .value, frames, token => ofValue frames token
  | .firstItem, .array items :: frames, .closeArray =>
    deliver (.array items.reverse true) frames
  | .firstItem, frames, token => ofValue frames token
  | .firstName, .object members :: frames, .closeObject =>
    deliver (.object members.reverse true) frames
  | .firstName, .object members :: frames, .string name =>
    .go .colon (.member members name :: frames)
  | .name, .object members :: frames, .string name =>
    .go .colon (.member members name :: frames)
  | .colon, frames, .colon => .go .value frames
  | .separator, .array items :: frames, .closeArray =>
    deliver (.array items.reverse true) frames
  | .separator, .object members :: frames, .closeObject =>
    deliver (.object members.reverse true) frames
  | .separator, .array items :: frames, .comma => .go .value (.array items :: frames)
  | .separator, .object members :: frames, .comma => .go .name (.object members :: frames)
  | _, _, _ => .stop

/-- Builds a tree from tokens. -/
def build : Expected → List Frame → List Token → Reading
  | _, frames, [] => ⟨Frame.interrupt frames none, false⟩
  | expected, frames, token :: tokens =>
    match Move.ofToken expected frames token with
    | .go expected frames => build expected frames tokens
    | .ended root => ⟨root, tokens.isEmpty⟩
    | .stop => ⟨Frame.interrupt frames none, false⟩

/-- Reads a text. -/
def read (text : List Char) : Reading :=
  build .value [] (Token.scan text)

end Json
end GatewayRouting
