import GatewayRouting.Json.Tree

/-!
# JSON documents

The content of a document needs all of its text: every string has to be text, every number has to
be in range, and arrays and objects nest at most 127 deep.
-/

namespace GatewayRouting
namespace Json

/-- How deep arrays and objects may nest. -/
def deepest : Nat := 127

/-- A pair of two results, if both are there. -/
def both? {α β : Type} : Option α → Option β → Option (α × β)
  | some a, some b => some (a, b)
  | _, _ => none

/-- What a tree means, at most some levels deep. -/
def Tree.datum? : Nat → Tree → Option Datum
  | _, .null => some .null
  | _, .bool value => some (.bool value)
  | _, .number numeral => numeral.datum?
  | _, .string raw => raw.text?.map Datum.text
  | _, .broken => none
  | 0, _ => none
  | levels + 1, .array items closed =>
    if closed then (items.mapM (Tree.datum? levels)).map Datum.list else none
  | levels + 1, .object members closed =>
    if closed then
      (members.mapM fun member =>
        both? (member.1.text?.map Datum.text) (Tree.datum? levels member.2)).map Datum.map
    else none

/-- The first value of a text and whether it is all of it. -/
def read? (text : List Char) : Option (Datum × Bool) := do
  let reading := read text
  return (← reading.root.datum? deepest, reading.isAll)

end Json
end GatewayRouting
