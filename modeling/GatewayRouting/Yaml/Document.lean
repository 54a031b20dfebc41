import GatewayRouting.Yaml.Node
import GatewayRouting.Yaml.Plain
import GatewayRouting.Yaml.Scanner

/-!
# YAML documents

The content of a document is what its root node means, with every alias replaced by the node that
it stands for. That is bounded twice: lists and maps nest at most 128 deep, and aliases are
followed at most a hundred times for each part of the document that was written, so a document
cannot grow without measure.

A new anchor gets as number how many different names there were before it, so a number can be
given twice; it then means the last node that got it.
-/

namespace GatewayRouting
namespace Yaml

/-- The tag of a handle with what follows it. Without a handle the tag is written out. -/
def documentTag? (handles : Handles) (handle rest : String) : Option String :=
  if handle = "" then some rest
  else
    ((handles ++ [("!", "!"), ("!!", "tag:yaml.org,2002:")]).lookup handle).map (· ++ rest)

/-- The handles after a line of directions: the version is 1.1 or 1.2, and each handle is given
one meaning. -/
def documentHandles? (handles : Handles) : Token → Option Handles
  | .version major minor => if major = 1 && (minor = 1 || minor = 2) then some handles else none
  | .tagHandle handle meaning =>
    if (handles.lookup handle).isSome then none else some ((handle, meaning) :: handles)
  | _ => none

/-- How documents are read. -/
def documentDialect : Dialect where
  numberAfter names := (names.map (·.1)).eraseDups.length
  tag? := documentTag?
  directed? := documentHandles?
  valuesAlone := false
  endsFirst := false

mutual

/-- How many parts of a document a node is written with: a scalar or an alias is one, and a list
or map has a beginning and an end. -/
def Node.size : Node → Nat
  | .scalar .. => 1
  | .alias _ => 1
  | .numbered _ node => node.size
  | .items _ items => 2 + sizeOfItems items
  | .entries _ entries => 2 + sizeOfEntries entries

/-- The parts of items. -/
def sizeOfItems : List Node → Nat
  | [] => 0
  | item :: items => item.size + sizeOfItems items

/-- The parts of entries. -/
def sizeOfEntries : List (Node × Node) → Nat
  | [] => 0
  | (key, value) :: entries => key.size + value.size + sizeOfEntries entries

end

mutual

/-- The nodes inside a node that have a number, in the order in which they begin. -/
def Node.numbers : Node → List (Nat × Node)
  | .scalar .. => []
  | .alias _ => []
  | .numbered number node => (number, node) :: node.numbers
  | .items _ items => numbersOfItems items
  | .entries _ entries => numbersOfEntries entries

/-- The numbers inside items. -/
def numbersOfItems : List Node → List (Nat × Node)
  | [] => []
  | item :: items => item.numbers ++ numbersOfItems items

/-- The numbers inside entries. -/
def numbersOfEntries : List (Node × Node) → List (Nat × Node)
  | [] => []
  | (key, value) :: entries => key.numbers ++ value.numbers ++ numbersOfEntries entries

end

/-- How deep lists and maps may nest. -/
def deepest : Nat := 128

/-- The work of giving nodes their meaning: how many aliases may still be followed. -/
abbrev Meaning := StateT Nat Option

/-- The node without its number, or the one that an alias stands for; the nodes that have a number
are given with the last one first. -/
def follow (numbers : List (Nat × Node)) (node : Node) : Meaning Node :=
  match node with
  | .alias number => do
    let left ← get
    if left = 0 then failure
    set (left - 1)
    match numbers.lookup number with
    | some node => return node
    | none => failure
  | .numbered _ node => return node
  | node => return node

/-- What a node means that has no number and is no alias, at most `levels` deep. -/
def meaning (numbers : List (Nat × Node)) : Nat → Node → Meaning Datum
  | _, .scalar none isPlain text =>
    if isPlain then (datumOfPlain? text).elim failure pure else return .text text
  | _, .scalar (some tag) _ text => (datumOfTagged? tag text).elim failure pure
  | _, .alias _ => failure
  | _, .numbered .. => failure
  | 0, _ => failure
  | levels + 1, .items tag items => do
    if tag.any isOwnTag then failure
    return .list (← items.mapM fun item => do meaning numbers levels (← follow numbers item))
  | levels + 1, .entries tag entries => do
    if tag.any isOwnTag then failure
    return .map (← entries.mapM fun (key, value) => do
      let key ← meaning numbers levels (← follow numbers key)
      return (key, ← meaning numbers levels (← follow numbers value)))

/-- What a document means that has a root. -/
def Node.datum? (root : Node) : Option Datum :=
  let numbers := root.numbers.reverse
  let meant : Meaning Datum := do meaning numbers deepest (← follow numbers root)
  (meant.run (100 * root.size)).map (·.1)

/-- Reads a text that is one document. An empty one means nothing. -/
def read? (text : List Char) : Option Datum := do
  match ← Node.ofTokens? documentDialect (← Token.scan? text) with
  | none => return .null
  | some root => root.datum?

end Yaml
end GatewayRouting
