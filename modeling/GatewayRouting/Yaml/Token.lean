/-!
# Tokens

A YAML text as a list of tokens. Indentation is turned into tokens that open and close blocks, so
that what follows needs to know nothing about columns.
-/

namespace GatewayRouting
namespace Yaml

/-- A smallest part of a text. -/
inductive Token where
  /-- a line that names a version -/
  | version (major minor : Nat)
  /-- a line that gives a meaning to a handle of tags -/
  | tagHandle (handle meaning : String)
  /-- the mark at the start of a document -/
  | documentStart
  /-- the mark at the end of a document -/
  | documentEnd
  /-- a block of items begins -/
  | blockItems
  /-- a block of entries begins -/
  | blockEntries
  /-- a block ends -/
  | blockEnd
  /-- an opening bracket -/
  | openItems
  /-- a closing bracket -/
  | closeItems
  /-- an opening brace -/
  | openEntries
  /-- a closing brace -/
  | closeEntries
  /-- a comma -/
  | comma
  /-- a dash before an item -/
  | item
  /-- a key is next -/
  | key
  /-- a value is next -/
  | value
  /-- the name of a node that stands for it -/
  | alias (name : String)
  /-- a name for the node that is next -/
  | anchor (name : String)
  /-- a tag for the node that is next: a handle and what follows it -/
  | tag (handle rest : String)
  /-- a scalar, and whether it is written plainly -/
  | scalar (text : String) (isPlain : Bool)
  /-- the end of the text -/
  | ending
deriving DecidableEq, Repr, Inhabited

/-- The tokens of a text, of which `ending` is the last. -/
abbrev Tokens := List Token

end Yaml
end GatewayRouting
