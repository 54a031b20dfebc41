import GatewayRouting.Yaml.Token

/-!
# Nodes

The tokens of a document are put together to its root node. A node can have a name, its anchor,
and an alias stands for the node of a name. Names can be given again, so what an alias means is
decided by numbers: an anchor gets a number, and an alias gets the number that its name has at
that moment.

Readers of YAML differ in some points, which a `Dialect` settles: how anchors are numbered, what
the handle of a tag stands for, and what may be left out.
-/

namespace GatewayRouting
namespace Yaml

/-- What can be written in a document. -/
inductive Node where
  /-- a text, whether it is written plainly, and its tag if it has one -/
  | scalar (tag : Option String) (isPlain : Bool) (text : String)
  /-- items -/
  | items (tag : Option String) (items : List Node)
  /-- entries of keys with values, in order -/
  | entries (tag : Option String) (entries : List (Node × Node))
  /-- a node that has a number -/
  | numbered (number : Nat) (node : Node)
  /-- what the node of this number is -/
  | alias (number : Nat)
deriving Inhabited

/-- Handles of tags and what they stand for. -/
abbrev Handles := List (String × String)

/-- The numbers of names, the latest first. -/
abbrev Names := List (String × Nat)

/-- Where readers of YAML differ. -/
structure Dialect where
  /-- the number of a new anchor after those of the names so far -/
  numberAfter : Names → Nat
  /-- the tag of a handle with what follows it -/
  tag? : Handles → String → String → Option String
  /-- the handles after a line of directions -/
  directed? : Handles → Token → Option Handles
  /-- whether a map may have a value before which no key is marked -/
  valuesAlone : Bool
  /-- whether marks for the end of a document may stand before the first one -/
  endsFirst : Bool

/-- What a reader of tokens knows. -/
structure Reader where
  /-- the tokens that are left -/
  tokens : Tokens
  /-- the handles of tags -/
  handles : Handles := []
  /-- the numbers of the names so far -/
  names : Names := []

/-- A step of reading; it fails where the tokens make no document. -/
abbrev Read := StateT Reader Option

namespace Read

variable (dialect : Dialect)

/-- The next token, which stays. -/
def peek : Read Token := do
  match (← get).tokens with
  | token :: _ => return token
  | [] => failure

/-- Leaves the next token behind. -/
def skip : Read Unit :=
  modify fun reader => { reader with tokens := reader.tokens.tail }

/-- Leaves the next token behind if it is the given one, and says whether it is. -/
def skipIf (token : Token) : Read Bool := do
  if (← peek) = token then
    skip
    return true
  return false

/-- The next token has to be the given one. -/
def expect (token : Token) : Read Unit := do
  if !(← skipIf token) then failure

/-- A node that is not written. -/
def nothing : Node := .scalar none true ""

/-- The number of a name that is given now. -/
def giveNumber (name : String) : Read Nat := do
  let reader ← get
  let number := dialect.numberAfter reader.names
  set { reader with names := (name, number) :: reader.names }
  return number

/-- An anchor before a node, if there is one. -/
def anchor? : Read (Option String) := do
  match ← peek with
  | .anchor name =>
    skip
    return some name
  | _ => return none

/-- A tag before a node, if there is one. -/
def tag? : Read (Option String) := do
  match ← peek with
  | .tag handle rest =>
    skip
    match dialect.tag? (← get).handles handle rest with
    | some tag => return some tag
    | none => failure
  | _ => return none

/-- The anchor and the tag before a node, in either order. -/
def properties : Read (Option String × Option String) := do
  match ← anchor? with
  | some name => return (some name, ← tag? dialect)
  | none =>
    let tag ← tag? dialect
    return (← anchor?, tag)

/-- A node with its number, if it has one. -/
def withNumber (number : Option Nat) (node : Node) : Node :=
  match number with
  | some number => .numbered number node
  | none => node

mutual

/-- A node. Outside brackets it can be a block, and in the place of a value also a block of items
that is not indented. -/
def node (block dashes : Bool) : Nat → Read Node
  | 0 => failure
  | fuel + 1 => do
    match ← peek with
    | .alias name =>
      skip
      match (← get).names.lookup name with
      | some number => return .alias number
      | none => failure
    | _ =>
      let (anchor, tag) ← properties dialect
      let token ← peek
      let number ← match anchor with
        | some name => some <$> giveNumber dialect name
        | none => pure none
      let content ←
        if dashes && token = .item then
          .items tag <$> blockItems false fuel
        else
          match token with
          | .scalar text isPlain => do
            skip
            pure (.scalar tag isPlain text)
          | .openItems => do
            skip
            .items tag <$> flowItems true fuel
          | .openEntries => do
            skip
            .entries tag <$> flowEntries true fuel
          | _ =>
            if block && token = .blockItems then do
              skip
              .items tag <$> blockItems true fuel
            else if block && token = .blockEntries then do
              skip
              .entries tag <$> blockEntries fuel
            else if anchor.isSome || tag.isSome then
              pure (.scalar tag true "")
            else failure
      return withNumber number content

/-- A node, unless one of some tokens is next: then it is not written. -/
def nodeUnless (stops : List Token) (block dashes : Bool) : Nat → Read Node
  | 0 => failure
  | fuel + 1 => do
    if stops.contains (← peek) then return nothing
    node block dashes fuel

/-- The items of a block, each behind a dash. A block that is not indented has no end of its
own. -/
def blockItems (indented : Bool) : Nat → Read (List Node)
  | 0 => failure
  | fuel + 1 => do
    if ← skipIf .item then
      let stops : List Token :=
        if indented then [.item, .blockEnd] else [.item, .key, .value, .blockEnd]
      let first ← nodeUnless stops true false fuel
      return first :: (← blockItems indented fuel)
    else if indented then
      expect .blockEnd
      return []
    else return []

/-- The entries of a block. -/
def blockEntries : Nat → Read (List (Node × Node))
  | 0 => failure
  | fuel + 1 => do
    if ← skipIf .blockEnd then return []
    let stops : List Token := [.key, .value, .blockEnd]
    let key ← if ← skipIf .key then nodeUnless stops true true fuel
      else if dialect.valuesAlone && (← peek) = .value then pure nothing
      else failure
    let value ← if ← skipIf .value then nodeUnless stops true true fuel else pure nothing
    return (key, value) :: (← blockEntries fuel)

/-- The items between brackets. An item can be a single entry. -/
def flowItems (isFirst : Bool) : Nat → Read (List Node)
  | 0 => failure
  | fuel + 1 => do
    if ← skipIf .closeItems then return []
    if !isFirst then expect .comma
    if ← skipIf .closeItems then return []
    let item ← if ← skipIf .key then
        let stops : List Token := [.value, .comma, .closeItems]
        let key ← if stops.contains (← peek) then do
            skip
            pure nothing
          else node false false fuel
        let value ← if ← skipIf .value then nodeUnless [.comma, .closeItems] false false fuel
          else pure nothing
        pure (.entries none [(key, value)])
      else node false false fuel
    return item :: (← flowItems false fuel)

/-- The entries between braces. A key can stand alone. -/
def flowEntries (isFirst : Bool) : Nat → Read (List (Node × Node))
  | 0 => failure
  | fuel + 1 => do
    if ← skipIf .closeEntries then return []
    if !isFirst then expect .comma
    if ← skipIf .closeEntries then return []
    let key ← if ← skipIf .key then nodeUnless [.value, .comma, .closeEntries] false false fuel
      else if dialect.valuesAlone && (← peek) = .value then pure nothing
      else return (← node false false fuel, nothing) :: (← flowEntries false fuel)
    let value ← if ← skipIf .value then nodeUnless [.comma, .closeEntries] false false fuel
      else pure nothing
    return (key, value) :: (← flowEntries false fuel)

end

/-- The lines of directions before a document, among which is at most one version. Says whether
there are any. -/
def directions : Nat → Bool → Read Bool
  | 0, _ => failure
  | fuel + 1, versioned => do
    let token ← peek
    let isVersion ← match token with
      | .version .. => pure true
      | .tagHandle .. => pure false
      | _ => return false
    if isVersion && versioned then failure
    skip
    let reader ← get
    match dialect.directed? reader.handles token with
    | some handles => set { reader with handles }
    | none => failure
    let _ ← directions fuel (versioned || isVersion)
    return true

/-- The root of the only document; there is none in an empty text. -/
def root (fuel : Nat) : Read (Option Node) := do
  if dialect.endsFirst then
    modify fun reader => { reader with tokens := reader.tokens.dropWhile (· = .documentEnd) }
  if (← peek) = .ending then return none
  let directed ← directions dialect fuel false
  let stops : List Token := [.documentStart, .documentEnd, .ending]
  if ← skipIf .documentStart then
    match ← peek with
    | .version .. => return some nothing
    | .tagHandle .. => return some nothing
    | _ => return some (← nodeUnless dialect stops true false fuel)
  else if directed then failure
  else return some (← node dialect true false fuel)

end Read

/-- Reads the root of the only document that tokens make; there is none in an empty text. -/
def Node.ofTokens? (dialect : Dialect) (tokens : Tokens) : Option (Option Node) := do
  let (root, reader) ← (Read.root dialect (4 * tokens.length + 8)).run { tokens }
  if reader.tokens.dropWhile (· = .documentEnd) = [.ending] then return root else none

end Yaml
end GatewayRouting
