import GatewayRouting.Toml.Scalar
import GatewayRouting.Toml.Table

/-!
# TOML documents

A document is read line by line. A line may hold a header, which says what table the values below
it belong to, or a key with its value. A list stands between brackets and a table in the place of a
value between braces; both may run over several lines, with comments, and may nest, though not
without end.
-/

namespace GatewayRouting
namespace Toml

/-! ## Values -/

/-- A text without the spaces, comments and line ends at its start. -/
def skipLines : Nat → List Char → List Char
  | 0, text => text
  | fuel + 1, text =>
    let text := skipComment (skipBlanks text)
    match newline? text with
    | some rest => skipLines fuel rest
    | none => text

mutual

/-- A value, with at most `depth` lists and tables around each other. -/
def value? (depth : Nat) : Nat → List Char → Option (Setting × List Char)
  | 0, _ => none
  | fuel + 1, text =>
    match text with
    | '[' :: rest => do
      if depth = 0 then none
      let (items, rest) ← items? (depth - 1) fuel (skipLines rest.length rest)
      return (.list items, rest)
    | '{' :: rest => do
      if depth = 0 then none
      let (entries, rest) ← pairs? (depth - 1) fuel [] (skipLines rest.length rest)
      return (.table (settingsOf entries), rest)
    | '"' :: _ => (text? text).map fun (text, rest) => (.text (String.ofList text), rest)
    | '\'' :: _ => (text? text).map fun (text, rest) => (.text (String.ofList text), rest)
    | _ => bare? text

/-- The items of a list, up to its closing bracket. A comma may stand behind the last one. -/
def items? (depth : Nat) : Nat → List Char → Option (List Setting × List Char)
  | 0, _ => none
  | fuel + 1, text =>
    match text with
    | ']' :: rest => some ([], rest)
    | text => do
      let (item, rest) ← value? depth fuel text
      match skipLines rest.length rest with
      | ',' :: rest => do
        let (items, rest) ← items? depth fuel (skipLines rest.length rest)
        return (item :: items, rest)
      | ']' :: rest => return ([item], rest)
      | _ => none

/-- The keys and values of a table, added to entries, up to its closing brace. A comma may stand
behind the last one. -/
def pairs? (depth : Nat) : Nat → Entries → List Char → Option (Entries × List Char)
  | 0, _, _ => none
  | fuel + 1, entries, text =>
    match text with
    | '}' :: rest => some (entries, rest)
    | text => do
      let (entries, rest) ← pair? depth fuel entries text
      match skipLines rest.length rest with
      | ',' :: rest => pairs? depth fuel entries (skipLines rest.length rest)
      | '}' :: rest => return (entries, rest)
      | _ => none

/-- A key and its value, added to entries. -/
def pair? (depth : Nat) : Nat → Entries → List Char → Option (Entries × List Char)
  | 0, _, _ => none
  | fuel + 1, entries, text => do
    let (key, rest) ← key? text
    match skipLines rest.length rest with
    | '=' :: rest => do
      let (value, rest) ← value? depth fuel (skipLines rest.length rest)
      return (← entries.addValue key value, rest)
    | _ => none

end

/-! ## Lines -/

/-- The document so far: its root, and the path of the table that values belong to. -/
structure Draft where
  /-- the root -/
  root : Entries := []
  /-- the path of the last header -/
  path : List String := []

/-- A header: a key in brackets for a table, or in double brackets for one more table of a
list. -/
def header? (draft : Draft) (text : List Char) : Option (Draft × List Char) :=
  let close (act : String → Entries → Option Entries) (brackets : Nat) (text : List Char) :
      Option (Draft × List Char) := do
    let (key, rest) ← key? text
    if rest.take brackets ≠ List.replicate brackets ']' then none
    let root ← draft.root.change .passed (fun _ => act (key.getLastD "")) key.dropLast .header
    return ({ root, path := key }, rest.drop brackets)
  match text with
  | '[' :: '[' :: rest => close Entries.openItem 2 rest
  | '[' :: rest => close Entries.openTable 1 rest
  | _ => none

/-- One line of a document, without its end. -/
def line? (draft : Draft) (text : List Char) : Option (Draft × List Char) :=
  match text with
  | '[' :: _ => header? draft text
  | c :: _ =>
    if c = '#' || c = '\n' || c = '\r' then some (draft, text)
    else do
      let (key, rest) ← key? text
      match rest with
      | '=' :: rest => do
        let rest := skipBlanks rest
        let (value, rest) ← value? deepest (4 * rest.length + 4) rest
        let add (_ : Origin) := Entries.addValue key value
        let root ← draft.root.change .passed add draft.path .header
        return ({ draft with root }, rest)
      | _ => none
  | [] => some (draft, [])

/-- The lines of a document, of which there are no more than characters. -/
def lines? : Nat → Draft → List Char → Option Entries
  | 0, _, _ => none
  | fuel + 1, draft, text => do
    let (draft, rest) ← line? draft (skipBlanks text)
    match skipComment (skipBlanks rest) with
    | [] => return draft.root
    | rest =>
      match newline? rest with
      | some rest => lines? fuel draft rest
      | none => none

/-- Reads a document, at whose start a byte order mark may stand. -/
def read? (text : List Char) : Option Setting :=
  let text := match text with
    | '\uFEFF' :: rest => rest
    | text => text
  (lines? (text.length + 1) {} text).map fun entries => .table (settingsOf entries)

end Toml
end GatewayRouting
