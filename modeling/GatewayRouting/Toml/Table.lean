import GatewayRouting.Settings.Setting

/-!
# Tables on the way

While a document is read, its tables are still open to additions, but not to all of them. A table
that was only passed on the way to another one may get a header of its own later, once. A table
that came about through a key with points may be added to by such keys, and by nothing else. A
list of tables is added to at its last one.
-/

namespace GatewayRouting
namespace Toml

/-- How a table came about. -/
inductive Origin where
  /-- it has a header of its own -/
  | header
  /-- it was passed on the way to a table with a header -/
  | passed
  /-- it was passed by a key with points -/
  | points
deriving DecidableEq, Repr

/-- An entry of a table that is open. -/
inductive Node where
  /-- a value, which is complete -/
  | value (value : Setting)
  /-- a table -/
  | table (origin : Origin) (entries : List (String × Node))
  /-- a list of tables, the last one first -/
  | tables (items : List (List (String × Node)))
deriving Inhabited

/-- The entries of a table that is open. -/
abbrev Entries := List (String × Node)

namespace Entries

/-- Puts an entry in the place of the one of the same name, or behind all others. -/
def set (name : String) (node : Node) : Entries → Entries
  | [] => [(name, node)]
  | (known, old) :: entries =>
    if known = name then (known, node) :: entries else (known, old) :: set name node entries

/-- Changes the table at a path, which came about as given. Tables on the way that are not there
come about as `origin` says; a key with points may not pass a table with a header. -/
def change (origin : Origin) (act : Origin → Entries → Option Entries) :
    List String → Origin → Entries → Option Entries
  | [], here, entries => act here entries
  | name :: path, _, entries =>
    match entries.lookup name with
    | none => do
      return set name (.table origin (← change origin act path origin [])) entries
    | some (.value _) => none
    | some (.tables []) => none
    | some (.tables (last :: before)) => do
      return set name (.tables ((← change origin act path .header last) :: before)) entries
    | some (.table here inner) => do
      if origin = .points && here = .header then none
      return set name (.table here (← change origin act path here inner)) entries

/-- Adds a header for a table. -/
def openTable (name : String) (entries : Entries) : Option Entries :=
  match entries.lookup name with
  | none => some (set name (.table .header []) entries)
  | some (.table .passed inner) => some (set name (.table .header inner) entries)
  | some _ => none

/-- Adds a header for one more table of a list. -/
def openItem (name : String) (entries : Entries) : Option Entries :=
  match entries.lookup name with
  | none => some (set name (.tables [[]]) entries)
  | some (.tables items) => some (set name (.tables ([] :: items)) entries)
  | some _ => none

/-- Adds a value. A key with points puts it only into a table that came about in that way. -/
def addValue (key : List String) (value : Setting) (entries : Entries) : Option Entries :=
  let add (here : Origin) (inner : Entries) : Option Entries :=
    let name := key.getLastD ""
    if 1 < key.length && here ≠ .points then none
    else if (inner.lookup name).isSome then none
    else some (set name (.value value) inner)
  change .points add key.dropLast .header entries

end Entries

mutual

/-- What a finished entry holds. -/
def Node.setting : Node → Setting
  | .value value => value
  | .table _ entries => .table (settingsOf entries)
  | .tables items => .list (settingsOfItems items).reverse

/-- The entries of a finished table. -/
def settingsOf : List (String × Node) → List (String × Setting)
  | [] => []
  | (name, node) :: entries => (name, node.setting) :: settingsOf entries

/-- The tables of a finished list, in the order in which they are held. -/
def settingsOfItems : List (List (String × Node)) → List Setting
  | [] => []
  | item :: items => .table (settingsOf item) :: settingsOfItems items

end

end Toml
end GatewayRouting
