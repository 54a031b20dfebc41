import GatewayRouting.Datum
import GatewayRouting.Double.Decimal
import GatewayRouting.Text.Digits

/-!
# Settings as a tree

Settings are gathered from several sources into one tree of tables, lists and single values. A
value is put at a place, which is a name with further names or list positions behind it, and
tables that are put over each other are joined. What is in the way at a place gives way, so a
later source wins value by value.

A single value is converted when it is read. Conversions are generous: words and numbers stand for
truth values, and truth values, numbers and digits stand for each other.
-/

namespace GatewayRouting

/-- A value or a tree of values. -/
inductive Setting where
  /-- nothing, as a value -/
  | nothing
  /-- a truth value -/
  | flag (value : Bool)
  /-- a whole number in the signed or the unsigned 64-bit range -/
  | integer (value : Int)
  /-- any other number -/
  | real (value : Double)
  /-- a text -/
  | text (value : String)
  /-- a list -/
  | list (items : List Setting)
  /-- a table; no name comes twice -/
  | table (entries : List (String × Setting))
deriving Inhabited, BEq

/-- Why settings could not be read. -/
inductive SettingsFault where
  /-- a file is not of its format, or is no table -/
  | unreadable
  /-- a value cannot be converted -/
  | wrongType
  /-- what should be a section is neither a table nor a list -/
  | wrongSection
deriving DecidableEq, Repr

namespace Setting

/-! ## Tables -/

/-- The entries of a table; anything else has none. -/
def entries : Setting → List (String × Setting)
  | .table entries => entries
  | _ => []

/-- The items of a list; anything else has none. -/
def items : Setting → List Setting
  | .list items => items
  | _ => []

/-- Changes the entry of a name in its place; a new one, which is nothing before, comes last. -/
def changeEntry (name : String) (change : Setting → Setting) :
    List (String × Setting) → List (String × Setting)
  | [] => [(name, change .nothing)]
  | (known, value) :: entries =>
    if known = name then (known, change value) :: entries
    else (known, value) :: changeEntry name change entries

/-- A table of entries of which the later ones win over earlier ones of the same name. -/
def ofEntries (entries : List (String × Setting)) : Setting :=
  .table (entries.foldl (fun table entry => changeEntry entry.1 (fun _ => entry.2) table) [])

mutual

/-- Puts a value over another one: a table is joined to a table, and everything else replaces what
was there. -/
def laidOver : Setting → Setting → Setting
  | .table entries, below => .table (entriesLaidOver entries below.entries)
  | value, _ => value

/-- Puts entries over those of a table. -/
def entriesLaidOver : List (String × Setting) → List (String × Setting) → List (String × Setting)
  | [], below => below
  | (name, value) :: entries, below =>
    entriesLaidOver entries (changeEntry name (fun old => value.laidOver old) below)

end

/-! ## Places -/

/-- A step to a place inside a value. -/
inductive Step where
  /-- to the entry of a name -/
  | name (name : String)
  /-- to the item at a position, counted from the end if it is negative -/
  | position (position : Int)
deriving DecidableEq, Repr

/-- Changes the item at a position. A list that is too short is filled up with nothing, at its end
or, for a position counted from the end, at its start. -/
def changeItem (position : Int) (change : Setting → Setting) (items : List Setting) :
    List Setting :=
  if position < 0 then
    let items := List.replicate (position.natAbs - items.length) .nothing ++ items
    items.modify (items.length - position.natAbs) change
  else
    let items := items ++ List.replicate (position.toNat + 1 - items.length) .nothing
    items.modify position.toNat change

/-- Puts a value at a place inside another one. What is in the way gives way. -/
def put (value : Setting) : List Step → Setting → Setting
  | [], below => value.laidOver below
  | .name name :: steps, below => .table (changeEntry name (put value steps) below.entries)
  | .position position :: steps, below =>
    .list (changeItem position (put value steps) below.items)

/-- The characters of names in a place. -/
def isNameChar (c : Char) : Bool :=
  c.isAlphanum || c = '_' || c = '-'

/-- A position in brackets, with spaces around it. -/
def positionOfText? (text : List Char) : Option (Int × List Char) :=
  let blank (c : Char) : Bool := c = ' ' || c = '\t'
  let text := text.dropWhile blank
  let (negative, text) := match text with
    | '-' :: rest => (true, rest)
    | rest => (false, rest)
  let digits := text.takeWhile isDecimalDigit
  let value : Int := decimalValue digits
  let value := if negative then -value else value
  match (text.dropWhile isDecimalDigit).dropWhile blank with
  | ']' :: rest =>
    if digits.isEmpty || !inSignedRange 64 value then none else some (value, rest)
  | _ => none

/-- The steps of a place behind its first name: a point and a name, or a position in brackets. -/
def stepsOfText? : Nat → List Char → Option (List Step)
  | _, [] => some []
  | 0, _ => none
  | fuel + 1, '.' :: rest =>
    match rest.takeWhile isNameChar with
    | [] => none
    | name =>
      (stepsOfText? fuel (rest.dropWhile isNameChar)).map (.name (String.ofList name) :: ·)
  | fuel + 1, '[' :: rest => do
    let (position, rest) ← positionOfText? rest
    return .position position :: (← stepsOfText? fuel rest)
  | _, _ => none

/-- The place that a text names. A text that is no such name is a name as a whole. -/
def placeOfText (text : String) : List Step :=
  let steps? := match text.toList.takeWhile isNameChar with
    | [] => none
    | name =>
      (stepsOfText? text.length (text.toList.dropWhile isNameChar)).map
        (Step.name (String.ofList name) :: ·)
  steps?.getD [.name text]

/-! ## Conversions -/

/-- A text in lower case, as far as words for values need it. -/
def lower (text : String) : String :=
  String.ofList (asciiLower text.toList)

/-- A truth value. -/
def toFlag : Setting → Except SettingsFault Bool
  | .flag value => .ok value
  | .integer value => .ok (value ≠ 0)
  | .real value => .ok (!value.isZero)
  | .text value =>
    let word := lower value
    if ["1", "true", "on", "yes"].contains word then .ok true
    else if ["0", "false", "off", "no"].contains word then .ok false
    else .error .wrongType
  | _ => .error .wrongType

/-- An unsigned 64-bit integer. -/
def toUnsigned : Setting → Except SettingsFault UInt64
  | .flag value => .ok (if value then 1 else 0)
  | .integer value => if 0 ≤ value then .ok (UInt64.ofNat value.toNat) else .error .wrongType
  | .real value => .ok (UInt64.ofNat value.toUnsigned)
  | .text value =>
    let word := lower value
    if ["true", "on", "yes"].contains word then .ok 1
    else if ["false", "off", "no"].contains word then .ok 0
    else
      match uint64OfText? value.toList with
      | some n => .ok (UInt64.ofNat n)
      | none => .error .wrongType
  | _ => .error .wrongType

/-- A text. -/
def toText : Setting → Except SettingsFault String
  | .text value => .ok value
  | .flag value => .ok (if value then "true" else "false")
  | .integer value => .ok (String.ofList (decimalText value))
  | .real value => .ok (String.ofList value.text)
  | _ => .error .wrongType

/-- A text that may be missing. -/
def toOptionalText : Setting → Except SettingsFault (Option String)
  | .nothing => .ok none
  | value => value.toText.map some

end Setting
end GatewayRouting
