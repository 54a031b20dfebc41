import GatewayRouting.Json.Document
import GatewayRouting.Settings.Setting

/-!
# Settings in JSON

The values of a JSON document as settings. Of members with the same name the last one counts.
-/

namespace GatewayRouting
namespace Setting

mutual

/-- A datum as a setting. -/
def ofDatum : Datum → Setting
  | .null => .nothing
  | .bool value => .flag value
  | .unsigned value => .integer value
  | .signed value => .integer value
  | .real value => .real value
  | .text value => .text value
  | .list items => .list (ofItems items)
  | .map entries => ofEntries (ofMapEntries entries)

/-- The items of a list as settings. -/
def ofItems : List Datum → List Setting
  | [] => []
  | item :: items => ofDatum item :: ofItems items

/-- The entries of a map as settings; only texts are names. -/
def ofMapEntries : List (Datum × Datum) → List (String × Setting)
  | [] => []
  | (.text name, value) :: entries => (name, ofDatum value) :: ofMapEntries entries
  | _ :: entries => ofMapEntries entries

end

/-- Reads settings from JSON. -/
def ofJson? (text : List Char) : Option Setting :=
  match Json.read? text with
  | some (datum, true) => some (ofDatum datum)
  | _ => none

end Setting
end GatewayRouting
