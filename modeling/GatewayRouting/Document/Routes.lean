import GatewayRouting.Document.Files
import GatewayRouting.Document.Format
import GatewayRouting.Json.Document
import GatewayRouting.Route.Record
import GatewayRouting.Table
import GatewayRouting.Yaml.Document

/-!
# Documents of routes

A routes file holds a list of routes, or a map with such a list under `routes`. The document is
read as a whole first, then looked at in both ways, the map first. Here a record is a map or a
list, where a key may also be the number of a field, and a number of fields or keys that does not
fit makes the whole document unfit. What is wrong with it is not told apart.
-/

namespace GatewayRouting

namespace Datum

/-- What a datum is, seen as a field. -/
def found : Datum → Found
  | .null => .nothing
  | .bool value => .flag value
  | .unsigned value => .integer value
  | .signed value => .integer value
  | .real value => .real value
  | .text value => .text value
  | .list _ => .sequence
  | .map _ => .map

/-- The value of a field that is no sequence. -/
def single? (kind : FieldKind) (datum : Datum) : Option FieldValue :=
  (kind.ofFound datum.found).toOption

/-- A datum as a token. -/
def token? : Datum → Option String
  | .text token => some token
  | _ => none

/-- The value of a field. -/
def fieldValue? (kind : FieldKind) (datum : Datum) : Option FieldValue :=
  match kind, datum with
  | .tokens, .list items => (items.mapM token?).map .tokens
  | kind, datum => datum.single? kind

/-- The field that a key means, which is none if no field has that name or number. Other keys
than texts and numbers do not fit. -/
def fieldOfKey? (shape : RecordShape) : Datum → Option (Option Field)
  | .text name => some (shape.field? name)
  | .unsigned number => some shape.fields[number]?
  | _ => none

/-- The entries of a map as a record, after those that were `given`. -/
def recordOfEntries? (shape : RecordShape) (given : Record) :
    List (Datum × Datum) → Option Record
  | [] => (shape.complete given).toOption
  | (key, value) :: entries =>
    match fieldOfKey? shape key with
    | none => none
    | some none => recordOfEntries? shape given entries
    | some (some field) =>
      if given.has field.name then none
      else
        match value.fieldValue? field.kind with
        | some value => recordOfEntries? shape (given ++ [(field.name, value)]) entries
        | none => none

/-- The items of a list as a record, for the fields that are still due. -/
def recordOfItems? : List Field → List Datum → Option Record
  | [], [] => some []
  | [], _ :: _ => none
  | field :: fields, [] => if field.required then none else recordOfItems? fields []
  | field :: fields, item :: items =>
    match item.fieldValue? field.kind, recordOfItems? fields items with
    | some value, some record => some ((field.name, value) :: record)
    | _, _ => none

/-- The record that a datum is. -/
def record? (shape : RecordShape) : Datum → Option Record
  | .map entries => recordOfEntries? shape [] entries
  | .list items => recordOfItems? shape.fields items
  | _ => none

/-- The route that a datum is. -/
def route? (datum : Datum) : Option Route :=
  (datum.record? Route.shape).map Route.ofRecord

/-- The routes of a list. -/
def listedRoutes? : Datum → Option (List Route)
  | .list items => items.mapM route?
  | _ => none

/-- Whether a key says that its value is the list of routes; keys that are neither texts nor
numbers do not fit. -/
def isRoutesKey? : Datum → Option Bool
  | .text name => some (name = "routes")
  | .unsigned number => some (number = 0)
  | _ => none

/-- The entries of a map, of which one holds the list of routes. -/
def routesOfEntries? : Option (List Route) → List (Datum × Datum) → Option (List Route)
  | routes, [] => routes
  | routes, (key, value) :: entries =>
    match isRoutesKey? key with
    | none => none
    | some false => routesOfEntries? routes entries
    | some true =>
      if routes.isSome then none
      else
        match value.listedRoutes? with
        | some routes => routesOfEntries? (some routes) entries
        | none => none

/-- The routes of a document. -/
def routes? : Datum → Option (List Route)
  | .map entries => routesOfEntries? none entries
  | datum => datum.listedRoutes?

end Datum

namespace Format

/-- The document at the start of a text and whether it is all of it. YAML has nothing to read unless
it is. -/
def read? : Format → List Char → Option (Datum × Bool)
  | .yaml, text => (Yaml.read? text).map fun datum => (datum, true)
  | .json, text => Json.read? text

end Format

namespace Document

/-- The routes of a document. That the document does not hold routes is found out before that it
is not all of the text. -/
def routes (format : Format) (text : String) : Except LoadFault (List Route) :=
  match format.read? text.toList with
  | none => .error .unreadable
  | some (datum, isAll) =>
    match datum.routes? with
    | none => .error .wrongShape
    | some routes => if isAll then .ok routes else .error .unreadable

/-- The routes of a document that came from a source. -/
def parse (format : Format) (text source : String) : Except StoreError (List Route) :=
  match routes format text with
  | .ok routes => .ok routes
  | .error fault => .error (.load source fault)

/-- The routes of a file; `read` gives the bytes at a path. What goes wrong is told with the path as
far as it is text. -/
def load (read : RawPath → Except LoadFault (List UInt8)) (path : RawPath) :
    Except StoreError (List Route) :=
  let source := Utf8.decodeLossy path
  match (read path).bind textOfBytes with
  | .error fault => .error (.load source fault)
  | .ok text =>
    match Format.detect? path text with
    | none => .error (.load source .unknownExtension)
    | some format => parse format text source

/-- The table of the routes of a file. -/
def loadTable (read : RawPath → Except LoadFault (List UInt8)) (path : RawPath) :
    Except StoreError Table :=
  (load read path).bind Table.ofList

end Document
end GatewayRouting
