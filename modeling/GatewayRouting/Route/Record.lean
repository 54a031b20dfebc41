import GatewayRouting.Json.Record
import GatewayRouting.Route

/-!
# Routes as records

The fields of a route as they are written down, and the route that a record stands for. A route
has to have a path and a service; it allows no method, is switched on and has empty counters
unless something else is said.
-/

namespace GatewayRouting
namespace Route

/-- The record of a route. -/
def shape : RecordShape where
  title := "struct Route"
  fields :=
    [{ name := "path", kind := .text, required := true },
     { name := "serviceURL", kind := .text, required := true },
     { name := "methods", kind := .tokens },
     { name := "isActive", kind := .flag },
     { name := "callCount", kind := .signed },
     { name := "totalResponseTime", kind := .signed }]

/-- The route that a complete record stands for. -/
def ofRecord (record : Record) : Route where
  path := record.text "path" ""
  service := record.text "serviceURL" ""
  methods := .ofList (record.tokens "methods")
  isActive := record.flag "isActive" true
  callCount := record.signed "callCount" 0
  totalResponseTime := record.signed "totalResponseTime" 0

/-- Reads a route from JSON. -/
def ofJson (text : String) : Except RecordFault Route :=
  (Json.recordOfText shape text).map ofRecord

end Route
end GatewayRouting
