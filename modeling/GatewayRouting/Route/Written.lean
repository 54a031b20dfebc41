import GatewayRouting.Json.Layout
import GatewayRouting.Route

/-!
# Routes in JSON

A route is written as an object of all its fields in the order of declaration, on one line
(`Route.compactJson`) or laid out for reading (`Route.prettyJson`).
-/

namespace GatewayRouting
namespace Route

open Json (Token)

/-- A text as a token. -/
def textToken (text : String) : Token :=
  .string (.ofChars text.toList)

/-- An integer as a token. -/
def counterToken (value : Int64) : Token :=
  .number (.ofInt value.toInt)

/-- The tokens of a list of texts, with commas between them. -/
def methodTokens : List String → List Token
  | [] => []
  | [method] => [textToken method]
  | method :: methods => textToken method :: .comma :: methodTokens methods

/-- The tokens of a route. -/
def tokens (route : Route) : List Token :=
  [.openObject,
    textToken "path", .colon, textToken route.path, .comma,
    textToken "serviceURL", .colon, textToken route.service, .comma,
    textToken "methods", .colon, .openArray] ++ methodTokens route.methods.tokens ++
  [.closeArray, .comma,
    textToken "isActive", .colon, .bool route.isActive, .comma,
    textToken "callCount", .colon, counterToken route.callCount, .comma,
    textToken "totalResponseTime", .colon, counterToken route.totalResponseTime,
    .closeObject]

/-- A route on one line. -/
def compactJson (route : Route) : String :=
  String.ofList (Json.compact route.tokens)

/-- A route laid out for reading. -/
def prettyJson (route : Route) : String :=
  String.ofList (Json.pretty route.tokens)

end Route
end GatewayRouting
