import GatewayRouting.Route

/-!
# What is cached under which name

A cache holds the whole list of routes under one key, and single routes under the request paths
that they answer. Nothing ties the shape of a value to the shape of its key, so a reader asks for
the shape that it needs.
-/

namespace GatewayRouting

/-- The two shapes of keys. -/
inductive KeyKind where
  /-- the key of the route list -/
  | list
  /-- the key of a single route -/
  | single
deriving DecidableEq, Repr

/-- The label of a shape. -/
def KeyKind.label : KeyKind → String
  | .list => "routes"
  | .single => "route"

/-- The key of a cache entry. -/
inductive Key where
  /-- the list of all routes -/
  | list
  /-- the route that answers a request path -/
  | single (path : String)
deriving DecidableEq, Repr

namespace Key

/-- The shape of a key. -/
def kind : Key → KeyKind
  | .list => .list
  | .single _ => .single

/-- How a key is shown. -/
def text : Key → String
  | .list => "routes"
  | .single path => "route:" ++ path

end Key

/-- A value that a cache holds. -/
inductive Cached where
  /-- a single route -/
  | single (route : Route)
  /-- a list of routes -/
  | list (routes : List Route)
deriving DecidableEq, Repr

namespace Cached

/-- The route, if the value is a single one. -/
def route? : Cached → Option Route
  | .single route => some route
  | .list _ => none

/-- The list, if the value is one. -/
def routes? : Cached → Option (List Route)
  | .single _ => none
  | .list routes => some routes

end Cached

end GatewayRouting
