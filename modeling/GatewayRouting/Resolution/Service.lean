import GatewayRouting.Resolution.Options
import GatewayRouting.Resolution.SharedLoad

/-!
# The route service

Answers which route a request path belongs to, and keeps the answers in a cache. A path is looked
up under its own key first, then the list of routes is read from the cache or loaded from the
table, and its patterns are tried in order; the first one that accepts the path decides. The
answer is cached under the path, and the path is recorded in the memo.

A change of the table erases what could have become wrong: the list, the entry under the changed
route's own path, and the entry of every path recorded in the memo. A cache is never trusted to
work. Its failures, and values of a shape that does not belong to the key, count as a miss and are
observed; only the table's failures are answers.
-/

namespace GatewayRouting
namespace Service

/-! ## The cache -/

/-- Observes something. -/
def note (observation : Observation) : Program Unit :=
  .request (.note observation)

/-- The cached value of a key; a failure is a miss. -/
def cached (key : Key) : Program (Option Cached) := do
  match ← .request (.readCache key) with
  | .ok value => return value
  | .error _ =>
    note (.cacheFailure .read)
    return none

/-- A cached value of the shape that is asked for; one of the other shape is a miss. -/
def cachedAs {α : Type} (shape? : Cached → Option α) (key : Key) : Program (Option α) := do
  match ← cached key with
  | none => return none
  | some value =>
    match shape? value with
    | some wanted => return some wanted
    | none =>
      note (.cacheFailure .read)
      return none

/-- The cached list of routes. -/
def cachedRoutes : Program (Option (List Route)) :=
  cachedAs Cached.routes? .list

/-- The cached route of a request path. -/
def cachedRoute (path : String) : Program (Option Route) :=
  cachedAs Cached.route? (.single path)

/-- Caches a value; a failure changes nothing. -/
def store (options : Options) (key : Key) (value : Cached) : Program Unit := do
  match ← .request (.writeCache key value options.ttlSeconds) with
  | .ok () => return ()
  | .error _ => note (.cacheFailure .write)

/-- Erases a key; a failure changes nothing. -/
def invalidate (key : Key) : Program Unit := do
  match ← .request (.eraseCache key) with
  | .ok () => return ()
  | .error _ => note (.cacheFailure .erase)

/-- Invalidates the keys of request paths, one after the other. -/
def invalidateAll : List String → Program Unit
  | [] => return ()
  | path :: paths => do
    invalidate (.single path)
    invalidateAll paths

/-! ## The list of routes -/

/-- Loads the list from the table and caches it. -/
def fetchRoutes (options : Options) : Program (Except StoreError (List Route)) := do
  note .load
  match ← .request .listRoutes with
  | .ok routes =>
    store options .list (.list routes)
    return .ok routes
  | .error error => return .error error

/-- Loads the list, together with others if the options say so. -/
def loadRoutes (options : Options) : Program (Except StoreError (List Route)) :=
  if options.sharedLoads then sharing (fetchRoutes options) else fetchRoutes options

/-- Every registered route, from the cache if it has them. -/
def routes (options : Options) : Program (Except StoreError (List Route)) := do
  match ← cachedRoutes with
  | some routes => return .ok routes
  | none => loadRoutes options

/-! ## Lookups -/

/-- The first route whose pattern accepts a path. -/
def firstAccepting (path : String) : List Route → Program (Option Route)
  | [] => return none
  | route :: routes => do
    if ← .request (.test route.path path) then return some route
    else firstAccepting path routes

/-- Finds the route of a path among others by its pattern, and caches what is found. -/
def scan (options : Options) (path : String) (routes : List Route) :
    Program (Except LookupError (Route × Outcome)) := do
  match ← firstAccepting path routes with
  | none => return .error (.noMatch path)
  | some route =>
    store options (.single path) (.single route)
    .request (.remember path route.path)
    return .ok (route, .patternMatch)

/-- The route of a path, and how it was found. -/
def lookUp (options : Options) (path : String) :
    Program (Except LookupError (Route × Outcome)) := do
  match ← cachedRoute path with
  | some route => return .ok (route, .cacheHit)
  | none =>
    match ← routes options with
    | .ok routes => scan options path routes
    | .error error => return .error (.store error)

/-- How a lookup ended. -/
def outcomeOf : Except LookupError (Route × Outcome) → Outcome
  | .ok (_, outcome) => outcome
  | .error (.noMatch _) => .notFound
  | .error (.store _) => .failed

/-- The route that a request path belongs to. -/
def resolve (options : Options) (path : String) : Program (Except LookupError Route) := do
  let result ← lookUp options path
  note (.lookup (outcomeOf result))
  return result.map (·.1)

/-- Whether a route lets a method through: it lists the method, or it lists none and that counts
as all of them. -/
def letsThrough (options : Options) (route : Route) (method : String) : Bool :=
  (route.methods.isEmpty && options.emptyMethodsAllowAll) || route.allows method

/-- Whether a method is allowed for a request path. -/
def permits (options : Options) (path method : String) : Program (Except LookupError Bool) := do
  return (← resolve options path).map (letsThrough options · method)

/-! ## Changes -/

/-- Takes the recorded paths out of the memo. -/
def forgetAll : List (String × String) → Program Unit
  | [] => return ()
  | (path, _) :: records => do
    .request (.forget path)
    forgetAll records

/-- Erases the entry of every path that the memo has recorded. -/
def sweep : Program Unit := do
  let records ← .request .recorded
  forgetAll records
  invalidateAll (records.map (·.1))

/-- Registers a route. -/
def add (route : Route) : Program (Except StoreError Unit) := do
  match ← .request (.addRoute route) with
  | .error error => return .error error
  | .ok () =>
    invalidate .list
    sweep
    return .ok ()

/-- Replaces a route. -/
def update (route : Route) : Program (Except StoreError Unit) := do
  match ← .request (.updateRoute route) with
  | .error error => return .error error
  | .ok () =>
    invalidate (.single route.path)
    invalidate .list
    sweep
    return .ok ()

/-- Removes a route. -/
def delete (path : String) : Program (Except StoreError Unit) := do
  match ← .request (.deleteRoute path) with
  | .error error => return .error error
  | .ok () =>
    invalidate (.single path)
    invalidate .list
    sweep
    return .ok ()

/-- Records calls for a route. Nothing is erased: a cached route keeps the counters that it was
cached with. -/
def recordCalls (path : String) (calls time : Int64) : Program (Except StoreError Unit) :=
  .request (.recordCalls path calls time)

/-- Erases the list, the entry of every registered path, and every entry recorded in the memo. -/
def clear : Program (Except StoreError Unit) := do
  invalidate .list
  match ← .request .listRoutes with
  | .error error => return .error error
  | .ok routes =>
    invalidateAll (routes.map (·.path))
    sweep
    return .ok ()

end Service
end GatewayRouting
