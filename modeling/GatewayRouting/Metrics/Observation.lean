import GatewayRouting.Cache.Key

/-!
# What is observed

Everything that is counted is observed as it happens: reads of the cache and how they went,
entries that leave it, lookups and how they ended, loads of the route list, and absorbed cache
failures. Totals are read off the list of observations (`Observation.count`). That totals of
different things agree, such as those of lookups and of how they ended, is up to who observes. How
long something took is not kept, only that it was timed.
-/

namespace GatewayRouting

/-- A call to a cache. -/
inductive CacheCall where
  /-- reading -/
  | read
  /-- writing -/
  | write
  /-- erasing -/
  | erase
deriving DecidableEq, Repr

/-- The label of a call. -/
def CacheCall.label : CacheCall → String
  | .read => "get"
  | .write => "set"
  | .erase => "delete"

/-- Why an entry left a cache. -/
inductive RemovalReason where
  /-- its time was over -/
  | expired
  /-- there was no room -/
  | capacity
  /-- another value was written over it -/
  | replaced
  /-- it was erased -/
  | manual
deriving DecidableEq, Repr

/-- The label of a reason. -/
def RemovalReason.label : RemovalReason → String
  | .expired => "ttl"
  | .capacity => "capacity"
  | .replaced => "replaced"
  | .manual => "manual"

/-- How a lookup ended. -/
inductive Outcome where
  /-- with the cached answer for the path -/
  | cacheHit
  /-- with the first pattern that accepts the path -/
  | patternMatch
  /-- with no pattern that accepts it -/
  | notFound
  /-- with a failure of the table -/
  | failed
deriving DecidableEq, Repr

/-- The label of an outcome. -/
def Outcome.label : Outcome → String
  | .cacheHit => "cache_hit"
  | .patternMatch => "pattern_match"
  | .notFound => "not_found"
  | .failed => "error"

/-- One thing that happened. -/
inductive Observation where
  /-- a cache was read and had the key or not -/
  | cacheRead (kind : KeyKind) (hit : Bool)
  /-- an entry left a cache -/
  | removal (kind : KeyKind) (reason : RemovalReason)
  /-- a call to a cache was timed -/
  | cacheCall (call : CacheCall) (kind : KeyKind)
  /-- a cache said how many entries it holds -/
  | entries (count : Nat)
  /-- a lookup ended -/
  | lookup (outcome : Outcome)
  /-- a load of the route list was started -/
  | load
  /-- a failure of a cache was absorbed -/
  | cacheFailure (call : CacheCall)
deriving DecidableEq, Repr

/-- How often something was observed. -/
def Observation.count (observation : Observation) (observed : List Observation) : Nat :=
  observed.count observation

/-- The reads of a cache, by the shape of the key and how they went. -/
structure CacheTotals where
  /-- reads of the list key that had a value -/
  listHits : Nat
  /-- reads of the list key that had none -/
  listMisses : Nat
  /-- reads of single-route keys that had a value -/
  routeHits : Nat
  /-- reads of single-route keys that had none -/
  routeMisses : Nat
deriving DecidableEq, Repr

/-- The totals of reads among what was observed. -/
def CacheTotals.of (observed : List Observation) : CacheTotals where
  listHits := (Observation.cacheRead .list true).count observed
  listMisses := (Observation.cacheRead .list false).count observed
  routeHits := (Observation.cacheRead .single true).count observed
  routeMisses := (Observation.cacheRead .single false).count observed

/-- How many loads of the route list were started. -/
def loadCount (observed : List Observation) : Nat :=
  Observation.load.count observed

/-- How many failures of a cache were absorbed. -/
def cacheFailureCount (observed : List Observation) : Nat :=
  (Observation.cacheFailure .read).count observed +
    (Observation.cacheFailure .write).count observed +
    (Observation.cacheFailure .erase).count observed

end GatewayRouting
