import GatewayRouting.Json.Record

/-!
# Options of the resolver

How long cached answers last, how many answered paths are recorded, whether concurrent loads of
the route list are shared, and what an empty method set means. Options are read from JSON as a
record in which every field may be left out.

A lifetime that is made of a span of time is the one sum of machine words here that can leave their
range. What happens then is settled when the program is built: it stops, or the sum starts again at
zero.
-/

namespace GatewayRouting

/-- The options. -/
structure Options where
  /-- how long a cache entry lasts, in seconds -/
  ttlSeconds : UInt64 := 300
  /-- how many answered paths are recorded -/
  memoCapacity : UInt64 := 10000
  /-- whether concurrent loads of the route list are shared -/
  sharedLoads : Bool := false
  /-- whether a route without methods allows every method -/
  emptyMethodsAllowAll : Bool := false
deriving DecidableEq, Repr, Inhabited

/-- What a build of the program does where a sum of machine words leaves their range. -/
inductive Overflow where
  /-- the program stops -/
  | stops
  /-- the sum starts again at zero -/
  | wraps
deriving DecidableEq, Repr

/-- The sum of two machine words, unless the program stops at it. -/
def Overflow.add? (overflow : Overflow) (a b : UInt64) : Option UInt64 :=
  if a.toNat + b.toNat < UInt64.size then some (a + b)
  else match overflow with
    | .stops => none
    | .wraps => some (a + b)

/-- A span of time: whole seconds, and nanoseconds that do not make up a second. -/
structure Span where
  /-- the seconds -/
  seconds : UInt64
  /-- the nanoseconds -/
  nanoseconds : UInt32
  /-- they do not make up a second -/
  proper : nanoseconds < 1000000000 := by decide
deriving DecidableEq, Repr

/-- The span of some seconds and nanoseconds. Nanoseconds that make up seconds count as those, and
in every build the program stops if there are no words for so many seconds. -/
def Span.ofParts? (seconds : UInt64) (nanoseconds : UInt32) : Option Span :=
  (Overflow.stops.add? seconds (nanoseconds / 1000000000).toUInt64).map fun seconds =>
    ⟨seconds, nanoseconds % 1000000000, UInt32.mod_lt _ (by decide)⟩

namespace Options

/-- The record of the options. -/
def shape : RecordShape where
  title := "struct ResolverOptions"
  fields :=
    [{ name := "ttl_seconds", kind := .unsigned },
     { name := "memo_capacity", kind := .unsigned },
     { name := "coalesce_list_loads", kind := .flag },
     { name := "empty_methods_allow_all", kind := .flag }]

/-- The options that a record stands for. -/
def ofRecord (record : Record) : Options where
  ttlSeconds := record.unsigned "ttl_seconds" 300
  memoCapacity := record.unsigned "memo_capacity" 10000
  sharedLoads := record.flag "coalesce_list_loads" false
  emptyMethodsAllowAll := record.flag "empty_methods_allow_all" false

/-- Reads options from JSON. -/
def ofJson (text : String) : Except RecordFault Options :=
  (Json.recordOfText shape text).map ofRecord

/-- Options with the lifetime of a span, unless the program stops. The lifetime is kept in whole
seconds, and a part of a second counts as one more. -/
def withTtl (options : Options) (overflow : Overflow) (span : Span) : Option Options :=
  (overflow.add? span.seconds (if 0 < span.nanoseconds then 1 else 0)).map fun seconds =>
    { options with ttlSeconds := seconds }

/-- The lifetime of a cache entry as a span. -/
def ttl (options : Options) : Span :=
  { seconds := options.ttlSeconds, nanoseconds := 0 }

end Options

/-- The milliseconds of a span, without a remainder. -/
def Span.milliseconds (span : Span) : Nat :=
  span.seconds.toNat * 1000 + span.nanoseconds.toNat / 1000000

/-- The record of a cache's settings: how many entries there is room for. -/
def capacityShape : RecordShape where
  title := "struct CacheConfig"
  fields := [{ name := "max_capacity", kind := .unsigned }]

/-- Reads the capacity of a cache from JSON. -/
def capacityOfJson (text : String) : Except RecordFault UInt64 :=
  (Json.recordOfText capacityShape text).map (·.unsigned "max_capacity" 10000)

end GatewayRouting
