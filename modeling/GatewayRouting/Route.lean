import GatewayRouting.Text.Blank

/-!
# Routes

A route sends the requests whose path its pattern accepts to a service. It lists the method
tokens it allows, may be switched off (which is shown and never filtered on), and carries two
counters that the recording of calls adds to.

Method tokens form a set that remembers the order in which its members came: `MethodSet.ofList`
keeps the first occurrence of each token. Two routes are the same route if they agree in every
field, where the order of the methods has no say.
-/

namespace GatewayRouting

/-! ## Method sets -/

/-- A set of method tokens that remembers the order of first insertion. -/
@[ext]
structure MethodSet where
  /-- the tokens in order of first insertion -/
  tokens : List String := []
  /-- each token is there once -/
  distinct : tokens.Nodup := by first | exact List.nodup_nil | decide
deriving DecidableEq, Repr, Inhabited

namespace MethodSet

/-- Membership compares tokens exactly, letter case included. -/
def contains (methods : MethodSet) (token : String) : Bool :=
  methods.tokens.contains token

theorem contains_iff {methods : MethodSet} {token : String} :
    methods.contains token = true ↔ token ∈ methods.tokens :=
  List.contains_iff_mem

theorem nodup_append {methods : MethodSet} {token : String}
    (fresh : ¬ methods.contains token = true) : (methods.tokens ++ [token]).Nodup := by
  refine List.nodup_append.mpr ⟨methods.distinct, List.pairwise_singleton _ _, ?_⟩
  intro member among other here same
  rw [List.mem_singleton.mp here] at same
  exact fresh (contains_iff.mpr (same ▸ among))

/-- A token that is already a member keeps its place. -/
def insert (methods : MethodSet) (token : String) : MethodSet :=
  if member : methods.contains token then methods
  else ⟨methods.tokens ++ [token], nodup_append member⟩

/-- The set of the tokens of a list, in order of first occurrence. -/
def ofList (tokens : List String) : MethodSet :=
  tokens.foldl insert {}

/-- A set without members leaves the methods unspecified. -/
def isEmpty (methods : MethodSet) : Bool :=
  methods.tokens.isEmpty

/-- Two sets are the same set if they are of one size and one holds the other. -/
def sameMembers (a b : MethodSet) : Bool :=
  a.tokens.length == b.tokens.length && a.tokens.all b.contains

theorem insert_of_contains {methods : MethodSet} {token : String}
    (h : methods.contains token = true) : methods.insert token = methods := by
  simp [insert, h]

theorem tokens_insert_of_not_contains {methods : MethodSet} {token : String}
    (h : methods.contains token = false) :
    (methods.insert token).tokens = methods.tokens ++ [token] := by
  simp [insert, h]

end MethodSet

/-! ## Routes -/

/-- A registered gateway route. -/
structure Route where
  /-- the pattern, which also names the route in a table -/
  path : String
  /-- where matched requests go; nothing here looks into it -/
  service : String
  /-- the allowed method tokens -/
  methods : MethodSet := {}
  /-- whether the route is switched on -/
  isActive : Bool := true
  /-- how many calls were recorded -/
  callCount : Int64 := 0
  /-- the response times of the recorded calls, added up, in milliseconds -/
  totalResponseTime : Int64 := 0
deriving DecidableEq, Repr, Inhabited

/-- What is structurally wrong with a route. -/
inductive RouteFlaw where
  /-- the path is the empty text -/
  | emptyPath
  /-- the path does not start with a slash -/
  | relativePath
  /-- the service is empty or all blank -/
  | emptyService
deriving DecidableEq, Repr

/-- The reason that is given for refusing a route. -/
def RouteFlaw.reason : RouteFlaw → String
  | .emptyPath => "path cannot be empty"
  | .relativePath => "path must start with '/'"
  | .emptyService => "service URL cannot be empty"

namespace Route

/-- The first flaw of a route, looked for in the order of `RouteFlaw`'s constructors. -/
def flaw? (route : Route) : Option RouteFlaw :=
  match route.path.toList with
  | [] => some .emptyPath
  | c :: _ =>
    if c ≠ '/' then some .relativePath
    else if isAllBlank route.service.toList then some .emptyService
    else none

/-- Whether a method token is one of the route's. An empty set allows nothing. -/
def allows (route : Route) (method : String) : Bool :=
  route.methods.contains method

/-- Whether two routes are the same route: the order of the methods has no say. -/
def same (a b : Route) : Bool :=
  a.path == b.path && a.service == b.service && a.methods.sameMembers b.methods &&
    a.isActive == b.isActive && a.callCount == b.callCount &&
    a.totalResponseTime == b.totalResponseTime

/-- Two routes that differ in their counters at most. -/
def SameUpToCounters (a b : Route) : Prop :=
  { a with callCount := b.callCount, totalResponseTime := b.totalResponseTime } = b

/-- The sum of two counters, held at the ends of the 64-bit range. -/
def addSaturating (a b : Int64) : Int64 :=
  Int64.ofInt (max Int64.minValue.toInt (min Int64.maxValue.toInt (a.toInt + b.toInt)))

/-- A route after more calls have been recorded for it. -/
def recordCalls (route : Route) (calls time : Int64) : Route :=
  { route with
    callCount := addSaturating route.callCount calls
    totalResponseTime := addSaturating route.totalResponseTime time }

@[simp] theorem path_recordCalls (route : Route) (calls time : Int64) :
    (route.recordCalls calls time).path = route.path := rfl

end Route

end GatewayRouting
