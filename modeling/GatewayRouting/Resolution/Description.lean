import GatewayRouting.Cache.Timed
import GatewayRouting.Resolution.Options

/-!
# Descriptions for logs

One line each that says how a service is set up and how full a cache is.
-/

namespace GatewayRouting

/-- A named list of named values. -/
def described (name : String) (fields : List (String × String)) : String :=
  let shown := fields.map fun field => field.1 ++ ": " ++ field.2
  name ++ " \x7b " ++ String.intercalate ", " shown ++ " \x7d"

/-- A number in a description. -/
def describedNumber (n : Nat) : String :=
  String.ofList (decimalDigits n)

/-- A truth value in a description. -/
def describedFlag (flag : Bool) : String :=
  if flag then "true" else "false"

/-- The description of options. -/
def Options.description (options : Options) : String :=
  described "ResolverOptions"
    [("ttl_seconds", describedNumber options.ttlSeconds.toNat),
     ("memo_capacity", describedNumber options.memoCapacity.toNat),
     ("coalesce_list_loads", describedFlag options.sharedLoads),
     ("empty_methods_allow_all", describedFlag options.emptyMethodsAllowAll)]

/-- The name of a table of routes. -/
def Table.title : String := "memory"

/-- The name of the matcher by patterns. -/
def Pattern.title : String := "PatternMatcher"

/-- The description of a service with a cache and a matcher of the given names. -/
def Service.description (cache matcher : String) (options : Options) : String :=
  described "RouteService"
    [("repository", quoted Table.title), ("cache", quoted cache), ("matcher", matcher),
     ("options", options.description)]

/-- The description of a cache with a clock. -/
def TimedCache.description (cache : TimedCache) : String :=
  described "MokaRouteCache" [("entry_count", describedNumber cache.size)]

end GatewayRouting
