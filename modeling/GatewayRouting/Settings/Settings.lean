import GatewayRouting.Resolution.Options
import GatewayRouting.Settings.Environment
import GatewayRouting.Settings.File

/-!
# Settings

Everything that can be set, in sections. Each value comes from the environment if its variable is
set, otherwise from the settings file if it is there, and otherwise it has a default. A section is
a table, or a list of its values in the order in which they are declared here; what is not known
is passed over.
-/

namespace GatewayRouting

/-- The settings. -/
structure Settings where
  /-- how long a cache entry lasts, in seconds -/
  ttlSeconds : UInt64 := 300
  /-- how many entries the cache has room for -/
  cacheCapacity : UInt64 := 10000
  /-- how many answered paths are recorded -/
  memoCapacity : UInt64 := 10000
  /-- whether concurrent loads of the route list are shared -/
  sharedLoads : Bool := false
  /-- whether a route without methods allows every method -/
  emptyMethodsAllowAll : Bool := false
  /-- the file that the table of routes is filled from -/
  routesFile : Option String := none
  /-- whether metrics are published -/
  metricsEnabled : Bool := false
  /-- whether they are printed at the end -/
  metricsOnExit : Bool := false
  /-- the signing secret -/
  secret : Option String := none
deriving DecidableEq, Repr, Inhabited

namespace Settings

/-- What is given in a section, by name or by position. -/
inductive Section where
  /-- values by name -/
  | named (entries : List (String × Setting))
  /-- values in order -/
  | ordered (items : List Setting)

/-- The value of a section that has a name, and a position among those declared. -/
def Section.find? (name : String) (position : Nat) : Section → Option Setting
  | .named entries => entries.lookup name
  | .ordered items => items[position]?

/-- The section of a name; one that is not there is empty. -/
def sectionOf (tree : Setting) (name : String) : Except SettingsFault Section :=
  match tree.entries.lookup name with
  | none => .ok (.named [])
  | some (.table entries) => .ok (.named entries)
  | some (.list items) => .ok (.ordered items)
  | some _ => .error .wrongSection

/-- A value of a section, converted, or what stands for it. -/
def Section.get {α : Type} (given : Section) (name : String) (position : Nat)
    (convert : Setting → Except SettingsFault α) (otherwise : α) : Except SettingsFault α :=
  match given.find? name position with
  | some value => convert value
  | none => .ok otherwise

/-- The settings of a tree. -/
def ofTree (tree : Setting) : Except SettingsFault Settings := do
  let cache ← sectionOf tree "cache"
  let ttlSeconds ← cache.get "ttl_seconds" 0 Setting.toUnsigned 300
  let cacheCapacity ← cache.get "max_capacity" 1 Setting.toUnsigned 10000
  let resolver ← sectionOf tree "resolver"
  let memoCapacity ← resolver.get "memo_capacity" 0 Setting.toUnsigned 10000
  let sharedLoads ← resolver.get "coalesce_list_loads" 1 Setting.toFlag false
  let emptyMethodsAllowAll ← resolver.get "empty_methods_allow_all" 2 Setting.toFlag false
  let store ← sectionOf tree "store"
  let routesFile ← store.get "routes_file" 0 Setting.toOptionalText none
  let metrics ← sectionOf tree "metrics"
  let metricsEnabled ← metrics.get "enabled" 0 Setting.toFlag false
  let metricsOnExit ← metrics.get "render_on_exit" 1 Setting.toFlag false
  let auth ← sectionOf tree "auth"
  let secret ← auth.get "jwt_secret" 0 Setting.toOptionalText none
  return {
    ttlSeconds, cacheCapacity, memoCapacity, sharedLoads, emptyMethodsAllowAll, routesFile
    metricsEnabled, metricsOnExit, secret }

/-- The name of the settings file unless another one is asked for. -/
def defaultName : String := "config/waypoint"

/-- The settings of a file and an environment; `read` gives the bytes at a path. -/
def load (read : RawPath → Except LoadFault (List UInt8)) (environment : List (String × String))
    (name : String := defaultName) : Except SettingsFault Settings :=
  match Setting.ofFile read name with
  | .ok tree => ofTree (tree.withEnvironment environment)
  | .error fault => .error fault

/-- The options of the resolver among the settings. -/
def options (settings : Settings) : Options where
  ttlSeconds := settings.ttlSeconds
  memoCapacity := settings.memoCapacity
  sharedLoads := settings.sharedLoads
  emptyMethodsAllowAll := settings.emptyMethodsAllowAll

end Settings
end GatewayRouting
