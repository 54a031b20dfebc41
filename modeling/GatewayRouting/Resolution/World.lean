import GatewayRouting.Cache.Backend
import GatewayRouting.Resolution.Memo
import GatewayRouting.Resolution.SharedLoad
import GatewayRouting.Table

/-!
# The surroundings of the service

The table, the cache, the memo, the shared loads and the list of observations, and how they answer
requests. The table can be out of reach; then every request to it is refused and changes nothing.
-/

namespace GatewayRouting

/-- Everything that requests act on; `σ` is the state of the cache. -/
structure World (σ : Type) where
  /-- the registered routes -/
  table : Table
  /-- why the table is out of reach, if it is -/
  outage : Option String := none
  /-- the cache -/
  cache : σ
  /-- the answered paths -/
  memo : Memo
  /-- the shared loads -/
  loads : SharedLoads := {}
  /-- what was observed, the latest first -/
  observed : List Observation := []

namespace World

variable {σ : Type}

/-- A reply of the table, if it can be reached. -/
def ofTable {α : Type} (world : World σ) (reply : Table → Except StoreError (α × Table)) :
    Except StoreError α × World σ :=
  match world.outage with
  | some reason => (.error (.unavailable reason), world)
  | none =>
    match reply world.table with
    | .ok (value, table) => (.ok value, { world with table })
    | .error error => (.error error, world)

/-- A change of the table, if it can be reached and agrees. -/
def change (world : World σ) (step : Table → Except StoreError Table) :
    Except StoreError Unit × World σ :=
  world.ofTable fun table => (step table).map fun table => ((), table)

/-- Whether a request has to wait. -/
def blocks (world : World σ) : Request → Bool
  | .awaitLoad number => world.loads.isRunning number
  | _ => false

/-- How requests are answered, by a cache backend and a matcher of patterns. -/
def handler (backend : CacheBackend σ) (accepts : String → String → Bool) : Handler (World σ)
  | .readCache key, world =>
    let (reply, cache) := backend.read world.cache key
    (reply, { world with cache })
  | .writeCache key value seconds, world =>
    let (reply, cache) := backend.write world.cache key value seconds
    (reply, { world with cache })
  | .eraseCache key, world =>
    let (reply, cache) := backend.erase world.cache key
    (reply, { world with cache })
  | .remember path pattern, world => ((), { world with memo := world.memo.remember path pattern })
  | .recorded, world => (world.memo.recorded, world)
  | .forget path, world => ((), { world with memo := world.memo.forget path })
  | .listRoutes, world => world.ofTable fun table => .ok (table.routes, table)
  | .addRoute route, world => world.change (·.add route)
  | .updateRoute route, world => world.change (·.update route)
  | .deleteRoute path, world => world.change (·.delete path)
  | .recordCalls path calls time, world => world.change (·.recordCalls path calls time)
  | .test pattern path, world => (accepts pattern path, world)
  | .note observation, world => ((), { world with observed := observation :: world.observed })
  | .joinLoad, world =>
    let (number, loads) := world.loads.join
    (number, { world with loads })
  | .awaitLoad number, world =>
    let (turn, loads) := world.loads.takeTurn number
    (turn, { world with loads })
  | .settleLoad number result, world =>
    ((), { world with loads := world.loads.settle number result })
  | .releaseLoad number, world => ((), { world with loads := world.loads.release number })

/-- The surroundings at the start: the given table and cache, and nothing recorded. -/
def start (table : Table) (cache : σ) (memo : Memo) : World σ :=
  { table, cache, memo }

end World
end GatewayRouting
