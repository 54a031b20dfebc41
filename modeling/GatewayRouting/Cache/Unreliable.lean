import GatewayRouting.Cache.Backend
import GatewayRouting.Metrics.Observation

/-!
# A cache that fails on demand

Any backend can be put behind a switch for each of the three calls. A call that is switched off
fails before it reaches the backend, so it changes nothing there.
-/

namespace GatewayRouting

/-- On which keys a call fails. -/
inductive Trouble where
  /-- on none -/
  | none
  /-- on the key of the route list -/
  | list
  /-- on the keys of single routes -/
  | single
  /-- on every key -/
  | all
deriving DecidableEq, Repr, Inhabited

/-- Whether a call fails on a key. -/
def Trouble.strikes : Trouble → Key → Bool
  | .none, _ => false
  | .list, key => key.kind == .list
  | .single, key => key.kind == .single
  | .all, _ => true

/-- A backend's state behind the switches. -/
structure Unreliable (σ : Type) where
  /-- the state of the backend -/
  inner : σ
  /-- when reads fail -/
  reading : Trouble := .none
  /-- when writes fail -/
  writing : Trouble := .none
  /-- when erasures fail -/
  erasing : Trouble := .none

namespace Unreliable

/-- The failure of a call that is switched off. -/
def failure : CacheError :=
  .unavailable "injected"

/-- A backend behind the switches. -/
def backend {σ : Type} (inner : CacheBackend σ) : CacheBackend (Unreliable σ) where
  name := inner.name
  read cache key :=
    if cache.reading.strikes key then (.error failure, cache)
    else
      let (result, state) := inner.read cache.inner key
      (result, { cache with inner := state })
  write cache key value seconds :=
    if cache.writing.strikes key then (.error failure, cache)
    else
      let (result, state) := inner.write cache.inner key value seconds
      (result, { cache with inner := state })
  erase cache key :=
    if cache.erasing.strikes key then (.error failure, cache)
    else
      let (result, state) := inner.erase cache.inner key
      (result, { cache with inner := state })

end Unreliable
end GatewayRouting
