import GatewayRouting.Cache.Entries
import GatewayRouting.Failure

/-!
# Cache backends

Whoever resolves routes sees a cache through three calls, each of which may fail: reading a key,
writing a value that is to last for a number of seconds, and erasing a key. A `CacheBackend` says
how the calls act on the backend's own state, in any way at all. `plainCache` is the simplest
honest one: it never fails and never forgets.
-/

namespace GatewayRouting

/-- A cache seen through its calls; `σ` is its state. -/
structure CacheBackend (σ : Type) where
  /-- how the backend is called -/
  name : String
  /-- reads a key; no value is a miss -/
  read : σ → Key → Except CacheError (Option Cached) × σ
  /-- writes a value for some seconds -/
  write : σ → Key → Cached → UInt64 → Except CacheError Unit × σ
  /-- erases a key; a key that is not there is erased already -/
  erase : σ → Key → Except CacheError Unit × σ

/-- A backend that keeps every value until it is erased, whatever time it was given. -/
def plainCache : CacheBackend (Entries Cached) where
  name := "map"
  read entries key := (.ok (entries.find? key), entries)
  write entries key value _ := (.ok (), entries.put key value)
  erase entries key := (.ok (), entries.remove key)

end GatewayRouting
