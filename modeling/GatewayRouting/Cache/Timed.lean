import GatewayRouting.Cache.Backend
import GatewayRouting.Metrics.Observation

/-!
# A cache with a clock

The cache that the service uses by default lives in memory. Each entry lasts for the time that it
was written with; from that moment on it is not read any more, though it is held until the cache
is swept. Time is divided into periods, and what has expired is dropped by the first sweep in a
period; further sweeps in it do nothing. There is room for a number of entries. A cache without
room holds nothing, and a full cache does not take a new key in.

The cache observes its reads and writes, and each entry that leaves it, with the reason.
-/

namespace GatewayRouting

/-- An entry and the moment from which it is not read any more, in nanoseconds. -/
structure TimedEntry where
  /-- the value -/
  value : Cached
  /-- the first moment at which the value is gone -/
  expiry : Nat
deriving DecidableEq, Repr

/-- The state of the cache. -/
structure TimedCache where
  /-- how many entries there is room for -/
  capacity : Nat
  /-- the time, in nanoseconds -/
  now : Nat := 0
  /-- the time of the last sweep -/
  swept : Nat := 0
  /-- the entries that are held -/
  held : Entries TimedEntry := []
  /-- what was observed, the latest first -/
  observed : List Observation := []
deriving DecidableEq, Repr

namespace TimedCache

/-- The capacity unless another one is asked for. -/
def defaultCapacity : UInt64 := 10000

/-- An empty cache. -/
def empty (capacity : UInt64) : TimedCache :=
  { capacity := capacity.toNat }

/-- Notes what happened. -/
def note (cache : TimedCache) (observation : Observation) : TimedCache :=
  { cache with observed := observation :: cache.observed }

/-- Whether an entry is still read. -/
def isLive (cache : TimedCache) (entry : TimedEntry) : Bool :=
  cache.now < entry.expiry

/-- The value of a key. -/
def find? (cache : TimedCache) (key : Key) : Option Cached :=
  match cache.held.find? key with
  | some entry => if cache.isLive entry then some entry.value else none
  | none => none

/-- Reads a key. -/
def read (cache : TimedCache) (key : Key) : Option Cached × TimedCache :=
  let value := cache.find? key
  (value, (cache.note (.cacheRead key.kind value.isSome)).note (.cacheCall .read key.kind))

/-- Says how many entries are held. -/
def noteEntries (cache : TimedCache) : TimedCache :=
  cache.note (.entries cache.held.length)

/-- Takes a value in, if there is room for it. Writing over an entry that is held removes it. -/
def takeIn (cache : TimedCache) (key : Key) (entry : TimedEntry) : TimedCache :=
  if cache.capacity = 0 then cache
  else if (cache.held.find? key).isSome then
    { cache with held := cache.held.put key entry }.note (.removal key.kind .replaced)
  else if cache.held.length < cache.capacity then
    { cache with held := cache.held.put key entry }
  else cache

/-- Writes a value that lasts for some nanoseconds. -/
def write (cache : TimedCache) (key : Key) (value : Cached) (lifetime : Nat) : TimedCache :=
  ((cache.takeIn key ⟨value, cache.now + lifetime⟩).note (.cacheCall .write key.kind)).noteEntries

/-- Drops an entry that is held. -/
def drop (cache : TimedCache) (key : Key) (reason : RemovalReason) : TimedCache :=
  if (cache.held.find? key).isSome then
    { cache with held := cache.held.remove key }.note (.removal key.kind reason)
  else cache

/-- Erases a key. -/
def erase (cache : TimedCache) (key : Key) : TimedCache :=
  (cache.drop key .manual).noteEntries

/-- Erases every key. -/
def eraseAll (cache : TimedCache) : TimedCache :=
  cache.held.foldl (fun cache entry => cache.drop entry.1 .manual) cache

/-- How long a period is, in nanoseconds: a little more than a second. -/
def period : Nat := 1073741824

/-- Drops the entries whose time is over. -/
def dropExpired (cache : TimedCache) : TimedCache :=
  cache.held.foldl
    (fun cache entry => if cache.isLive entry.2 then cache else cache.drop entry.1 .expired) cache

/-- Sweeps the cache. If there was no sweep in this period yet, the entries whose time is over are
dropped; the first period needs no sweep. -/
def sweep (cache : TimedCache) : TimedCache :=
  let swept := { cache with swept := cache.now }
  if cache.swept / period < cache.now / period then swept.dropExpired else swept

/-- Lets nanoseconds pass. -/
def advance (cache : TimedCache) (nanoseconds : Nat) : TimedCache :=
  { cache with now := cache.now + nanoseconds }

/-- How many entries are held. -/
def size (cache : TimedCache) : Nat :=
  cache.held.length

end TimedCache

/-- Nanoseconds in a second. -/
def nanosecondsPerSecond : Nat := 1000000000

/-- The cache with a clock as a backend. Its calls never fail. -/
def timedCache : CacheBackend TimedCache where
  name := "moka"
  read cache key :=
    let (value, cache) := cache.read key
    (.ok value, cache)
  write cache key value seconds :=
    (.ok (), cache.write key value (seconds.toNat * nanosecondsPerSecond))
  erase cache key := (.ok (), cache.erase key)

end GatewayRouting
