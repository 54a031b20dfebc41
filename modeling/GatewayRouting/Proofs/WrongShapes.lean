import GatewayRouting.Proofs.AbsorbedFailures

/-!
# Wrong shapes are as good as absent

A cache can hold a single route under the list's key, or a list under a path's. A reading of such a
value is a miss, so nothing comes of it but a note in the metrics. But the value stays where it is
until it is written over or erased, and both can fail; meanwhile a cache that never had the value is
asked the same. So the two have to be followed side by side: all that a service can make out about a
cache is which values of the right shape it brings (`CacheBackend.usable?`), and as long as two
caches bring the same (`CacheBackend.Resembles`), two services over them answer the same and go out
for the same (`Deployment.resembles_course`).
-/

namespace GatewayRouting

variable {σ τ : Type}

/-! ## Caches that resemble each other -/

/-- The value of a key, if reading it brings one of the right shape. -/
def CacheBackend.usable? (backend : CacheBackend σ) (cache : σ) (key : Key) : Option Cached :=
  match (backend.read cache key).1 with
  | .ok found => found.filter fun value => value.kind = key.kind
  | .error _ => none

/-- A value of the right shape is what its reader is looking for. -/
theorem CacheBackend.value?_route (backend : CacheBackend σ) (cache : σ) (path : String) :
    backend.value? cache Cached.route? (.single path) =
      (backend.usable? cache (.single path)).bind Cached.route? := by
  rw [value?, usable?]
  rcases (backend.read cache (.single path)).1 with error | missing | (route | routes) <;> rfl

theorem CacheBackend.value?_routes (backend : CacheBackend σ) (cache : σ) :
    backend.value? cache Cached.routes? .list =
      (backend.usable? cache .list).bind Cached.routes? := by
  rw [value?, usable?]
  rcases (backend.read cache .list).1 with error | missing | (route | routes) <;> rfl

/-- Two caches cannot be told apart, as long as they are alike: they bring the same values of the
right shape, and whatever they are asked they stay alike. -/
structure CacheBackend.Resembles (one : CacheBackend σ) (other : CacheBackend τ)
    (alike : σ → τ → Prop) : Prop where
  /-- what reading brings -/
  usable {cache : σ} {cache' : τ} (same : alike cache cache') (key : Key) :
    one.usable? cache key = other.usable? cache' key
  /-- reading -/
  read {cache : σ} {cache' : τ} (same : alike cache cache') (key : Key) :
    alike (one.read cache key).2 (other.read cache' key).2
  /-- writing -/
  write {cache : σ} {cache' : τ} (same : alike cache cache') (key : Key) (value : Cached)
    (seconds : UInt64) : alike (one.write cache key value seconds).2
      (other.write cache' key value seconds).2
  /-- erasing -/
  erase {cache : σ} {cache' : τ} (same : alike cache cache') (key : Key) :
    alike (one.erase cache key).2 (other.erase cache' key).2

/-- Two worlds are the same but for their caches, which are alike, and for what was observed. -/
structure World.Resembles (alike : σ → τ → Prop) (world : World σ) (world' : World τ) : Prop where
  /-- the registered routes -/
  table : world.table = world'.table
  /-- why the table is out of reach, if it is -/
  outage : world.outage = world'.outage
  /-- the answered paths -/
  memo : world.memo = world'.memo
  /-- the shared loads -/
  loads : world.loads = world'.loads
  /-- the caches -/
  cache : alike world.cache world'.cache

/-- The same happens to two services, as far as they can tell. -/
inductive Happening.Resembles (alike : σ → τ → Prop) : Happening σ → Happening τ → Prop where
  /-- they are asked the same -/
  | asked (operation : Operation) : Resembles alike (.asked operation) (.asked operation)
  /-- the table is as far away -/
  | outage (reason : Option String) : Resembles alike (.outage reason) (.outage reason)
  /-- as much time passes, and leaves the caches alike -/
  | pause (nanoseconds : Nat) {cache : σ} {cache' : τ} (same : alike cache cache') :
    Resembles alike (.pause nanoseconds cache) (.pause nanoseconds cache')

variable {alike : σ → τ → Prop} {d : Deployment σ} {d' : Deployment τ} {world : World σ}
  {world' : World τ}

theorem World.Resembles.ofTable {α : Type} (same : world.Resembles alike world')
    (reply : Table → Except StoreError (α × Table)) :
    (world.ofTable reply).1 = (world'.ofTable reply).1 ∧
      (world.ofTable reply).2.Resembles alike (world'.ofTable reply).2 := by
  rw [World.ofTable, World.ofTable, ← same.outage, ← same.table]
  split
  · exact ⟨rfl, same⟩
  · split
    · exact ⟨rfl, rfl, rfl, same.memo, same.loads, same.cache⟩
    · exact ⟨rfl, same⟩

/-- What passes the cache by is answered the same. -/
theorem Deployment.resembles_handler {q : Request} (matcher : d.accepts = d'.accepts)
    (passes : q.PassesCacheBy) (same : world.Resembles alike world') :
    (d.handler q world).1 = (d'.handler q world').1 ∧
      (d.handler q world).2.Resembles alike (d'.handler q world').2 := by
  cases q with
  | readCache key => exact passes.elim
  | writeCache key value seconds => exact passes.elim
  | eraseCache key => exact passes.elim
  | listRoutes => exact same.ofTable _
  | addRoute route => exact same.ofTable _
  | updateRoute route => exact same.ofTable _
  | deleteRoute path => exact same.ofTable _
  | recordCalls path calls time => exact same.ofTable _
  | test pattern path => exact ⟨congrFun (congrFun matcher pattern) path, same⟩
  | _ =>
    obtain ⟨table, outage, cache, memo, loads, observed⟩ := world
    obtain ⟨table', outage', cache', memo', loads', observed'⟩ := world'
    obtain ⟨rfl, rfl, rfl, rfl, same⟩ := same
    exact ⟨rfl, rfl, rfl, rfl, rfl, same⟩

/-! ## Programs that cannot tell the difference -/

/-- A program does the same in two worlds: it ends with the same value, goes out for the same, and
leaves worlds that resemble each other. -/
structure Program.RunsAlike (alike : σ → τ → Prop) (d : Deployment σ) (d' : Deployment τ)
    {α : Type} (program : Program α) (world : World σ) (world' : World τ) : Prop where
  /-- what it ends with -/
  value : (program.run d.handler world).1 = (program.run d'.handler world').1
  /-- what it goes out for -/
  outgoing : outgoing (program.trace d.handler world) =
    outgoing (program.trace d'.handler world')
  /-- what it leaves -/
  after : (program.run d.handler world).2.Resembles alike (program.run d'.handler world').2

theorem Program.RunsAlike.bind {α β : Type} {program : Program α} {next : α → Program β}
    (first : program.RunsAlike alike d d' world world')
    (rest : ∀ (value : α) (now : World σ) (now' : World τ), now.Resembles alike now' →
      (next value).RunsAlike alike d d' now now') :
    (program.bind next).RunsAlike alike d d' world world' := by
  have rest := rest (program.run d.handler world).1 _ _ first.after
  constructor
  · rw [Program.run_bind, Program.run_bind, ← first.value]
    exact rest.value
  · rw [outgoing_bind, outgoing_bind, first.outgoing, ← first.value, rest.outgoing]
  · rw [Program.run_bind, Program.run_bind, ← first.value]
    exact rest.after

namespace Service

open Program

theorem runsAlike_cachedAs {α : Type} {shape? : Cached → Option α} {key : Key}
    (resembles : d.cache.Resembles d'.cache alike) (same : world.Resembles alike world')
    (value : d.cache.value? world.cache shape? key = d'.cache.value? world'.cache shape? key) :
    (cachedAs shape? key).RunsAlike alike d d' world world' := by
  obtain ⟨observed, ends⟩ := run_cachedAs d world shape? key
  obtain ⟨observed', ends'⟩ := run_cachedAs d' world' shape? key
  constructor
  · rw [ends, ends', value]
  · rw [outgoing_cachedAs, outgoing_cachedAs]
  · rw [ends, ends']
    exact ⟨same.table, same.outage, same.memo, same.loads, resembles.read same.cache key⟩

/-- Caching a value changes nothing but the cache. -/
theorem run_store (d : Deployment σ) (world : World σ) (options : Options) (key : Key)
    (value : Cached) :
    ∃ observed, (store options key value).run d.handler world =
      ((), { world with
        cache := (d.cache.write world.cache key value options.ttlSeconds).2, observed }) := by
  have writes : d.handler (.writeCache key value options.ttlSeconds) world =
      ((d.cache.write world.cache key value options.ttlSeconds).1, { world with
        cache := (d.cache.write world.cache key value options.ttlSeconds).2 }) := rfl
  rw [store, bind_eq, request_bind, run_ask, writes]
  rcases (d.cache.write world.cache key value options.ttlSeconds).1 with error | done
  · exact ⟨_, rfl⟩
  · exact ⟨_, rfl⟩

/-- Erasing a key changes nothing but the cache. -/
theorem run_invalidate (d : Deployment σ) (world : World σ) (key : Key) :
    ∃ observed, (invalidate key).run d.handler world =
      ((), { world with cache := (d.cache.erase world.cache key).2, observed }) := by
  have erases : d.handler (.eraseCache key) world = ((d.cache.erase world.cache key).1,
      { world with cache := (d.cache.erase world.cache key).2 }) := rfl
  rw [invalidate, bind_eq, request_bind, run_ask, erases]
  rcases (d.cache.erase world.cache key).1 with error | done
  · exact ⟨_, rfl⟩
  · exact ⟨_, rfl⟩

theorem outgoing_invalidate (key : Key) :
    outgoing ((invalidate key).trace d.handler world) = [.eraseCache key] := by
  rw [invalidate, bind_eq, request_bind, trace_ask]
  cases (d.handler (.eraseCache key) world).1 <;> rfl

/-- **No program can tell the difference** that goes to the cache only as the service does. -/
theorem Composed.runsAlike {α : Type} {program : Program α} (composed : Composed program)
    (resembles : d.cache.Resembles d'.cache alike) (matcher : d.accepts = d'.accepts)
    (same : world.Resembles alike world') : program.RunsAlike alike d d' world world' := by
  induction composed generalizing world world' with
  | done value => exact ⟨rfl, rfl, same⟩
  | bind first rest ih ih' => exact (ih same).bind fun value _ _ same => ih' value same
  | @request q passes =>
    obtain ⟨reply, after⟩ := Deployment.resembles_handler matcher passes same
    exact ⟨reply, rfl, after⟩
  | cachedRoute path =>
    refine runsAlike_cachedAs resembles same ?_
    rw [d.cache.value?_route, d'.cache.value?_route, resembles.usable same.cache]
  | cachedRoutes =>
    refine runsAlike_cachedAs resembles same ?_
    rw [d.cache.value?_routes, d'.cache.value?_routes, resembles.usable same.cache]
  | store options key value =>
    obtain ⟨observed, ends⟩ := run_store d world options key value
    obtain ⟨observed', ends'⟩ := run_store d' world' options key value
    refine ⟨rfl, ?_, ?_⟩
    · rw [outgoing_store, outgoing_store]
    · rw [ends, ends']
      exact ⟨same.table, same.outage, same.memo, same.loads, resembles.write same.cache key value _⟩
  | invalidate key =>
    obtain ⟨observed, ends⟩ := run_invalidate d world key
    obtain ⟨observed', ends'⟩ := run_invalidate d' world' key
    refine ⟨rfl, ?_, ?_⟩
    · rw [outgoing_invalidate, outgoing_invalidate]
    · rw [ends, ends']
      exact ⟨same.table, same.outage, same.memo, same.loads, resembles.erase same.cache key⟩

end Service

/-! ## Courses that cannot be told apart -/

namespace Deployment

/-- An operation is answered the same, and leaves worlds that resemble each other. -/
theorem runsAlike_operation (resembles : d.cache.Resembles d'.cache alike)
    (matcher : d.accepts = d'.accepts) (same : world.Resembles alike world')
    (operation : Operation) :
    (operation.program d.options).RunsAlike alike d d' world world' :=
  (operation.composed d.options).runsAlike resembles matcher same

/-- Two services stay alike to whom the same happens. -/
theorem resembles_course (resembles : d.cache.Resembles d'.cache alike)
    (matcher : d.accepts = d'.accepts) (options : d.options = d'.options)
    {happenings : List (Happening σ)} {happenings' : List (Happening τ)}
    (alikeEach : List.Forall₂ (Happening.Resembles alike) happenings happenings')
    (same : world.Resembles alike world') :
    (d.course world happenings).Resembles alike (d'.course world' happenings') := by
  induction alikeEach generalizing world world' with
  | nil => exact same
  | cons here rest ih =>
    refine ih ?_
    cases here with
    | asked operation =>
      have after := (runsAlike_operation resembles matcher same operation).after
      rw [meet, meet, ask, ask, ← options]
      exact after
    | outage reason => exact ⟨same.table, rfl, same.memo, same.loads, same.cache⟩
    | pause nanoseconds alikeCaches =>
      exact ⟨same.table, same.outage, congrArg (Memo.advance · nanoseconds) same.memo, same.loads,
        alikeCaches⟩

end Deployment

/-! ## Cleaned caches -/

namespace Entries

/-- The value of a key, if it has the right shape. -/
def usable? (entries : Entries Cached) (key : Key) : Option Cached :=
  (entries.find? key).filter fun value => value.kind = key.kind

/-- Entries without the values of the wrong shape. -/
def cleaned (entries : Entries Cached) : Entries Cached :=
  entries.filter fun entry => (entries.usable? entry.1).isSome

theorem find?_filter (entries : Entries Cached) (keeps : Key → Bool) (key : Key) :
    find? (entries.filter fun entry => keeps entry.1) key =
      if keeps key then entries.find? key else none := by
  induction entries with
  | nil => simp [find?]
  | cons entry entries ih =>
    obtain ⟨k, value⟩ := entry
    by_cases here : k = key
    · subst here
      by_cases kept : keeps k
      · simp [find?, kept]
      · simpa [kept] using ih
    · by_cases kept : keeps k
      · simpa [find?, kept, here] using ih
      · simpa [find?, kept, here] using ih

/-- Cleaning drops the value of a key if it has the wrong shape, and does nothing else. -/
theorem find?_cleaned (entries : Entries Cached) (key : Key) :
    entries.cleaned.find? key = entries.usable? key := by
  rw [cleaned, find?_filter entries fun key => (entries.usable? key).isSome, usable?]
  cases entries.find? key with
  | none => rfl
  | some value => by_cases fits : value.kind = key.kind <;> simp [Option.filter, fits]

theorem usable?_cleaned (entries : Entries Cached) (key : Key) :
    entries.cleaned.usable? key = entries.usable? key := by
  rw [usable?, find?_cleaned, usable?, Option.filter_filter]
  simp

variable {entries entries' : Entries Cached}

/-- Whatever a change makes of one key, if it is the same on both sides, the values of the right
shape stay the same. -/
theorem usable?_change (same : ∀ key, entries.usable? key = entries'.usable? key) {key : Key}
    {changed changed' : Entries Cached} (here : changed.find? key = changed'.find? key)
    (elsewhere : ∀ other, other ≠ key → changed.find? other = entries.find? other)
    (elsewhere' : ∀ other, other ≠ key → changed'.find? other = entries'.find? other)
    (other : Key) : changed.usable? other = changed'.usable? other := by
  by_cases own : other = key
  · rw [usable?, usable?, own, here]
  · have same := same other
    rw [usable?, usable?] at same ⊢
    rw [elsewhere other own, elsewhere' other own, same]

theorem usable?_put (same : ∀ key, entries.usable? key = entries'.usable? key) (key : Key)
    (value : Cached) (other : Key) :
    (entries.put key value).usable? other = (entries'.put key value).usable? other := by
  apply usable?_change same
  · rw [find?_put_self, find?_put_self]
  · exact fun _ => find?_put_of_ne _ _
  · exact fun _ => find?_put_of_ne _ _

theorem usable?_remove (same : ∀ key, entries.usable? key = entries'.usable? key)
    (key other : Key) :
    (entries.remove key).usable? other = (entries'.remove key).usable? other := by
  apply usable?_change same
  · rw [find?_remove_self, find?_remove_self]
  · exact fun _ => find?_remove_of_ne _
  · exact fun _ => find?_remove_of_ne _

end Entries

namespace Scripted

/-- The same calls are going to fail, and every key has the same value of the right shape. -/
structure Alike (cache cache' : Scripted (Entries Cached)) : Prop where
  /-- the calls that are going to fail -/
  script : cache.script = cache'.script
  /-- the values of the right shape -/
  usable (key : Key) : cache.inner.usable? key = cache'.inner.usable? key

variable {cache cache' : Scripted (Entries Cached)} {erasures : Bool}

theorem Alike.fails (same : Alike cache cache') : cache.fails = cache'.fails := by
  rw [Scripted.fails, Scripted.fails, same.script]

theorem usable?_backend (cache : Scripted (Entries Cached)) (key : Key) :
    (backend plainCache erasures).usable? cache key =
      if cache.fails then none else cache.inner.usable? key := by
  rw [CacheBackend.usable?, backend]
  by_cases fails : cache.fails
  · simp [fails]
  · simp [fails, plainCache, Entries.usable?]

theorem read_backend (cache : Scripted (Entries Cached)) (key : Key) :
    ((backend plainCache erasures).read cache key).2 =
      { cache with script := cache.script.tail } := by
  rw [backend]
  by_cases fails : cache.fails <;> simp [fails, plainCache]

theorem write_backend (cache : Scripted (Entries Cached)) (key : Key) (value : Cached)
    (seconds : UInt64) : ((backend plainCache erasures).write cache key value seconds).2 =
      if cache.fails then { cache with script := cache.script.tail }
      else ⟨cache.inner.put key value, cache.script.tail⟩ := by
  rw [backend]
  by_cases fails : cache.fails <;> simp [fails, plainCache]

theorem erase_backend (cache : Scripted (Entries Cached)) (key : Key) :
    ((backend plainCache erasures).erase cache key).2 =
      if erasures && cache.fails then { cache with script := cache.script.tail }
      else ⟨cache.inner.remove key, cache.script.tail⟩ := by
  rw [backend]
  by_cases fails : erasures && cache.fails <;> simp [fails, plainCache]

/-- Failing by the same script, caches with the same values of the right shape cannot be told
apart. -/
theorem resembles (erasures : Bool) :
    (backend plainCache erasures).Resembles (backend plainCache erasures) Alike where
  usable same key := by rw [usable?_backend, usable?_backend, same.fails, same.usable]
  read := by
    intro cache cache' same key
    rw [read_backend, read_backend]
    exact ⟨congrArg List.tail same.script, same.usable⟩
  write := by
    intro cache cache' same key value seconds
    rw [write_backend, write_backend, same.fails]
    split
    · exact ⟨congrArg List.tail same.script, same.usable⟩
    · exact ⟨congrArg List.tail same.script, Entries.usable?_put same.usable key value⟩
  erase := by
    intro cache cache' same key
    rw [erase_backend, erase_backend, same.fails]
    split
    · exact ⟨congrArg List.tail same.script, same.usable⟩
    · exact ⟨congrArg List.tail same.script, Entries.usable?_remove same.usable key⟩

/-- The same calls fail, but there are no values of the wrong shape. -/
def cleaned (cache : Scripted (Entries Cached)) : Scripted (Entries Cached) :=
  { cache with inner := cache.inner.cleaned }

theorem alike_cleaned (cache : Scripted (Entries Cached)) : Alike cache cache.cleaned :=
  ⟨rfl, fun key => (cache.inner.usable?_cleaned key).symm⟩

/-- The same happens to a cleaned cache. -/
def cleanedHappening : Happening (Scripted (Entries Cached)) →
    Happening (Scripted (Entries Cached))
  | .pause nanoseconds cache => .pause nanoseconds cache.cleaned
  | happening => happening

theorem resembles_cleaned (happenings : List (Happening (Scripted (Entries Cached)))) :
    List.Forall₂ (Happening.Resembles Alike) happenings (happenings.map cleanedHappening) := by
  induction happenings with
  | nil => exact .nil
  | cons happening rest ih =>
    refine .cons ?_ ih
    cases happening with
    | asked operation => exact .asked operation
    | outage reason => exact .outage reason
    | pause nanoseconds cache => exact .pause nanoseconds (alike_cleaned cache)

end Scripted

/-! ## The result -/

/-- **Wrong shapes are as good as absent, and what is absorbed is counted once.** Take a cache with
any contents, of which any calls may fail, and one with the same contents but for the values of the
wrong shape, of which the same calls fail. Let the same happen to two services over them, and let
the caches lose or gain the same, again but for values of the wrong shape. Then at every moment both
answer whatever they are asked in the same way, and go out for the same: to the table, to the
matcher, to the memo and to the cache. Each of them has counted as many failures as its cache calls
have failed and its readings have brought values of the wrong shape. -/
theorem wrong_shapes_as_good_as_absent (accepts : String → String → Bool) (options : Options)
    (table : Table) (memo : Memo) (cache : Scripted (Entries Cached))
    (happenings : List (Happening (Scripted (Entries Cached)))) (operation : Operation) :
    let d : Deployment (Scripted (Entries Cached)) :=
      { cache := Scripted.backend plainCache true, accepts, options }
    let start := World.start table cache memo
    let start' := World.start table cache.cleaned memo
    let happenings' := happenings.map Scripted.cleanedHappening
    let now := d.course start happenings
    let now' := d.course start' happenings'
    (d.ask operation now).1 = (d.ask operation now').1 ∧
      outgoing (d.eventsOf operation now) = outgoing (d.eventsOf operation now') ∧
      cacheFailureCount now.observed = troubles (d.events start happenings) ∧
      cacheFailureCount now'.observed = troubles (d.events start' happenings') := by
  intro d start start' happenings' now now'
  have alike : World.Resembles Scripted.Alike start start' :=
    ⟨rfl, rfl, rfl, rfl, cache.alike_cleaned⟩
  have alike : World.Resembles Scripted.Alike now now' :=
    Deployment.resembles_course (Scripted.resembles true) rfl rfl
      (Scripted.resembles_cleaned happenings) alike
  have runs : (operation.program options).RunsAlike Scripted.Alike d d now now' :=
    Deployment.runsAlike_operation (Scripted.resembles true) rfl alike operation
  refine ⟨runs.value, runs.outgoing, ?_, ?_⟩
  · exact (d.absorbed_course start happenings).trans (Nat.zero_add _)
  · exact (d.absorbed_course start' happenings').trans (Nat.zero_add _)

/-- A list under a path's key that can neither be written over nor erased is absorbed at each lookup
of the path. -/
example :
    let stuck : Scripted (Entries Cached) :=
      ⟨[(.single "/users/42", .list [])], [false, false, false, true, true, false, true]⟩
    let failures (cache : Scripted (Entries Cached)) : Nat :=
      let start := World.start (.single (userRoute "http://old")) cache (.empty 100 1000)
      let now := scriptedDeployment.course start lookedUpThenReplaced
      cacheFailureCount (scriptedDeployment.ask (.resolve "/users/42") now).2.observed
    failures stuck = 5 ∧ failures stuck.cleaned = 3 := by
  decide +kernel

end GatewayRouting
