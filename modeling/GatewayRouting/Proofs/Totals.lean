import GatewayRouting.Proofs.Cacheless
import GatewayRouting.Proofs.Invalidation

/-!
# Totals that add up

What is observed is counted in three places: the cache counts its reads, whoever loads the list says
so, and a lookup says afterwards how it ended. That these counts fit together is a matter of what a
lookup does. On its own, over a cache that never fails to be read, it reads the entry of its path;
if it misses that, it reads the list; if it misses that too, it loads the list; and then it says
that it was a hit if and only if the first read was one (`Operation.Adds`). Nothing else reads,
loads or looks up. So the counts balance after each operation (`Balanced`), whatever the cache has
lost in the meantime and however the table fails.
-/

namespace GatewayRouting

variable {σ : Type}

/-! ## What is counted of a run -/

/-- What an event adds to the counts: a read of the cache that was answered, a load that starts, or
a lookup that has ended. -/
def Event.counts : Event → Option Observation
  | ⟨.readCache key, .ok found⟩ => some (.cacheRead key.kind found.isSome)
  | ⟨.note (.lookup outcome), _⟩ => some (.lookup outcome)
  | ⟨.note .load, _⟩ => some .load
  | _ => none

/-- What is counted of some events, in their order. -/
def countedIn (events : List Event) : List Observation :=
  events.filterMap Event.counts

theorem countedIn_append (past events : List Event) :
    countedIn (past ++ events) = countedIn past ++ countedIn events :=
  List.filterMap_append

/-- A request of which nothing is counted. -/
def Request.Silent (q : Request) : Prop :=
  ∀ reply, Event.counts ⟨q, reply⟩ = none

theorem countedIn_eq_nil {events : List Event} (silent : ∀ event ∈ events, event.request.Silent) :
    countedIn events = [] := by
  rw [countedIn, List.filterMap_eq_nil_iff]
  exact fun event mem => silent event mem event.reply

/-- How many lookups ended in some way. -/
def lookupCount (observed : List Observation) (outcome : Outcome) : Nat :=
  (Observation.lookup outcome).count observed

/-! ## Caches that count their reads -/

/-- Whether an observation is a read of a cache. -/
def Observation.isRead : Observation → Bool
  | .cacheRead _ _ => true
  | _ => false

/-- An account of what a cache observes: it never fails to be read, and observes each read and how
it went. Which entries it keeps, and for how long, is left open. -/
structure CacheBackend.Meter (backend : CacheBackend σ) where
  /-- what was observed -/
  observed : σ → List Observation
  /-- a read is answered, and observed -/
  read (cache : σ) (key : Key) : ∃ found, (backend.read cache key).1 = .ok found ∧
    (observed (backend.read cache key).2).filter Observation.isRead =
      .cacheRead key.kind found.isSome :: (observed cache).filter Observation.isRead
  /-- a write is no read -/
  write (cache : σ) (key : Key) (value : Cached) (seconds : UInt64) :
    (observed (backend.write cache key value seconds).2).filter Observation.isRead =
      (observed cache).filter Observation.isRead
  /-- nor is an erasure -/
  erase (cache : σ) (key : Key) :
    (observed (backend.erase cache key).2).filter Observation.isRead =
      (observed cache).filter Observation.isRead

/-- The cache with a clock observes its reads, whatever there is room for. -/
def timedMeter : timedCache.Meter where
  observed := TimedCache.observed
  read cache key := ⟨cache.find? key, rfl, rfl⟩
  write := by
    intro cache key value seconds
    change (TimedCache.takeIn _ _ _).observed.filter Observation.isRead = _
    rw [TimedCache.takeIn]
    split
    · rfl
    · split
      · rfl
      · split <;> rfl
  erase := by
    intro cache key
    change (cache.drop key .manual).observed.filter Observation.isRead = _
    rw [TimedCache.drop]
    split <;> rfl

namespace CacheBackend.Meter

variable {backend : CacheBackend σ}

/-- The totals of the reads so far. -/
def totals (meter : backend.Meter) (cache : σ) : CacheTotals :=
  .of (meter.observed cache)

/-- How often a read of some kind went in some way. -/
def reads (meter : backend.Meter) (cache : σ) (kind : KeyKind) (hit : Bool) : Nat :=
  (Observation.cacheRead kind hit).count (meter.observed cache)

theorem reads_eq (meter : backend.Meter) (cache : σ) (kind : KeyKind) (hit : Bool) :
    meter.reads cache kind hit =
      ((meter.observed cache).filter Observation.isRead).count (.cacheRead kind hit) :=
  (List.count_filter rfl).symm

theorem totals_eq (meter : backend.Meter) (cache : σ) :
    meter.totals cache = ⟨meter.reads cache .list true, meter.reads cache .list false,
      meter.reads cache .single true, meter.reads cache .single false⟩ := rfl

/-- Between operations a cache is not read. -/
def Rests (meter : backend.Meter) (world : World σ) : Happening σ → Prop
  | .pause _ cache => ∀ kind hit, meter.reads cache kind hit = meter.reads world.cache kind hit
  | _ => True

/-- The counts are what was counted of some events. -/
structure Agrees (meter : backend.Meter) (past : List Event) (world : World σ) : Prop where
  /-- the reads -/
  reads (kind : KeyKind) (hit : Bool) :
    meter.reads world.cache kind hit = (countedIn past).count (.cacheRead kind hit)
  /-- the lookups -/
  lookups (outcome : Outcome) :
    lookupCount world.observed outcome = (countedIn past).count (.lookup outcome)
  /-- the loads -/
  loads : loadCount world.observed = (countedIn past).count .load

end CacheBackend.Meter

section

variable {d : Deployment σ} {meter : d.cache.Meter} {past : List Event} {world : World σ}
  {q : Request}

namespace CacheBackend.Meter.Agrees

/-- What neither reads nor adds to the observations changes no counts. -/
theorem of_silent (agrees : meter.Agrees past world) (silent : q.Silent)
    (reads : ∀ kind hit,
      meter.reads (d.handler q world).2.cache kind hit = meter.reads world.cache kind hit)
    (observed : (d.handler q world).2.observed = world.observed) :
    meter.Agrees (past ++ [⟨q, (d.handler q world).1⟩]) (d.handler q world).2 := by
  have nothing : countedIn [⟨q, (d.handler q world).1⟩] = [] := by
    refine countedIn_eq_nil fun event mem => ?_
    rw [List.mem_singleton.mp mem]
    exact silent
  have same : countedIn (past ++ [⟨q, (d.handler q world).1⟩]) = countedIn past := by
    rw [countedIn_append, nothing, List.append_nil]
  constructor
  · intro kind hit
    rw [reads, same]
    exact agrees.reads kind hit
  · intro outcome
    rw [observed, same]
    exact agrees.lookups outcome
  · rw [observed, same]
    exact agrees.loads

/-- A read is counted by the cache. -/
theorem read (agrees : meter.Agrees past world) (key : Key) :
    meter.Agrees (past ++ [⟨.readCache key, (d.handler (.readCache key) world).1⟩])
      (d.handler (.readCache key) world).2 := by
  obtain ⟨found, replied, seen⟩ := meter.read world.cache key
  have replied : (d.handler (.readCache key) world).1 = .ok found := replied
  have counted : countedIn (past ++ [⟨.readCache key, (d.handler (.readCache key) world).1⟩]) =
      countedIn past ++ [.cacheRead key.kind found.isSome] := by
    rw [countedIn_append, replied]
    rfl
  constructor
  · intro kind hit
    have before : ((meter.observed world.cache).filter Observation.isRead).count
        (.cacheRead kind hit) = (countedIn past).count (.cacheRead kind hit) :=
      (meter.reads_eq world.cache kind hit).symm.trans (agrees.reads kind hit)
    rw [counted, List.count_append, ← before, meter.reads_eq]
    change ((meter.observed (d.cache.read world.cache key).2).filter _).count _ = _
    rw [seen, List.count_cons, List.count_singleton]
  · intro outcome
    rw [counted, List.count_append]
    exact agrees.lookups outcome
  · rw [counted, List.count_append]
    exact agrees.loads

/-- An observation that is no read is counted by the one who notes it. -/
theorem note (agrees : meter.Agrees past world) (observation : Observation) :
    meter.Agrees (past ++ [⟨.note observation, (d.handler (.note observation) world).1⟩])
      (d.handler (.note observation) world).2 := by
  have counted :
      countedIn (past ++ [⟨.note observation, (d.handler (.note observation) world).1⟩]) =
      countedIn past ++ countedIn [⟨.note observation, ()⟩] := countedIn_append ..
  have observed : (d.handler (.note observation) world).2.observed =
      observation :: world.observed := rfl
  constructor
  · intro kind hit
    have nothing : (countedIn [⟨.note observation, ()⟩]).count (.cacheRead kind hit) = 0 := by
      cases observation <;> rfl
    rw [counted, List.count_append, nothing]
    exact agrees.reads kind hit
  · intro outcome
    have own : (countedIn [⟨.note observation, ()⟩]).count (.lookup outcome) =
        [observation].count (.lookup outcome) := by
      cases observation <;> rfl
    rw [counted, List.count_append, own, ← agrees.lookups, observed, lookupCount, lookupCount,
      Observation.count, List.count_cons, List.count_singleton]
    rfl
  · have own : (countedIn [⟨.note observation, ()⟩]).count .load = [observation].count .load := by
      cases observation <;> rfl
    rw [counted, List.count_append, own, ← agrees.loads, observed, loadCount, loadCount,
      Observation.count, List.count_cons, List.count_singleton]
    rfl

/-- The same counts come of the same observations. -/
theorem eq_of_counted {later : List Event} {world' : World σ} (agrees : meter.Agrees past world)
    (agrees' : meter.Agrees later world') (same : countedIn later = countedIn past) :
    meter.totals world'.cache = meter.totals world.cache ∧
      (∀ outcome, lookupCount world'.observed outcome = lookupCount world.observed outcome) ∧
      loadCount world'.observed = loadCount world.observed := by
  have reads (kind : KeyKind) (hit : Bool) :
      meter.reads world'.cache kind hit = meter.reads world.cache kind hit := by
    rw [agrees.reads, agrees'.reads, same]
  refine ⟨?_, fun outcome => ?_, ?_⟩
  · rw [totals_eq, totals_eq, reads, reads, reads, reads]
  · exact (agrees'.lookups outcome).trans (same ▸ (agrees.lookups outcome).symm)
  · exact agrees'.loads.trans (same ▸ agrees.loads.symm)

/-- **One request.** Each request keeps the counts in step with the events. -/
theorem handler (agrees : meter.Agrees past world) (q : Request) :
    meter.Agrees (past ++ [⟨q, (d.handler q world).1⟩]) (d.handler q world).2 := by
  by_cases asksTable : q = .listRoutes ∨ q.ChangesTable
  · have silent : q.Silent := by
      intro reply
      cases q <;> first | rfl | simp [Request.ChangesTable] at asksTable
    have same : (d.handler q world).2 = { world with table := (d.handler q world).2.table } :=
      Deployment.handler_snd_of_table asksTable
    refine agrees.of_silent silent (fun kind hit => ?_) ?_
    · rw [same]
    · rw [same]
  · cases q with
    | readCache key => exact agrees.read key
    | note observation => exact agrees.note observation
    | writeCache key value seconds =>
      refine agrees.of_silent (fun _ => rfl) (fun kind hit => ?_) rfl
      rw [meter.reads_eq, meter.reads_eq, ← meter.write world.cache key value seconds]
      rfl
    | eraseCache key =>
      refine agrees.of_silent (fun _ => rfl) (fun kind hit => ?_) rfl
      rw [meter.reads_eq, meter.reads_eq, ← meter.erase world.cache key]
      rfl
    | _ => first
      | exact agrees.of_silent (fun _ => rfl) (fun _ _ => rfl) rfl
      | simp [Request.ChangesTable] at asksTable

/-- **A whole run** of a program does, too. -/
theorem run {α : Type} (agrees : meter.Agrees past world) (program : Program α) :
    meter.Agrees (past ++ program.trace d.handler world) (program.run d.handler world).2 := by
  induction program generalizing past world with
  | done value => simpa using agrees
  | ask q next ih => simpa using ih _ (agrees.handler q)

end CacheBackend.Meter.Agrees

end

/-! ## What a lookup counts on its own -/

/-- The shape of a value, by the key that it belongs under. -/
def Cached.kind : Cached → KeyKind
  | .single _ => .single
  | .list _ => .list

/-- What a lookup asks for, as far as it matters for the counts: it writes values of the shape that
their keys are for, and takes its turn with a shared load right after it has joined it. -/
def soloAllows (past : List Event) : Request → Prop
  | .writeCache key value _ => value.kind = key.kind
  | .joinLoad => joinedLoad past = none
  | .awaitLoad number => past.getLast? = some ⟨.joinLoad, number⟩
  | .releaseLoad number => joinedLoad past = some number
  | _ => True

/-- What is granted to a lookup on its own: the cache is read without a failure and has values of
the right shape, and nobody else runs a load that it joins. -/
def soloGrants : (q : Request) → q.Reply → Prop
  | .readCache key, reply =>
    ∃ found, reply = .ok found ∧ ∀ value, found = some value → value.kind = key.kind
  | .awaitLoad _, reply => reply = .lead
  | _, _ => True

/-- Where a lookup stands: the shared load that it has joined, and what was counted so far. -/
structure Counted (load : Option Nat) (counts : List Observation) (past : List Event) : Prop where
  /-- the load that it has joined -/
  joined : joinedLoad past = load
  /-- what was counted -/
  counts : countedIn past = counts

theorem Counted.append {load : Option Nat} {counts : List Observation} {past : List Event}
    (counted : Counted load counts past) (event : Event) :
    Counted (event.joining load) (counts ++ countedIn [event]) (past ++ [event]) := by
  obtain ⟨rfl, rfl⟩ := counted
  exact ⟨joinedLoad_append past event, countedIn_append past [event]⟩

/-- An event may count for nothing. -/
theorem Counted.silent {load : Option Nat} {counts : List Observation} {past : List Event}
    (counted : Counted load counts past) (event : Event) (nothing : countedIn [event] = []) :
    Counted (event.joining load) counts (past ++ [event]) := by
  have after := counted.append event
  rw [nothing, List.append_nil] at after
  exact after

/-- What is counted while a lookup gets at the list: that it was in the cache, or that it was not
and is loaded. -/
def countedForList (hit : Bool) : List Observation :=
  .cacheRead .list hit :: if hit then [] else [.load]

/-- What is counted until a lookup knows how it ends. A hit is a hit of the cache. -/
inductive CountedUntil : Outcome → List Observation → Prop where
  /-- the entry of the path was in the cache -/
  | hit : CountedUntil .cacheHit [.cacheRead .single true]
  /-- it was not, and the list was needed -/
  | miss {outcome : Outcome} (missed : outcome ≠ .cacheHit) (hit : Bool) :
      CountedUntil outcome (.cacheRead .single false :: countedForList hit)

namespace Service

open Program

variable {options : Options} {load : Option Nat} {counts more : List Observation}
  {past : List Event} {path : String}

theorem counted_cached {key : Key} (counted : Counted load counts past) :
    (cached key).KeepsTo soloAllows soloGrants
      (fun now found => Counted load (counts ++ [.cacheRead key.kind found.isSome]) now ∧
        ∀ value, found = some value → value.kind = key.kind) past := by
  refine ⟨trivial, fun reply granted => ?_⟩
  obtain ⟨found, rfl, shape⟩ := granted
  exact ⟨counted.append ⟨.readCache key, .ok found⟩, shape⟩

/-- With values of the right shape only, what is read is what was asked for. -/
theorem counted_cachedAs {α : Type} {shape? : Cached → Option α} {key : Key}
    (fits : ∀ value : Cached, value.kind = key.kind → (shape? value).isSome = true)
    (counted : Counted load counts past) :
    (cachedAs shape? key).KeepsTo soloAllows soloGrants
      (fun now found => Counted load (counts ++ [.cacheRead key.kind found.isSome]) now) past := by
  refine KeepsTo.bind (counted_cached counted) ?_
  rintro now (_ | value) _ ⟨counted, shape⟩
  · exact counted
  · obtain ⟨wanted, same⟩ := Option.isSome_iff_exists.mp (fits value (shape value rfl))
    dsimp only
    rw [same]
    exact counted

theorem counted_store {key : Key} {value : Cached} (shape : value.kind = key.kind)
    (counted : Counted load counts past) :
    (store options key value).KeepsTo soloAllows soloGrants
      (fun now _ => Counted load counts now) past := by
  refine ⟨shape, fun reply _ => ?_⟩
  have counted := counted.silent ⟨.writeCache key value options.ttlSeconds, reply⟩ rfl
  cases reply with
  | ok done => exact counted
  | error error =>
    refine ⟨trivial, fun noted _ => ?_⟩
    exact counted.silent ⟨.note (.cacheFailure .write), noted⟩ rfl

theorem counted_firstAccepting (routes : List Route) (counted : Counted load counts past) :
    (firstAccepting path routes).KeepsTo soloAllows soloGrants
      (fun now _ => Counted load counts now) past := by
  induction routes generalizing past with
  | nil => exact counted
  | cons route routes ih =>
    refine ⟨trivial, fun accepted _ => ?_⟩
    have counted := counted.silent ⟨.test route.path path, accepted⟩ rfl
    cases accepted with
    | true => exact counted
    | false => exact ih counted

theorem counted_fetchRoutes (counted : Counted load counts past) :
    (fetchRoutes options).KeepsTo soloAllows soloGrants
      (fun now _ => Counted load (counts ++ [.load]) now) past := by
  refine ⟨trivial, fun noted _ => ?_⟩
  have counted := counted.append ⟨.note .load, noted⟩
  refine ⟨trivial, fun reply _ => ?_⟩
  have counted := counted.silent ⟨.listRoutes, reply⟩ rfl
  cases reply with
  | ok routes =>
    change KeepsTo _ _ _ _ ((store options .list (.list routes)).bind _)
    exact KeepsTo.bind (counted_store rfl counted) fun _ _ _ counted => counted
  | error error => exact counted

/-- Who shares a load on its own runs it. -/
theorem counted_sharing {fetch : Program (Except StoreError (List Route))}
    (counted : Counted none counts past)
    (fetches : ∀ number past, Counted (some number) counts past →
      fetch.KeepsTo soloAllows soloGrants
        (fun now _ => Counted (some number) (counts ++ more) now) past) :
    (sharing fetch).KeepsTo soloAllows soloGrants
      (fun now _ => Counted none (counts ++ more) now) past := by
  refine ⟨counted.joined, fun number _ => ?_⟩
  have joined := counted.silent ⟨.joinLoad, number⟩ rfl
  refine ⟨List.getLast?_concat, fun turn leads => ?_⟩
  obtain rfl : turn = .lead := leads
  have turned := joined.silent ⟨.awaitLoad number, .lead⟩ rfl
  change KeepsTo _ _ _ _ (fetch.bind _)
  refine KeepsTo.bind (fetches number _ turned) ?_
  intro now result _ fetched
  refine ⟨trivial, fun settled _ => ?_⟩
  have ended := fetched.silent ⟨.settleLoad number result, settled⟩ rfl
  refine ⟨ended.joined, fun released _ => ?_⟩
  exact ended.silent ⟨.releaseLoad number, released⟩ rfl

theorem counted_loadRoutes (counted : Counted none counts past) :
    (loadRoutes options).KeepsTo soloAllows soloGrants
      (fun now _ => Counted none (counts ++ [.load]) now) past := by
  rw [loadRoutes]
  split
  · exact counted_sharing counted fun _ _ => counted_fetchRoutes
  · exact counted_fetchRoutes counted

theorem counted_routes (counted : Counted none counts past) :
    (routes options).KeepsTo soloAllows soloGrants
      (fun now _ => ∃ hit, Counted none (counts ++ countedForList hit) now) past := by
  have fits (value : Cached) (shape : value.kind = .list) : value.routes?.isSome = true := by
    cases value with
    | single route => cases shape
    | list routes => rfl
  refine KeepsTo.bind (counted_cachedAs fits counted) ?_
  rintro now (_ | routes) _ counted
  · refine (counted_loadRoutes counted).mono fun now _ counted => ⟨false, ?_⟩
    rw [List.append_assoc] at counted
    exact counted
  · exact ⟨true, counted⟩

/-- Trying the patterns counts for nothing, and does not end as a hit. -/
theorem counted_scan (routes : List Route) (counted : Counted none counts past) :
    (scan options path routes).KeepsTo soloAllows soloGrants
      (fun now result => Counted none counts now ∧ outcomeOf result ≠ .cacheHit) past := by
  refine KeepsTo.bind (counted_firstAccepting routes counted) ?_
  rintro now (_ | route) _ counted
  · exact ⟨counted, Outcome.noConfusion⟩
  · refine KeepsTo.bind (counted_store rfl counted) ?_
    intro now _ _ counted
    refine ⟨trivial, fun recorded _ => ?_⟩
    exact ⟨counted.silent ⟨.remember path route.path, recorded⟩ rfl,
      Outcome.noConfusion⟩

theorem counted_lookUp (counted : Counted none counts past) :
    (lookUp options path).KeepsTo soloAllows soloGrants
      (fun now result => ∃ looked, CountedUntil (outcomeOf result) looked ∧
        Counted none (counts ++ looked) now) past := by
  have fits (value : Cached) (shape : value.kind = .single) : value.route?.isSome = true := by
    cases value with
    | single route => rfl
    | list routes => cases shape
  refine KeepsTo.bind (counted_cachedAs fits counted) ?_
  rintro now (_ | route) _ counted
  · refine KeepsTo.bind (counted_routes counted) ?_
    rintro now result _ ⟨hit, counted⟩
    rw [List.append_assoc] at counted
    cases result with
    | ok routes =>
      refine (counted_scan routes counted).mono ?_
      rintro now result ⟨counted, missed⟩
      exact ⟨_, .miss missed hit, counted⟩
    | error error => exact ⟨_, .miss Outcome.noConfusion hit, counted⟩
  · exact ⟨_, .hit, counted⟩

theorem counted_resolve (counted : Counted none counts past) :
    (resolve options path).KeepsTo soloAllows soloGrants
      (fun now _ => ∃ outcome looked, CountedUntil outcome looked ∧
        Counted none (counts ++ (looked ++ [.lookup outcome])) now) past := by
  refine KeepsTo.bind (counted_lookUp counted) ?_
  rintro now result _ ⟨looked, until', counted⟩
  refine ⟨trivial, fun noted _ => ⟨outcomeOf result, looked, until', ?_⟩⟩
  have after := counted.append ⟨.note (.lookup (outcomeOf result)), noted⟩
  rw [List.append_assoc] at after
  exact after

end Service

/-! ## Each operation -/

/-- What an operation adds to the counts. -/
inductive Operation.Adds : Operation → List Observation → Prop where
  /-- who wants the list reads it, and loads it if it is missed -/
  | routes (hit : Bool) : Adds .routes (countedForList hit)
  /-- who looks a path up says how it ended -/
  | resolve {path : String} {outcome : Outcome} {looked : List Observation}
      (before : CountedUntil outcome looked) : Adds (.resolve path) (looked ++ [.lookup outcome])
  /-- and so does who asks for a method -/
  | permits {path method : String} {outcome : Outcome} {looked : List Observation}
      (before : CountedUntil outcome looked) :
      Adds (.permits path method) (looked ++ [.lookup outcome])
  /-- what does not look counts for nothing -/
  | upkeep {operation : Operation} (changes : ¬ operation.IsLookup) : Adds operation []

/-- On its own, a lookup adds what it should. -/
theorem Operation.keepsTo_adds (options : Options) {operation : Operation}
    (looks : operation.IsLookup) :
    (operation.program options).KeepsTo soloAllows soloGrants
      (fun now _ => ∃ counts, operation.Adds counts ∧ Counted none counts now) [] := by
  have start : Counted none [] [] := ⟨rfl, rfl⟩
  cases operation with
  | routes =>
    refine Program.KeepsTo.bind (Service.counted_routes start) ?_
    rintro now result _ ⟨hit, counted⟩
    exact ⟨_, .routes hit, counted⟩
  | resolve path =>
    refine Program.KeepsTo.bind (Service.counted_resolve start) ?_
    rintro now result _ ⟨outcome, looked, before, counted⟩
    exact ⟨_, .resolve before, counted⟩
  | permits path method =>
    have asked : (Service.permits options path method).KeepsTo soloAllows soloGrants
        (fun now _ => ∃ outcome looked, CountedUntil outcome looked ∧
          Counted none (looked ++ [.lookup outcome]) now) [] :=
      Program.KeepsTo.bind (Service.counted_resolve start) fun _ _ _ counted => counted
    refine Program.KeepsTo.bind asked ?_
    rintro now result _ ⟨outcome, looked, before, counted⟩
    exact ⟨_, .permits before, counted⟩
  | _ => exact looks.elim

/-- What does not look asks for nothing that counts. -/
theorem Operation.silent_upkeep {options : Options} {operation : Operation}
    (changes : ¬ operation.IsLookup) : (operation.program options).Asks Request.Silent := by
  have invalidates (key : Key) : (Service.invalidate key).Asks Request.Silent :=
    Service.asks_invalidate (fun _ => rfl) fun _ _ => rfl
  have sweeps : Service.sweep.Asks Request.Silent :=
    Service.asks_sweep (fun _ => rfl) (fun _ _ => rfl) (fun _ _ => rfl) fun _ _ => rfl
  have uncaches (path : String) : (Service.uncache path).Asks Request.Silent :=
    (invalidates _).bind fun _ => invalidates _
  cases operation with
  | add route =>
    have silent : (Service.add route).Asks Request.Silent := by
      rw [Service.add_eq]
      exact Service.asks_changing ⟨fun _ => rfl, fun _ => trivial⟩ (fun _ => invalidates _) sweeps
    exact silent.bind fun _ => trivial
  | update route =>
    have silent : (Service.update route).Asks Request.Silent := by
      rw [Service.update_eq]
      exact Service.asks_changing ⟨fun _ => rfl, fun _ => trivial⟩ (fun _ => uncaches _) sweeps
    exact silent.bind fun _ => trivial
  | delete path =>
    have silent : (Service.delete path).Asks Request.Silent := by
      rw [Service.delete_eq]
      exact Service.asks_changing ⟨fun _ => rfl, fun _ => trivial⟩ (fun _ => uncaches _) sweeps
    exact silent.bind fun _ => trivial
  | recordCalls path calls time => exact ⟨fun _ => rfl, fun _ => trivial⟩
  | clear =>
    have silent : Service.clear.Asks Request.Silent := by
      rw [Service.clear_eq]
      refine Service.asks_changing ?_ ?_ sweeps
      · exact (invalidates _).bind fun _ => ⟨fun _ => rfl, fun _ => trivial⟩
      · exact fun routes => Service.asks_invalidateAll (fun _ _ => rfl) (fun _ _ => rfl) _
    exact silent.bind fun _ => trivial
  | _ => exact absurd trivial changes

/-- Every value lies under a key that is for its shape. -/
def CacheBackend.Contents.Shapely {backend : CacheBackend σ} (contents : backend.Contents)
    (cache : σ) : Prop :=
  ∀ key value, contents.holds cache key value → value.kind = key.kind

section

variable {d : Deployment σ} {contents : d.cache.Contents} {meter : d.cache.Meter}
  {past : List Event} {world : World σ} {q : Request} {operation : Operation}

/-- A lookup runs on its own: values have the right shape, and the load in the slot is the one that
it has joined. -/
structure Solo (contents : d.cache.Contents) (past : List Event) (world : World σ) : Prop where
  /-- values have the right shape -/
  shapely : contents.Shapely world.cache
  /-- the load in the slot is the one that was joined -/
  slot : world.loads.slot = joinedLoad past
  /-- nobody runs it when it was just joined -/
  idle (number : Nat) (joined : past.getLast? = some ⟨.joinLoad, number⟩) :
    world.loads.states[number]? = some .idle

theorem shapely_handler (shapely : contents.Shapely world.cache)
    (writes : ∀ key value seconds, q = .writeCache key value seconds → value.kind = key.kind) :
    contents.Shapely (d.handler q world).2.cache := by
  intro key value held
  obtain old | ⟨seconds, new⟩ := Deployment.holds_of_holds_handler held
  · exact shapely key value old
  · exact writes key value seconds new

/-- A lookup on its own is granted what it needs. -/
theorem Solo.granted (meter : d.cache.Meter) (solo : Solo contents past world)
    (allowed : soloAllows past q) : soloGrants q (d.handler q world).1 := by
  cases q with
  | readCache key =>
    obtain ⟨found, replied, -⟩ := meter.read world.cache key
    refine ⟨found, replied, ?_⟩
    rintro value rfl
    exact solo.shapely key value (contents.holds_of_read replied)
  | awaitLoad number =>
    change (world.loads.takeTurn number).1 = .lead
    rw [SharedLoads.takeTurn, solo.idle number allowed]
  | _ => trivial

/-- And it stays on its own. -/
theorem Solo.handler (solo : Solo contents past world) (allowed : soloAllows past q) :
    Solo contents (past ++ [⟨q, (d.handler q world).1⟩]) (d.handler q world).2 where
  shapely := by
    refine shapely_handler solo.shapely ?_
    rintro key value seconds rfl
    exact allowed
  slot := by
    rw [joinedLoad_append, ← solo.slot]
    by_cases joins : q = .joinLoad
    · subst joins
      exact SharedLoads.slot_join
    · by_cases releases : ∃ number, q = .releaseLoad number
      · obtain ⟨number, rfl⟩ := releases
        exact SharedLoads.slot_release (solo.slot.trans allowed)
      · have releases (number : Nat) (same : q = .releaseLoad number) := releases ⟨number, same⟩
        rw [Deployment.slot_handler joins releases, Event.joining_eq joins releases]
  idle := by
    intro number joined
    rw [List.getLast?_concat, Option.some.injEq] at joined
    by_cases joins : q = .joinLoad
    · subst joins
      have same : (d.handler .joinLoad world).1 = number := by
        cases joined
        rfl
      have empty : world.loads.slot = none := solo.slot.trans allowed
      rw [← same]
      exact SharedLoads.idle_join empty
    · exact absurd (congrArg Event.request joined) joins

/-- **Each operation adds what it should**, and leaves the cache in shape and no load behind. -/
theorem Operation.adds_ask (contents : d.cache.Contents) (meter : d.cache.Meter)
    (shapely : contents.Shapely world.cache) (alone : world.loads.slot = none) :
    operation.Adds (countedIn (d.eventsOf operation world)) ∧
      contents.Shapely (d.ask operation world).2.cache ∧
        (d.ask operation world).2.loads.slot = none := by
  by_cases looks : operation.IsLookup
  · have start : Solo contents [] world := ⟨shapely, alone, fun _ joined => nomatch joined⟩
    obtain ⟨⟨counts, adds, counted⟩, solo⟩ :=
      (Operation.keepsTo_adds d.options looks).run_of_forall
        (fun past q now solo allowed => ⟨solo.granted meter allowed, solo.handler allowed⟩) start
    obtain rfl : countedIn (d.eventsOf operation world) = counts := counted.counts
    exact ⟨adds, solo.shapely, solo.slot.trans counted.joined⟩
  · -- what does not look writes nothing, and asks for nothing that acts on the loads
    have step (past : List Event) (q : Request) (now : World σ)
        (kept : contents.Shapely now.cache ∧ now.loads.slot = none)
        (allowed : operation.upkeepAllows past q) :
        contents.Shapely (d.handler q now).2.cache ∧ (d.handler q now).2.loads.slot = none := by
      constructor
      · refine shapely_handler kept.1 ?_
        rintro key value seconds rfl
        exact allowed.elim
      · rw [Deployment.loads_handler]
        · exact kept.2
        · cases q <;> first | exact allowed.elim | exact id
    have nothing : countedIn (d.eventsOf operation world) = [] :=
      countedIn_eq_nil fun event mem => (silent_upkeep looks).allowed_of_mem_trace mem
    rw [nothing]
    exact ⟨.upkeep looks, Deployment.upkeep_induction looks step ⟨shapely, alone⟩⟩

end

/-! ## Balance -/

/-- Whether an operation looks a path up. -/
def Operation.findsRoute : Operation → Bool
  | .resolve _ | .permits _ _ => true
  | _ => false

/-- Whether an operation wants the list of routes. -/
def Operation.listsRoutes : Operation → Bool
  | .routes => true
  | _ => false

/-- The counts fit together, and with the number of lookups of a path and of the list. -/
structure Balanced (paths lists : Nat) (counts : List Observation) : Prop where
  /-- lookups that end with a hit, and hits of the cache -/
  hits : counts.count (.lookup .cacheHit) = counts.count (.cacheRead .single true)
  /-- lookups that end in another way, and misses of the cache -/
  misses : counts.count (.lookup .patternMatch) + counts.count (.lookup .notFound) +
    counts.count (.lookup .failed) = counts.count (.cacheRead .single false)
  /-- all lookups of a path -/
  paths : counts.count (.cacheRead .single true) + counts.count (.cacheRead .single false) = paths
  /-- reads of the list, and what wants it -/
  lists : counts.count (.cacheRead .list true) + counts.count (.cacheRead .list false) =
    counts.count (.cacheRead .single false) + lists
  /-- loads of the list, and misses of the list -/
  loads : counts.count .load = counts.count (.cacheRead .list false)

theorem balanced_nil : Balanced 0 0 [] := ⟨rfl, rfl, rfl, rfl, rfl⟩

theorem Balanced.append {paths paths' lists lists' : Nat} {counts counts' : List Observation}
    (first : Balanced paths lists counts) (second : Balanced paths' lists' counts') :
    Balanced (paths + paths') (lists + lists') (counts ++ counts') := by
  obtain ⟨hits, misses, ofPaths, ofLists, loads⟩ := first
  obtain ⟨hits', misses', ofPaths', ofLists', loads'⟩ := second
  constructor <;> simp only [List.count_append] <;> omega

theorem CountedUntil.balanced {outcome : Outcome} {looked : List Observation}
    (before : CountedUntil outcome looked) : Balanced 1 0 (looked ++ [.lookup outcome]) := by
  cases before with
  | hit => exact ⟨rfl, rfl, rfl, rfl, rfl⟩
  | miss missed hit =>
    cases outcome with
    | cacheHit => exact absurd rfl missed
    | _ => cases hit <;> exact ⟨rfl, rfl, rfl, rfl, rfl⟩

/-- What an operation adds is balanced. -/
theorem Operation.Adds.balanced {operation : Operation} {counts : List Observation}
    (adds : operation.Adds counts) :
    Balanced operation.findsRoute.toNat operation.listsRoutes.toNat counts := by
  cases adds with
  | routes hit => cases hit <;> exact ⟨rfl, rfl, rfl, rfl, rfl⟩
  | resolve before => exact before.balanced
  | permits before => exact before.balanced
  | upkeep changes =>
    cases operation with
    | routes | resolve _ | permits _ _ => exact absurd trivial changes
    | _ => exact balanced_nil

/-! ## Whole runs -/

/-- The events of some calls. -/
def eventsOfCalls (calls : List Call) : List Event :=
  calls.flatMap Call.events

theorem eventsOfCalls_append (calls : List Call) (call : Call) :
    eventsOfCalls (calls ++ [call]) = eventsOfCalls calls ++ call.events := by
  simp [eventsOfCalls]

section

variable {d : Deployment σ} {contents : d.cache.Contents} {meter : d.cache.Meter}
  {calls : List Call} {world : World σ}

/-- After some calls the counts are those of their events, and balance. -/
structure InBalance (contents : d.cache.Contents) (meter : d.cache.Meter) (calls : List Call)
    (world : World σ) : Prop where
  /-- values have the right shape -/
  shapely : contents.Shapely world.cache
  /-- no load is left behind -/
  alone : world.loads.slot = none
  /-- the counts are those of the events -/
  agrees : meter.Agrees (eventsOfCalls calls) world
  /-- and they balance -/
  balanced : Balanced (calls.countP (·.operation.findsRoute))
    (calls.countP (·.operation.listsRoutes)) (countedIn (eventsOfCalls calls))

/-- **One operation** keeps the balance. -/
theorem InBalance.ask (balance : InBalance contents meter calls world) (operation : Operation) :
    InBalance contents meter (calls ++ [d.call operation world]) (d.ask operation world).2 := by
  obtain ⟨adds, shapely, alone⟩ :=
    operation.adds_ask contents meter balance.shapely balance.alone
  have single (test : Operation → Bool) :
      [d.call operation world].countP (fun call => test call.operation) =
        (test operation).toNat := by
    rw [List.countP_singleton]
    change (if test operation = true then 1 else 0) = _
    cases test operation <;> rfl
  refine ⟨shapely, alone, ?_, ?_⟩
  · rw [eventsOfCalls_append]
    exact balance.agrees.run _
  · rw [eventsOfCalls_append, countedIn_append, List.countP_append, List.countP_append,
      single Operation.findsRoute, single Operation.listsRoutes]
    exact balance.balanced.append adds.balanced

/-- **A whole run** keeps it, too. -/
theorem InBalance.course {happenings : List (Happening σ)}
    (balance : InBalance contents meter calls world)
    (rests : d.Along (fun now happening => contents.OnlyLoses now happening ∧
      meter.Rests now happening) world happenings) :
    InBalance contents meter (calls ++ d.calls world happenings)
      (d.course world happenings) := by
  have pause (past : List Call) (now : World σ) (nanoseconds : Nat) (cache : σ)
      (rests : contents.OnlyLoses now (.pause nanoseconds cache) ∧
        meter.Rests now (.pause nanoseconds cache))
      (balance : InBalance contents meter past now) :
      InBalance contents meter past (d.meet now (.pause nanoseconds cache)) := by
    obtain ⟨loses, reads⟩ := rests
    refine ⟨fun key value held => ?_, balance.alone, ?_, balance.balanced⟩
    · exact balance.shapely key value (loses key value held)
    · exact ⟨fun kind hit => (reads kind hit).trans (balance.agrees.reads kind hit),
        balance.agrees.lookups, balance.agrees.loads⟩
  have outage (past : List Call) (now : World σ) (reason : Option String)
      (_ : contents.OnlyLoses now (.outage reason) ∧ meter.Rests now (.outage reason))
      (balance : InBalance contents meter past now) :
      InBalance contents meter past (d.meet now (.outage reason)) :=
    ⟨balance.shapely, balance.alone,
      ⟨balance.agrees.reads, balance.agrees.lookups, balance.agrees.loads⟩, balance.balanced⟩
  exact rests.log (fun _ _ operation _ balance => balance.ask operation) outage pause balance

end

/-- **Metrics add up.** Over a cache that is empty at first, never fails to be read and observes its
reads, whatever it takes in and whenever it loses what, and over a table that may get out of reach
and refuse things, let a service be asked anything in any order, with loads shared or not. Then the
lookups that were counted as hits are the cache's hits of single routes; the others sum up to its
misses; all of them are the calls that looked a path up; the list was read once for each miss of a
route and for each call that wants the list; and it was loaded once for each time that it was
missed. What does not look adds to none of these. -/
theorem metrics_add_up (d : Deployment σ) (contents : d.cache.Contents) (meter : d.cache.Meter)
    (table : Table) (cache : σ) (memo : Memo) (happenings : List (Happening σ))
    (empty : ∀ key value, ¬ contents.holds cache key value)
    (unread : ∀ kind hit, meter.reads cache kind hit = 0)
    (rests : d.Along (fun now happening => contents.OnlyLoses now happening ∧
      meter.Rests now happening) (World.start table cache memo) happenings) :
    let now := d.course (World.start table cache memo) happenings
    let calls := d.calls (World.start table cache memo) happenings
    let totals := meter.totals now.cache
    lookupCount now.observed .cacheHit = totals.routeHits ∧
      lookupCount now.observed .patternMatch + lookupCount now.observed .notFound +
        lookupCount now.observed .failed = totals.routeMisses ∧
      lookupCount now.observed .cacheHit + lookupCount now.observed .patternMatch +
        lookupCount now.observed .notFound + lookupCount now.observed .failed =
          calls.countP (·.operation.findsRoute) ∧
      totals.listHits + totals.listMisses =
        totals.routeMisses + calls.countP (·.operation.listsRoutes) ∧
      loadCount now.observed = totals.listMisses ∧
      ∀ operation : Operation, ¬ operation.IsLookup →
        let later := (d.ask operation now).2
        meter.totals later.cache = totals ∧
          (∀ outcome, lookupCount later.observed outcome = lookupCount now.observed outcome) ∧
          loadCount later.observed = loadCount now.observed := by
  intro now calls totals
  have start : InBalance contents meter [] (World.start table cache memo) :=
    ⟨fun key value held => absurd held (empty key value), rfl,
      ⟨unread, fun _ => rfl, rfl⟩, balanced_nil⟩
  have balance : InBalance contents meter calls now := start.course rests
  obtain ⟨hits, misses, paths, lists, loads⟩ := balance.balanced
  -- each count is the one of the same observation among the events
  rw [← balance.agrees.lookups, ← balance.agrees.reads] at hits
  rw [← balance.agrees.lookups, ← balance.agrees.lookups, ← balance.agrees.lookups,
    ← balance.agrees.reads] at misses
  rw [← balance.agrees.reads, ← balance.agrees.reads] at paths
  rw [← balance.agrees.reads, ← balance.agrees.reads, ← balance.agrees.reads] at lists
  rw [← balance.agrees.loads, ← balance.agrees.reads] at loads
  refine ⟨hits, misses, by omega, lists, loads, ?_⟩
  intro operation changes later
  have after : InBalance contents meter (calls ++ [d.call operation now]) later :=
    balance.ask operation
  refine balance.agrees.eq_of_counted after.agrees ?_
  have nothing : countedIn (d.eventsOf operation now) = [] :=
    countedIn_eq_nil fun event mem => (operation.silent_upkeep changes).allowed_of_mem_trace mem
  rw [eventsOfCalls_append, countedIn_append]
  exact (congrArg _ nothing).trans (List.append_nil _)

/-! ## The cache with a clock -/

namespace TimedCache

/-- One state of the cache comes of another by losing entries, without being read. -/
structure LosesTo (before after : TimedCache) : Prop where
  /-- what is held was held -/
  held {key : Key} {entry : TimedEntry} (held : after.held.find? key = some entry) :
    before.held.find? key = some entry
  /-- there was no read -/
  reads : after.observed.filter Observation.isRead = before.observed.filter Observation.isRead

theorem LosesTo.refl (cache : TimedCache) : cache.LosesTo cache := ⟨id, rfl⟩

theorem LosesTo.trans {first second third : TimedCache} (one : first.LosesTo second)
    (two : second.LosesTo third) : first.LosesTo third :=
  ⟨fun held => one.held (two.held held), two.reads.trans one.reads⟩

theorem losesTo_drop (cache : TimedCache) (key : Key) (reason : RemovalReason) :
    cache.LosesTo (cache.drop key reason) where
  held := by
    intro other entry held
    by_cases same : other = key
    · subst same
      rw [find?_drop_self] at held
      cases held
    · rw [find?_drop_of_ne same] at held
      exact held
  reads := by
    rw [drop]
    split <;> rfl

theorem losesTo_dropExpired (cache : TimedCache) : cache.LosesTo cache.dropExpired := by
  -- the entries that are gone through stay the same, so the induction is over any of them
  suffices general : ∀ (entries : Entries TimedEntry) (now : TimedCache), now.LosesTo
      (entries.foldl (fun cache entry =>
        if cache.isLive entry.2 then cache else cache.drop entry.1 .expired) now) from
    general cache.held cache
  intro entries
  induction entries with
  | nil => exact LosesTo.refl
  | cons entry entries ih =>
    intro now
    refine LosesTo.trans ?_ (ih _)
    dsimp only
    split
    · exact LosesTo.refl now
    · exact losesTo_drop now entry.1 .expired

/-- Time and sweeps only take entries away. -/
theorem losesTo_sweep (cache : TimedCache) (nanoseconds : Nat) :
    cache.LosesTo (cache.advance nanoseconds).sweep := by
  have swept : cache.LosesTo
      { cache.advance nanoseconds with swept := (cache.advance nanoseconds).now } := ⟨id, rfl⟩
  rw [sweep]
  split
  · exact swept.trans (losesTo_dropExpired _)
  · exact swept

end TimedCache

/-- A pause at whose end the cache is swept. -/
def sweptPause (world : World TimedCache) (nanoseconds : Nat) : Happening TimedCache :=
  .pause nanoseconds (world.cache.advance nanoseconds).sweep

theorem rests_sweptPause (world : World TimedCache) (nanoseconds : Nat) :
    timedContents.OnlyLoses world (sweptPause world nanoseconds) ∧
      timedMeter.Rests world (sweptPause world nanoseconds) := by
  have loses := world.cache.losesTo_sweep nanoseconds
  constructor
  · rintro key value ⟨entry, held, same⟩
    exact ⟨entry, loses.held held, same⟩
  · intro kind hit
    rw [timedMeter.reads_eq, timedMeter.reads_eq]
    exact congrArg _ loses.reads

/-- A path is looked up twice, and the list once; then the table gets out of reach. -/
def lookedUpTwice : List (Happening TimedCache) :=
  [.asked (.resolve "/users/42"), .asked (.resolve "/users/42"), .asked .routes,
    .outage (some "away"), .asked .clear]

/-- Lookups that find nothing; later the table is back, and there are more lookups. -/
def lookedUpLater : List (Happening TimedCache) :=
  [.asked (.resolve "/users/42"), .asked .routes, .outage none, .asked (.delete "/users/:id"),
    .asked (.permits "/users/42" "GET")]

/-- A cache with room for one entry takes the list in, and then it is full. Hours later even that is
gone. What was counted in the end adds up. -/
theorem small_cache_adds_up :
    let d : Deployment TimedCache := { cache := timedCache, options := { sharedLoads := true } }
    let start := World.start (.single (userRoute "http://old")) (.empty 1) (.empty 100 1000)
    let happenings :=
      lookedUpTwice ++ sweptPause (d.course start lookedUpTwice) (10000 * nanosecondsPerSecond) ::
        lookedUpLater
    let now := d.course start happenings
    timedMeter.totals now.cache = ⟨2, 4, 0, 4⟩ ∧
      lookupCount now.observed .patternMatch + lookupCount now.observed .notFound +
        lookupCount now.observed .failed = 4 ∧
      loadCount now.observed = 4 := by
  intro d start happenings now
  have rests : d.Along (fun now happening => timedContents.OnlyLoses now happening ∧
      timedMeter.Rests now happening) start happenings := by
    refine Deployment.Along.append ?_ ⟨rests_sweptPause _ _, ?_⟩
    · exact ⟨⟨trivial, trivial⟩, ⟨trivial, trivial⟩, ⟨trivial, trivial⟩, ⟨trivial, trivial⟩,
        ⟨trivial, trivial⟩, trivial⟩
    · exact ⟨⟨trivial, trivial⟩, ⟨trivial, trivial⟩, ⟨trivial, trivial⟩, ⟨trivial, trivial⟩,
        ⟨trivial, trivial⟩, trivial⟩
  obtain ⟨-, misses, -, -, loads, -⟩ := metrics_add_up d timedContents timedMeter
    (.single (userRoute "http://old")) (.empty 1) (.empty 100 1000) happenings
    (fun _ _ ⟨_, held, _⟩ => nomatch held) (fun _ _ => rfl) rests
  have totals : timedMeter.totals now.cache = ⟨2, 4, 0, 4⟩ := by decide +kernel
  exact ⟨totals, misses.trans (congrArg CacheTotals.routeMisses totals),
    loads.trans (congrArg CacheTotals.listMisses totals)⟩

end GatewayRouting
