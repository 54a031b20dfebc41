import GatewayRouting.Proofs.Invalidation

/-!
# Answers that last

A path that was resolved has an entry of its own, and from then on the entry is the answer: the very
route that was found, with the counters that it had, without a question to the table or a test of a
pattern. Meanwhile the list can be reloaded with newer counters, other paths can be answered by the
same route, calls can be recorded for it, and the table can get out of reach or refuse things; a
clearing that is refused has even erased the list. None of that touches this one entry. Only a
change or a clearing that is done does.

All that is asked of the cache is that it keeps its entries (`Deployment.CacheKeeps`): what could be
read under a key can be read until the key itself is written or erased, and what is written can be
read. The cache with a clock does so as long as it has room and nothing's time is over.
-/

namespace GatewayRouting

variable {σ : Type}

/-! ## Caches that keep their entries -/

/-- The key whose entry a request writes or erases. -/
def Request.touched : Request → Option Key
  | .writeCache key _ _ => some key
  | .eraseCache key => some key
  | _ => none

/-- Reading a key would find a value. -/
def CacheBackend.Finds (backend : CacheBackend σ) (cache : σ) (key : Key) (value : Cached) : Prop :=
  (backend.read cache key).1 = .ok (some value)

/-- What could be found before can be found afterwards, except perhaps under a key that was
touched. -/
def CacheBackend.KeepsBut (backend : CacheBackend σ) (touched : Option Key) (before after : σ) :
    Prop :=
  ∀ key value, touched ≠ some key → backend.Finds before key value → backend.Finds after key value

namespace Deployment

/-- The cache keeps its entries while a request is answered. -/
structure KeepsEntries (d : Deployment σ) (q : Request) (world : World σ) : Prop where
  /-- it keeps those that the request does not touch -/
  others : d.cache.KeepsBut q.touched world.cache (d.handler q world).2.cache
  /-- and the one that the request writes -/
  written {key : Key} {value : Cached} {seconds : UInt64}
    (writes : q = .writeCache key value seconds) :
    d.cache.Finds (d.handler q world).2.cache key value

/-- The cache keeps its entries, whatever happens. -/
def CacheKeeps (d : Deployment σ) (world : World σ) : Happening σ → Prop
  | .asked operation => (operation.program d.options).Always d.handler d.KeepsEntries world
  | .outage _ => True
  | .pause _ cache => d.cache.KeepsBut none world.cache cache

variable {d : Deployment σ} {world : World σ} {key : Key} {value : Cached} {α : Type}
  {program : Program α}

/-- A run that does not touch a key leaves its entry there. -/
theorem finds_run (always : program.Always d.handler d.KeepsEntries world)
    (leaves : ∀ event ∈ program.trace d.handler world, event.request.touched ≠ some key)
    (finds : d.cache.Finds world.cache key value) :
    d.cache.Finds (program.run d.handler world).2.cache key value := by
  induction program generalizing world with
  | done result => exact finds
  | ask q next ih =>
    obtain ⟨leaves, leave⟩ := List.forall_mem_cons.mp leaves
    have kept : d.cache.Finds (d.handler q world).2.cache key value :=
      always.1.others key value leaves finds
    exact ih _ always.2 leave kept

theorem KeepsEntries.finds {q : Request} (keeps : d.KeepsEntries q world)
    (untouched : q.touched = none) (finds : d.cache.Finds world.cache key value) :
    d.cache.Finds (d.handler q world).2.cache key value := by
  refine keeps.others key value (fun touches => ?_) finds
  rw [untouched] at touches
  cases touches

end Deployment

/-- Over a cache that keeps its entries, a program ends with something right. -/
def EndsRight (d : Deployment σ) (world : World σ) {α : Type} (program : Program α)
    (right : α → World σ → Prop) : Prop :=
  program.Always d.handler d.KeepsEntries world →
    right (program.run d.handler world).1 (program.run d.handler world).2

section

variable {α β : Type} {d : Deployment σ} {world : World σ} {program : Program α}
  {middle : α → World σ → Prop} {right : β → World σ → Prop}

theorem EndsRight.bind {next : α → Program β} (first : EndsRight d world program middle)
    (rest : ∀ value now, middle value now → EndsRight d now (next value) right) :
    EndsRight d world (program.bind next) right := by
  intro always
  rw [Program.always_bind] at always
  rw [Program.run_bind]
  exact rest _ _ (first always.1) always.2

theorem EndsRight.ask {q : Request} {next : q.Reply → Program β}
    (rest : d.KeepsEntries q world →
      EndsRight d (d.handler q world).2 (next (d.handler q world).1) right) :
    EndsRight d world (.ask q next) right :=
  fun always => rest always.1 always.2

theorem endsRight_done {value : β} (ends : right value world) :
    EndsRight d world (.done value) right :=
  fun _ => ends

theorem endsRight_any : EndsRight d world program fun _ _ => True :=
  fun _ => trivial

end

/-! ## What a lookup touches -/

/-- A request touches the list and the entry of a path, if it touches anything. -/
def Request.Minds (path : String) (q : Request) : Prop :=
  ∀ key, q.touched = some key → key = .list ∨ key = .single path

theorem Request.minds_of_untouched {path : String} {q : Request} (untouched : q.touched = none) :
    q.Minds path := by
  intro key touches
  rw [untouched] at touches
  cases touches

theorem Request.Minds.eq_of_single {path other : String} {q : Request} (minds : q.Minds other)
    (touches : q.touched = some (.single path)) : other = path := by
  obtain list | own := minds _ touches
  · cases list
  · exact (Key.single.inj own).symm

namespace Service

open Program

variable {d : Deployment σ} {world : World σ} {options : Options} {path : String} {route : Route}
  {outcome : Outcome}

theorem untouched_cachedRoute : (cachedRoute path).Asks fun q => q.touched = none :=
  asks_cachedAs rfl fun _ => rfl

theorem minds_firstAccepting (routes : List Route) :
    (firstAccepting path routes).Asks (Request.Minds path) := by
  induction routes with
  | nil => trivial
  | cons route routes ih =>
    refine ⟨Request.minds_of_untouched rfl, fun accepted => ?_⟩
    cases accepted with
    | true => trivial
    | false => exact ih

theorem minds_scan (routes : List Route) :
    (scan options path routes).Asks (Request.Minds path) := by
  refine (minds_firstAccepting routes).bind fun found => ?_
  cases found with
  | none => trivial
  | some route =>
    have writes (value : Cached) (seconds : UInt64) :
        Request.Minds path (.writeCache (.single path) value seconds) :=
      fun key touches => .inr (Option.some.inj touches).symm
    refine (asks_store writes fun _ => Request.minds_of_untouched rfl).bind fun _ => ?_
    exact ⟨Request.minds_of_untouched rfl, fun _ => trivial⟩

/-- Getting at the list touches no entry but the list. -/
theorem touches_list :
    (routes options).Asks fun q => ∀ key, q.touched = some key → key = .list := by
  refine asks_routes_of ?_ ?_ ?_ ?_ ?_
  · exact fun key touches => nomatch touches
  · intro q shares key touches
    cases q <;> first | exact shares.elim | cases touches
  · exact fun observation key touches => nomatch touches
  · exact fun key touches => nomatch touches
  · exact fun value seconds key touches => (Option.some.inj touches).symm

theorem minds_lookUp : (lookUp options path).Asks (Request.Minds path) := by
  have reads : (cachedRoute path).Asks (Request.Minds path) :=
    asks_cachedAs (Request.minds_of_untouched rfl) fun _ => Request.minds_of_untouched rfl
  have lists : (routes options).Asks (Request.Minds path) :=
    Asks.mono touches_list fun q lists key touches => .inl (lists key touches)
  refine reads.bind fun found => ?_
  cases found with
  | some route => trivial
  | none =>
    refine lists.bind fun result => ?_
    cases result with
    | ok routes => exact minds_scan routes
    | error error => trivial

theorem minds_resolve : (resolve options path).Asks (Request.Minds path) :=
  minds_lookUp.bind fun _ => ⟨Request.minds_of_untouched rfl, fun _ => trivial⟩

/-! ## A hit -/

theorem run_cachedRoute_of_finds
    (finds : d.cache.Finds world.cache (.single path) (.single route)) :
    ((cachedRoute path).run d.handler world).1 = some route ∧
      (cachedRoute path).trace d.handler world =
        [⟨.readCache (.single path), .ok (some (.single route))⟩] := by
  have replied : (d.handler (.readCache (.single path)) world).1 = .ok (some (.single route)) :=
    finds
  rw [cachedRoute, cachedAs, bind_eq, cached, bind_eq, request_bind, bind_ask, run_ask, trace_ask,
    replied]
  exact ⟨rfl, rfl⟩

/-- What is read comes from the entry. -/
theorem finds_of_cachedRoute (read : ((cachedRoute path).run d.handler world).1 = some route) :
    d.cache.Finds world.cache (.single path) (.single route) := by
  rw [cachedRoute, cachedAs, bind_eq, cached, bind_eq, request_bind, bind_ask, run_ask] at read
  change (d.handler (.readCache (.single path)) world).1 = _
  cases replied : (d.handler (.readCache (.single path)) world).1 with
  | error error =>
    rw [replied] at read
    cases read
  | ok found =>
    rw [replied] at read
    obtain _ | single | list := found
    · cases read
    · cases read
      rfl
    · cases read

/-- **A hit.** A path whose entry is there is answered by it, and nothing else is asked for. -/
theorem resolve_of_finds (options : Options)
    (finds : d.cache.Finds world.cache (.single path) (.single route)) :
    ((resolve options path).run d.handler world).1 = .ok route ∧
      (resolve options path).trace d.handler world =
        [⟨.readCache (.single path), .ok (some (.single route))⟩,
          ⟨.note (.lookup .cacheHit), ()⟩] := by
  obtain ⟨found, events⟩ := run_cachedRoute_of_finds finds
  rw [resolve, bind_eq, lookUp, bind_eq, bind_assoc, run_bind, trace_bind, found, events]
  exact ⟨rfl, rfl⟩

/-! ## A miss -/

/-- What is written can be found. -/
theorem finds_store {key : Key} {value : Cached} :
    EndsRight d world (store options key value) fun _ now =>
      d.cache.Finds now.cache key value := by
  refine EndsRight.ask fun keeps => ?_
  have written := keeps.written rfl
  cases (d.handler (.writeCache key value options.ttlSeconds) world).1 with
  | ok done => exact endsRight_done written
  | error error => exact EndsRight.ask fun keeps => endsRight_done (keeps.finds rfl written)

/-- The route that a lookup ends with can be found under its path. -/
def FoundUnder (d : Deployment σ) (path : String)
    (result : Except LookupError (Route × Outcome)) (now : World σ) : Prop :=
  ∀ route outcome, result = .ok (route, outcome) →
    d.cache.Finds now.cache (.single path) (.single route)

theorem foundUnder_error {error : LookupError} : FoundUnder d path (.error error) world :=
  fun _ _ found => nomatch found

theorem foundUnder_ok (finds : d.cache.Finds world.cache (.single path) (.single route)) :
    FoundUnder d path (.ok (route, outcome)) world := by
  rintro _ _ ⟨⟩
  exact finds

theorem finds_scan (routes : List Route) :
    EndsRight d world (scan options path routes) (FoundUnder d path) := by
  refine EndsRight.bind endsRight_any ?_
  rintro (_ | route) now -
  · exact endsRight_done foundUnder_error
  · refine EndsRight.bind finds_store ?_
    intro _ now finds
    exact EndsRight.ask fun keeps => endsRight_done (foundUnder_ok (keeps.finds rfl finds))

theorem finds_lookUp : EndsRight d world (lookUp options path) (FoundUnder d path) := by
  have reads : EndsRight d world (cachedRoute path) fun found now => ∀ route,
      found = some route → d.cache.Finds now.cache (.single path) (.single route) := by
    intro always route read
    refine Deployment.finds_run always ?_ (finds_of_cachedRoute read)
    intro event mem touches
    rw [untouched_cachedRoute.allowed_of_mem_trace mem] at touches
    cases touches
  refine EndsRight.bind reads ?_
  rintro (_ | route) now finds
  · refine EndsRight.bind endsRight_any ?_
    rintro (error | routes) later -
    · exact endsRight_done foundUnder_error
    · exact finds_scan routes
  · exact endsRight_done (foundUnder_ok (finds route rfl))

/-- A path that was resolved has an entry afterwards. -/
theorem finds_resolve : EndsRight d world (resolve options path) fun result now =>
    ∀ route, result = .ok route → d.cache.Finds now.cache (.single path) (.single route) := by
  refine EndsRight.bind finds_lookUp ?_
  intro result now found
  refine EndsRight.ask fun keeps => endsRight_done ?_
  obtain error | ⟨route, outcome⟩ := result
  · exact fun _ found => nomatch found
  · rintro _ ⟨⟩
    exact keeps.finds rfl (found route outcome rfl)

end Service

/-! ## Whole runs -/

/-- The operations that look a path up. -/
def Operation.LooksFor (path : String) : Operation → Prop
  | .resolve other | .permits other _ => other = path
  | _ => False

namespace Deployment

variable {d : Deployment σ} {world : World σ} {operation : Operation} {path : String}
  {route : Route} {happenings : List (Happening σ)}

/-- The entry of a path is touched by those who look the path up, and by changes and clearings that
are done, and by nobody else. -/
theorem looksFor_or_renews_of_touched {event : Event}
    (mem : event ∈ d.eventsOf operation world)
    (touches : event.request.touched = some (.single path)) :
    operation.LooksFor path ∨ (d.call operation world).renews = true := by
  by_cases looks : operation.IsLookup
  · left
    cases operation with
    | routes =>
      have lists : (Operation.routes.program d.options).Asks
          fun q => ∀ key, q.touched = some key → key = .list :=
        Service.touches_list.bind fun _ => trivial
      cases lists.allowed_of_mem_trace mem _ touches
    | resolve other =>
      have minds : ((Operation.resolve other).program d.options).Asks (Request.Minds other) :=
        Service.minds_resolve.bind fun _ => trivial
      exact (minds.allowed_of_mem_trace mem).eq_of_single touches
    | permits other method =>
      have minds : (Service.permits d.options other method).Asks (Request.Minds other) :=
        Service.minds_resolve.bind fun _ => trivial
      have minds : ((Operation.permits other method).program d.options).Asks
          (Request.Minds other) := minds.bind fun _ => trivial
      exact (minds.allowed_of_mem_trace mem).eq_of_single touches
    | _ => exact looks.elim
  · right
    -- what does not look writes nothing, and what is not done erases at most the list
    obtain ⟨past, allowed⟩ := (Operation.keepsTo_upkeep looks).allowed_of_mem_trace
      (fun _ _ => granted_handler) mem
    obtain ⟨q, reply⟩ := event
    cases q with
    | eraseCache key =>
      obtain rfl : key = .single path := Option.some.inj touches
      have erased : .single path ∈ erasures (d.eventsOf operation world) :=
        List.mem_filterMap.mpr ⟨_, mem, rfl⟩
      cases renews : (d.call operation world).renews with
      | true => rfl
      | false =>
        rw [((d.erases_ask operation world).otherwise renews).1] at erased
        split at erased
        · cases List.mem_singleton.mp erased
        · cases erased
    | writeCache key value seconds => exact allowed.elim
    | _ => cases touches

/-- A hit asks for nothing but the entry, and says so. -/
theorem eventsOf_of_finds (looks : operation.LooksFor path)
    (finds : d.cache.Finds world.cache (.single path) (.single route)) :
    d.eventsOf operation world =
      [⟨.readCache (.single path), .ok (some (.single route))⟩,
        ⟨.note (.lookup .cacheHit), ()⟩] := by
  have events := (Service.resolve_of_finds d.options finds).2
  cases operation with
  | resolve other =>
    obtain rfl : other = path := looks
    rw [eventsOf, Operation.program, Program.bind_eq, Program.trace_bind, events]
    rfl
  | permits other method =>
    obtain rfl : other = path := looks
    rw [eventsOf, Operation.program, Program.bind_eq, Service.permits, Program.bind_eq,
      Program.trace_bind, Program.trace_bind, events]
    rfl
  | _ => exact looks.elim

theorem answer_of_finds (finds : d.cache.Finds world.cache (.single path) (.single route)) :
    (d.ask (.resolve path) world).1 = .route (.ok route) := by
  rw [ask, Operation.program, Program.bind_eq, Program.run_bind,
    (Service.resolve_of_finds d.options finds).1]
  rfl

/-- A path that was resolved has an entry afterwards. -/
theorem finds_of_resolved (keeps : d.CacheKeeps world (.asked (.resolve path)))
    (resolved : (d.ask (.resolve path) world).1 = .route (.ok route)) :
    d.cache.Finds (d.ask (.resolve path) world).2.cache (.single path) (.single route) := by
  have ends : EndsRight d world ((Operation.resolve path).program d.options) fun answer now =>
      ∀ route, answer = .route (.ok route) →
        d.cache.Finds now.cache (.single path) (.single route) := by
    refine EndsRight.bind Service.finds_resolve ?_
    intro result now found
    refine endsRight_done fun route resolved => ?_
    exact found route (Answer.route.inj resolved)
  exact ends keeps route resolved

/-- **One step.** An entry stays, unless a change or a clearing is done. -/
theorem finds_ask (keeps : d.CacheKeeps world (.asked operation))
    (finds : d.cache.Finds world.cache (.single path) (.single route)) :
    (d.call operation world).renews = true ∨
      d.cache.Finds (d.ask operation world).2.cache (.single path) (.single route) := by
  by_cases renews : (d.call operation world).renews = true
  · exact .inl renews
  · refine .inr (finds_run keeps (fun event mem touches => ?_) finds)
    obtain looks | renewed := looksFor_or_renews_of_touched mem touches
    · -- the path is looked up, but that is a hit
      change event ∈ d.eventsOf operation world at mem
      rw [eventsOf_of_finds looks finds] at mem
      obtain rfl | mem := List.mem_cons.mp mem
      · cases touches
      · rw [List.mem_singleton.mp mem] at touches
        cases touches
    · exact renews renewed

/-- **A whole run.** An entry stays, unless a change or a clearing is done. -/
theorem finds_course (keeps : d.Along d.CacheKeeps world happenings)
    (finds : d.cache.Finds world.cache (.single path) (.single route)) :
    (∃ call ∈ d.calls world happenings, call.renews = true) ∨
      d.cache.Finds (d.course world happenings).cache (.single path) (.single route) := by
  have asked (past : List Call) (now : World σ) (operation : Operation)
      (keeps : d.CacheKeeps now (.asked operation))
      (stays : (∃ call ∈ past, call.renews = true) ∨
        d.cache.Finds now.cache (.single path) (.single route)) :
      (∃ call ∈ past ++ [d.call operation now], call.renews = true) ∨
        d.cache.Finds (d.ask operation now).2.cache (.single path) (.single route) := by
    obtain ⟨call, mem, renews⟩ | finds := stays
    · exact .inl ⟨call, List.mem_append_left _ mem, renews⟩
    · obtain renews | finds := finds_ask keeps finds
      · exact .inl ⟨_, List.mem_append_right _ (List.mem_singleton_self _), renews⟩
      · exact .inr finds
  have pause (past : List Call) (now : World σ) (nanoseconds : Nat) (cache : σ)
      (keeps : d.CacheKeeps now (.pause nanoseconds cache))
      (stays : (∃ call ∈ past, call.renews = true) ∨
        d.cache.Finds now.cache (.single path) (.single route)) :
      (∃ call ∈ past, call.renews = true) ∨
        d.cache.Finds cache (.single path) (.single route) :=
    stays.imp id (keeps _ _ nofun)
  have start : (∃ call ∈ ([] : List Call), call.renews = true) ∨
      d.cache.Finds world.cache (.single path) (.single route) := .inr finds
  exact keeps.log asked (fun _ _ _ _ stays => stays) pause start

end Deployment

/-! ## The cache with a clock -/

namespace TimedCache

variable {cache later : TimedCache} {key other : Key} {value : Cached} {lifetime : Nat}

/-- What is read is what is held, at the time that it is. -/
theorem find?_congr (held : later.held.find? key = cache.held.find? key)
    (now : later.now = cache.now) : later.find? key = cache.find? key := by
  have live : later.isLive = cache.isLive := by
    funext entry
    rw [isLive, isLive, now]
  rw [find?, find?, held, live]

theorem now_takeIn {entry : TimedEntry} : (cache.takeIn key entry).now = cache.now := by
  rw [takeIn]
  split
  · rfl
  · split
    · rfl
    · split <;> rfl

theorem now_drop {reason : RemovalReason} : (cache.drop key reason).now = cache.now := by
  rw [drop]
  split <;> rfl

/-- Whether there is room for a value. -/
def hasRoom (cache : TimedCache) (key : Key) : Bool :=
  0 < cache.capacity && ((cache.held.find? key).isSome || cache.held.length < cache.capacity)

/-- A value for which there is room can be read, if it is to last at all. -/
theorem find?_write_self (room : cache.hasRoom key = true) (lasts : 0 < lifetime) :
    (cache.write key value lifetime).find? key = some value := by
  obtain ⟨some, room⟩ := Bool.and_eq_true_iff.mp room
  have some : cache.capacity ≠ 0 := by
    have := of_decide_eq_true some
    omega
  have held : (cache.takeIn key ⟨value, cache.now + lifetime⟩).held.find? key =
      Option.some ⟨value, cache.now + lifetime⟩ := by
    rw [takeIn, if_neg some]
    split
    · exact Entries.find?_put_self ..
    · rename_i missing
      have free : cache.held.length < cache.capacity := by simpa [missing] using room
      rw [if_pos free]
      exact Entries.find?_put_self ..
  have live : cache.now < cache.now + lifetime := by omega
  have now : (cache.takeIn key ⟨value, cache.now + lifetime⟩).now = cache.now := now_takeIn
  have same : (cache.write key value lifetime).find? key =
      (cache.takeIn key ⟨value, cache.now + lifetime⟩).find? key := find?_congr rfl rfl
  rw [same, find?, held]
  simp [isLive, now, live]

theorem find?_write_of_ne (ne : other ≠ key) :
    (cache.write key value lifetime).find? other = cache.find? other :=
  find?_congr (find?_takeIn_of_ne ne) now_takeIn

theorem find?_erase_of_ne (ne : other ≠ key) : (cache.erase key).find? other = cache.find? other :=
  find?_congr (find?_drop_of_ne ne) now_drop

/-- The cache takes in what is written. -/
def takes : Request → World TimedCache → Bool
  | .writeCache key _ seconds, world =>
    world.cache.hasRoom key && 0 < seconds.toNat * nanosecondsPerSecond
  | _, _ => true

end TimedCache

/-- As long as it takes in what is written, the cache with a clock keeps its entries. -/
theorem keepsEntries_of_takes {accepts : String → String → Bool} {options : Options} {q : Request}
    {world : World TimedCache} (takes : TimedCache.takes q world = true) :
    Deployment.KeepsEntries { cache := timedCache, accepts, options } q world := by
  have finds_iff (cache : TimedCache) (key : Key) (value : Cached) :
      timedCache.Finds cache key value ↔ cache.find? key = some value :=
    ⟨Except.ok.inj, congrArg Except.ok⟩
  constructor
  · intro key value untouched finds
    rw [finds_iff] at finds ⊢
    rw [← finds]
    by_cases asksTable : q = .listRoutes ∨ q.ChangesTable
    · rw [Deployment.handler_snd_of_table asksTable]
    · cases q with
      | readCache other => exact TimedCache.find?_congr rfl rfl
      | writeCache other new seconds =>
        exact TimedCache.find?_write_of_ne fun same => untouched (congrArg some same.symm)
      | eraseCache other =>
        exact TimedCache.find?_erase_of_ne fun same => untouched (congrArg some same.symm)
      | _ => first | rfl | simp [Request.ChangesTable] at asksTable
  · rintro key value seconds rfl
    obtain ⟨room, lasts⟩ := Bool.and_eq_true_iff.mp takes
    rw [finds_iff]
    exact TimedCache.find?_write_self room (of_decide_eq_true lasts)

/-- The cache with a clock takes in all that is written, and no time passes for it. -/
def Deployment.TakesAll (d : Deployment TimedCache) (world : World TimedCache) :
    Happening TimedCache → Prop
  | .asked operation =>
    (operation.program d.options).Always d.handler (TimedCache.takes · · = true) world
  | .outage _ => True
  | .pause _ cache => cache = world.cache

instance (d : Deployment TimedCache) (world : World TimedCache) :
    (happening : Happening TimedCache) → Decidable (d.TakesAll world happening)
  | .asked operation =>
    inferInstanceAs (Decidable
      ((operation.program d.options).Always d.handler (TimedCache.takes · · = true) world))
  | .outage _ => isTrue trivial
  | .pause _ cache => inferInstanceAs (Decidable (cache = world.cache))

theorem cacheKeeps_of_takesAll {accepts : String → String → Bool} {options : Options}
    {world : World TimedCache} {happening : Happening TimedCache}
    (takes : Deployment.TakesAll { cache := timedCache, accepts, options } world happening) :
    Deployment.CacheKeeps { cache := timedCache, accepts, options } world happening := by
  cases happening with
  | asked operation => exact Program.Always.mono takes fun _ _ => keepsEntries_of_takes
  | outage reason => trivial
  | pause nanoseconds cache =>
    obtain rfl : cache = world.cache := takes
    exact fun _ _ _ finds => finds

/-! ## The result -/

/-- **A resolved path stays resolved until something really changes.** Let a path be resolved over a
cache that keeps its entries, and let anything happen then. Either a change or a clearing is done in
the meantime, or the path is resolved again to the very same route, counters included, whatever the
table has become and whether or not it can be reached: nothing is asked for but the path's own
entry, so no request goes to the table, and no pattern is tested. -/
theorem resolved_path_stays_resolved (d : Deployment σ) (world : World σ) (path : String)
    (route : Route) (happenings : List (Happening σ)) (table : Table) (outage : Option String)
    (keeps : d.Along d.CacheKeeps world (.asked (.resolve path) :: happenings))
    (resolved : (d.ask (.resolve path) world).1 = .route (.ok route)) :
    let since := (d.ask (.resolve path) world).2
    let later := { d.course since happenings with table, outage }
    (∃ call ∈ d.calls since happenings, call.renews = true) ∨
      ((d.ask (.resolve path) later).1 = .route (.ok route) ∧
        d.eventsOf (.resolve path) later =
          [⟨.readCache (.single path), .ok (some (.single route))⟩,
            ⟨.note (.lookup .cacheHit), ()⟩]) := by
  intro since later
  have finds : d.cache.Finds since.cache (.single path) (.single route) :=
    Deployment.finds_of_resolved keeps.1 resolved
  obtain renewed | finds := Deployment.finds_course keeps.2 finds
  · exact .inl renewed
  · have finds : d.cache.Finds later.cache (.single path) (.single route) := finds
    exact .inr ⟨Deployment.answer_of_finds finds, Deployment.eventsOf_of_finds rfl finds⟩

/-- The table gets out of reach and refuses everything, a clearing included; then it is back, calls
are recorded, the list is loaded anew, and another path is answered by the same route. -/
def outageAndRecordedCalls : List (Happening TimedCache) :=
  [.outage (some "away"), .asked .clear, .asked (.update (userRoute "http://new")),
    .asked (.resolve "/users/43"), .outage none, .asked (.recordCalls "/users/:id" 1 20),
    .asked .routes, .asked (.resolve "/users/43"), .asked (.permits "/users/42" "GET")]

/-- By then the other path is answered with the newer counters. But with nothing left in a table
that is out of reach, this path is answered as it was at first. -/
theorem user_stays_resolved :
    let d : Deployment TimedCache := { cache := timedCache }
    let start := World.start (.single (userRoute "http://old")) (.empty 10) (.empty 100 1000)
    let since := (d.ask (.resolve "/users/42") start).2
    let later := { d.course since outageAndRecordedCalls with
      table := {}, outage := some "gone" }
    later.cache.find? (.single "/users/43") =
        some (.single { userRoute "http://old" with callCount := 1, totalResponseTime := 20 }) ∧
      (d.ask (.resolve "/users/42") later).1 = .route (.ok (userRoute "http://old")) := by
  intro d start since later
  have takes : d.Along d.TakesAll start
      (.asked (.resolve "/users/42") :: outageAndRecordedCalls) := by
    decide +kernel
  have keeps : d.Along d.CacheKeeps start
      (.asked (.resolve "/users/42") :: outageAndRecordedCalls) :=
    takes.mono fun _ _ => cacheKeeps_of_takesAll
  refine ⟨by decide +kernel, ?_⟩
  obtain ⟨call, mem, renews⟩ | ⟨answer, -⟩ := resolved_path_stays_resolved d start "/users/42"
    (userRoute "http://old") outageAndRecordedCalls {} (some "gone") keeps rfl
  · have none_renews : ∀ call ∈ d.calls since outageAndRecordedCalls, call.renews = false := by
      decide +kernel
    rw [none_renews call mem] at renews
    cases renews
  · exact answer

end GatewayRouting
