import GatewayRouting.Proofs.Cacheless

/-!
# Caches of no use

A cache of which every call fails, and one that takes everything and retains nothing, have in common
that they never tell a lookup anything. Then a lookup that runs on its own goes all the way: it
loads the list from the table, exactly once, and takes the first match. So the answers are those of
a service without a cache, failures of the table included (`cacheless_of_tellsNothing`), and the two
kinds of caches cannot be told apart by them.

What a program comes to in that case is said by `Yields`, once for each part of a lookup. A lookup
that shares its load has to be alone with it: the slot is empty before and after.
-/

namespace GatewayRouting

variable {σ τ : Type}

namespace CacheBackend

/-- Every call fails. -/
structure AlwaysFails (backend : CacheBackend σ) : Prop where
  /-- reading -/
  read (cache : σ) (key : Key) : ∃ error, (backend.read cache key).1 = .error error
  /-- writing -/
  write (cache : σ) (key : Key) (value : Cached) (seconds : UInt64) :
    ∃ error, (backend.write cache key value seconds).1 = .error error
  /-- erasing -/
  erase (cache : σ) (key : Key) : ∃ error, (backend.erase cache key).1 = .error error

/-- Every call is taken, and nothing is retained. -/
structure RetainsNothing (backend : CacheBackend σ) : Prop where
  /-- reading finds no value -/
  read (cache : σ) (key : Key) : (backend.read cache key).1 = .ok none
  /-- writing -/
  write (cache : σ) (key : Key) (value : Cached) (seconds : UInt64) :
    (backend.write cache key value seconds).1 = .ok ()
  /-- erasing -/
  erase (cache : σ) (key : Key) : (backend.erase cache key).1 = .ok ()

/-- No read finds a value. -/
def TellsNothing (backend : CacheBackend σ) : Prop :=
  ∀ cache key value, (backend.read cache key).1 ≠ .ok (some value)

variable {backend : CacheBackend σ}

theorem AlwaysFails.tellsNothing (fails : backend.AlwaysFails) : backend.TellsNothing := by
  intro cache key value found
  obtain ⟨error, failed⟩ := fails.read cache key
  rw [found] at failed
  cases failed

theorem RetainsNothing.tellsNothing (retains : backend.RetainsNothing) : backend.TellsNothing := by
  intro cache key value found
  rw [retains.read] at found
  cases found

end CacheBackend

/-! ## What a program comes to -/

/-- What asks for nothing of the table's side and of the shared loads. -/
def Request.StaysAside : Request → Prop
  | .listRoutes => False
  | q => ¬ q.ChangesTable ∧ ¬ q.SharesLoad

/-- The answers of the table with its list, in order. -/
def listings (events : List Event) : List (Except StoreError (List Route)) :=
  events.filterMap Event.lists

theorem listings_append (past events : List Event) :
    listings (past ++ events) = listings past ++ listings events :=
  List.filterMap_append

/-- What a program comes to from some world on: it ends with a value, after some answers of the
table with its list, and leaves the table's side and the slot of the shared loads as they were. -/
structure Yields (d : Deployment σ) (world : World σ) {α : Type} (program : Program α) (value : α)
    (lists : List (Except StoreError (List Route))) : Prop where
  /-- what it ends with -/
  value : (program.run d.handler world).1 = value
  /-- the table's side -/
  cacheless : (program.run d.handler world).2.cacheless = world.cacheless
  /-- the slot -/
  slot : (program.run d.handler world).2.loads.slot = world.loads.slot
  /-- what the table answers -/
  lists : listings (program.trace d.handler world) = lists

section

variable {α β : Type} {d : Deployment σ} {world : World σ} {program : Program α} {value : α}
  {lists : List (Except StoreError (List Route))}

theorem yields_done (value : α) : Yields d world (.done value) value [] :=
  ⟨rfl, rfl, rfl, rfl⟩

/-- One program after the other comes to what the second one comes to. -/
theorem Yields.bind {next : α → Program β} {result : β}
    {more : List (Except StoreError (List Route))} (first : Yields d world program value lists)
    (rest : ∀ now : World σ, now.cacheless = world.cacheless →
      now.loads.slot = world.loads.slot → Yields d now (next value) result more) :
    Yields d world (program.bind next) result (lists ++ more) := by
  have rest := rest _ first.cacheless first.slot
  rw [← first.value] at rest
  constructor
  · rw [Program.run_bind]
    exact rest.value
  · rw [Program.run_bind]
    exact rest.cacheless.trans first.cacheless
  · rw [Program.run_bind]
    exact rest.slot.trans first.slot
  · rw [Program.trace_bind, listings_append, first.lists, rest.lists]

/-- After a program that lists nothing, the answers of the table are those of the second one. -/
theorem Yields.then {next : α → Program β} {result : β} (first : Yields d world program value [])
    (rest : ∀ now : World σ, now.cacheless = world.cacheless →
      now.loads.slot = world.loads.slot → Yields d now (next value) result lists) :
    Yields d world (program.bind next) result lists :=
  first.bind rest

/-- Before a program that lists nothing, they are those of the first one. -/
theorem Yields.before {next : α → Program β} {result : β}
    (first : Yields d world program value lists)
    (rest : ∀ now : World σ, now.cacheless = world.cacheless →
      now.loads.slot = world.loads.slot → Yields d now (next value) result []) :
    Yields d world (program.bind next) result lists := by
  rw [← List.append_nil lists]
  exact first.bind rest

/-- What stays aside of the table lists nothing. -/
theorem yields_of_asks (asks : program.Asks Request.StaysAside)
    (ends : (program.run d.handler world).1 = value) : Yields d world program value [] := by
  have leaves (q : Request) (aside : q.StaysAside) : ¬ q.ChangesTable ∧ ¬ q.SharesLoad := by
    cases q <;> first | exact aside | exact aside.elim
  have step (q : Request) (now : World σ) (aside : q.StaysAside)
      (same : now.cacheless = world.cacheless ∧ now.loads = world.loads) :
      (d.handler q now).2.cacheless = world.cacheless ∧
        (d.handler q now).2.loads = world.loads := by
    obtain ⟨leavesTable, leavesLoads⟩ := leaves q aside
    rw [Deployment.cacheless_handler leavesTable, Deployment.loads_handler leavesLoads]
    exact same
  have kept := asks.run step ⟨rfl, rfl⟩
  refine ⟨ends, kept.1, congrArg SharedLoads.slot kept.2, ?_⟩
  rw [listings, List.filterMap_eq_nil_iff]
  intro event mem
  have aside := asks.allowed_of_mem_trace mem
  obtain ⟨q, reply⟩ := event
  cases q <;> first | rfl | exact aside.elim

end

/-! ## Lookups -/

namespace Service

open Program

variable {d : Deployment σ} {world : World σ} {options : Options}

/-- Reading a cache that tells nothing finds nothing. -/
theorem yields_cachedAs {α : Type} {shape? : Cached → Option α} {key : Key}
    (tells : d.cache.TellsNothing) : Yields d world (cachedAs shape? key) none [] := by
  have missed : ((cached key).run d.handler world).1 = none := by
    rw [cached, bind_eq, request_bind, run_ask]
    cases replied : (d.handler (.readCache key) world).1 with
    | error error => rfl
    | ok found =>
      cases found with
      | none => rfl
      | some value => exact absurd replied (tells _ _ _)
  refine yields_of_asks (asks_cachedAs ⟨id, id⟩ fun _ => ⟨id, id⟩) ?_
  rw [cachedAs, bind_eq, run_bind, missed]
  rfl

theorem yields_store {key : Key} {value : Cached} :
    Yields d world (store options key value) () [] :=
  yields_of_asks (asks_store (fun _ _ => ⟨id, id⟩) fun _ => ⟨id, id⟩) rfl

theorem yields_firstAccepting (path : String) (routes : List Route) :
    Yields d world (firstAccepting path routes) (firstMatch d.accepts path routes) [] := by
  induction routes generalizing world with
  | nil => exact yields_done none
  | cons route routes ih =>
    have test : Yields d world (request (.test route.path path)) (d.accepts route.path path) [] :=
      yields_of_asks ⟨⟨id, id⟩, fun _ => trivial⟩ rfl
    rw [firstMatch, List.find?_cons]
    refine test.then fun now _ _ => ?_
    cases d.accepts route.path path with
    | true => exact yields_done _
    | false => exact ih

theorem yields_note (observation : Observation) : Yields d world (note observation) () [] :=
  yields_of_asks ⟨⟨id, id⟩, fun _ => trivial⟩ rfl

theorem yields_listRoutes :
    Yields d world (request .listRoutes) world.cacheless.routes [world.cacheless.routes] where
  value := Deployment.reply_listRoutes (d := d)
  cacheless := Deployment.cacheless_handler (d := d) id
  slot := congrArg SharedLoads.slot (Deployment.loads_handler (d := d) id)
  lists := congrArg (fun reply => [reply]) (Deployment.reply_listRoutes (d := d))

/-- Loading the list asks the table once. -/
theorem yields_fetchRoutes :
    Yields d world (fetchRoutes options) world.cacheless.routes [world.cacheless.routes] := by
  refine (yields_note .load).then fun now same _ => ?_
  rw [← same]
  refine yields_listRoutes.before fun now _ _ => ?_
  cases World.cacheless _ |>.routes with
  | ok routes => exact yields_store.then fun _ _ _ => yields_done _
  | error error => exact yields_done _

/-- What becomes of a turn with a shared load. -/
def afterTurn (fetch : Program (Except StoreError (List Route))) (number : Nat) :
    Turn → Program (Except StoreError (List Route))
  | .follow result => ask (.releaseLoad number) fun _ => done result
  | .lead => fetch.bind fun result =>
    ask (.settleLoad number result) fun _ => ask (.releaseLoad number) fun _ => done result

theorem sharing_eq (fetch : Program (Except StoreError (List Route))) :
    sharing fetch = ask .joinLoad fun number => ask (.awaitLoad number) (afterTurn fetch number) :=
  congrArg (ask _) (funext fun _ => congrArg (ask _) (funext fun turn => by cases turn <;> rfl))

/-- Who shares a load with nobody runs it, and leaves the slot as empty as it was. -/
theorem yields_sharing {fetch : Program (Except StoreError (List Route))}
    {value : Except StoreError (List Route)} {lists : List (Except StoreError (List Route))}
    (alone : world.loads.slot = none)
    (fetches : ∀ now : World σ, now.cacheless = world.cacheless →
      Yields d now fetch value lists) : Yields d world (sharing fetch) value lists := by
  obtain ⟨number, joined⟩ : ∃ number, world.loads.join.1 = number := ⟨_, rfl⟩
  obtain ⟨now, begun⟩ : ∃ now, (d.handler (.awaitLoad number) (d.handler .joinLoad world).2).2 =
    now := ⟨_, rfl⟩
  -- the load is new, so the turn is to run it
  have turn : (d.handler (.awaitLoad number) (d.handler .joinLoad world).2).1 = .lead := by
    change (world.loads.join.2.takeTurn number).1 = .lead
    rw [SharedLoads.takeTurn, ← joined, SharedLoads.idle_join alone]
  have same : now.cacheless = world.cacheless := by rw [← begun]; rfl
  have slot : now.loads.slot = some number := by
    rw [← begun, ← joined]
    exact SharedLoads.slot_takeTurn.trans SharedLoads.slot_join
  have fetched : Yields d now fetch value lists := fetches now same
  have slot : (fetch.run d.handler now).2.loads.slot = some number := fetched.slot.trans slot
  have joins : (d.handler .joinLoad world).1 = number := joined
  have run : (sharing fetch).run d.handler world =
      (afterTurn fetch number .lead).run d.handler now := by
    rw [sharing_eq, run_ask, run_ask, joins, turn, begun]
  have trace : listings ((sharing fetch).trace d.handler world) =
      listings ((afterTurn fetch number .lead).trace d.handler now) := by
    rw [sharing_eq, trace_ask, trace_ask, joins, turn, begun]
    rfl
  constructor
  · rw [run, afterTurn, run_bind]
    exact fetched.value
  · rw [run, afterTurn, run_bind]
    exact fetched.cacheless.trans same
  · rw [run, afterTurn, run_bind, alone]
    exact SharedLoads.slot_release slot
  · rw [trace, afterTurn, trace_bind, listings_append, fetched.lists]
    exact List.append_nil _

theorem yields_loadRoutes (alone : world.loads.slot = none) :
    Yields d world (loadRoutes options) world.cacheless.routes [world.cacheless.routes] := by
  rw [loadRoutes]
  split
  · exact yields_sharing alone fun now same => same ▸ yields_fetchRoutes
  · exact yields_fetchRoutes

theorem yields_routes (tells : d.cache.TellsNothing) (alone : world.loads.slot = none) :
    Yields d world (routes options) world.cacheless.routes [world.cacheless.routes] :=
  (yields_cachedAs tells).then fun _ same slot => same ▸ yields_loadRoutes (slot.trans alone)

/-- What a lookup makes of a list that it has loaded. -/
theorem yields_scan (path : String) (routes : List Route) :
    Yields d world (scan options path routes)
      ((Cacheless.pick d.accepts path routes).map (·, .patternMatch)) [] := by
  refine (yields_firstAccepting path routes).then fun now _ _ => ?_
  rw [Cacheless.pick]
  cases firstMatch d.accepts path routes with
  | none => exact yields_done _
  | some route =>
    refine yields_store.then fun now _ _ => ?_
    have recorded : Yields d now (request (.remember path route.path)) () [] :=
      yields_of_asks ⟨⟨id, id⟩, fun _ => trivial⟩ rfl
    exact recorded.then fun _ _ _ => yields_done _

theorem yields_lookUp (path : String) (tells : d.cache.TellsNothing)
    (alone : world.loads.slot = none) :
    Yields d world (lookUp options path)
      ((world.cacheless.resolve d.accepts path).map (·, .patternMatch))
      [world.cacheless.routes] := by
  -- the entry is missed first, then the list, so it is loaded
  refine (yields_cachedAs tells).then fun now same slot => ?_
  rw [← same]
  refine (yields_routes tells (slot.trans alone)).before fun later _ _ => ?_
  rw [Cacheless.resolve]
  cases now.cacheless.routes with
  | ok routes => exact yields_scan path routes
  | error error => exact yields_done _

theorem yields_resolve (path : String) (tells : d.cache.TellsNothing)
    (alone : world.loads.slot = none) :
    Yields d world (resolve options path) (world.cacheless.resolve d.accepts path)
      [world.cacheless.routes] := by
  refine (yields_lookUp path tells alone).before fun now _ _ => ?_
  refine (yields_note _).then fun _ _ _ => ?_
  cases world.cacheless.resolve d.accepts path <;> exact yields_done _

end Service

/-! ## Whole runs -/

namespace Deployment

variable {d : Deployment σ} {world : World σ} {operation : Operation}

/-- A lookup that the cache tells nothing loads the list once, and answers from it. -/
theorem yields_lookup (tells : d.cache.TellsNothing) (alone : world.loads.slot = none)
    (looks : operation.IsLookup) :
    Yields d world (operation.program d.options)
      (world.cacheless.answer d.accepts d.options operation) [world.cacheless.routes] := by
  cases operation with
  | routes => exact (Service.yields_routes tells alone).before fun _ _ _ => yields_done _
  | resolve path =>
    exact (Service.yields_resolve path tells alone).before fun _ _ _ => yields_done _
  | permits path method =>
    refine Yields.before ?_ fun _ _ _ => yields_done _
    exact (Service.yields_resolve path tells alone).before fun _ _ _ => yields_done _
  | _ => exact looks.elim

/-- With a cache that tells nothing, everything is as without one, and each lookup loads the list
once. -/
theorem cacheless_of_tellsNothing (tells : d.cache.TellsNothing) (table : Table) (cache : σ)
    (memo : Memo) (happenings : List (Happening σ)) (operation : Operation) :
    let now := d.course (World.start table cache memo) happenings
    let plain := Cacheless.course { table } (occurrences happenings)
    now.cacheless = plain ∧
      (d.ask operation now).1 = plain.answer d.accepts d.options operation ∧
        (operation.IsLookup → listings (d.eventsOf operation now) = [plain.routes]) := by
  intro now plain
  have same : now.cacheless = plain := d.cacheless_course _ happenings
  have alone : now.loads.slot = none := idle_course happenings rfl
  refine ⟨same, ?_⟩
  rw [← same]
  by_cases looks : operation.IsLookup
  · have yields := yields_lookup tells alone looks
    exact ⟨yields.value, fun _ => yields.lists⟩
  · refine ⟨?_, fun looks' => absurd looks' looks⟩
    rw [(upkeep_cacheless looks).1, Cacheless.answer_of_not_isLookup looks]

end Deployment

/-- **A useless cache changes nothing.** Let one service have a cache of which every call fails, and
another one a cache that retains nothing, with the same matcher and options. If they are asked the
same over equal tables, and the tables get out of reach and come back at the same times, then at
every moment their tables and all their answers, counters and failures included, are those of a
service without a cache. Each lookup asks the table for its list exactly once. -/
theorem useless_caches_change_nothing (accepts : String → String → Bool) (options : Options)
    (failing : CacheBackend σ) (fails : failing.AlwaysFails) (forgetful : CacheBackend τ)
    (retains : forgetful.RetainsNothing) (table : Table) (cache : σ) (cache' : τ)
    (memo memo' : Memo) (happenings : List (Happening σ)) (happenings' : List (Happening τ))
    (same : occurrences happenings = occurrences happenings') (operation : Operation) :
    let one : Deployment σ := { cache := failing, accepts, options }
    let other : Deployment τ := { cache := forgetful, accepts, options }
    let now := one.course (World.start table cache memo) happenings
    let now' := other.course (World.start table cache' memo') happenings'
    let plain := Cacheless.course { table } (occurrences happenings)
    (now.table = plain.table ∧ now'.table = plain.table) ∧
      ((one.ask operation now).1 = plain.answer accepts options operation ∧
        (other.ask operation now').1 = plain.answer accepts options operation) ∧
      (operation.IsLookup →
        listings (one.eventsOf operation now) = [plain.routes] ∧
          listings (other.eventsOf operation now') = [plain.routes]) := by
  intro one other now now' plain
  obtain ⟨here, answer, once⟩ := Deployment.cacheless_of_tellsNothing (d := one)
    fails.tellsNothing table cache memo happenings operation
  obtain ⟨here', answer', once'⟩ := Deployment.cacheless_of_tellsNothing (d := other)
    retains.tellsNothing table cache' memo' happenings' operation
  rw [← same] at here' answer' once'
  exact ⟨⟨congrArg Cacheless.table here, congrArg Cacheless.table here'⟩, ⟨answer, answer'⟩,
    fun looks => ⟨once looks, once' looks⟩⟩

/-- A cache of which every call fails. -/
def deadCache : CacheBackend Unit where
  name := "dead"
  read _ _ := (.error (.unavailable "dead"), ())
  write _ _ _ _ := (.error (.unavailable "dead"), ())
  erase _ _ := (.error (.unavailable "dead"), ())

theorem deadCache_alwaysFails : deadCache.AlwaysFails where
  read _ _ := ⟨_, rfl⟩
  write _ _ _ _ := ⟨_, rfl⟩
  erase _ _ := ⟨_, rfl⟩

/-- A cache that retains nothing. -/
def forgetfulCache : CacheBackend Unit where
  name := "forgetful"
  read _ _ := (.ok none, ())
  write _ _ _ _ := (.ok (), ())
  erase _ _ := (.ok (), ())

theorem forgetfulCache_retainsNothing : forgetfulCache.RetainsNothing where
  read _ _ := rfl
  write _ _ _ _ := rfl
  erase _ _ := rfl

/-- Lookups and changes, and an outage during which a change is refused. -/
def withOutage : List (Happening Unit) :=
  [.asked (.resolve "/users/42"), .asked (.recordCalls "/users/:id" 1 20), .outage (some "away"),
    .asked (.update (userRoute "http://new")), .asked .routes, .outage none, .asked .clear]

/-- After all that, both find the route of the table, with its counters, and have asked for the list
once. -/
theorem counted_route_without_cache :
    let route := { userRoute "http://old" with callCount := 1, totalResponseTime := 20 }
    let options : Options := { sharedLoads := true }
    let one : Deployment Unit := { cache := deadCache, options }
    let other : Deployment Unit := { cache := forgetfulCache, options }
    let start := World.start (.single (userRoute "http://old")) () (.empty 100 1000)
    (one.ask (.resolve "/users/42") (one.course start withOutage)).1 = .route (.ok route) ∧
      (other.ask (.resolve "/users/42") (other.course start withOutage)).1 = .route (.ok route) ∧
        listings (one.eventsOf (.resolve "/users/42") (one.course start withOutage)) =
          [.ok [route]] := by
  intro route options one other start
  obtain ⟨-, ⟨answer, answer'⟩, once⟩ := useless_caches_change_nothing Pattern.accepts options
    deadCache deadCache_alwaysFails forgetfulCache forgetfulCache_retainsNothing
    (.single (userRoute "http://old")) () () (.empty 100 1000) (.empty 100 1000) withOutage
    withOutage rfl (.resolve "/users/42")
  have answers : Cacheless.answer Pattern.accepts options
      (Cacheless.course { table := .single (userRoute "http://old") } (occurrences withOutage))
      (.resolve "/users/42") = .route (.ok route) := rfl
  exact ⟨answer.trans answers, answer'.trans answers, (once trivial).1⟩

end GatewayRouting
