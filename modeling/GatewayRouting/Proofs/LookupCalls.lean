import GatewayRouting.Proofs.UselessCaches

/-!
# What a lookup goes out for

A lookup talks to a cache, a table, a matcher and a memo, each of which may be far away. So it
matters not only what it answers but also what it asks them for, in which order, and what it does
not ask them for. All of that follows from what it is told (`Deployment.needed`): the path's own
entry is read, and if it is there that is all; otherwise the list is read, and loaded and cached if
it is not there; then its patterns are tested up to the first one that accepts the path, and the
route of that one is cached and recorded. A lookup goes out for this and for nothing else
(`lookup_goes_out_for_what_it_needs`), whatever fails on its way, and whether loads are shared or
not.

A lookup that shares its load may have to wait for somebody else, and then goes out for less. One
that runs on its own finds the shared loads at rest (`SharedLoads.AtRest`): nobody runs the load
that can be joined. It may be there all the same, if somebody was stopped who was to run it.
-/

namespace GatewayRouting

variable {σ : Type}

/-! ## What goes out -/

/-- Whether a request goes out to the cache, the memo, the table or the matcher. The others are for
the metrics and for those who share a load. -/
def Request.goesOut : Request → Bool
  | .note _ | .joinLoad | .awaitLoad _ | .settleLoad .. | .releaseLoad _ => false
  | _ => true

/-- The requests that go out, in order. -/
def outgoing (events : List Event) : List Request :=
  (events.map Event.request).filter Request.goesOut

theorem outgoing_append (past events : List Event) :
    outgoing (past ++ events) = outgoing past ++ outgoing events := by
  rw [outgoing, List.map_append, List.filter_append]
  rfl

theorem outgoing_bind {α β : Type} (handler : Handler σ) (program : Program α)
    (next : α → Program β) (state : σ) :
    outgoing ((program.bind next).trace handler state) =
      outgoing (program.trace handler state) ++
        outgoing ((next (program.run handler state).1).trace handler
          (program.run handler state).2) := by
  rw [Program.trace_bind, outgoing_append]

/-! ## What is needed -/

/-- The value of the shape that is asked for, if reading a key brings one. -/
def CacheBackend.value? {α : Type} (backend : CacheBackend σ) (cache : σ)
    (shape? : Cached → Option α) (key : Key) : Option α :=
  match (backend.read cache key).1 with
  | .ok (some value) => shape? value
  | _ => none

/-- The routes of a list that are tried for a path: those up to the first one whose pattern accepts
it, and all if there is none. -/
def tried (accepts : String → String → Bool) (path : String) (routes : List Route) : List Route :=
  routes.take (routes.findIdx (fun route => accepts route.path path) + 1)

namespace Deployment

/-- What is needed to find the route of a path in a list: each route is tried in turn, and the one
that is found is cached and recorded. -/
def neededToScan (d : Deployment σ) (path : String) (routes : List Route) : List Request :=
  (tried d.accepts path routes).map (fun route => .test route.path path) ++
    match firstMatch d.accepts path routes with
    | none => []
    | some route =>
      [.writeCache (.single path) (.single route) d.options.ttlSeconds, .remember path route.path]

/-- The list of routes: the cached one, or else what the table answers. -/
def listed (d : Deployment σ) (world : World σ) : Except StoreError (List Route) :=
  match d.cache.value? world.cache Cached.routes? .list with
  | some routes => .ok routes
  | none => world.cacheless.routes

/-- What is needed to load the list: the table is asked for it, and what it answers is cached. -/
def neededToLoad (d : Deployment σ) (now : Cacheless) : List Request :=
  .listRoutes ::
    match now.routes with
    | .error _ => []
    | .ok routes => [.writeCache .list (.list routes) d.options.ttlSeconds]

/-- What is needed to get the list: the cached one is read, and if there is none it is loaded. -/
def neededToList (d : Deployment σ) (world : World σ) : List Request :=
  .readCache .list ::
    match d.cache.value? world.cache Cached.routes? .list with
    | some _ => []
    | none => d.neededToLoad world.cacheless

/-- What is needed to look up a path: its own entry is read, and if there is none its route is found
in the list, if that can be got. -/
def needed (d : Deployment σ) (world : World σ) (path : String) : List Request :=
  .readCache (.single path) ::
    match d.cache.value? world.cache Cached.route? (.single path) with
    | some _ => []
    | none =>
      let now := { world with cache := (d.cache.read world.cache (.single path)).2 }
      d.neededToList now ++
        match d.listed now with
        | .error _ => []
        | .ok routes => d.neededToScan path routes

end Deployment

/-! ## Shared loads at rest -/

namespace SharedLoads

variable {loads : SharedLoads}

/-- Nobody runs the load that can be joined, nor was it run. -/
def AtRest (loads : SharedLoads) : Prop :=
  ∀ number, loads.slot = some number →
    ∀ state, loads.states[number]? = some state → state = .idle

theorem atRest_of_empty (empty : loads.slot = none) : loads.AtRest :=
  fun _ slot => nomatch empty.symm.trans slot

/-- Who joins when the loads are at rest gets the turn to run the load. -/
theorem AtRest.lead (rest : loads.AtRest) :
    (loads.join.2.takeTurn loads.join.1).1 = .lead := by
  have idle (state : LoadState) (there : loads.join.2.states[loads.join.1]? = some state) :
      state = .idle := by
    cases slot : loads.slot with
    | none => exact Option.some.inj (there.symm.trans (idle_join slot))
    | some number =>
      rw [join_of_slot slot] at there
      exact rest number slot state there
  rw [takeTurn]
  split
  · rename_i settled
    cases idle _ settled
  · rfl

end SharedLoads

/-! ## What each part goes out for -/

namespace Service

open Program

variable {d : Deployment σ} {world : World σ} {options : Options} {path : String}

theorem outgoing_note (observation : Observation) :
    outgoing ((note observation).trace d.handler world) = [] := rfl

/-- A key is read, and a failure is noted, and a value of the wrong shape. -/
theorem cachedAs_eq {α : Type} (shape? : Cached → Option α) (key : Key) :
    cachedAs shape? key = ask (.readCache key) fun
      | .ok none => done none
      | .error _ => ask (.note (.cacheFailure .read)) fun _ => done none
      | .ok (some value) =>
        match shape? value with
        | some wanted => done (some wanted)
        | none => ask (.note (.cacheFailure .read)) fun _ => done none := by
  rw [cachedAs, cached, bind_eq, bind_eq, request_bind, bind_ask]
  refine congrArg (ask _) (funext fun reply => ?_)
  rcases reply with error | missing | value
  · rfl
  · rfl
  · dsimp only [pure_eq, bind_done]
    cases shape? value <;> rfl

/-- Reading the cache brings what is there of the right shape, and changes nothing else. -/
theorem run_cachedAs {α : Type} (d : Deployment σ) (world : World σ)
    (shape? : Cached → Option α) (key : Key) :
    ∃ observed, (cachedAs shape? key).run d.handler world =
      (d.cache.value? world.cache shape? key,
        { world with cache := (d.cache.read world.cache key).2, observed }) := by
  have reads : d.handler (.readCache key) world = ((d.cache.read world.cache key).1,
      { world with cache := (d.cache.read world.cache key).2 }) := rfl
  rw [cachedAs_eq, run_ask, reads, CacheBackend.value?]
  rcases (d.cache.read world.cache key).1 with error | missing | value
  · exact ⟨_, rfl⟩
  · exact ⟨_, rfl⟩
  · dsimp only
    cases shape? value <;> exact ⟨_, rfl⟩

theorem outgoing_cachedAs {α : Type} (shape? : Cached → Option α) (key : Key) :
    outgoing ((cachedAs shape? key).trace d.handler world) = [.readCache key] := by
  rw [cachedAs_eq, trace_ask]
  rcases (d.handler (.readCache key) world).1 with error | missing | value
  · rfl
  · rfl
  · dsimp only
    cases shape? value <;> rfl

theorem outgoing_store (key : Key) (value : Cached) :
    outgoing ((store options key value).trace d.handler world) =
      [.writeCache key value options.ttlSeconds] := by
  rw [store, bind_eq, request_bind, trace_ask]
  cases (d.handler (.writeCache key value options.ttlSeconds) world).1 <;> rfl

theorem outgoing_firstAccepting (routes : List Route) :
    outgoing ((firstAccepting path routes).trace d.handler world) =
      (tried d.accepts path routes).map fun route => .test route.path path := by
  induction routes generalizing world with
  | nil => rfl
  | cons route routes ih =>
    have test : (d.handler (.test route.path path) world).1 = d.accepts route.path path := rfl
    rw [firstAccepting, bind_eq, request_bind, trace_ask, test, tried, List.findIdx_cons]
    cases d.accepts route.path path with
    | true => rfl
    | false => exact congrArg (_ :: ·) ih

theorem outgoing_scan (routes : List Route) :
    outgoing ((scan d.options path routes).trace d.handler world) =
      d.neededToScan path routes := by
  rw [scan, bind_eq, outgoing_bind, outgoing_firstAccepting,
    (yields_firstAccepting path routes).value, Deployment.neededToScan]
  cases firstMatch d.accepts path routes with
  | none => rfl
  | some route =>
    dsimp only
    rw [bind_eq, outgoing_bind, outgoing_store]
    rfl

theorem outgoing_fetchRoutes :
    outgoing ((fetchRoutes d.options).trace d.handler world) =
      d.neededToLoad world.cacheless := by
  have replied : (d.handler .listRoutes (d.handler (.note .load) world).2).1 =
      world.cacheless.routes := Deployment.reply_listRoutes
  rw [fetchRoutes, bind_eq, outgoing_bind, outgoing_note, List.nil_append, Deployment.neededToLoad]
  change outgoing ((ask .listRoutes _).trace d.handler (d.handler (.note .load) world).2) = _
  rw [trace_ask, replied]
  cases world.cacheless.routes with
  | error error => rfl
  | ok routes =>
    refine congrArg (Request.listRoutes :: ·) ?_
    dsimp only
    change outgoing (((store d.options .list (.list routes)).bind _).trace d.handler _) = _
    rw [outgoing_bind, outgoing_store]
    rfl

/-- With the loads at rest, who shares a load goes out for what the load goes out for, and gets its
result. -/
theorem sharing_at_rest (rest : world.loads.AtRest)
    (fetch : Program (Except StoreError (List Route))) :
    ∃ now : World σ, now.cacheless = world.cacheless ∧
      ((sharing fetch).run d.handler world).1 = (fetch.run d.handler now).1 ∧
      outgoing ((sharing fetch).trace d.handler world) =
        outgoing (fetch.trace d.handler now) := by
  obtain ⟨number, joined⟩ : ∃ number, world.loads.join.1 = number := ⟨_, rfl⟩
  have joins : (d.handler .joinLoad world).1 = number := joined
  have leads : (d.handler (.awaitLoad number) (d.handler .joinLoad world).2).1 = .lead := by
    rw [← joined]
    exact rest.lead
  refine ⟨(d.handler (.awaitLoad number) (d.handler .joinLoad world).2).2, rfl, ?_, ?_⟩
  · rw [sharing_eq, run_ask, run_ask, joins, leads, afterTurn, run_bind]
    rfl
  · rw [sharing_eq, trace_ask, trace_ask, joins, leads, afterTurn]
    change outgoing ((fetch.bind _).trace d.handler _) = _
    rw [outgoing_bind]
    exact List.append_nil _

/-- With the loads at rest, the list is loaded once, whether loads are shared or not. -/
theorem loadRoutes_at_rest (d : Deployment σ) (world : World σ) (rest : world.loads.AtRest) :
    ((loadRoutes d.options).run d.handler world).1 = world.cacheless.routes ∧
      outgoing ((loadRoutes d.options).trace d.handler world) =
        d.neededToLoad world.cacheless := by
  rw [loadRoutes]
  split
  · obtain ⟨now, same, value, requests⟩ := sharing_at_rest rest (fetchRoutes d.options)
    rw [value, requests, ← same]
    exact ⟨yields_fetchRoutes.value, outgoing_fetchRoutes⟩
  · exact ⟨yields_fetchRoutes.value, outgoing_fetchRoutes⟩

/-- With the loads at rest, the list is got from where it is needed to be got from. -/
theorem routes_at_rest (d : Deployment σ) (world : World σ) (rest : world.loads.AtRest) :
    ((routes d.options).run d.handler world).1 = d.listed world ∧
      outgoing ((routes d.options).trace d.handler world) = d.neededToList world := by
  obtain ⟨observed, own⟩ := run_cachedAs d world Cached.routes? .list
  rw [routes, bind_eq, outgoing_bind, run_bind, cachedRoutes, outgoing_cachedAs, own,
    Deployment.listed, Deployment.neededToList]
  cases d.cache.value? world.cache Cached.routes? .list with
  | some routes => exact ⟨rfl, rfl⟩
  | none =>
    obtain ⟨value, requests⟩ := loadRoutes_at_rest d
      { world with cache := (d.cache.read world.cache .list).2, observed } rest
    exact ⟨value, congrArg (Request.readCache .list :: ·) requests⟩

theorem outgoing_lookUp (rest : world.loads.AtRest) :
    outgoing ((lookUp d.options path).trace d.handler world) = d.needed world path := by
  obtain ⟨observed, own⟩ := run_cachedAs d world Cached.route? (.single path)
  rw [lookUp, bind_eq, outgoing_bind, cachedRoute, outgoing_cachedAs, own, Deployment.needed]
  refine congrArg (Request.readCache (.single path) :: ·) ?_
  cases d.cache.value? world.cache Cached.route? (.single path) with
  | some route => rfl
  | none =>
    obtain ⟨cache, read⟩ : ∃ cache, (d.cache.read world.cache (.single path)).2 = cache :=
      ⟨_, rfl⟩
    obtain ⟨value, requests⟩ := routes_at_rest d { world with cache, observed } rest
    have listed : d.listed { world with cache, observed } = d.listed { world with cache } := rfl
    dsimp only
    rw [read, bind_eq, outgoing_bind, value, requests, listed]
    refine congrArg (d.neededToList _ ++ ·) ?_
    cases d.listed { world with cache } with
    | error error => rfl
    | ok routes => exact outgoing_scan routes

end Service

/-- **A lookup goes out for exactly what it needs.** Let a lookup run on its own: with any cache,
any matcher, any options, whether the table can be reached or not. It asks the cache, the table, the
matcher and the memo for what is needed as they answer, in that order, and for nothing else. All it
takes is that the shared loads are at rest, as they always are if a service is asked one thing after
the other. -/
theorem lookup_goes_out_for_what_it_needs (d : Deployment σ) :
    (∀ (world : World σ) (path : String), world.loads.AtRest →
      outgoing (d.eventsOf (.resolve path) world) = d.needed world path) ∧
    ∀ (table : Table) (cache : σ) (memo : Memo) (happenings : List (Happening σ)),
      (d.course (World.start table cache memo) happenings).loads.AtRest := by
  constructor
  · intro world path rest
    have ends : outgoing (d.eventsOf (.resolve path) world) =
        outgoing ((Service.lookUp d.options path).trace d.handler world) := by
      rw [Deployment.eventsOf, Operation.program, Program.bind_eq, outgoing_bind, Service.resolve,
        Program.bind_eq, outgoing_bind]
      exact (List.append_nil _).trans (List.append_nil _)
    exact ends.trans (Service.outgoing_lookUp rest)
  · intro table cache memo happenings
    exact SharedLoads.atRest_of_empty (Deployment.idle_course happenings rfl)

/-- The own entry cannot be read, the list has the wrong shape, and what is loaded is not taken by
the cache; and somebody was stopped who was to load the list. -/
theorem user_looked_up_in_trouble :
    let d : Deployment (Scripted (Entries Cached)) :=
      { scriptedDeployment with options := { sharedLoads := true, ttlSeconds := 60 } }
    let routes := [{ userRoute "http://new" with path := "/users/new" }, userRoute "http://old",
      { userRoute "http://rest" with path := "/*" }]
    let world : World (Scripted (Entries Cached)) :=
      { table := .listing routes, memo := .empty 100 1000, loads := ⟨some 0, [.idle]⟩
        cache := ⟨[(.list, .single (userRoute "http://old"))], [true, false, true]⟩ }
    outgoing (d.eventsOf (.resolve "/users/42") world) =
      [.readCache (.single "/users/42"), .readCache .list, .listRoutes,
        .writeCache .list (.list routes) 60, .test "/users/new" "/users/42",
        .test "/users/:id" "/users/42",
        .writeCache (.single "/users/42") (.single (userRoute "http://old")) 60,
        .remember "/users/42" "/users/:id"] := by
  intro d routes world
  have rest : world.loads.AtRest := by
    rintro _ ⟨⟩ state ⟨⟩
    rfl
  exact (lookup_goes_out_for_what_it_needs d).1 world "/users/42" rest

end GatewayRouting
