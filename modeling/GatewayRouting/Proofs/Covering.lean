import GatewayRouting.Proofs.Upkeep

/-!
# What is right stays right

All that a world can tell a lookup is right if the table's list and its failure are
(`Knowledge.CoversTable`) and every value that the cache holds (`Knowledge.CoversCache`). Then a
lookup on its own answers something right, and what it writes into the cache is right again
(`CoversCache.lookup`). An operation that does not look writes nothing, so all it can change about
this is the table (`CoversCache.upkeep`). And what runs on its own leaves no load behind that could
be joined (`Deployment.idle_course`).
-/

namespace GatewayRouting

variable {σ : Type} {d : Deployment σ} {contents : d.cache.Contents} {world : World σ} {q : Request}
  {k : Knowledge} {past : List Event} {operation : Operation}

/-! ## Where a lookup gets its routes from -/

namespace Deployment

/-- A list comes from the cache, from the table, or from a shared load that was run. -/
theorem brings_cases (contents : d.cache.Contents) {result : Except StoreError (List Route)}
    (brings : (⟨q, (d.handler q world).1⟩ : Event).brings = some result) :
    (∃ routes, result = .ok routes ∧ contents.holds world.cache .list (.list routes)) ∨
      (q = .listRoutes ∧ result = (d.handler .listRoutes world).1) ∨
        ∃ number, q = .awaitLoad number ∧
          world.loads.states[number]? = some (.settled result) := by
  generalize replied : (d.handler q world).1 = reply at brings
  unfold Event.brings at brings
  split at brings
  · rename_i h
    cases h
    cases brings
    exact .inl ⟨_, rfl, contents.holds_of_read replied⟩
  · rename_i h
    cases h
    cases brings
    exact .inr (.inl ⟨rfl, replied.symm⟩)
  · rename_i number other h
    cases h
    cases brings
    exact .inr (.inr ⟨number, rfl, SharedLoads.settled_of_takeTurn replied⟩)
  · cases brings

/-- A cached route comes from the cache. -/
theorem tells_cases {path : String} {route : Route}
    (tells : (⟨q, (d.handler q world).1⟩ : Event).tells = some (path, route)) :
    contents.holds world.cache (.single path) (.single route) := by
  generalize replied : (d.handler q world).1 = reply at tells
  unfold Event.tells at tells
  split at tells
  · rename_i h
    cases h
    cases tells
    exact contents.holds_of_read replied
  · cases tells

end Deployment

/-! ## Covering -/

/-- What the table tells is right. -/
structure Knowledge.CoversTable (k : Knowledge) (world : World σ) : Prop where
  /-- its list -/
  list : k.lists world.table.routes
  /-- why it is out of reach, if it is -/
  outage {reason : String} (away : world.outage = some reason) : k.failures (.unavailable reason)

/-- What the cache holds is right, and no load is on its way. -/
structure Knowledge.CoversCache (k : Knowledge) (contents : d.cache.Contents) (world : World σ) :
    Prop where
  /-- the values that the cache holds -/
  held {key : Key} {value : Cached} (held : contents.holds world.cache key value) :
    k.fits key value
  /-- nobody can join a load -/
  idle : world.loads.slot = none

/-- What is right about what is cached may be weakened. -/
theorem Knowledge.CoversCache.mono {k' : Knowledge} (covers : k.CoversCache contents world)
    (lists : ∀ routes, k.lists routes → k'.lists routes)
    (answers : ∀ path route, k.answers path route → k'.answers path route) :
    k'.CoversCache contents world where
  held := by
    intro key value held
    have fits := covers.held held
    cases key with
    | list =>
      cases value with
      | list routes => exact lists routes fits
      | single route => trivial
    | single path =>
      cases value with
      | list routes => trivial
      | single route => exact answers path route fits
  idle := covers.idle

/-- What the table answers is right. -/
theorem Knowledge.CoversTable.loaded (covers : k.CoversTable world) :
    k.loaded (d.handler .listRoutes world).1 := by
  rw [Deployment.handler_listRoutes]
  split
  · exact covers.outage ‹_›
  · exact covers.list

/-! ## Lookups -/

/-- What holds while a lookup runs on its own: it was told only what is right, the cache holds only
what is right, and so does the load that it runs. -/
structure Knowledge.Trusted (k : Knowledge) (contents : d.cache.Contents) (start : World σ)
    (past : List Event) (world : World σ) : Prop where
  /-- the table is the one of the start -/
  table : world.table = start.table
  /-- and as far away -/
  outage : world.outage = start.outage
  /-- the values that the cache holds -/
  held {key : Key} {value : Cached} (held : contents.holds world.cache key value) :
    k.fits key value
  /-- the lists that the lookup was brought -/
  led : ¬ k.misled past
  /-- the routes that it was told -/
  told : ¬ k.mistold past
  /-- the slot has the load that the lookup joined -/
  slot : world.loads.slot = joinedLoad past
  /-- which has no wrong result -/
  load {number : Nat} {result : Except StoreError (List Route)}
    (joined : joinedLoad past = some number)
    (settled : world.loads.states[number]? = some (.settled result)) : k.loaded result

variable {start : World σ}

theorem Knowledge.Trusted.loaded (trusted : k.Trusted contents start past world)
    (covers : k.CoversTable start) (allowed : k.lookupAllows past q)
    {result : Except StoreError (List Route)}
    (brings : (⟨q, (d.handler q world).1⟩ : Event).brings = some result) : k.loaded result := by
  obtain ⟨routes, rfl, held⟩ | ⟨rfl, rfl⟩ | ⟨number, rfl, settled⟩ :=
    Deployment.brings_cases contents brings
  · exact trusted.held held
  · refine Knowledge.CoversTable.loaded ⟨?_, ?_⟩
    · exact trusted.table ▸ covers.list
    · exact fun away => covers.outage (trusted.outage ▸ away)
  · exact trusted.load allowed settled

/-- The slot follows what a lookup has joined. -/
theorem Deployment.slot_of_joined (slot : world.loads.slot = joinedLoad past)
    (allowed : k.lookupAllows past q) :
    (d.handler q world).2.loads.slot = joinedLoad (past ++ [⟨q, (d.handler q world).1⟩]) := by
  rw [joinedLoad_append]
  by_cases joins : q = .joinLoad
  · subst joins
    exact SharedLoads.slot_join
  by_cases releases : ∃ number, q = .releaseLoad number
  · obtain ⟨number, rfl⟩ := releases
    exact SharedLoads.slot_release (slot.trans allowed)
  · have releases (number : Nat) (same : q = .releaseLoad number) := releases ⟨number, same⟩
    rw [Event.joining_eq joins releases, Deployment.slot_handler joins releases]
    exact slot

/-- A load gets its result from the one who runs it, who was not misled. -/
theorem Knowledge.Trusted.load_step (trusted : k.Trusted contents start past world)
    (allowed : k.lookupAllows past q) {number : Nat} {result : Except StoreError (List Route)}
    (joined : joinedLoad (past ++ [⟨q, (d.handler q world).1⟩]) = some number)
    (settled : (d.handler q world).2.loads.states[number]? = some (.settled result)) :
    k.loaded result := by
  rw [joinedLoad_append] at joined
  by_cases joins : q = .joinLoad
  · subst joins
    obtain rfl : world.loads.join.1 = number := Option.some.inj joined
    -- nobody else runs a load, so the one that is joined is new
    have idle := SharedLoads.idle_join (trusted.slot.trans allowed)
    cases idle.symm.trans settled
  obtain old | rfl := Deployment.settled_of_settled_handler settled
  · by_cases releases : ∃ number, q = .releaseLoad number
    · obtain ⟨number, rfl⟩ := releases
      cases joined
    · have releases (number : Nat) (same : q = .releaseLoad number) := releases ⟨number, same⟩
      rw [Event.joining_eq joins releases] at joined
      exact trusted.load joined old
  · exact allowed.2 (Knowledge.not_misloaded_of_not_misled trusted.led)

/-- Each request of a lookup keeps it trusted. -/
theorem Knowledge.Trusted.step (trusted : k.Trusted contents start past world)
    (covers : k.CoversTable start) (allowed : k.lookupAllows past q) :
    k.Trusted contents start (past ++ [⟨q, (d.handler q world).1⟩]) (d.handler q world).2 where
  table := by
    rw [Deployment.table_handler, trusted.table]
    cases q <;> first | exact allowed.elim | exact id
  outage := Deployment.outage_handler.trans trusted.outage
  held := by
    intro key value held
    obtain old | ⟨seconds, rfl⟩ := Deployment.holds_of_holds_handler held
    · exact trusted.held old
    · exact allowed.2 (Knowledge.trusts_of_not_misled trusted.led)
  led := by
    rw [Knowledge.misled_append]
    rintro (wrong | ⟨result, brings, wrong⟩)
    · exact trusted.led wrong
    · exact wrong (trusted.loaded covers allowed brings)
  told := by
    rw [Knowledge.mistold_append]
    rintro (wrong | ⟨path, route, tells, wrong⟩)
    · exact trusted.told wrong
    · exact wrong (trusted.held (Deployment.tells_cases tells))
  slot := Deployment.slot_of_joined trusted.slot allowed
  load := trusted.load_step allowed

/-- **A lookup keeps what is right**, and answers something right. -/
theorem Knowledge.CoversCache.lookup (held : k.CoversCache contents world)
    (covers : k.CoversTable world) (closed : k.Closed d.accepts) (looks : operation.IsLookup) :
    k.explainsAnswer d operation (d.ask operation world).1 ∧
      k.CoversCache contents (d.ask operation world).2 ∧
        (d.ask operation world).2.table = world.table := by
  have trusted : k.Trusted contents world [] world :=
    { table := rfl, outage := rfl, held := held.held, led := by rintro ⟨event, ⟨⟩, _⟩,
      told := by simp [Knowledge.mistold], slot := held.idle, load := by simp [joinedLoad] }
  have step (past : List Event) (q : Request) (now : World σ)
      (trusted : k.Trusted contents world past now) (allowed : k.lookupAllows past q) :
      granted d.accepts q (d.handler q now).1 ∧
        k.Trusted contents world (past ++ [⟨q, (d.handler q now).1⟩]) (d.handler q now).2 :=
    ⟨Deployment.granted_handler, trusted.step covers allowed⟩
  obtain ⟨⟨stands, right⟩, after⟩ :=
    (Operation.keepsTo_program looks closed).run_of_forall step trusted
  exact ⟨right after.led after.told, ⟨after.held, after.slot.trans stands.joined⟩, after.table⟩

/-! ## Operations that do not look -/

/-- An operation that does not look writes nothing into the cache, and leaves the loads alone. -/
theorem Knowledge.CoversCache.upkeep (held : k.CoversCache contents world)
    (changes : ¬ operation.IsLookup) : k.CoversCache contents (d.ask operation world).2 := by
  have step (past : List Event) (q : Request) (now : World σ) (held : k.CoversCache contents now)
      (allowed : operation.upkeepAllows past q) : k.CoversCache contents (d.handler q now).2 := by
    constructor
    · intro key value stays
      obtain old | ⟨seconds, rfl⟩ := Deployment.holds_of_holds_handler stays
      · exact held.held old
      · exact allowed.elim
    · rw [Deployment.loads_handler]
      · exact held.idle
      · cases q <;> first | exact allowed.elim | exact id
  exact Deployment.upkeep_induction changes step held

/-! ## What happens in between -/

/-- A cache that loses entries covers no less. -/
theorem Knowledge.CoversCache.pause {nanoseconds : Nat} {cache : σ}
    (covers : k.CoversCache contents world)
    (loses : contents.OnlyLoses world (.pause nanoseconds cache)) :
    k.CoversCache contents (d.meet world (.pause nanoseconds cache)) where
  held := fun held => covers.held (loses _ _ held)
  idle := covers.idle

/-! ## No load is left -/

/-- Who is asked when no load can be joined leaves none to be joined. -/
theorem Deployment.idle_ask (idle : world.loads.slot = none) :
    (d.ask operation world).2.loads.slot = none := by
  by_cases looks : operation.IsLookup
  · have step (past : List Event) (q : Request) (now : World σ)
        (slot : now.loads.slot = joinedLoad past)
        (allowed : Knowledge.anything.lookupAllows past q) :
        granted d.accepts q (d.handler q now).1 ∧
          (d.handler q now).2.loads.slot = joinedLoad (past ++ [⟨q, (d.handler q now).1⟩]) :=
      ⟨granted_handler, slot_of_joined slot allowed⟩
    obtain ⟨⟨stands, _⟩, slot⟩ :=
      (Operation.keepsTo_program looks Knowledge.anything_closed).run_of_forall step idle
    exact slot.trans stands.joined
  · -- what does not look asks for nothing that acts on the loads
    have step (past : List Event) (q : Request) (now : World σ) (idle : now.loads.slot = none)
        (allowed : operation.upkeepAllows past q) : (d.handler q now).2.loads.slot = none := by
      rw [loads_handler]
      · exact idle
      · cases q <;> first | exact allowed.elim | exact id
    exact upkeep_induction looks step idle

/-- Whoever is asked one thing after the other leaves no load to be joined. -/
theorem Deployment.idle_course (happenings : List (Happening σ))
    (idle : world.loads.slot = none) : (d.course world happenings).loads.slot = none := by
  induction happenings generalizing world with
  | nil => exact idle
  | cons happening rest ih =>
    refine ih ?_
    cases happening with
    | asked operation => exact idle_ask idle
    | outage reason => exact idle
    | pause nanoseconds cache => exact idle

end GatewayRouting
