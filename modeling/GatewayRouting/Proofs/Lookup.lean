import GatewayRouting.Proofs.Frame

/-!
# What lookups do

A lookup believes what it is told: a route that the cache has for its path, a list of routes from
the cache, from the table or from a load that it shares. All that it writes and answers it takes
from there. `Knowledge` says what counts as right: which lists, which route for a path, which
failure. A lookup is *misled* by a list that is not right, and *mistold* by a cached route that is
not right. As long as it was not misled, what it writes is right, and if it was not mistold either,
then so is its answer (`keepsTo_program`).

Besides that, a lookup pays its debts: it records a path in the memo right after it has cached the
path's route, and it lets go of a shared load that it has joined.
-/

namespace GatewayRouting

/-- The first route of a list whose pattern accepts a path. -/
def firstMatch (accepts : String → String → Bool) (path : String) (routes : List Route) :
    Option Route :=
  routes.find? fun route => accepts route.path path

/-- The request path of a key, unless it is the list's. -/
def Key.path? : Key → Option String
  | .list => none
  | .single path => some path

/-! ## What events bring -/

namespace Event

/-- The list of routes that an event brings, or why there is none. -/
def brings : Event → Option (Except StoreError (List Route))
  | ⟨.readCache .list, .ok (some (.list routes))⟩ => some (.ok routes)
  | ⟨.listRoutes, result⟩ => some result
  | ⟨.awaitLoad _, .follow result⟩ => some result
  | _ => none

/-- The list of routes that the table itself answers with, or why there is none. -/
def lists : Event → Option (Except StoreError (List Route))
  | ⟨.listRoutes, result⟩ => some result
  | _ => none

/-- The cached route for a path that an event brings. -/
def tells : Event → Option (String × Route)
  | ⟨.readCache (.single path), .ok (some (.single route))⟩ => some (path, route)
  | _ => none

/-- The shared load that is joined after an event. -/
def joining : Option Nat → Event → Option Nat
  | _, ⟨.joinLoad, number⟩ => some number
  | _, ⟨.releaseLoad _, _⟩ => none
  | load, _ => load

/-- The path whose route was cached and that is still to be recorded, after an event. -/
def owing : Option String → Event → Option String
  | _, ⟨.writeCache (.single path) _ _, _⟩ => some path
  | _, ⟨.remember _ _, _⟩ => none
  | debt, _ => debt

end Event

/-- The shared load that is joined after some events. -/
def joinedLoad (past : List Event) : Option Nat :=
  past.foldl Event.joining none

/-- The path that is still to be recorded after some events. -/
def owedPath (past : List Event) : Option String :=
  past.foldl Event.owing none

theorem joinedLoad_append (past : List Event) (event : Event) :
    joinedLoad (past ++ [event]) = event.joining (joinedLoad past) := by
  simp [joinedLoad]

theorem owedPath_append (past : List Event) (event : Event) :
    owedPath (past ++ [event]) = event.owing (owedPath past) := by
  simp [owedPath]

/-- Only joining and letting go change which load is joined. -/
theorem Event.joining_eq {q : Request} {reply : q.Reply} {load : Option Nat}
    (joins : q ≠ .joinLoad) (releases : ∀ number, q ≠ .releaseLoad number) :
    Event.joining load ⟨q, reply⟩ = load := by
  cases q with
  | joinLoad => exact absurd rfl joins
  | releaseLoad number => exact absurd rfl (releases number)
  | _ => rfl

/-- Only writing and recording change which path is owed. -/
theorem Event.owing_eq {q : Request} {reply : q.Reply} {debt : Option String}
    (writes : ∀ key value seconds, q ≠ .writeCache key value seconds)
    (records : ∀ path pattern, q ≠ .remember path pattern) :
    Event.owing debt ⟨q, reply⟩ = debt := by
  cases q with
  | writeCache key value seconds => exact absurd rfl (writes key value seconds)
  | remember path pattern => exact absurd rfl (records path pattern)
  | _ => rfl

/-- What a lookup holds after some events: the load that it joined and the path that it owes. -/
structure Stands (load : Option Nat) (debt : Option String) (past : List Event) : Prop where
  /-- the load that it joined -/
  joined : joinedLoad past = load
  /-- the path that it owes -/
  owed : owedPath past = debt

theorem Stands.append {load : Option Nat} {debt : Option String} {past : List Event}
    (stands : Stands load debt past) (event : Event) :
    Stands (event.joining load) (event.owing debt) (past ++ [event]) := by
  obtain ⟨rfl, rfl⟩ := stands
  exact ⟨joinedLoad_append past event, owedPath_append past event⟩

theorem Stands.note {load : Option Nat} {debt : Option String} {past : List Event}
    {observation : Observation} {reply : Unit} (stands : Stands load debt past) :
    Stands load debt (past ++ [⟨.note observation, reply⟩]) :=
  stands.append ⟨.note observation, reply⟩

theorem stands_nil : Stands none none [] := ⟨rfl, rfl⟩

/-! ## What is right -/

/-- What counts as right about the routes. -/
structure Knowledge where
  /-- the lists of routes -/
  lists : List Route → Prop
  /-- the routes that answer a path -/
  answers : String → Route → Prop
  /-- the failures of the table -/
  failures : StoreError → Prop

namespace Knowledge

variable {k : Knowledge} {accepts : String → String → Bool} {past later : List Event}

/-- The first match in a right list is a right answer. -/
def Closed (k : Knowledge) (accepts : String → String → Bool) : Prop :=
  ∀ routes path route, k.lists routes → firstMatch accepts path routes = some route →
    k.answers path route

/-- What a load of the list may rightly end with. -/
def loaded (k : Knowledge) : Except StoreError (List Route) → Prop
  | .ok routes => k.lists routes
  | .error error => k.failures error

/-- What may rightly be cached. A value whose shape is not the key's is never believed. -/
def fits (k : Knowledge) : Key → Cached → Prop
  | .list, .list routes => k.lists routes
  | .single path, .single route => k.answers path route
  | _, _ => True

/-- What a lookup of a path may rightly end with. -/
def explains (k : Knowledge) (accepts : String → String → Bool) (path : String) :
    Except LookupError Route → Prop
  | .ok route => k.answers path route
  | .error (.noMatch missing) =>
    missing = path ∧ ∃ routes, k.lists routes ∧ firstMatch accepts path routes = none
  | .error (.store error) => k.failures error

/-- The right answers to what only looks. -/
def explainsAnswer {σ : Type} (k : Knowledge) (d : Deployment σ) : Operation → Answer → Prop
  | .routes, .routes result => k.loaded result
  | .resolve path, .route result => k.explains d.accepts path result
  | .permits path method, .verdict verdict =>
    ∃ result, k.explains d.accepts path result ∧
      verdict = result.map (Service.letsThrough d.options · method)
  | _, _ => False

/-- Some event has given a list, or a failure, that is not right; `gives` says what counts. -/
def misgiven (k : Knowledge) (gives : Event → Option (Except StoreError (List Route)))
    (past : List Event) : Prop :=
  ∃ event ∈ past, ∃ result, gives event = some result ∧ ¬ k.loaded result

/-- Some event has brought a list, or a failure, that is not right. -/
def misled (k : Knowledge) (past : List Event) : Prop :=
  k.misgiven Event.brings past

/-- The table itself has answered with a list, or a failure, that is not right. -/
def misloaded (k : Knowledge) (past : List Event) : Prop :=
  k.misgiven Event.lists past

/-- Some event has brought a cached route that is not right. -/
def mistold (k : Knowledge) (past : List Event) : Prop :=
  ∃ event ∈ past, ∃ path route, event.tells = some (path, route) ∧ ¬ k.answers path route

variable {gives : Event → Option (Except StoreError (List Route))}

theorem not_misgiven_of_prefix (longer : past <+: later) (trusted : ¬ k.misgiven gives later) :
    ¬ k.misgiven gives past :=
  fun ⟨event, mem, wrong⟩ => trusted ⟨event, longer.subset mem, wrong⟩

theorem not_mistold_of_prefix (longer : past <+: later) (trusted : ¬ k.mistold later) :
    ¬ k.mistold past :=
  fun ⟨event, mem, wrong⟩ => trusted ⟨event, longer.subset mem, wrong⟩

/-- What the table answers is brought. -/
theorem not_misloaded_of_not_misled (trusted : ¬ k.misled past) : ¬ k.misloaded past := by
  rintro ⟨event, mem, result, lists, wrong⟩
  refine trusted ⟨event, mem, result, ?_, wrong⟩
  unfold Event.lists at lists
  split at lists
  · exact lists
  · cases lists

theorem misgiven_append {event : Event} :
    k.misgiven gives (past ++ [event]) ↔
      k.misgiven gives past ∨ ∃ result, gives event = some result ∧ ¬ k.loaded result := by
  simp only [misgiven, List.mem_append, List.mem_singleton, or_and_right, exists_or,
    exists_eq_left]

theorem misled_append {event : Event} :
    k.misled (past ++ [event]) ↔
      k.misled past ∨ ∃ result, event.brings = some result ∧ ¬ k.loaded result :=
  misgiven_append

theorem misloaded_append {event : Event} (wrong : k.misloaded past) :
    k.misloaded (past ++ [event]) :=
  misgiven_append.mpr (.inl wrong)

theorem mistold_append {event : Event} :
    k.mistold (past ++ [event]) ↔
      k.mistold past ∨
        ∃ path route, event.tells = some (path, route) ∧ ¬ k.answers path route := by
  simp only [mistold, List.mem_append, List.mem_singleton, or_and_right, exists_or, exists_eq_left]

/-- Whether something wrong was given can be decided if it can be decided what is right. -/
instance [∀ result, Decidable (k.loaded result)] : Decidable (k.misgiven gives past) :=
  decidable_of_iff (past.any fun event => (gives event).any fun result => !decide (k.loaded result))
    (by simp [misgiven, Option.any_eq_true])

instance [∀ result, Decidable (k.loaded result)] : Decidable (k.misled past) :=
  inferInstanceAs (Decidable (k.misgiven ..))

instance [∀ result, Decidable (k.loaded result)] : Decidable (k.misloaded past) :=
  inferInstanceAs (Decidable (k.misgiven ..))

/-- What the table answered is right if nothing was loaded wrongly. -/
theorem loaded_of_listRoutes {result : Except StoreError (List Route)}
    (mem : ⟨.listRoutes, result⟩ ∈ past) (trusted : ¬ k.misloaded past) : k.loaded result :=
  Classical.byContradiction fun wrong => trusted ⟨_, mem, result, rfl, wrong⟩

/-- What a shared load has ended with is right if nothing was misleading. -/
theorem loaded_of_awaitLoad {number : Nat} {result : Except StoreError (List Route)}
    (mem : ⟨.awaitLoad number, .follow result⟩ ∈ past) (trusted : ¬ k.misled past) :
    k.loaded result :=
  Classical.byContradiction fun wrong => trusted ⟨_, mem, result, rfl, wrong⟩

/-- A cached list that was read is right if nothing was misleading. -/
theorem lists_of_readCache {routes : List Route}
    (mem : ⟨.readCache .list, .ok (some (.list routes))⟩ ∈ past) (trusted : ¬ k.misled past) :
    k.lists routes :=
  Classical.byContradiction fun wrong => trusted ⟨_, mem, .ok routes, rfl, wrong⟩

/-- A cached route that was read is right if nothing was told wrongly. -/
theorem answers_of_readCache {path : String} {route : Route}
    (mem : ⟨.readCache (.single path), .ok (some (.single route))⟩ ∈ past)
    (trusted : ¬ k.mistold past) : k.answers path route :=
  Classical.byContradiction fun wrong => trusted ⟨_, mem, path, route, rfl, wrong⟩

/-! ## The protocol of lookups -/

/-- When a lookup can be trusted with a key: it writes the list only after it has loaded it itself,
and a single route after it was brought a list in any way. -/
def trusts (k : Knowledge) (past : List Event) : Key → Prop
  | .list => ¬ k.misloaded past
  | .single _ => ¬ k.misled past

theorem trusts_of_not_misled {key : Key} (trusted : ¬ k.misled past) : k.trusts past key := by
  cases key with
  | list => exact not_misloaded_of_not_misled trusted
  | single path => exact trusted

/-- What a lookup may ask for. It neither changes the table nor erases anything nor looks into the
memo, and what it writes is right if it can be trusted with that. -/
def lookupAllows (k : Knowledge) (past : List Event) : Request → Prop
  | .readCache _ | .listRoutes | .test _ _ | .note _ => True
  | .writeCache key value _ => owedPath past = none ∧ (k.trusts past key → k.fits key value)
  | .remember path _ => owedPath past = some path
  | .joinLoad => joinedLoad past = none
  | .awaitLoad number => joinedLoad past = some number
  | .settleLoad number result =>
    joinedLoad past = some number ∧ (¬ k.misloaded past → k.loaded result)
  | .releaseLoad number => joinedLoad past = some number
  | _ => False

/-- Nothing is wrong. -/
def anything : Knowledge where
  lists _ := True
  answers _ _ := True
  failures _ := True

theorem anything_closed : anything.Closed accepts :=
  fun _ _ _ _ _ => trivial

end Knowledge

/-! ## Lookups keep to it -/

namespace Service

open Program

variable {k : Knowledge} {accepts : String → String → Bool} {past : List Event}
  {load debt : Option Nat} {owed : Option String} {options : Options}

theorem keepsTo_cached {key : Key} (stands : Stands load owed past) :
    (cached key).KeepsTo k.lookupAllows (granted accepts)
      (fun past found => Stands load owed past ∧
        ∀ value, found = some value → ⟨.readCache key, .ok (some value)⟩ ∈ past) past := by
  refine ⟨trivial, fun reply _ => ?_⟩
  have stands := stands.append ⟨.readCache key, reply⟩
  cases reply with
  | ok found =>
    refine ⟨stands, ?_⟩
    rintro value rfl
    simp
  | error error => exact ⟨trivial, fun _ _ => ⟨stands.note, by simp⟩⟩

theorem keepsTo_cachedAs {α : Type} {shape? : Cached → Option α} {key : Key}
    (stands : Stands load owed past) :
    (cachedAs shape? key).KeepsTo k.lookupAllows (granted accepts)
      (fun past found => Stands load owed past ∧ ∀ wanted, found = some wanted →
        ∃ value, shape? value = some wanted ∧ ⟨.readCache key, .ok (some value)⟩ ∈ past) past := by
  refine KeepsTo.bind (keepsTo_cached stands) ?_
  rintro past (_ | value) _ ⟨stands, read⟩
  · exact ⟨stands, by simp⟩
  · dsimp only
    split
    · rename_i wanted shape
      refine ⟨stands, ?_⟩
      rintro _ ⟨⟩
      exact ⟨value, shape, read value rfl⟩
    · exact ⟨trivial, fun _ _ => ⟨stands.note, by simp⟩⟩

theorem keepsTo_cachedRoutes (stands : Stands load owed past) :
    cachedRoutes.KeepsTo k.lookupAllows (granted accepts)
      (fun past found => Stands load owed past ∧
        ∀ routes, found = some routes → ¬ k.misled past → k.lists routes) past := by
  refine (keepsTo_cachedAs stands).mono ?_
  rintro past found ⟨stands, read⟩
  refine ⟨stands, fun routes wanted trusted => ?_⟩
  obtain ⟨value, shape, mem⟩ := read routes wanted
  cases value with
  | single route => cases shape
  | list list =>
    obtain rfl : list = routes := Option.some.inj shape
    exact Knowledge.lists_of_readCache mem trusted

theorem keepsTo_cachedRoute {path : String} (stands : Stands load owed past) :
    (cachedRoute path).KeepsTo k.lookupAllows (granted accepts)
      (fun past found => Stands load owed past ∧
        ∀ route, found = some route → ¬ k.mistold past → k.answers path route) past := by
  refine (keepsTo_cachedAs stands).mono ?_
  rintro past found ⟨stands, read⟩
  refine ⟨stands, fun route wanted trusted => ?_⟩
  obtain ⟨value, shape, mem⟩ := read route wanted
  cases value with
  | single single =>
    obtain rfl : single = route := Option.some.inj shape
    exact Knowledge.answers_of_readCache mem trusted
  | list list => cases shape

/-- Caching a right value is allowed to a lookup that owes nothing, which then owes the record. -/
theorem keepsTo_store {key : Key} {value : Cached} (stands : Stands load none past)
    (fits : k.trusts past key → k.fits key value) :
    (store options key value).KeepsTo k.lookupAllows (granted accepts)
      (fun later _ => Stands load key.path? later) past := by
  refine ⟨⟨stands.owed, fits⟩, fun reply _ => ?_⟩
  have stands : Stands load key.path?
      (past ++ [⟨.writeCache key value options.ttlSeconds, reply⟩]) := by
    cases key <;> exact stands.append ⟨.writeCache _ value options.ttlSeconds, reply⟩
  cases reply with
  | ok done => exact stands
  | error error => exact ⟨trivial, fun _ _ => stands.note⟩

theorem keepsTo_firstAccepting {path : String} {routes : List Route}
    (stands : Stands load owed past) :
    (firstAccepting path routes).KeepsTo k.lookupAllows (granted accepts)
      (fun past found => Stands load owed past ∧ found = firstMatch accepts path routes) past := by
  induction routes generalizing past with
  | nil => exact ⟨stands, rfl⟩
  | cons route routes ih =>
    refine ⟨trivial, fun reply test => ?_⟩
    have stands := stands.append ⟨.test route.path path, reply⟩
    obtain rfl : reply = accepts route.path path := test
    change KeepsTo _ _ _ _ (if accepts route.path path = true then pure (some route)
      else firstAccepting path routes)
    split <;> rename_i accepted
    · exact ⟨stands, by simp [firstMatch, accepted]⟩
    · refine (ih stands).mono ?_
      rintro past found ⟨stands, rfl⟩
      exact ⟨stands, by simp [firstMatch, accepted]⟩

/-! ### The list -/

theorem keepsTo_fetchRoutes (stands : Stands load none past) :
    (fetchRoutes options).KeepsTo k.lookupAllows (granted accepts)
      (fun past result => Stands load none past ∧ (¬ k.misloaded past → k.loaded result)) past := by
  refine ⟨trivial, fun noted _ => ?_⟩
  have stands : Stands load none (past ++ [⟨.note .load, noted⟩]) := stands.note
  refine ⟨trivial, fun reply _ => ?_⟩
  have stands := stands.append ⟨.listRoutes, reply⟩
  have mem : (⟨.listRoutes, reply⟩ : Event) ∈
    past ++ [⟨.note .load, noted⟩] ++ [⟨.listRoutes, reply⟩] := by simp
  cases reply with
  | ok routes =>
    change KeepsTo _ _ _ _ ((store options .list (.list routes)).bind _)
    refine KeepsTo.bind (keepsTo_store stands (Knowledge.loaded_of_listRoutes mem)) ?_
    rintro later _ longer stands
    exact ⟨stands, Knowledge.loaded_of_listRoutes (longer.subset mem)⟩
  | error error => exact ⟨stands, Knowledge.loaded_of_listRoutes mem⟩

/-- Letting go of a shared load. -/
theorem keepsTo_release {number : Nat} {result : Except StoreError (List Route)}
    (stands : Stands (some number) none past) (right : ¬ k.misled past → k.loaded result) :
    ((request (.releaseLoad number)).bind fun _ => done result).KeepsTo
      k.lookupAllows (granted accepts)
      (fun past result => Stands none none past ∧ (¬ k.misled past → k.loaded result)) past := by
  refine ⟨stands.joined, fun released _ => ?_⟩
  have longer := List.prefix_append past [⟨.releaseLoad number, released⟩]
  exact ⟨stands.append ⟨.releaseLoad number, released⟩,
    fun trusted => right (Knowledge.not_misgiven_of_prefix longer trusted)⟩

/-- A load that is shared ends with what it, or the load of somebody else, was brought. -/
theorem keepsTo_sharing {fetch : Program (Except StoreError (List Route))}
    (stands : Stands none none past)
    (fetches : ∀ number past, Stands (some number) none past →
      fetch.KeepsTo k.lookupAllows (granted accepts) (fun past result =>
        Stands (some number) none past ∧ (¬ k.misloaded past → k.loaded result)) past) :
    (sharing fetch).KeepsTo k.lookupAllows (granted accepts)
      (fun past result => Stands none none past ∧ (¬ k.misled past → k.loaded result)) past := by
  refine ⟨stands.joined, fun number _ => ?_⟩
  have stands := stands.append ⟨.joinLoad, number⟩
  refine ⟨stands.joined, fun turn _ => ?_⟩
  have stands := stands.append ⟨.awaitLoad number, turn⟩
  cases turn with
  | follow result =>
    have mem : (⟨.awaitLoad number, .follow result⟩ : Event) ∈
      past ++ [⟨.joinLoad, number⟩] ++ [⟨.awaitLoad number, .follow result⟩] := by simp
    exact keepsTo_release stands (Knowledge.loaded_of_awaitLoad mem)
  | lead =>
    -- who runs the load settles it with what it has loaded itself
    change KeepsTo _ _ _ _ (fetch.bind _)
    refine KeepsTo.bind (fetches number _ stands) ?_
    rintro past result _ ⟨stands, right⟩
    refine ⟨⟨stands.joined, right⟩, fun settled _ => ?_⟩
    have longer := List.prefix_append past [⟨.settleLoad number result, settled⟩]
    exact keepsTo_release (stands.append ⟨.settleLoad number result, settled⟩)
      fun trusted => right (Knowledge.not_misgiven_of_prefix longer
        (Knowledge.not_misloaded_of_not_misled trusted))

theorem keepsTo_loadRoutes (stands : Stands none none past) :
    (loadRoutes options).KeepsTo k.lookupAllows (granted accepts)
      (fun past result => Stands none none past ∧ (¬ k.misled past → k.loaded result)) past := by
  rw [loadRoutes]
  split
  · exact keepsTo_sharing stands fun _ _ => keepsTo_fetchRoutes
  · refine (keepsTo_fetchRoutes stands).mono ?_
    exact fun past result kept =>
      ⟨kept.1, fun trusted => kept.2 (Knowledge.not_misloaded_of_not_misled trusted)⟩

theorem keepsTo_routes (stands : Stands none none past) :
    (routes options).KeepsTo k.lookupAllows (granted accepts)
      (fun past result => Stands none none past ∧ (¬ k.misled past → k.loaded result)) past := by
  refine KeepsTo.bind (keepsTo_cachedRoutes stands) ?_
  rintro past (_ | routes) _ ⟨stands, right⟩
  · exact keepsTo_loadRoutes stands
  · exact ⟨stands, right routes rfl⟩

/-! ### Answers -/

/-- What is found in a right list is cached, recorded, and a right answer. -/
theorem keepsTo_scan {path : String} {routes : List Route} (closed : k.Closed accepts)
    (stands : Stands none none past) (right : ¬ k.misled past → k.lists routes) :
    (scan options path routes).KeepsTo k.lookupAllows (granted accepts)
      (fun past result => Stands none none past ∧
        (¬ k.misled past → k.explains accepts path (result.map (·.1)))) past := by
  refine KeepsTo.bind (keepsTo_firstAccepting stands) ?_
  rintro later (_ | route) longer ⟨stands, found⟩
  · refine ⟨stands, fun trusted => ⟨rfl, routes, ?_, found.symm⟩⟩
    exact right (Knowledge.not_misgiven_of_prefix longer trusted)
  · have answers (past : List Event) (longer : later <+: past) (trusted : ¬ k.misled past) :
        k.answers path route := by
      refine closed routes path route (right ?_) found.symm
      exact Knowledge.not_misgiven_of_prefix (‹_ <+: later›.trans longer) trusted
    change KeepsTo _ _ _ _ ((store options (.single path) (.single route)).bind _)
    refine KeepsTo.bind (keepsTo_store stands (answers later (List.prefix_refl _))) ?_
    rintro past _ longer stands
    refine ⟨stands.owed, fun recorded _ => ?_⟩
    exact ⟨stands.append ⟨.remember path route.path, recorded⟩,
      answers _ (longer.trans (List.prefix_append _ _))⟩

theorem keepsTo_lookUp {path : String} (closed : k.Closed accepts)
    (stands : Stands none none past) :
    (lookUp options path).KeepsTo k.lookupAllows (granted accepts)
      (fun past result => Stands none none past ∧
        (¬ k.misled past → ¬ k.mistold past →
          k.explains accepts path (result.map (·.1)))) past := by
  refine KeepsTo.bind (keepsTo_cachedRoute stands) ?_
  rintro past (_ | route) _ ⟨stands, told⟩
  · refine KeepsTo.bind (keepsTo_routes stands) ?_
    rintro past (error | routes) _ ⟨stands, right⟩
    · exact ⟨stands, fun trusted _ => right trusted⟩
    · refine (keepsTo_scan closed stands right).mono ?_
      exact fun past result kept => ⟨kept.1, fun trusted _ => kept.2 trusted⟩
  · exact ⟨stands, fun _ trusted => told route rfl trusted⟩

theorem keepsTo_resolve {path : String} (closed : k.Closed accepts)
    (stands : Stands none none past) :
    (resolve options path).KeepsTo k.lookupAllows (granted accepts)
      (fun past result => Stands none none past ∧
        (¬ k.misled past → ¬ k.mistold past → k.explains accepts path result)) past := by
  refine KeepsTo.bind (keepsTo_lookUp closed stands) ?_
  rintro past result _ ⟨stands, right⟩
  refine ⟨trivial, fun noted _ => ?_⟩
  have longer := List.prefix_append past [⟨.note (.lookup (outcomeOf result)), noted⟩]
  exact ⟨stands.note, fun trusted told => right (Knowledge.not_misgiven_of_prefix longer trusted)
    (Knowledge.not_mistold_of_prefix longer told)⟩

end Service

/-- What only looks: the operations that answer from the routes and change none of them. -/
def Operation.IsLookup : Operation → Prop
  | .routes | .resolve _ | .permits _ _ => True
  | _ => False

/-- **Lookups keep to the protocol**: a lookup that was neither misled nor mistold ends with a right
answer, and with nothing owed and no load joined. -/
theorem Operation.keepsTo_program {σ : Type} {d : Deployment σ} {k : Knowledge}
    {operation : Operation} (looks : operation.IsLookup) (closed : k.Closed d.accepts) :
    (operation.program d.options).KeepsTo k.lookupAllows (granted d.accepts)
      (fun past answer => Stands none none past ∧
        (¬ k.misled past → ¬ k.mistold past → k.explainsAnswer d operation answer)) [] := by
  cases operation with
  | routes =>
    refine Program.KeepsTo.bind (Service.keepsTo_routes stands_nil) ?_
    exact fun past result _ kept => ⟨kept.1, fun trusted _ => kept.2 trusted⟩
  | resolve path =>
    exact Program.KeepsTo.bind (Service.keepsTo_resolve closed stands_nil)
      fun past result _ kept => kept
  | permits path method =>
    refine Program.KeepsTo.bind ?_ fun past verdict _ kept => kept
    refine Program.KeepsTo.bind (Service.keepsTo_resolve closed stands_nil) ?_
    exact fun past result _ kept =>
      ⟨kept.1, fun trusted told => ⟨result, kept.2 trusted told, rfl⟩⟩
  | add route => cases looks
  | update route => cases looks
  | delete path => cases looks
  | recordCalls path calls time => cases looks
  | clear => cases looks

end GatewayRouting
