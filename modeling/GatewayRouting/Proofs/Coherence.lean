import GatewayRouting.Proofs.Covering
import GatewayRouting.Proofs.Registry
import GatewayRouting.Proofs.Tracking
import Mathlib.Data.List.Forall2

/-!
# The cache is coherent

As long as no erasure fails and the memo keeps its records, answers are up to date: the same as the
table would give at that moment, except that the counters of a route may be older. It does not
matter which reads and writes fail, which entries get lost, and when the table is out of reach.

What counts as right is what the current table says, up to counters (`Knowledge.upToCounters`), so
it changes with the table. What holds after every operation (`Coherent`) is that the cache holds
only what is right and that every entry of a path is recorded. A lookup keeps that. A change that
the table agrees to makes everything wrong at once, and then finds every entry and erases it
(`Coherent.nothing_held`); one that the table refuses changes nothing; and a change of counters
changes nothing that is compared.
-/

namespace GatewayRouting

/-! ## Up to counters -/

namespace Route

variable {a b c : Route}

theorem sameUpToCounters_refl (route : Route) : route.SameUpToCounters route := rfl

theorem SameUpToCounters.trans (first : a.SameUpToCounters b) (second : b.SameUpToCounters c) :
    a.SameUpToCounters c := by
  rw [SameUpToCounters] at first second ⊢
  rw [← second, ← first]

theorem SameUpToCounters.path_eq (same : a.SameUpToCounters b) : a.path = b.path := by
  rw [SameUpToCounters] at same
  rw [← same]

theorem SameUpToCounters.methods_eq (same : a.SameUpToCounters b) : a.methods = b.methods := by
  rw [SameUpToCounters] at same
  rw [← same]

end Route

/-- Two lists of routes that differ in counters at most. -/
abbrev SameRoutes : List Route → List Route → Prop :=
  List.Forall₂ Route.SameUpToCounters

theorem SameRoutes.refl (routes : List Route) : SameRoutes routes routes :=
  List.forall₂_same.mpr fun route _ => route.sameUpToCounters_refl

theorem SameRoutes.trans {a b c : List Route} (first : SameRoutes a b) (second : SameRoutes b c) :
    SameRoutes a c := by
  induction first generalizing c with
  | nil => exact second
  | cons same rest ih =>
    cases second with
    | cons same' rest' => exact .cons (same.trans same') (ih rest')

/-- Recording calls changes counters only. -/
theorem Table.sameRoutes_recordCalls {table after : Table} {path : String} {calls time : Int64}
    (recorded : table.recordCalls path calls time = .ok after) :
    SameRoutes table.routes after.routes := by
  obtain ⟨_, rfl⟩ := of_recordCalls recorded
  rw [routes_modify]
  refine List.forall₂_map_right_iff.mpr (List.forall₂_same.mpr fun route _ => ?_)
  split <;> rfl

variable {accepts : String → String → Bool} {path : String} {routes current : List Route}

/-- Lists that differ in counters have first matches that differ in counters. -/
theorem SameRoutes.firstMatch_eq_some (same : SameRoutes routes current) {route : Route}
    (found : firstMatch accepts path routes = some route) :
    ∃ now, firstMatch accepts path current = some now ∧ route.SameUpToCounters now := by
  induction same with
  | nil => cases found
  | @cons a b as bs first rest ih =>
    simp only [firstMatch, List.find?_cons] at found ih ⊢
    rw [← first.path_eq]
    cases accepted : accepts a.path path with
    | true =>
      rw [accepted] at found
      exact ⟨b, rfl, Option.some.inj found ▸ first⟩
    | false =>
      rw [accepted] at found
      exact ih found

/-- A list has no match if one that differs in counters has none. -/
theorem SameRoutes.firstMatch_eq_none (same : SameRoutes routes current)
    (missing : firstMatch accepts path routes = none) :
    ∀ route ∈ current, accepts route.path path = false := by
  induction same with
  | nil => rintro route ⟨⟩
  | @cons a b as bs first rest ih =>
    simp only [firstMatch, List.find?_cons] at missing ih
    cases accepted : accepts a.path path with
    | true =>
      rw [accepted] at missing
      cases missing
    | false =>
      rw [accepted] at missing
      intro route mem
      rcases List.mem_cons.mp mem with rfl | mem
      · rw [← first.path_eq, accepted]
      · exact ih missing route mem

/-- What a table says up to counters, and why it is out of reach. -/
def Knowledge.upToCounters (accepts : String → String → Bool) (table : Table)
    (outage : Option String) : Knowledge where
  lists routes := SameRoutes routes table.routes
  answers path route :=
    ∃ current, firstMatch accepts path table.routes = some current ∧
      route.SameUpToCounters current
  failures error := ∃ reason, outage = some reason ∧ error = .unavailable reason

theorem Knowledge.upToCounters_closed (accepts : String → String → Bool) (table : Table)
    (outage : Option String) : (upToCounters accepts table outage).Closed accepts :=
  fun _ _ _ same found => SameRoutes.firstMatch_eq_some same found

/-! ## Every operation keeps the cache coherent -/

variable {σ : Type} {d : Deployment σ} {contents : d.cache.Contents} {world start : World σ}
  {operation : Operation} {q : Request} {past : List Event}

theorem Knowledge.coversTable_upToCounters :
    (upToCounters d.accepts world.table world.outage).CoversTable world where
  list := SameRoutes.refl _
  outage := fun away => ⟨_, away, rfl⟩

/-- The cache holds only what the table says up to counters, and each entry of a path is
recorded. -/
structure Coherent (contents : d.cache.Contents) (world : World σ) : Prop where
  /-- what the cache holds is right -/
  covers (outage : Option String) :
    (Knowledge.upToCounters d.accepts world.table outage).CoversCache contents world
  /-- what the cache holds is recorded -/
  tracked (path : String) : Tracked contents path none false world

theorem Coherent.lookup (coherent : Coherent contents world) (surely : d.cache.ErasesSurely)
    (looks : operation.IsLookup)
    (takesIn : (operation.program d.options).Always d.handler contents.TakesIn world) :
    Coherent contents (d.ask operation world).2 where
  covers := by
    intro outage
    obtain ⟨_, covers, same⟩ := (coherent.covers world.outage).lookup
      Knowledge.coversTable_upToCounters (Knowledge.upToCounters_closed _ _ _) looks
    rw [same]
    exact covers.mono (fun _ right => right) fun _ _ right => right
  tracked := by
    intro path
    have tracked := (coherent.tracked path).lookup looks takesIn
    have fine : erasureFailed (d.eventsOf operation world) = false := not_erasureFailed surely _ _
    rwa [leftAfter_of_not_erasureFailed fine] at tracked

/-- A request that does not change the table as lookups see it changes counters at most. -/
theorem sameRoutes_handler (allowed : operation.upkeepAllows past q)
    (unchanged : ((progress past).after ⟨q, (d.handler q world).1⟩).changed = false) :
    SameRoutes world.table.routes (d.handler q world).2.table.routes := by
  have refused (same : (d.handler q world).2 = world) :
      SameRoutes world.table.routes (d.handler q world).2.table.routes := by
    rw [same]
    exact SameRoutes.refl _
  by_cases changes : q.ChangesTable
  · cases q with
    | addRoute route =>
      cases replied : (d.handler (.addRoute route) world).1 with
      | ok done => cases replied ▸ unchanged
      | error error => exact refused (World.change_of_refused replied)
    | updateRoute route =>
      cases replied : (d.handler (.updateRoute route) world).1 with
      | ok done => cases replied ▸ unchanged
      | error error => exact refused (World.change_of_refused replied)
    | deleteRoute path =>
      cases replied : (d.handler (.deleteRoute path) world).1 with
      | ok done => cases replied ▸ unchanged
      | error error => exact refused (World.change_of_refused replied)
    | recordCalls path calls time =>
      obtain ⟨error, replied⟩ | ⟨table, _, agrees, replied⟩ :=
        World.change_cases world (·.recordCalls path calls time)
      · have replied : d.handler (.recordCalls path calls time) world = (.error error, world) :=
          replied
        rw [replied]
        exact SameRoutes.refl _
      · have replied : d.handler (.recordCalls path calls time) world =
            (.ok (), { world with table }) := replied
        rw [replied]
        exact Table.sameRoutes_recordCalls agrees
    | _ => exact changes.elim
  · rw [Deployment.table_handler changes]
    exact SameRoutes.refl _

/-- An operation that does not look and has not changed the table has changed counters at most. -/
theorem sameRoutes_upkeep (changes : ¬ operation.IsLookup)
    (unchanged : (progress (d.eventsOf operation world)).changed = false) :
    SameRoutes world.table.routes (d.ask operation world).2.table.routes := by
  have step (past : List Event) (q : Request) (now : World σ)
      (same : (progress past).changed = false → SameRoutes world.table.routes now.table.routes)
      (allowed : operation.upkeepAllows past q)
      (unchanged : (progress (past ++ [⟨q, (d.handler q now).1⟩])).changed = false) :
      SameRoutes world.table.routes (d.handler q now).2.table.routes := by
    rw [progress_append] at unchanged
    have before := unchanged
    rw [Progress.changed_after, Bool.or_eq_false_iff] at before
    exact (same before.1).trans (sameRoutes_handler allowed unchanged)
  exact Deployment.upkeep_induction changes step (fun _ => SameRoutes.refl _) unchanged

/-- After a complete operation the cache holds nothing that could be believed. -/
theorem Coherent.nothing_held (coherent : Coherent contents world) (surely : d.cache.ErasesSurely)
    (changes : ¬ operation.IsLookup)
    (all : (progress (d.eventsOf operation world)).Complete)
    (listed : operation = .clear → (progress (d.eventsOf operation world)).listed = true)
    (key : Key) (value : Cached) :
    ¬ contents.holds (d.ask operation world).2.cache key value := by
  have fine : erasureFailed (d.eventsOf operation world) = false := not_erasureFailed surely _ _
  have nothing (path : String) :
      (¬ contents.holds (d.ask operation world).2.cache .list value) ∧
        ¬ contents.holds (d.ask operation world).2.cache (.single path) value := by
    have swept := Swept.upkeep changes fun _ held => (coherent.tracked path).known operation held
    obtain ⟨list, entry, _⟩ := swept.of_complete all listed
    rw [leftAfter_of_not_erasureFailed fine] at list entry
    exact ⟨fun held => Bool.noConfusion (list value held),
      fun held => Bool.noConfusion (entry value held)⟩
  cases key with
  | list => exact (nothing "").1
  | single path => exact (nothing path).2

theorem Coherent.upkeep (coherent : Coherent contents world) (surely : d.cache.ErasesSurely)
    (changes : ¬ operation.IsLookup) : Coherent contents (d.ask operation world).2 where
  covers := by
    intro outage
    have covers := (coherent.covers outage).upkeep changes
    obtain ⟨all, listed⟩ | nothing := (Deployment.ends_ask changes).complete_or_untouched
    -- the table may say something else now, but nothing is held any more
    · have nothing := coherent.nothing_held surely changes all listed
      exact ⟨fun held => absurd held (nothing _ _), covers.idle⟩
    · have same := sameRoutes_upkeep changes nothing.changed
      refine covers.mono (fun routes right => right.trans same) ?_
      rintro path route ⟨old, found, like⟩
      obtain ⟨now, found, like'⟩ := same.firstMatch_eq_some found
      exact ⟨now, found, like.trans like'⟩
  tracked := by
    intro path
    have tracked := (coherent.tracked path).upkeep changes
    have fine : erasureFailed (d.eventsOf operation world) = false := not_erasureFailed surely _ _
    rwa [leftAfter_of_not_erasureFailed fine] at tracked

/-- What happens keeps the cache coherent. -/
theorem Coherent.meet {happening : Happening σ} (coherent : Coherent contents world)
    (surely : d.cache.ErasesSurely) (loses : contents.OnlyLoses world happening)
    (keeps : d.MemoKeeps contents world happening) :
    Coherent contents (d.meet world happening) := by
  cases happening with
  | asked operation =>
    by_cases looks : operation.IsLookup
    · exact coherent.lookup surely looks keeps
    · exact coherent.upkeep surely looks
  | outage reason =>
    exact ⟨fun outage => ⟨(coherent.covers outage).held, (coherent.covers outage).idle⟩,
      fun path => ⟨(coherent.tracked path).entry, (coherent.tracked path).apart⟩⟩
  | pause nanoseconds cache =>
    exact ⟨fun outage => (coherent.covers outage).pause loses,
      fun path => (coherent.tracked path).pause loses keeps⟩

/-! ## Answers -/

/-- An answer to what only looks that is up to date: what the table would answer now, up to
counters, or the reason why it is out of reach. -/
def Deployment.UpToDate (d : Deployment σ) (now : World σ) : Operation → Answer → Prop
  | .routes, .routes (.ok routes) => List.Forall₂ Route.SameUpToCounters routes now.table.routes
  | .routes, .routes (.error error) =>
    ∃ reason, now.outage = some reason ∧ error = .unavailable reason
  | .resolve path, .route (.ok route) =>
    ∃ current, firstMatch d.accepts path now.table.routes = some current ∧
      route.SameUpToCounters current
  | .resolve path, .route (.error (.noMatch missing)) =>
    missing = path ∧ ∀ route ∈ now.table.routes, d.accepts route.path path = false
  | .permits path method, .verdict (.ok allowed) =>
    ∃ current, firstMatch d.accepts path now.table.routes = some current ∧
      allowed = Service.letsThrough d.options current method
  | .permits path _, .verdict (.error (.noMatch missing)) =>
    missing = path ∧ ∀ route ∈ now.table.routes, d.accepts route.path path = false
  | .resolve _, .route (.error (.store error)) | .permits _ _, .verdict (.error (.store error)) =>
    ∃ reason, now.outage = some reason ∧ error = .unavailable reason
  | _, _ => False

/-- A route that differs in counters lets the same methods through. -/
theorem Service.letsThrough_eq {options : Options} {a b : Route} (same : a.SameUpToCounters b)
    (method : String) : letsThrough options a method = letsThrough options b method := by
  rw [letsThrough, letsThrough, Route.allows, Route.allows, same.methods_eq]

/-- What is right about the table up to counters is up to date. -/
theorem Deployment.upToDate_of_explains {answer : Answer}
    (right : (Knowledge.upToCounters d.accepts world.table world.outage).explainsAnswer d operation
      answer) : d.UpToDate world operation answer := by
  cases operation with
  | routes =>
    cases answer with
    | routes result => cases result <;> exact right
    | _ => exact right.elim
  | resolve path =>
    cases answer with
    | route result =>
      rcases result with (missing | error) | route
      · obtain ⟨rfl, routes, same, none⟩ := right
        exact ⟨rfl, same.firstMatch_eq_none none⟩
      · exact right
      · exact right
    | _ => exact right.elim
  | permits path method =>
    cases answer with
    | verdict verdict =>
      obtain ⟨result, right, rfl⟩ := right
      rcases result with (missing | error) | route
      · obtain ⟨rfl, routes, same, none⟩ := right
        exact ⟨rfl, same.firstMatch_eq_none none⟩
      · exact right
      · obtain ⟨current, found, same⟩ := right
        exact ⟨current, found, Service.letsThrough_eq same method⟩
    | _ => exact right.elim
  | _ => exact right.elim

/-- A course keeps the cache coherent. -/
theorem coherent_course {table : Table} {cache : σ} {memo : Memo} {happenings : List (Happening σ)}
    (surely : d.cache.ErasesSurely) (empty : ∀ key value, ¬ contents.holds cache key value)
    (loses : d.Along contents.OnlyLoses (World.start table cache memo) happenings)
    (keeps : d.Along (d.MemoKeeps contents) (World.start table cache memo) happenings) :
    Coherent contents (d.course (World.start table cache memo) happenings) := by
  refine (loses.and keeps).course (fun world happening rule coherent =>
    coherent.meet surely rule.1 rule.2) ?_
  refine ⟨fun outage => ⟨fun held => absurd held (empty _ _), rfl⟩, fun path => ?_⟩
  exact ⟨fun held => absurd held (empty _ _), Bool.noConfusion⟩

/-- **Answers are up to date.** Let no erasure fail, and let the memo keep each record as long as
the entry that it records. Then at every moment of a course that starts with an empty cache, every
lookup answers what the table would answer, up to counters, and fails only for the reason why the
table is out of reach. Reads and writes may fail, entries may get lost, and the table may get out of
reach and come back. -/
theorem answers_up_to_date (d : Deployment σ) (contents : d.cache.Contents)
    (surely : d.cache.ErasesSurely) (table : Table) (cache : σ) (memo : Memo)
    (happenings : List (Happening σ)) (empty : ∀ key value, ¬ contents.holds cache key value)
    (loses : d.Along contents.OnlyLoses (World.start table cache memo) happenings)
    (keeps : d.Along (d.MemoKeeps contents) (World.start table cache memo) happenings)
    (operation : Operation) (looks : operation.IsLookup) :
    let now := d.course (World.start table cache memo) happenings
    d.UpToDate now operation (d.ask operation now).1 := by
  intro now
  have coherent : Coherent contents now := coherent_course surely empty loses keeps
  exact Deployment.upToDate_of_explains ((coherent.covers now.outage).lookup
    Knowledge.coversTable_upToCounters (Knowledge.upToCounters_closed _ _ _) looks).1

/-- A cache of which the first and the ninth call fail, unless they erase. -/
def twiceFailing : Scripted (Entries Cached) where
  inner := []
  script := [true, false, false, false, false, false, false, false, true]

/-- A route is looked up, replaced, looked up again and called; then the list gets lost, and the
table is out of reach. -/
def replacedThenAway : List (Happening (Scripted (Entries Cached))) :=
  [.asked (.resolve "/users/42"), .asked (.update (userRoute "http://new")),
    .asked (.resolve "/users/42"), .asked (.recordCalls "/users/:id" 3 40),
    .pause 5 { inner := [(.single "/users/42", .single (userRoute "http://new"))] },
    .outage (some "down")]

/-- The new route is found without the table, with the counters it had when it was cached. -/
theorem new_route_without_table :
    let d : Deployment (Scripted (Entries Cached)) :=
      { cache := Scripted.backend plainCache false, options := { sharedLoads := true } }
    let start := World.start (.single (userRoute "http://old")) twiceFailing (.empty 100 1000)
    let now := d.course start replacedThenAway
    (d.ask (.resolve "/users/42") now).1 = .route (.ok (userRoute "http://new")) ∧
      now.table.routes = [{ userRoute "http://new" with callCount := 3, totalResponseTime := 40 }] ∧
      d.UpToDate now (.resolve "/users/42") (d.ask (.resolve "/users/42") now).1 := by
  refine ⟨rfl, rfl, ?_⟩
  have empty (key : Key) (value : Cached) :
      ¬ (Scripted.contents plainContents false).holds twiceFailing key value := by
    rintro ⟨⟩
  refine answers_up_to_date _ (Scripted.contents plainContents false)
    (Scripted.erasesSurely plainCache_erasesSurely) _ twiceFailing _ replacedThenAway empty ?_ ?_
    (.resolve "/users/42") trivial
  · refine ⟨trivial, trivial, trivial, trivial, fun key value held => ?_, trivial, trivial⟩
    obtain ⟨rfl, rfl⟩ : Key.single "/users/42" = key ∧
        Cached.single (userRoute "http://new") = value := by
      simpa [Scripted.contents, plainContents, Entries.find?] using held
    rfl
  · refine ⟨Deployment.memoKeeps_asked (by decide), Deployment.memoKeeps_asked (by decide),
      Deployment.memoKeeps_asked (by decide), Deployment.memoKeeps_asked (by decide),
      fun path value mem _ => mem, trivial, trivial⟩

end GatewayRouting
