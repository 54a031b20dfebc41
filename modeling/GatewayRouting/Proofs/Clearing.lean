import GatewayRouting.Proofs.Tracking

/-!
# What a clearing clears

A clearing erases the list, the entry of every registered path, and every entry that the memo has
recorded. If each of its erasures succeeds, then nothing is left of these. What is not among them is
the entry of a request path whose erasure has failed earlier: a change forgets the path before it
tries to erase the entry, and nothing puts it back.

So a clearing clears all paths but the ones that were left behind and are not registered themselves,
and of these it clears none. That there can be such a path is shown by a short course.
-/

namespace GatewayRouting

variable {σ : Type} {d : Deployment σ} {contents : d.cache.Contents} {world start : World σ}
  {q : Request} {past : List Event} {path : String}

/-! ## What is not erased -/

/-- While a clearing runs, a path that is neither registered nor recorded stays unknown to it. -/
structure Unknown (path : String) (start : World σ) (past : List Event) (world : World σ) :
    Prop where
  /-- the path is not due -/
  due : path ∉ (progress past).due
  /-- nor recorded -/
  memo : path ∉ world.memo.paths
  /-- nor will it be found in the table -/
  table : world.table = start.table
  /-- its entry was not erased -/
  erased (reply : Except CacheError Unit) : ⟨.eraseCache (.single path), reply⟩ ∉ past

theorem Unknown.due_step (unknown : Unknown path start past world)
    (unregistered : path ∉ start.table.routes.map (·.path))
    (allowed : Operation.clear.upkeepAllows past q) :
    path ∉ (progress (past ++ [⟨q, (d.handler q world).1⟩])).due := by
  rw [progress_append]
  cases q with
  | listRoutes =>
    cases replied : (d.handler .listRoutes world).1 with
    | ok routes =>
      have same := Deployment.routes_of_listRoutes replied
      intro mem
      obtain due | registered := List.mem_append.mp mem
      · exact unknown.due due
      · rw [← same, unknown.table] at registered
        exact unregistered registered
    | error error => exact unknown.due
  | recorded =>
    intro mem
    obtain due | recorded := List.mem_append.mp mem
    · exact unknown.due due
    · exact unknown.memo recorded
  | eraseCache key =>
    cases key with
    | list => exact unknown.due
    | single other => exact fun mem => unknown.due (List.mem_of_mem_erase mem)
  | forget other => exact unknown.due
  | note observation => exact unknown.due
  | addRoute route => cases allowed.1
  | updateRoute route => cases allowed.1
  | deleteRoute other => cases allowed.1
  | recordCalls other calls time => cases allowed.1
  | _ => exact allowed.elim

theorem Unknown.step (unknown : Unknown path start past world)
    (unregistered : path ∉ start.table.routes.map (·.path))
    (allowed : Operation.clear.upkeepAllows past q) :
    Unknown path start (past ++ [⟨q, (d.handler q world).1⟩]) (d.handler q world).2 where
  due := unknown.due_step unregistered allowed
  memo := by
    intro mem
    obtain old | ⟨pattern, rfl⟩ := Deployment.paths_of_paths_handler mem
    · exact unknown.memo old
    · exact allowed
  table := by
    rw [Deployment.table_handler, unknown.table]
    cases q <;> first | exact allowed.elim | exact id | exact fun _ => nomatch allowed.1
  erased := by
    intro reply mem
    obtain old | new := List.mem_append.mp mem
    · exact unknown.erased reply old
    · cases List.mem_singleton.mp new
      exact unknown.due allowed

/-- A clearing does not erase the entry of a path that is neither registered nor recorded. -/
theorem not_erased_of_unknown (recorded : path ∉ world.memo.paths)
    (unregistered : path ∉ world.table.routes.map (·.path)) (reply : Except CacheError Unit) :
    ⟨.eraseCache (.single path), reply⟩ ∉ d.eventsOf .clear world := by
  have start : Unknown path world [] world :=
    ⟨List.not_mem_nil, recorded, rfl, fun _ => List.not_mem_nil⟩
  have unknown : Unknown path world (d.eventsOf .clear world) (d.ask .clear world).2 :=
    Deployment.upkeep_induction id (fun _ _ _ unknown allowed => unknown.step unregistered allowed)
      start
  exact unknown.erased reply

/-! ## What is found afterwards -/

theorem cachedRoute_eq_none
    (nothing : ∀ value, ¬ contents.holds world.cache (.single path) value) :
    ((Service.cachedRoute path).run d.handler world).1 = none := by
  rw [Service.cachedRoute, Service.cachedAs, Program.bind_eq, Program.run_bind]
  have missed : ((Service.cached (.single path)).run d.handler world).1 = none := by
    rw [Service.cached, Program.bind_eq, Program.request_bind, Program.run_ask]
    cases replied : (d.handler (.readCache (.single path)) world).1 with
    | ok found =>
      cases found with
      | none => rfl
      | some value => exact absurd (contents.holds_of_read replied) (nothing value)
    | error error => rfl
  rw [missed]
  rfl

/-- What is found by trying the patterns is no hit. -/
theorem outcome_of_scan {options : Options} {routes : List Route} {handler : Handler σ} {state : σ}
    {route : Route} {outcome : Outcome}
    (found : ((Service.scan options path routes).run handler state).1 = .ok (route, outcome)) :
    outcome = .patternMatch := by
  rw [Service.scan, Program.bind_eq, Program.run_bind] at found
  cases accepting : ((Service.firstAccepting path routes).run handler state).1 with
  | none =>
    rw [accepting] at found
    cases found
  | some accepted =>
    rw [accepting] at found
    simp only [Program.bind_eq, Program.run_bind] at found
    cases found
    rfl

/-- Without an entry of its own, a path is not found under it. -/
theorem not_cacheHit (nothing : ∀ value, ¬ contents.holds world.cache (.single path) value)
    (route : Route) :
    ((Service.lookUp d.options path).run d.handler world).1 ≠ .ok (route, .cacheHit) := by
  intro hit
  rw [Service.lookUp, Program.bind_eq, Program.run_bind, cachedRoute_eq_none nothing] at hit
  dsimp only at hit
  rw [Program.bind_eq, Program.run_bind] at hit
  split at hit
  · cases outcome_of_scan hit
  · cases hit

/-! ## What is erased -/

/-- A clearing that is done is complete. -/
theorem complete_of_clear (done : (d.ask .clear world).1 = .done (.ok ())) :
    (progress (d.eventsOf .clear world)).Complete ∧
      (Operation.clear = .clear → (progress (d.eventsOf .clear world)).listed = true) := by
  have ends : Operation.clear.Ends (d.eventsOf .clear world) (d.ask .clear world).1 :=
    Deployment.ends_ask id
  rw [done] at ends
  cases ends with
  | complete all listed changed => exact ⟨all, listed⟩
  | counted counts nothing => cases counts

/-- If all of its erasures succeed, then a clearing leaves no list. -/
theorem list_not_held_of_clear (done : (d.ask .clear world).1 = .done (.ok ()))
    (fine : erasureFailed (d.eventsOf .clear world) = false) (value : Cached) :
    ¬ contents.holds (d.ask .clear world).2.cache .list value := by
  intro held
  -- the list is cleared whatever is known of any path
  have swept : Swept contents .clear "" true world (d.eventsOf .clear world)
      (d.ask .clear world).2 := Swept.upkeep id fun _ _ => .inl rfl
  obtain ⟨all, listed⟩ := complete_of_clear done
  have behind := (swept.of_complete all listed).1 value held
  rw [leftAfter_of_not_erasureFailed fine] at behind
  cases behind

/-- If all of its erasures succeed, then a clearing leaves no entry of a path that is registered or
was not left behind. -/
theorem entry_not_held_of_clear {left : Bool} (tracked : Tracked contents path none left world)
    (known : left = false ∨ path ∈ world.table.routes.map (·.path))
    (done : (d.ask .clear world).1 = .done (.ok ()))
    (fine : erasureFailed (d.eventsOf .clear world) = false) (value : Cached) :
    ¬ contents.holds (d.ask .clear world).2.cache (.single path) value := by
  intro held
  have accounted (value : Cached) (held : contents.holds world.cache (.single path) value) :
      false = true ∨ path ∈ world.memo.paths ∨
        (Operation.clear = .clear ∧ path ∈ world.table.routes.map (·.path)) := by
    obtain behind | found := tracked.known .clear held
    · obtain kept | registered := known
      · cases behind.symm.trans kept
      · exact .inr (.inr ⟨rfl, registered⟩)
    · exact .inr found
  have swept : Swept contents .clear path false world (d.eventsOf .clear world)
      (d.ask .clear world).2 := Swept.upkeep id accounted
  obtain ⟨all, listed⟩ := complete_of_clear done
  have behind := (swept.of_complete all listed).2.1 value held
  rw [leftAfter_of_not_erasureFailed fine] at behind
  cases behind

/-- **What a clearing clears.** Let the memo keep each record as long as the entry that it records;
any calls of the cache may have failed. If a clearing is done and all of its own erasures have
succeeded, then the cache holds no list. It holds no entry of a path either, and the next lookup of
the path is no hit, unless the path was left behind by a failed erasure and is not registered. Such
a path's entry the clearing does not try to erase. -/
theorem clear_clears_unless_left_behind (d : Deployment σ) (contents : d.cache.Contents)
    (table : Table) (cache : σ) (memo : Memo) (happenings : List (Happening σ)) (now : World σ)
    (reached : d.course (World.start table cache memo) happenings = now)
    (empty : ∀ key value, ¬ contents.holds cache key value)
    (loses : d.Along contents.OnlyLoses (World.start table cache memo) happenings)
    (keeps : d.Along (d.MemoKeeps contents) (World.start table cache memo) happenings)
    (done : (d.ask .clear now).1 = .done (.ok ()))
    (fine : erasureFailed (d.eventsOf .clear now) = false) :
    let events := d.events (World.start table cache memo) happenings
    let after := (d.ask .clear now).2
    (∀ value, ¬ contents.holds after.cache .list value) ∧
    (∀ path, ¬ (leftBehind path events ∧ path ∉ now.table.routes.map (·.path)) →
      (∀ value, ¬ contents.holds after.cache (.single path) value) ∧
        ∀ route, ((Service.lookUp d.options path).run d.handler after).1 ≠
          .ok (route, .cacheHit)) ∧
    ∀ path, leftBehind path events → path ∉ now.table.routes.map (·.path) →
      ∀ reply, ⟨.eraseCache (.single path), reply⟩ ∉ d.eventsOf .clear now := by
  intro events after
  have tracked (path : String) :
      Tracked contents path none (leftAfter (.single path) false events) now := by
    rw [← reached]
    exact tracked_course empty loses keeps path
  refine ⟨list_not_held_of_clear done fine, fun path known => ?_, ?_⟩
  · have nothing (value : Cached) : ¬ contents.holds after.cache (.single path) value := by
      refine entry_not_held_of_clear (tracked path) ?_ done fine value
      by_cases registered : path ∈ now.table.routes.map (·.path)
      · exact .inr registered
      · exact .inl (Bool.eq_false_iff.mpr fun behind => known ⟨behind, registered⟩)
    exact ⟨nothing, not_cacheHit nothing⟩
  · intro path behind unregistered
    exact not_erased_of_unknown ((tracked path).apart behind) unregistered

/-- A cache of which only the seventh call fails. -/
def onceFailing : Scripted (Entries Cached) where
  inner := []
  script := [false, false, false, false, false, false, true]

/-- A route is looked up and then replaced, and of the erasures that follow the one of the looked up
path fails. A clearing without any failure leaves the entry, and the old route is still found. -/
theorem clear_misses_left_behind :
    let d := scriptedDeployment
    let start := World.start (.single (userRoute "http://old")) onceFailing (.empty 100 1000)
    let now := d.course start lookedUpThenReplaced
    let after := (d.ask .clear now).2
    (d.ask .clear now).1 = .done (.ok ()) ∧ erasureFailed (d.eventsOf .clear now) = false ∧
      after.table.routes = [userRoute "http://new"] ∧
      (Scripted.contents plainContents true).holds after.cache (.single "/users/42")
        (.single (userRoute "http://old")) ∧
      (d.ask (.resolve "/users/42") after).1 = .route (.ok (userRoute "http://old")) :=
  ⟨rfl, rfl, rfl, rfl, rfl⟩

/-- A cache of which only the tenth call fails. -/
def lateFailing : Scripted (Entries Cached) where
  inner := []
  script := List.replicate 9 false ++ [true]

/-- Two paths are looked up, and then their route is replaced. -/
def bothLookedUpThenReplaced : List (Happening (Scripted (Entries Cached))) :=
  [.asked (.resolve "/users/42"), .asked (.resolve "/users/43"),
    .asked (.update (userRoute "http://new"))]

/-- The world after that, where the erasure of the first path has failed. -/
def firstLeftBehind : World (Scripted (Entries Cached)) :=
  scriptedDeployment.course
    (World.start (.single (userRoute "http://old")) lateFailing (.empty 100 1000))
    bothLookedUpThenReplaced

/-- If the first of two erasures fails, a clearing clears the second path, and does not try the
first. -/
theorem clear_clears_second_path :
    (∀ value, ¬ (Scripted.contents plainContents true).holds
        (scriptedDeployment.ask .clear firstLeftBehind).2.cache (.single "/users/43") value) ∧
      ∀ reply, ⟨.eraseCache (.single "/users/42"), reply⟩ ∉
        scriptedDeployment.eventsOf .clear firstLeftBehind := by
  have empty (key : Key) (value : Cached) :
      ¬ (Scripted.contents plainContents true).holds lateFailing key value := by
    rintro ⟨⟩
  obtain ⟨list, entry, rest⟩ := clear_clears_unless_left_behind scriptedDeployment
    (Scripted.contents plainContents true) (.single (userRoute "http://old")) lateFailing
    (.empty 100 1000) bothLookedUpThenReplaced firstLeftBehind rfl empty
    ⟨trivial, trivial, trivial, trivial⟩
    ⟨Deployment.memoKeeps_asked (by decide), Deployment.memoKeeps_asked (by decide),
      Deployment.memoKeeps_asked (by decide), trivial⟩ rfl rfl
  exact ⟨(entry "/users/43" (by decide)).1, rest "/users/42" (by decide) (by decide)⟩

end GatewayRouting
