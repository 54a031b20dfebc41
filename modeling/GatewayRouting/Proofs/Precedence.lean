import GatewayRouting.Document.Routes
import GatewayRouting.Proofs.Counters

/-!
# Which route is tried first

A path is answered by the first route that accepts it, so the order of a table decides where
requests go. It is the order of registration, and nothing but a removal ends the place of a route:
while two paths stay registered, the one that was tried before the other one still is
(`triesBefore_usage`), whatever is added behind them, replaced, called or removed.

That rests on what a table is: no path is registered twice, so that the place of a path is one
place. Every route of a table that was filled from a list or from a file and then used in any way is
well formed besides (`Table.Flawless`).
-/

namespace GatewayRouting

namespace Table

variable {table changed : Table} {route : Route} {path first second : String}

/-! ## Tables that are well kept -/

/-- A table that was filled with routes: with those of a list, or with those of a file. -/
inductive Seeded (table : Table) : Prop where
  /-- the routes of a list -/
  | ofList (routes : List Route) (built : Table.ofList routes = .ok table)
  /-- the routes of the file at a path -/
  | ofFile (read : RawPath → Except LoadFault (List UInt8)) (path : RawPath)
    (loaded : Document.loadTable read path = .ok table)

/-- Every table that was filled from a file was filled from the list of the file's routes. -/
theorem Seeded.exists_ofList (seeded : table.Seeded) :
    ∃ routes, Table.ofList routes = .ok table := by
  cases seeded with
  | ofList routes built => exact ⟨routes, built⟩
  | ofFile read path loaded =>
    rw [Document.loadTable] at loaded
    cases routes : Document.load read path with
    | error error =>
      rw [routes] at loaded
      cases loaded
    | ok routes' =>
      rw [routes] at loaded
      exact ⟨routes', loaded⟩

/-- Every route of a table is well formed. -/
def Flawless (table : Table) : Prop :=
  ∀ route ∈ table.routes, route.flaw? = none

/-- Changing a route in its place leaves a table flawless if the changed route is so. -/
theorem Flawless.modify {change : Route → Route}
    {stays : ∀ route : Route, route.path = path → (change route).path = path}
    (flawless : table.Flawless)
    (fits : ∀ route : Route, route.flaw? = none → (change route).flaw? = none) :
    (table.modify path change stays).Flawless := by
  rw [Flawless, routes_modify]
  intro route mem
  obtain ⟨old, here, rfl⟩ := List.mem_map.mp mem
  split
  · exact fits old (flawless old here)
  · exact flawless old here

/-- Whatever is done to a table, it stays flawless. -/
theorem Flawless.step (flawless : table.Flawless) (step : table.Step changed) :
    changed.Flawless := by
  cases step with
  | idle same => exact same ▸ flawless
  | add added =>
    obtain ⟨fits, _, same⟩ := of_add added
    rw [Flawless, same]
    exact List.forall_mem_append.mpr ⟨flawless, List.forall_mem_singleton.mpr fits⟩
  | update updated =>
    obtain ⟨fits, _, rfl⟩ := of_update updated
    exact flawless.modify fun _ _ => fits
  | delete deleted =>
    rw [Flawless, (of_delete deleted).2]
    exact fun route mem => flawless route (List.mem_of_mem_eraseP mem)
  | recordCalls recorded =>
    -- neither the path nor the service of a route is changed
    obtain ⟨_, rfl⟩ := of_recordCalls recorded
    exact flawless.modify fun _ fits => fits

theorem Seeded.flawless (seeded : table.Seeded) : table.Flawless := by
  obtain ⟨routes, built⟩ := seeded.exists_ofList
  have empty : Flawless {} := fun _ mem => absurd mem List.not_mem_nil
  exact ofList_induction (fun _ table => table.Flawless) built empty
    fun _ _ _ _ flawless added => flawless.step (.add added)

/-- The route that is found under a path is the one that is listed with it. -/
theorem find?_eq_some_iff :
    table.find? path = some route ↔ route ∈ table.routes ∧ route.path = path := by
  rw [find?_eq]
  constructor
  · intro found
    exact ⟨List.mem_of_find?_eq_some found, by simpa using List.find?_some found⟩
  · rintro ⟨mem, here⟩
    have registered : (table.routes.find? (·.path == path)).isSome = true :=
      List.find?_isSome.mpr ⟨route, mem, beq_iff_eq.mpr here⟩
    obtain ⟨other, found⟩ := Option.isSome_iff_exists.mp registered
    have there : other.path = path := by simpa using List.find?_some found
    -- there is only one route of that path
    rw [found, List.inj_on_of_nodup_map table.nodup_paths (List.mem_of_find?_eq_some found) mem
      (there.trans here.symm)]

/-! ## The order of registration -/

/-- A registered path comes before another one. -/
def TriesBefore (table : Table) (first second : String) : Prop :=
  [first, second].Sublist (table.routes.map (·.path))

instance : Decidable (table.TriesBefore first second) :=
  inferInstanceAs (Decidable (List.Sublist _ _))

/-- Of two registered paths one comes before the other. -/
theorem triesBefore_or (registered : table.isRegistered first = true)
    (registered' : table.isRegistered second = true) (ne : first ≠ second) :
    table.TriesBefore first second ∨ table.TriesBefore second first := by
  rw [isRegistered_iff] at registered registered'
  rw [TriesBefore, TriesBefore]
  generalize table.routes.map (·.path) = paths at registered registered'
  induction paths with
  | nil => exact absurd registered List.not_mem_nil
  | cons path paths ih =>
    obtain rfl | later := List.mem_cons.mp registered
    · have later := List.mem_of_ne_of_mem ne.symm registered'
      exact .inl ((List.singleton_sublist.mpr later).cons_cons first)
    · obtain rfl | later' := List.mem_cons.mp registered'
      · exact .inr ((List.singleton_sublist.mpr later).cons_cons second)
      · exact (ih later later').imp (List.Sublist.cons path) (List.Sublist.cons path)

/-- Leaving another path out does not change which of two comes first. -/
theorem sublist_filter_ne {paths : List String} (ne : first ≠ path) (ne' : second ≠ path) :
    [first, second].Sublist (paths.filter (· != path)) ↔ [first, second].Sublist paths := by
  constructor
  · exact fun before => before.trans List.filter_sublist
  · intro before
    have kept := before.filter (· != path)
    simpa [ne, ne'] using kept

/-- Removing a route removes its path. -/
theorem paths_delete (deleted : table.delete path = .ok changed) :
    changed.routes.map (·.path) = (table.routes.map (·.path)).filter (· != path) := by
  have erased : (table.routes.map (·.path)).eraseP (· == path) = changed.routes.map (·.path) := by
    rw [(of_delete deleted).2, List.eraseP_map]
    rfl
  rw [← erased, ← List.Nodup.erase_eq_filter table.nodup_paths, List.erase_eq_eraseP']

/-- Without the path that was registered last, the paths are those from before. -/
theorem paths_add (added : table.add route = .ok changed) :
    (changed.routes.map (·.path)).filter (· != route.path) = table.routes.map (·.path) := by
  obtain ⟨_, new, same⟩ := of_add added
  have all : (table.routes.map (·.path)).filter (· != route.path) = table.routes.map (·.path) :=
    List.filter_eq_self.mpr fun path mem => bne_iff_ne.mpr fun same => new (same ▸ mem)
  rw [same, List.map_append, List.filter_append, all]
  simp

/-- **One step keeps the order** of the paths that are registered before and after it. -/
theorem Step.triesBefore_iff (step : table.Step changed)
    (before : table.isRegistered first = true ∧ table.isRegistered second = true)
    (after : changed.isRegistered first = true ∧ changed.isRegistered second = true) :
    table.TriesBefore first second ↔ changed.TriesBefore first second := by
  simp only [isRegistered_iff] at before after
  rw [TriesBefore, TriesBefore]
  cases step with
  | idle same => rw [same]
  | @add route added =>
    -- neither of the two is the path that is new
    have ne {path : String} (mem : path ∈ table.routes.map (·.path)) : path ≠ route.path :=
      fun same => (of_add added).2.1 (same ▸ mem)
    rw [← paths_add added, sublist_filter_ne (ne before.1) (ne before.2)]
  | update updated =>
    obtain ⟨_, _, rfl⟩ := of_update updated
    rw [paths_modify]
  | @delete path deleted =>
    -- neither of the two is the path that is gone
    rw [paths_delete deleted] at after ⊢
    have ne {other : String} (mem : other ∈ (table.routes.map (·.path)).filter (· != path)) :
        other ≠ path := by simpa using (List.mem_filter.mp mem).2
    rw [sublist_filter_ne (ne after.1) (ne after.2)]
  | recordCalls recorded =>
    obtain ⟨_, rfl⟩ := of_recordCalls recorded
    rw [paths_modify]

end Table

/-! ## Whole runs -/

namespace Deployment

variable {σ : Type} {d : Deployment σ} {world : World σ} {use : Use σ} {uses : List (Use σ)}
  {first second : String}

/-- An operation takes one step with the table, since at most one of its requests changes it. -/
theorem step_ask {operation : Operation} :
    world.table.Step (d.ask operation world).2.table := by
  have first := d.changesFirst_ask operation world
  rw [eventsOf] at first
  rw [ask]
  generalize operation.program d.options = program at first ⊢
  cases program with
  | done value => exact .idle rfl
  | ask q next =>
    have leave : ∀ event ∈ (next (d.handler q world).1).trace d.handler (d.handler q world).2,
        ¬ event.request.ChangesTable := first
    rw [Program.run_ask, table_of_trace leave]
    exact step_handler

theorem step_use : world.table.Step (d.use world use).table := by
  cases use with
  | direct q => exact step_handler
  | service happening =>
    cases happening with
    | asked operation => exact step_ask
    | outage reason => exact .idle rfl
    | pause nanoseconds cache => exact .idle rfl

theorem flawless_usage (flawless : world.table.Flawless) :
    (d.usage world uses).table.Flawless := by
  induction uses generalizing world with
  | nil => exact flawless
  | cons use rest ih => exact ih (flawless.step step_use)

/-- While two paths stay registered, their order stays. -/
theorem triesBefore_usage (stays : d.Stays first world uses) (stays' : d.Stays second world uses) :
    world.table.TriesBefore first second ↔ (d.usage world uses).table.TriesBefore first second := by
  induction uses generalizing world with
  | nil => exact Iff.rfl
  | cons use rest ih =>
    have here : world.table.TriesBefore first second ↔
        (d.use world use).table.TriesBefore first second :=
      step_use.triesBefore_iff ⟨stays.1, stays'.1⟩ ⟨stays.2.now, stays'.2.now⟩
    exact here.trans (ih stays.2 stays'.2)

end Deployment

/-- **A table keeps its order.** Let a table be filled with the routes of a list or of a file, and
then be used in any way. At every moment no path is registered twice, every route is registered
under its own path and well formed, what is found under a path is the route that is listed with it,
and a new route comes last. Of two registered paths one is tried before the other, and this stays so
for as long as both stay registered. -/
theorem registered_paths_keep_their_order {σ : Type} (d : Deployment σ) (start : World σ)
    (seeded : start.table.Seeded) (before during : List (Use σ)) :
    let now := d.usage start before
    let later := d.usage now during
    (now.table.routes.map (·.path)).Nodup ∧
      (∀ entry ∈ now.table.entries, entry.2.path = entry.1) ∧
      (∀ route ∈ now.table.routes, route.flaw? = none) ∧
      (∀ path route, now.table.find? path = some route ↔
        route ∈ now.table.routes ∧ route.path = path) ∧
      (∀ route, (d.handler (.addRoute route) now).1 = .ok () →
        (d.handler (.addRoute route) now).2.table.routes = now.table.routes ++ [route]) ∧
      ∀ first second, d.Stays first now during → d.Stays second now during →
        (first ≠ second → now.table.TriesBefore first second ∨ now.table.TriesBefore second first) ∧
          (now.table.TriesBefore first second ↔ later.table.TriesBefore first second) := by
  intro now later
  have flawless : now.table.Flawless := Deployment.flawless_usage seeded.flawless
  refine ⟨now.table.nodup_paths, now.table.keyed, flawless,
    fun path route => Table.find?_eq_some_iff, ?_, ?_⟩
  · intro route done
    obtain ⟨error, replied⟩ | ⟨changed, _, added, replied⟩ := now.change_cases (·.add route)
    · have replied : d.handler (.addRoute route) now = (.error error, now) := replied
      rw [replied] at done
      cases done
    · have replied : d.handler (.addRoute route) now = (.ok (), { now with table := changed }) :=
        replied
      rw [replied]
      exact Table.routes_of_add added
  · intro first second stays stays'
    exact ⟨Table.triesBefore_or stays.now stays'.now, Deployment.triesBefore_usage stays stays'⟩

/-- A directory with a file of three routes. -/
def threeRoutesFile (path : RawPath) : Except LoadFault (List UInt8) :=
  if path = Utf8.encode "routes.json" then
    .ok "[[\"/a\", \"http://a\"], [\"/b\", \"http://b\"], [\"/c\", \"http://c\"]]".toUTF8.toList
  else .error .missing

/-- The second route is removed and registered again, the first one is replaced, the third one is
called, and cannot be registered twice. -/
def reshuffled : List (Use (Entries Cached)) :=
  [.direct (.deleteRoute "/b"),
    .service (.asked (.update { path := "/a", service := "http://new" })),
    .direct (.addRoute { path := "/b", service := "http://b" }),
    .service (.asked (.add { path := "/c", service := "http://other" })),
    .direct (.recordCalls "/c" 1 5)]

/-- The second route is the last one now; the two that stayed are tried in the order of the file. -/
theorem staying_paths_of_file_in_order :
    let d := plainDeployment false
    let table : Table := .listing [{ path := "/a", service := "http://a" },
      { path := "/b", service := "http://b" }, { path := "/c", service := "http://c" }]
    let start := World.start table [] (.empty 100 1000)
    let later := d.usage start reshuffled
    Document.loadTable threeRoutesFile (Utf8.encode "routes.json") = .ok table ∧
      d.Stays "/a" start reshuffled ∧ d.Stays "/c" start reshuffled ∧
      later.table.routes.map (·.path) = ["/a", "/c", "/b"] ∧
      later.table.TriesBefore "/a" "/c" := by
  intro d table start later
  have loaded : Document.loadTable threeRoutesFile (Utf8.encode "routes.json") = .ok table := by
    decide +kernel
  have stays : d.Stays "/a" start reshuffled ∧ d.Stays "/c" start reshuffled := by decide +kernel
  obtain ⟨_, _, _, _, _, order⟩ :=
    registered_paths_keep_their_order d start (.ofFile _ _ loaded) [] reshuffled
  exact ⟨loaded, stays.1, stays.2, by decide +kernel,
    ((order "/a" "/c" stays.1 stays.2).2.mp (by decide +kernel))⟩

end GatewayRouting
