import GatewayRouting.Failure

/-!
# The table of registered routes

Routes are kept in the order of registration, which is the order in which they are tried. A
change keeps the place of every route it does not remove, and a new route comes last. Every
change first looks at the route itself, then at what is registered, and a refused change leaves
the table alone.
-/

namespace GatewayRouting

theorem Table.keyed_nil : ∀ entry ∈ ([] : List (String × Route)), entry.2.path = entry.1 := by
  simp

/-- The registered routes, first registered first. -/
@[ext]
structure Table where
  /-- the routes in order, each behind the path that it is registered under -/
  entries : List (String × Route) := []
  /-- a route is registered under its own path -/
  keyed : ∀ entry ∈ entries, entry.2.path = entry.1 := by exact Table.keyed_nil
  /-- no path is registered twice -/
  distinct : (entries.map Prod.fst).Nodup := by exact List.nodup_nil
deriving DecidableEq, Repr, Inhabited

namespace Table

/-- The registered routes in order. -/
def routes (table : Table) : List Route :=
  table.entries.map Prod.snd

/-- The route registered under a path. -/
def find? (table : Table) (path : String) : Option Route :=
  (table.entries.find? (·.1 == path)).map Prod.snd

/-- Whether a route is registered under a path. -/
def isRegistered (table : Table) (path : String) : Bool :=
  (table.find? path).isSome

/-- How many routes are registered. -/
def size (table : Table) : Nat :=
  table.entries.length

/-! ### Routes and their paths -/

variable {a b table : Table} {path : String} {route : Route}

/-- The routes say under which paths they are registered. -/
theorem entries_eq (table : Table) :
    table.entries = table.routes.map fun route => (route.path, route) := by
  rw [routes, List.map_map]
  refine ((List.map_congr_left fun entry mem => ?_).trans (List.map_id _)).symm
  exact Prod.ext (table.keyed entry mem) rfl

/-- So a table is known by its routes. -/
theorem eq_of_routes_eq (same : a.routes = b.routes) : a = b :=
  Table.ext (by rw [entries_eq, same, ← entries_eq])

theorem paths_eq (table : Table) : table.entries.map Prod.fst = table.routes.map (·.path) := by
  rw [entries_eq, List.map_map]
  rfl

theorem find?_eq (table : Table) (path : String) :
    table.find? path = table.routes.find? (·.path == path) := by
  rw [find?, entries_eq, List.find?_map, Option.map_map]
  exact Option.map_id_apply

theorem isRegistered_iff : table.isRegistered path = true ↔ path ∈ table.routes.map (·.path) := by
  simp [isRegistered, find?_eq]

/-- No two routes have one path. -/
theorem nodup_paths (table : Table) : (table.routes.map (·.path)).Nodup :=
  table.paths_eq ▸ table.distinct

/-- The table of routes no two of which have one path. -/
def listing (routes : List Route) (distinct : (routes.map (·.path)).Nodup := by decide) :
    Table where
  entries := routes.map fun route => (route.path, route)
  keyed := by simp
  distinct := by rwa [List.map_map]

/-- The table of one route. -/
def single (route : Route) : Table :=
  listing [route] (List.pairwise_singleton _ route.path)

@[simp] theorem routes_listing (routes : List Route) (distinct : (routes.map (·.path)).Nodup) :
    (listing routes distinct).routes = routes := by
  rw [Table.routes, listing, List.map_map]
  exact List.map_id _

/-! ### Changed tables -/

/-- A table with a further route behind all others. -/
def append (table : Table) (route : Route) (fresh : ¬ table.isRegistered route.path = true) :
    Table where
  entries := table.entries ++ [(route.path, route)]
  keyed := List.forall_mem_append.mpr ⟨table.keyed, by simp⟩
  distinct := by
    rw [isRegistered_iff, ← paths_eq] at fresh
    rw [List.map_append, List.nodup_append]
    refine ⟨table.distinct, List.pairwise_singleton _ _, fun path mem other here same => fresh ?_⟩
    rwa [same, List.mem_singleton.mp here] at mem

@[simp] theorem routes_append (fresh : ¬ table.isRegistered route.path = true) :
    (table.append route fresh).routes = table.routes ++ [route] :=
  List.map_append

/-- A table in which the route of a path has been changed in its place. The change leaves the path
as it is. -/
def modify (table : Table) (path : String) (change : Route → Route)
    (stays : ∀ route, route.path = path → (change route).path = path) : Table where
  entries := table.entries.map fun entry =>
    if entry.1 = path then (entry.1, change entry.2) else entry
  keyed := by
    intro changed mem
    obtain ⟨entry, here, rfl⟩ := List.mem_map.mp mem
    split
    · next same => exact (stays _ ((table.keyed entry here).trans same)).trans same.symm
    · exact table.keyed entry here
  distinct := by
    rw [List.map_map]
    refine (congrArg List.Nodup (List.map_congr_left fun entry _ => ?_)).mpr table.distinct
    rw [Function.comp_apply]
    split <;> rfl

@[simp] theorem routes_modify {change : Route → Route}
    (stays : ∀ route, route.path = path → (change route).path = path) :
    (table.modify path change stays).routes =
      table.routes.map fun route => if route.path = path then change route else route := by
  rw [routes, routes, modify, List.map_map, List.map_map]
  refine List.map_congr_left fun entry mem => ?_
  rw [Function.comp_apply, Function.comp_apply, table.keyed entry mem]
  split <;> rfl

/-- A table without the route of a path. -/
def erase (table : Table) (path : String) : Table where
  entries := table.entries.eraseP (·.1 == path)
  keyed entry mem := table.keyed entry (List.mem_of_mem_eraseP mem)
  distinct := List.Nodup.sublist (List.eraseP_sublist.map _) table.distinct

@[simp] theorem routes_erase (table : Table) (path : String) :
    (table.erase path).routes = table.routes.eraseP (·.path == path) := by
  have entries : (table.erase path).entries =
      (table.routes.eraseP (·.path == path)).map fun route => (route.path, route) := by
    show table.entries.eraseP (·.1 == path) = _
    rw [entries_eq, List.eraseP_map]
    rfl
  rw [routes, entries, List.map_map]
  exact List.map_id _

/-! ### What a table agrees to -/

/-- The refusal of a route that is not well formed. -/
def refuse? (route : Route) : Option StoreError :=
  route.flaw?.map fun flaw => .invalidRoute route.path flaw.reason

/-- Registers a route behind all others. -/
def add (table : Table) (route : Route) : Except StoreError Table :=
  match refuse? route with
  | some error => .error error
  | none =>
    if taken : table.isRegistered route.path then .error (.alreadyExists route.path)
    else .ok (table.append route taken)

/-- Replaces the route of the same path where it stands. -/
def update (table : Table) (route : Route) : Except StoreError Table :=
  match refuse? route with
  | some error => .error error
  | none =>
    if table.isRegistered route.path then
      .ok (table.modify route.path (fun _ => route) fun _ _ => rfl)
    else .error (.notFound route.path)

/-- Removes the route of a path; the others close up. -/
def delete (table : Table) (path : String) : Except StoreError Table :=
  if table.isRegistered path then .ok (table.erase path)
  else .error (.notFound path)

/-- Adds to the counters of the route of a path. -/
def recordCalls (table : Table) (path : String) (calls time : Int64) : Except StoreError Table :=
  if table.isRegistered path then
    .ok (table.modify path (·.recordCalls calls time)
      fun route => (route.path_recordCalls calls time).trans)
  else .error (.notFound path)

/-- The table of the given routes in their order, if each of them can be added in its turn. -/
def ofList (routes : List Route) : Except StoreError Table :=
  routes.foldlM add {}

end Table

end GatewayRouting
