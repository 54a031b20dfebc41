import GatewayRouting.Proofs.Frame

/-!
# The registry

A request does to a table one of four things that the table agrees to, or nothing (`Table.Step`).
What a table agrees to has its reasons in the route and in what is registered already. A table that
was filled route by route has the routes in their order.
-/

namespace GatewayRouting

namespace Table

variable {table changed : Table} {route : Route} {path : String}

/-- Changing a route in its place leaves the paths as they are. -/
theorem paths_modify {change : Route → Route}
    (stays : ∀ route : Route, route.path = path → (change route).path = path) :
    (table.modify path change stays).routes.map (·.path) = table.routes.map (·.path) := by
  rw [routes_modify, List.map_map]
  refine List.map_congr_left fun route _ => ?_
  by_cases same : route.path = path
  · simp [same, stays route same]
  · simp [same]

/-! ### The changes that a table agrees to -/

theorem flaw?_of_refuse? (fits : refuse? route = none) : route.flaw? = none :=
  Option.map_eq_none_iff.mp fits

/-- What is registered is well formed, has a path of its own, and comes last. -/
theorem of_add (added : table.add route = .ok changed) :
    route.flaw? = none ∧ route.path ∉ table.routes.map (·.path) ∧
      changed.routes = table.routes ++ [route] := by
  rw [add] at added
  split at added
  · cases added
  · rename_i fits
    split at added
    · cases added
    · rename_i unregistered
      cases added
      exact ⟨flaw?_of_refuse? fits, fun mem => unregistered (isRegistered_iff.mpr mem),
        routes_append unregistered⟩

/-- What replaces a route is well formed, and takes its place. -/
theorem of_update (updated : table.update route = .ok changed) :
    route.flaw? = none ∧ route.path ∈ table.routes.map (·.path) ∧
      changed = table.modify route.path (fun _ => route) fun _ _ => rfl := by
  rw [update] at updated
  split at updated
  · cases updated
  · rename_i fits
    split at updated
    · rename_i registered
      cases updated
      exact ⟨flaw?_of_refuse? fits, isRegistered_iff.mp registered, rfl⟩
    · cases updated

/-- What is removed was registered, and the others close up. -/
theorem of_delete (deleted : table.delete path = .ok changed) :
    path ∈ table.routes.map (·.path) ∧ changed.routes = table.routes.eraseP (·.path == path) := by
  rw [delete] at deleted
  split at deleted
  · rename_i registered
    cases deleted
    exact ⟨isRegistered_iff.mp registered, table.routes_erase path⟩
  · cases deleted

/-- Calls are recorded for a route that is registered, in its place. -/
theorem of_recordCalls {calls time : Int64}
    (recorded : table.recordCalls path calls time = .ok changed) :
    path ∈ table.routes.map (·.path) ∧
      changed = table.modify path (·.recordCalls calls time)
        fun route => (route.path_recordCalls calls time).trans := by
  rw [recordCalls] at recorded
  split at recorded
  · rename_i registered
    cases recorded
    exact ⟨isRegistered_iff.mp registered, rfl⟩
  · cases recorded

/-- A new route comes last. -/
theorem routes_of_add (added : table.add route = .ok changed) :
    changed.routes = table.routes ++ [route] :=
  (of_add added).2.2

/-- What one request can do to a table. -/
inductive Step (table changed : Table) : Prop where
  /-- nothing, because it was refused or asks for something else -/
  | idle (same : changed = table)
  /-- a route is registered -/
  | add {route : Route} (added : table.add route = .ok changed)
  /-- a route is replaced -/
  | update {route : Route} (updated : table.update route = .ok changed)
  /-- a route is removed -/
  | delete {path : String} (deleted : table.delete path = .ok changed)
  /-- calls are recorded -/
  | recordCalls {path : String} {calls time : Int64}
    (recorded : table.recordCalls path calls time = .ok changed)

/-- What each new route keeps of the routes so far and the table, filling a table route by route
keeps. -/
theorem ofList_induction (inv : List Route → Table → Prop) {routes : List Route}
    (built : ofList routes = .ok table) (start : inv [] {})
    (step : ∀ past table route changed, inv past table → table.add route = .ok changed →
      inv (past ++ [route]) changed) : inv routes table := by
  -- the induction is over the routes that are still to come, after any others
  suffices general : ∀ (past : List Route) (now : Table), inv past now →
      routes.foldlM Table.add now = .ok table → inv (past ++ routes) table from
    general [] {} start built
  clear built
  induction routes with
  | nil =>
    rintro past now kept ⟨⟩
    rwa [List.append_nil]
  | cons route routes ih =>
    intro past now kept built
    rw [List.foldlM_cons] at built
    cases added : now.add route with
    | error error =>
      rw [added] at built
      cases built
    | ok next =>
      rw [added] at built
      have kept := ih (past ++ [route]) next (step past now route next kept added) built
      rwa [List.append_assoc] at kept

/-- A table that was filled route by route has the routes in their order. -/
theorem routes_of_ofList {routes : List Route} (built : ofList routes = .ok table) :
    table.routes = routes :=
  ofList_induction (fun past table => table.routes = past) built rfl
    fun _ _ _ _ same added => (routes_of_add added).trans (congrArg (· ++ [_]) same)

end Table

variable {σ : Type} {d : Deployment σ} {world : World σ} {q : Request}

theorem World.step_change {step : Table → Except StoreError Table}
    (steps : ∀ changed, step world.table = .ok changed → world.table.Step changed) :
    world.table.Step (world.change step).2.table := by
  obtain ⟨_, replied⟩ | ⟨changed, _, agrees, replied⟩ := World.change_cases world step
  · rw [replied]
    exact .idle rfl
  · rw [replied]
    exact steps changed agrees

namespace Deployment

/-- A request takes one step with the table. -/
theorem step_handler : world.table.Step (d.handler q world).2.table := by
  by_cases changes : q.ChangesTable
  · cases q with
    | addRoute route => exact World.step_change fun _ => .add
    | updateRoute route => exact World.step_change fun _ => .update
    | deleteRoute path => exact World.step_change fun _ => .delete
    | recordCalls path calls time => exact World.step_change fun _ => .recordCalls
    | _ => exact changes.elim
  · rw [table_handler changes]
    exact .idle rfl

end Deployment
end GatewayRouting
