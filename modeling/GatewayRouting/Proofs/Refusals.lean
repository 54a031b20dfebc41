import GatewayRouting.Proofs.Cacheless
import GatewayRouting.Proofs.Counters

/-!
# Changes that are refused

A change of the table is asked of the table first, and nothing else is done until the table has
answered. So a change that is refused has done nothing: it has asked one thing, and the world is the
world from before, the cache and the memo included (`Deployment.ask_of_refused`).

A table refuses for few reasons (`Table.Refuses`). A route that is registered or replaced is judged
on its own first, whatever is registered; only for a route that is well formed does the table look
at what it holds.
-/

namespace GatewayRouting

/-! ## Why tables refuse -/

/-- The reasons for which a table refuses an operation. -/
inductive Table.Refuses (table : Table) : Operation → StoreError → Prop where
  /-- a route to be registered is not well formed -/
  | flawedAddition {route : Route} {flaw : RouteFlaw} (flawed : route.flaw? = some flaw) :
      Refuses table (.add route) (.invalidRoute route.path flaw.reason)
  /-- a route of that path is registered already -/
  | repeatedAddition {route : Route} (flawless : route.flaw? = none)
      (registered : route.path ∈ table.routes.map (·.path)) :
      Refuses table (.add route) (.alreadyExists route.path)
  /-- a route to take the place of another one is not well formed -/
  | flawedReplacement {route : Route} {flaw : RouteFlaw} (flawed : route.flaw? = some flaw) :
      Refuses table (.update route) (.invalidRoute route.path flaw.reason)
  /-- there is no route whose place could be taken -/
  | missingReplaced {route : Route} (flawless : route.flaw? = none)
      (missing : route.path ∉ table.routes.map (·.path)) :
      Refuses table (.update route) (.notFound route.path)
  /-- there is no route to be removed -/
  | missingRemoved {path : String} (missing : path ∉ table.routes.map (·.path)) :
      Refuses table (.delete path) (.notFound path)
  /-- there is no route that could have been called -/
  | missingCalled {path : String} {calls time : Int64}
      (missing : path ∉ table.routes.map (·.path)) :
      Refuses table (.recordCalls path calls time) (.notFound path)

namespace Table

variable {table : Table} {route : Route} {path : String} {error : StoreError}

theorem refuse?_of_flawed {flaw : RouteFlaw} (flawed : route.flaw? = some flaw) :
    refuse? route = some (.invalidRoute route.path flaw.reason) := by
  rw [refuse?, flawed, Option.map_some]

theorem refuse?_of_flawless (flawless : route.flaw? = none) : refuse? route = none := by
  rw [refuse?, flawless, Option.map_none]

/-- A route is registered unless it is flawed or its path is taken. -/
theorem add_eq_error_iff : table.add route = .error error ↔ table.Refuses (.add route) error := by
  constructor
  · intro refused
    cases flaw : route.flaw? with
    | some flaw =>
      simp only [add, refuse?_of_flawed flaw] at refused
      cases refused
      exact .flawedAddition flaw
    | none =>
      simp only [add, refuse?_of_flawless flaw] at refused
      split at refused
      · rename_i registered
        cases refused
        exact .repeatedAddition flaw (isRegistered_iff.mp registered)
      · cases refused
  · intro refuses
    cases refuses with
    | flawedAddition flawed => simp only [add, refuse?_of_flawed flawed]
    | repeatedAddition flawless registered =>
      simp only [add, refuse?_of_flawless flawless, dif_pos (isRegistered_iff.mpr registered)]

/-- A route is replaced unless the new one is flawed or there is no old one. -/
theorem update_eq_error_iff :
    table.update route = .error error ↔ table.Refuses (.update route) error := by
  constructor
  · intro refused
    cases flaw : route.flaw? with
    | some flaw =>
      simp only [update, refuse?_of_flawed flaw] at refused
      cases refused
      exact .flawedReplacement flaw
    | none =>
      simp only [update, refuse?_of_flawless flaw] at refused
      split at refused
      · cases refused
      · rename_i unregistered
        cases refused
        exact .missingReplaced flaw fun mem => unregistered (isRegistered_iff.mpr mem)
  · intro refuses
    cases refuses with
    | flawedReplacement flawed => simp only [update, refuse?_of_flawed flawed]
    | missingReplaced flawless missing =>
      have unregistered : ¬ table.isRegistered route.path = true := mt isRegistered_iff.mp missing
      simp only [update, refuse?_of_flawless flawless, if_neg unregistered]

theorem delete_eq_error_iff :
    table.delete path = .error error ↔ table.Refuses (.delete path) error := by
  by_cases registered : path ∈ table.routes.map (·.path)
  · rw [delete, if_pos (isRegistered_iff.mpr registered)]
    constructor
    · intro refused
      cases refused
    · intro refuses
      cases refuses with
      | missingRemoved missing => exact absurd registered missing
  · rw [delete, if_neg (mt isRegistered_iff.mp registered)]
    constructor
    · rintro ⟨⟩
      exact .missingRemoved registered
    · rintro ⟨⟩
      rfl

theorem recordCalls_eq_error_iff {calls time : Int64} :
    table.recordCalls path calls time = .error error ↔
      table.Refuses (.recordCalls path calls time) error := by
  by_cases registered : path ∈ table.routes.map (·.path)
  · rw [recordCalls, if_pos (isRegistered_iff.mpr registered)]
    constructor
    · intro refused
      cases refused
    · intro refuses
      cases refuses with
      | missingCalled missing => exact absurd registered missing
  · rw [recordCalls, if_neg (mt isRegistered_iff.mp registered)]
    constructor
    · rintro ⟨⟩
      exact .missingCalled registered
    · rintro ⟨⟩
      rfl

end Table

/-! ## What is asked of the table -/

/-- What an operation asks of the table, if it asks for a change. -/
def Operation.change? : Operation → Option Request
  | .add route => some (.addRoute route)
  | .update route => some (.updateRoute route)
  | .delete path => some (.deleteRoute path)
  | .recordCalls path calls time => some (.recordCalls path calls time)
  | _ => none

variable {σ : Type} {d : Deployment σ} {world : World σ} {operation : Operation} {q : Request}

theorem Operation.not_isLookup_of_change? (asks : operation.change? = some q) :
    ¬ operation.IsLookup := by
  cases operation <;> first | exact id | cases asks

/-- A table refuses to change for its reasons. -/
theorem Table.applyTo_eq_error_iff {table : Table} {error : StoreError}
    (asks : operation.change? = some q) :
    operation.applyTo table = .error error ↔ table.Refuses operation error := by
  cases operation with
  | add route => exact add_eq_error_iff
  | update route => exact update_eq_error_iff
  | delete path => exact delete_eq_error_iff
  | recordCalls path calls time => exact recordCalls_eq_error_iff
  | _ => cases asks

namespace World

theorem change_eq_error_iff {step : Table → Except StoreError Table} {error : StoreError} :
    (world.change step).1 = .error error ↔
      match world.outage with
      | some reason => error = .unavailable reason
      | none => step world.table = .error error := by
  cases away : world.outage with
  | some reason =>
    rw [change_of_outage away]
    exact ⟨fun same => (Except.error.inj same).symm, congrArg Except.error ∘ Eq.symm⟩
  | none =>
    cases agrees : step world.table with
    | ok table =>
      rw [change_of_ok away agrees]
      exact ⟨nofun, nofun⟩
    | error other =>
      rw [change_of_error away agrees]
      exact ⟨fun same => congrArg _ (Except.error.inj same),
        fun same => congrArg _ (Except.error.inj same)⟩

end World

/-- If the table refuses what it is asked first, then a change is over. -/
theorem Service.changing_of_refused {α : Type} {handler : Handler σ} {state after : σ}
    {asking : Program (Except StoreError α)} {error : StoreError}
    (refused : asking.run handler state = (.error error, after)) (before : α → Program Unit) :
    (changing asking before).run handler state = (.error error, after) ∧
      (changing asking before).trace handler state = asking.trace handler state := by
  rw [changing, Program.run_bind, Program.trace_bind, refused]
  exact ⟨rfl, List.append_nil _⟩

namespace Deployment

/-- The answer to an operation that asks for a change is that of the table. -/
theorem answer_of_change? (asks : operation.change? = some q) :
    (d.ask operation world).1 = .done (world.change operation.applyTo).1 := by
  rw [(upkeep_cacheless (Operation.not_isLookup_of_change? asks)).1,
    (world.change_cacheless operation.applyTo).1]

/-- **A refusal leaves no trace**: the table was asked, and that is all. -/
theorem ask_of_refused (asks : operation.change? = some q) {error : StoreError}
    (refused : (world.change operation.applyTo).1 = .error error) :
    (d.ask operation world).2 = world ∧ (d.eventsOf operation world).map Event.request = [q] := by
  have stays : world.change operation.applyTo = (.error error, world) :=
    Prod.ext refused (World.change_of_refused refused)
  -- each of them is a program that ends with a result, which is the answer
  suffices main : ∃ program : Program (Except StoreError Unit),
      operation.program d.options = program.bind (fun result => .done (.done result)) ∧
      (program.run d.handler world).2 = world ∧
      (program.trace d.handler world).map Event.request = [q] by
    obtain ⟨program, same, after, asked⟩ := main
    rw [ask, eventsOf, same, Program.run_bind, Program.trace_bind, List.map_append, after, asked]
    exact ⟨rfl, rfl⟩
  cases operation with
  | add route =>
    obtain rfl := Option.some.inj asks
    have replied : (Program.request (.addRoute route)).run d.handler world = _ := stays
    obtain ⟨after, asked⟩ := Service.changing_of_refused replied fun _ => Service.invalidate .list
    refine ⟨Service.add route, rfl, ?_⟩
    rw [Service.add_eq, after, asked]
    exact ⟨rfl, rfl⟩
  | update route =>
    obtain rfl := Option.some.inj asks
    have replied : (Program.request (.updateRoute route)).run d.handler world = _ := stays
    obtain ⟨after, asked⟩ := Service.changing_of_refused replied fun _ => Service.uncache route.path
    refine ⟨Service.update route, rfl, ?_⟩
    rw [Service.update_eq, after, asked]
    exact ⟨rfl, rfl⟩
  | delete path =>
    obtain rfl := Option.some.inj asks
    have replied : (Program.request (.deleteRoute path)).run d.handler world = _ := stays
    obtain ⟨after, asked⟩ := Service.changing_of_refused replied fun _ => Service.uncache path
    refine ⟨Service.delete path, rfl, ?_⟩
    rw [Service.delete_eq, after, asked]
    exact ⟨rfl, rfl⟩
  | recordCalls path calls time =>
    obtain rfl := Option.some.inj asks
    exact ⟨Service.recordCalls path calls time, rfl, congrArg Prod.snd stays, rfl⟩
  | _ => cases asks

end Deployment

/-! ## Calls that are recorded -/

/-- A registered path stands in one place. -/
theorem Table.exists_place {table : Table} {path : String}
    (registered : path ∈ table.routes.map (·.path)) :
    ∃ before route behind, table.routes = before ++ route :: behind ∧ route.path = path ∧
      ∀ other ∈ before ++ behind, other.path ≠ path := by
  obtain ⟨route, mem, rfl⟩ := List.mem_map.mp registered
  obtain ⟨before, behind, whole⟩ := List.append_of_mem mem
  refine ⟨before, route, behind, whole, rfl, ?_⟩
  intro other elsewhere same
  have distinct := table.nodup_paths
  rw [whole, List.map_append, List.map_cons, List.nodup_middle, ← List.map_append,
    List.nodup_cons] at distinct
  exact distinct.1 (List.mem_map.mpr ⟨other, elsewhere, same⟩)

/-- A change of the route of a path leaves all others as they are. -/
theorem Table.routes_modify_of_place {table : Table} {before behind : List Route} {route : Route}
    {path : String} (whole : table.routes = before ++ route :: behind) (here : route.path = path)
    (apart : ∀ other ∈ before ++ behind, other.path ≠ path) {change : Route → Route}
    (stays : ∀ route : Route, route.path = path → (change route).path = path) :
    (table.modify path change stays).routes = before ++ change route :: behind := by
  have same (others : List Route) (away : ∀ other ∈ others, other.path ≠ path) :
      others.map (fun route => if route.path = path then change route else route) = others := by
    refine (List.map_congr_left ?_).trans (List.map_id others)
    intro other mem
    exact if_neg (away other mem)
  obtain ⟨away, away'⟩ := List.forall_mem_append.mp apart
  simp only [routes_modify, whole, List.map_append, List.map_cons, same before away,
    same behind away', here, if_true]

/-- Recorded calls change two counters of one route, and nothing else. -/
theorem Deployment.ask_recordCalls {path : String} {calls time : Int64}
    (done : (d.ask (.recordCalls path calls time) world).1 = .done (.ok ())) :
    ∃ before route behind table, world.table.routes = before ++ route :: behind ∧
      route.path = path ∧ (∀ other ∈ before ++ behind, other.path ≠ path) ∧
      table.routes = before ++ { route with
        callCount := Route.addSaturating route.callCount calls
        totalResponseTime := Route.addSaturating route.totalResponseTime time } :: behind ∧
      (d.ask (.recordCalls path calls time) world).2 = { world with table } := by
  have agreed : (world.change (·.recordCalls path calls time)).1 = .ok () :=
    Answer.done.inj done
  have after : (d.ask (.recordCalls path calls time) world).2 =
      (world.change (·.recordCalls path calls time)).2 := rfl
  obtain ⟨registered, changed⟩ := Table.of_recordCalls (World.table_of_change agreed)
  obtain ⟨before, route, behind, whole, here, apart⟩ := Table.exists_place registered
  refine ⟨before, route, behind, _, whole, here, apart,
    Table.routes_modify_of_place whole here apart
      fun route => (route.path_recordCalls calls time).trans, ?_⟩
  rw [after, World.change_snd, changed]

/-! ## The result -/

/-- **Refused changes leave no trace.** Let a service be in any state: over any table, with any
cache and memo, whatever they hold, and whether the table can be reached or not. Whoever asks it to
register, to replace or to remove a route or to record calls is told that it is done, or why not. If
the table is out of reach, then that is why, and if it is not, then the table's own reasons are all
there are. Either way a refused operation has asked the table and nobody else, and has left
everything as it was. Calls that are recorded are asked of the table alone as well, and all that is
different afterwards is the two counters of the one route of the path. -/
theorem refused_changes_leave_no_trace (d : Deployment σ) (world : World σ) :
    (∀ operation q, operation.change? = some q →
      (∃ result, (d.ask operation world).1 = .done result) ∧
        (∀ error, (d.ask operation world).1 = .done (.error error) ↔
          match world.outage with
          | some reason => error = .unavailable reason
          | none => world.table.Refuses operation error) ∧
        ∀ error, (d.ask operation world).1 = .done (.error error) →
          (d.ask operation world).2 = world ∧
            (d.eventsOf operation world).map Event.request = [q]) ∧
      ∀ path calls time, (d.ask (.recordCalls path calls time) world).1 = .done (.ok ()) →
        (d.eventsOf (.recordCalls path calls time) world).map Event.request =
            [.recordCalls path calls time] ∧
          ∃ before route behind table, world.table.routes = before ++ route :: behind ∧
            route.path = path ∧ (∀ other ∈ before ++ behind, other.path ≠ path) ∧
            table.routes = before ++ { route with
              callCount := Route.addSaturating route.callCount calls
              totalResponseTime := Route.addSaturating route.totalResponseTime time } :: behind ∧
            (d.ask (.recordCalls path calls time) world).2 = { world with table } := by
  constructor
  · intro operation q asks
    have answer : (d.ask operation world).1 = .done (world.change operation.applyTo).1 :=
      Deployment.answer_of_change? asks
    have refused {error : StoreError} : (d.ask operation world).1 = .done (.error error) ↔
        (world.change operation.applyTo).1 = .error error := by
      rw [answer, Answer.done.injEq]
    refine ⟨⟨_, answer⟩, ?_, ?_⟩
    · intro error
      rw [refused, World.change_eq_error_iff]
      cases world.outage with
      | some reason => exact Iff.rfl
      | none => exact Table.applyTo_eq_error_iff asks
    · intro error told
      exact Deployment.ask_of_refused asks (refused.mp told)
  · intro path calls time done
    exact ⟨rfl, Deployment.ask_recordCalls done⟩

/-- A table of two routes that have been called, and a cache and a memo that know of one. -/
def busyWorld : World (Entries Cached) where
  table := .listing [{ userRoute "http://old" with callCount := 3, totalResponseTime := 70 },
    { path := "/orders", service := "http://orders", callCount := 7 }]
  cache := [(.single "/users/42", .single (userRoute "http://old"))]
  memo := { capacity := 100, lifetime := 1000, records := [⟨"/users/42", "/users/:id", 900⟩] }

/-- A route without a service is refused for that, though its path is registered as well; and of the
calls that are recorded for a route those beyond the range are not counted. -/
theorem flawed_route_leaves_no_trace :
    let d := plainDeployment true
    let flawed : Operation := .add { path := "/orders", service := " " }
    let called := d.ask (.recordCalls "/orders" Int64.maxValue 5) busyWorld
    (d.ask flawed busyWorld).1 =
        .done (.error (.invalidRoute "/orders" "service URL cannot be empty")) ∧
      (d.ask flawed busyWorld).2 = busyWorld ∧
      (d.eventsOf flawed busyWorld).map Event.request =
        [.addRoute { path := "/orders", service := " " }] ∧
      called.2.cache = busyWorld.cache ∧
      called.2.table.routes.map Route.counters = [(3, 70), (Int64.maxValue, 5)] := by
  intro d flawed called
  obtain ⟨changes, counts⟩ := refused_changes_leave_no_trace d busyWorld
  obtain ⟨-, reasons, trace⟩ := changes flawed _ rfl
  have flaw : Route.flaw? { path := "/orders", service := " " } = some .emptyService := by decide
  have refused := (reasons _).mpr (.flawedAddition flaw)
  obtain ⟨same, asked⟩ := trace _ refused
  obtain ⟨-, before, route, behind, table, -, -, -, -, after⟩ :=
    counts "/orders" Int64.maxValue 5 (by rfl)
  have cache : called.2.cache = busyWorld.cache := by rw [after]
  exact ⟨refused, same, asked, cache, by decide +kernel⟩

end GatewayRouting
