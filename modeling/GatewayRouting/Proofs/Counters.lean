import GatewayRouting.Proofs.Registry
import GatewayRouting.Proofs.Upkeep
import Mathlib.Data.List.Nodup

/-!
# What changes counters

A route carries two counters. Recording calls adds to them, and holds the sums at the ends of their
range; nothing else adds to them. But replacing a route replaces all of it. The counters are then
those of the new route, whatever had been counted, and a caller who replaces a route with one that
it has made up, or has looked up a while ago, sets them back without a word.

So the counters of a path that stays registered follow from the calls that were recorded for it and
from the routes that took its place, in their order (`counters_usage`). Without a replacement they
follow from the calls alone. It makes no difference who asks: what is said here is said of the
requests that a table answers, made by a service or without one, in any order.
-/

namespace GatewayRouting

/-! ## Counters -/

/-- The two counters of a route: how many calls were recorded, and how long they took. -/
def Route.counters (route : Route) : Int64 × Int64 :=
  (route.callCount, route.totalResponseTime)

/-- The counters of the route of a path. -/
def Table.counters? (table : Table) (path : String) : Option (Int64 × Int64) :=
  (table.find? path).map Route.counters

namespace Event

/-- The counters of a path after an event, if nothing but the recording of calls had a say. -/
def counted (event : Event) (path : String) (counters : Int64 × Int64) : Int64 × Int64 :=
  match event with
  | ⟨.recordCalls other calls time, .ok _⟩ =>
    if other = path then
      (Route.addSaturating counters.1 calls, Route.addSaturating counters.2 time)
    else counters
  | _ => counters

/-- The route that takes the place of another one in an event. -/
def replacement? : Event → Option Route
  | ⟨.updateRoute route, .ok _⟩ => some route
  | _ => none

/-- The counters of a path after an event. -/
def recounted (event : Event) (path : String) (counters : Int64 × Int64) : Int64 × Int64 :=
  match event.replacement? with
  | some route => if route.path = path then route.counters else counters
  | none => event.counted path counters

/-- A request that does not change the table changes no counters. -/
theorem recounted_eq {q : Request} {reply : q.Reply} (leaves : ¬ q.ChangesTable) (path : String) :
    recounted ⟨q, reply⟩ path = id := by
  cases q <;> first | rfl | exact absurd trivial leaves

end Event

/-- The counters of a path after some events, if nothing but the recording of calls had a say. -/
def counted (events : List Event) (path : String) (counters : Int64 × Int64) : Int64 × Int64 :=
  events.foldl (fun counters event => event.counted path counters) counters

/-- The counters of a path after some events. -/
def recounted (events : List Event) (path : String) (counters : Int64 × Int64) : Int64 × Int64 :=
  events.foldl (fun counters event => event.recounted path counters) counters

theorem recounted_cons (event : Event) (events : List Event) (path : String) :
    recounted (event :: events) path = recounted events path ∘ event.recounted path := rfl

theorem recounted_append (past events : List Event) (path : String) :
    recounted (past ++ events) path = recounted events path ∘ recounted past path :=
  funext fun _ => List.foldl_append

/-- Without a change of the table no counters change. -/
theorem recounted_eq {events : List Event} (leave : ∀ event ∈ events, ¬ event.request.ChangesTable)
    (path : String) : recounted events path = id := by
  induction events with
  | nil => rfl
  | cons event rest ih =>
    obtain ⟨leaves, leave⟩ := List.forall_mem_cons.mp leave
    rw [recounted_cons, ih leave, Event.recounted_eq leaves]
    rfl

/-- If no route takes the place of the one of a path, then only the recording of calls has a say. -/
theorem recounted_eq_counted {events : List Event} {path : String}
    (kept : ∀ event ∈ events, ∀ route, event.replacement? = some route → route.path ≠ path) :
    recounted events path = counted events path := by
  refine funext fun counters => List.foldl_ext _ _ counters fun counters event mem => ?_
  rw [Event.recounted]
  split
  · rename_i route replaces
    rw [if_neg (kept event mem route replaces)]
    unfold Event.replacement? at replaces
    split at replaces
    · rfl
    · cases replaces
  · rfl

namespace Table

variable {table changed : Table} {route : Route} {path other : String} {change : Route → Route}

theorem isRegistered_iff_counters : table.isRegistered path = (table.counters? path).isSome := by
  rw [isRegistered, counters?, Option.isSome_map]

/-- A change of a route in its place changes what is found under that path only. -/
theorem find?_modify {stays : ∀ route : Route, route.path = other → (change route).path = other} :
    (table.modify other change stays).find? path =
      (table.find? path).map fun route => if other = path then change route else route := by
  -- no route changes its path, so the same one is found
  have same : ((·.path == path) ∘ fun route : Route =>
      if route.path = other then change route else route) = (·.path == path) := by
    funext route
    by_cases here : route.path = other
    · simp [here, stays route here]
    · simp [here]
  rw [find?_eq, find?_eq, routes_modify, List.find?_map, same]
  refine Option.map_congr fun route found => ?_
  have here : route.path = path := by simpa using List.find?_some found
  simp only [here, eq_comm (a := path)]

theorem counters?_modify (recount : Int64 × Int64 → Int64 × Int64)
    {stays : ∀ route : Route, route.path = other → (change route).path = other}
    (counts : ∀ route : Route, (change route).counters = recount route.counters) :
    (table.modify other change stays).counters? path =
      (table.counters? path).map fun counters =>
        if other = path then recount counters else counters := by
  rw [counters?, counters?, find?_modify, Option.map_map, Option.map_map]
  refine congrArg (Option.map · _) (funext fun route => ?_)
  by_cases changes : other = path
  · simp [changes, counts]
  · simp [changes]

/-- A new route comes last, so it hides nothing. -/
theorem counters?_add (added : table.add route = .ok changed)
    (before : table.isRegistered path = true) : changed.counters? path = table.counters? path := by
  obtain ⟨old, found⟩ := Option.isSome_iff_exists.mp before
  rw [find?_eq] at found
  simp [counters?, find?_eq, routes_of_add added, found]

theorem counters?_update (updated : table.update route = .ok changed) :
    changed.counters? path =
      (table.counters? path).map fun counters =>
        if route.path = path then route.counters else counters := by
  obtain ⟨_, _, rfl⟩ := of_update updated
  exact counters?_modify (fun _ => route.counters) fun _ => rfl

theorem counters?_recordCalls {calls time : Int64}
    (recorded : table.recordCalls other calls time = .ok changed) :
    changed.counters? path =
      (table.counters? path).map fun counters =>
        if other = path then
          (Route.addSaturating counters.1 calls, Route.addSaturating counters.2 time)
        else counters := by
  obtain ⟨_, rfl⟩ := of_recordCalls recorded
  exact counters?_modify
    (fun counters => (Route.addSaturating counters.1 calls, Route.addSaturating counters.2 time))
    fun _ => rfl

/-- Of a path that is still registered no route was removed. -/
theorem counters?_delete (deleted : table.delete other = .ok changed)
    (after : changed.isRegistered path = true) : changed.counters? path = table.counters? path := by
  obtain ⟨registered, rest⟩ := of_delete deleted
  obtain ⟨route, mem, here⟩ := List.mem_map.mp registered
  -- the removed route has a path of its own, so the one of this path is another route
  obtain ⟨gone, front, back, apart, here, whole, same⟩ :=
    List.exists_of_eraseP mem (p := (·.path == other)) (beq_iff_eq.mpr here)
  have here : gone.path = other := eq_of_beq here
  rw [isRegistered_iff, rest, same] at after
  rw [counters?, counters?, find?_eq, find?_eq, rest, same, whole]
  have ne : gone.path ≠ path := by
    rintro rfl
    have distinct := table.nodup_paths
    rw [whole, List.map_append, List.map_cons, List.nodup_middle, ← List.map_append] at distinct
    exact distinct.notMem after
  simp [ne]

end Table

/-! ## One request -/

variable {σ : Type} {d : Deployment σ} {world : World σ} {q : Request} {path : String}

/-- A request for a change of the table recounts, if it does so when it is agreed to. -/
theorem World.counters_change {step : Table → Except StoreError Table}
    (event : Except StoreError Unit → Event)
    (refused : ∀ error counters, (event (.error error)).recounted path counters = counters)
    (agreed : ∀ table, step world.table = .ok table → table.isRegistered path = true →
      table.counters? path =
        (world.table.counters? path).map ((event (.ok ())).recounted path))
    (after : (world.change step).2.table.isRegistered path = true) :
    (world.change step).2.table.counters? path =
      (world.table.counters? path).map ((event (world.change step).1).recounted path) := by
  obtain ⟨error, replied⟩ | ⟨table, _, agrees, replied⟩ := world.change_cases step
  · rw [replied, funext (refused error)]
    exact Option.map_id'.symm
  · rw [replied] at after ⊢
    exact agreed table agrees after

/-- **A request recounts.** If a path is registered before and after a request, then its counters
are what they were, recounted by that one event. -/
theorem Deployment.counters_handler (before : world.table.isRegistered path = true)
    (after : (d.handler q world).2.table.isRegistered path = true) :
    (d.handler q world).2.table.counters? path =
      (world.table.counters? path).map (Event.recounted ⟨q, (d.handler q world).1⟩ path) := by
  by_cases changes : q.ChangesTable
  · -- each of them is refused, or does to the table what its own lemma says
    cases q with
    | addRoute route =>
      refine World.counters_change (⟨.addRoute route, ·⟩) (fun _ _ => rfl) ?_ after
      intro table agrees _
      exact (Table.counters?_add agrees before).trans Option.map_id'.symm
    | updateRoute route =>
      refine World.counters_change (⟨.updateRoute route, ·⟩) (fun _ _ => rfl) ?_ after
      exact fun table agrees _ => Table.counters?_update agrees
    | deleteRoute other =>
      refine World.counters_change (⟨.deleteRoute other, ·⟩) (fun _ _ => rfl) ?_ after
      intro table agrees stays
      exact (Table.counters?_delete agrees stays).trans Option.map_id'.symm
    | recordCalls other calls time =>
      refine World.counters_change (⟨.recordCalls other calls time, ·⟩) (fun _ _ => rfl) ?_ after
      exact fun table agrees _ => Table.counters?_recordCalls agrees
    | _ => exact changes.elim
  · rw [table_handler changes, Event.recounted_eq changes]
    exact Option.map_id_apply.symm

/-! ## One operation -/

/-- An operation that does not look asks for a change of the table first, or not at all. -/
theorem Operation.upkeepAllows.first {operation : Operation} {past : List Event}
    (allowed : operation.upkeepAllows past q) (changes : q.ChangesTable) : past = [] := by
  cases q <;> first | exact changes.elim | exact allowed.2

/-- None of some events but the first is a request for a change of the table. -/
def ChangesFirst (events : List Event) : Prop :=
  ∀ event ∈ events.tail, ¬ event.request.ChangesTable

theorem ChangesFirst.append {past : List Event} {event : Event} (first : ChangesFirst past)
    (leaves : event.request.ChangesTable → past = []) : ChangesFirst (past ++ [event]) := by
  cases past with
  | nil => exact fun _ mem => absurd mem List.not_mem_nil
  | cons earlier past =>
    intro other mem
    obtain old | new := List.mem_append.mp mem
    · exact first other old
    · cases List.mem_singleton.mp new
      exact fun changes => absurd (leaves changes) (List.cons_ne_nil _ _)

/-- An operation changes the table first of all, or not at all. -/
theorem Deployment.changesFirst_ask (d : Deployment σ) (operation : Operation) (world : World σ) :
    ChangesFirst (d.eventsOf operation world) := by
  by_cases looks : operation.IsLookup
  · intro event mem changes
    have keeps := Operation.keepsTo_program (d := d) looks Knowledge.anything_closed
    obtain ⟨past, allowed⟩ := keeps.allowed_of_mem_trace (fun _ _ => granted_handler)
      (List.mem_of_mem_tail mem)
    generalize event.request = q at changes allowed
    cases q <;> first | exact changes.elim | exact allowed.elim
  · have step (past : List Event) (q : Request) (now : World σ) (first : ChangesFirst past)
        (allowed : operation.upkeepAllows past q) :
        ChangesFirst (past ++ [⟨q, (d.handler q now).1⟩]) :=
      first.append allowed.first
    exact upkeep_induction looks step fun _ mem => absurd mem List.not_mem_nil

/-- A run without a request for a change leaves the table alone. -/
theorem Deployment.table_of_trace {α : Type} {program : Program α}
    (leave : ∀ event ∈ program.trace d.handler world, ¬ event.request.ChangesTable) :
    (program.run d.handler world).2.table = world.table := by
  induction program generalizing world with
  | done value => rfl
  | ask q next ih =>
    obtain ⟨leaves, leave⟩ := List.forall_mem_cons.mp leave
    exact (ih _ leave).trans (table_handler leaves)

/-- **An operation recounts.** If a path is registered before and after an operation, then its
counters are what they were, recounted by the events of the operation. -/
theorem Deployment.counters_ask {operation : Operation}
    (before : world.table.isRegistered path = true)
    (after : (d.ask operation world).2.table.isRegistered path = true) :
    (d.ask operation world).2.table.counters? path =
      (world.table.counters? path).map (recounted (d.eventsOf operation world) path) := by
  have first := d.changesFirst_ask operation world
  rw [ask] at after ⊢
  rw [eventsOf] at first ⊢
  generalize operation.program d.options = program at first after ⊢
  cases program with
  | done value => exact Option.map_id_apply.symm
  | ask q next =>
    -- nothing changes the table after the first request
    have leave : ∀ event ∈ (next (d.handler q world).1).trace d.handler (d.handler q world).2,
        ¬ event.request.ChangesTable := first
    rw [Program.run_ask, table_of_trace leave] at after ⊢
    rw [Program.trace_ask, recounted_cons, recounted_eq leave]
    exact counters_handler before after

/-! ## Whole runs -/

/-- A use of a table: by anybody who has it, or by way of a service. -/
inductive Use (σ : Type) where
  /-- a request, made without a service -/
  | direct (request : Request)
  /-- what happens to a service over the table -/
  | service (happening : Happening σ)

namespace Deployment

/-- The world after a use. -/
def use (d : Deployment σ) (world : World σ) : Use σ → World σ
  | .direct q => (d.handler q world).2
  | .service happening => d.meet world happening

/-- The events of a use. -/
def useEvents (d : Deployment σ) (world : World σ) : Use σ → List Event
  | .direct q => [⟨q, (d.handler q world).1⟩]
  | .service (.asked operation) => d.eventsOf operation world
  | .service _ => []

/-- The world after some uses, in order. -/
def usage (d : Deployment σ) (world : World σ) (uses : List (Use σ)) : World σ :=
  uses.foldl d.use world

/-- The events of some uses. -/
def usageEvents (d : Deployment σ) : World σ → List (Use σ) → List Event
  | _, [] => []
  | world, use :: rest => d.useEvents world use ++ d.usageEvents (d.use world use) rest

/-- A path is registered from now on, through some uses. -/
def Stays (d : Deployment σ) (path : String) : World σ → List (Use σ) → Prop
  | world, [] => world.table.isRegistered path = true
  | world, use :: rest =>
    world.table.isRegistered path = true ∧ d.Stays path (d.use world use) rest

/-- Whether a path stays registered can be tried out. -/
instance decidableStays (d : Deployment σ) (path : String) :
    (world : World σ) → (uses : List (Use σ)) → Decidable (d.Stays path world uses)
  | world, [] => inferInstanceAs (Decidable (world.table.isRegistered path = true))
  | world, use :: rest =>
    have := decidableStays d path (d.use world use) rest
    inferInstanceAs (Decidable (_ ∧ d.Stays path (d.use world use) rest))

variable {use : Use σ} {uses : List (Use σ)}

theorem Stays.now (stays : d.Stays path world uses) : world.table.isRegistered path = true := by
  cases uses with
  | nil => exact stays
  | cons use rest => exact stays.1

theorem counters_use (before : world.table.isRegistered path = true)
    (after : (d.use world use).table.isRegistered path = true) :
    (d.use world use).table.counters? path =
      (world.table.counters? path).map (recounted (d.useEvents world use) path) := by
  cases use with
  | direct q => exact counters_handler before after
  | service happening =>
    cases happening with
    | asked operation => exact counters_ask before after
    | outage reason => exact Option.map_id_apply.symm
    | pause nanoseconds cache => exact Option.map_id_apply.symm

/-- As long as a path is registered, its counters follow from the events. -/
theorem counters_usage (stays : d.Stays path world uses) :
    (d.usage world uses).table.counters? path =
      (world.table.counters? path).map (recounted (d.usageEvents world uses) path) := by
  induction uses generalizing world with
  | nil => exact Option.map_id_apply.symm
  | cons use rest ih =>
    have step : (d.use world use).table.counters? path =
        (world.table.counters? path).map (recounted (d.useEvents world use) path) :=
      counters_use stays.1 stays.2.now
    have rest := ih stays.2
    rw [step, Option.map_map, ← recounted_append] at rest
    exact rest

end Deployment

/-- **Counters follow from calls and replacements.** Let a table be used in any way, with a service
or without one. From one moment to a later one through which a path stays registered, its counters
are changed by the calls that are recorded for it, each added with saturation, and are set by each
route that takes its place, in their order. If none does, then the recorded calls are all there is
to it. -/
theorem counters_from_calls_and_replacements (d : Deployment σ) (start : World σ)
    (before during : List (Use σ)) (path : String)
    (stays : d.Stays path (d.usage start before) during) :
    let now := d.usage start before
    let later := d.usage now during
    let events := d.usageEvents now during
    ∃ counters, now.table.counters? path = some counters ∧
      later.table.counters? path = some (recounted events path counters) ∧
      ((∀ event ∈ events, ∀ route, event.replacement? = some route → route.path ≠ path) →
        later.table.counters? path = some (counted events path counters)) := by
  intro now later events
  obtain ⟨counters, here⟩ : ∃ counters, now.table.counters? path = some counters := by
    rw [← Option.isSome_iff_exists, ← Table.isRegistered_iff_counters]
    exact stays.now
  have followed : later.table.counters? path = some (recounted events path counters) := by
    rw [Deployment.counters_usage stays, here]
    rfl
  refine ⟨counters, here, followed, fun kept => ?_⟩
  rw [followed, recounted_eq_counted kept]

/-- A route is registered and called, and its calls are recorded. -/
def registeredAndCalled : List (Use (Entries Cached)) :=
  [.direct (.addRoute (userRoute "http://old")), .service (.asked (.resolve "/users/42")),
    .direct (.recordCalls "/users/:id" 2 40)]

/-- Then it is replaced with one that has counters of its own, and called until they are full. -/
def replacedAndCalled : List (Use (Entries Cached)) :=
  [.service (.asked (.update { userRoute "http://new" with callCount := 7 })),
    .service (.outage (some "away")), .service (.asked (.recordCalls "/users/:id" 1 1)),
    .service (.outage none), .service (.asked (.recordCalls "/users/:id" Int64.maxValue 5))]

/-- The calls from before are lost, those during the outage are not recorded, and the others are
added to what the new route has brought, up to the end of the range. -/
theorem counters_of_replaced_route :
    let d := plainDeployment false
    let start := World.start {} [] (.empty 100 1000)
    let now := d.usage start registeredAndCalled
    now.table.counters? "/users/:id" = some (2, 40) ∧
      (d.usage now replacedAndCalled).table.counters? "/users/:id" =
        some (Int64.maxValue, 5) := by
  intro d start now
  obtain ⟨counters, here, followed, _⟩ := counters_from_calls_and_replacements d start
    registeredAndCalled replacedAndCalled "/users/:id" (by decide +kernel)
  have there : now.table.counters? "/users/:id" = some (2, 40) := by decide +kernel
  obtain rfl : (2, 40) = counters := Option.some.inj (there.symm.trans here)
  have sums : recounted (d.usageEvents now replacedAndCalled) "/users/:id" (2, 40) =
      (Int64.maxValue, 5) := by decide +kernel
  exact ⟨there, followed.trans (congrArg some sums)⟩

/-- Two calls are recorded for a route, and then it is replaced with one that was not called. -/
def calledThenReplaced {σ : Type} : List (Use σ) :=
  [.direct (.recordCalls "/users/:id" 2 40), .direct (.updateRoute (userRoute "http://new"))]

/-- The recorded calls are gone, though the path was registered all the time. -/
theorem counts_lost_by_replacement :
    let d := plainDeployment false
    let start := World.start (.single (userRoute "http://old")) [] (.empty 100 1000)
    let later := d.usage start calledThenReplaced
    Table.ofList [userRoute "http://old"] = .ok start.table ∧
      d.Stays "/users/:id" start calledThenReplaced ∧
      start.table.counters? "/users/:id" = some (0, 0) ∧
      counted (d.usageEvents start calledThenReplaced) "/users/:id" (0, 0) = (2, 40) ∧
      later.table.counters? "/users/:id" = some (0, 0) :=
  ⟨rfl, ⟨rfl, rfl, rfl⟩, rfl, rfl, rfl⟩

end GatewayRouting
