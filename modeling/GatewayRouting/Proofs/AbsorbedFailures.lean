import GatewayRouting.Proofs.LookupCalls
import GatewayRouting.Proofs.Totals

/-!
# Absorbed failures are counted once

The service is built so that a failing cache is felt nowhere but in its metrics. It reads, writes
and erases in four ways only, and each of them notes what it absorbs: a call that fails, and a value
of the wrong shape. Everything else passes the cache by. `Composed` says this of a program, and of
the program of each operation (`Operation.composed`); so what is to be shown of every operation
needs to be shown of these four.

The first thing to be shown is that the books are kept: at every moment of every course, as many
failures are counted as cache calls have failed and reads have brought a value of the wrong shape
(`Deployment.absorbed_course`).
-/

namespace GatewayRouting

variable {σ : Type}

/-! ## What operations are made of -/

/-- What neither goes to the cache nor notes a failure of it. -/
def Request.PassesCacheBy : Request → Prop
  | .readCache _ | .writeCache .. | .eraseCache _ | .note (.cacheFailure _) => False
  | _ => True

namespace Service

/-- A program that goes to the cache only as the service does. -/
inductive Composed : {α : Type} → Program α → Prop where
  /-- it is done -/
  | done {α : Type} (value : α) : Composed (.done value)
  /-- one program comes after the other -/
  | bind {α β : Type} {program : Program α} {next : α → Program β} (first : Composed program)
      (rest : ∀ value, Composed (next value)) : Composed (program.bind next)
  /-- it passes the cache by -/
  | request {q : Request} (passes : q.PassesCacheBy) : Composed (.request q)
  /-- the entry of a path is read -/
  | cachedRoute (path : String) : Composed (cachedRoute path)
  /-- the list is read -/
  | cachedRoutes : Composed cachedRoutes
  /-- a value is cached -/
  | store (options : Options) (key : Key) (value : Cached) : Composed (store options key value)
  /-- a key is erased -/
  | invalidate (key : Key) : Composed (invalidate key)

namespace Composed

variable {α : Type} {options : Options}

theorem ask {q : Request} {next : q.Reply → Program α} (passes : q.PassesCacheBy)
    (rest : ∀ reply, Composed (next reply)) : Composed (.ask q next) :=
  (request passes).bind rest

theorem sharing {fetch : Program (Except StoreError (List Route))} (fetches : Composed fetch) :
    Composed (sharing fetch) := by
  rw [sharing_eq]
  refine ask trivial fun number => ask trivial fun turn => ?_
  cases turn with
  | lead => exact fetches.bind fun _ => ask trivial fun _ => ask trivial fun _ => done _
  | follow result => exact ask trivial fun _ => done _

theorem fetchRoutes : Composed (fetchRoutes options) := by
  refine ask trivial fun _ => ask trivial fun result => ?_
  cases result with
  | ok routes => exact (store _ _ _).bind fun _ => done _
  | error error => exact done _

theorem routes : Composed (routes options) := by
  refine cachedRoutes.bind fun found => ?_
  cases found with
  | some routes => exact done _
  | none =>
    dsimp only [loadRoutes]
    split
    · exact sharing fetchRoutes
    · exact fetchRoutes

theorem firstAccepting (path : String) (routes : List Route) :
    Composed (firstAccepting path routes) := by
  induction routes with
  | nil => exact done _
  | cons route routes ih =>
    refine ask trivial fun accepted => ?_
    cases accepted with
    | true => exact done _
    | false => exact ih

theorem scan (path : String) (routes : List Route) : Composed (scan options path routes) := by
  refine (firstAccepting path routes).bind fun found => ?_
  cases found with
  | none => exact done _
  | some route => exact (store _ _ _).bind fun _ => ask trivial fun _ => done _

theorem lookUp (path : String) : Composed (lookUp options path) := by
  refine (cachedRoute path).bind fun found => ?_
  cases found with
  | some route => exact done _
  | none =>
    refine routes.bind fun result => ?_
    cases result with
    | ok routes => exact scan path routes
    | error error => exact done _

theorem resolve (path : String) : Composed (resolve options path) :=
  (lookUp path).bind fun _ => ask trivial fun _ => done _

theorem invalidateAll (paths : List String) : Composed (invalidateAll paths) := by
  induction paths with
  | nil => exact done _
  | cons path paths ih => exact (invalidate _).bind fun _ => ih

theorem forgetAll (records : List (String × String)) : Composed (forgetAll records) := by
  induction records with
  | nil => exact done _
  | cons record records ih => exact ask trivial fun _ => ih

theorem sweep : Composed sweep :=
  ask trivial fun _ => (forgetAll _).bind fun _ => invalidateAll _

theorem uncache (path : String) : Composed (uncache path) :=
  (invalidate _).bind fun _ => invalidate _

theorem changing {asking : Program (Except StoreError α)} {before : α → Program Unit}
    (asks : Composed asking) (starts : ∀ value, Composed (before value)) :
    Composed (changing asking before) := by
  refine asks.bind fun result => ?_
  cases result with
  | error error => exact done _
  | ok value => exact (starts value).bind fun _ => sweep.bind fun _ => done _

theorem add (route : Route) : Composed (add route) := by
  rw [add_eq]
  exact changing (request trivial) fun _ => invalidate _

theorem update (route : Route) : Composed (update route) := by
  rw [update_eq]
  exact changing (request trivial) fun _ => uncache _

theorem delete (path : String) : Composed (delete path) := by
  rw [delete_eq]
  exact changing (request trivial) fun _ => uncache _

theorem clear : Composed clear := by
  rw [clear_eq]
  refine changing ?_ fun routes => invalidateAll _
  exact (invalidate _).bind fun _ => request trivial

end Composed
end Service

/-- Every operation goes to the cache only as the service does. -/
theorem Operation.composed (options : Options) (operation : Operation) :
    Service.Composed (operation.program options) := by
  cases operation with
  | routes => exact Service.Composed.routes.bind fun _ => .done _
  | resolve path => exact (Service.Composed.resolve path).bind fun _ => .done _
  | permits path method =>
    exact ((Service.Composed.resolve path).bind fun _ => .done _).bind fun _ => .done _
  | add route => exact (Service.Composed.add route).bind fun _ => .done _
  | update route => exact (Service.Composed.update route).bind fun _ => .done _
  | delete path => exact (Service.Composed.delete path).bind fun _ => .done _
  | recordCalls path calls time => exact .ask trivial fun _ => .done _
  | clear => exact Service.Composed.clear.bind fun _ => .done _

/-! ## What is absorbed -/

namespace Event

/-- Whether an event is a call to the cache that failed. -/
def failed : Event → Bool
  | ⟨.readCache _, .error _⟩ => true
  | ⟨.writeCache .., .error _⟩ => true
  | ⟨.eraseCache _, .error _⟩ => true
  | _ => false

/-- Whether an event is a reading of the cache that brought a value of the wrong shape. -/
def misshapen : Event → Bool
  | ⟨.readCache key, .ok (some value)⟩ => value.kind ≠ key.kind
  | _ => false

/-- Whether an event is a note that a failure was absorbed. -/
def absorbed : Event → Bool
  | ⟨.note (.cacheFailure _), _⟩ => true
  | _ => false

end Event

/-- How many calls to the cache have failed, and how many have brought the wrong shape. -/
def troubles (events : List Event) : Nat :=
  events.countP Event.failed + events.countP Event.misshapen

theorem troubles_append (past events : List Event) :
    troubles (past ++ events) = troubles past + troubles events := by
  simp only [troubles, List.countP_append]
  omega

/-- Each failed call and each value of the wrong shape is noted, once, and nothing else is. -/
theorem Service.Composed.absorbed_eq {α : Type} {program : Program α} (composed : Composed program)
    (handler : Handler σ) (state : σ) :
    (program.trace handler state).countP Event.absorbed =
      troubles (program.trace handler state) := by
  induction composed generalizing state with
  | done value => rfl
  | bind first rest ih ih' =>
    rw [Program.trace_bind, List.countP_append, troubles_append, ih, ih']
  | @request q passes =>
    cases q with
    | note observation => cases observation <;> first | exact passes.elim | rfl
    | _ => first | exact passes.elim | rfl
  | cachedRoute path =>
    rw [Service.cachedRoute, cachedAs_eq, Program.trace_ask]
    rcases (handler (.readCache (.single path)) state).1 with error | missing | (route | routes)
    all_goals rfl
  | cachedRoutes =>
    rw [Service.cachedRoutes, cachedAs_eq, Program.trace_ask]
    rcases (handler (.readCache .list) state).1 with error | missing | (route | routes)
    all_goals rfl
  | store options key value =>
    rw [Service.store, Program.bind_eq, Program.request_bind, Program.trace_ask]
    cases (handler (.writeCache key value options.ttlSeconds) state).1 <;> rfl
  | invalidate key =>
    rw [Service.invalidate, Program.bind_eq, Program.request_bind, Program.trace_ask]
    cases (handler (.eraseCache key) state).1 <;> rfl

/-! ## What is counted -/

section

variable {d : Deployment σ} {world : World σ}

/-- A note that a failure was absorbed adds to the count, and no other does. -/
theorem cacheFailureCount_cons (observation : Observation) (observed : List Observation) :
    cacheFailureCount (observation :: observed) = cacheFailureCount observed +
      [(⟨.note observation, ()⟩ : Event)].countP Event.absorbed := by
  cases observation with
  | cacheFailure call =>
    have added : [(⟨.note (.cacheFailure call), ()⟩ : Event)].countP Event.absorbed = 1 := rfl
    rw [added]
    cases call <;> simp [cacheFailureCount, Observation.count] <;> omega
  | _ => simp [cacheFailureCount, Observation.count, Event.absorbed]

/-- Only what is noted is counted. -/
theorem Deployment.absorbed_handler (q : Request) :
    cacheFailureCount (d.handler q world).2.observed = cacheFailureCount world.observed +
      [(⟨q, (d.handler q world).1⟩ : Event)].countP Event.absorbed := by
  by_cases asksTable : q = .listRoutes ∨ q.ChangesTable
  · rw [handler_snd_of_table asksTable]
    cases q <;> first | rfl | simp [Request.ChangesTable] at asksTable
  · cases q with
    | note observation => exact cacheFailureCount_cons observation world.observed
    | _ => first | rfl | simp [Request.ChangesTable] at asksTable

/-- Whatever is run, as many failures are counted as were noted. -/
theorem Deployment.absorbed_run {α : Type} (program : Program α) :
    cacheFailureCount (program.run d.handler world).2.observed =
      cacheFailureCount world.observed +
        (program.trace d.handler world).countP Event.absorbed := by
  induction program generalizing world with
  | done value => rfl
  | ask q next ih =>
    rw [Program.run_ask, ih, absorbed_handler, Nat.add_assoc, ← List.countP_append]
    rfl

/-- **The books are kept.** In any course, over whatever cache, the failures that are counted are
the calls to the cache that failed and the readings that brought a value of the wrong shape. -/
theorem Deployment.absorbed_course (d : Deployment σ) (world : World σ)
    (happenings : List (Happening σ)) :
    cacheFailureCount (d.course world happenings).observed =
      cacheFailureCount world.observed + troubles (d.events world happenings) := by
  induction happenings generalizing world with
  | nil => rfl
  | cons happening rest ih =>
    rw [course_cons, ih]
    cases happening with
    | asked operation =>
      have kept : cacheFailureCount (d.ask operation world).2.observed =
          cacheFailureCount world.observed + troubles (d.eventsOf operation world) := by
        rw [ask, absorbed_run, (operation.composed d.options).absorbed_eq]
        rfl
      change _ = _ +
        troubles (d.eventsOf operation world ++ d.events (d.ask operation world).2 rest)
      rw [troubles_append, meet, kept, Nat.add_assoc]
    | outage reason => rfl
    | pause nanoseconds cache => rfl

end

end GatewayRouting
