import GatewayRouting.Proofs.Erasures
import GatewayRouting.Proofs.ReadYourWrites

/-!
# Services without a cache

A `Cacheless` service has nothing but its table and answers from it at once. Whatever a service with
a cache is told by that cache, and whatever options it has, it does to its table what the service
without one does (`cacheless_course`): the table is asked for a change before the cache is asked for
anything, and by nobody else. So two services over equal tables change them in the same way and
answer in the same way whether they could, even if one of their caches makes up routes.
-/

namespace GatewayRouting

/-- A service with nothing but a table. -/
structure Cacheless where
  /-- the registered routes -/
  table : Table
  /-- why the table is out of reach, if it is -/
  outage : Option String := none

/-- What can happen to a service without a cache. -/
inductive Occurrence where
  /-- it is asked something -/
  | asked (operation : Operation)
  /-- the table gets out of reach for a reason, or comes back -/
  | outage (reason : Option String)

section

variable {σ : Type}

/-- What there is to a happening without a cache. -/
def Happening.occurrence? : Happening σ → Option Occurrence
  | .asked operation => some (.asked operation)
  | .outage reason => some (.outage reason)
  | .pause _ _ => none

/-- What there is to some happenings without a cache. -/
def occurrences (happenings : List (Happening σ)) : List Occurrence :=
  happenings.filterMap Happening.occurrence?

end

/-- What an operation makes of a table. -/
def Operation.applyTo : Operation → Table → Except StoreError Table
  | .recordCalls path calls time, table => table.recordCalls path calls time
  | operation, table => operation.revise table

theorem Operation.IsLookup.applyTo {operation : Operation} (looks : operation.IsLookup)
    (table : Table) : operation.applyTo table = .ok table := by
  cases operation <;> first | rfl | exact looks.elim

namespace Cacheless

/-- The table, if it can be reached. -/
def reach (now : Cacheless) : Except StoreError Table :=
  match now.outage with
  | some reason => .error (.unavailable reason)
  | none => .ok now.table

/-- Every registered route. -/
def routes (now : Cacheless) : Except StoreError (List Route) :=
  now.reach.map (·.routes)

/-- A change of the table, if it can be reached and agrees. -/
def change (now : Cacheless) (step : Table → Except StoreError Table) :
    Except StoreError Unit × Cacheless :=
  match now.reach.bind step with
  | .ok table => (.ok (), { now with table })
  | .error error => (.error error, now)

/-- The first route of a list that answers a path. -/
def pick (accepts : String → String → Bool) (path : String) (routes : List Route) :
    Except LookupError Route :=
  match firstMatch accepts path routes with
  | some route => .ok route
  | none => .error (.noMatch path)

/-- The route of a path: the list is loaded, and its first match is taken. -/
def resolve (accepts : String → String → Bool) (now : Cacheless) (path : String) :
    Except LookupError Route :=
  match now.routes with
  | .ok routes => pick accepts path routes
  | .error error => .error (.store error)

/-- The answer to an operation. -/
def answer (accepts : String → String → Bool) (options : Options) (now : Cacheless) :
    Operation → Answer
  | .routes => .routes now.routes
  | .resolve path => .route (now.resolve accepts path)
  | .permits path method =>
    .verdict ((now.resolve accepts path).map (Service.letsThrough options · method))
  | operation => .done (now.change operation.applyTo).1

/-- The service after something happened. -/
def meet (now : Cacheless) : Occurrence → Cacheless
  | .asked operation => (now.change operation.applyTo).2
  | .outage reason => { now with outage := reason }

/-- The service after all that happened, in order. -/
def course (now : Cacheless) (occurrences : List Occurrence) : Cacheless :=
  occurrences.foldl meet now

variable {now : Cacheless}

/-- A change that leaves the table as it is leaves the service as it is, and is done if the table
can be reached. -/
theorem change_ok : now.change .ok = (now.routes.map fun _ => (), now) := by
  obtain ⟨table, _ | reason⟩ := now <;> rfl

theorem change_lookup {operation : Operation} (looks : operation.IsLookup) :
    (now.change operation.applyTo).2 = now := by
  rw [show operation.applyTo = .ok from funext looks.applyTo, change_ok]

theorem answer_of_not_isLookup {accepts : String → String → Bool} {options : Options}
    {operation : Operation} (changes : ¬ operation.IsLookup) :
    now.answer accepts options operation = .done (now.change operation.applyTo).1 := by
  cases operation <;> first | rfl | exact absurd trivial changes

end Cacheless

/-! ## The table's side of a service -/

variable {σ τ : Type}

/-- What is left of the surroundings without a cache. -/
def World.cacheless (world : World σ) : Cacheless :=
  ⟨world.table, world.outage⟩

namespace World

/-- A change of the table is the one of a service without a cache. -/
theorem change_cacheless (world : World σ) (step : Table → Except StoreError Table) :
    (world.change step).1 = (world.cacheless.change step).1 ∧
      (world.change step).2.cacheless = (world.cacheless.change step).2 := by
  obtain ⟨table, _ | reason, cache, memo, loads, observed⟩ := world
  · cases agrees : step table with
    | ok changed =>
      rw [change_of_ok rfl agrees]
      simp [cacheless, Cacheless.change, Cacheless.reach, Except.bind, agrees]
    | error error =>
      rw [change_of_error rfl agrees]
      simp [cacheless, Cacheless.change, Cacheless.reach, Except.bind, agrees]
  · rw [change_of_outage rfl]
    exact ⟨rfl, rfl⟩

end World

namespace Deployment

variable {d : Deployment σ} {world : World σ} {α : Type} {program : Program α}

theorem cacheless_handler {q : Request} (leaves : ¬ q.ChangesTable) :
    (d.handler q world).2.cacheless = world.cacheless := by
  rw [World.cacheless, table_handler leaves, outage_handler, World.cacheless]

theorem reply_listRoutes : (d.handler .listRoutes world).1 = world.cacheless.routes := by
  rw [handler_listRoutes]
  obtain ⟨table, _ | reason, cache, memo, loads, observed⟩ := world <;> rfl

/-- A program that does not change the table leaves all of its side as it is. -/
theorem cacheless_run (asks : program.Asks fun q => ¬ q.ChangesTable) :
    (program.run d.handler world).2.cacheless = world.cacheless := by
  have step (q : Request) (now : World σ) (leaves : ¬ q.ChangesTable)
      (same : now.cacheless = world.cacheless) :
      (d.handler q now).2.cacheless = world.cacheless :=
    (cacheless_handler leaves).trans same
  exact asks.run step rfl

end Deployment

/-! ## One operation -/

namespace Service

open Program

variable {d : Deployment σ} {world : World σ}

theorem asks_forgetAll {allowed : Request → Prop} (forgets : ∀ path, allowed (.forget path))
    (records : List (String × String)) : (forgetAll records).Asks allowed := by
  induction records with
  | nil => trivial
  | cons record records ih => exact ⟨forgets _, fun _ => ih⟩

theorem asks_sweep {allowed : Request → Prop} (takes : allowed .recorded)
    (forgets : ∀ path, allowed (.forget path)) (erases : ∀ key, allowed (.eraseCache key))
    (notes : ∀ call, allowed (.note (.cacheFailure call))) : sweep.Asks allowed :=
  ⟨takes, fun records => (asks_forgetAll forgets records).bind fun _ =>
    asks_invalidateAll erases notes _⟩

theorem asks_sweepAfter {allowed : Request → Prop} {before : Program Unit}
    (leaves : before.Asks allowed) (sweeps : sweep.Asks allowed) :
    (sweepAfter before).Asks allowed :=
  leaves.bind fun _ => sweeps.bind fun _ => trivial

theorem asks_changing {α : Type} {allowed : Request → Prop}
    {asking : Program (Except StoreError α)} {before : α → Program Unit}
    (asks : asking.Asks allowed) (leaves : ∀ value, (before value).Asks allowed)
    (sweeps : sweep.Asks allowed) : (changing asking before).Asks allowed := by
  refine asks.bind fun result => ?_
  cases result with
  | ok value => exact asks_sweepAfter (leaves value) sweeps
  | error error => trivial

/-- What the table is asked first decides the answer, and the rest leaves the table alone. -/
theorem run_changing {α : Type} (d : Deployment σ) (world : World σ)
    (asking : Program (Except StoreError α)) {before : α → Program Unit}
    (leaves : ∀ value, (before value).Asks fun q => ¬ q.ChangesTable) :
    ((changing asking before).run d.handler world).1 =
        (asking.run d.handler world).1.map (fun _ => ()) ∧
      ((changing asking before).run d.handler world).2.cacheless =
        (asking.run d.handler world).2.cacheless := by
  have sweeps : sweep.Asks fun q => ¬ q.ChangesTable :=
    asks_sweep id (fun _ => id) (fun _ => id) fun _ => id
  rw [changing, run_bind]
  cases (asking.run d.handler world).1 with
  | error error => exact ⟨rfl, rfl⟩
  | ok value =>
    exact ⟨answer_sweepAfter, Deployment.cacheless_run (asks_sweepAfter (leaves value) sweeps)⟩

/-- What a change does to the table, and answers. -/
theorem run_changing_request {step : Table → Except StoreError Table}
    {asking : Program (Except StoreError Unit)} {before : Program Unit}
    (asks : asking.run d.handler world = world.change step)
    (leaves : before.Asks fun q => ¬ q.ChangesTable) :
    ((changing asking fun _ => before).run d.handler world).1 = (world.cacheless.change step).1 ∧
      ((changing asking fun _ => before).run d.handler world).2.cacheless =
        (world.cacheless.change step).2 := by
  obtain ⟨answer, after⟩ := run_changing d world asking fun _ => leaves
  obtain ⟨replied, changed⟩ := world.change_cacheless step
  rw [answer, after, asks, replied, changed]
  exact ⟨by cases (world.cacheless.change step).1 <;> rfl, rfl⟩

/-- A clearing lists the routes after it has erased their list. -/
theorem run_clear :
    (clear.run d.handler world).1 = (world.cacheless.change .ok).1 ∧
      (clear.run d.handler world).2.cacheless = (world.cacheless.change .ok).2 := by
  have erased : ((invalidate .list).run d.handler world).2.cacheless = world.cacheless :=
    Deployment.cacheless_run (asks_invalidate id fun _ => id)
  rw [clear_eq]
  obtain ⟨answer, after⟩ := run_changing d world
    ((invalidate .list).bind fun _ => request .listRoutes)
    fun routes => asks_invalidateAll (fun _ => id) (fun _ => id) (routes.map (·.path))
  rw [answer, after, run_bind, Cacheless.change_ok]
  constructor
  · change (Except.map _ (d.handler .listRoutes _).1) = _
    rw [Deployment.reply_listRoutes, erased]
  · change (d.handler .listRoutes _).2.cacheless = _
    rw [Deployment.cacheless_handler id, erased]

end Service

namespace Deployment

variable {d : Deployment σ} {world : World σ} {operation : Operation}

/-- A lookup leaves the table's side alone. -/
theorem cacheless_lookup (looks : operation.IsLookup) :
    (d.ask operation world).2.cacheless = world.cacheless := by
  have keeps := Operation.keepsTo_program (d := d) looks Knowledge.anything_closed
  have step (past : List Event) (q : Request) (now : World σ)
      (same : now.cacheless = world.cacheless)
      (allowed : Knowledge.anything.lookupAllows past q) :
      granted d.accepts q (d.handler q now).1 ∧
        (d.handler q now).2.cacheless = world.cacheless := by
    refine ⟨granted_handler, (cacheless_handler ?_).trans same⟩
    cases q <;> first | exact allowed.elim | exact id
  exact (keeps.run_of_forall step rfl).2

/-- What does not look does to the table, and answers, what it does without a cache. -/
theorem upkeep_cacheless (changes : ¬ operation.IsLookup) :
    (d.ask operation world).1 = .done (world.cacheless.change operation.applyTo).1 ∧
      (d.ask operation world).2.cacheless = (world.cacheless.change operation.applyTo).2 := by
  -- each of them is a program that ends with a result, which is the answer
  suffices main : ∃ program : Program (Except StoreError Unit),
      operation.program d.options = program.bind (fun result => .done (.done result)) ∧
      (program.run d.handler world).1 = (world.cacheless.change operation.applyTo).1 ∧
      (program.run d.handler world).2.cacheless =
        (world.cacheless.change operation.applyTo).2 by
    obtain ⟨program, same, answer, after⟩ := main
    rw [ask, same, Program.run_bind]
    exact ⟨congrArg Answer.done answer, after⟩
  have unlists : (Service.invalidate .list).Asks fun q => ¬ q.ChangesTable :=
    Service.asks_invalidate id fun _ => id
  have uncaches (path : String) : (Service.uncache path).Asks fun q => ¬ q.ChangesTable :=
    (Service.asks_invalidate id fun _ => id).bind fun _ => unlists
  cases operation with
  | add route =>
    exact ⟨_, rfl, Service.add_eq route ▸ Service.run_changing_request rfl unlists⟩
  | update route =>
    exact ⟨_, rfl, Service.update_eq route ▸ Service.run_changing_request rfl (uncaches _)⟩
  | delete path =>
    exact ⟨_, rfl, Service.delete_eq path ▸ Service.run_changing_request rfl (uncaches _)⟩
  | recordCalls path calls time => exact ⟨_, rfl, World.change_cacheless _ _⟩
  | clear => exact ⟨_, rfl, Service.run_clear⟩
  | _ => exact absurd trivial changes

/-- **Whatever the cache says**, an operation does to the table what it does without one. -/
theorem cacheless_ask (d : Deployment σ) (operation : Operation) (world : World σ) :
    (d.ask operation world).2.cacheless = world.cacheless.meet (.asked operation) := by
  by_cases looks : operation.IsLookup
  · exact (cacheless_lookup looks).trans (Cacheless.change_lookup looks).symm
  · exact (upkeep_cacheless looks).2

/-! ## Whole runs -/

/-- **Whatever the cache says**, the table is that of a service without one. -/
theorem cacheless_course (d : Deployment σ) (world : World σ)
    (happenings : List (Happening σ)) :
    (d.course world happenings).cacheless =
      world.cacheless.course (occurrences happenings) := by
  induction happenings generalizing world with
  | nil => rfl
  | cons happening rest ih =>
    rw [course_cons, ih]
    cases happening with
    | asked operation =>
      exact congrArg (Cacheless.course · (occurrences rest)) (cacheless_ask d operation world)
    | outage reason => rfl
    | pause nanoseconds cache => rfl

end Deployment

/-- **Tables live apart from caches.** Let two services have equal tables and whatever else: caches
that say and do anything, matchers, options, memos, and time that passes in different ways. If they
are asked the same, and their tables get out of reach and come back at the same times, then the
tables stay equal, and every change, every recording of calls and every clearing is answered the
same. -/
theorem tables_apart_from_caches (one : Deployment σ) (other : Deployment τ) (start : World σ)
    (start' : World τ) (table : start.table = start'.table) (outage : start.outage = start'.outage)
    (happenings : List (Happening σ)) (happenings' : List (Happening τ))
    (same : occurrences happenings = occurrences happenings') :
    let now := one.course start happenings
    let now' := other.course start' happenings'
    now.table = now'.table ∧
      ∀ operation : Operation, ¬ operation.IsLookup →
        (one.ask operation now).1 = (other.ask operation now').1 := by
  intro now now'
  have start : start.cacheless = start'.cacheless := by
    rw [World.cacheless, World.cacheless, table, outage]
  -- neither is compared with the other, but each with the service without a cache
  have equal : now.cacheless = now'.cacheless := by
    rw [Deployment.cacheless_course, Deployment.cacheless_course, start, same]
  refine ⟨congrArg Cacheless.table equal, fun operation changes => ?_⟩
  rw [(Deployment.upkeep_cacheless changes).1, (Deployment.upkeep_cacheless changes).1, equal]

/-- A cache that makes up a route for every path, and refuses everything else. -/
def lyingCache : CacheBackend Unit where
  name := "liar"
  read _ _ := (.ok (some (.single (userRoute "http://lie"))), ())
  write _ _ _ _ := (.error (.unavailable "liar"), ())
  erase _ _ := (.error (.unavailable "liar"), ())

/-- What was made up is an answer to a lookup, but has no effect on the table that an honest cache
does not have. -/
theorem lies_stay_in_cache :
    let liar : Deployment Unit := { cache := lyingCache, options := { sharedLoads := true } }
    let honest := plainDeployment false
    let table : Table := .single (userRoute "http://old")
    let now := liar.course (World.start table () (.empty 0 0)) lookedUpThenReplaced
    let now' := honest.course (World.start table [] (.empty 100 1000))
      (.pause 7 [] :: lookedUpThenReplaced)
    (liar.ask (.resolve "/users/42") now).1 = .route (.ok (userRoute "http://lie")) ∧
      now.table = .single (userRoute "http://new") ∧ now'.table = now.table ∧
        (liar.ask (.delete "/users/:id") now).1 = (honest.ask (.delete "/users/:id") now').1 := by
  intro liar honest table now now'
  obtain ⟨tables, answers⟩ := tables_apart_from_caches liar honest
    (World.start table () (.empty 0 0)) (World.start table [] (.empty 100 1000)) rfl rfl
    lookedUpThenReplaced (.pause 7 [] :: lookedUpThenReplaced) rfl
  have replaced : now.table = .single (userRoute "http://new") := by decide +kernel
  exact ⟨rfl, replaced, tables.symm, answers (.delete "/users/:id") id⟩

end GatewayRouting
