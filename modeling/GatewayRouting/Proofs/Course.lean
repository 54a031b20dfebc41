import GatewayRouting.Pattern
import GatewayRouting.Proofs.Contents
import GatewayRouting.Proofs.Protocol
import GatewayRouting.Resolution.Service

/-!
# The course of a service

A service is deployed over a cache and with a matcher, and is then asked one thing after the
other. In between, the table gets out of reach or comes back, time passes, and the cache loses
entries. A list of such `Happening`s takes the world through a *course*.

A statement about every course is one about every moment of every run, since a course can be cut
off anywhere. What is promised of the surroundings is a rule on each step of it (`Along`): a cache
that changes on its own only loses entries (`Contents.OnlyLoses`), and the memo keeps a record at
least as long as the cache holds the entry that it records (`MemoKeeps`).
-/

namespace GatewayRouting

/-! ## Operations -/

/-- What a service can be asked. -/
inductive Operation where
  /-- every registered route -/
  | routes
  /-- the route of a request path -/
  | resolve (path : String)
  /-- whether a method is allowed for a request path -/
  | permits (path method : String)
  /-- a route to be registered -/
  | add (route : Route)
  /-- a route to be replaced -/
  | update (route : Route)
  /-- a route to be removed -/
  | delete (path : String)
  /-- calls to be recorded for a route -/
  | recordCalls (path : String) (calls time : Int64)
  /-- the cache to be cleared -/
  | clear
deriving DecidableEq

/-- What a service answers. -/
inductive Answer where
  /-- a list of routes -/
  | routes (result : Except StoreError (List Route))
  /-- a route -/
  | route (result : Except LookupError Route)
  /-- a verdict on a method -/
  | verdict (result : Except LookupError Bool)
  /-- that something was done -/
  | done (result : Except StoreError Unit)

/-- The program of an operation. -/
def Operation.program (options : Options) : Operation → Program Answer
  | .routes => do return .routes (← Service.routes options)
  | .resolve path => do return .route (← Service.resolve options path)
  | .permits path method => do return .verdict (← Service.permits options path method)
  | .add route => do return .done (← Service.add route)
  | .update route => do return .done (← Service.update route)
  | .delete path => do return .done (← Service.delete path)
  | .recordCalls path calls time => do return .done (← Service.recordCalls path calls time)
  | .clear => do return .done (← Service.clear)

/-! ## Courses -/

/-- A service in its place: what it is built over. -/
structure Deployment (σ : Type) where
  /-- the cache -/
  cache : CacheBackend σ
  /-- the matcher: whether a pattern accepts a path -/
  accepts : String → String → Bool := Pattern.accepts
  /-- the options -/
  options : Options := {}

/-- What can happen to a service. -/
inductive Happening (σ : Type) where
  /-- it is asked something -/
  | asked (operation : Operation)
  /-- the table gets out of reach for a reason, or comes back -/
  | outage (reason : Option String)
  /-- time passes, and leaves the cache in some state -/
  | pause (nanoseconds : Nat) (cache : σ)

namespace Deployment

variable {σ : Type}

/-- How requests are answered. -/
def handler (d : Deployment σ) : Handler (World σ) :=
  World.handler d.cache d.accepts

/-- Asks for an operation. -/
def ask (d : Deployment σ) (operation : Operation) (world : World σ) : Answer × World σ :=
  (operation.program d.options).run d.handler world

/-- The events of an operation. -/
def eventsOf (d : Deployment σ) (operation : Operation) (world : World σ) : List Event :=
  (operation.program d.options).trace d.handler world

/-- The world after something happened. -/
def meet (d : Deployment σ) (world : World σ) : Happening σ → World σ
  | .asked operation => (d.ask operation world).2
  | .outage reason => { world with outage := reason }
  | .pause nanoseconds cache => { world with cache, memo := world.memo.advance nanoseconds }

/-- The world after all that happened, in order. -/
def course (d : Deployment σ) (world : World σ) (happenings : List (Happening σ)) : World σ :=
  happenings.foldl d.meet world

/-- A log of a course: what is put down for each operation that is asked for, in order. -/
def log {α : Type} (d : Deployment σ) (entries : Operation → World σ → List α) :
    World σ → List (Happening σ) → List α
  | _, [] => []
  | world, .asked operation :: rest =>
    entries operation world ++ d.log entries (d.meet world (.asked operation)) rest
  | world, happening :: rest => d.log entries (d.meet world happening) rest

/-- The events of a course. -/
def events (d : Deployment σ) : World σ → List (Happening σ) → List Event :=
  d.log d.eventsOf

/-- The tables of a course, one for each moment of it, the last one included. -/
def tables (d : Deployment σ) : World σ → List (Happening σ) → List Table
  | world, [] => [world.table]
  | world, happening :: rest => world.table :: d.tables (d.meet world happening) rest

/-- Every step of a course follows a rule. -/
def Along (d : Deployment σ) (rule : World σ → Happening σ → Prop) :
    World σ → List (Happening σ) → Prop
  | _, [] => True
  | world, happening :: rest => rule world happening ∧ d.Along rule (d.meet world happening) rest

/-- Whether a rule is followed can be decided by running the course. -/
instance decidableAlong (d : Deployment σ) (rule : World σ → Happening σ → Prop)
    [∀ world happening, Decidable (rule world happening)] :
    (world : World σ) → (happenings : List (Happening σ)) →
      Decidable (d.Along rule world happenings)
  | _, [] => isTrue trivial
  | world, happening :: rest =>
    have := d.decidableAlong rule (d.meet world happening) rest
    inferInstanceAs (Decidable (_ ∧ _))

@[simp] theorem course_nil (d : Deployment σ) (world : World σ) : d.course world [] = world := rfl

@[simp] theorem course_cons (d : Deployment σ) (world : World σ) (happening : Happening σ)
    (rest : List (Happening σ)) :
    d.course world (happening :: rest) = d.course (d.meet world happening) rest := rfl

variable {d : Deployment σ} {rule rule' : World σ → Happening σ → Prop} {world : World σ}
  {happenings : List (Happening σ)}

theorem Along.and (first : d.Along rule world happenings)
    (second : d.Along rule' world happenings) :
    d.Along (fun world happening => rule world happening ∧ rule' world happening)
      world happenings := by
  induction happenings generalizing world with
  | nil => trivial
  | cons happening rest ih => exact ⟨⟨first.1, second.1⟩, ih first.2 second.2⟩

theorem Along.mono (along : d.Along rule world happenings)
    (weaker : ∀ world happening, rule world happening → rule' world happening) :
    d.Along rule' world happenings := by
  induction happenings generalizing world with
  | nil => trivial
  | cons happening rest ih => exact ⟨weaker world happening along.1, ih along.2⟩

theorem course_append {rest : List (Happening σ)} :
    d.course world (happenings ++ rest) = d.course (d.course world happenings) rest :=
  List.foldl_append

/-- A rule is followed as long as a course has lasted. -/
theorem Along.of_append {rest : List (Happening σ)}
    (along : d.Along rule world (happenings ++ rest)) :
    d.Along rule world happenings := by
  induction happenings generalizing world with
  | nil => trivial
  | cons happening happenings ih => exact ⟨along.1, ih along.2⟩

theorem Along.append {rest : List (Happening σ)} (along : d.Along rule world happenings)
    (further : d.Along rule (d.course world happenings) rest) :
    d.Along rule world (happenings ++ rest) := by
  induction happenings generalizing world with
  | nil => exact further
  | cons happening happenings ih => exact ⟨along.1, ih along.2 further⟩

/-- What each step keeps, a course keeps. -/
theorem Along.course {inv : World σ → Prop} (along : d.Along rule world happenings)
    (step : ∀ world happening, rule world happening → inv world → inv (d.meet world happening))
    (start : inv world) : inv (d.course world happenings) := by
  induction happenings generalizing world with
  | nil => exact start
  | cons happening rest ih => exact ih along.2 (step world happening along.1 start)

/-- What each step keeps of the log so far and the world, a course keeps. -/
theorem Along.log {α : Type} {entries : Operation → World σ → List α}
    {inv : List α → World σ → Prop} {past : List α} (along : d.Along rule world happenings)
    (asked : ∀ past world operation, rule world (.asked operation) → inv past world →
      inv (past ++ entries operation world) (d.ask operation world).2)
    (outage : ∀ past world reason, rule world (.outage reason) → inv past world →
      inv past (d.meet world (.outage reason)))
    (pause : ∀ past world nanoseconds cache, rule world (.pause nanoseconds cache) →
      inv past world → inv past (d.meet world (.pause nanoseconds cache)))
    (start : inv past world) :
    inv (past ++ d.log entries world happenings) (d.course world happenings) := by
  induction happenings generalizing past world with
  | nil => simpa [Deployment.log] using start
  | cons happening rest ih =>
    cases happening with
    | asked operation =>
      have kept := ih along.2 (asked past world operation along.1 start)
      simpa [Deployment.log, List.append_assoc] using kept
    | outage reason => exact ih along.2 (outage past world reason along.1 start)
    | pause nanoseconds cache =>
      exact ih along.2 (pause past world nanoseconds cache along.1 start)

theorem table_mem_tables : world.table ∈ d.tables world happenings := by
  cases happenings with
  | nil => exact List.mem_singleton_self _
  | cons happening rest => exact List.mem_cons_self

theorem course_table_mem_tables :
    (d.course world happenings).table ∈ d.tables world happenings := by
  induction happenings generalizing world with
  | nil => exact List.mem_singleton_self _
  | cons happening rest ih => exact List.mem_cons_of_mem _ ih

/-- Before and after each step of a course, the table is one of the course's. -/
theorem along_tables :
    d.Along (fun now happening => now.table ∈ d.tables world happenings ∧
      (d.meet now happening).table ∈ d.tables world happenings) world happenings := by
  -- the tables of the rest are fewer, so the induction is over any list that has them all
  suffices general : ∀ (tables : List Table) (world : World σ),
      (∀ table ∈ d.tables world happenings, table ∈ tables) →
      d.Along (fun now happening => now.table ∈ tables ∧ (d.meet now happening).table ∈ tables)
        world happenings from
    general _ world fun _ mem => mem
  intro tables
  induction happenings with
  | nil => intro world _; trivial
  | cons happening rest ih =>
    intro world sub
    have later : ∀ table ∈ d.tables (d.meet world happening) rest, table ∈ tables :=
      fun table mem => sub table (List.mem_cons_of_mem _ mem)
    exact ⟨⟨sub _ List.mem_cons_self, later _ table_mem_tables⟩, ih _ later⟩

end Deployment

/-- A route of one parameter, for small courses. -/
def userRoute (service : String) : Route where
  path := "/users/:id"
  service := service

/-- A service over a plain cache. -/
def plainDeployment (sharedLoads : Bool) : Deployment (Entries Cached) where
  cache := plainCache
  options := { sharedLoads }

/-- A service over a plain cache whose calls fail by a script. -/
def scriptedDeployment : Deployment (Scripted (Entries Cached)) where
  cache := Scripted.backend plainCache true

/-- A small course: a route is looked up, and then replaced. -/
def lookedUpThenReplaced {σ : Type} : List (Happening σ) :=
  [.asked (.resolve "/users/42"), .asked (.update (userRoute "http://new"))]

/-! ## What is promised of the surroundings -/

variable {σ : Type}

/-- A cache that changes on its own only loses entries. -/
def CacheBackend.Contents.OnlyLoses {backend : CacheBackend σ} (contents : backend.Contents)
    (world : World σ) : Happening σ → Prop
  | .pause _ cache =>
    ∀ key value, contents.holds cache key value → contents.holds world.cache key value
  | _ => True

/-- The memo takes a record in, unless the entry that it is to record is gone already. -/
def CacheBackend.Contents.TakesIn {backend : CacheBackend σ} (contents : backend.Contents) :
    Request → World σ → Prop
  | .remember path pattern, world =>
    (∃ value, contents.holds world.cache (.single path) value) →
      path ∈ (world.memo.remember path pattern).paths
  | _, _ => True

/-- The memo keeps a record at least as long as the cache holds the entry that it records: it takes
every record in, and time takes none away whose entry stays. -/
def Deployment.MemoKeeps (d : Deployment σ) (contents : d.cache.Contents) (world : World σ) :
    Happening σ → Prop
  | .asked operation => (operation.program d.options).Always d.handler contents.TakesIn world
  | .outage _ => True
  | .pause nanoseconds cache =>
    ∀ path value, path ∈ world.memo.paths → contents.holds cache (.single path) value →
      path ∈ (world.memo.advance nanoseconds).paths

/-- Whether the memo takes a record in, whatever is cached. -/
def takesRecord : Request → World σ → Bool
  | .remember path pattern, world => decide (path ∈ (world.memo.remember path pattern).paths)
  | _, _ => true

theorem takesIn_of_takesRecord {backend : CacheBackend σ} {contents : backend.Contents}
    {q : Request} {world : World σ} (takes : takesRecord q world = true) :
    contents.TakesIn q world := by
  cases q with
  | remember path pattern => exact fun _ => of_decide_eq_true takes
  | _ => trivial

theorem Deployment.memoKeeps_asked {d : Deployment σ} {contents : d.cache.Contents}
    {operation : Operation} {world : World σ}
    (takes : (operation.program d.options).Always d.handler (takesRecord · · = true) world) :
    d.MemoKeeps contents world (.asked operation) :=
  takes.mono fun _ _ => takesIn_of_takesRecord

end GatewayRouting
