import GatewayRouting.Proofs.Coherence
import GatewayRouting.Proofs.PathGrammar

/-!
# Routes at their own patterns

A pattern read as a path is accepted by itself (`Pattern.accepts_self`): each of its segments stands
for itself, a parameter or a wildcard because it is not empty, and a wildcard in the last place
because there is a segment left. So the pattern of a registered route finds some route in the table,
and one that is registered no later than it. What the table would answer is what the service answers
as long as the cache is coherent, so a registered route is within reach at its own pattern, whatever
was cached before it was registered (`registered_routes_within_reach`).
-/

namespace GatewayRouting

/-! ## Patterns that accept themselves -/

theorem Segment.standsFor_self (segment : Segment) : segment.StandsFor segment := by
  by_cases free : segment.Parameter ∨ segment = wildcard
  · refine .any free ?_
    rintro rfl
    obtain ⟨⟨⟩⟩ | ⟨⟨⟩⟩ := free
  · exact .itself free rfl

namespace Pattern

theorem fits_self (pattern : List Segment) : Fits pattern pattern := by
  induction pattern with
  | nil => exact .nil
  | cons segment pattern ih =>
    by_cases last : segment :: pattern = [Segment.wildcard]
    · rw [last]
      exact .rest (List.cons_ne_nil _ _)
    · exact .cons ih last segment.standsFor_self

/-- A pattern accepts itself, whatever it looks like. -/
theorem accepts_self (text : String) : accepts text text = true := by
  rw [accepts, acceptsAll_iff]
  exact fits_self (segments text)

end Pattern

/-! ## The first match -/

variable {accepts : String → String → Bool} {path : String} {routes : List Route} {route : Route}

/-- The first match comes no later than any other. -/
theorem firstMatch_no_later (mem : route ∈ routes) (accepted : accepts route.path path = true)
    {first : Route} (found : firstMatch accepts path routes = some first) :
    ∃ before after, routes = before ++ first :: after ∧ route ∈ first :: after := by
  obtain ⟨_, before, after, rfl, rejected⟩ := List.find?_eq_some_iff_append.mp found
  refine ⟨before, after, rfl, ?_⟩
  obtain early | late := List.mem_append.mp mem
  · have refused := rejected route early
    rw [accepted] at refused
    cases refused
  · exact late

variable {σ : Type} {now : World σ}

/-- An answer to who asks for a registered route at its own pattern: this route or one that was
registered before it, up to counters; or the reason why the table is out of reach. -/
inductive WithinReach (now : World σ) (route : Route) : Answer → Prop where
  /-- the route, or one before it -/
  | found {before after : List Route} {current found : Route}
      (split : now.table.routes = before ++ current :: after)
      (noLater : route ∈ current :: after) (same : found.SameUpToCounters current) :
      WithinReach now route (.route (.ok found))
  /-- the table is out of reach -/
  | away {reason : String} (outage : now.outage = some reason) :
      WithinReach now route (.route (.error (.store (.unavailable reason))))

/-- An answer that is up to date is one within reach. -/
theorem withinReach_of_upToDate {d : Deployment σ} {answer : Answer}
    (self : d.accepts route.path route.path = true) (mem : route ∈ now.table.routes)
    (right : d.UpToDate now (.resolve route.path) answer) : WithinReach now route answer := by
  cases answer with
  | route result =>
    rcases result with (missing | error) | found
    · -- some pattern accepts the path, its own
      have refused := right.2 route mem
      rw [self] at refused
      cases refused
    · obtain ⟨reason, outage, rfl⟩ := right
      exact .away outage
    · obtain ⟨current, first, same⟩ := right
      obtain ⟨before, after, split, noLater⟩ := firstMatch_no_later mem self first
      exact .found split noLater same
  | _ => exact right.elim

/-- **Every registered route is within reach at its own pattern.** Each text is accepted by itself
as a pattern. So let a service match by patterns, over a cache that is empty at first and in which
no erasure fails, with a memo that keeps each record as long as the entry that it records. At every
moment of its course, who looks up the pattern of a registered route gets this route or one that was
registered before it, up to counters, and never that there is none; a lookup fails only for the
reason why the table is out of reach. -/
theorem registered_routes_within_reach (backend : CacheBackend σ) (contents : backend.Contents)
    (options : Options) (table : Table) (cache : σ) (memo : Memo)
    (happenings : List (Happening σ)) :
    let d : Deployment σ := { cache := backend, options }
    let start := World.start table cache memo
    let now := d.course start happenings
    (∀ text, Pattern.accepts text text = true) ∧
      (backend.ErasesSurely → (∀ key value, ¬ contents.holds cache key value) →
        d.Along contents.OnlyLoses start happenings →
        d.Along (d.MemoKeeps contents) start happenings →
          ∀ route ∈ now.table.routes,
            WithinReach now route (d.ask (.resolve route.path) now).1) := by
  intro d start now
  refine ⟨Pattern.accepts_self, fun surely empty loses keeps route mem => ?_⟩
  have coherent : Coherent (d := d) contents now := coherent_course surely empty loses keeps
  have looks : (Operation.resolve route.path).IsLookup := trivial
  refine withinReach_of_upToDate (d := d) (Pattern.accepts_self route.path) mem ?_
  exact Deployment.upToDate_of_explains ((coherent.covers now.outage).lookup
    Knowledge.coversTable_upToCounters (Knowledge.upToCounters_closed _ _ _) looks).1

/-- A route that catches everything. -/
def catchAll (service : String) : Route where
  path := "/*"
  service := service

/-- A path is missed, which leaves the list in the cache; then a route for it is registered, looked
up, and replaced, and the cache loses what it has. -/
def missedThenRegistered : List (Happening (Scripted (Entries Cached))) :=
  [.asked (.resolve "/*"), .asked (.add (catchAll "http://rest")), .asked (.resolve "/*"),
    .asked (.update (catchAll "http://all")), .pause 5 { inner := [] }]

/-- A wildcard is found at its own pattern, though the list was cached without it. -/
theorem catch_all_within_reach :
    let d : Deployment (Scripted (Entries Cached)) :=
      { cache := Scripted.backend plainCache false, options := { sharedLoads := true } }
    let start := World.start (.single (userRoute "http://old")) twiceFailing (.empty 100 1000)
    let now := d.course start missedThenRegistered
    now.table.routes = [userRoute "http://old", catchAll "http://all"] ∧
      (d.ask (.resolve "/*") now).1 = .route (.ok (catchAll "http://all")) ∧
      WithinReach now (catchAll "http://all") (d.ask (.resolve "/*") now).1 := by
  refine ⟨rfl, rfl, ?_⟩
  have empty (key : Key) (value : Cached) :
      ¬ (Scripted.contents plainContents false).holds twiceFailing key value := by
    rintro ⟨⟩
  refine (registered_routes_within_reach (Scripted.backend plainCache false)
    (Scripted.contents plainContents false) { sharedLoads := true }
    (.single (userRoute "http://old")) twiceFailing (.empty 100 1000) missedThenRegistered).2
    (Scripted.erasesSurely plainCache_erasesSurely) empty ?_ ?_ (catchAll "http://all") ?_
  · refine ⟨trivial, trivial, trivial, trivial, fun key value held => ?_, trivial⟩
    cases held
  · refine ⟨Deployment.memoKeeps_asked (by decide), Deployment.memoKeeps_asked (by decide),
      Deployment.memoKeeps_asked (by decide), Deployment.memoKeeps_asked (by decide),
      fun path value mem _ => mem, trivial⟩
  · exact List.mem_cons_of_mem _ List.mem_cons_self

end GatewayRouting
