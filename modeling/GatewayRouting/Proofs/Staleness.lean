import GatewayRouting.Proofs.Covering

/-!
# Stale at worst

When erasing fails, an entry outlives the list that it was taken from, and a list outlives the
table. Answers then mix what is old with what is older. But nothing else can happen to them: what
counts as right here is whatever was true of the table at some moment of the course
(`Knowledge.ofTables`), and nothing that fails can turn that into something else. So an answer is
the true answer of some moment, whatever reads, writes and erasures fail.
-/

namespace GatewayRouting

/-- What was right of one of several tables, or is why the table is out of reach now. -/
def Knowledge.ofTables (accepts : String → String → Bool) (tables : List Table)
    (outage : Option String) : Knowledge where
  lists routes := ∃ table ∈ tables, table.routes = routes
  answers path route := ∃ table ∈ tables, firstMatch accepts path table.routes = some route
  failures error := ∃ reason, outage = some reason ∧ error = .unavailable reason

theorem Knowledge.ofTables_closed (accepts : String → String → Bool) (tables : List Table)
    (outage : Option String) : (ofTables accepts tables outage).Closed accepts := by
  rintro routes path route ⟨table, mem, rfl⟩ found
  exact ⟨table, mem, found⟩

variable {σ : Type} {d : Deployment σ} {contents : d.cache.Contents} {world : World σ}

theorem Knowledge.coversTable_ofTables {tables : List Table} (mem : world.table ∈ tables) :
    (ofTables d.accepts tables world.outage).CoversTable world where
  list := ⟨world.table, mem, rfl⟩
  outage := fun away => ⟨_, away, rfl⟩

/-- Whatever happens, the cache holds nothing that was never true. -/
theorem coversCache_meet {tables : List Table} {outage : Option String} {happening : Happening σ}
    (mem : world.table ∈ tables) (loses : contents.OnlyLoses world happening)
    (covers : (Knowledge.ofTables d.accepts tables outage).CoversCache contents world) :
    (Knowledge.ofTables d.accepts tables outage).CoversCache contents
      (d.meet world happening) := by
  cases happening with
  | asked operation =>
    by_cases looks : operation.IsLookup
    · have closed := Knowledge.ofTables_closed d.accepts tables world.outage
      have now : (Knowledge.ofTables d.accepts tables world.outage).CoversCache contents world :=
        covers.mono (fun _ right => right) (fun _ _ right => right)
      have kept := (now.lookup (Knowledge.coversTable_ofTables mem) closed looks).2.1
      exact kept.mono (fun _ right => right) (fun _ _ right => right)
    · exact covers.upkeep looks
  | outage reason => exact ⟨covers.held, covers.idle⟩
  | pause nanoseconds cache => exact covers.pause loses

/-- After any course from an empty cache, the cache holds only what was true of some table of the
course. -/
theorem coversCache_course {table : Table} {cache : σ} {memo : Memo}
    {happenings : List (Happening σ)} {outage : Option String}
    (empty : ∀ key value, ¬ contents.holds cache key value)
    (loses : d.Along contents.OnlyLoses (World.start table cache memo) happenings) :
    (Knowledge.ofTables d.accepts (d.tables (World.start table cache memo) happenings)
      outage).CoversCache contents (d.course (World.start table cache memo) happenings) := by
  refine (Deployment.along_tables.and loses).course ?_ ?_
  · rintro world happening ⟨⟨mem, _⟩, loses⟩ covers
    exact coversCache_meet mem loses covers
  · exact ⟨fun held => absurd held (empty _ _), rfl⟩

/-- **Stale at worst.** Let any reads, writes and erasures of the cache fail, and the table get out
of reach and come back. A route that is found for a path was the first match of the table at some
moment, counters included; if none is found, there was none at some moment; a list of routes was the
table's. A lookup fails only for the reason why the table is out of reach. -/
theorem stale_at_worst (d : Deployment σ) (contents : d.cache.Contents) (table : Table) (cache : σ)
    (memo : Memo) (happenings : List (Happening σ))
    (empty : ∀ key value, ¬ contents.holds cache key value)
    (loses : d.Along contents.OnlyLoses (World.start table cache memo) happenings) :
    let tables := d.tables (World.start table cache memo) happenings
    let now := d.course (World.start table cache memo) happenings
    (∀ path route, (d.ask (.resolve path) now).1 = .route (.ok route) →
      ∃ old ∈ tables, firstMatch d.accepts path old.routes = some route) ∧
    (∀ path missing, (d.ask (.resolve path) now).1 = .route (.error (.noMatch missing)) →
      missing = path ∧ ∃ old ∈ tables, firstMatch d.accepts path old.routes = none) ∧
    (∀ routes, (d.ask .routes now).1 = .routes (.ok routes) →
      ∃ old ∈ tables, old.routes = routes) ∧
    (∀ path error, (d.ask (.resolve path) now).1 = .route (.error (.store error)) →
      ∃ reason, now.outage = some reason ∧ error = .unavailable reason) ∧
    ∀ error, (d.ask .routes now).1 = .routes (.error error) →
      ∃ reason, now.outage = some reason ∧ error = .unavailable reason := by
  intro tables now
  have covers : (Knowledge.ofTables d.accepts tables now.outage).CoversCache contents now :=
    coversCache_course empty loses
  have right (operation : Operation) (looks : operation.IsLookup) :
      (Knowledge.ofTables d.accepts tables now.outage).explainsAnswer d operation
        (d.ask operation now).1 :=
    (covers.lookup (Knowledge.coversTable_ofTables Deployment.course_table_mem_tables)
      (Knowledge.ofTables_closed _ _ _) looks).1
  refine ⟨?_, ?_, ?_, ?_, ?_⟩
  · intro path route answer
    have found := right (.resolve path) trivial
    rw [answer] at found
    exact found
  · intro path missing answer
    have found := right (.resolve path) trivial
    rw [answer] at found
    obtain ⟨rfl, _, ⟨old, mem, rfl⟩, none⟩ := found
    exact ⟨rfl, old, mem, none⟩
  · intro routes answer
    have found := right .routes trivial
    rw [answer] at found
    exact found
  · intro path error answer
    have found := right (.resolve path) trivial
    rw [answer] at found
    exact found
  · intro error answer
    have found := right .routes trivial
    rw [answer] at found
    exact found

/-- A cache of which the fifth, sixth and seventh call fail. -/
def thriceFailing : Scripted (Entries Cached) where
  inner := []
  script := [false, false, false, false, true, true, true]

/-- With each erasure failing, the old route is still found after it was replaced. It was the first
match before. -/
theorem old_route_was_first_match :
    let d := scriptedDeployment
    let start := World.start (.single (userRoute "http://old")) thriceFailing (.empty 100 1000)
    (d.course start lookedUpThenReplaced).table.routes = [userRoute "http://new"] ∧
      (d.ask (.resolve "/users/42") (d.course start lookedUpThenReplaced)).1 =
        .route (.ok (userRoute "http://old")) ∧
      ∃ table ∈ d.tables start lookedUpThenReplaced,
        firstMatch d.accepts "/users/42" table.routes = some (userRoute "http://old") := by
  have empty (key : Key) (value : Cached) :
      ¬ (Scripted.contents plainContents true).holds thriceFailing key value := by
    rintro ⟨⟩
  refine ⟨rfl, rfl, ?_⟩
  exact (stale_at_worst _ (Scripted.contents plainContents true) _ thriceFailing _
    lookedUpThenReplaced empty ⟨trivial, trivial, trivial⟩).1 "/users/42" _ rfl

end GatewayRouting
