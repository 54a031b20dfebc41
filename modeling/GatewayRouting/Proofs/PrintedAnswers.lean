import GatewayRouting.CommandLine
import GatewayRouting.Proofs.Cacheless
import GatewayRouting.Proofs.Registry

/-!
# What is printed

The program looks each path up, and with a method looks it up twice. Every lookup but the first one
may be answered from what an earlier one has left in the cache, and what is left there depends on
how long entries last, how many there is room for, and which paths came before. None of this can be
seen: the table does not change while the program runs, so whatever the cache holds is what the
table says (`Deployment.Serves`), and each path is answered from the table's list as if it were the
only one (`run_answers`). How long an entry is held has no part in that, so it holds over every
cache that makes nothing up (`run_answers_over`).
-/

namespace GatewayRouting

variable {σ : Type}

/-! ## Lookups in a table that stays -/

/-- A service whose table can be reached, and whose cache holds what the table says. -/
structure Deployment.Serves (d : Deployment σ) (contents : d.cache.Contents) (table : Table)
    (world : World σ) : Prop where
  /-- the table can be reached -/
  reached : world.cacheless = { table }
  /-- what the cache holds is right -/
  covers : (Knowledge.ofTable d.accepts table).CoversCache contents world

namespace Deployment.Serves

variable {d : Deployment σ} {contents : d.cache.Contents} {table : Table} {world : World σ}

/-- An empty cache holds nothing that the table does not say. -/
theorem start {cache : σ} {memo : Memo} (empty : ∀ key value, ¬ contents.holds cache key value) :
    d.Serves contents table (World.start table cache memo) :=
  ⟨rfl, fun held => absurd held (empty _ _), rfl⟩

/-- A lookup is answered from the table, and so is the next one. -/
theorem lookup (serves : d.Serves contents table world) {operation : Operation}
    (looks : operation.IsLookup) :
    (d.ask operation world).1 = d.answerOf table operation ∧
      d.Serves contents table (d.ask operation world).2 := by
  have here : world.table = table := congrArg Cacheless.table serves.reached
  have reached : world.outage = none := congrArg Cacheless.outage serves.reached
  have told : (Knowledge.ofTable d.accepts table).CoversTable world := by
    refine ⟨congrArg Table.routes here, fun away => ?_⟩
    rw [reached] at away
    cases away
  -- wherever the answer comes from, the table explains it, and there is one such answer only
  obtain ⟨right, covers, -⟩ :=
    serves.covers.lookup told (Knowledge.ofTable_closed d.accepts table) looks
  exact ⟨answerOf_of_explains right, (cacheless_lookup looks).trans serves.reached, covers⟩

theorem resolve (serves : d.Serves contents table world) (path : String) :
    ((Service.resolve d.options path).run d.handler world).1 = d.routeOf table path ∧
      d.Serves contents table ((Service.resolve d.options path).run d.handler world).2 := by
  obtain ⟨answer, after⟩ : (d.ask (.resolve path) world).1 = d.answerOf table (.resolve path) ∧
    d.Serves contents table (d.ask (.resolve path) world).2 := serves.lookup trivial
  rw [ask, Operation.program, Program.bind_eq, Program.run_bind] at answer after
  exact ⟨Answer.route.inj answer, after⟩

theorem permits (serves : d.Serves contents table world) (path method : String) :
    ((Service.permits d.options path method).run d.handler world).1 =
        (d.routeOf table path).map (Service.letsThrough d.options · method) ∧
      d.Serves contents table ((Service.permits d.options path method).run d.handler world).2 := by
  obtain ⟨answer, after⟩ : (d.ask (.permits path method) world).1 =
      d.answerOf table (.permits path method) ∧
    d.Serves contents table (d.ask (.permits path method) world).2 := serves.lookup trivial
  rw [ask, Operation.program, Program.bind_eq, Program.run_bind] at answer after
  exact ⟨Answer.verdict.inj answer, after⟩

end Deployment.Serves

namespace CommandLine

/-! ## The lines for a path -/

/-- Whether a route lets a method through: it lists the method, or it lists none and that counts as
all of them. -/
def admits (allowAll : Bool) (route : Route) (method : String) : Bool :=
  decide (method ∈ route.methods.tokens ∨ (route.methods.tokens = [] ∧ allowAll = true))

/-- The lines for a path: the first route of a list whose pattern accepts it, with a verdict if
there is a method, or that there is none. -/
def linesFor (allowAll : Bool) (routes : List Route) (method : Option String) (path : String) :
    List String :=
  match firstMatch Pattern.accepts path routes with
  | none => [path ++ ": no route matches path '" ++ path ++ "'"]
  | some route =>
    route.prettyJson :: method.toList.map fun method =>
      method ++ " " ++ path ++ " -> " ++
        if admits allowAll route method then "allowed" else "denied"

theorem letsThrough_eq_admits (options : Options) (route : Route) (method : String) :
    Service.letsThrough options route method =
      admits options.emptyMethodsAllowAll route method := by
  rw [Service.letsThrough, Route.allows, MethodSet.isEmpty, MethodSet.contains, admits,
    Bool.eq_iff_iff]
  simp [or_comm]

theorem line_of_noMatch (path : String) :
    path ++ ": " ++ (LookupError.noMatch path).message =
      path ++ ": no route matches path '" ++ path ++ "'" := by
  change path ++ ": " ++ ("no route matches path '" ++ path ++ "'") = _
  apply String.ext
  simp

/-! ## The lines of a run -/

section

variable {d : Deployment σ} {contents : d.cache.Contents} {table : Table} {world : World σ}

/-- For a path, the lines are those of the table's list. -/
theorem run_answer (serves : d.Serves contents table world) (usual : d.accepts = Pattern.accepts)
    (method : Option String) (path : String) :
    ((answer d.options method path).run d.handler world).1 =
        .ok (linesFor d.options.emptyMethodsAllowAll table.routes method path) ∧
      d.Serves contents table ((answer d.options method path).run d.handler world).2 := by
  obtain ⟨resolved, serves⟩ := serves.resolve path
  rw [answer, Program.bind_eq, Program.run_bind, resolved, Deployment.routeOf, linesFor, usual]
  cases found : firstMatch Pattern.accepts path table.routes with
  | none => exact ⟨congrArg (fun line => Except.ok [line]) (line_of_noMatch path), serves⟩
  | some route =>
    cases method with
    | none => exact ⟨rfl, serves⟩
    | some method =>
      -- the verdict comes from a lookup of its own
      obtain ⟨permitted, serves⟩ := serves.permits path method
      dsimp only
      rw [Program.bind_eq, Program.run_bind, permitted, Deployment.routeOf, usual, found]
      refine ⟨congrArg Except.ok ?_, serves⟩
      change [_, verdict method path (Service.letsThrough d.options route method)] = _
      rw [letsThrough_eq_admits]
      rfl

/-- For some paths, they are the lines of one after the other. -/
theorem run_answers (serves : d.Serves contents table world) (usual : d.accepts = Pattern.accepts)
    (method : Option String) (paths : List String) :
    ((answers d.options method paths).run d.handler world).1 =
      (paths.flatMap (linesFor d.options.emptyMethodsAllowAll table.routes method), none) := by
  induction paths generalizing world with
  | nil => rfl
  | cons path paths ih =>
    obtain ⟨lines, serves⟩ := run_answer serves usual method path
    rw [answers, Program.bind_eq, Program.run_bind, lines]
    dsimp only
    rw [Program.bind_eq, Program.run_bind, ih serves]
    rfl

/-- The lines are the same over every cache that is empty at the start, even if it loses any entry
at any time: because its time is over, or to make room. -/
theorem run_answers_over {backend : CacheBackend σ} (contents : backend.Contents) {cache : σ}
    (empty : ∀ key value, ¬ contents.holds cache key value) (memo : Memo) (options : Options)
    (table : Table) (method : Option String) (paths : List String) :
    ((answers options method paths).run (World.handler backend Pattern.accepts)
        (World.start table cache memo)).1 =
      (paths.flatMap (linesFor options.emptyMethodsAllowAll table.routes method), none) := by
  let d : Deployment σ := { cache := backend, options }
  have serves : d.Serves contents table (World.start table cache memo) := .start empty
  exact run_answers serves rfl method paths

end

/-! ## The arguments -/

variable {arguments paths : List String} {method : Option String} {path : String}

theorem isMethod_of_request? {method : String}
    (asked : request? arguments = some (some method, paths)) : isMethod method = true := by
  unfold request? at asked
  split at asked
  · cases asked
  · split at asked
    · rename_i given
      split at asked
      · cases asked
      · cases asked
        exact given
    · cases asked

/-- The same method with a single path is a request of its own. -/
theorem request?_single (asked : request? arguments = some (method, paths))
    (lower : method = none → isMethod path = false) :
    request? (method.toList ++ [path]) = some (method, [path]) := by
  cases method with
  | none => simp [request?, lower rfl]
  | some method => simp [request?, isMethod_of_request? asked]

/-! ## Whole runs -/

/-- What a run writes to the standard output: what was printed, and then the metrics. -/
def Outcome.output (outcome : Outcome) : List String :=
  outcome.printed ++ outcome.metrics

end CommandLine

/-- Settings without anything that is about caching. -/
def Settings.uncached (settings : Settings) : Settings :=
  { settings with ttlSeconds := 0, cacheCapacity := 0, memoCapacity := 0, sharedLoads := false }

namespace CommandLine

variable {read : RawPath → Except LoadFault (List UInt8)} {environment : List (String × String)}
  {settings : Settings} {routes : Table} {arguments paths : List String} {method : Option String}

/-- The routes that the settings ask for, in the order of their file. -/
def listed (read : RawPath → Except LoadFault (List UInt8)) (settings : Settings) :
    Except StoreError (List Route) :=
  match settings.routesFile with
  | none => .ok []
  | some file => Document.load read (Utf8.encode file)

theorem load_of_loadTable {file : RawPath} (loaded : Document.loadTable read file = .ok routes) :
    Document.load read file = .ok routes.routes := by
  rw [Document.loadTable] at loaded
  cases whole : Document.load read file with
  | error error =>
    rw [whole] at loaded
    cases loaded
  | ok list =>
    rw [whole] at loaded
    rw [Table.routes_of_ofList loaded]

/-- The table has them in that order. -/
theorem listed_of_table (filled : table read settings = .ok routes) :
    listed read settings = .ok routes.routes := by
  rw [table] at filled
  rw [listed]
  cases named : settings.routesFile with
  | none =>
    rw [named] at filled
    cases filled
    rfl
  | some file =>
    rw [named] at filled
    dsimp only at filled
    split at filled
    · rename_i loaded
      cases filled
      exact load_of_loadTable loaded
    · cases filled

/-- What a run prints, if nothing stands in its way. -/
theorem serve_eq (lasts : settings.ttlSeconds ≤ longestLifetime)
    (quiet : (settings.metricsEnabled && settings.metricsOnExit) = false)
    (asked : request? arguments = some (method, paths)) :
    serve settings routes arguments =
      { printed :=
          paths.flatMap (linesFor settings.emptyMethodsAllowAll routes.routes method) } := by
  have empty (key : Key) (value : Cached) :
      ¬ timedContents.holds (.empty settings.cacheCapacity) key value := by
    rintro ⟨entry, ⟨⟩, _⟩
  have lines : ((answers settings.options method paths).run handler (world settings routes)).1 =
      (paths.flatMap (linesFor settings.emptyMethodsAllowAll routes.routes method), none) :=
    run_answers_over timedContents empty _ settings.options routes method paths
  rw [serve, if_neg (UInt64.not_lt.mpr lasts), asked]
  dsimp only
  generalize (answers settings.options method paths).run handler (world settings routes) = ended
    at lines ⊢
  obtain ⟨⟨printed, failure⟩, now⟩ := ended
  cases lines
  simp only [quiet, Bool.false_eq_true, if_false]

/-- All that matters of settings are their routes, and whether a route without methods lets every
method through. -/
theorem run_eq (loads : Settings.load read environment = .ok settings)
    (lasts : settings.ttlSeconds ≤ longestLifetime) (filled : table read settings = .ok routes)
    (quiet : (settings.metricsEnabled && settings.metricsOnExit) = false)
    (asked : request? arguments = some (method, paths)) :
    run read environment arguments =
      { printed :=
          paths.flatMap (linesFor settings.emptyMethodsAllowAll routes.routes method) } := by
  rw [run, loads]
  dsimp only
  rw [filled]
  exact serve_eq lasts quiet asked

/-- **Each path is answered as if it were the only one.** Let the settings, the routes and the
arguments be in order, and the metrics not be printed. Then the program succeeds, and for each path,
in order, it prints what it prints in a run with that path alone: the first route of the file whose
pattern accepts the path, with a verdict if there is a method, or that there is none. Nothing of
this depends on how long entries last, how many entries and records there is room for, and whether
loads are shared. -/
theorem answers_one_by_one (read : RawPath → Except LoadFault (List UInt8))
    (environment : List (String × String)) (arguments : List String) (settings : Settings)
    (loads : Settings.load read environment = .ok settings)
    (lasts : settings.ttlSeconds ≤ longestLifetime) (routes : Table)
    (filled : table read settings = .ok routes) (method : Option String) (paths : List String)
    (asked : request? arguments = some (method, paths))
    (quiet : (settings.metricsEnabled && settings.metricsOnExit) = false) :
    let outcome := run read environment arguments
    outcome.code = 0 ∧
      (∃ list, listed read settings = .ok list ∧
        outcome.output = paths.flatMap (linesFor settings.emptyMethodsAllowAll list method)) ∧
      ((method = none → ∀ path ∈ paths, isMethod path = false) →
        outcome.output = paths.flatMap fun path =>
          (run read environment (method.toList ++ [path])).output) ∧
      ∀ read' environment' settings', Settings.load read' environment' = .ok settings' →
        settings'.ttlSeconds ≤ longestLifetime → table read' settings' = .ok routes →
        settings'.uncached = settings.uncached →
          (run read' environment' arguments).code = 0 ∧
            (run read' environment' arguments).output = outcome.output := by
  intro outcome
  have whole : outcome =
      { printed :=
          paths.flatMap (linesFor settings.emptyMethodsAllowAll routes.routes method) } :=
    run_eq loads lasts filled quiet asked
  have output : outcome.output =
      paths.flatMap (linesFor settings.emptyMethodsAllowAll routes.routes method) := by
    rw [whole]
    exact List.append_nil _
  refine ⟨by rw [whole]; rfl, ⟨_, listed_of_table filled, output⟩, fun lower => ?_, ?_⟩
  · rw [output]
    refine List.flatMap_congr fun path mem => ?_
    have alone := request?_single asked fun given => lower given path mem
    rw [run_eq loads lasts filled quiet alone]
    simp [Outcome.output]
  · intro read' environment' settings' loads' lasts' filled' same
    obtain ⟨flags, quiet'⟩ : settings'.emptyMethodsAllowAll = settings.emptyMethodsAllowAll ∧
        (settings'.metricsEnabled && settings'.metricsOnExit) = false := by
      rw [← quiet]
      simp only [Settings.uncached, Settings.mk.injEq] at same
      simp only [same, and_self]
    rw [whole, run_eq loads' lasts' filled' quiet' asked, flags]
    exact ⟨rfl, rfl⟩

/-- A directory with a routes file and nothing else. -/
def routesFileOnly (path : RawPath) : Except LoadFault (List UInt8) :=
  if path = Utf8.encode "routes.json" then
    .ok "[\x7b\"path\": \"/users/:id\", \"serviceURL\": \"http://users\"\x7d]".toUTF8.toList
  else .error .missing

/-- An environment in which the routes file is named. -/
def namedFile : List (String × String) :=
  [("WAYPOINT__STORE__ROUTES_FILE", "routes.json")]

/-- One in which nothing is held any time, either. -/
def uncachedFile : List (String × String) :=
  [("WAYPOINT__CACHE__TTL_SECONDS", "0"), ("WAYPOINT__CACHE__MAX_CAPACITY", "0"),
    ("WAYPOINT__RESOLVER__MEMO_CAPACITY", "0"),
    ("WAYPOINT__RESOLVER__COALESCE_LIST_LOADS", "true")] ++ namedFile

theorem table_routesFileOnly (settings : Settings)
    (named : settings.routesFile = some "routes.json") :
    table routesFileOnly settings = .ok (.single (userRoute "http://users")) := by
  have loaded : Document.loadTable routesFileOnly (Utf8.encode "routes.json") =
      .ok (.single (userRoute "http://users")) := by decide +kernel
  rw [table, named]
  dsimp only
  rw [loaded]

/-- A path that comes twice is answered twice, with a cache and without one. -/
theorem repeated_path_printed :
    let outcome := run routesFileOnly namedFile ["GET", "/users/42", "/nowhere", "/users/42"]
    let lines := [(userRoute "http://users").prettyJson, "GET /users/42 -> denied"]
    outcome.code = 0 ∧
      outcome.output = lines ++ ["/nowhere: no route matches path '/nowhere'"] ++ lines ∧
      outcome.output = ["/users/42", "/nowhere", "/users/42"].flatMap (fun path =>
        (run routesFileOnly namedFile ["GET", path]).output) ∧
      (run routesFileOnly uncachedFile ["GET", "/users/42", "/nowhere", "/users/42"]).output =
        outcome.output := by
  intro outcome lines
  have loads : Settings.load routesFileOnly namedFile =
      .ok { routesFile := some "routes.json" } := by decide +kernel
  have loads' : Settings.load routesFileOnly uncachedFile =
      .ok { ttlSeconds := 0, cacheCapacity := 0, memoCapacity := 0, sharedLoads := true,
            routesFile := some "routes.json" } := by decide +kernel
  obtain ⟨code, ⟨list, listed, printed⟩, single, others⟩ :=
    answers_one_by_one routesFileOnly namedFile ["GET", "/users/42", "/nowhere", "/users/42"] _
      loads (by decide) _ (table_routesFileOnly _ rfl) (some "GET")
      ["/users/42", "/nowhere", "/users/42"] (by decide) rfl
  obtain rfl : [userRoute "http://users"] = list :=
    Except.ok.inj ((listed_of_table (table_routesFileOnly _ rfl)).symm.trans listed)
  refine ⟨code, printed.trans (by decide +kernel), single nofun, ?_⟩
  exact (others routesFileOnly uncachedFile _ loads' (by decide) (table_routesFileOnly _ rfl) rfl).2

end CommandLine

end GatewayRouting
