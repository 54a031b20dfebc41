import GatewayRouting.Proofs.Lookup

/-!
# What an operation erases

A change that is done, and a clearing that is done, erase the keys that they know of themselves, and
then the entry of every path that the memo has recorded; after that nothing is recorded any more. A
change or a clearing that the table refuses leaves the memo alone, and a lookup erases nothing. It
records each path for which it has found a pattern, whether the cache has taken its entry or not,
and it records no other.
-/

namespace GatewayRouting

variable {σ : Type}

/-! ## Reading it off the events -/

/-- The key that an event erases, or tries to. -/
def Event.erasure : Event → Option Key
  | ⟨.eraseCache key, _⟩ => some key
  | _ => none

/-- The request path for which an event has found a pattern that accepts it. -/
def Event.accepted : Event → Option String
  | ⟨.test _ path, true⟩ => some path
  | _ => none

/-- The request path that an event records in the memo. -/
def Event.record : Event → Option String
  | ⟨.remember path _, _⟩ => some path
  | _ => none

/-- The keys that are erased, in order. -/
def erasures (events : List Event) : List Key :=
  events.filterMap Event.erasure

/-- The request paths for which a pattern was found, in order. -/
def acceptedPaths (events : List Event) : List String :=
  events.filterMap Event.accepted

/-- The request paths that are recorded in the memo, in order. -/
def recordedPaths (events : List Event) : List String :=
  events.filterMap Event.record

variable {events past : List Event} {event : Event} {path : String}

theorem erasures_append (past events : List Event) :
    erasures (past ++ events) = erasures past ++ erasures events :=
  List.filterMap_append

theorem acceptedPaths_append (past events : List Event) :
    acceptedPaths (past ++ events) = acceptedPaths past ++ acceptedPaths events :=
  List.filterMap_append

theorem recordedPaths_append (past events : List Event) :
    recordedPaths (past ++ events) = recordedPaths past ++ recordedPaths events :=
  List.filterMap_append

theorem erasures_eq_nil (erases : ∀ event ∈ events, ∀ key, event.request ≠ .eraseCache key) :
    erasures events = [] := by
  rw [erasures, List.filterMap_eq_nil_iff]
  intro event mem
  obtain ⟨q, reply⟩ := event
  cases q with
  | eraseCache key => exact absurd rfl (erases _ mem key)
  | _ => rfl

theorem acceptedPaths_eq_nil
    (tests : ∀ event ∈ events, ∀ pattern path, event.request ≠ .test pattern path) :
    acceptedPaths events = [] := by
  rw [acceptedPaths, List.filterMap_eq_nil_iff]
  intro event mem
  obtain ⟨q, reply⟩ := event
  cases q with
  | test pattern path => exact absurd rfl (tests _ mem pattern path)
  | _ => rfl

theorem recordedPaths_eq_nil
    (records : ∀ event ∈ events, ∀ path pattern, event.request ≠ .remember path pattern) :
    recordedPaths events = [] := by
  rw [recordedPaths, List.filterMap_eq_nil_iff]
  intro event mem
  obtain ⟨q, reply⟩ := event
  cases q with
  | remember path pattern => exact absurd rfl (records _ mem path pattern)
  | _ => rfl

/-! ## The memo -/

/-- What acts on the memo. -/
def Request.ActsOnMemo : Request → Prop
  | .remember .. | .forget _ => True
  | _ => False

namespace Memo

/-- The recorded paths are distinct, as the records are of distinct paths. -/
theorem nodup_paths (memo : Memo) : memo.paths.Nodup := by
  have same : memo.paths = (memo.records.filter memo.isLive).map (·.path) := by
    rw [paths, recorded, List.map_map]
    rfl
  rw [same]
  exact List.Nodup.sublist (List.filter_sublist.map _) memo.distinct

end Memo

namespace Deployment

variable {d : Deployment σ} {world : World σ} {q : Request} {α : Type} {program : Program α}

/-- A program that does not act on the memo leaves it as it is. -/
theorem memo_run (asks : program.Asks fun q => ¬ q.ActsOnMemo) :
    (program.run d.handler world).2.memo = world.memo := by
  have step (q : Request) (now : World σ) (leaves : ¬ q.ActsOnMemo)
      (same : now.memo = world.memo) : (d.handler q now).2.memo = world.memo := by
    rw [memo_handler, same]
    · rintro path pattern rfl
      exact leaves trivial
    · rintro path rfl
      exact leaves trivial
  exact asks.run step rfl

/-- A program that does not change the table leaves it as it is. -/
theorem table_run (asks : program.Asks fun q => ¬ q.ChangesTable) :
    (program.run d.handler world).2.table = world.table := by
  have step (q : Request) (now : World σ) (leaves : ¬ q.ChangesTable)
      (same : now.table = world.table) : (d.handler q now).2.table = world.table := by
    rw [table_handler leaves, same]
  exact asks.run step rfl

end Deployment

/-! ## Changes and clearings -/

namespace Service

open Program

variable {handler : Handler σ} {state : σ} {d : Deployment σ} {world : World σ}

theorem asks_invalidate {allowed : Request → Prop} {key : Key} (erases : allowed (.eraseCache key))
    (notes : ∀ call, allowed (.note (.cacheFailure call))) : (invalidate key).Asks allowed := by
  refine ⟨erases, fun reply => ?_⟩
  cases reply with
  | ok done => trivial
  | error error => exact ⟨notes _, fun _ => trivial⟩

theorem asks_invalidateAll {allowed : Request → Prop} (erases : ∀ key, allowed (.eraseCache key))
    (notes : ∀ call, allowed (.note (.cacheFailure call))) (paths : List String) :
    (invalidateAll paths).Asks allowed := by
  induction paths with
  | nil => trivial
  | cons path paths ih => exact (asks_invalidate (erases _) notes).bind fun _ => ih

theorem erasures_invalidate (key : Key) :
    erasures ((invalidate key).trace handler state) = [key] := by
  rw [invalidate, bind_eq, request_bind, trace_ask]
  cases (handler (.eraseCache key) state).1 <;> rfl

theorem erasures_invalidateAll (paths : List String) :
    erasures ((invalidateAll paths).trace handler state) = paths.map .single := by
  induction paths generalizing state with
  | nil => rfl
  | cons path paths ih =>
    rw [invalidateAll, bind_eq, trace_bind, erasures_append, erasures_invalidate, ih]
    rfl

theorem erasures_forgetAll (records : List (String × String)) :
    erasures ((forgetAll records).trace handler state) = [] := by
  induction records generalizing state with
  | nil => rfl
  | cons record records ih => exact ih

/-- Forgetting takes away the records that are to be forgotten. -/
theorem mem_paths_forgetAll {records : List (String × String)}
    (mem : path ∈ ((forgetAll records).run d.handler world).2.memo.paths) :
    path ∈ world.memo.paths ∧ path ∉ records.map (·.1) := by
  induction records generalizing world with
  | nil => exact ⟨mem, List.not_mem_nil⟩
  | cons record records ih =>
    obtain ⟨kept, rest⟩ := ih mem
    obtain ⟨old, ne⟩ := Memo.mem_paths_forget.mp kept
    refine ⟨old, fun forgotten => ?_⟩
    obtain same | later := List.mem_cons.mp forgotten
    · exact ne same
    · exact rest later

/-- A sweep erases the entry of each path that is recorded, in their order. -/
theorem erasures_sweep :
    erasures (sweep.trace d.handler world) = world.memo.paths.map .single := by
  rw [sweep, bind_eq, request_bind, trace_ask, bind_eq, trace_bind]
  change erasures (_ :: (((forgetAll world.memo.recorded).trace _ _) ++
    (invalidateAll (world.memo.recorded.map (·.1))).trace _ _)) = _
  rw [← List.singleton_append, erasures_append, erasures_append, erasures_forgetAll,
    erasures_invalidateAll]
  rfl

/-- After a sweep nothing is recorded. -/
theorem not_mem_paths_sweep : path ∉ (sweep.run d.handler world).2.memo.paths := by
  rw [sweep, bind_eq, request_bind, run_ask, bind_eq, run_bind]
  rw [Deployment.memo_run (asks_invalidateAll (fun _ => id) (fun _ => id) _)]
  intro mem
  obtain ⟨old, kept⟩ := mem_paths_forgetAll mem
  exact kept old

/-- What comes of a change or a clearing: it is done, has erased its own keys and then all that the
memo had recorded, which is recorded no more; or it was refused and has left the memo alone. -/
structure Renews (d : Deployment σ) (world : World σ) (program : Program (Except StoreError Unit))
    (own : List Key) (tried : List Key := []) : Prop where
  /-- it is done -/
  done (done : (program.run d.handler world).1 = .ok ()) :
    erasures (program.trace d.handler world) = own ++ world.memo.paths.map .single ∧
      ∀ path, path ∉ (program.run d.handler world).2.memo.paths
  /-- or it was refused -/
  refused {error : StoreError} (refused : (program.run d.handler world).1 = .error error) :
    erasures (program.trace d.handler world) = tried ∧
      (program.run d.handler world).2.memo = world.memo

/-- How a change or a clearing ends: with its own erasures and a sweep. -/
def sweepAfter (before : Program Unit) : Program (Except StoreError Unit) :=
  before.bind fun _ => sweep.bind fun _ => Program.done (.ok ())

theorem erasures_sweepAfter {before : Program Unit}
    (leaves : before.Asks fun q => ¬ q.ActsOnMemo) :
    erasures ((sweepAfter before).trace d.handler world) =
      erasures (before.trace d.handler world) ++ world.memo.paths.map .single := by
  rw [sweepAfter, trace_bind, trace_bind, erasures_append, erasures_append, erasures_sweep,
    Deployment.memo_run leaves]
  exact congrArg _ (List.append_nil _)

theorem not_mem_paths_sweepAfter {before : Program Unit} :
    path ∉ ((sweepAfter before).run d.handler world).2.memo.paths := by
  rw [sweepAfter, run_bind, run_bind]
  exact not_mem_paths_sweep

theorem answer_sweepAfter {before : Program Unit} :
    ((sweepAfter before).run d.handler world).1 = .ok () := by
  rw [sweepAfter, run_bind, run_bind]
  rfl

/-- A change or a clearing asks the table first. -/
def changing {α : Type} (asking : Program (Except StoreError α)) (before : α → Program Unit) :
    Program (Except StoreError Unit) :=
  asking.bind fun
    | .error error => Program.done (.error error)
    | .ok value => sweepAfter (before value)

theorem renews_changing {α : Type} {asking : Program (Except StoreError α)}
    {before : α → Program Unit} {own tried : List Key}
    (leaves : asking.Asks fun q => ¬ q.ActsOnMemo)
    (tries : erasures (asking.trace d.handler world) = tried)
    (leaves' : ∀ value, (before value).Asks fun q => ¬ q.ActsOnMemo)
    (erases : ∀ value, (asking.run d.handler world).1 = .ok value →
      ∀ now, tried ++ erasures ((before value).trace d.handler now) = own) :
    Renews d world (changing asking before) own tried := by
  have memo : (asking.run d.handler world).2.memo = world.memo := Deployment.memo_run leaves
  constructor
  · intro done
    rw [changing, run_bind] at done ⊢
    rw [trace_bind, erasures_append, tries]
    cases replied : (asking.run d.handler world).1 with
    | error error =>
      rw [replied] at done
      cases done
    | ok value =>
      dsimp only
      rw [erasures_sweepAfter (leaves' value), memo, ← List.append_assoc, erases value replied]
      exact ⟨rfl, fun path => not_mem_paths_sweepAfter⟩
  · intro error refused
    rw [changing, run_bind] at refused ⊢
    rw [trace_bind, erasures_append, tries]
    cases replied : (asking.run d.handler world).1 with
    | error error => exact ⟨List.append_nil tried, memo⟩
    | ok value =>
      rw [replied] at refused
      cases answer_sweepAfter.symm.trans refused

/-- Erasing a key and then the list. -/
def uncache (path : String) : Program Unit :=
  (invalidate (.single path)).bind fun _ => invalidate .list

theorem asks_uncache : (uncache path).Asks fun q => ¬ q.ActsOnMemo :=
  (asks_invalidate id fun _ => id).bind fun _ => asks_invalidate id fun _ => id

theorem erasures_uncache :
    erasures ((uncache path).trace handler state) = [.single path, .list] := by
  rw [uncache, trace_bind, erasures_append, erasures_invalidate, erasures_invalidate]
  rfl

theorem sweepAfter_uncache : sweepAfter (uncache path) =
    (invalidate (.single path)).bind fun _ => sweepAfter (invalidate .list) :=
  bind_assoc _ _ _

theorem add_eq (route : Route) :
    add route = changing (request (.addRoute route)) fun _ => invalidate .list :=
  congrArg (ask _) (funext fun reply => by cases reply <;> rfl)

theorem update_eq (route : Route) :
    update route = changing (request (.updateRoute route)) fun _ => uncache route.path :=
  congrArg (ask _) (funext fun reply => by
    cases reply with
    | ok done => exact sweepAfter_uncache.symm
    | error error => rfl)

theorem delete_eq (path : String) :
    delete path = changing (request (.deleteRoute path)) fun _ => uncache path :=
  congrArg (ask _) (funext fun reply => by
    cases reply with
    | ok done => exact sweepAfter_uncache.symm
    | error error => rfl)

theorem clear_eq : clear = changing ((invalidate .list).bind fun _ => request .listRoutes)
    fun routes => invalidateAll (routes.map (·.path)) := by
  rw [changing, bind_assoc]
  refine congrArg (invalidate .list).bind (funext fun _ => ?_)
  refine congrArg (ask _) (funext fun reply => ?_)
  cases reply <;> rfl

theorem renews_add (route : Route) : Renews d world (add route) [.list] := by
  rw [add_eq]
  refine renews_changing ⟨id, fun _ => trivial⟩ rfl (fun _ => asks_invalidate id fun _ => id) ?_
  exact fun _ _ now => erasures_invalidate .list

theorem renews_update (route : Route) :
    Renews d world (update route) [.single route.path, .list] := by
  rw [update_eq]
  refine renews_changing ⟨id, fun _ => trivial⟩ rfl (fun _ => asks_uncache) ?_
  exact fun _ _ now => erasures_uncache

theorem renews_delete (path : String) : Renews d world (delete path) [.single path, .list] := by
  rw [delete_eq]
  refine renews_changing ⟨id, fun _ => trivial⟩ rfl (fun _ => asks_uncache) ?_
  exact fun _ _ now => erasures_uncache

theorem renews_clear :
    Renews d world clear (.list :: world.table.routes.map fun route => .single route.path)
      [.list] := by
  have table : ((invalidate .list).run d.handler world).2.table = world.table :=
    Deployment.table_run (asks_invalidate id fun _ => id)
  rw [clear_eq]
  refine renews_changing ?_ ?_ (fun routes => asks_invalidateAll (fun _ => id) (fun _ => id) _) ?_
  · exact (asks_invalidate id fun _ => id).bind fun _ => ⟨id, fun _ => trivial⟩
  · rw [trace_bind, erasures_append, erasures_invalidate]
    rfl
  · intro routes listed now
    rw [run_bind] at listed
    have same := Deployment.routes_of_listRoutes (d := d) listed
    rw [erasures_invalidateAll, ← same, table, List.map_map]
    rfl

end Service

/-! ## Lookups -/

/-- What a lookup asks for to get at the list of routes. -/
def Request.Prepares : Request → Prop
  | .readCache _ | .writeCache .. | .listRoutes | .note _ => True
  | .joinLoad | .awaitLoad _ | .settleLoad .. | .releaseLoad _ => True
  | _ => False

namespace Service

open Program

variable {handler : Handler σ} {state : σ} {options : Options}

section

variable {allowed : Request → Prop}

theorem asks_cached {key : Key} (reads : allowed (.readCache key))
    (notes : ∀ call, allowed (.note (.cacheFailure call))) : (cached key).Asks allowed := by
  refine ⟨reads, fun reply => ?_⟩
  cases reply with
  | ok found => trivial
  | error error => exact ⟨notes _, fun _ => trivial⟩

theorem asks_cachedAs {α : Type} {shape? : Cached → Option α} {key : Key}
    (reads : allowed (.readCache key)) (notes : ∀ call, allowed (.note (.cacheFailure call))) :
    (cachedAs shape? key).Asks allowed := by
  refine (asks_cached reads notes).bind fun found => ?_
  cases found with
  | none => trivial
  | some value =>
    dsimp only
    split
    · trivial
    · exact ⟨notes _, fun _ => trivial⟩

theorem asks_store {key : Key} {value : Cached}
    (writes : ∀ value seconds, allowed (.writeCache key value seconds))
    (notes : ∀ call, allowed (.note (.cacheFailure call))) :
    (store options key value).Asks allowed := by
  refine ⟨writes _ _, fun reply => ?_⟩
  cases reply with
  | ok done => trivial
  | error error => exact ⟨notes _, fun _ => trivial⟩

theorem asks_fetchRoutes (notes : ∀ observation, allowed (.note observation))
    (lists : allowed .listRoutes)
    (writes : ∀ value seconds, allowed (.writeCache .list value seconds)) :
    (fetchRoutes options).Asks allowed := by
  refine ⟨notes _, fun _ => ⟨lists, fun reply => ?_⟩⟩
  cases reply with
  | ok routes => exact (asks_store writes fun _ => notes _).bind fun _ => trivial
  | error error => trivial

theorem asks_sharing {fetch : Program (Except StoreError (List Route))}
    (shares : ∀ q, q.SharesLoad → allowed q) (fetches : fetch.Asks allowed) :
    (sharing fetch).Asks allowed := by
  refine ⟨shares _ trivial, fun number => ⟨shares _ trivial, fun turn => ?_⟩⟩
  cases turn with
  | follow result => exact ⟨shares _ trivial, fun _ => trivial⟩
  | lead =>
    refine fetches.bind fun result => ?_
    exact ⟨shares _ trivial, fun _ => ⟨shares _ trivial, fun _ => trivial⟩⟩

theorem asks_loadRoutes (shares : ∀ q, q.SharesLoad → allowed q)
    (notes : ∀ observation, allowed (.note observation)) (lists : allowed .listRoutes)
    (writes : ∀ value seconds, allowed (.writeCache .list value seconds)) :
    (loadRoutes options).Asks allowed := by
  have fetches : (fetchRoutes options).Asks allowed := asks_fetchRoutes notes lists writes
  rw [loadRoutes]
  split
  · exact asks_sharing shares fetches
  · exact fetches

/-- Getting at the list takes reading it, and loading it if it is not there. -/
theorem asks_routes_of (reads : allowed (.readCache .list))
    (shares : ∀ q, q.SharesLoad → allowed q) (notes : ∀ observation, allowed (.note observation))
    (lists : allowed .listRoutes)
    (writes : ∀ value seconds, allowed (.writeCache .list value seconds)) :
    (routes options).Asks allowed := by
  refine (asks_cachedAs reads fun _ => notes _).bind fun found => ?_
  cases found with
  | some routes => trivial
  | none => exact asks_loadRoutes shares notes lists writes

theorem asks_routes : (routes options).Asks Request.Prepares := by
  have shares (q : Request) (shares : q.SharesLoad) : q.Prepares := by
    cases q <;> first | exact trivial | exact shares.elim
  exact asks_routes_of trivial shares (fun _ => trivial) trivial fun _ _ => trivial

end

/-- Each path for which a pattern was found is recorded, and no other. -/
def RecordsMatches (events : List Event) : Prop :=
  acceptedPaths events = recordedPaths events

theorem RecordsMatches.append (first : RecordsMatches past) (second : RecordsMatches events) :
    RecordsMatches (past ++ events) := by
  rw [RecordsMatches, acceptedPaths_append, recordedPaths_append, first, second]

/-- While a lookup gets at the list, it neither finds a pattern nor records a path. -/
theorem silent_of_asks {α : Type} {program : Program α} (asks : program.Asks Request.Prepares) :
    acceptedPaths (program.trace handler state) = [] ∧
      recordedPaths (program.trace handler state) = [] := by
  have prepares (event : Event) (mem : event ∈ program.trace handler state) :
      event.request.Prepares := asks.allowed_of_mem_trace mem
  constructor
  · refine acceptedPaths_eq_nil fun event mem pattern path same => ?_
    have kept := prepares event mem
    rw [same] at kept
    exact kept
  · refine recordedPaths_eq_nil fun event mem path pattern same => ?_
    have kept := prepares event mem
    rw [same] at kept
    exact kept

theorem recordsMatches_of_asks {α : Type} {program : Program α}
    (asks : program.Asks Request.Prepares) : RecordsMatches (program.trace handler state) := by
  have silent : acceptedPaths (program.trace handler state) = [] ∧
      recordedPaths (program.trace handler state) = [] := silent_of_asks asks
  exact silent.1.trans silent.2.symm

/-- Trying the patterns ends with the first one that accepts. -/
theorem acceptedPaths_firstAccepting (path : String) (routes : List Route) :
    acceptedPaths ((firstAccepting path routes).trace handler state) =
      (((firstAccepting path routes).run handler state).1.map fun _ => path).toList := by
  induction routes generalizing state with
  | nil => rfl
  | cons route routes ih =>
    rw [firstAccepting, bind_eq, request_bind, trace_ask, run_ask]
    cases accepted : (handler (.test route.path path) state).1 with
    | true => rfl
    | false => exact ih

theorem recordedPaths_firstAccepting (path : String) (routes : List Route) :
    recordedPaths ((firstAccepting path routes).trace handler state) = [] := by
  induction routes generalizing state with
  | nil => rfl
  | cons route routes ih =>
    rw [firstAccepting, bind_eq, request_bind, trace_ask]
    cases accepted : (handler (.test route.path path) state).1 with
    | true => rfl
    | false => exact ih

theorem recordsMatches_scan (path : String) (routes : List Route) :
    RecordsMatches ((scan options path routes).trace handler state) := by
  have stored (route : Route) (state : σ) :
      acceptedPaths ((store options (.single path) (.single route)).trace handler state) = [] ∧
        recordedPaths ((store options (.single path) (.single route)).trace handler state) = [] :=
    silent_of_asks (asks_store (fun _ _ => trivial) fun _ => trivial)
  rw [scan, bind_eq, trace_bind, RecordsMatches, acceptedPaths_append, recordedPaths_append,
    acceptedPaths_firstAccepting, recordedPaths_firstAccepting]
  cases found : ((firstAccepting path routes).run handler state).1 with
  | none => rfl
  | some route =>
    -- storing does neither, and then the path is recorded
    dsimp only
    rw [bind_eq, trace_bind, acceptedPaths_append, recordedPaths_append, (stored _ _).1,
      (stored _ _).2]
    rfl

theorem recordsMatches_lookUp (path : String) :
    RecordsMatches ((lookUp options path).trace handler state) := by
  have cached : (cachedRoute path).Asks Request.Prepares :=
    asks_cachedAs trivial fun _ => trivial
  rw [lookUp, bind_eq, trace_bind]
  refine (recordsMatches_of_asks cached).append ?_
  cases ((cachedRoute path).run handler state).1 with
  | some route => rfl
  | none =>
    dsimp only
    rw [bind_eq, trace_bind]
    refine (recordsMatches_of_asks asks_routes).append ?_
    split
    · exact recordsMatches_scan path _
    · rfl

theorem recordsMatches_resolve (path : String) :
    RecordsMatches ((resolve options path).trace handler state) := by
  rw [resolve, bind_eq, trace_bind]
  exact (recordsMatches_lookUp path).append rfl

end Service

/-- A lookup records the paths for which it has found a pattern. -/
theorem Operation.recordsMatches {operation : Operation} (looks : operation.IsLookup)
    (options : Options) (handler : Handler σ) (state : σ) :
    Service.RecordsMatches ((operation.program options).trace handler state) := by
  cases operation with
  | routes =>
    rw [program, Program.bind_eq, Program.trace_bind]
    exact (Service.recordsMatches_of_asks Service.asks_routes).append rfl
  | resolve path =>
    rw [program, Program.bind_eq, Program.trace_bind]
    exact (Service.recordsMatches_resolve path).append rfl
  | permits path method =>
    rw [program, Service.permits, Program.bind_eq, Program.trace_bind, Program.bind_eq,
      Program.trace_bind]
    refine Service.RecordsMatches.append ?_ rfl
    exact (Service.recordsMatches_resolve path).append rfl
  | _ => exact looks.elim

end GatewayRouting
