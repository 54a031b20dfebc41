import GatewayRouting.Proofs.Erasures
import GatewayRouting.Proofs.Registry
import GatewayRouting.Proofs.Tracking

/-!
# Exact invalidation

Which entries a change has to erase depends on all that was asked before. As long as the memo loses
no record, it can be told without a look into the memo: the paths for which a lookup has found a
pattern since the memo was last emptied (`matchedSince`). Hits find no pattern, lookups whose writes
fail do, and a change that the table refuses empties nothing.

So a change erases what it must, each entry once, and nothing else. If none of the erasures fails,
then nothing is left in a cache that was empty at first.
-/

namespace GatewayRouting

variable {σ : Type}

/-! ## Calls -/

/-- The operations that empty the memo if they are done. -/
def Operation.renews : Operation → Bool
  | .add _ | .update _ | .delete _ | .clear => true
  | _ => false

/-- Whether an answer says that something was done. -/
def Answer.isDone : Answer → Bool
  | .done (.ok ()) => true
  | _ => false

/-- An operation that a service was asked for, and what came of it. -/
structure Call where
  /-- the operation -/
  operation : Operation
  /-- its answer -/
  answer : Answer
  /-- its events -/
  events : List Event

/-- Whether a call is a change or a clearing that was done. -/
def Call.renews (call : Call) : Bool :=
  call.operation.renews && call.answer.isDone

/-- The request paths for which a pattern was found after the last call that was a change or a
clearing and was done. -/
def matchedSince (calls : List Call) : List String :=
  calls.foldl (fun paths call => if call.renews then [] else paths ++ acceptedPaths call.events) []

theorem matchedSince_append (calls : List Call) (call : Call) :
    matchedSince (calls ++ [call]) =
      if call.renews then [] else matchedSince calls ++ acceptedPaths call.events := by
  simp [matchedSince]

/-- The keys that a change or a clearing erases whatever was asked before. -/
def Operation.ownKeys (table : Table) : Operation → List Key
  | .add _ => [.list]
  | .update route => [.single route.path, .list]
  | .delete path => [.single path, .list]
  | .clear => .list :: table.routes.map fun route => .single route.path
  | _ => []

/-- None of them is erased twice. -/
theorem Operation.nodup_ownKeys (operation : Operation) (table : Table) :
    (operation.ownKeys table).Nodup := by
  cases operation with
  | clear =>
    have singles : ((table.routes.map (·.path)).map Key.single).Nodup :=
      List.Pairwise.map Key.single (fun _ _ ne same => ne (Key.single.inj same)) table.nodup_paths
    rw [List.map_map] at singles
    refine List.nodup_cons.mpr ⟨fun mem => ?_, singles⟩
    obtain ⟨route, _, same⟩ := List.mem_map.mp mem
    cases same
  | _ => simp [ownKeys]

namespace Deployment

/-- Asking for an operation, as a call. -/
def call (d : Deployment σ) (operation : Operation) (world : World σ) : Call :=
  ⟨operation, (d.ask operation world).1, d.eventsOf operation world⟩

/-- The calls of a course, in order. -/
def calls (d : Deployment σ) : World σ → List (Happening σ) → List Call :=
  d.log fun operation world => [d.call operation world]

variable {d : Deployment σ} {world : World σ} {operation : Operation}

/-! ## What a call erases -/

/-- What comes of a call: a change or a clearing that was done has erased its own keys and what was
recorded, and nothing is recorded any more. -/
structure Erases (d : Deployment σ) (operation : Operation) (world : World σ) : Prop where
  /-- it was a change or a clearing, and it was done -/
  done (renews : (d.call operation world).renews = true) :
    erasures (d.eventsOf operation world) =
        operation.ownKeys world.table ++ world.memo.paths.map .single ∧
      ∀ path, path ∉ (d.ask operation world).2.memo.paths
  /-- or it was not -/
  otherwise (stays : (d.call operation world).renews = false) :
    erasures (d.eventsOf operation world) = (if operation = .clear then [.list] else []) ∧
      (¬ operation.IsLookup → acceptedPaths (d.eventsOf operation world) = [] ∧
        (d.ask operation world).2.memo = world.memo)

/-- What comes of a program comes of the call that asks for it. -/
theorem Erases.of_renews {program : Program (Except StoreError Unit)} {tried : List Key}
    (asks : operation.program d.options = program.bind fun result => .done (.done result))
    (changes : ¬ operation.IsLookup) (renewing : operation.renews = true)
    (tries : tried = if operation = .clear then [.list] else [])
    (renews : Service.Renews d world program (operation.ownKeys world.table) tried) :
    d.Erases operation world := by
  have events : d.eventsOf operation world = program.trace d.handler world := by
    rw [eventsOf, asks, Program.trace_bind]
    exact List.append_nil _
  have after : d.ask operation world =
      (.done (program.run d.handler world).1, (program.run d.handler world).2) := by
    rw [ask, asks, Program.run_bind]
    rfl
  have answer : (d.call operation world).renews =
      (Answer.done (program.run d.handler world).1).isDone := by
    rw [Call.renews, call, renewing, after, Bool.true_and]
  constructor
  · intro done
    rw [events, after]
    refine renews.done ?_
    rw [answer] at done
    cases replied : (program.run d.handler world).1 with
    | ok done => rfl
    | error error =>
      rw [replied] at done
      cases done
  · intro stays
    rw [answer] at stays
    have silent : acceptedPaths (d.eventsOf operation world) = [] := by
      refine acceptedPaths_eq_nil fun event mem pattern path same => ?_
      have keeps : (operation.program d.options).KeepsTo operation.upkeepAllows
          (granted d.accepts) operation.Ends [] := Operation.keepsTo_upkeep changes
      obtain ⟨past, allowed⟩ := keeps.allowed_of_mem_trace (fun _ _ => granted_handler) mem
      rw [same] at allowed
      exact allowed
    rw [events] at silent ⊢
    rw [after, ← tries]
    cases replied : (program.run d.handler world).1 with
    | ok done =>
      rw [replied] at stays
      cases stays
    | error error =>
      obtain ⟨erased, memo⟩ := renews.refused replied
      exact ⟨erased, fun _ => ⟨silent, memo⟩⟩

/-- A lookup erases nothing. -/
theorem Erases.of_lookup (looks : operation.IsLookup) (other : operation.renews = false)
    (looksOn : operation ≠ .clear) : d.Erases operation world where
  done := by
    rw [Call.renews, call, other]
    exact Bool.noConfusion
  otherwise _ := by
    have keeps := Operation.keepsTo_program (d := d) looks Knowledge.anything_closed
    rw [if_neg looksOn]
    refine ⟨erasures_eq_nil fun event mem key same => ?_, absurd looks⟩
    obtain ⟨past, allowed⟩ := keeps.allowed_of_mem_trace (fun _ _ => granted_handler) mem
    rw [same] at allowed
    exact allowed

theorem erases_ask (d : Deployment σ) (operation : Operation) (world : World σ) :
    d.Erases operation world := by
  cases operation with
  | routes => exact .of_lookup trivial rfl Operation.noConfusion
  | resolve path => exact .of_lookup trivial rfl Operation.noConfusion
  | permits path method => exact .of_lookup trivial rfl Operation.noConfusion
  | add route => exact .of_renews rfl id rfl rfl (Service.renews_add route)
  | update route => exact .of_renews rfl id rfl rfl (Service.renews_update route)
  | delete path => exact .of_renews rfl id rfl rfl (Service.renews_delete path)
  | clear => exact .of_renews rfl id rfl rfl Service.renews_clear
  | recordCalls path calls time =>
    have memo : (d.handler (.recordCalls path calls time) world).2.memo = world.memo :=
      memo_handler (fun _ _ => Request.noConfusion) fun _ => Request.noConfusion
    exact ⟨Bool.noConfusion, fun _ => ⟨rfl, fun _ => ⟨rfl, memo⟩⟩⟩

/-! ## What is recorded -/

/-- The memo loses nothing: it takes every record in, and time takes none away. -/
def MemoRetains (d : Deployment σ) (world : World σ) : Happening σ → Prop
  | .asked operation =>
    (operation.program d.options).Always d.handler (takesRecord · · = true) world
  | .outage _ => True
  | .pause nanoseconds _ => ∀ path ∈ world.memo.paths, path ∈ (world.memo.advance nanoseconds).paths

instance (world : World σ) : (happening : Happening σ) → Decidable (d.MemoRetains world happening)
  | .asked operation =>
    inferInstanceAs (Decidable
      ((operation.program d.options).Always d.handler (takesRecord · · = true) world))
  | .outage _ => isTrue trivial
  | .pause nanoseconds _ =>
    inferInstanceAs (Decidable
      (∀ path ∈ world.memo.paths, path ∈ (world.memo.advance nanoseconds).paths))

theorem MemoRetains.memoKeeps {contents : d.cache.Contents} {happening : Happening σ}
    (retains : d.MemoRetains world happening) : d.MemoKeeps contents world happening := by
  cases happening with
  | asked operation => exact memoKeeps_asked retains
  | outage reason => trivial
  | pause nanoseconds cache => exact fun path _ mem _ => retains path mem

/-- A request that forgets nothing adds to what is recorded just what it records. -/
theorem mem_paths_handler {q : Request} {path : String} (forgets : ∀ other, q ≠ .forget other)
    (takes : takesRecord q world = true) :
    path ∈ (d.handler q world).2.memo.paths ↔
      path ∈ world.memo.paths ∨ path ∈ recordedPaths [⟨q, (d.handler q world).1⟩] := by
  by_cases records : ∃ other pattern, q = .remember other pattern
  · obtain ⟨other, pattern, rfl⟩ := records
    have taken : other ∈ (world.memo.remember other pattern).paths := of_decide_eq_true takes
    change path ∈ (world.memo.remember other pattern).paths ↔ _ ∨ path ∈ [other]
    rw [List.mem_singleton]
    by_cases same : path = other
    · subst same
      exact iff_of_true taken (.inr rfl)
    · rw [Memo.mem_paths_remember_of_ne same]
      simp [same]
  · have records (other pattern : String) (same : q = .remember other pattern) :=
      records ⟨other, pattern, same⟩
    have nothing : recordedPaths [⟨q, (d.handler q world).1⟩] = [] := by
      refine recordedPaths_eq_nil fun event mem other pattern => ?_
      rw [List.mem_singleton.mp mem]
      exact records other pattern
    rw [memo_handler records forgets, nothing]
    simp

/-- After a lookup, what it has recorded is recorded too. -/
theorem mem_paths_lookup (looks : operation.IsLookup)
    (takes : (operation.program d.options).Always d.handler (takesRecord · · = true) world)
    (path : String) :
    path ∈ (d.ask operation world).2.memo.paths ↔
      path ∈ world.memo.paths ∨ path ∈ recordedPaths (d.eventsOf operation world) := by
  have step (past : List Event) (q : Request) (now : World σ)
      (known : path ∈ now.memo.paths ↔ path ∈ world.memo.paths ∨ path ∈ recordedPaths past)
      (allowed : Knowledge.anything.lookupAllows past q) (takes : takesRecord q now = true) :
      granted d.accepts q (d.handler q now).1 ∧ (path ∈ (d.handler q now).2.memo.paths ↔
        path ∈ world.memo.paths ∨ path ∈ recordedPaths (past ++ [⟨q, (d.handler q now).1⟩])) := by
    have forgets (other : String) : q ≠ .forget other := by
      rintro rfl
      exact allowed
    refine ⟨granted_handler, ?_⟩
    rw [mem_paths_handler forgets takes, known, recordedPaths_append, List.mem_append, or_assoc]
  have keeps := Operation.keepsTo_program (d := d) looks Knowledge.anything_closed
  have start : path ∈ world.memo.paths ↔
      path ∈ world.memo.paths ∨ path ∈ recordedPaths [] := by
    simp [recordedPaths]
  exact (keeps.run step takes start).2

/-- What is recorded after some calls are the paths that were matched since the memo was emptied. -/
def Recorded (calls : List Call) (world : World σ) : Prop :=
  ∀ path, path ∈ world.memo.paths ↔ path ∈ matchedSince calls

theorem Recorded.ask {calls : List Call} (recorded : Recorded calls world)
    (takes : (operation.program d.options).Always d.handler (takesRecord · · = true) world) :
    Recorded (calls ++ [d.call operation world]) (d.ask operation world).2 := by
  intro path
  have erases := erases_ask d operation world
  rw [matchedSince_append]
  split
  · rename_i renews
    exact iff_of_false ((erases.done renews).2 path) List.not_mem_nil
  · rename_i stays
    rw [List.mem_append, ← recorded path]
    by_cases looks : operation.IsLookup
    · have same : acceptedPaths (d.call operation world).events =
          recordedPaths (d.eventsOf operation world) := operation.recordsMatches looks ..
      rw [mem_paths_lookup looks takes, same]
    · obtain ⟨silent, memo⟩ := (erases.otherwise (Bool.eq_false_iff.mpr stays)).2 looks
      rw [memo]
      change _ ↔ _ ∨ path ∈ acceptedPaths (d.eventsOf operation world)
      rw [silent]
      simp

theorem recorded_course {table : Table} {cache : σ} {memo : Memo} {happenings : List (Happening σ)}
    (fresh : memo.records = [])
    (retains : d.Along d.MemoRetains (World.start table cache memo) happenings) :
    Recorded (d.calls (World.start table cache memo) happenings)
      (d.course (World.start table cache memo) happenings) := by
  have start : Recorded [] (World.start table cache memo) := by
    intro path
    simp [World.start, Memo.paths, Memo.recorded, fresh, matchedSince]
  have pause (past : List Call) (world : World σ) (nanoseconds : Nat) (cache : σ)
      (retains : d.MemoRetains world (.pause nanoseconds cache))
      (recorded : Recorded past world) :
      Recorded past (d.meet world (.pause nanoseconds cache)) := by
    intro path
    rw [← recorded path]
    exact ⟨Memo.mem_paths_of_advance, retains path⟩
  have asked (past : List Call) (world : World σ) (operation : Operation)
      (retains : d.MemoRetains world (.asked operation)) (recorded : Recorded past world) :
      Recorded (past ++ [d.call operation world]) (d.ask operation world).2 :=
    recorded.ask retains
  have outage (past : List Call) (world : World σ) (reason : Option String)
      (_ : d.MemoRetains world (.outage reason)) (recorded : Recorded past world) :
      Recorded past (d.meet world (.outage reason)) := recorded
  exact retains.log asked outage pause start

end Deployment

/-! ## What is left -/

variable {d : Deployment σ} {contents : d.cache.Contents} {world : World σ} {past : List Event}
  {operation : Operation}

/-- A change or a clearing that is done is complete. -/
theorem Deployment.complete_of_renews (renews : (d.call operation world).renews = true) :
    ¬ operation.IsLookup ∧ (progress (d.eventsOf operation world)).Complete ∧
      (operation = .clear → (progress (d.eventsOf operation world)).listed = true) := by
  obtain ⟨renewing, done⟩ := Bool.and_eq_true_iff.mp renews
  have changes : ¬ operation.IsLookup := by
    cases operation with
    | routes => cases renewing
    | resolve path => cases renewing
    | permits path method => cases renewing
    | _ => exact id
  refine ⟨changes, ?_⟩
  have ends : operation.Ends (d.eventsOf operation world) (d.ask operation world).1 :=
    ends_ask changes
  have done : (d.ask operation world).1.isDone = true := done
  generalize (d.ask operation world).1 = answer at ends done
  cases ends with
  | complete all listed changed => exact ⟨all, listed⟩
  | counted counts nothing =>
    subst counts
    cases renewing
  | refused nothing => cases done

/-- If no erasure has ever failed, then a change or a clearing that is done leaves nothing. -/
theorem Deployment.not_holds_of_renews
    (tracked : ∀ path, Tracked contents path none (leftAfter (.single path) false past) world)
    (renews : (d.call operation world).renews = true)
    (fine : erasureFailed (past ++ d.eventsOf operation world) = false) (key : Key)
    (value : Cached) : ¬ contents.holds (d.ask operation world).2.cache key value := by
  obtain ⟨changes, all, listed⟩ := complete_of_renews renews
  have swept (path : String) :=
    Swept.upkeep changes fun _ held => (tracked path).known operation held
  have nothing (key : Key) :
      leftAfter key (leftAfter key false past) (d.eventsOf operation world) = false := by
    rw [← leftAfter_append]
    exact leftAfter_of_not_erasureFailed fine
  intro held
  cases key with
  | single path =>
    have behind := ((swept path).of_complete all listed).2.1 value held
    cases behind.symm.trans (nothing _)
  | list =>
    -- the list is the same for every path
    have behind := ((swept "").of_complete all listed).1 value held
    rw [erasureFailed, List.any_append, Bool.or_eq_false_iff] at fine
    cases behind.symm.trans (leftAfter_of_not_erasureFailed fine.2)

/-- **Invalidation is exact and complete.** Let the memo lose nothing. Any calls of the cache may
fail, the table may be out of reach at times, and operations may be asked for in any order. A change
or a clearing that is done erases its own keys, each once, and then the entry of each path for which
a pattern was found since the last one that was done, each once; any other call erases nothing,
except that a refused clearing has erased the list. If the cache was empty at first and no erasure
has ever failed, then a change or a clearing that is done leaves nothing in it. -/
theorem erases_exactly (d : Deployment σ) (table : Table) (cache : σ) (memo : Memo)
    (fresh : memo.records = []) (happenings : List (Happening σ)) (now : World σ)
    (reached : d.course (World.start table cache memo) happenings = now)
    (retains : d.Along d.MemoRetains (World.start table cache memo) happenings)
    (operation : Operation) :
    let start := World.start table cache memo
    let call := d.call operation now
    (call.renews = true → ∃ paths : List String, paths.Nodup ∧
      (∀ path, path ∈ paths ↔ path ∈ matchedSince (d.calls start happenings)) ∧
      (operation.ownKeys now.table).Nodup ∧
      erasures call.events = operation.ownKeys now.table ++ paths.map .single) ∧
    (call.renews = false → erasures call.events = if operation = .clear then [.list] else []) ∧
    ∀ contents : d.cache.Contents, (∀ key value, ¬ contents.holds cache key value) →
      d.Along contents.OnlyLoses start happenings → call.renews = true →
      erasureFailed (d.events start happenings ++ call.events) = false →
      ∀ key value, ¬ contents.holds (d.ask operation now).2.cache key value := by
  intro start call
  have erases := d.erases_ask operation now
  have recorded : Deployment.Recorded (d.calls start happenings) now :=
    reached ▸ Deployment.recorded_course fresh retains
  refine ⟨fun renews => ?_, fun stays => (erases.otherwise stays).1, ?_⟩
  · exact ⟨now.memo.paths, now.memo.nodup_paths, recorded, operation.nodup_ownKeys now.table,
      (erases.done renews).1⟩
  · intro contents empty loses renews fine
    have keeps : d.Along (d.MemoKeeps contents) start happenings :=
      retains.mono fun _ _ retains => retains.memoKeeps
    have tracked (path : String) :
        Tracked contents path none
          (leftAfter (.single path) false (d.events start happenings)) now := by
      rw [← reached]
      exact tracked_course empty loses keeps path
    exact Deployment.not_holds_of_renews tracked renews fine

/-- A cache that fails when a path is first looked up, and does not take its entry. -/
def hesitant : Scripted (Entries Cached) where
  inner := []
  script := [true, false, true, true]

/-- Two paths are looked up, one of them until it is a hit, a change is refused, and the table is
out of reach for a while. -/
def lookedUpOften : List (Happening (Scripted (Entries Cached))) :=
  [.asked (.resolve "/users/42"), .asked (.resolve "/users/42"), .asked (.resolve "/users/42"),
    .asked (.permits "/users/43" "GET"), .asked (.delete "/missing"), .outage (some "away"),
    .asked (.delete "/users/:id"), .asked .clear, .outage none]

/-- The world after that. -/
def oftenLookedUp : World (Scripted (Entries Cached)) :=
  scriptedDeployment.course
    (World.start (.single (userRoute "http://old")) hesitant (.empty 100 1000)) lookedUpOften

/-- A path that was matched twice is erased once, and then nothing is left. -/
theorem matched_paths_erased_once :
    let update := Operation.update (userRoute "http://new")
    (∃ paths : List String, paths.Nodup ∧
      (∀ path, path ∈ paths ↔ path ∈ ["/users/42", "/users/42", "/users/43"]) ∧
      erasures (scriptedDeployment.eventsOf update oftenLookedUp) =
        [.single "/users/:id", .list] ++ paths.map .single) ∧
    ∀ key value, ¬ (Scripted.contents plainContents true).holds
      (scriptedDeployment.ask update oftenLookedUp).2.cache key value := by
  intro update
  have retains : scriptedDeployment.Along scriptedDeployment.MemoRetains
      (World.start (.single (userRoute "http://old")) hesitant (.empty 100 1000)) lookedUpOften :=
    of_decide_eq_true rfl
  obtain ⟨exact, _, nothing⟩ := erases_exactly scriptedDeployment
    (.single (userRoute "http://old")) hesitant (.empty 100 1000) rfl lookedUpOften oftenLookedUp
    rfl retains update
  have empty (key : Key) (value : Cached) :
      ¬ (Scripted.contents plainContents true).holds hesitant key value := by
    rintro ⟨⟩
  obtain ⟨paths, nodup, mem, _, erased⟩ := exact rfl
  refine ⟨⟨paths, nodup, mem, erased⟩, ?_⟩
  refine nothing _ empty ?_ rfl rfl
  exact ⟨trivial, trivial, trivial, trivial, trivial, trivial, trivial, trivial, trivial, trivial⟩

end GatewayRouting
