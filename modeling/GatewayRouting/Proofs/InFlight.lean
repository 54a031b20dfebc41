import GatewayRouting.Proofs.Guard
import GatewayRouting.Proofs.Invalidation

/-!
# No entry without a trace

A lookup caches a path's entry and then records the path. A sweep takes the records over, forgets
them, and then erases the entries. In between, others do the same: a path can be cached anew while a
sweep is about to erase it, recorded while another forgets it, and taken over by several sweeps.

Still there is somebody for each entry that the cache holds (`Accounted`): its path is recorded, or
owed by the lookup that has written it, or a sweep has taken it over and is yet to erase the entry.
What matters is the order. A lookup that owes a path has written the entry, so nobody has to know of
it before; a sweep that forgets a path has its erasure before it. When nobody is under way any more,
only the first is left: every entry is recorded, and the next change finds it.
-/

namespace GatewayRouting

variable {σ : Type}

/-! ## What a sweep has taken over -/

/-- The paths that were taken over from the memo and whose entries are still to be erased, after an
event. -/
def Event.pending : List String → Event → List String
  | paths, ⟨.recorded, records⟩ => paths ++ records.map (·.1)
  | paths, ⟨.eraseCache (.single path), _⟩ => paths.filter (· ≠ path)
  | paths, _ => paths

/-- The paths that were taken over from the memo and whose entries are still to be erased. -/
def pendingPaths (past : List Event) : List String :=
  past.foldl Event.pending []

theorem pendingPaths_append (past : List Event) (event : Event) :
    pendingPaths (past ++ [event]) = event.pending (pendingPaths past) := by
  simp [pendingPaths]

variable {q : Request} {past : List Event} {paths : List String} {path : String}

/-- A path is pending until its entry is erased. -/
theorem Event.mem_pending {reply : q.Reply} (mem : path ∈ paths)
    (erases : q ≠ .eraseCache (.single path)) : path ∈ Event.pending paths ⟨q, reply⟩ := by
  cases q with
  | recorded => exact List.mem_append_left _ mem
  | eraseCache key =>
    cases key with
    | list => exact mem
    | single other =>
      have ne : path ≠ other := by
        rintro rfl
        exact erases rfl
      exact List.mem_filter.mpr ⟨mem, decide_eq_true ne⟩
  | _ => exact mem

/-- What may be asked for to keep the memo's paths in sight: a path is forgotten only if its entry
is still to be erased, and no entry is written and no path recorded. -/
def sweepAllows (past : List Event) : Request → Prop
  | .writeCache .. | .remember .. => False
  | .forget path => path ∈ pendingPaths past
  | _ => True

/-- What neither adds to the pending paths nor has to do with the memo. -/
def Request.Unswept : Request → Prop
  | .writeCache .. | .remember .. | .recorded | .forget _ => False
  | _ => True

theorem Request.Unswept.allowed (unswept : q.Unswept) (past : List Event) : sweepAllows past q := by
  cases q <;> first | exact unswept.elim | exact trivial

/-- Without a sweep, nothing becomes pending. -/
theorem Request.Unswept.pending {reply : q.Reply} (unswept : q.Unswept) :
    Event.pending [] ⟨q, reply⟩ = [] := by
  cases q with
  | recorded => exact unswept.elim
  | eraseCache key => cases key <;> rfl
  | _ => rfl

/-! ### Sweeps keep to it -/

namespace Service

open Program

variable {α : Type} {accepts : String → String → Bool}

theorem keepsTo_unswept {program : Program α} (asks : program.Asks Request.Unswept)
    (nothing : pendingPaths past = []) :
    program.KeepsTo sweepAllows (granted accepts) (fun later _ => pendingPaths later = [])
      past := by
  induction program generalizing past with
  | done value => exact nothing
  | ask q next ih =>
    refine ⟨asks.1.allowed past, fun reply _ => ih reply (asks.2 reply) ?_⟩
    rw [pendingPaths_append, nothing, asks.1.pending]

/-- Forgetting what is pending is allowed, and leaves it pending. -/
theorem forgetAll_keepsTo {records : List (String × String)}
    (pending : ∀ record ∈ records, record.1 ∈ pendingPaths past) :
    (forgetAll records).KeepsTo sweepAllows (granted accepts)
      (fun later _ => pendingPaths later = pendingPaths past) past := by
  induction records generalizing past with
  | nil => rfl
  | cons record records ih =>
    refine ⟨pending record List.mem_cons_self, fun forgot _ => ?_⟩
    have same : pendingPaths (past ++ [⟨.forget record.1, forgot⟩]) = pendingPaths past :=
      pendingPaths_append ..
    have rest := ih (same ▸ fun other mem => pending other (List.mem_cons_of_mem _ mem))
    rw [same] at rest
    exact rest

/-- Invalidating all that is pending leaves nothing pending. -/
theorem invalidateAll_keepsTo (known : ∀ path ∈ pendingPaths past, path ∈ paths) :
    (invalidateAll paths).KeepsTo sweepAllows (granted accepts)
      (fun later _ => pendingPaths later = []) past := by
  induction paths generalizing past with
  | nil => exact List.eq_nil_iff_forall_not_mem.mpr fun path mem => nomatch known path mem
  | cons path paths ih =>
    refine ⟨trivial, fun reply _ => ?_⟩
    have rest : ∀ other ∈ pendingPaths (past ++ [⟨.eraseCache (.single path), reply⟩]),
        other ∈ paths := by
      rw [pendingPaths_append]
      intro other mem
      obtain ⟨mem, ne⟩ := List.mem_filter.mp mem
      obtain rfl | mem := List.mem_cons.mp (known other mem)
      · simp at ne
      · exact mem
    cases reply with
    | ok done => exact ih rest
    | error error =>
      refine ⟨trivial, fun noted _ => ih ?_⟩
      rw [pendingPaths_append]
      exact rest

theorem sweep_keepsTo (nothing : pendingPaths past = []) :
    sweep.KeepsTo sweepAllows (granted accepts) (fun later _ => pendingPaths later = []) past := by
  refine ⟨trivial, fun records _ => ?_⟩
  have taken : pendingPaths (past ++ [⟨.recorded, records⟩]) = records.map (·.1) := by
    rw [pendingPaths_append, nothing]
    rfl
  change KeepsTo _ _ _ _ ((forgetAll records).bind _)
  refine KeepsTo.bind (forgetAll_keepsTo fun record mem => taken ▸ List.mem_map_of_mem mem) ?_
  intro later _ _ same
  exact invalidateAll_keepsTo fun path mem => taken ▸ same ▸ mem

theorem changing_keepsTo {asking : Program (Except StoreError α)} {before : α → Program Unit}
    (asks : asking.Asks Request.Unswept) (asks' : ∀ value, (before value).Asks Request.Unswept) :
    (changing asking before).KeepsTo sweepAllows (granted accepts)
      (fun later _ => pendingPaths later = []) [] := by
  refine KeepsTo.bind (keepsTo_unswept asks rfl) ?_
  rintro past (error | value) _ nothing
  · exact nothing
  · refine KeepsTo.bind (keepsTo_unswept (asks' value) nothing) fun past _ _ nothing => ?_
    exact KeepsTo.bind (sweep_keepsTo nothing) fun later _ _ nothing => nothing

end Service

/-- A change or a clearing erases all that it takes over, and forgets nothing else. -/
theorem Operation.keepsTo_sweep {accepts : String → String → Bool} {options : Options}
    {operation : Operation} (changes : ¬ operation.IsLookup) :
    (operation.program options).KeepsTo sweepAllows (granted accepts)
      (fun later _ => pendingPaths later = []) [] := by
  have invalidates (key : Key) : (Service.invalidate key).Asks Request.Unswept :=
    Service.asks_invalidate trivial fun _ => trivial
  have uncaches (path : String) : (Service.uncache path).Asks Request.Unswept :=
    (invalidates _).bind fun _ => invalidates _
  cases operation with
  | add route =>
    refine Program.KeepsTo.bind ?_ fun later _ _ nothing => nothing
    rw [Service.add_eq]
    exact Service.changing_keepsTo ⟨trivial, fun _ => trivial⟩ fun _ => invalidates _
  | update route =>
    refine Program.KeepsTo.bind ?_ fun later _ _ nothing => nothing
    rw [Service.update_eq]
    exact Service.changing_keepsTo ⟨trivial, fun _ => trivial⟩ fun _ => uncaches _
  | delete path =>
    refine Program.KeepsTo.bind ?_ fun later _ _ nothing => nothing
    rw [Service.delete_eq]
    exact Service.changing_keepsTo ⟨trivial, fun _ => trivial⟩ fun _ => uncaches _
  | recordCalls path calls time => exact ⟨trivial, fun _ _ => rfl⟩
  | clear =>
    refine Program.KeepsTo.bind ?_ fun later _ _ nothing => nothing
    rw [Service.clear_eq]
    refine Service.changing_keepsTo ((invalidates _).bind fun _ => ⟨trivial, fun _ => trivial⟩) ?_
    exact fun routes => Service.asks_invalidateAll (fun _ => trivial) (fun _ => trivial) _
  | _ => exact absurd trivial changes

/-! ## Everybody together -/

/-- What an operation may ask for: a lookup to find a route, and any other to sweep. -/
def Operation.mayAsk (operation : Operation) (past : List Event) (q : Request) : Prop :=
  (operation.IsLookup → Knowledge.anything.lookupAllows past q) ∧
    (¬ operation.IsLookup → sweepAllows past q)

/-- What an operation has to end with: a lookup with nothing owed, and any other with nothing
pending. -/
def Operation.mayEnd (operation : Operation) (past : List Event) (_ : Answer) : Prop :=
  (operation.IsLookup → owedPath past = none) ∧ (¬ operation.IsLookup → pendingPaths past = [])

theorem Operation.keepsTo_mayAsk (d : Deployment σ) (operation : Operation) :
    (operation.program d.options).KeepsTo operation.mayAsk (granted d.accepts) operation.mayEnd
      [] := by
  by_cases looks : operation.IsLookup
  · exact (keepsTo_program looks Knowledge.anything_closed).imp
      (fun _ _ allowed => ⟨fun _ => allowed, fun changes => absurd looks changes⟩)
      fun _ _ right => ⟨fun _ => right.1.owed, fun changes => absurd looks changes⟩
  · exact (keepsTo_sweep looks).imp
      (fun _ _ allowed => ⟨fun looks' => absurd looks' looks, fun _ => allowed⟩)
      fun _ _ right => ⟨fun looks' => absurd looks' looks, fun _ => right⟩

/-- There is somebody for a value that the cache holds for a path. -/
inductive Accounted (operations : List Operation) (trace : List (Nat × Event)) (memo : Memo)
    (path : String) (value : Cached) : Prop where
  /-- the path is recorded -/
  | recorded (mem : path ∈ memo.paths)
  /-- a lookup has written the value and is yet to record the path -/
  | owed {j : Nat} {operation : Operation} (asked : operations[j]? = some operation)
      (looks : operation.IsLookup)
      (wrote : ∃ event ∈ eventsBy j trace, ∃ seconds,
        event.request = .writeCache (.single path) value seconds)
      (debt : owedPath (eventsBy j trace) = some path)
  /-- a sweep has taken the path over and is yet to erase its entry -/
  | pending {j : Nat} {operation : Operation} (asked : operations[j]? = some operation)
      (changes : ¬ operation.IsLookup) (mem : path ∈ pendingPaths (eventsBy j trace))

/-- Somebody is under way: something was answered, and something is still to be asked for. -/
def Scene.InFlight (scene : Scene σ) (i : Nat) : Prop :=
  eventsBy i scene.trace ≠ [] ∧ scene.asks i ≠ none

variable {d : Deployment σ} {contents : d.cache.Contents} {scene : Scene σ}
  {operations : List Operation} {operation : Operation} {schedule : List Nat} {i : Nat}
  {value : Cached}

/-- Who looks is somebody else than who does not. -/
theorem ne_of_looks {i j : Nat} {operation other : Operation}
    (asked : operations[i]? = some operation) (asked' : operations[j]? = some other)
    (looks : operation.IsLookup) (changes : ¬ other.IsLookup) : i ≠ j := by
  rintro rfl
  rw [asked, Option.some.injEq] at asked'
  exact changes (asked' ▸ looks)

/-- What a lookup asks for leaves somebody for each value. -/
theorem Accounted.of_lookup (asked : operations[i]? = some operation) (looks : operation.IsLookup)
    (allowed : Knowledge.anything.lookupAllows (eventsBy i scene.trace) q)
    (takesIn : contents.TakesIn q scene.world)
    (before : contents.holds scene.world.cache (.single path) value →
      Accounted operations scene.trace scene.world.memo path value)
    (held : contents.holds (d.handler q scene.world).2.cache (.single path) value) :
    Accounted operations (scene.trace ++ [(i, ⟨q, (d.handler q scene.world).1⟩)])
      (d.handler q scene.world).2.memo path value := by
  by_cases records : ∃ pattern, q = .remember path pattern
  · obtain ⟨pattern, rfl⟩ := records
    exact .recorded (takesIn ⟨value, held⟩)
  have records (pattern : String) (same : q = .remember path pattern) := records ⟨pattern, same⟩
  obtain old | ⟨seconds, rfl⟩ := Deployment.holds_of_holds_handler held
  · cases before old with
    | recorded mem =>
      refine .recorded (Deployment.paths_handler_of_paths mem ?_ records)
      rintro rfl
      exact allowed
    | @owed j operation askedj looks wrote debt =>
      by_cases same : j = i
      · subst same
        refine .owed askedj looks ?_ ?_
        · obtain ⟨event, mem, write⟩ := wrote
          rw [eventsBy_append_self]
          exact ⟨event, List.mem_append_left _ mem, write⟩
        · -- until the path is recorded, its debt stays
          rw [eventsBy_append_self, owedPath_append, Event.owing_eq ?_ ?_, debt]
          · rintro key other seconds rfl
            cases allowed.1.symm.trans debt
          · rintro other pattern rfl
            obtain rfl := Option.some.inj (debt.symm.trans allowed)
            exact records pattern rfl
      · have others := eventsBy_append_of_ne scene.trace ⟨q, (d.handler q scene.world).1⟩
          (Ne.symm same)
        exact .owed askedj looks (others ▸ wrote) (others ▸ debt)
    | @pending j operation askedj changes mem =>
      have others := eventsBy_append_of_ne scene.trace ⟨q, (d.handler q scene.world).1⟩
        (ne_of_looks asked askedj looks changes)
      exact .pending askedj changes (others ▸ mem)
  · refine .owed asked looks ?_ ?_
    · rw [eventsBy_append_self]
      exact ⟨_, List.mem_append_right _ List.mem_cons_self, seconds, rfl⟩
    · rw [eventsBy_append_self, owedPath_append]
      rfl

/-- What a sweep asks for leaves somebody for each value that it does not erase. -/
theorem Accounted.of_sweep (surely : d.cache.ErasesSurely)
    (asked : operations[i]? = some operation) (changes : ¬ operation.IsLookup)
    (allowed : sweepAllows (eventsBy i scene.trace) q)
    (before : contents.holds scene.world.cache (.single path) value →
      Accounted operations scene.trace scene.world.memo path value)
    (held : contents.holds (d.handler q scene.world).2.cache (.single path) value) :
    Accounted operations (scene.trace ++ [(i, ⟨q, (d.handler q scene.world).1⟩)])
      (d.handler q scene.world).2.memo path value := by
  have erases : q ≠ .eraseCache (.single path) := by
    rintro rfl
    exact contents.not_holds_erase (surely _ _) held
  obtain old | ⟨seconds, rfl⟩ := Deployment.holds_of_holds_handler held
  · cases before old with
    | recorded mem =>
      by_cases forgets : q = .forget path
      · -- what is forgotten was taken over before
        subst forgets
        refine .pending asked changes ?_
        rw [eventsBy_append_self, pendingPaths_append]
        exact Event.mem_pending allowed erases
      · refine .recorded (Deployment.paths_handler_of_paths mem forgets fun pattern => ?_)
        rintro rfl
        exact allowed
    | @owed j operation askedj looks wrote debt =>
      -- a lookup that owes a path has written it, and the sweep does not take the debt away
      have others := eventsBy_append_of_ne scene.trace ⟨q, (d.handler q scene.world).1⟩
        (ne_of_looks askedj asked looks changes).symm
      exact .owed askedj looks (others ▸ wrote) (others ▸ debt)
    | @pending j operation askedj changes mem =>
      -- the entry is still there, so this request has not erased it
      refine .pending askedj changes ?_
      by_cases same : j = i
      · subst same
        rw [eventsBy_append_self, pendingPaths_append]
        exact Event.mem_pending mem erases
      · rw [eventsBy_append_of_ne _ _ (Ne.symm same)]
        exact mem
  · exact allowed.elim

/-! ## Schedules -/

namespace Scene

/-- There is somebody for each value that the cache holds for a path. -/
def AccountsFor (contents : d.cache.Contents) (operations : List Operation) (scene : Scene σ) :
    Prop :=
  ∀ path value, contents.holds scene.world.cache (.single path) value →
    Accounted operations scene.trace scene.world.memo path value

/-- The memo takes in what is to be recorded next. -/
def TakesIn (contents : d.cache.Contents) (scene : Scene σ) (i : Nat) : Prop :=
  ∀ q, scene.asks i = some q → contents.TakesIn q scene.world

/-- The same, whatever is cached. -/
def TakesRecord (scene : Scene σ) (i : Nat) : Prop :=
  (scene.asks i).all (takesRecord · scene.world) = true

instance (scene : Scene σ) (i : Nat) : Decidable (scene.TakesRecord i) :=
  inferInstanceAs (Decidable (_ = _))

theorem TakesRecord.takesIn (takes : scene.TakesRecord i) : scene.TakesIn contents i := by
  intro q asks
  rw [TakesRecord, asks] at takes
  exact takesIn_of_takesRecord takes

/-- A turn leaves somebody for each value. -/
theorem AccountsFor.advance (accounts : scene.AccountsFor contents operations)
    (follows : scene.Follows Operation.mayAsk Operation.mayEnd d operations)
    (surely : d.cache.ErasesSurely) (takesIn : scene.TakesIn contents i) :
    (scene.advance d i).AccountsFor contents operations := by
  have move := move_advance d scene i
  generalize scene.advance d i = after at move ⊢
  cases move with
  | stay => exact accounts
  | finish here => exact accounts
  | @answer q next leads here free =>
    obtain ⟨operation, asked⟩ := follows.exists_operation here
    have allowed := follows.allowed asked here
    have asks : scene.asks i = some q := by
      rw [Scene.asks, here]
    intro path value held
    by_cases looks : operation.IsLookup
    · exact .of_lookup asked looks (allowed.1 looks) (takesIn q asks) (accounts path value) held
    · exact .of_sweep surely asked looks (allowed.2 looks) (accounts path value) held

/-- So does a whole schedule. -/
theorem AccountsFor.play (accounts : scene.AccountsFor contents operations)
    (follows : scene.Follows Operation.mayAsk Operation.mayEnd d operations)
    (surely : d.cache.ErasesSurely) (takesIn : scene.Along d (TakesIn contents) schedule) :
    (scene.play d schedule).AccountsFor contents operations := by
  induction schedule generalizing scene with
  | nil => exact accounts
  | cons i schedule ih =>
    exact ih (accounts.advance follows surely takesIn.1) (follows.advance i) takesIn.2

/-- Who is not under way has not begun, or is at an end. -/
theorem Follows.begun_or_ended {allows : Operation → List Event → Request → Prop}
    {ends : Operation → List Event → Answer → Prop}
    (follows : scene.Follows allows ends d operations) (rests : ¬ scene.InFlight i)
    (asked : operations[i]? = some operation) :
    eventsBy i scene.trace = [] ∨ ∃ answer, ends operation (eventsBy i scene.trace) answer := by
  have inside : i < scene.callers.length := by
    rw [follows.length]
    exact (List.getElem?_eq_some_iff.mp asked).1
  have here : scene.callers[i]? = some scene.callers[i] := List.getElem?_eq_getElem inside
  have keeps := follows.caller asked here
  cases caller : scene.callers[i] with
  | finished value =>
    rw [caller] at keeps
    exact .inr ⟨value, keeps⟩
  | stopped =>
    rw [caller] at keeps
    exact keeps.elim
  | active program leads =>
    rw [caller] at keeps here
    cases program with
    | done value => exact .inr ⟨value, keeps⟩
    | ask q next =>
      refine .inl (Classical.byContradiction fun begun => rests ⟨begun, ?_⟩)
      rw [asks, here]
      exact Option.some_ne_none q

/-- When nobody is under way, every path that has an entry is recorded. -/
theorem AccountsFor.recorded (accounts : scene.AccountsFor contents operations)
    (follows : scene.Follows Operation.mayAsk Operation.mayEnd d operations)
    (rests : ∀ i, ¬ scene.InFlight i)
    (held : contents.holds scene.world.cache (.single path) value) :
    path ∈ scene.world.memo.paths := by
  cases accounts path value held with
  | recorded mem => exact mem
  | owed asked looks wrote debt =>
    obtain nothing | ⟨_, ended⟩ := follows.begun_or_ended (rests _) asked
    · rw [nothing] at debt
      cases debt
    · cases (ended.1 looks).symm.trans debt
  | pending asked changes mem =>
    obtain nothing | ⟨_, ended⟩ := follows.begun_or_ended (rests _) asked
    · rw [nothing] at mem
      cases mem
    · rw [ended.2 changes] at mem
      cases mem

end Scene

/-- **No entry is lost sight of.** Any operations are asked for side by side and take turns in any
order, over a cache that never fails to erase, and the memo takes in every record of an entry. At
any moment, a value that the cache holds for a path is recorded, or its lookup is yet to record it,
or a sweep is yet to erase it. If nobody is under way, then every path that has an entry is
recorded, and a change or a clearing that is then done on its own leaves nothing. -/
theorem entries_accounted_for (d : Deployment σ) (contents : d.cache.Contents)
    (surely : d.cache.ErasesSurely) (operations : List Operation) (world : World σ)
    (known : ∀ path value, contents.holds world.cache (.single path) value →
      path ∈ world.memo.paths)
    (schedule : List Nat) (scene : Scene σ)
    (reached : (Scene.opening d operations world).play d schedule = scene)
    (takesIn : (Scene.opening d operations world).Along d (Scene.TakesIn contents) schedule) :
    (∀ path value, contents.holds scene.world.cache (.single path) value →
      Accounted operations scene.trace scene.world.memo path value) ∧
    ((∀ i, ¬ scene.InFlight i) →
      (∀ path value, contents.holds scene.world.cache (.single path) value →
        path ∈ scene.world.memo.paths) ∧
      ∀ operation, (d.call operation scene.world).renews = true →
        ∀ key value, ¬ contents.holds (d.ask operation scene.world).2.cache key value) := by
  have opening : (Scene.opening d operations world).Follows Operation.mayAsk Operation.mayEnd d
      operations := Scene.follows_opening (Operation.keepsTo_mayAsk d) operations world
  have follows : scene.Follows Operation.mayAsk Operation.mayEnd d operations :=
    reached ▸ opening.play schedule
  have start : (Scene.opening d operations world).AccountsFor contents operations :=
    fun path value held => .recorded (known path value held)
  have accounts : scene.AccountsFor contents operations :=
    reached ▸ start.play opening surely takesIn
  refine ⟨accounts, fun rests => ⟨fun path value => accounts.recorded follows rests, ?_⟩⟩
  intro operation renews key value
  have tracked (path : String) :
      Tracked contents path none (leftAfter (.single path) false []) scene.world :=
    ⟨fun held => .inl (accounts.recorded follows rests held), Bool.noConfusion⟩
  exact Deployment.not_holds_of_renews tracked renews (not_erasureFailed surely _ _) key value

/-- A path is looked up twice, and its route is replaced. -/
def replacedBetweenLookups : List Operation :=
  [.resolve "/users/42", .update (userRoute "http://new"), .resolve "/users/42"]

/-- The second lookup has found the old route when the first has long recorded its path and the
change has erased the entry; then it caches what it has found. -/
def cachedAfterErasure : List Nat :=
  List.replicate 6 2 ++ List.replicate 10 0 ++ List.replicate 7 1 ++ [2]

/-- The scene after some turns. -/
def lookupsAmidUpdate (schedule : List Nat) : Scene (Entries Cached) :=
  (Scene.opening (plainDeployment false) replacedBetweenLookups
    (World.start (.single (userRoute "http://old")) [] (.empty 100 1000))).play
      (plainDeployment false) schedule

/-- The old entry is cached again after it was erased. Nothing is recorded at first, but the second
lookup accounts for it. When that one has come to its end, the path is recorded, and a clearing
leaves nothing. -/
theorem cached_anew_accounted_for :
    (lookupsAmidUpdate cachedAfterErasure).world.memo.paths = [] ∧
      Accounted replacedBetweenLookups (lookupsAmidUpdate cachedAfterErasure).trace
        (lookupsAmidUpdate cachedAfterErasure).world.memo "/users/42"
        (.single (userRoute "http://old")) ∧
      "/users/42" ∈ (lookupsAmidUpdate (cachedAfterErasure ++ [2, 2, 2])).world.memo.paths ∧
      ∀ key value, ¬ plainContents.holds ((plainDeployment false).ask .clear
        (lookupsAmidUpdate (cachedAfterErasure ++ [2, 2, 2])).world).2.cache key value := by
  have takes : (lookupsAmidUpdate []).Along (plainDeployment false) Scene.TakesRecord
      (cachedAfterErasure ++ [2, 2, 2]) := by
    decide +kernel
  have takesIn : (lookupsAmidUpdate []).Along (plainDeployment false)
      (Scene.TakesIn (d := plainDeployment false) plainContents)
      (cachedAfterErasure ++ [2, 2, 2]) :=
    takes.mono fun _ _ takes => takes.takesIn
  have amid := entries_accounted_for (plainDeployment false) plainContents plainCache_erasesSurely
    replacedBetweenLookups (World.start (.single (userRoute "http://old")) [] (.empty 100 1000))
    (fun _ _ held => nomatch held) cachedAfterErasure (lookupsAmidUpdate cachedAfterErasure) rfl
    (Scene.along_append.mp takesIn).1
  have final := entries_accounted_for (plainDeployment false) plainContents plainCache_erasesSurely
    replacedBetweenLookups (World.start (.single (userRoute "http://old")) [] (.empty 100 1000))
    (fun _ _ held => nomatch held) (cachedAfterErasure ++ [2, 2, 2]) _ rfl takesIn
  have rests (i : Nat) : ¬ (lookupsAmidUpdate (cachedAfterErasure ++ [2, 2, 2])).InFlight i := by
    match i with
    | 0 | 1 | 2 => exact fun flies => flies.2 rfl
    | _ + 3 => exact fun flies => flies.2 rfl
  obtain ⟨recorded, nothing⟩ := final.2 rests
  exact ⟨rfl, amid.1 _ _ rfl, recorded _ (.single (userRoute "http://old")) rfl, nothing _ rfl⟩

end GatewayRouting
