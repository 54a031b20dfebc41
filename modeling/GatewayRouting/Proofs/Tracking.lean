import GatewayRouting.Proofs.Upkeep

/-!
# Which entries are known

The memo is how a later change finds the entries of request paths. A lookup records every path that
it caches, but a change takes all records over before it erases the entries, and if an erasure
fails, the entry stays and its record is gone. Such a path is *left behind*, until its entry is
erased after all or the path is recorded anew.

This is the only way to lose track: an entry that the cache holds is recorded or was left behind
(`Tracked`), as long as the memo keeps its records. Each operation keeps that, and a complete change
or clearing leaves nothing but what it left behind itself (`Swept`).
-/

namespace GatewayRouting

/-! ## What is left behind -/

/-- Whether a key is left behind after an event. -/
def Event.leaving (key : Key) (left : Bool) : Event → Bool
  | ⟨.eraseCache other, .error _⟩ => if other = key then true else left
  | ⟨.eraseCache other, .ok _⟩ => if other = key then false else left
  | ⟨.remember path _, _⟩ => if .single path = key then false else left
  | _ => left

/-- Whether a key is left behind after some events, if it was or was not before. -/
def leftAfter (key : Key) (left : Bool) (events : List Event) : Bool :=
  events.foldl (Event.leaving key) left

/-- The last that was tried with a path's entry, since the path was recorded, was to erase it, and
that failed. -/
def leftBehind (path : String) (events : List Event) : Prop :=
  leftAfter (.single path) false events = true

instance (path : String) (events : List Event) : Decidable (leftBehind path events) :=
  inferInstanceAs (Decidable (_ = _))

/-- Whether an event is an erasure that fails. -/
def Event.failsToErase : Event → Bool
  | ⟨.eraseCache _, .error _⟩ => true
  | _ => false

/-- Whether some erasure has failed. -/
def erasureFailed (events : List Event) : Bool :=
  events.any Event.failsToErase

variable {key : Key} {left : Bool} {events past : List Event}

theorem leftAfter_append (key : Key) (left : Bool) (past events : List Event) :
    leftAfter key left (past ++ events) = leftAfter key (leftAfter key left past) events := by
  simp [leftAfter]

theorem leftAfter_singleton (event : Event) : leftAfter key left [event] = event.leaving key left :=
  rfl

/-- Nothing is left behind as long as no erasure fails. -/
theorem leftAfter_of_not_erasureFailed (fine : erasureFailed events = false) :
    leftAfter key false events = false := by
  induction events with
  | nil => rfl
  | cons event events ih =>
    simp only [erasureFailed, List.any_cons, Bool.or_eq_false_iff] at fine
    have stays : event.leaving key false = false := by
      obtain ⟨q, reply⟩ := event
      cases q with
      | eraseCache other =>
        cases reply with
        | ok done => exact ite_self _
        | error error => cases fine.1
      | remember path pattern => exact ite_self _
      | _ => rfl
    change leftAfter key (event.leaving key false) events = false
    rw [stays]
    exact ih fine.2

theorem Event.leaving_failed {error : CacheError} :
    Event.leaving key left ⟨.eraseCache key, .error error⟩ = true := by
  simp [leaving]

/-- Only erasing a key and recording its path decide whether it is left behind. -/
theorem Event.leaving_eq {q : Request} {reply : q.Reply} (erases : q ≠ .eraseCache key)
    (records : ∀ path pattern, q ≠ .remember path pattern) :
    Event.leaving key left ⟨q, reply⟩ = left := by
  cases q with
  | eraseCache other =>
    have ne : other ≠ key := by
      rintro rfl
      exact erases rfl
    cases reply <;> exact if_neg ne
  | remember path pattern => exact absurd rfl (records path pattern)
  | _ => rfl

variable {σ : Type} {d : Deployment σ} {contents : d.cache.Contents} {world start : World σ}
  {q : Request} {k : Knowledge} {operation : Operation} {path : String}

/-- In a cache that erases surely, no erasure fails. -/
theorem not_erasureFailed (surely : d.cache.ErasesSurely) {α : Type} (program : Program α)
    (world : World σ) : erasureFailed (program.trace d.handler world) = false := by
  induction program generalizing world with
  | done value => rfl
  | ask q next ih =>
    have fine : Event.failsToErase ⟨q, (d.handler q world).1⟩ = false := by
      cases q with
      | eraseCache other =>
        have erased : (d.handler (.eraseCache other) world).1 = .ok () := surely world.cache other
        rw [erased]
        rfl
      | _ => rfl
    simp only [Program.trace_ask, erasureFailed, List.any_cons, fine, Bool.false_or]
    exact ih _ _

/-! ## Lookups -/

/-- The entry of a path is known: it is recorded, or its path is owed or left behind. What is left
behind is not recorded. -/
structure Tracked (contents : d.cache.Contents) (path : String) (debt : Option String)
    (left : Bool) (world : World σ) : Prop where
  /-- the entry is known -/
  entry {value : Cached} (held : contents.holds world.cache (.single path) value) :
    path ∈ world.memo.paths ∨ debt = some path ∨ left = true
  /-- a path that is left behind is not recorded -/
  apart (behind : left = true) : path ∉ world.memo.paths

/-- Recording a path that is owed pays the debt. -/
theorem Tracked.remember {debt : Option String} {other pattern : String}
    (tracked : Tracked contents path debt left world) (owed : debt = some other)
    (takesIn : contents.TakesIn (.remember other pattern) world) :
    Tracked contents path none (Event.leaving (.single path) left ⟨.remember other pattern, ()⟩)
      (d.handler (.remember other pattern) world).2 := by
  by_cases same : other = path
  · subst same
    have taken : Event.leaving (.single other) left ⟨.remember other pattern, ()⟩ = false :=
      if_pos rfl
    rw [taken]
    exact ⟨fun held => .inl (takesIn ⟨_, held⟩), Bool.noConfusion⟩
  · have stays : Event.leaving (.single path) left ⟨.remember other pattern, ()⟩ = left :=
      if_neg fun equal => same (Key.single.inj equal)
    have records : path ∈ (world.memo.remember other pattern).paths ↔ path ∈ world.memo.paths :=
      Memo.mem_paths_remember_of_ne (Ne.symm same)
    rw [stays]
    refine ⟨fun held => ?_, fun behind mem => tracked.apart behind (records.mp mem)⟩
    rcases tracked.entry held with mem | debt | behind
    · exact .inl (records.mpr mem)
    · exact absurd (Option.some.inj (owed.symm.trans debt)) same
    · exact .inr (.inr behind)

/-- Each request of a lookup keeps track. -/
theorem Tracked.step (tracked : Tracked contents path (owedPath past) left world)
    (allowed : k.lookupAllows past q) (takesIn : contents.TakesIn q world) :
    Tracked contents path (owedPath (past ++ [⟨q, (d.handler q world).1⟩]))
      (Event.leaving (.single path) left ⟨q, (d.handler q world).1⟩) (d.handler q world).2 := by
  rw [owedPath_append]
  by_cases records : ∃ other pattern, q = .remember other pattern
  · obtain ⟨other, pattern, rfl⟩ := records
    exact tracked.remember allowed takesIn
  have records (other pattern : String) (same : q = .remember other pattern) :=
    records ⟨other, pattern, same⟩
  have erases : q ≠ .eraseCache (.single path) := by rintro rfl; exact allowed
  have forgets : q ≠ .forget path := by rintro rfl; exact allowed
  rw [Event.leaving_eq erases records]
  refine ⟨fun held => ?_, fun behind mem => ?_⟩
  · obtain old | ⟨seconds, rfl⟩ := Deployment.holds_of_holds_handler held
    · rcases tracked.entry old with mem | debt | behind
      · exact .inl (Deployment.paths_handler_of_paths mem forgets (records path))
      · refine .inr (.inl ?_)
        rw [Event.owing_eq ?_ records, debt]
        rintro key value seconds rfl
        cases allowed.1.symm.trans debt
      · exact .inr (.inr behind)
    · exact .inr (.inl rfl)
  · obtain old | ⟨pattern, same⟩ := Deployment.paths_of_paths_handler mem
    · exact tracked.apart behind old
    · exact records path pattern same

/-- A lookup keeps track. -/
theorem Tracked.lookup (tracked : Tracked contents path none left world)
    (looks : operation.IsLookup)
    (takesIn : (operation.program d.options).Always d.handler contents.TakesIn world) :
    Tracked contents path none (leftAfter (.single path) left (d.eventsOf operation world))
      (d.ask operation world).2 := by
  have step (past : List Event) (q : Request) (now : World σ)
      (tracked : Tracked contents path (owedPath past) (leftAfter (.single path) left past) now)
      (allowed : Knowledge.anything.lookupAllows past q) (takesIn : contents.TakesIn q now) :
      granted d.accepts q (d.handler q now).1 ∧
        Tracked contents path (owedPath (past ++ [⟨q, (d.handler q now).1⟩]))
          (leftAfter (.single path) left (past ++ [⟨q, (d.handler q now).1⟩]))
          (d.handler q now).2 := by
    rw [leftAfter_append]
    exact ⟨Deployment.granted_handler, tracked.step allowed takesIn⟩
  obtain ⟨⟨stands, _⟩, after⟩ :=
    (Operation.keepsTo_program looks Knowledge.anything_closed).run step takesIn tracked
  rw [stands.owed] at after
  exact after

/-! ## Changes and clearings -/

/-- What is known while an operation runs that does not look and that started with some paths left
behind or not. -/
structure Swept (contents : d.cache.Contents) (operation : Operation) (path : String)
    (left : Bool) (start : World σ) (past : List Event) (world : World σ) : Prop where
  /-- nothing is cached -/
  held {key : Key} {value : Cached} (held : contents.holds world.cache key value) :
    contents.holds start.cache key value
  /-- the list stays until it is erased -/
  list {value : Cached} (held : contents.holds world.cache .list value) :
    (progress past).unlisted = false ∨ leftAfter .list false past = true
  /-- the path's entry is due, or it is left behind, or the operation will still come to know it -/
  entry {value : Cached} (held : contents.holds world.cache (.single path) value) :
    path ∈ (progress past).due ∨ leftAfter (.single path) left past = true ∨
      ((progress past).swept = false ∧ path ∈ start.memo.paths) ∨
        ((progress past).listed = false ∧ operation = .clear ∧
          path ∈ start.table.routes.map (·.path))
  /-- the memo stays until it is taken over -/
  memo (early : (progress past).swept = false) : world.memo = start.memo
  /-- and forgets what was taken over -/
  kept (mem : path ∈ world.memo.paths) :
    (progress past).swept = false ∨ path ∈ (progress past).kept
  /-- what is left behind stays so until an entry is erased -/
  left (early : (progress past).erased = []) : leftAfter (.single path) left past = left
  /-- a clearing leaves the table alone -/
  table (clears : operation = .clear) : world.table = start.table

namespace Swept

variable {value : Cached}

theorem list_step (swept : Swept contents operation path left start past world)
    (allowed : operation.upkeepAllows past q)
    (held : contents.holds (d.handler q world).2.cache .list value) :
    (progress (past ++ [⟨q, (d.handler q world).1⟩])).unlisted = false ∨
      leftAfter .list false (past ++ [⟨q, (d.handler q world).1⟩]) = true := by
  rw [progress_append, leftAfter_append, leftAfter_singleton]
  by_cases erases : q = .eraseCache .list
  · subst erases
    cases replied : (d.handler (.eraseCache .list) world).1 with
    | ok done => exact absurd held (contents.not_holds_erase replied)
    | error error => exact .inr Event.leaving_failed
  · rw [Progress.unlisted_after erases, Event.leaving_eq erases allowed.ne_remember]
    obtain old | ⟨seconds, rfl⟩ := Deployment.holds_of_holds_handler held
    · exact swept.list old
    · exact allowed.elim

theorem entry_step (swept : Swept contents operation path left start past world)
    (allowed : operation.upkeepAllows past q)
    (held : contents.holds (d.handler q world).2.cache (.single path) value) :
    path ∈ (progress (past ++ [⟨q, (d.handler q world).1⟩])).due ∨
      leftAfter (.single path) left (past ++ [⟨q, (d.handler q world).1⟩]) = true ∨
        ((progress (past ++ [⟨q, (d.handler q world).1⟩])).swept = false ∧
          path ∈ start.memo.paths) ∨
          ((progress (past ++ [⟨q, (d.handler q world).1⟩])).listed = false ∧
            operation = .clear ∧ path ∈ start.table.routes.map (·.path)) := by
  rw [progress_append, leftAfter_append, leftAfter_singleton]
  by_cases erases : q = .eraseCache (.single path)
  · subst erases
    cases replied : (d.handler (.eraseCache (.single path)) world).1 with
    | ok done => exact absurd held (contents.not_holds_erase replied)
    | error error => exact .inr (.inl Event.leaving_failed)
  rw [Event.leaving_eq erases allowed.ne_remember]
  obtain old | ⟨seconds, rfl⟩ := Deployment.holds_of_holds_handler held
  · rcases swept.entry old with due | behind | ⟨early, mem⟩ | ⟨early, clears, mem⟩
    · exact .inl (Progress.mem_due_after due erases)
    · exact .inr (.inl behind)
    · by_cases takes : q = .recorded
      · subst takes
        -- nothing has been forgotten before, so what was recorded at the start is given out now
        have reply : (d.handler .recorded world).1 = start.memo.recorded :=
          congrArg Memo.recorded (swept.memo early)
        refine .inl (List.mem_append_right _ ?_)
        rw [reply]
        exact mem
      · rw [Progress.swept_after takes]
        exact .inr (.inr (.inl ⟨early, mem⟩))
    · by_cases lists : q = .listRoutes
      · subst lists
        cases replied : (d.handler .listRoutes world).1 with
        | ok routes =>
          have same : routes = start.table.routes := by
            rw [← Deployment.routes_of_listRoutes replied, swept.table clears]
          exact .inl (List.mem_append_right _ (same ▸ mem))
        | error error => exact .inr (.inr (.inr ⟨early, clears, mem⟩))
      · rw [Progress.listed_after lists]
        exact .inr (.inr (.inr ⟨early, clears, mem⟩))
  · exact allowed.elim

theorem memo_step (swept : Swept contents operation path left start past world)
    (allowed : operation.upkeepAllows past q)
    (early : (progress (past ++ [⟨q, (d.handler q world).1⟩])).swept = false) :
    (d.handler q world).2.memo = start.memo := by
  rw [progress_append] at early
  have takes : q ≠ .recorded := by
    rintro rfl
    cases early
  rw [Progress.swept_after takes] at early
  rw [Deployment.memo_handler allowed.ne_remember, swept.memo early]
  rintro path rfl
  cases early.symm.trans allowed.1

theorem kept_step (swept : Swept contents operation path left start past world)
    (allowed : operation.upkeepAllows past q) (mem : path ∈ (d.handler q world).2.memo.paths) :
    (progress (past ++ [⟨q, (d.handler q world).1⟩])).swept = false ∨
      path ∈ (progress (past ++ [⟨q, (d.handler q world).1⟩])).kept := by
  rw [progress_append]
  by_cases takes : q = .recorded
  · subst takes
    exact .inr mem
  rw [Progress.swept_after takes]
  by_cases forgets : ∃ other, q = .forget other
  · obtain ⟨other, rfl⟩ := forgets
    obtain ⟨mem, ne⟩ := Memo.mem_paths_forget.mp mem
    obtain early | kept := swept.kept mem
    · exact .inl early
    · exact .inr ((List.mem_erase_of_ne ne).mpr kept)
  · have forgets (other : String) (same : q = .forget other) := forgets ⟨other, same⟩
    rw [Progress.kept_after takes forgets]
    rw [Deployment.memo_handler allowed.ne_remember forgets] at mem
    exact swept.kept mem

theorem left_step (swept : Swept contents operation path left start past world)
    (allowed : operation.upkeepAllows past q)
    (early : (progress (past ++ [⟨q, (d.handler q world).1⟩])).erased = []) :
    leftAfter (.single path) left (past ++ [⟨q, (d.handler q world).1⟩]) = left := by
  rw [progress_append] at early
  have erases (other : String) : q ≠ .eraseCache (.single other) := by
    rintro rfl
    cases early
  rw [Progress.erased_after erases] at early
  rw [leftAfter_append, leftAfter_singleton, Event.leaving_eq (erases path) allowed.ne_remember]
  exact swept.left early

/-- Each request of an operation that does not look keeps what is known. -/
theorem step (swept : Swept contents operation path left start past world)
    (allowed : operation.upkeepAllows past q) :
    Swept contents operation path left start (past ++ [⟨q, (d.handler q world).1⟩])
      (d.handler q world).2 where
  held := by
    intro key value held
    obtain old | ⟨seconds, rfl⟩ := Deployment.holds_of_holds_handler held
    · exact swept.held old
    · exact allowed.elim
  list := swept.list_step allowed
  entry := swept.entry_step allowed
  memo := swept.memo_step allowed
  kept := swept.kept_step allowed
  left := swept.left_step allowed
  table := by
    intro clears
    subst clears
    rw [Deployment.table_handler, swept.table rfl]
    cases q <;> first | exact allowed.elim | exact id | exact fun _ => nomatch allowed.1

/-- An operation that does not look keeps what is known to its end. -/
theorem upkeep (changes : ¬ operation.IsLookup)
    (known : ∀ value, contents.holds world.cache (.single path) value →
      left = true ∨ path ∈ world.memo.paths ∨
        (operation = .clear ∧ path ∈ world.table.routes.map (·.path))) :
    Swept contents operation path left world (d.eventsOf operation world)
      (d.ask operation world).2 := by
  refine Deployment.upkeep_induction changes (fun _ _ _ swept allowed => swept.step allowed) ?_
  refine ⟨id, fun _ => .inl rfl, ?_, fun _ => rfl, fun _ => .inl rfl, fun _ => rfl, fun _ => rfl⟩
  intro value held
  rcases known value held with behind | mem | ⟨clears, mem⟩
  · exact .inr (.inl behind)
  · exact .inr (.inr (.inl ⟨rfl, mem⟩))
  · exact .inr (.inr (.inr ⟨rfl, clears, mem⟩))

/-- A complete operation leaves nothing but what it left behind, and nothing recorded. -/
theorem of_complete (swept : Swept contents operation path left start past world)
    (all : (progress past).Complete)
    (listed : operation = .clear → (progress past).listed = true) :
    (∀ value, contents.holds world.cache .list value → leftAfter .list false past = true) ∧
      (∀ value, contents.holds world.cache (.single path) value →
        leftAfter (.single path) left past = true) ∧ path ∉ world.memo.paths := by
  refine ⟨fun value held => ?_, fun value held => ?_, fun mem => ?_⟩
  · obtain early | behind := swept.list held
    · cases all.unlisted.symm.trans early
    · exact behind
  · rcases swept.entry held with due | behind | ⟨early, _⟩ | ⟨early, clears, _⟩
    · rw [all.due] at due
      cases due
    · exact behind
    · cases all.swept.symm.trans early
    · cases (listed clears).symm.trans early
  · obtain early | kept := swept.kept mem
    · cases all.swept.symm.trans early
    · rw [all.kept] at kept
      cases kept

end Swept

/-! ## Courses -/

/-- Between operations, what is tracked was left behind or will be found. -/
theorem Tracked.known (tracked : Tracked contents path none left world) (operation : Operation)
    {value : Cached} (held : contents.holds world.cache (.single path) value) :
    left = true ∨ path ∈ world.memo.paths ∨
      (operation = .clear ∧ path ∈ world.table.routes.map (·.path)) := by
  rcases tracked.entry held with mem | debt | behind
  · exact .inr (.inl mem)
  · cases debt
  · exact .inl behind

/-- An operation that does not look keeps track. -/
theorem Tracked.upkeep (tracked : Tracked contents path none left world)
    (changes : ¬ operation.IsLookup) :
    Tracked contents path none (leftAfter (.single path) left (d.eventsOf operation world))
      (d.ask operation world).2 := by
  have swept := Swept.upkeep changes fun _ held => tracked.known operation held
  obtain ⟨all, listed⟩ | nothing := (Deployment.ends_ask changes).complete_or_untouched
  · obtain ⟨_, entry, forgotten⟩ := swept.of_complete all listed
    exact ⟨fun held => .inr (.inr (entry _ held)), fun _ => forgotten⟩
  · rw [swept.left nothing.erased]
    refine ⟨fun held => ?_, ?_⟩
    · rw [swept.memo nothing.swept]
      exact tracked.entry (swept.held held)
    · rw [swept.memo nothing.swept]
      exact tracked.apart

/-- The memo and the cache change on their own in a way that keeps track. -/
theorem Tracked.pause {nanoseconds : Nat} {cache : σ}
    (tracked : Tracked contents path none left world)
    (loses : contents.OnlyLoses world (.pause nanoseconds cache))
    (keeps : d.MemoKeeps contents world (.pause nanoseconds cache)) :
    Tracked contents path none left (d.meet world (.pause nanoseconds cache)) where
  entry := by
    intro value held
    obtain mem | rest := tracked.entry (loses _ _ held)
    · exact .inl (keeps path value mem held)
    · exact .inr rest
  apart := fun behind mem => tracked.apart behind (Memo.mem_paths_of_advance mem)

/-- **No entry gets lost track of**: at every moment of a course, an entry of a path that the cache
holds is recorded in the memo, or the path was left behind. -/
theorem tracked_course {table : Table} {cache : σ} {memo : Memo} {happenings : List (Happening σ)}
    (empty : ∀ key value, ¬ contents.holds cache key value)
    (loses : d.Along contents.OnlyLoses (World.start table cache memo) happenings)
    (keeps : d.Along (d.MemoKeeps contents) (World.start table cache memo) happenings)
    (path : String) :
    Tracked contents path none
      (leftAfter (.single path) false (d.events (World.start table cache memo) happenings))
      (d.course (World.start table cache memo) happenings) := by
  have asked (past : List Event) (world : World σ) (operation : Operation)
      (rule : contents.OnlyLoses world (.asked operation) ∧
        d.MemoKeeps contents world (.asked operation))
      (tracked : Tracked contents path none (leftAfter (.single path) false past) world) :
      Tracked contents path none
        (leftAfter (.single path) false (past ++ d.eventsOf operation world))
        (d.ask operation world).2 := by
    rw [leftAfter_append]
    by_cases looks : operation.IsLookup
    · exact tracked.lookup looks rule.2
    · exact tracked.upkeep looks
  have outage (past : List Event) (world : World σ) (reason : Option String)
      (rule : contents.OnlyLoses world (.outage reason) ∧
        d.MemoKeeps contents world (.outage reason))
      (tracked : Tracked contents path none (leftAfter (.single path) false past) world) :
      Tracked contents path none (leftAfter (.single path) false past)
        (d.meet world (.outage reason)) :=
    ⟨tracked.entry, tracked.apart⟩
  have start : Tracked contents path none (leftAfter (.single path) false [])
      (World.start table cache memo) :=
    ⟨fun held => absurd held (empty _ _), Bool.noConfusion⟩
  exact (loses.and keeps).log asked outage
    (fun past world nanoseconds cache rule tracked => tracked.pause rule.1 rule.2) start

end GatewayRouting
