import GatewayRouting.Proofs.Covering
import GatewayRouting.Proofs.SideBySide

/-!
# A change among lookups

While a change runs, lookups may be under way that were told about the table as it was. What they
write can be wrong, and whether it is found and erased depends on who is faster. Two moments decide:
when the change erases the list, and when it takes over what the memo has recorded. `Scene.Quiet`
and `Scene.MayWriteList` say that the lookups that had begun by the first moment are fast enough:
those that have loaded an old list themselves neither write it nor share it after the first moment,
and those that were brought an old list in any way owe no record after the second.

Then everything wrong that the cache holds is accounted for (`Guarded`). A wrong entry of a path is
recorded in the memo, or due to be erased, or its path is still owed by the lookup that wrote it; a
wrong list is gone once it was erased; and nobody can join a load with a wrong result any more.
-/

namespace GatewayRouting

variable {σ : Type} {d : Deployment σ} {contents : d.cache.Contents} {scene : Scene σ}
  {operations : List Operation} {operation mutation : Operation} {k : Knowledge} {i j m : Nat}
  {q : Request} {trace : List (Nat × Event)} {event : Event}

/-! ## Who had begun -/

/-- The callers that had begun when a caller erased the list, or that have begun if it has not. -/
def early (m : Nat) (trace : List (Nat × Event)) : List Nat :=
  (trace.takeWhile fun tagged => !(tagged.1 == m && tagged.2.unlists)).map (·.1)

theorem unlisted_eq_any (past : List Event) :
    (progress past).unlisted = past.any Event.unlists := by
  -- the induction is over the events that are still to come, from any progress
  suffices general : ∀ start : Progress,
      (past.foldl Progress.after start).unlisted = (start.unlisted || past.any Event.unlists) from
    general {}
  induction past with
  | nil => exact fun start => (Bool.or_false _).symm
  | cons event past ih =>
    intro start
    rw [List.foldl_cons, ih, Progress.unlisted_after_eq, List.any_cons, Bool.or_assoc]

theorem unlisted_eventsBy (m : Nat) (trace : List (Nat × Event)) :
    (progress (eventsBy m trace)).unlisted =
      trace.any fun tagged => tagged.1 == m && tagged.2.unlists := by
  rw [unlisted_eq_any, eventsBy, List.any_map, List.any_filter]
  rfl

/-- Who had begun when the list was erased is settled from then on. -/
theorem early_append_of_unlisted (unlisted : (progress (eventsBy m trace)).unlisted = true)
    (more : List (Nat × Event)) : early m (trace ++ more) = early m trace := by
  rw [unlisted_eventsBy] at unlisted
  induction trace with
  | nil => cases unlisted
  | cons tagged trace ih =>
    rw [List.any_cons] at unlisted
    simp only [early, List.cons_append, List.takeWhile_cons] at ih ⊢
    cases erases : tagged.1 == m && tagged.2.unlists with
    | true => rfl
    | false =>
      rw [erases, Bool.false_or] at unlisted
      simpa using ih unlisted

/-- Until the list is erased, everybody who has begun is early. -/
theorem mem_early_of_not_unlisted (unlisted : (progress (eventsBy m trace)).unlisted = false)
    (more : List (Nat × Event)) (begun : eventsBy j trace ≠ []) : j ∈ early m (trace ++ more) := by
  rw [unlisted_eventsBy, List.any_eq_false] at unlisted
  have all : ∀ tagged ∈ trace, (!(tagged.1 == m && tagged.2.unlists)) = true := by
    intro tagged mem
    rw [Bool.eq_false_iff.mpr (unlisted tagged mem)]
    rfl
  obtain ⟨event, mem⟩ := List.exists_mem_of_ne_nil _ begun
  simp only [eventsBy, List.mem_map, List.mem_filter, beq_iff_eq] at mem
  obtain ⟨tagged, ⟨mem, rfl⟩, _⟩ := mem
  rw [early, List.takeWhile_append_of_pos all, List.map_append]
  exact List.mem_append_left _ (List.mem_map_of_mem mem)

theorem not_mem_early_of_silent (silent : eventsBy j trace = []) : j ∉ early m trace := by
  intro mem
  obtain ⟨tagged, inside, rfl⟩ := List.mem_map.mp mem
  have here : tagged.2 ∈ eventsBy tagged.1 trace :=
    List.mem_map_of_mem
      (List.mem_filter.mpr ⟨List.takeWhile_subset _ inside, beq_self_eq_true _⟩)
  rw [silent] at here
  cases here

/-- Who begins after the list was erased has no events yet, or was late before. -/
theorem late_cases {more : List (Nat × Event)} (late : j ∉ early m (trace ++ more)) :
    eventsBy j trace = [] ∨
      ((progress (eventsBy m trace)).unlisted = true ∧ j ∉ early m trace) := by
  cases unlisted : (progress (eventsBy m trace)).unlisted with
  | true =>
    rw [early_append_of_unlisted unlisted] at late
    exact .inr ⟨rfl, late⟩
  | false =>
    exact .inl (Classical.byContradiction fun begun =>
      late (mem_early_of_not_unlisted unlisted _ begun))

/-! ## What is accounted for -/

/-- The lookups that had begun when the list was erased are fast enough: those that have loaded a
wrong list have let go of their load by then, and those that were brought one in any way owe no path
when the memo is taken over. -/
def Scene.Quiet (k : Knowledge) (m : Nat) (scene : Scene σ) : Prop :=
  ((progress (eventsBy m scene.trace)).unlisted = true → ∀ j ∈ early m scene.trace,
    k.misloaded (eventsBy j scene.trace) → joinedLoad (eventsBy j scene.trace) = none) ∧
  ((progress (eventsBy m scene.trace)).swept = true → ∀ j ∈ early m scene.trace,
    k.misled (eventsBy j scene.trace) → owedPath (eventsBy j scene.trace) = none)

/-- Once the list was erased, a lookup that had begun may write it only if it has not loaded a wrong
one. -/
def Scene.MayWriteList (k : Knowledge) (m : Nat) (scene : Scene σ) (i : Nat) : Prop :=
  (progress (eventsBy m scene.trace)).unlisted = true → i ∈ early m scene.trace →
    ¬ k.misloaded (eventsBy i scene.trace)

instance [∀ result, Decidable (k.loaded result)] (scene : Scene σ) (i : Nat) :
    Decidable (scene.MayWriteList k m i) :=
  inferInstanceAs (Decidable (_ → _ → _))

instance [∀ result, Decidable (k.loaded result)] (scene : Scene σ) : Decidable (scene.Quiet k m) :=
  inferInstanceAs (Decidable ((_ → ∀ _ ∈ _, _ → _) ∧ (_ → ∀ _ ∈ _, _ → _)))

/-- Why a cached value of a path does no harm. -/
inductive EntryGuard (k : Knowledge) (m : Nat) (trace : List (Nat × Event)) (memo : Memo)
    (path : String) (value : Cached) : Prop where
  /-- it is right -/
  | right (fits : k.fits (.single path) value)
  /-- its path will be found in the memo -/
  | recorded (early : (progress (eventsBy m trace)).swept = false) (mem : path ∈ memo.paths)
  /-- it is due to be erased -/
  | due (mem : path ∈ (progress (eventsBy m trace)).due)
  /-- its path will be recorded by a lookup that was misled -/
  | owed {j : Nat} (ne : j ≠ m) (debt : owedPath (eventsBy j trace) = some path)
      (wrong : k.misled (eventsBy j trace))

/-- Why the result of a load that can be joined does no harm. -/
inductive LoadGuard (k : Knowledge) (m : Nat) (trace : List (Nat × Event)) (number : Nat)
    (result : Except StoreError (List Route)) : Prop where
  /-- it is right -/
  | right (loaded : k.loaded result)
  /-- the lookup that has loaded it will let go of it -/
  | joined {j : Nat} (ne : j ≠ m) (joined : joinedLoad (eventsBy j trace) = some number)
      (wrong : k.misloaded (eventsBy j trace))

/-- Everything wrong that the world holds is accounted for. -/
structure Guarded (contents : d.cache.Contents) (k : Knowledge) (m : Nat)
    (trace : List (Nat × Event)) (world : World σ) : Prop where
  /-- the memo is taken over after the list was erased -/
  unlisted (swept : (progress (eventsBy m trace)).swept = true) :
    (progress (eventsBy m trace)).unlisted = true
  /-- which is after the table was changed -/
  changed (unlisted : (progress (eventsBy m trace)).unlisted = true) :
    (progress (eventsBy m trace)).changed = true
  /-- and the table can be reached -/
  reached (changed : (progress (eventsBy m trace)).changed = true) : world.outage = none
  /-- no wrong list is held once it was erased -/
  list (unlisted : (progress (eventsBy m trace)).unlisted = true) {value : Cached}
    (held : contents.holds world.cache .list value) : k.fits .list value
  /-- a wrong entry is recorded, due or owed -/
  entry {path : String} {value : Cached} (held : contents.holds world.cache (.single path) value) :
    EntryGuard k m trace world.memo path value
  /-- a load that can be joined with a wrong result is not let go yet -/
  slot {number : Nat} {result : Except StoreError (List Route)}
    (slot : world.loads.slot = some number)
    (settled : world.loads.states[number]? = some (.settled result)) :
    LoadGuard k m trace number result
  /-- who begins later is brought no wrong list -/
  late (unlisted : (progress (eventsBy m trace)).unlisted = true) {j : Nat} (ne : j ≠ m)
    (late : j ∉ early m trace) : ¬ k.misled (eventsBy j trace)
  /-- and joins no load with a wrong result -/
  lateLoad (unlisted : (progress (eventsBy m trace)).unlisted = true) {j number : Nat}
    {result : Except StoreError (List Route)} (ne : j ≠ m) (late : j ∉ early m trace)
    (joined : joinedLoad (eventsBy j trace) = some number)
    (settled : world.loads.states[number]? = some (.settled result)) : k.loaded result

/-- A change among lookups: what operations there are. -/
structure Amid (operations : List Operation) (m : Nat) (mutation : Operation) : Prop where
  /-- one of them is the change -/
  asked : operations[m]? = some mutation
  /-- which is one -/
  changes : mutation.IsChange
  /-- the others only look -/
  looks {j : Nat} {operation : Operation} (ne : j ≠ m) (asked : operations[j]? = some operation) :
    operation.IsLookup

/-- What is given while a change runs among lookups. -/
structure Scene.Watched (k : Knowledge) (d : Deployment σ) (operations : List Operation) (m : Nat)
    (mutation : Operation) (scene : Scene σ) : Prop where
  /-- the operations -/
  amid : Amid operations m mutation
  /-- everybody keeps to their protocol -/
  keeps : scene.KeepsTo k d operations
  /-- early lookups are fast enough -/
  quiet : scene.Quiet k m
  /-- what the table lists is right once it was changed -/
  table (changed : (progress (eventsBy m scene.trace)).changed = true) :
    k.lists scene.world.table.routes

/-! ## Lookups -/

section lookup

variable (guarded : Guarded contents k m scene.trace scene.world)
  (watched : scene.Watched k d operations m mutation)

include guarded watched

/-- Once the list was erased, nobody is with a load who has loaded a wrong list. -/
theorem not_misloaded_of_joined (unlisted : (progress (eventsBy m scene.trace)).unlisted = true)
    (ne : j ≠ m) {number : Nat} (joined : joinedLoad (eventsBy j scene.trace) = some number) :
    ¬ k.misloaded (eventsBy j scene.trace) := by
  intro wrong
  by_cases begun : j ∈ early m scene.trace
  · cases joined.symm.trans (watched.quiet.1 unlisted j begun wrong)
  · exact Knowledge.not_misloaded_of_not_misled (guarded.late unlisted ne begun) wrong

/-- Once the memo was taken over, nobody owes a path who was brought a wrong list. -/
theorem not_misled_of_owed (swept : (progress (eventsBy m scene.trace)).swept = true)
    (ne : j ≠ m) {path : String} (owed : owedPath (eventsBy j scene.trace) = some path) :
    ¬ k.misled (eventsBy j scene.trace) := by
  intro wrong
  by_cases begun : j ∈ early m scene.trace
  · cases owed.symm.trans (watched.quiet.2 swept j begun wrong)
  · exact guarded.late (guarded.unlisted swept) ne begun wrong

/-- Once the list was erased, a load that can be joined has no wrong result. -/
theorem loaded_of_slot (unlisted : (progress (eventsBy m scene.trace)).unlisted = true)
    {number : Nat} {result : Except StoreError (List Route)}
    (slot : scene.world.loads.slot = some number)
    (settled : scene.world.loads.states[number]? = some (.settled result)) : k.loaded result := by
  cases guarded.slot slot settled with
  | right loaded => exact loaded
  | joined ne joined wrong =>
    exact absurd wrong (not_misloaded_of_joined guarded watched unlisted ne joined)

variable (ne : i ≠ m) (allowed : k.lookupAllows (eventsBy i scene.trace) q)

include ne allowed

theorem entry_of_remember {other pattern path : String} {value : Cached}
    (owed : owedPath (eventsBy i scene.trace) = some other)
    (takesIn : contents.TakesIn (.remember other pattern) scene.world)
    (held : contents.holds scene.world.cache (.single path) value) :
    EntryGuard k m (scene.trace ++ [(i, ⟨.remember other pattern, ()⟩)])
      (scene.world.memo.remember other pattern) path value := by
  have others := eventsBy_append_of_ne scene.trace ⟨.remember other pattern, ()⟩ ne
  have recorded (known : path ∈ scene.world.memo.paths ∨ path = other) :
      path ∈ (scene.world.memo.remember other pattern).paths := by
    by_cases same : path = other
    · subst same
      exact takesIn ⟨value, held⟩
    · exact (Memo.mem_paths_remember_of_ne same).mpr (known.resolve_right same)
  cases guarded.entry held with
  | right fits => exact .right fits
  | recorded early mem => exact .recorded (others ▸ early) (recorded (.inl mem))
  | due mem => exact .due (others ▸ mem)
  | @owed j nej debt wrong =>
    by_cases same : j = i
    · subst same
      have paid : path = other := Option.some.inj (debt.symm.trans owed)
      -- a misled lookup that owes a path does so before the memo is taken over
      have early : (progress (eventsBy m scene.trace)).swept = false :=
        Bool.eq_false_iff.mpr fun swept =>
          not_misled_of_owed guarded watched swept nej debt wrong
      exact .recorded (others ▸ early) (recorded (.inr paid))
    · have stays := eventsBy_append_of_ne scene.trace ⟨.remember other pattern, ()⟩ (Ne.symm same)
      exact .owed nej (stays ▸ debt) (stays ▸ wrong)

theorem entry_of_lookup {path : String} {value : Cached}
    (takesIn : contents.TakesIn q scene.world)
    (held : contents.holds (d.handler q scene.world).2.cache (.single path) value) :
    EntryGuard k m (scene.trace ++ [(i, ⟨q, (d.handler q scene.world).1⟩)])
      (d.handler q scene.world).2.memo path value := by
  have others := eventsBy_append_of_ne scene.trace ⟨q, (d.handler q scene.world).1⟩ ne
  obtain old | ⟨seconds, rfl⟩ := Deployment.holds_of_holds_handler held
  · by_cases records : ∃ other pattern, q = .remember other pattern
    · obtain ⟨other, pattern, rfl⟩ := records
      exact entry_of_remember guarded watched ne allowed allowed takesIn old
    have records (other pattern : String) (same : q = .remember other pattern) :=
      records ⟨other, pattern, same⟩
    have forgets : q ≠ .forget path := by
      rintro rfl
      exact allowed
    cases guarded.entry old with
    | right fits => exact .right fits
    | recorded early mem =>
      exact .recorded (others ▸ early)
        (Deployment.paths_handler_of_paths mem forgets (records path))
    | due mem => exact .due (others ▸ mem)
    | @owed j nej debt wrong =>
      by_cases same : j = i
      · subst same
        -- a lookup that owes a path writes nothing else
        have writes (key : Key) (value : Cached) (seconds : UInt64) :
            q ≠ .writeCache key value seconds := by
          rintro rfl
          cases allowed.1.symm.trans debt
        refine .owed nej ?_ ?_
        · rw [eventsBy_append_self, owedPath_append, Event.owing_eq writes records]
          exact debt
        · rw [eventsBy_append_self]
          exact Knowledge.misled_append.mpr (.inl wrong)
      · have stays := eventsBy_append_of_ne scene.trace ⟨q, (d.handler q scene.world).1⟩
          (Ne.symm same)
        exact .owed nej (stays ▸ debt) (stays ▸ wrong)
  · by_cases wrong : k.misled (eventsBy i scene.trace)
    · refine .owed ne ?_ ?_
      · rw [eventsBy_append_self, owedPath_append]
        rfl
      · rw [eventsBy_append_self]
        exact Knowledge.misled_append.mpr (.inl wrong)
    · exact .right (allowed.2 wrong)

omit watched in
theorem slot_of_lookup {number : Nat} {result : Except StoreError (List Route)}
    (slot : (d.handler q scene.world).2.loads.slot = some number)
    (settled : (d.handler q scene.world).2.loads.states[number]? = some (.settled result)) :
    LoadGuard k m (scene.trace ++ [(i, ⟨q, (d.handler q scene.world).1⟩)]) number result := by
  -- what holds before the request holds after it, if its caller stays with the load
  have before (slot : scene.world.loads.slot = some number)
      (settled : scene.world.loads.states[number]? = some (.settled result))
      (stays : joinedLoad (eventsBy i scene.trace) = some number →
        Event.joining (some number) ⟨q, (d.handler q scene.world).1⟩ = some number) :
      LoadGuard k m (scene.trace ++ [(i, ⟨q, (d.handler q scene.world).1⟩)]) number result := by
    cases guarded.slot slot settled with
    | right loaded => exact .right loaded
    | @joined j nej joined wrong =>
      by_cases same : j = i
      · subst same
        refine .joined nej ?_ ?_
        · rw [eventsBy_append_self, joinedLoad_append, joined]
          exact stays joined
        · rw [eventsBy_append_self]
          exact Knowledge.misloaded_append wrong
      · have others := eventsBy_append_of_ne scene.trace ⟨q, (d.handler q scene.world).1⟩
          (Ne.symm same)
        exact .joined nej (others ▸ joined) (others ▸ wrong)
  by_cases joins : q = .joinLoad
  · subst joins
    cases here : scene.world.loads.slot with
    | none =>
      -- a load that is joined first has no result yet
      obtain rfl : scene.world.loads.join.1 = number :=
        Option.some.inj (SharedLoads.slot_join.symm.trans slot)
      cases (SharedLoads.idle_join here).symm.trans settled
    | some other =>
      change scene.world.loads.join.2.slot = some number at slot
      change scene.world.loads.join.2.states[number]? = _ at settled
      rw [SharedLoads.join_of_slot here] at slot settled
      exact before slot settled fun joined => nomatch joined.symm.trans allowed
  by_cases releases : ∃ other, q = .releaseLoad other
  · obtain ⟨other, rfl⟩ := releases
    obtain ⟨slot, elsewhere⟩ := SharedLoads.slot_of_slot_release slot
    change (scene.world.loads.release other).states[number]? = _ at settled
    rw [SharedLoads.states_release] at settled
    refine before slot settled fun joined => ?_
    exact absurd (Option.some.inj (joined.symm.trans allowed)) elsewhere
  have releases (other : Nat) (same : q = .releaseLoad other) := releases ⟨other, same⟩
  rw [Deployment.slot_handler joins releases] at slot
  obtain old | rfl := Deployment.settled_of_settled_handler settled
  · exact before slot old fun _ => Event.joining_eq joins releases
  · by_cases wrong : k.misloaded (eventsBy i scene.trace)
    · refine .joined ne ?_ ?_
      · rw [eventsBy_append_self, joinedLoad_append, allowed.1]
        rfl
      · rw [eventsBy_append_self]
        exact Knowledge.misloaded_append wrong
    · exact .right (allowed.2 wrong)

/-- What a lookup is brought once the list was erased is right, unless it is early. -/
theorem loaded_of_brings (unlisted : (progress (eventsBy m scene.trace)).unlisted = true)
    (late : i ∉ early m scene.trace) {result : Except StoreError (List Route)}
    (brings : (⟨q, (d.handler q scene.world).1⟩ : Event).brings = some result) :
    k.loaded result := by
  obtain ⟨routes, rfl, held⟩ | ⟨rfl, rfl⟩ | ⟨number, rfl, settled⟩ :=
    Deployment.brings_cases contents brings
  · exact guarded.list unlisted held
  · have changed := guarded.changed unlisted
    rw [Deployment.handler_listRoutes, guarded.reached changed]
    exact watched.table changed
  · exact guarded.lateLoad unlisted ne late allowed settled

theorem lateLoad_of_lookup
    (unlisted : (progress (eventsBy m scene.trace)).unlisted = true) {number : Nat}
    {result : Except StoreError (List Route)} (nej : j ≠ m) (late : j ∉ early m scene.trace)
    (joined : joinedLoad (eventsBy j (scene.trace ++ [(i, ⟨q, (d.handler q scene.world).1⟩)])) =
      some number)
    (settled : (d.handler q scene.world).2.loads.states[number]? = some (.settled result)) :
    k.loaded result := by
  -- a result is there already, or the lookup itself settles the load
  obtain old | rfl := Deployment.settled_of_settled_handler settled
  · by_cases same : j = i
    · subst same
      rw [eventsBy_append_self, joinedLoad_append] at joined
      by_cases joins : q = .joinLoad
      · subst joins
        obtain rfl : scene.world.loads.join.1 = number := Option.some.inj joined
        cases here : scene.world.loads.slot with
        | none => cases (SharedLoads.idle_join here).symm.trans settled
        | some other =>
          rw [SharedLoads.join_of_slot here] at old
          exact loaded_of_slot guarded watched unlisted here old
      by_cases releases : ∃ other, q = .releaseLoad other
      · obtain ⟨other, rfl⟩ := releases
        cases joined
      · have releases (other : Nat) (same : q = .releaseLoad other) := releases ⟨other, same⟩
        rw [Event.joining_eq joins releases] at joined
        exact guarded.lateLoad unlisted nej late joined old
    · rw [eventsBy_append_of_ne _ _ (Ne.symm same)] at joined
      exact guarded.lateLoad unlisted nej late joined old
  · exact allowed.2 (not_misloaded_of_joined guarded watched unlisted ne allowed.1)

/-- What a lookup asks for keeps everything accounted for. -/
theorem guarded_lookup (takesIn : contents.TakesIn q scene.world)
    (writes : ∀ value seconds, q = .writeCache .list value seconds →
      scene.MayWriteList k m i) :
    Guarded contents k m (scene.trace ++ [(i, ⟨q, (d.handler q scene.world).1⟩)])
      (d.handler q scene.world).2 := by
  have others := eventsBy_append_of_ne scene.trace ⟨q, (d.handler q scene.world).1⟩ ne
  constructor
  · rw [others]
    exact guarded.unlisted
  · rw [others]
    exact guarded.changed
  · rw [others, Deployment.outage_handler]
    exact guarded.reached
  · rw [others]
    intro unlisted value held
    obtain old | ⟨seconds, rfl⟩ := Deployment.holds_of_holds_handler held
    · exact guarded.list unlisted old
    · refine allowed.2 fun wrong => ?_
      by_cases begun : i ∈ early m scene.trace
      · exact writes value seconds rfl unlisted begun wrong
      · exact Knowledge.not_misloaded_of_not_misled (guarded.late unlisted ne begun) wrong
  · exact entry_of_lookup guarded watched ne allowed takesIn
  · exact slot_of_lookup guarded ne allowed
  · rw [others]
    intro unlisted j nej late
    rw [early_append_of_unlisted unlisted] at late
    by_cases same : j = i
    · subst same
      rw [eventsBy_append_self, Knowledge.misled_append]
      rintro (wrong | ⟨result, brings, wrong⟩)
      · exact guarded.late unlisted nej late wrong
      · exact wrong (loaded_of_brings guarded watched ne allowed unlisted late brings)
    · rw [eventsBy_append_of_ne _ _ (Ne.symm same)]
      exact guarded.late unlisted nej late
  · rw [others]
    intro unlisted j number result nej late joined settled
    rw [early_append_of_unlisted unlisted] at late
    exact lateLoad_of_lookup guarded watched ne allowed unlisted nej late joined settled

end lookup

/-! ## The change -/

/-- A table that was changed can be reached. -/
theorem Deployment.reached_of_changes {world : World σ}
    (changes : (⟨q, (d.handler q world).1⟩ : Event).changes = true) : world.outage = none := by
  generalize replied : (d.handler q world).1 = reply at changes
  unfold Event.changes at changes
  split at changes
  · rename_i h
    cases h
    exact World.reached_of_change replied
  · rename_i h
    cases h
    exact World.reached_of_change replied
  · rename_i h
    cases h
    exact World.reached_of_change replied
  · cases changes

section change

variable (guarded : Guarded contents k m scene.trace scene.world)
  (allowed : mutation.upkeepAllows (eventsBy m scene.trace) q)

include guarded allowed

theorem unlisted_of_change
    (swept : (progress (eventsBy m
      (scene.trace ++ [(m, ⟨q, (d.handler q scene.world).1⟩)]))).swept = true) :
    (progress (eventsBy m (scene.trace ++ [(m, ⟨q, (d.handler q scene.world).1⟩)]))).unlisted =
      true := by
  rw [eventsBy_append_self, progress_append] at swept ⊢
  rw [Progress.unlisted_after_eq, Bool.or_eq_true]
  by_cases takes : q = .recorded
  · subst takes
    exact .inl allowed.1
  · rw [Progress.swept_after takes] at swept
    exact .inl (guarded.unlisted swept)

theorem changed_of_change (changes : mutation.IsChange)
    (unlisted : (progress (eventsBy m
      (scene.trace ++ [(m, ⟨q, (d.handler q scene.world).1⟩)]))).unlisted = true) :
    (progress (eventsBy m (scene.trace ++ [(m, ⟨q, (d.handler q scene.world).1⟩)]))).changed =
      true := by
  rw [eventsBy_append_self, progress_append] at unlisted ⊢
  rw [Progress.changed_after, Bool.or_eq_true]
  by_cases erases : q = .eraseCache .list
  · subst erases
    obtain rfl | changed := allowed
    · exact changes.elim
    · exact .inl changed
  · rw [Progress.unlisted_after erases] at unlisted
    exact .inl (guarded.changed unlisted)

theorem list_of_change (surely : d.cache.ErasesSurely)
    (unlisted : (progress (eventsBy m
      (scene.trace ++ [(m, ⟨q, (d.handler q scene.world).1⟩)]))).unlisted = true) {value : Cached}
    (held : contents.holds (d.handler q scene.world).2.cache .list value) :
    k.fits .list value := by
  rw [eventsBy_append_self, progress_append] at unlisted
  by_cases erases : q = .eraseCache .list
  · subst erases
    exact absurd held (contents.not_holds_erase (surely _ _))
  · rw [Progress.unlisted_after erases] at unlisted
    obtain old | ⟨seconds, rfl⟩ := Deployment.holds_of_holds_handler held
    · exact guarded.list unlisted old
    · exact allowed.elim

theorem entry_of_change (surely : d.cache.ErasesSurely) {path : String} {value : Cached}
    (held : contents.holds (d.handler q scene.world).2.cache (.single path) value) :
    EntryGuard k m (scene.trace ++ [(m, ⟨q, (d.handler q scene.world).1⟩)])
      (d.handler q scene.world).2.memo path value := by
  have own := (congrArg progress (eventsBy_append_self m scene.trace
    ⟨q, (d.handler q scene.world).1⟩)).trans (progress_append _ _)
  have erases : q ≠ .eraseCache (.single path) := by
    rintro rfl
    exact contents.not_holds_erase (surely _ _) held
  obtain old | ⟨seconds, rfl⟩ := Deployment.holds_of_holds_handler held
  · cases guarded.entry old with
    | right fits => exact .right fits
    | recorded early mem =>
      by_cases takes : q = .recorded
      · subst takes
        refine .due ?_
        rw [own]
        exact List.mem_append_right _ mem
      · refine .recorded ?_ ?_
        · rw [own, Progress.swept_after takes]
          exact early
        · refine Deployment.paths_handler_of_paths mem ?_ (allowed.ne_remember path)
          rintro rfl
          cases early.symm.trans allowed.1
    | due mem =>
      refine .due ?_
      rw [own]
      exact Progress.mem_due_after mem erases
    | owed nej debt wrong =>
      have others := eventsBy_append_of_ne scene.trace ⟨q, (d.handler q scene.world).1⟩
        (Ne.symm nej)
      exact .owed nej (others ▸ debt) (others ▸ wrong)
  · exact allowed.elim

/-- What the change asks for keeps everything accounted for. -/
theorem guarded_change (surely : d.cache.ErasesSurely) (changes : mutation.IsChange) :
    Guarded contents k m (scene.trace ++ [(m, ⟨q, (d.handler q scene.world).1⟩)])
      (d.handler q scene.world).2 := by
  have loads : (d.handler q scene.world).2.loads = scene.world.loads := by
    refine Deployment.loads_handler fun shares => ?_
    cases q <;> first | exact shares | exact allowed
  refine ⟨unlisted_of_change guarded allowed, changed_of_change guarded allowed changes, ?_,
    list_of_change guarded allowed surely, entry_of_change guarded allowed surely, ?_, ?_, ?_⟩
  · rw [eventsBy_append_self, progress_append, Progress.changed_after, Bool.or_eq_true,
      Deployment.outage_handler]
    rintro (changed | changes)
    · exact guarded.reached changed
    · exact Deployment.reached_of_changes changes
  · rw [loads]
    intro number result slot settled
    cases guarded.slot slot settled with
    | right loaded => exact .right loaded
    | joined nej joined wrong =>
      have others := eventsBy_append_of_ne scene.trace ⟨q, (d.handler q scene.world).1⟩
        (Ne.symm nej)
      exact .joined nej (others ▸ joined) (others ▸ wrong)
  · intro _ j nej late
    rw [eventsBy_append_of_ne _ _ (Ne.symm nej)]
    obtain nothing | ⟨unlisted, late⟩ := late_cases late
    · rw [nothing]
      rintro ⟨event, ⟨⟩, _⟩
    · exact guarded.late unlisted nej late
  · rw [loads]
    intro _ j number result nej late joined settled
    rw [eventsBy_append_of_ne _ _ (Ne.symm nej)] at joined
    obtain nothing | ⟨unlisted, late⟩ := late_cases late
    · rw [nothing] at joined
      cases joined
    · exact guarded.lateLoad unlisted nej late joined settled

end change

/-! ## Turns -/

/-- What a caller is about to ask for. -/
def Scene.asks (scene : Scene σ) (i : Nat) : Option Request :=
  match scene.callers[i]? with
  | some (.active (.ask q _) _) => some q
  | _ => none

/-- A turn keeps everything accounted for. -/
theorem Guarded.advance (guarded : Guarded contents k m scene.trace scene.world)
    (watched : scene.Watched k d operations m mutation) (surely : d.cache.ErasesSurely)
    (takesIn : ∀ q, scene.asks i = some q → contents.TakesIn q scene.world)
    (writes : ∀ value seconds, scene.asks i = some (.writeCache .list value seconds) →
      scene.MayWriteList k m i) :
    Guarded contents k m (scene.advance d i).trace (scene.advance d i).world := by
  have move := Scene.move_advance d scene i
  generalize scene.advance d i = after at move ⊢
  cases move with
  | stay => exact guarded
  | finish here => exact guarded
  | @answer q next leads here free =>
    by_cases same : i = m
    · subst same
      have changes := watched.amid.changes
      have allowed := (watched.keeps.allowed watched.amid.asked here).2 changes.not_isLookup
      exact guarded_change guarded allowed surely changes
    · obtain ⟨operation, asked⟩ := watched.keeps.exists_operation here
      have allowed := (watched.keeps.allowed asked here).1 (watched.amid.looks same asked)
      have asks : scene.asks i = some q := by
        rw [Scene.asks, here]
      refine guarded_lookup guarded watched same allowed (takesIn q asks) ?_
      rintro value seconds rfl
      exact writes value seconds asks

/-- A table that was changed stays as it is. -/
theorem Scene.KeepsTo.table_advance (keeps : scene.KeepsTo k d operations)
    (amid : Amid operations m mutation)
    (changed : (progress (eventsBy m scene.trace)).changed = true) :
    (progress (eventsBy m (scene.advance d i).trace)).changed = true ∧
      (scene.advance d i).world.table = scene.world.table := by
  have move := Scene.move_advance d scene i
  generalize scene.advance d i = after at move ⊢
  cases move with
  | stay => exact ⟨changed, rfl⟩
  | finish here => exact ⟨changed, rfl⟩
  | @answer q next leads here free =>
    by_cases same : i = m
    · subst same
      have allowed := (keeps.allowed amid.asked here).2 amid.changes.not_isLookup
      refine ⟨?_, Deployment.table_handler fun again => ?_⟩
      · rw [eventsBy_append_self, progress_append, Progress.changed_after, changed, Bool.true_or]
      -- the table is asked for the change by the first request only
      · have first : eventsBy i scene.trace = [] := by
          cases q <;> first | exact again.elim | exact allowed.2
        rw [first] at changed
        cases changed
    · obtain ⟨operation, asked⟩ := keeps.exists_operation here
      have allowed := (keeps.allowed asked here).1 (amid.looks same asked)
      refine ⟨?_, Deployment.table_handler fun again => ?_⟩
      · rw [eventsBy_append_of_ne _ _ same]
        exact changed
      · cases q <;> first | exact again | exact allowed

end GatewayRouting
