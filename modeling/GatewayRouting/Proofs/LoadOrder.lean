import GatewayRouting.Proofs.Shifts

/-!
# Shared loads in order

Four things hold of the stages of the callers, the slot and the loads, and what happens to one
caller keeps each of them. A load that is not over is in the slot (`Slotted`). It is run by one
caller at most, and is known to be run as long as it is (`Led`). Its result is what one caller has
loaded, once, and is what everybody has who has a result of it (`Resulted`). And a load with a
result leaves the slot before the one who has run it goes on (`Released`).

Of all that can happen, only four things have to be looked at: that a caller goes on without any
change of the loads, that it starts a load, that it changes the state of the load that it has its
turn with, and that it lets go of a load.
-/

namespace GatewayRouting

variable {σ : Type}

/-! ## What holds at every moment -/

/-- The slot holds the load that is not over. -/
structure Slotted (stage : Nat → Option Stage) (loads : SharedLoads) : Prop where
  /-- the slot holds a load that there is -/
  bound {number : Nat} (slot : loads.slot = some number) : number < loads.states.length
  /-- a load that is not in the slot is over -/
  slotted {number : Nat} (inside : number < loads.states.length) :
    loads.slot = some number ∨ ∃ result, loads.states[number]? = some (.settled result)
  /-- who waits, waits for a load that there is -/
  inside {i number : Nat} (was : stage i = some (.waiting number)) : number < loads.states.length

/-- A load is run by one caller at a time. -/
structure Led (stage : Nat → Option Stage) (loads : SharedLoads) : Prop where
  /-- a load that somebody runs is known to be run -/
  loading {i number : Nat} (was : stage i = some (.loading number)) :
    loads.states[number]? = some .running
  /-- nobody else runs it -/
  alone {i j number : Nat} (was : stage i = some (.loading number))
    (was' : stage j = some (.loading number)) : i = j
  /-- a load that is known to be run is run by somebody -/
  running {number : Nat} (runs : loads.states[number]? = some .running) :
    ∃ i, stage i = some (.loading number)

/-- A load has one result. -/
structure Resulted (stage : Nat → Option Stage) (loads : SharedLoads)
    (completed : Nat → List (Nat × Except StoreError (List Route))) : Prop where
  /-- who has a result has the one of the load -/
  result {i number : Nat} {now : Stage} {result : Except StoreError (List Route)}
    (was : stage i = some now) (has : now.result? = some (number, result)) :
    loads.states[number]? = some (.settled result)
  /-- the result of a load is what one caller has loaded, once -/
  complete {number : Nat} {result : Except StoreError (List Route)}
    (settled : loads.states[number]? = some (.settled result)) :
    ∃ j, completed number = [(j, result)]
  /-- until a load has a result, nothing was loaded to its end for it -/
  incomplete {number : Nat}
    (unsettled : ∀ result, loads.states[number]? ≠ some (.settled result)) :
    completed number = []

/-- A load with a result leaves the slot. -/
structure Released (stage : Nat → Option Stage) (loads : SharedLoads) : Prop where
  /-- as long as it is in the slot, the one who has run it is about to let go of it -/
  kept {number : Nat} {result : Except StoreError (List Route)}
    (slot : loads.slot = some number) (settled : loads.states[number]? = some (.settled result)) :
    ∃ i, stage i = some (.ending number result)
  /-- a load that somebody has let go of is not in the slot -/
  gone {i number : Nat} {result : Except StoreError (List Route)}
    (was : stage i = some (.left number result)) : loads.slot ≠ some number

/-- How the stages of the callers, the loads, and what was loaded for each of them go together. -/
structure Orderly (stage : Nat → Option Stage) (loads : SharedLoads)
    (completed : Nat → List (Nat × Except StoreError (List Route))) : Prop
    extends Slotted stage loads, Led stage loads, Resulted stage loads completed,
      Released stage loads

variable {i j : Nat} {stage after : Nat → Option Stage} {loads : SharedLoads}
  {completed completed' : Nat → List (Nat × Except StoreError (List Route))} {now : Stage}
  {next : Option Stage} {number other : Nat} {result : Except StoreError (List Route)}
  {state : LoadState}

/-- After one caller has changed, a stage is the one of that caller or was there before. -/
theorem Becomes.cases (becomes : Becomes stage after i next) (there : after j = some now) :
    (j = i ∧ next = some now) ∨ (j ≠ i ∧ stage j = some now) := by
  by_cases same : j = i
  · subst same
    exact .inl ⟨rfl, becomes.1.symm.trans there⟩
  · exact .inr ⟨same, (becomes.2 j same).symm.trans there⟩

/-- Who comes to no such stage was there before. -/
theorem Becomes.before (becomes : Becomes stage after i next) (there : after j = some now)
    (new : next ≠ some now) : stage j = some now := by
  obtain ⟨_, here⟩ | ⟨_, there⟩ := becomes.cases there
  · exact absurd here new
  · exact there

/-- Who was at another stage stays there. -/
theorem Becomes.stays {was : Stage} (becomes : Becomes stage after i next)
    (here : stage i = some was) (there : stage j = some now) (ne : was ≠ now) :
    after j = some now := by
  refine (becomes.2 j ?_).trans there
  rintro rfl
  exact ne (Option.some.inj (here.symm.trans there))

/-- Everything is in order while everybody arrives and there is no load yet. -/
theorem orderly_of_arriving
    (arriving : ∀ {i : Nat} {now : Stage}, stage i = some now → now = .arriving) :
    Orderly stage {} fun _ => [] where
  bound slot := nomatch slot
  slotted inside := absurd inside (Nat.not_lt_zero _)
  inside there := nomatch arriving there
  loading there := nomatch arriving there
  alone there := nomatch arriving there
  running runs := nomatch runs
  result there has := by
    obtain rfl := arriving there
    cases has
  complete settled := nomatch settled
  incomplete _ := rfl
  kept slot := nomatch slot
  gone there := nomatch arriving there

/-! ## Going on while the loads stay as they are -/

/-- The stages that a caller who waits can come to while the loads stay as they are: it waits for a
load that there is, or takes over a result that is there. -/
inductive Fits (loads : SharedLoads) : Stage → Prop where
  /-- it waits -/
  | waiting {number : Nat} (inside : number < loads.states.length) : Fits loads (.waiting number)
  /-- it takes over a result -/
  | following {number : Nat} {result : Except StoreError (List Route)}
    (settled : loads.states[number]? = some (.settled result)) :
    Fits loads (.following number result)

/-- Who neither runs a load nor has a result can come to such a stage, or be stopped. -/
theorem Orderly.wait (orderly : Orderly stage loads completed) (was : stage i = some now)
    (waits : now.Waits) (becomes : Becomes stage after i next)
    (fits : ∀ later, next = some later → Fits loads later) : Orderly after loads completed where
  bound := orderly.bound
  slotted := orderly.slotted
  inside there := by
    obtain ⟨_, here⟩ | ⟨_, there⟩ := becomes.cases there
    · cases fits _ here with
      | waiting inside => exact inside
    · exact orderly.inside there
  loading there := orderly.loading (becomes.before there fun here => nomatch fits _ here)
  alone there there' :=
    orderly.alone (becomes.before there fun here => nomatch fits _ here)
      (becomes.before there' fun here => nomatch fits _ here)
  running runs := by
    obtain ⟨j, there⟩ := orderly.running runs
    exact ⟨j, becomes.stays was there (by rintro rfl; exact waits)⟩
  result there has := by
    obtain ⟨_, here⟩ | ⟨_, there⟩ := becomes.cases there
    · cases fits _ here with
      | waiting inside => cases has
      | following settled =>
        cases has
        exact settled
    · exact orderly.result there has
  complete := orderly.complete
  incomplete := orderly.incomplete
  kept slot settled := by
    obtain ⟨j, there⟩ := orderly.kept slot settled
    exact ⟨j, becomes.stays was there (by rintro rfl; exact waits)⟩
  gone there := orderly.gone (becomes.before there fun here => nomatch fits _ here)

/-! ## Starting a load -/

namespace SharedLoads

/-- What is known of a load stays so when another one is started. -/
theorem getElem?_start (there : loads.states[number]? = some state) :
    (loads.states ++ [.idle])[number]? = some state := by
  rw [List.getElem?_append_left (List.getElem?_eq_some_iff.mp there).1, there]

/-- A load that was started has no other state. -/
theorem getElem?_of_start (there : (loads.states ++ [.idle])[number]? = some state)
    (ne : state ≠ .idle) : loads.states[number]? = some state := by
  rw [List.getElem?_append] at there
  split at there
  · exact there
  · rw [List.getElem?_singleton] at there
    split at there
    · exact absurd (Option.some.inj there).symm ne
    · cases there

end SharedLoads

open SharedLoads

theorem Slotted.start (slotted : Slotted stage loads) (empty : loads.slot = none)
    (becomes : Becomes stage after i (some (.waiting loads.states.length))) :
    Slotted after ⟨some loads.states.length, loads.states ++ [.idle]⟩ where
  bound := by
    rintro number ⟨⟩
    simp
  slotted := by
    intro number inside
    rw [List.length_append, List.length_singleton] at inside
    by_cases last : number = loads.states.length
    · exact .inl (congrArg some last.symm)
    · obtain slot | ⟨result, settled⟩ :=
        slotted.slotted (show number < loads.states.length by omega)
      · cases empty.symm.trans slot
      · exact .inr ⟨result, getElem?_start settled⟩
  inside := by
    intro j number there
    rw [List.length_append, List.length_singleton]
    obtain ⟨_, here⟩ | ⟨_, there⟩ := becomes.cases there
    · cases here
      omega
    · have inside := slotted.inside there
      omega

theorem Led.start (led : Led stage loads) (was : stage i = some .arriving)
    (becomes : Becomes stage after i (some (.waiting loads.states.length))) :
    Led after ⟨some loads.states.length, loads.states ++ [.idle]⟩ where
  loading there := getElem?_start (led.loading (becomes.before there (by rintro ⟨⟩)))
  alone there there' :=
    led.alone (becomes.before there (by rintro ⟨⟩)) (becomes.before there' (by rintro ⟨⟩))
  running runs := by
    obtain ⟨j, there⟩ := led.running (getElem?_of_start runs LoadState.noConfusion)
    exact ⟨j, becomes.stays was there Stage.noConfusion⟩

theorem Resulted.start (resulted : Resulted stage loads completed)
    (becomes : Becomes stage after i (some (.waiting loads.states.length))) :
    Resulted after ⟨some loads.states.length, loads.states ++ [.idle]⟩ completed where
  result there has := by
    obtain ⟨_, here⟩ | ⟨_, there⟩ := becomes.cases there
    · cases here
      cases has
    · exact getElem?_start (resulted.result there has)
  complete settled := resulted.complete (getElem?_of_start settled LoadState.noConfusion)
  incomplete unsettled :=
    resulted.incomplete fun result settled => unsettled result (getElem?_start settled)

/-- Who arrives and finds nothing in the slot starts a load there. -/
theorem Orderly.start (orderly : Orderly stage loads completed) (was : stage i = some .arriving)
    (empty : loads.slot = none)
    (becomes : Becomes stage after i (some (.waiting loads.states.length))) :
    Orderly after ⟨some loads.states.length, loads.states ++ [.idle]⟩ completed where
  toSlotted := orderly.toSlotted.start empty becomes
  toLed := orderly.toLed.start was becomes
  toResulted := orderly.toResulted.start becomes
  kept := by
    rintro number result ⟨⟩ settled
    have old := getElem?_of_start settled LoadState.noConfusion
    have inside := (List.getElem?_eq_some_iff.mp old).1
    omega
  gone := by
    rintro j number result there ⟨⟩
    have old := orderly.result (becomes.before there (by rintro ⟨⟩)) rfl
    have inside := (List.getElem?_eq_some_iff.mp old).1
    omega

/-- Who arrives joins the load in the slot, or starts another one there. -/
theorem Orderly.join (orderly : Orderly stage loads completed) (was : stage i = some .arriving)
    (becomes : Becomes stage after i (some (.waiting loads.join.1))) :
    Orderly after loads.join.2 completed := by
  cases slot : loads.slot with
  | some number =>
    rw [join_of_slot slot] at becomes ⊢
    refine orderly.wait was trivial becomes ?_
    rintro _ ⟨⟩
    exact .waiting (orderly.bound slot)
  | none =>
    rw [join_of_empty slot] at becomes ⊢
    exact orderly.start was slot becomes

/-! ## Having one's turn with a load -/

/-- A caller has its turn with a load that is not over, and nobody else runs it. -/
structure HasTurn (stage : Nat → Option Stage) (loads : SharedLoads) (i number : Nat)
    (now : Stage) : Prop where
  /-- the stage of the caller -/
  was : stage i = some now
  /-- it has joined the load -/
  joined : now.number? = some number
  /-- it has no result -/
  early : now.result? = none
  /-- there is the load -/
  inside : number < loads.states.length
  /-- nor has the load a result -/
  unsettled (result : Except StoreError (List Route)) :
    loads.states[number]? ≠ some (.settled result)
  /-- nobody else runs it -/
  only {j : Nat} (runs : stage j = some (.loading number)) : j = i

/-- What comes of the turn: the stage of the caller, the state of the load, and what was loaded. -/
inductive Turned (i number : Nat)
    (completed : Nat → List (Nat × Except StoreError (List Route))) :
    Option Stage → LoadState → (Nat → List (Nat × Except StoreError (List Route))) → Prop where
  /-- the caller runs the load -/
  | lead : Turned i number completed (some (.loading number)) .running completed
  /-- the caller has run it to its end -/
  | settle (result : Except StoreError (List Route)) :
    Turned i number completed (some (.ending number result)) (.settled result)
      fun other => completed other ++ if other = number then [(i, result)] else []
  /-- the caller has given it up -/
  | abandon : Turned i number completed none .idle completed

/-- Only of the load itself something more can have been loaded to its end. -/
theorem Turned.completed_eq (turned : Turned i number completed next state completed')
    (ne : other ≠ number) : completed' other = completed other := by
  cases turned with
  | settle result => simp [ne]
  | _ => rfl

section

variable (has : HasTurn stage loads i number now) (becomes : Becomes stage after i next)
  (turned : Turned i number completed next state completed')

include has

/-- The load has the new state. -/
theorem HasTurn.here : (loads.states.set number state)[number]? = some state :=
  List.getElem?_set_self has.inside

include becomes turned

theorem Slotted.turn (slotted : Slotted stage loads) :
    Slotted after { loads with states := loads.states.set number state } where
  bound slot := by
    rw [List.length_set]
    exact slotted.bound slot
  slotted := by
    intro other within
    rw [List.length_set] at within
    by_cases same : other = number
    · subst same
      obtain slot | ⟨result, settled⟩ := slotted.slotted within
      · exact .inl slot
      · exact absurd settled (has.unsettled result)
    · rw [List.getElem?_set_ne (Ne.symm same)]
      exact slotted.slotted within
  inside there := by
    rw [List.length_set]
    refine slotted.inside (becomes.before there ?_)
    rintro rfl
    cases turned

theorem Led.turn (led : Led stage loads) :
    Led after { loads with states := loads.states.set number state } where
  loading := by
    intro j other there
    obtain ⟨_, rfl⟩ | ⟨ne, there⟩ := becomes.cases there
    · cases turned
      exact has.here
    · -- who runs the load that has changed is the one who has changed
      have away : other ≠ number := by
        rintro rfl
        exact ne (has.only there)
      rw [List.getElem?_set_ne (Ne.symm away)]
      exact led.loading there
  alone := by
    intro j k other there there'
    obtain ⟨rfl, rfl⟩ | ⟨_, there⟩ := becomes.cases there
    · cases turned
      obtain ⟨rfl, _⟩ | ⟨_, there'⟩ := becomes.cases there'
      · rfl
      · exact (has.only there').symm
    · obtain ⟨rfl, rfl⟩ | ⟨_, there'⟩ := becomes.cases there'
      · cases turned
        exact has.only there
      · exact led.alone there there'
  running := by
    intro other runs
    by_cases same : other = number
    · subst same
      rw [has.here] at runs
      cases Option.some.inj runs
      cases turned
      exact ⟨i, becomes.1⟩
    · rw [List.getElem?_set_ne (Ne.symm same)] at runs
      obtain ⟨j, there⟩ := led.running runs
      refine ⟨j, becomes.stays has.was there ?_⟩
      rintro rfl
      exact same (Option.some.inj has.joined)

theorem Resulted.turn (resulted : Resulted stage loads completed) :
    Resulted after { loads with states := loads.states.set number state } completed' where
  result := by
    intro j other later result there holds
    obtain ⟨_, rfl⟩ | ⟨_, there⟩ := becomes.cases there
    · cases turned with
      | lead => cases holds
      | settle result =>
        cases holds
        exact has.here
    · -- a load that somebody has a result of is over, and so is not the one that has changed
      have settled := resulted.result there holds
      have away : other ≠ number := by
        rintro rfl
        exact has.unsettled result settled
      rw [List.getElem?_set_ne (Ne.symm away)]
      exact settled
  complete := by
    intro other result settled
    by_cases same : other = number
    · subst same
      rw [has.here] at settled
      cases Option.some.inj settled
      cases turned
      exact ⟨i, by simp [resulted.incomplete has.unsettled]⟩
    · rw [List.getElem?_set_ne (Ne.symm same)] at settled
      rw [turned.completed_eq same]
      exact resulted.complete settled
  incomplete := by
    intro other unsettled
    by_cases same : other = number
    · subst same
      cases turned with
      | lead => exact resulted.incomplete has.unsettled
      | settle result => exact absurd has.here (unsettled result)
      | abandon => exact resulted.incomplete has.unsettled
    · rw [List.getElem?_set_ne (Ne.symm same)] at unsettled
      rw [turned.completed_eq same]
      exact resulted.incomplete unsettled

theorem Released.turn (released : Released stage loads) :
    Released after { loads with states := loads.states.set number state } where
  kept := by
    intro other result slot settled
    by_cases same : other = number
    · subst same
      rw [has.here] at settled
      cases Option.some.inj settled
      cases turned
      exact ⟨i, becomes.1⟩
    · rw [List.getElem?_set_ne (Ne.symm same)] at settled
      obtain ⟨j, there⟩ := released.kept slot settled
      refine ⟨j, becomes.stays has.was there ?_⟩
      rintro rfl
      cases has.early
  gone there := by
    refine released.gone (becomes.before there ?_)
    rintro rfl
    cases turned

/-- A load that is not over can be run, or run to its end, or given up, by a caller who is the only
one to run it. -/
theorem Orderly.turn (orderly : Orderly stage loads completed) :
    Orderly after { loads with states := loads.states.set number state } completed' where
  toSlotted := orderly.toSlotted.turn has becomes turned
  toLed := orderly.toLed.turn has becomes turned
  toResulted := orderly.toResulted.turn has becomes turned
  toReleased := orderly.toReleased.turn has becomes turned

end

/-- Who waits for a load that nobody runs and that has no result has its turn with it. -/
theorem Orderly.hasTurn_of_waiting (orderly : Orderly stage loads completed)
    (was : stage i = some (.waiting number)) (free : loads.isRunning number = false)
    (unsettled : ∀ result, loads.states[number]? ≠ some (.settled result)) :
    HasTurn stage loads i number (.waiting number) where
  was := was
  joined := rfl
  early := rfl
  inside := orderly.inside was
  unsettled := unsettled
  only runs := by
    rw [isRunning, orderly.loading runs] at free
    cases free

/-- Who runs a load has its turn with it. -/
theorem Orderly.hasTurn_of_loading (orderly : Orderly stage loads completed)
    (was : stage i = some (.loading number)) : HasTurn stage loads i number (.loading number) where
  was := was
  joined := rfl
  early := rfl
  inside := (List.getElem?_eq_some_iff.mp (orderly.loading was)).1
  unsettled result settled := by cases (orderly.loading was).symm.trans settled
  only runs := orderly.alone runs was

/-! ## Letting go of a load -/

section

variable (was : stage i = some (.ending number result) ∨ stage i = some (.following number result))
  (becomes : Becomes stage after i (some (.left number result)))

include becomes

theorem Slotted.release (slotted : Slotted stage loads)
    (settled : loads.states[number]? = some (.settled result)) :
    Slotted after (loads.release number) where
  bound slot := by
    rw [states_release]
    exact slotted.bound (slot_of_slot_release slot).1
  slotted := by
    intro other inside
    rw [states_release] at inside ⊢
    by_cases same : other = number
    · subst same
      exact .inr ⟨result, settled⟩
    · obtain slot | ended := slotted.slotted inside
      · exact .inl (slot_release_of_ne slot same)
      · exact .inr ended
  inside there := by
    rw [states_release]
    exact slotted.inside (becomes.before there (by rintro ⟨⟩))

theorem Resulted.release (resulted : Resulted stage loads completed)
    (settled : loads.states[number]? = some (.settled result)) :
    Resulted after (loads.release number) completed where
  result there has := by
    rw [states_release]
    obtain ⟨_, here⟩ | ⟨_, there⟩ := becomes.cases there
    · cases here
      cases has
      exact settled
    · exact resulted.result there has
  complete settled := by
    rw [states_release] at settled
    exact resulted.complete settled
  incomplete unsettled := by
    rw [states_release] at unsettled
    exact resulted.incomplete unsettled

include was

/-- Who was at another stage, or at a stage of another load, is somebody else. -/
theorem stays_release {later : Stage} (there : stage j = some later)
    (ne : later ≠ .ending number result) (ne' : later ≠ .following number result) :
    after j = some later := by
  obtain was | was := was
  · exact becomes.stays was there (Ne.symm ne)
  · exact becomes.stays was there (Ne.symm ne')

theorem Led.release (led : Led stage loads) : Led after (loads.release number) where
  loading there := by
    rw [states_release]
    exact led.loading (becomes.before there (by rintro ⟨⟩))
  alone there there' :=
    led.alone (becomes.before there (by rintro ⟨⟩)) (becomes.before there' (by rintro ⟨⟩))
  running runs := by
    rw [states_release] at runs
    obtain ⟨j, there⟩ := led.running runs
    exact ⟨j, stays_release was becomes there Stage.noConfusion Stage.noConfusion⟩

theorem Released.release (released : Released stage loads) :
    Released after (loads.release number) where
  kept := by
    intro other result slot settled
    rw [states_release] at settled
    obtain ⟨slot, ne⟩ := slot_of_slot_release slot
    obtain ⟨j, there⟩ := released.kept slot settled
    refine ⟨j, stays_release was becomes there ?_ Stage.noConfusion⟩
    rintro ⟨⟩
    exact ne rfl
  gone := by
    intro j other result there slot
    obtain ⟨slot, ne⟩ := slot_of_slot_release slot
    obtain ⟨_, here⟩ | ⟨_, there⟩ := becomes.cases there
    · cases here
      exact ne rfl
    · exact released.gone there slot

/-- Who has a result lets go of its load, which is in the slot no more. -/
theorem Orderly.release (orderly : Orderly stage loads completed) :
    Orderly after (loads.release number) completed := by
  have settled : loads.states[number]? = some (.settled result) := by
    obtain was | was := was
    · exact orderly.result was rfl
    · exact orderly.result was rfl
  exact ⟨orderly.toSlotted.release becomes settled, orderly.toLed.release was becomes,
    orderly.toResulted.release becomes settled, orderly.toReleased.release was becomes⟩

end

/-! ## Incidents -/

/-- Whatever shifts, everything stays in order. -/
theorem Orderly.shift {scene after : Scene σ}
    (orderly : Orderly scene.stage scene.world.loads (completions · scene.trace))
    (shift : scene.Shift after) :
    Orderly after.stage after.world.loads (completions · after.trace) := by
  have silent (completes : scene.CompletesNothing after) :
      (completions · after.trace) = (completions · scene.trace) := funext completes
  cases shift with
  | keep stage loads completes =>
    rw [stage, loads, silent completes]
    exact orderly
  | join was now loads completes =>
    rw [loads, silent completes]
    exact orderly.join was now
  | lead was free turn now loads completes =>
    obtain ⟨unsettled, runs⟩ := takeTurn_of_lead turn
    rw [loads, silent completes, runs]
    exact orderly.turn (orderly.hasTurn_of_waiting was free unsettled) now .lead
  | follow was turn now loads completes =>
    rw [loads, silent completes, takeTurn_of_follow turn]
    refine orderly.wait was trivial now ?_
    rintro _ ⟨⟩
    exact .following (settled_of_takeTurn turn)
  | settle was now loads completes =>
    rw [loads, funext completes]
    exact orderly.turn (orderly.hasTurn_of_loading was) now (.settle _)
  | release was now loads completes =>
    rw [loads, silent completes]
    exact orderly.release was now
  | @stop i stage was waits now loads completes =>
    rw [loads, silent completes]
    cases stage with
    | arriving =>
      refine orderly.wait was trivial now ?_
      rintro _ ⟨⟩
    | waiting number =>
      refine orderly.wait was trivial now ?_
      rintro _ ⟨⟩
    | loading number => exact orderly.turn (orderly.hasTurn_of_loading was) now .abandon
    | ending number result => cases waits
    | following number result => cases waits
    | left number result => cases waits

end GatewayRouting
