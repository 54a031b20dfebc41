import GatewayRouting.Proofs.OneLoad

/-!
# Results that are shared

Everybody who has joined a load ends with the same result, which is what one of them has loaded. The
result goes to nobody else: by the time that somebody has left a load, nobody can join it any more,
and as soon as the one who has run it has let go, the slot does not hold it, be it a list or a
failure. And nobody waits for nothing: who waits for a load that is being run waits for somebody who
can go on, and who waits for one that is not being run any more gets to run it.
-/

namespace GatewayRouting

variable {σ : Type}

namespace Scene

/-- A caller has joined a load. -/
def Joined (scene : Scene σ) (i number : Nat) : Prop :=
  ⟨.joinLoad, number⟩ ∈ eventsBy i scene.trace

/-- One caller alone has loaded something to its end for a load: its own program ended with it, in
between having its turn with the load and settling it. -/
def LoadedOnce (fetches : List (Program (Except StoreError (List Route)))) (scene : Scene σ)
    (number : Nat) (result : Except StoreError (List Route)) : Prop :=
  ∃ j fetch before after, completions number scene.trace = [(j, result)] ∧
    fetches[j]? = some fetch ∧
    eventsBy j scene.trace = before ++ ⟨.settleLoad number result, ()⟩ :: after ∧
    HasLoaded fetch number result before

variable {d : Deployment σ} {scene : Scene σ} {i j number other : Nat}
  {fetches : List (Program (Except StoreError (List Route)))}
  {result : Except StoreError (List Route)} {answer : Answer} {incident : Incident}

/-! ## Sharing -/

/-- Who is among those who have loaded something has settled the load with it. -/
theorem settled_of_mem_completions (mem : (j, result) ∈ completions number scene.trace) :
    ⟨.settleLoad number result, ()⟩ ∈ eventsBy j scene.trace := by
  obtain ⟨⟨k, event⟩, there, same⟩ := List.mem_filterMap.mp mem
  obtain ⟨loaded, completes, same⟩ := Option.map_eq_some_iff.mp same
  cases same
  obtain rfl := Event.completes_eq_some.mp completes
  exact List.mem_map.mpr ⟨_, List.mem_filter.mpr ⟨there, beq_self_eq_true _⟩, rfl⟩

/-- The result of a load is what one caller has loaded. -/
theorem Gathered.loadedOnce (gathered : scene.Gathered d fetches)
    (settled : scene.world.loads.states[number]? = some (.settled result)) :
    scene.LoadedOnce fetches number result := by
  obtain ⟨j, once⟩ := gathered.orderly.complete settled
  have mem : ⟨.settleLoad number result, ()⟩ ∈ eventsBy j scene.trace :=
    settled_of_mem_completions (once ▸ List.mem_singleton_self _)
  obtain ⟨fetch, given⟩ := gathered.gathers.given (List.ne_nil_of_mem mem)
  obtain ⟨before, after, events, loaded⟩ := (gathered.gathers.ordered given).settled mem
  exact ⟨j, fetch, before, after, once, given, events, loaded⟩

/-- Who has come to its end has left the load that it has joined. -/
theorem Gathered.left_of_finished (gathered : scene.Gathered d fetches)
    (here : scene.callers[i]? = some (.finished answer)) :
    ∃ number result, answer = .routes result ∧ scene.stage i = some (.left number result) ∧
      ∀ other, scene.Joined i other ↔ other = number := by
  obtain ⟨number, result, stage, rfl⟩ := gathered.gathers.finished here
  obtain ⟨fetch, given⟩ := gathered.gathers.exists_fetch here
  refine ⟨number, result, rfl, ?_, fun other => ?_⟩
  · rw [Scene.stage, here]
    exact congrArg some stage
  · rw [Joined, (gathered.gathers.ordered given).joined, stage]
    exact ⟨fun same => (Option.some.inj same).symm, fun same => same ▸ rfl⟩

/-! ## Letting go -/

/-- A load that somebody has left stays left by it. -/
theorem Shift.left_stays {after : Scene σ} (shift : scene.Shift after)
    (here : scene.stage i = some (.left number result)) :
    after.stage i = some (.left number result) := by
  cases shift with
  | keep stage loads completes => rw [stage, here]
  | join was now loads completes => exact now.stays was here Stage.noConfusion
  | lead was free turn now loads completes => exact now.stays was here Stage.noConfusion
  | follow was turn now loads completes => exact now.stays was here Stage.noConfusion
  | settle was now loads completes => exact now.stays was here Stage.noConfusion
  | release was now loads completes =>
    obtain was | was := was
    · exact now.stays was here Stage.noConfusion
    · exact now.stays was here Stage.noConfusion
  | stop was waits now loads completes =>
    refine now.stays was here ?_
    rintro rfl
    cases waits

/-- Who joins a load joins the one in the slot, or a new one. -/
theorem joined_meet (joined : (scene.meet d incident).Joined j other) :
    scene.Joined j other ∨ other = scene.world.loads.join.1 := by
  cases incident with
  | stop i =>
    obtain same | ⟨q, next, leads, here, waits, halted⟩ := halt_cases scene i
    · rw [meet, same] at joined
      exact .inl joined
    · rw [meet, halted] at joined
      exact .inl joined
  | turn i =>
    have move := move_advance d scene i
    rw [meet] at joined
    generalize scene.advance d i = after at move joined
    cases move with
    | stay => exact .inl joined
    | finish here => exact .inl joined
    | @answer q next leads here free =>
      by_cases same : j = i
      · subst same
        rw [Joined, eventsBy_append_self] at joined
        obtain old | new := List.mem_append.mp joined
        · exact .inl old
        · cases List.mem_singleton.mp new
          exact .inr rfl
      · rw [Joined, eventsBy_append_of_ne _ _ (Ne.symm same)] at joined
        exact .inl joined

/-- A load that somebody has left is neither in the slot nor new. -/
theorem Gathered.join_ne (gathered : scene.Gathered d fetches)
    (here : scene.stage i = some (.left number result)) : scene.world.loads.join.1 ≠ number := by
  cases slot : scene.world.loads.slot with
  | some other =>
    rw [SharedLoads.join_of_slot slot]
    rintro rfl
    exact gathered.orderly.gone here slot
  | none =>
    rw [SharedLoads.join_of_empty slot]
    have inside := (List.getElem?_eq_some_iff.mp (gathered.orderly.result here rfl)).1
    omega

/-- Who has not joined a load that somebody has left will not join it. -/
theorem Gathered.not_joined_run (gathered : scene.Gathered d fetches)
    (here : scene.stage i = some (.left number result)) (apart : ¬ scene.Joined j number)
    (incidents : List Incident) : ¬ (scene.run d incidents).Joined j number := by
  induction incidents generalizing scene with
  | nil => exact apart
  | cons incident incidents ih =>
    refine ih (gathered.meet incident) ((gathered.gathers.shift incident).left_stays here) ?_
    intro joined
    obtain old | new := joined_meet joined
    · exact apart old
    · exact gathered.join_ne here new.symm

/-! ## Going on -/

/-- Who is under way has something to go on with. -/
theorem exists_active (here : scene.underWay i = true) :
    ∃ program leads, scene.callers[i]? = some (.active program leads) := by
  rw [underWay, Option.any_eq_true] at here
  obtain ⟨caller, there, active⟩ := here
  cases caller with
  | active program leads => exact ⟨program, leads, there⟩
  | finished value => cases active
  | stopped => cases active

/-- A request that does not have to wait is answered. -/
theorem advance_ne_of_free {q : Request} {next : q.Reply → Program Answer} {leads : Option Nat}
    (here : scene.callers[i]? = some (.active (.ask q next) leads))
    (free : scene.world.blocks q = false) : scene.advance d i ≠ scene := by
  intro same
  have longer : (scene.advance d i).trace.length = scene.trace.length + 1 := by
    simp [advance, here, free]
  rw [same] at longer
  omega

/-- Who has nothing more to ask for comes to its end. -/
theorem advance_ne_of_done {leads : Option Nat}
    (here : scene.callers[i]? = some (.active (.done answer) leads)) :
    scene.advance d i ≠ scene := by
  intro same
  have inside : i < scene.callers.length := (List.getElem?_eq_some_iff.mp here).1
  have finished : (scene.advance d i).callers[i]? = some (.finished answer) := by
    rw [advance, here]
    exact List.getElem?_set_self inside
  rw [same, here] at finished
  cases finished

/-- Whose turn it is goes on, unless it waits for a load that is being run. -/
theorem Gathers.goes_on_or_waits (gathers : scene.Gathers d fetches)
    (here : scene.underWay i = true) :
    scene.advance d i ≠ scene ∨
      ∃ number, scene.stage i = some (.waiting number) ∧
        scene.world.loads.states[number]? = some .running := by
  obtain ⟨program, leads, there⟩ := exists_active here
  cases program with
  | done answer => exact .inl (advance_ne_of_done there)
  | ask q next =>
    cases blocks : scene.world.blocks q with
    | false => exact .inl (advance_ne_of_free there blocks)
    | true =>
      -- only a turn with a load is waited for
      cases q with
      | awaitLoad number =>
        obtain ⟨fetch, given⟩ := gathers.exists_fetch there
        have past : eventsBy i scene.trace = [⟨.joinLoad, number⟩] :=
          (gathers.active given there).1.1
        refine .inr ⟨number, ?_, SharedLoads.running_of_isRunning blocks⟩
        rw [stage_of_active there, past]
        rfl
      | _ => cases blocks

/-- Who has not left its load yet is under way. -/
theorem Gathers.exists_active_of_stage {stage : Stage} (gathers : scene.Gathers d fetches)
    (here : scene.stage i = some stage) (stays : ∀ number result, stage ≠ .left number result) :
    ∃ program leads, scene.callers[i]? = some (.active program leads) ∧
      stageOf (eventsBy i scene.trace) = stage := by
  rw [Scene.stage] at here
  split at here
  · rename_i program leads there
    exact ⟨program, leads, there, Option.some.inj here⟩
  · rename_i answer there
    obtain ⟨number, result, left, _⟩ := gathers.finished there
    exact absurd ((Option.some.inj here).symm.trans left) (stays number result)
  · cases here

/-- Who loads goes on. -/
theorem Gathers.advance_ne_of_loading (gathers : scene.Gathers d fetches)
    (here : scene.stage i = some (.loading number)) : scene.advance d i ≠ scene := by
  obtain ⟨program, leads, there, _⟩ :=
    gathers.exists_active_of_stage here fun _ _ => Stage.noConfusion
  have under : scene.underWay i = true := by
    rw [underWay, there]
    rfl
  obtain goes | ⟨other, waits, _⟩ := gathers.goes_on_or_waits under
  · exact goes
  · cases here.symm.trans waits

/-- Who waits asks for its turn with the load that it has joined. -/
theorem await_of_waiting {fetch : Program (Except StoreError (List Route))} {past : List Event}
    {q : Request} (allowed : loadAllows fetch past q) (stage : stageOf past = .waiting number) :
    q = .awaitLoad number := by
  cases loadRequest_of_allowed allowed with
  | join => cases stage
  | await =>
    cases stage
    rfl
  | settle loads loaded => cases stage.symm.trans loads
  | release ends => obtain ends | ends := ends <;> cases stage.symm.trans ends
  | apart apart loads => cases stage.symm.trans loads

/-- The stage after a turn in which a request is answered. -/
theorem stage_advance {q : Request} {next : q.Reply → Program Answer} {leads : Option Nat}
    (here : scene.callers[i]? = some (.active (.ask q next) leads))
    (free : scene.world.blocks q = false) :
    (scene.advance d i).stage i =
      some (stageOf (eventsBy i scene.trace ++ [⟨q, (d.handler q scene.world).1⟩])) := by
  rw [advance, here]
  dsimp only
  rw [if_neg (Bool.eq_false_iff.mp free)]
  exact (becomes_answer here).1

/-- Who waits for a load that nobody runs gets to run it, or takes over its result. -/
theorem Gathered.takes_turn (gathered : scene.Gathered d fetches)
    (here : scene.stage i = some (.waiting number))
    (nobody : ∀ j, scene.stage j ≠ some (.loading number)) :
    (scene.advance d i).stage i = some (.loading number) ∨
      ∃ result, (scene.advance d i).stage i = some (.following number result) := by
  obtain ⟨program, leads, there, stage⟩ :=
    gathered.gathers.exists_active_of_stage here fun _ _ => Stage.noConfusion
  obtain ⟨fetch, given⟩ := gathered.gathers.exists_fetch there
  have keeps := (gathered.gathers.active given there).1
  cases program with
  | done answer =>
    obtain ⟨_, _, left, _⟩ := keeps
    cases stage.symm.trans left
  | ask q next =>
    obtain rfl := await_of_waiting keeps.1 stage
    have free : scene.world.blocks (.awaitLoad number) = false := by
      refine Bool.eq_false_iff.mpr fun runs => ?_
      obtain ⟨j, loads⟩ := gathered.orderly.running (SharedLoads.running_of_isRunning runs)
      exact nobody j loads
    rw [stage_advance there free, stageOf_append, stage]
    cases (d.handler (.awaitLoad number) scene.world).1 with
    | lead => exact .inl rfl
    | follow result => exact .inr ⟨result, rfl⟩

/-- Who waits for a load that is being run waits for somebody who goes on. -/
theorem Gathered.somebody_goes_on (gathered : scene.Gathered d fetches)
    (here : scene.underWay i = true) :
    scene.advance d i ≠ scene ∨
      ∃ number j, scene.stage i = some (.waiting number) ∧ scene.stage j = some (.loading number) ∧
        scene.advance d j ≠ scene := by
  obtain goes | ⟨number, waits, runs⟩ := gathered.gathers.goes_on_or_waits here
  · exact .inl goes
  · obtain ⟨j, loads⟩ := gathered.orderly.running runs
    exact .inr ⟨number, j, waits, loads, gathered.gathers.advance_ne_of_loading loads⟩

end Scene

/-- **Results are shared, and then let go of.** Any callers share what they load, where loading does
not itself share loads. They take turns in any order, and are stopped wherever they wait.

Who comes to its end does so with the result, be it a list or a failure, of the only run of the load
that it has joined, so all who have joined a load end with the same. Who begins when somebody has
come to its end joins another load. When nobody who has run a load is about to let go of it, then
the load in the slot, if there is one, has no result. Whoever is under way can go on, or else waits
for a load that somebody runs who can go on; and who waits for a load that nobody runs has its
turn. -/
theorem results_shared_then_released (d : Deployment σ)
    (fetches : List (Program (Except StoreError (List Route))))
    (apart : ∀ fetch ∈ fetches, fetch.Asks fun q => ¬ q.SharesLoad) (world : World σ)
    (fresh : world.loads = {}) (before after : List Incident) :
    let middle := (Scene.gathering fetches world).run d before
    let scene := middle.run d after
    (∀ (i : Nat) answer, scene.callers[i]? = some (.finished answer) →
      ∃ number result, answer = .routes result ∧
        (∀ other, scene.Joined i other ↔ other = number) ∧
        scene.LoadedOnce fetches number result) ∧
    (∀ (i j : Nat) number result result', scene.callers[i]? = some (.finished (.routes result)) →
      scene.callers[j]? = some (.finished (.routes result')) → scene.Joined i number →
      scene.Joined j number → result = result') ∧
    (∀ (i j : Nat) answer number, middle.callers[i]? = some (.finished answer) →
      middle.Joined i number → eventsBy j middle.trace = [] → ¬ scene.Joined j number) ∧
    ((∀ i number result, scene.stage i ≠ some (.ending number result)) →
      ∀ number, scene.world.loads.slot = some number →
        ∀ result, scene.world.loads.states[number]? ≠ some (.settled result)) ∧
    (∀ i, scene.underWay i = true → scene.advance d i ≠ scene ∨
      ∃ number j, scene.stage i = some (.waiting number) ∧
        scene.stage j = some (.loading number) ∧ scene.advance d j ≠ scene) ∧
    ∀ i number, scene.stage i = some (.waiting number) →
      (∀ j, scene.stage j ≠ some (.loading number)) →
      (scene.advance d i).stage i = some (.loading number) ∨
        ∃ result, (scene.advance d i).stage i = some (.following number result) := by
  intro middle scene
  have amid : middle.Gathered d fetches := (Scene.gathered_gathering apart fresh).run before
  have gathered : scene.Gathered d fetches := amid.run after
  refine ⟨?_, ?_, ?_, ?_, fun i => gathered.somebody_goes_on, fun i number => gathered.takes_turn⟩
  · intro i answer here
    obtain ⟨number, result, rfl, left, joined⟩ := gathered.left_of_finished here
    exact ⟨number, result, rfl, joined, gathered.loadedOnce (gathered.orderly.result left rfl)⟩
  · -- both have the result of the one load that they have joined
    intro i j number result result' here there joined joined'
    obtain ⟨_, _, ⟨⟩, left, only⟩ := gathered.left_of_finished here
    obtain ⟨_, _, ⟨⟩, left', only'⟩ := gathered.left_of_finished there
    obtain rfl := (only number).mp joined
    obtain rfl := (only' number).mp joined'
    have settled := gathered.orderly.result left rfl
    cases settled.symm.trans (gathered.orderly.result left' rfl)
    rfl
  · intro i j answer number here joined silent
    obtain ⟨_, _, _, left, only⟩ := amid.left_of_finished here
    obtain rfl := (only number).mp joined
    refine amid.not_joined_run left (fun early => ?_) after
    rw [Scene.Joined, silent] at early
    cases early
  · intro nobody number slot result settled
    obtain ⟨i, ends⟩ := gathered.orderly.kept slot settled
    exact nobody i number result ends

/-- Three callers join a load. The first of them runs it and is stopped, the second takes over, and
since the table is out of reach it ends with a failure. -/
def failsAfterTakeover : List Incident :=
  [.turn 0, .turn 1, .turn 2, .turn 0, .stop 0] ++ List.replicate 6 (.turn 1)

/-- Then the third comes to its end, and another begins. -/
def followedByAnother : List Incident :=
  [.turn 2, .turn 2, .turn 2, .turn 3, .turn 3]

/-- The scene after some incidents while the table is out of reach. -/
def loadsInOutage (incidents : List Incident) : Scene (Entries Cached) :=
  (Scene.gathering (loaders 4)
    { World.start (.single (userRoute "http://old")) [] (.empty 100 1000) with
      outage := some "away" }).run (plainDeployment true) incidents

/-- The failure is what was loaded for the third caller too, and it was loaded once. The one who
begins later does not get it: it runs another load, which has no result, and can go on. -/
theorem failure_shared_once :
    (loadsInOutage (failsAfterTakeover ++ followedByAnother)).callers[2]? =
        some (.finished (.routes (.error (.unavailable "away")))) ∧
      (loadsInOutage (failsAfterTakeover ++ followedByAnother)).LoadedOnce (loaders 4) 0
        (.error (.unavailable "away")) ∧
      ¬ (loadsInOutage (failsAfterTakeover ++ followedByAnother)).Joined 3 0 ∧
      (loadsInOutage (failsAfterTakeover ++ followedByAnother)).world.loads.slot = some 1 ∧
      (∀ result, (loadsInOutage
        (failsAfterTakeover ++ followedByAnother)).world.loads.states[1]? ≠
          some (.settled result)) := by
  obtain ⟨ended, _, apart, free, _⟩ := results_shared_then_released (plainDeployment true)
    (loaders 4) (loaders_apart 4)
    { World.start (.single (userRoute "http://old")) [] (.empty 100 1000) with
      outage := some "away" }
    rfl failsAfterTakeover followedByAnother
  have here : (loadsInOutage (failsAfterTakeover ++ followedByAnother)).callers[2]? =
      some (.finished (.routes (.error (.unavailable "away")))) := rfl
  obtain ⟨number, result, ⟨⟩, joined, once⟩ := ended 2 _ here
  obtain rfl := (joined 0).mp List.mem_cons_self
  have nobody (i number : Nat) (result : Except StoreError (List Route)) :
      (loadsInOutage (failsAfterTakeover ++ followedByAnother)).stage i ≠
        some (.ending number result) := by
    match i with
    | 0 | 1 | 2 | 3 => exact nofun
    | _ + 4 => exact nofun
  exact ⟨here, once, apart 1 3 _ 0 rfl List.mem_cons_self rfl, rfl, free nobody 1 rfl⟩

end GatewayRouting
