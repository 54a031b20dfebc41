import GatewayRouting.Proofs.Gathering

/-!
# What an incident can do to shared loads

Of all that happens in a scene of callers who share loads, only a little matters to the loads: that
somebody joins one, has its turn with it, has loaded the list, lets go of the load, or is stopped
(`Scene.Shift`). Whatever else is asked for while the list is loaded changes neither a stage nor a
load.
-/

namespace GatewayRouting

variable {σ : Type}

/-- What was loaded, if an event settles a load with that number. -/
def Event.completes (number : Nat) : Event → Option (Except StoreError (List Route))
  | ⟨.settleLoad other result, _⟩ => if other = number then some result else none
  | _ => none

theorem Event.completes_eq_some {number : Nat} {result : Except StoreError (List Route)}
    {event : Event} :
    event.completes number = some result ↔ event = ⟨.settleLoad number result, ()⟩ := by
  constructor
  · intro completes
    obtain ⟨q, reply⟩ := event
    cases q with
    | settleLoad other loaded =>
      simp only [Event.completes, Option.ite_none_right_eq_some, Option.some.injEq] at completes
      obtain ⟨rfl, rfl⟩ := completes
      rfl
    | _ => cases completes
  · rintro rfl
    exact if_pos rfl

/-- All that was loaded to its end for a load, each time with who has loaded it. -/
def completions (number : Nat) (trace : List (Nat × Event)) :
    List (Nat × Except StoreError (List Route)) :=
  trace.filterMap fun tagged => (tagged.2.completes number).map fun result => (tagged.1, result)

theorem completions_append (number : Nat) (trace more : List (Nat × Event)) :
    completions number (trace ++ more) = completions number trace ++ completions number more :=
  List.filterMap_append

/-- Only settling a load completes it. -/
theorem completions_append_of_ne {q : Request} {reply : q.Reply} {i : Nat}
    (settles : ∀ number result, q ≠ .settleLoad number result) (number : Nat)
    (trace : List (Nat × Event)) :
    completions number (trace ++ [(i, ⟨q, reply⟩)]) = completions number trace := by
  have nothing : completions number [(i, ⟨q, reply⟩)] = [] := by
    cases q with
    | settleLoad other result => exact absurd rfl (settles other result)
    | _ => rfl
  rw [completions_append, nothing, List.append_nil]

/-- One caller comes to another stage, or is stopped, and the others stay where they are. -/
def Becomes (stage after : Nat → Option Stage) (i : Nat) (next : Option Stage) : Prop :=
  after i = next ∧ ∀ j, j ≠ i → after j = stage j

namespace Scene

/-- The stage of a caller, unless it was stopped. -/
def stage (scene : Scene σ) (i : Nat) : Option Stage :=
  match scene.callers[i]? with
  | some (.active ..) | some (.finished _) => some (stageOf (eventsBy i scene.trace))
  | _ => none

/-- Nothing more was loaded to its end. -/
def CompletesNothing (scene after : Scene σ) : Prop :=
  ∀ number, completions number after.trace = completions number scene.trace

/-- What an incident can do to stages and loads. -/
inductive Shift (scene after : Scene σ) : Prop where
  /-- nothing -/
  | keep (stage : after.stage = scene.stage) (loads : after.world.loads = scene.world.loads)
      (completes : scene.CompletesNothing after)
  /-- a caller joins a load -/
  | join {i : Nat} (was : scene.stage i = some .arriving)
      (now : Becomes scene.stage after.stage i (some (.waiting scene.world.loads.join.1)))
      (loads : after.world.loads = scene.world.loads.join.2)
      (completes : scene.CompletesNothing after)
  /-- it has its turn with a load that nobody runs, and runs it -/
  | lead {i number : Nat} (was : scene.stage i = some (.waiting number))
      (free : scene.world.loads.isRunning number = false)
      (turn : (scene.world.loads.takeTurn number).1 = .lead)
      (now : Becomes scene.stage after.stage i (some (.loading number)))
      (loads : after.world.loads = (scene.world.loads.takeTurn number).2)
      (completes : scene.CompletesNothing after)
  /-- it takes over what somebody else has loaded -/
  | follow {i number : Nat} {result : Except StoreError (List Route)}
      (was : scene.stage i = some (.waiting number))
      (turn : (scene.world.loads.takeTurn number).1 = .follow result)
      (now : Becomes scene.stage after.stage i (some (.following number result)))
      (loads : after.world.loads = (scene.world.loads.takeTurn number).2)
      (completes : scene.CompletesNothing after)
  /-- it has loaded the list -/
  | settle {i number : Nat} {result : Except StoreError (List Route)}
      (was : scene.stage i = some (.loading number))
      (now : Becomes scene.stage after.stage i (some (.ending number result)))
      (loads : after.world.loads = scene.world.loads.settle number result)
      (completes : ∀ other, completions other after.trace =
        completions other scene.trace ++ if other = number then [(i, result)] else [])
  /-- it lets go of the load -/
  | release {i number : Nat} {result : Except StoreError (List Route)}
      (was : scene.stage i = some (.ending number result) ∨
        scene.stage i = some (.following number result))
      (now : Becomes scene.stage after.stage i (some (.left number result)))
      (loads : after.world.loads = scene.world.loads.release number)
      (completes : scene.CompletesNothing after)
  /-- it is stopped, and gives up the load that it runs -/
  | stop {i : Nat} {stage : Stage} (was : scene.stage i = some stage)
      (waits : stage.result? = none) (now : Becomes scene.stage after.stage i none)
      (loads : after.world.loads = match stage.led? with
        | some number => scene.world.loads.abandon number
        | none => scene.world.loads)
      (completes : scene.CompletesNothing after)

variable {d : Deployment σ} {scene after : Scene σ} {i j : Nat}
  {fetches : List (Program (Except StoreError (List Route)))}

theorem becomes_answer {q : Request} {reply : q.Reply} {program program' : Program Answer}
    {leads leads' : Option Nat} {world : World σ}
    (here : scene.callers[i]? = some (.active program leads)) :
    Becomes scene.stage
      (stage { callers := scene.callers.set i (.active program' leads'), world,
               trace := scene.trace ++ [(i, ⟨q, reply⟩)] }) i
      (some (stageOf (eventsBy i scene.trace ++ [⟨q, reply⟩]))) := by
  have inside : i < scene.callers.length := (List.getElem?_eq_some_iff.mp here).1
  constructor
  · rw [stage, List.getElem?_set_self inside, eventsBy_append_self]
  · intro j ne
    rw [stage, List.getElem?_set_ne (Ne.symm ne), eventsBy_append_of_ne _ _ (Ne.symm ne), stage]

theorem becomes_stopped {program : Program Answer} {leads : Option Nat} {world : World σ}
    (here : scene.callers[i]? = some (.active program leads)) :
    Becomes scene.stage (stage { scene with callers := scene.callers.set i .stopped, world }) i
      none := by
  have inside : i < scene.callers.length := (List.getElem?_eq_some_iff.mp here).1
  constructor
  · rw [stage, List.getElem?_set_self inside]
  · intro j ne
    rw [stage, List.getElem?_set_ne (Ne.symm ne), stage]

theorem stage_of_active {program : Program Answer} {leads : Option Nat}
    (here : scene.callers[i]? = some (.active program leads)) :
    scene.stage i = some (stageOf (eventsBy i scene.trace)) := by
  rw [stage, here]

/-- Coming to an end is no new stage. -/
theorem stage_finish {program : Program Answer} {leads : Option Nat} {answer : Answer}
    (here : scene.callers[i]? = some (.active program leads)) :
    stage { scene with callers := scene.callers.set i (.finished answer) } = scene.stage := by
  have inside : i < scene.callers.length := (List.getElem?_eq_some_iff.mp here).1
  funext j
  by_cases same : j = i
  · subst same
    rw [stage, List.getElem?_set_self inside, stage_of_active here]
  · rw [stage, List.getElem?_set_ne (Ne.symm same), stage]

/-- What the answer to a request can do. -/
theorem Shift.of_answer {fetch : Program (Except StoreError (List Route))} {past : List Event}
    {q : Request} (allowed : loadAllows fetch past q)
    (was : scene.stage i = some (stageOf past)) (free : scene.world.blocks q = false)
    (now : Becomes scene.stage after.stage i
      (some (stageOf (past ++ [⟨q, (d.handler q scene.world).1⟩]))))
    (world : after.world = (d.handler q scene.world).2)
    (trace : after.trace = scene.trace ++ [(i, ⟨q, (d.handler q scene.world).1⟩)]) :
    scene.Shift after := by
  have silent (settles : ∀ number result, q ≠ .settleLoad number result) :
      scene.CompletesNothing after := by
    intro number
    rw [trace]
    exact completions_append_of_ne settles number _
  rw [stageOf_append] at now
  cases loadRequest_of_allowed allowed with
  | join =>
    exact .join was now (congrArg World.loads world) (silent fun _ _ => Request.noConfusion)
  | @await number =>
    have silent := silent fun _ _ => Request.noConfusion
    cases turn : (scene.world.loads.takeTurn number).1 with
    | lead =>
      have replied : (d.handler (.awaitLoad number) scene.world).1 = .lead := turn
      rw [replied] at now
      exact .lead was free turn now (congrArg World.loads world) silent
    | follow result =>
      have replied : (d.handler (.awaitLoad number) scene.world).1 = .follow result := turn
      rw [replied] at now
      exact .follow was turn now (congrArg World.loads world) silent
  | @settle _ number result stage loaded =>
    rw [stage] at was
    refine .settle was now (congrArg World.loads world) fun other => ?_
    rw [trace, completions_append]
    by_cases same : other = number
    · subst same
      simp [completions, Event.completes]
    · simp [completions, Event.completes, same, Ne.symm same]
  | release stage =>
    obtain stage | stage := stage
    · rw [stage] at was now
      exact .release (.inl was) now (congrArg World.loads world)
        (silent fun _ _ => Request.noConfusion)
    · rw [stage] at was now
      exact .release (.inr was) now (congrArg World.loads world)
        (silent fun _ _ => Request.noConfusion)
  | apart apart stage =>
    -- what has nothing to do with shared loads shifts nothing
    rw [Stage.after_eq apart] at now
    refine .keep (funext fun j => ?_) ?_ (silent ?_)
    · by_cases same : j = i
      · rw [same, now.1, was]
      · exact now.2 j same
    · rw [world]
      exact Deployment.loads_handler apart
    · rintro number result rfl
      exact apart trivial

/-- What a turn can do. -/
theorem Gathers.shift_advance (gathers : scene.Gathers d fetches) (i : Nat) :
    scene.Shift (scene.advance d i) := by
  have move := move_advance d scene i
  generalize scene.advance d i = after at move ⊢
  cases move with
  | stay => exact .keep rfl rfl fun _ => rfl
  | finish here => exact .keep (stage_finish here) rfl fun _ => rfl
  | @answer q next leads here free =>
    obtain ⟨fetch, given⟩ := gathers.exists_fetch here
    exact .of_answer (gathers.active given here).1.1 (stage_of_active here) free
      (becomes_answer here) rfl rfl

/-- Who waits has no result yet. -/
theorem result_eq_none {fetch : Program (Except StoreError (List Route))} {past : List Event}
    {q : Request} (allowed : loadAllows fetch past q) (waits : q.endsLoad = false) :
    (stageOf past).result? = none := by
  cases loadRequest_of_allowed allowed with
  | join => rfl
  | await => rfl
  | settle stage loaded => cases waits
  | release stage => cases waits
  | apart apart stage =>
    rw [stage]
    rfl

/-- What a stop can do. -/
theorem Gathers.shift_halt (gathers : scene.Gathers d fetches) (i : Nat) :
    scene.Shift (scene.halt i) := by
  obtain same | ⟨q, next, leads, here, waits, halted⟩ := halt_cases scene i
  · rw [same]
    exact .keep rfl rfl fun _ => rfl
  · obtain ⟨fetch, given⟩ := gathers.exists_fetch here
    obtain ⟨keeps, led⟩ := gathers.active given here
    rw [halted]
    refine .stop (stage_of_active here) (result_eq_none keeps.1 waits) (becomes_stopped here) ?_
      fun _ => rfl
    rw [← led]
    cases leads <;> rfl

/-- What an incident can do. -/
theorem Gathers.shift (gathers : scene.Gathers d fetches) (incident : Incident) :
    scene.Shift (scene.meet d incident) := by
  cases incident with
  | turn i => exact gathers.shift_advance i
  | stop i => exact gathers.shift_halt i

end Scene
end GatewayRouting
