import GatewayRouting.Proofs.SideBySide

/-!
# Sharing a load

Callers share loads of the list. Each of them goes through the same stages (`Stage`): it joins a
load, waits for its turn with it, and then either loads the list itself or takes over what somebody
else has loaded; in both cases it lets go of the load at the end. Which stage a caller has come to
is told by what it was answered so far.

A caller can be stopped wherever it waits: before it has joined, before it has its turn, and while
it loads. Who has a result does not wait any more until it has let go (`Request.endsLoad`). An
`Incident` is the turn of a caller or its stop, and a list of incidents takes a scene of callers
through any interleaving of their steps.
-/

namespace GatewayRouting

variable {σ : Type}

/-! ## Stages -/

/-- How far a caller has come with a shared load. -/
inductive Stage where
  /-- it has not joined any -/
  | arriving
  /-- it has joined a load and waits for its turn -/
  | waiting (number : Nat)
  /-- it loads the list -/
  | loading (number : Nat)
  /-- it has loaded the list, and is to let go of the load -/
  | ending (number : Nat) (result : Except StoreError (List Route))
  /-- it has taken over what somebody else has loaded, and is to let go of the load -/
  | following (number : Nat) (result : Except StoreError (List Route))
  /-- it has let go -/
  | left (number : Nat) (result : Except StoreError (List Route))

namespace Stage

/-- The stage after an event. -/
def after : Stage → Event → Stage
  | _, ⟨.joinLoad, number⟩ => .waiting number
  | _, ⟨.awaitLoad number, .lead⟩ => .loading number
  | _, ⟨.awaitLoad number, .follow result⟩ => .following number result
  | _, ⟨.settleLoad number result, _⟩ => .ending number result
  | .ending _ result, ⟨.releaseLoad number, _⟩ => .left number result
  | .following _ result, ⟨.releaseLoad number, _⟩ => .left number result
  | stage, _ => stage

/-- The load that was joined. -/
def number? : Stage → Option Nat
  | .arriving => none
  | .waiting number | .loading number | .ending number _ | .following number _ | .left number _ =>
    some number

/-- The load that the caller runs. -/
def led? : Stage → Option Nat
  | .loading number => some number
  | _ => none

/-- Neither to run a load nor to have a result. -/
def Waits : Stage → Prop
  | .arriving | .waiting _ => True
  | _ => False

/-- The load of which the caller has the result. -/
def result? : Stage → Option (Nat × Except StoreError (List Route))
  | .ending number result | .following number result | .left number result => some (number, result)
  | _ => none

variable {stage : Stage} {q : Request} {reply : q.Reply}

/-- What has nothing to do with shared loads does not change the stage. -/
theorem after_eq (apart : ¬ q.SharesLoad) : stage.after ⟨q, reply⟩ = stage := by
  cases q with
  | joinLoad => exact absurd trivial apart
  | awaitLoad number => exact absurd trivial apart
  | settleLoad number result => exact absurd trivial apart
  | releaseLoad number => exact absurd trivial apart
  | _ => cases stage <;> rfl

end Stage

/-- The stage after some events. -/
def stageOf (past : List Event) : Stage :=
  past.foldl Stage.after .arriving

theorem stageOf_append (past : List Event) (event : Event) :
    stageOf (past ++ [event]) = (stageOf past).after event := by
  simp [stageOf]

/-! ## The protocol -/

/-- A program came to its end in between having its turn with a load and now. -/
def HasLoaded (fetch : Program (Except StoreError (List Route))) (number : Nat)
    (result : Except StoreError (List Route)) (past : List Event) : Prop :=
  ∃ during, past = [⟨.joinLoad, number⟩, ⟨.awaitLoad number, .lead⟩] ++ during ∧
    fetch.EndsAfter during result

/-- What a caller may ask for that shares what `fetch` loads. -/
def loadAllows (fetch : Program (Except StoreError (List Route))) (past : List Event) :
    Request → Prop
  | .joinLoad => past = []
  | .awaitLoad number => past = [⟨.joinLoad, number⟩]
  | .settleLoad number result =>
    stageOf past = .loading number ∧ HasLoaded fetch number result past
  | .releaseLoad number =>
    ∃ result, stageOf past = .ending number result ∨ stageOf past = .following number result
  | _ => ∃ number, stageOf past = .loading number

/-- What such a caller may end with: the result of the load that it has let go of. -/
def loadEnds (past : List Event) (answer : Answer) : Prop :=
  ∃ number result, stageOf past = .left number result ∧ answer = .routes result

variable {fetch : Program (Except StoreError (List Route))} {past : List Event} {q : Request}
  {number : Nat} {result : Except StoreError (List Route)}
  {grants : (q : Request) → q.Reply → Prop}

/-- What is asked for apart from sharing is asked for while loading. -/
theorem loadAllows_of_apart (apart : ¬ q.SharesLoad) (stage : stageOf past = .loading number) :
    loadAllows fetch past q := by
  cases q with
  | joinLoad => exact absurd trivial apart
  | awaitLoad number => exact absurd trivial apart
  | settleLoad number result => exact absurd trivial apart
  | releaseLoad number => exact absurd trivial apart
  | _ => exact ⟨number, stage⟩

/-- What such a caller asks for, and when. -/
inductive LoadRequest (fetch : Program (Except StoreError (List Route))) :
    List Event → Request → Prop where
  /-- to join a load, at first -/
  | join : LoadRequest fetch [] .joinLoad
  /-- its turn with the load, then -/
  | await {number : Nat} : LoadRequest fetch [⟨.joinLoad, number⟩] (.awaitLoad number)
  /-- to settle the load with what it has loaded -/
  | settle {past : List Event} {number : Nat} {result : Except StoreError (List Route)}
    (stage : stageOf past = .loading number) (loaded : HasLoaded fetch number result past) :
    LoadRequest fetch past (.settleLoad number result)
  /-- to let go of the load when it has a result -/
  | release {past : List Event} {number : Nat} {result : Except StoreError (List Route)}
    (stage : stageOf past = .ending number result ∨ stageOf past = .following number result) :
    LoadRequest fetch past (.releaseLoad number)
  /-- something else, while it loads -/
  | apart {past : List Event} {q : Request} {number : Nat} (apart : ¬ q.SharesLoad)
    (stage : stageOf past = .loading number) : LoadRequest fetch past q

theorem loadRequest_of_allowed (allowed : loadAllows fetch past q) : LoadRequest fetch past q := by
  by_cases shares : q.SharesLoad
  · cases q with
    | joinLoad =>
      obtain rfl : past = [] := allowed
      exact .join
    | awaitLoad number =>
      obtain rfl : past = [⟨.joinLoad, number⟩] := allowed
      exact .await
    | settleLoad number result => exact .settle allowed.1 allowed.2
    | releaseLoad number =>
      obtain ⟨result, stage⟩ := allowed
      exact .release stage
    | _ => exact shares.elim
  · obtain ⟨number, stage⟩ : ∃ number, stageOf past = .loading number := by
      cases q with
      | joinLoad => exact absurd trivial shares
      | awaitLoad number => exact absurd trivial shares
      | settleLoad number result => exact absurd trivial shares
      | releaseLoad number => exact absurd trivial shares
      | _ => exact allowed
    exact .apart shares stage

theorem stageOf_apart {during : List Event}
    (apart : ∀ event ∈ during, ¬ event.request.SharesLoad)
    (stage : stageOf past = .loading number) :
    stageOf (past ++ during) = .loading number := by
  induction during generalizing past with
  | nil => simpa using stage
  | cons event during ih =>
    have next : stageOf (past ++ [event]) = .loading number := by
      rw [stageOf_append, stage]
      exact Stage.after_eq (apart event List.mem_cons_self)
    have rest := ih (fun event mem => apart event (List.mem_cons_of_mem _ mem)) next
    simpa using rest

/-- Letting go of a load ends with its result. -/
theorem release_keepsTo
    (stage : stageOf past = .ending number result ∨ stageOf past = .following number result) :
    ((Program.request (.releaseLoad number)).bind fun _ => Program.done result).KeepsTo
      (loadAllows fetch) grants (fun past result => loadEnds past (.routes result)) past := by
  refine ⟨⟨result, stage⟩, fun released _ => ⟨number, result, ?_, rfl⟩⟩
  rw [stageOf_append]
  obtain stage | stage := stage <;> rw [stage] <;> rfl

/-- **Who shares a load keeps to the protocol**: it lets go of the load that it has joined, and ends
with its result. If it has loaded the list itself, then this is what its own program ended with. -/
theorem sharing_keepsTo (apart : fetch.Asks fun q => ¬ q.SharesLoad) :
    (sharing fetch).KeepsTo (loadAllows fetch) grants
      (fun past result => loadEnds past (.routes result)) [] := by
  refine ⟨rfl, fun number _ => ⟨rfl, fun turn _ => ?_⟩⟩
  cases turn with
  | follow result => exact release_keepsTo (.inr rfl)
  | lead =>
    have loads : fetch.KeepsTo (loadAllows fetch) grants
        (fun past result => stageOf past = .loading number ∧ HasLoaded fetch number result past)
        [⟨.joinLoad, number⟩, ⟨.awaitLoad number, .lead⟩] := by
      refine (apart.keepsTo _).imp ?_ ?_
      · rintro _ q ⟨⟨during, rfl, all⟩, apart⟩
        exact loadAllows_of_apart apart (stageOf_apart all rfl)
      · rintro _ result ⟨during, rfl, ends, all⟩
        exact ⟨stageOf_apart all rfl, during, rfl, ends⟩
    change Program.KeepsTo _ _ _ _ (fetch.bind _)
    refine Program.KeepsTo.bind loads ?_
    rintro past result _ loaded
    refine ⟨loaded, fun settled _ => release_keepsTo (.inl ?_)⟩
    exact stageOf_append ..

/-- What is known of a caller's events. -/
structure Ordered (fetch : Program (Except StoreError (List Route))) (past : List Event) :
    Prop where
  /-- it has joined one load at most, the one of its stage -/
  joined {number : Nat} : ⟨.joinLoad, number⟩ ∈ past ↔ (stageOf past).number? = some number
  /-- it has settled a load only with what its own program ended with -/
  settled {number : Nat} {result : Except StoreError (List Route)}
    (mem : ⟨.settleLoad number result, ()⟩ ∈ past) :
    ∃ before after, past = before ++ ⟨.settleLoad number result, ()⟩ :: after ∧
      HasLoaded fetch number result before

theorem Ordered.nil : Ordered fetch [] where
  joined := by simp [stageOf, Stage.number?]
  settled mem := nomatch mem

/-- The load stays the same once it was joined. -/
theorem Stage.number_after {reply : q.Reply} (joins : q ≠ .joinLoad)
    (allowed : loadAllows fetch past q) :
    (stageOf (past ++ [⟨q, reply⟩])).number? = (stageOf past).number? := by
  rw [stageOf_append]
  cases loadRequest_of_allowed allowed with
  | join => exact absurd rfl joins
  | await => cases reply <;> rfl
  | settle stage loaded =>
    rw [stage]
    rfl
  | release stage => obtain stage | stage := stage <;> rw [stage] <;> rfl
  | apart apart stage => rw [Stage.after_eq apart]

theorem Ordered.append {reply : q.Reply} (ordered : Ordered fetch past)
    (allowed : loadAllows fetch past q) : Ordered fetch (past ++ [⟨q, reply⟩]) where
  joined := by
    intro number
    by_cases joins : q = .joinLoad
    · subst joins
      obtain rfl : past = [] := allowed
      simp [stageOf, Stage.after, Stage.number?, eq_comm]
    · rw [Stage.number_after joins allowed, ← ordered.joined, List.mem_append, List.mem_singleton]
      refine or_iff_left fun same => joins ?_
      exact (congrArg Event.request same).symm
  settled := by
    intro number result mem
    obtain old | new := List.mem_append.mp mem
    · obtain ⟨before, after, rfl, loaded⟩ := ordered.settled old
      exact ⟨before, after ++ [⟨q, reply⟩], by simp, loaded⟩
    · cases List.mem_singleton.mp new
      exact ⟨past, [], rfl, allowed.2⟩

/-! ## Turns and stops -/

/-- Who asks for this has a result, and does not wait until it has let go of its load. -/
def Request.endsLoad : Request → Bool
  | .settleLoad .. | .releaseLoad _ => true
  | _ => false

/-- What can happen to callers. -/
inductive Incident where
  /-- a caller has its turn -/
  | turn (i : Nat)
  /-- a caller is stopped -/
  | stop (i : Nat)
deriving DecidableEq

namespace Scene

/-- Callers at their start, each of which shares what it loads. -/
def gathering (fetches : List (Program (Except StoreError (List Route)))) (world : World σ) :
    Scene σ where
  callers := fetches.map fun fetch =>
    .start ((sharing fetch).bind fun result => .done (.routes result))
  world := world

/-- A caller is stopped if it waits. -/
def halt (scene : Scene σ) (i : Nat) : Scene σ :=
  match scene.callers[i]? with
  | some (.active (.ask q next) leads) =>
    if q.endsLoad then scene
    else
      { scene with
        callers := scene.callers.set i (Caller.stop scene.world (.active (.ask q next) leads)).1
        world := (Caller.stop scene.world (.active (.ask q next) leads)).2 }
  | _ => scene

/-- The scene after an incident. -/
def meet (d : Deployment σ) (scene : Scene σ) : Incident → Scene σ
  | .turn i => scene.advance d i
  | .stop i => scene.halt i

/-- The scene after some incidents. -/
def run (d : Deployment σ) (scene : Scene σ) (incidents : List Incident) : Scene σ :=
  incidents.foldl (meet d) scene

variable {d : Deployment σ} {scene : Scene σ} {i j : Nat} {incident : Incident}
  {incidents : List Incident} {fetches : List (Program (Except StoreError (List Route)))}

/-- What can happen when a caller is to be stopped. -/
theorem halt_cases (scene : Scene σ) (i : Nat) :
    scene.halt i = scene ∨
      ∃ q next leads, scene.callers[i]? = some (.active (.ask q next) leads) ∧
        q.endsLoad = false ∧
        scene.halt i =
          { scene with
            callers := scene.callers.set i .stopped
            world := (Caller.stop scene.world
              (.active (.ask q next : Program Answer) leads)).2 } := by
  unfold halt
  split
  · rename_i q next leads here
    split
    · exact .inl rfl
    · rename_i waits
      exact .inr ⟨q, next, leads, here, Bool.eq_false_iff.mpr waits, rfl⟩
  · exact .inl rfl

/-- An incident is a step of an interleaving, unless nothing happens. -/
theorem interleaving_meet (scene : Scene σ) (incident : Incident) :
    scene.meet d incident = scene ∨
      Interleaving d.handler (scene.callers, scene.world)
        ((scene.meet d incident).callers, (scene.meet d incident).world) := by
  cases incident with
  | turn i => exact interleaving_advance
  | stop i =>
    obtain same | ⟨q, next, leads, here, waits, halted⟩ := halt_cases scene i
    · exact .inl same
    · refine .inr ?_
      rw [meet, halted]
      exact .stop here

/-- Each step of an interleaving is an incident, unless somebody is stopped who does not wait. -/
theorem exists_incident {next : List (Caller Answer) × World σ}
    (step : Interleaving d.handler (scene.callers, scene.world) next) :
    (∃ incident, next = ((scene.meet d incident).callers, (scene.meet d incident).world)) ∨
      ∃ (i : Nat) (program : Program Answer) (leads : Option Nat),
        scene.callers[i]? = some (.active program leads) ∧ next.1[i]? = some .stopped ∧
        ∀ q next, program = .ask q next → q.endsLoad = true := by
  cases step with
  | @answer _ _ i q next leads here free =>
    refine .inl ⟨.turn i, ?_⟩
    simp [meet, advance, here, free]
  | @finish _ _ i value leads here =>
    refine .inl ⟨.turn i, ?_⟩
    simp [meet, advance, here]
  | @stop _ _ i program leads here =>
    have inside : i < scene.callers.length := (List.getElem?_eq_some_iff.mp here).1
    cases program with
    | done value =>
      refine .inr ⟨i, _, leads, here, ?_, ?_⟩
      · simp [Caller.stop, inside]
      · rintro _ _ ⟨⟩
    | ask q next =>
      cases ends : q.endsLoad with
      | false =>
        refine .inl ⟨.stop i, ?_⟩
        simp [meet, halt, here, ends]
      | true =>
        refine .inr ⟨i, _, leads, here, ?_, ?_⟩
        · simp [Caller.stop, inside]
        · rintro _ _ ⟨⟩
          exact ends

/-! ## What each caller keeps to -/

/-- Each caller shares what its own program loads, and keeps to the protocol unless it was
stopped. -/
structure Gathers (d : Deployment σ) (fetches : List (Program (Except StoreError (List Route))))
    (scene : Scene σ) : Prop where
  /-- there is a caller for each program -/
  length : scene.callers.length = fetches.length
  /-- only they ask for something -/
  given {i : Nat} (begun : eventsBy i scene.trace ≠ []) : ∃ fetch, fetches[i]? = some fetch
  /-- what is known of its events, also if it was stopped -/
  ordered {i : Nat} {fetch : Program (Except StoreError (List Route))}
    (given : fetches[i]? = some fetch) : Ordered fetch (eventsBy i scene.trace)
  /-- what it asks for is allowed, and it is known to run the load that it leads -/
  active {i : Nat} {fetch : Program (Except StoreError (List Route))} {program : Program Answer}
    {leads : Option Nat} (given : fetches[i]? = some fetch)
    (here : scene.callers[i]? = some (.active program leads)) :
    program.KeepsTo (loadAllows fetch) (granted d.accepts) loadEnds (eventsBy i scene.trace) ∧
      leads = (stageOf (eventsBy i scene.trace)).led?
  /-- it has ended with the result of the load that it has let go of -/
  finished {i : Nat} {answer : Answer} (here : scene.callers[i]? = some (.finished answer)) :
    loadEnds (eventsBy i scene.trace) answer

theorem gathers_gathering (apart : ∀ fetch ∈ fetches, fetch.Asks fun q => ¬ q.SharesLoad)
    (world : World σ) : (gathering fetches world).Gathers d fetches where
  length := List.length_map _
  given begun := absurd rfl begun
  ordered _ := .nil
  active := by
    intro i fetch program leads given here
    simp only [gathering, List.getElem?_map, given, Option.map_some, Option.some.injEq] at here
    cases here
    refine ⟨?_, rfl⟩
    have asks := apart fetch (List.mem_of_getElem? given)
    exact (sharing_keepsTo asks).bind fun past result _ ends => ends
  finished := by
    intro i answer here
    simp only [gathering, List.getElem?_map, Option.map_eq_some_iff] at here
    obtain ⟨fetch, _, same⟩ := here
    cases same

/-- A caller has a program of its own. -/
theorem Gathers.exists_fetch (gathers : scene.Gathers d fetches) {caller : Caller Answer}
    (here : scene.callers[i]? = some caller) : ∃ fetch, fetches[i]? = some fetch := by
  have inside := (List.getElem?_eq_some_iff.mp here).1
  rw [gathers.length] at inside
  exact ⟨_, List.getElem?_eq_getElem inside⟩

/-- The load that is known to be run is the one of the stage, after each event too. -/
theorem leadsAfter_led {fetch : Program (Except StoreError (List Route))} {past : List Event}
    {q : Request} {reply : q.Reply} (allowed : loadAllows fetch past q) :
    Caller.leadsAfter (stageOf past).led? ⟨q, reply⟩ = (stageOf (past ++ [⟨q, reply⟩])).led? := by
  rw [stageOf_append]
  cases loadRequest_of_allowed allowed with
  | join => rfl
  | await => cases reply <;> rfl
  | settle stage loaded => rfl
  | release stage => obtain stage | stage := stage <;> rw [stage] <;> rfl
  | apart apart stage =>
    rw [Stage.after_eq apart]
    cases q with
    | awaitLoad number => exact absurd trivial apart
    | settleLoad number result => exact absurd trivial apart
    | _ => rfl

/-- After one caller has changed, a caller is that one or was there before. -/
theorem of_getElem?_set {callers : List (Caller Answer)} {caller other : Caller Answer}
    (there : (callers.set i caller)[j]? = some other) :
    (j = i ∧ other = caller) ∨ (j ≠ i ∧ callers[j]? = some other) := by
  rw [List.getElem?_set] at there
  by_cases same : j = i
  · subst same
    rw [if_pos rfl] at there
    split at there
    · exact .inl ⟨rfl, (Option.some.inj there).symm⟩
    · cases there
  · rw [if_neg (Ne.symm same)] at there
    exact .inr ⟨same, there⟩

/-- A turn keeps everybody to the protocol. -/
theorem Gathers.advance (gathers : scene.Gathers d fetches) (i : Nat) :
    (scene.advance d i).Gathers d fetches := by
  have move := move_advance d scene i
  generalize scene.advance d i = after at move ⊢
  cases move with
  | stay => exact gathers
  | @answer q next leads here free =>
    obtain ⟨fetch, given⟩ := gathers.exists_fetch here
    obtain ⟨keeps, led⟩ := gathers.active given here
    have others (j : Nat) (ne : j ≠ i) :
        eventsBy j (scene.trace ++ [(i, ⟨q, (d.handler q scene.world).1⟩)]) =
          eventsBy j scene.trace := eventsBy_append_of_ne _ _ (Ne.symm ne)
    refine ⟨(List.length_set ..).trans gathers.length, ?_, ?_, ?_, ?_⟩
    · intro j begun
      by_cases same : j = i
      · exact ⟨fetch, same ▸ given⟩
      · rw [others j same] at begun
        exact gathers.given begun
    · intro j other given'
      by_cases same : j = i
      · subst same
        cases given.symm.trans given'
        rw [eventsBy_append_self]
        exact (gathers.ordered given).append keeps.1
      · rw [others j same]
        exact gathers.ordered given'
    · intro j other program leads' given' there
      obtain ⟨rfl, same⟩ | ⟨ne, there⟩ := of_getElem?_set there
      · cases same
        cases given.symm.trans given'
        rw [eventsBy_append_self, ← leadsAfter_led keeps.1, ← led]
        exact ⟨keeps.2 _ Deployment.granted_handler, rfl⟩
      · rw [others j ne]
        exact gathers.active given' there
    · intro j answer there
      obtain ⟨rfl, same⟩ | ⟨ne, there⟩ := of_getElem?_set there
      · cases same
      · rw [others j ne]
        exact gathers.finished there
  | @finish value leads here =>
    obtain ⟨fetch, given⟩ := gathers.exists_fetch here
    refine ⟨(List.length_set ..).trans gathers.length, gathers.given, gathers.ordered, ?_, ?_⟩
    · intro j other program leads' given' there
      obtain ⟨rfl, same⟩ | ⟨ne, there⟩ := of_getElem?_set there
      · cases same
      · exact gathers.active given' there
    · intro j answer there
      obtain ⟨rfl, same⟩ | ⟨ne, there⟩ := of_getElem?_set there
      · cases same
        exact (gathers.active given here).1
      · exact gathers.finished there

/-- So does a stop. -/
theorem Gathers.halt (gathers : scene.Gathers d fetches) (i : Nat) :
    (scene.halt i).Gathers d fetches := by
  obtain same | ⟨q, next, leads, here, waits, halted⟩ := halt_cases scene i
  · rw [same]
    exact gathers
  · rw [halted]
    refine ⟨(List.length_set ..).trans gathers.length, gathers.given, gathers.ordered, ?_, ?_⟩
    · intro j fetch program leads' given there
      obtain ⟨rfl, same⟩ | ⟨ne, there⟩ := of_getElem?_set there
      · cases same
      · exact gathers.active given there
    · intro j answer there
      obtain ⟨rfl, same⟩ | ⟨ne, there⟩ := of_getElem?_set there
      · cases same
      · exact gathers.finished there

/-- Whatever happens, every caller keeps to the protocol. -/
theorem Gathers.meet (gathers : scene.Gathers d fetches) (incident : Incident) :
    (scene.meet d incident).Gathers d fetches := by
  cases incident with
  | turn i => exact gathers.advance i
  | stop i => exact gathers.halt i

end Scene

end GatewayRouting
