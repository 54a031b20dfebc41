import GatewayRouting.Proofs.Erasures
import GatewayRouting.Proofs.LoadOrder

/-!
# One load at a time

Whoever shares a load joins the one in the slot, and only a load that is over leaves the slot. So a
load that is not over is the one in the slot, however the callers take turns and whoever of them is
stopped: the ones that come late to an older load can let go of that one only, and a load whose
runner was stopped stays where the others wait for it. Since a load is run by one caller at a time,
the list is never loaded twice at once.
-/

namespace GatewayRouting

variable {σ : Type}

/-! ## Whatever happens -/

/-- What is known of callers who share what they load. -/
structure Scene.Gathered (d : Deployment σ)
    (fetches : List (Program (Except StoreError (List Route)))) (scene : Scene σ) : Prop where
  /-- everybody keeps to the protocol -/
  gathers : scene.Gathers d fetches
  /-- and everything is in order -/
  orderly : Orderly scene.stage scene.world.loads (completions · scene.trace)

namespace Scene

variable {d : Deployment σ} {scene : Scene σ} {world : World σ}
  {fetches : List (Program (Except StoreError (List Route)))}

theorem stage_gathering {i : Nat} {stage : Stage}
    (there : (gathering fetches world).stage i = some stage) : stage = .arriving := by
  rw [Scene.stage] at there
  split at there
  · exact (Option.some.inj there).symm
  · exact (Option.some.inj there).symm
  · cases there

theorem gathered_gathering (apart : ∀ fetch ∈ fetches, fetch.Asks fun q => ¬ q.SharesLoad)
    (fresh : world.loads = {}) : (gathering fetches world).Gathered d fetches where
  gathers := gathers_gathering apart world
  orderly := by
    have loads : (gathering fetches world).world.loads = {} := fresh
    rw [loads]
    exact orderly_of_arriving stage_gathering

theorem Gathered.meet (gathered : scene.Gathered d fetches) (incident : Incident) :
    (scene.meet d incident).Gathered d fetches where
  gathers := gathered.gathers.meet incident
  orderly := gathered.orderly.shift (gathered.gathers.shift incident)

/-- Whatever happens, everything stays in order. -/
theorem Gathered.run (gathered : scene.Gathered d fetches) (incidents : List Incident) :
    (scene.run d incidents).Gathered d fetches := by
  induction incidents generalizing scene with
  | nil => exact gathered
  | cons incident incidents ih => exact ih (gathered.meet incident)

/-- A load that is not over is the one in the slot. -/
theorem Gathered.slot (gathered : scene.Gathered d fetches) {i number : Nat} {stage : Stage}
    (here : scene.stage i = some stage) (joined : stage.number? = some number)
    (unsettled : ∀ result, scene.world.loads.states[number]? ≠ some (.settled result)) :
    scene.world.loads.slot = some number := by
  have inside : number < scene.world.loads.states.length := by
    cases stage with
    | arriving => cases joined
    | waiting other =>
      cases joined
      exact gathered.orderly.inside here
    | loading other =>
      cases joined
      exact (List.getElem?_eq_some_iff.mp (gathered.orderly.loading here)).1
    | ending other result =>
      cases joined
      exact absurd (gathered.orderly.result here rfl) (unsettled result)
    | following other result =>
      cases joined
      exact absurd (gathered.orderly.result here rfl) (unsettled result)
    | left other result =>
      cases joined
      exact absurd (gathered.orderly.result here rfl) (unsettled result)
  obtain slot | ⟨result, settled⟩ := gathered.orderly.slotted inside
  · exact slot
  · exact absurd settled (unsettled result)

end Scene

/-- **One load at a time.** Any callers share what they load, where loading does not itself share
loads. They take turns in any order, and are stopped wherever they wait. At any moment, at most one
of them loads the list, whichever load it has joined; and a load that is not over and that somebody
has joined who was not stopped is the one in the slot. -/
theorem one_load_at_a_time (d : Deployment σ)
    (fetches : List (Program (Except StoreError (List Route))))
    (apart : ∀ fetch ∈ fetches, fetch.Asks fun q => ¬ q.SharesLoad) (world : World σ)
    (fresh : world.loads = {}) (incidents : List Incident) :
    let scene := (Scene.gathering fetches world).run d incidents
    (∀ i j number other, scene.stage i = some (.loading number) →
      scene.stage j = some (.loading other) → i = j) ∧
    ∀ i stage number, scene.stage i = some stage → stage.number? = some number →
      (∀ result, scene.world.loads.states[number]? ≠ some (.settled result)) →
      scene.world.loads.slot = some number := by
  intro scene
  have gathered : scene.Gathered d fetches := (Scene.gathered_gathering apart fresh).run incidents
  refine ⟨fun i j number other here there => ?_, fun i stage number => gathered.slot⟩
  -- both loads are under way, so both are in the slot
  have slot : scene.world.loads.slot = some number := by
    refine gathered.slot here rfl fun result settled => ?_
    cases (gathered.orderly.loading here).symm.trans settled
  have slot' : scene.world.loads.slot = some other := by
    refine gathered.slot there rfl fun result settled => ?_
    cases (gathered.orderly.loading there).symm.trans settled
  obtain rfl := Option.some.inj (slot.symm.trans slot')
  exact gathered.orderly.alone here there

/-- Callers of a service that load the list from the table. -/
def loaders (count : Nat) : List (Program (Except StoreError (List Route))) :=
  List.replicate count (Service.fetchRoutes {})

theorem loaders_apart (count : Nat) :
    ∀ fetch ∈ loaders count, fetch.Asks fun q => ¬ q.SharesLoad := by
  intro fetch mem
  rw [List.eq_of_mem_replicate mem]
  exact Service.asks_fetchRoutes (fun _ => id) id fun _ _ => id

/-- Two callers join a load, and one of them loads the list and lets go. Another joins the next
load, runs it, and is stopped. Somebody else who has joined it takes over, and only then the second
caller lets go of the first load. -/
def lateFollower : List Incident :=
  [.turn 0, .turn 1] ++ List.replicate 6 (.turn 0) ++
    [.turn 2, .turn 2, .turn 3, .turn 1, .stop 2, .turn 3, .turn 1]

/-- The scene after that. -/
def lateFollowerScene : Scene (Entries Cached) :=
  (Scene.gathering (loaders 4)
    (World.start (.single (userRoute "http://old")) [] (.empty 100 1000))).run
      (plainDeployment true) lateFollower

/-- Then the one who has taken over is the only one to load the list, and its load is in the
slot. -/
theorem successor_loads_alone :
    lateFollowerScene.stage 3 = some (.loading 1) ∧
      (∀ j number, lateFollowerScene.stage j = some (.loading number) → 3 = j) ∧
      lateFollowerScene.world.loads.slot = some 1 := by
  obtain ⟨alone, slot⟩ := one_load_at_a_time (plainDeployment true) (loaders 4) (loaders_apart 4)
    (World.start (.single (userRoute "http://old")) [] (.empty 100 1000)) rfl lateFollower
  have loads : lateFollowerScene.stage 3 = some (.loading 1) := rfl
  refine ⟨loads, fun j number there => alone 3 j 1 number loads there, ?_⟩
  exact slot 3 (.loading 1) 1 loads rfl fun result => nofun

end GatewayRouting
