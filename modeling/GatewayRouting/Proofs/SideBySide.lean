import GatewayRouting.Proofs.Upkeep
import GatewayRouting.Resolution.Schedule

/-!
# Operations side by side

Several operations are under way in one world, and a schedule says who takes the next step. A caller
whose turn it is has one request answered or comes to its end; if it has to wait, or is at its end
already, nothing happens. So each schedule is an interleaving (`Scene.interleaving_advance`), and
the schedules are all of them in which nobody is stopped (`Scene.exists_advance`).

Each caller keeps to the protocol of its operation whatever the others do, since a protocol makes no
assumption about the world (`Scene.Follows.play`).
-/

namespace GatewayRouting

variable {σ : Type}

/-- Callers in one world, with what was answered so far and to whom. -/
structure Scene (σ : Type) where
  /-- the callers -/
  callers : List (Caller Answer)
  /-- the world -/
  world : World σ
  /-- the events, each with the number of its caller -/
  trace : List (Nat × Event) := []

/-- The events of one caller. -/
def eventsBy (i : Nat) (trace : List (Nat × Event)) : List Event :=
  (trace.filter (·.1 == i)).map (·.2)

@[simp] theorem eventsBy_append_self (i : Nat) (trace : List (Nat × Event)) (event : Event) :
    eventsBy i (trace ++ [(i, event)]) = eventsBy i trace ++ [event] := by
  simp [eventsBy]

theorem eventsBy_append_of_ne {i j : Nat} (trace : List (Nat × Event)) (event : Event)
    (ne : j ≠ i) : eventsBy i (trace ++ [(j, event)]) = eventsBy i trace := by
  simp [eventsBy, ne]

namespace Scene

/-- Operations at their start. -/
def opening (d : Deployment σ) (operations : List Operation) (world : World σ) : Scene σ where
  callers := operations.map fun operation => .start (operation.program d.options)
  world := world

/-- A caller has its turn. -/
def advance (d : Deployment σ) (scene : Scene σ) (i : Nat) : Scene σ :=
  match scene.callers[i]? with
  | some (.active (.ask q next) leads) =>
    if scene.world.blocks q then scene
    else
      { callers := scene.callers.set i (.active (next (d.handler q scene.world).1)
          (Caller.leadsAfter leads ⟨q, (d.handler q scene.world).1⟩))
        world := (d.handler q scene.world).2
        trace := scene.trace ++ [(i, ⟨q, (d.handler q scene.world).1⟩)] }
  | some (.active (.done value) _) =>
    { scene with callers := scene.callers.set i (.finished value) }
  | _ => scene

/-- The scene after the turns of a schedule. -/
def play (d : Deployment σ) (scene : Scene σ) (schedule : List Nat) : Scene σ :=
  schedule.foldl (advance d) scene

/-- Whether a caller is still under way. -/
def underWay (scene : Scene σ) (i : Nat) : Bool :=
  (scene.callers[i]?).any Caller.isActive

/-- Each turn of a schedule follows a rule. -/
def Along (d : Deployment σ) (rule : Scene σ → Nat → Prop) : Scene σ → List Nat → Prop
  | _, [] => True
  | scene, i :: schedule => rule scene i ∧ (scene.advance d i).Along d rule schedule

variable {d : Deployment σ} {scene : Scene σ} {i j : Nat} {rule rule' : Scene σ → Nat → Prop}
  {schedule first second : List Nat}

@[simp] theorem play_nil : scene.play d [] = scene := rfl

@[simp] theorem play_cons :
    scene.play d (i :: schedule) = (scene.advance d i).play d schedule := rfl

theorem along_append : scene.Along d rule (first ++ second) ↔
    scene.Along d rule first ∧ (scene.play d first).Along d rule second := by
  induction first generalizing scene with
  | nil => exact (iff_of_eq (true_and _)).symm
  | cons i first ih => exact (and_congr_right' ih).trans and_assoc.symm

theorem Along.mono (along : scene.Along d rule schedule)
    (weaker : ∀ scene i, rule scene i → rule' scene i) : scene.Along d rule' schedule := by
  induction schedule generalizing scene with
  | nil => trivial
  | cons i schedule ih => exact ⟨weaker scene i along.1, ih along.2⟩

/-- Whether a rule is followed can be decided by playing the schedule. -/
instance decidableAlong (rule : Scene σ → Nat → Prop) [∀ scene i, Decidable (rule scene i)] :
    (scene : Scene σ) → (schedule : List Nat) → Decidable (scene.Along d rule schedule)
  | _, [] => isTrue trivial
  | scene, i :: schedule =>
    have := decidableAlong rule (scene.advance d i) schedule
    inferInstanceAs (Decidable (_ ∧ _))

/-! ## Turns -/

/-- What can happen when a caller has its turn. -/
inductive Move (d : Deployment σ) (scene : Scene σ) (i : Nat) : Scene σ → Prop where
  /-- nothing -/
  | stay : Move d scene i scene
  /-- a request is answered -/
  | answer {q : Request} {next : q.Reply → Program Answer} {leads : Option Nat}
      (here : scene.callers[i]? = some (.active (.ask q next) leads))
      (free : scene.world.blocks q = false) :
      Move d scene i
        { callers := scene.callers.set i (.active (next (d.handler q scene.world).1)
            (Caller.leadsAfter leads ⟨q, (d.handler q scene.world).1⟩))
          world := (d.handler q scene.world).2
          trace := scene.trace ++ [(i, ⟨q, (d.handler q scene.world).1⟩)] }
  /-- the caller comes to its end -/
  | finish {value : Answer} {leads : Option Nat}
      (here : scene.callers[i]? = some (.active (.done value) leads)) :
      Move d scene i { scene with callers := scene.callers.set i (.finished value) }

theorem move_advance (d : Deployment σ) (scene : Scene σ) (i : Nat) :
    Move d scene i (scene.advance d i) := by
  unfold advance
  split
  · rename_i q next leads here
    split
    · exact .stay
    · rename_i free
      exact .answer here (Bool.not_eq_true _ ▸ free)
  · rename_i value leads here
    exact .finish here
  · exact .stay

/-- A turn is a step of an interleaving, unless nothing happens. -/
theorem interleaving_advance :
    scene.advance d i = scene ∨
      Interleaving d.handler (scene.callers, scene.world)
        ((scene.advance d i).callers, (scene.advance d i).world) := by
  have move := move_advance d scene i
  generalize scene.advance d i = after at move ⊢
  cases move with
  | stay => exact .inl rfl
  | answer here free => exact .inr (.answer here free)
  | finish here => exact .inr (.finish here)

/-- Each step of an interleaving is a turn, unless somebody is stopped. -/
theorem exists_advance {next : List (Caller Answer) × World σ}
    (step : Interleaving d.handler (scene.callers, scene.world) next) :
    (∃ i, next = ((scene.advance d i).callers, (scene.advance d i).world)) ∨
      ∃ i : Nat, next.1[i]? = some .stopped := by
  cases step with
  | @answer _ _ i q next leads here free =>
    refine .inl ⟨i, ?_⟩
    simp [advance, here, free]
  | @finish _ _ i value leads here =>
    refine .inl ⟨i, ?_⟩
    simp [advance, here]
  | @stop _ _ i program leads here =>
    refine .inr ⟨i, ?_⟩
    obtain ⟨inside, _⟩ := List.getElem?_eq_some_iff.mp here
    simp [Caller.stop, inside]

end Scene

/-! ## Each caller keeps to its protocol -/

/-- What an operation may ask for, whether it looks or not. -/
def Operation.allows (k : Knowledge) (operation : Operation) (past : List Event) (q : Request) :
    Prop :=
  (operation.IsLookup → k.lookupAllows past q) ∧
    (¬ operation.IsLookup → operation.upkeepAllows past q)

/-- What an operation may end with, whether it looks or not. -/
def Operation.ends (k : Knowledge) (d : Deployment σ) (operation : Operation) (past : List Event)
    (answer : Answer) : Prop :=
  (operation.IsLookup → Stands none none past ∧
    (¬ k.misled past → ¬ k.mistold past → k.explainsAnswer d operation answer)) ∧
    (¬ operation.IsLookup → operation.Ends past answer)

theorem Operation.keepsTo_allows {k : Knowledge} {d : Deployment σ} (closed : k.Closed d.accepts)
    (operation : Operation) :
    (operation.program d.options).KeepsTo (operation.allows k) (granted d.accepts)
      (operation.ends k d) [] := by
  by_cases looks : operation.IsLookup
  · exact (keepsTo_program looks closed).imp
      (fun _ _ allowed => ⟨fun _ => allowed, fun changes => absurd looks changes⟩)
      fun _ _ right => ⟨fun _ => right, fun changes => absurd looks changes⟩
  · exact (keepsTo_upkeep looks).imp
      (fun _ _ allowed => ⟨fun looks' => absurd looks' looks, fun _ => allowed⟩)
      fun _ _ right => ⟨fun looks' => absurd looks' looks, fun _ => right⟩

/-- A caller keeps to a protocol, or has ended with something right; it was not stopped. -/
def Caller.KeepsTo {α : Type} (allows : List Event → Request → Prop)
    (grants : (q : Request) → q.Reply → Prop) (right : List Event → α → Prop)
    (past : List Event) : Caller α → Prop
  | .active program _ => program.KeepsTo allows grants right past
  | .finished value => right past value
  | .stopped => False

namespace Scene

variable {d : Deployment σ} {scene : Scene σ} {i j : Nat} {k : Knowledge}
  {operations : List Operation} {operation : Operation} {schedule : List Nat}

/-- There is a caller for each operation, and it keeps to what the operation may ask for and may end
with. -/
structure Follows (allows : Operation → List Event → Request → Prop)
    (ends : Operation → List Event → Answer → Prop) (d : Deployment σ)
    (operations : List Operation) (scene : Scene σ) : Prop where
  /-- the callers of the operations -/
  length : scene.callers.length = operations.length
  /-- each of them keeps to its protocol -/
  caller {i : Nat} {operation : Operation} {caller : Caller Answer}
    (asked : operations[i]? = some operation) (here : scene.callers[i]? = some caller) :
    caller.KeepsTo (allows operation) (granted d.accepts) (ends operation)
      (eventsBy i scene.trace)

section

variable {allows : Operation → List Event → Request → Prop}
  {ends : Operation → List Event → Answer → Prop}

theorem follows_opening (keeps : ∀ operation : Operation, (operation.program d.options).KeepsTo
      (allows operation) (granted d.accepts) (ends operation) [])
    (operations : List Operation) (world : World σ) :
    (opening d operations world).Follows allows ends d operations where
  length := List.length_map _
  caller := by
    intro i operation caller asked here
    simp only [opening, List.getElem?_map, asked, Option.map_some, Option.some.injEq] at here
    subst here
    exact keeps operation

/-- A caller has an operation. -/
theorem Follows.exists_operation (follows : scene.Follows allows ends d operations)
    {caller : Caller Answer} (here : scene.callers[i]? = some caller) :
    ∃ operation, operations[i]? = some operation := by
  have inside := (List.getElem?_eq_some_iff.mp here).1
  rw [follows.length] at inside
  exact ⟨_, List.getElem?_eq_getElem inside⟩

theorem Follows.advance (follows : scene.Follows allows ends d operations) (i : Nat) :
    (scene.advance d i).Follows allows ends d operations := by
  have move := move_advance d scene i
  generalize scene.advance d i = after at move ⊢
  cases move with
  | stay => exact follows
  | @answer q next leads here free =>
    -- one caller has one more event, and the others have no new one
    refine ⟨(List.length_set ..).trans follows.length, ?_⟩
    intro j operation caller asked there
    by_cases same : j = i
    · subst same
      rw [List.getElem?_set_self (List.getElem?_eq_some_iff.mp here).1] at there
      obtain rfl := Option.some.inj there
      have tested : granted d.accepts q (d.handler q scene.world).1 :=
        Deployment.granted_handler
      have kept := (follows.caller asked here).2 _ tested
      rw [eventsBy_append_self]
      exact kept
    · rw [List.getElem?_set_ne (Ne.symm same)] at there
      rw [eventsBy_append_of_ne _ _ (Ne.symm same)]
      exact follows.caller asked there
  | @finish value leads here =>
    refine ⟨(List.length_set ..).trans follows.length, ?_⟩
    intro j operation caller asked there
    by_cases same : j = i
    · subst same
      rw [List.getElem?_set_self (List.getElem?_eq_some_iff.mp here).1] at there
      obtain rfl := Option.some.inj there
      have ended := follows.caller asked here
      exact ended
    · rw [List.getElem?_set_ne (Ne.symm same)] at there
      exact follows.caller asked there

/-- Whatever the schedule, every caller keeps to the protocol of its operation. -/
theorem Follows.play (follows : scene.Follows allows ends d operations) (schedule : List Nat) :
    (scene.play d schedule).Follows allows ends d operations := by
  induction schedule generalizing scene with
  | nil => exact follows
  | cons i schedule ih => exact ih (follows.advance i)

/-- A caller that is about to ask for something is allowed to. -/
theorem Follows.allowed (follows : scene.Follows allows ends d operations) {q : Request}
    {next : q.Reply → Program Answer} {leads : Option Nat}
    (asked : operations[i]? = some operation)
    (here : scene.callers[i]? = some (.active (.ask q next) leads)) :
    allows operation (eventsBy i scene.trace) q := by
  have kept := follows.caller asked here
  exact kept.1

end

/-- There is a caller for each operation, and it keeps to the operation's protocol. -/
abbrev KeepsTo (k : Knowledge) (d : Deployment σ) (operations : List Operation)
    (scene : Scene σ) : Prop :=
  scene.Follows (Operation.allows k) (Operation.ends k d) d operations

theorem keepsTo_opening (closed : k.Closed d.accepts) (world : World σ) :
    (opening d operations world).KeepsTo k d operations :=
  follows_opening (fun operation => operation.keepsTo_allows closed) ..

end Scene
end GatewayRouting
