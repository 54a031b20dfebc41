import GatewayRouting.Resolution.World

/-!
# Programs side by side

Callers take turns on one world. A caller runs until it has to wait: for the list of routes, which
takes a while to arrive, or for a shared load that another caller runs. `concurrently` starts all
callers in their order, stops some of those that wait, and then lets the others go on in rounds,
in order, until each has come to its end.

`Interleaving` says what can happen in general: at any time any caller that does not have to wait
takes one step, or is stopped.
-/

namespace GatewayRouting

/-- A program on its way. -/
inductive Caller (α : Type) where
  /-- it goes on with this program; if it runs a shared load, that load's number -/
  | active (program : Program α) (leads : Option Nat)
  /-- it came to its end -/
  | finished (value : α)
  /-- it was stopped before -/
  | stopped

namespace Caller

variable {α σ : Type}

/-- The caller of a program at its start. -/
def start (program : Program α) : Caller α :=
  .active program none

/-- What came out, unless the caller was stopped. -/
def value? : Caller α → Option α
  | .finished value => some value
  | _ => none

/-- Whether the caller is still on its way. -/
def isActive : Caller α → Bool
  | .active .. => true
  | _ => false

/-- The shared load that a caller runs after a request was answered. -/
def leadsAfter (leads : Option Nat) (event : Event) : Option Nat :=
  match event with
  | ⟨.awaitLoad number, .lead⟩ => some number
  | ⟨.settleLoad .., _⟩ => none
  | _ => leads

/-- Stops a caller. A shared load that it runs is given up. -/
def stop (world : World σ) : Caller α → Caller α × World σ
  | .active _ leads =>
    (.stopped,
      match leads with
      | some number => { world with loads := world.loads.abandon number }
      | none => world)
  | caller => (caller, world)

end Caller

/-! ## Any order -/

/-- One step of callers on one world: a caller that does not have to wait has its request answered,
comes to its end, or is stopped. -/
inductive Interleaving {α σ : Type} (handler : Handler (World σ)) :
    List (Caller α) × World σ → List (Caller α) × World σ → Prop where
  /-- a request is answered -/
  | answer {callers : List (Caller α)} {world : World σ} {i : Nat} {request : Request}
      {next : request.Reply → Program α} {leads : Option Nat}
      (here : callers[i]? = some (.active (.ask request next) leads))
      (free : world.blocks request = false) :
      Interleaving handler (callers, world)
        (callers.set i (.active (next (handler request world).1)
            (Caller.leadsAfter leads ⟨request, (handler request world).1⟩)),
          (handler request world).2)
  /-- a caller comes to its end -/
  | finish {callers : List (Caller α)} {world : World σ} {i : Nat} {value : α}
      {leads : Option Nat} (here : callers[i]? = some (.active (.done value) leads)) :
      Interleaving handler (callers, world) (callers.set i (.finished value), world)
  /-- a caller is stopped -/
  | stop {callers : List (Caller α)} {world : World σ} {i : Nat} {program : Program α}
      {leads : Option Nat} (here : callers[i]? = some (.active program leads)) :
      Interleaving handler (callers, world)
        (callers.set i (Caller.stop world (.active program leads)).1,
          (Caller.stop world (.active program leads)).2)

/-! ## Rounds -/

variable {α σ : Type}

/-- Whether a request takes a while to be answered. -/
def Request.takesTime : Request → Bool
  | .listRoutes => true
  | _ => false

/-- Runs a program until it has to wait. With `arrived`, what it waits for has just arrived. -/
def Program.untilWait (handler : Handler (World σ)) :
    Program α → Option Nat → Bool → World σ → Caller α × World σ × List Event
  | .done value, _, _, world => (.finished value, world, [])
  | .ask request next, leads, arrived, world =>
    if world.blocks request || (request.takesTime && !arrived) then
      (.active (.ask request next) leads, world, [])
    else
      let (reply, after) := handler request world
      let event : Event := ⟨request, reply⟩
      let (caller, world, events) :=
        (next reply).untilWait handler (Caller.leadsAfter leads event) false after
      (caller, world, event :: events)

/-- One round: every caller that is on its way goes on until it has to wait. -/
def round (handler : Handler (World σ)) (arrived : Bool) :
    Nat → List (Caller α) → World σ → List (Caller α) × World σ × List (Nat × Event)
  | _, [], world => ([], world, [])
  | i, .active program leads :: callers, world =>
    let (caller, world, events) := program.untilWait handler leads arrived world
    let (callers, world, more) := round handler arrived (i + 1) callers world
    (caller :: callers, world, events.map (fun event => (i, event)) ++ more)
  | i, caller :: callers, world =>
    let (callers, world, more) := round handler arrived (i + 1) callers world
    (caller :: callers, world, more)

/-- Rounds until nobody is on the way, at most `fuel` of them. -/
def rounds (handler : Handler (World σ)) :
    Nat → List (Caller α) → World σ → List (Caller α) × World σ × List (Nat × Event)
  | 0, callers, world => (callers, world, [])
  | fuel + 1, callers, world =>
    if callers.any Caller.isActive then
      let (callers, world, events) := round handler true 0 callers world
      let (callers, world, more) := rounds handler fuel callers world
      (callers, world, events ++ more)
    else (callers, world, [])

/-- Stops the callers with the given numbers. -/
def stopAll (stopped : List Nat) :
    Nat → List (Caller α) → World σ → List (Caller α) × World σ
  | _, [], world => ([], world)
  | i, caller :: callers, world =>
    let (caller, world) := if stopped.contains i then caller.stop world else (caller, world)
    let (callers, world) := stopAll stopped (i + 1) callers world
    (caller :: callers, world)

/-- Runs programs side by side, of which those with the given numbers are stopped as soon as all
have started. A caller waits for an answer of the table at most once and for a shared load at most
as often as there are callers, which bounds the rounds. -/
def concurrently (handler : Handler (World σ)) (programs : List (Program α)) (stopped : List Nat)
    (world : World σ) : List (Option α) × World σ × List (Nat × Event) :=
  let (callers, world, first) := round handler false 0 (programs.map Caller.start) world
  let (callers, world) := stopAll stopped 0 callers world
  let (callers, world, more) := rounds handler (2 * programs.length + 2) callers world
  (callers.map Caller.value?, world, first ++ more)

end GatewayRouting
