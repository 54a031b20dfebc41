import GatewayRouting.Resolution.Program

/-!
# Shared loads

Programs that load the route list at the same time can share one load. A load that is being
shared has a number and is in one of three states: nobody runs it yet, somebody runs it, or its
result is there. The *slot* holds the number of the load that newcomers join. Who joins waits for
a turn: the first one to get it runs the load, the others take over the result. Afterwards each of
them makes sure that the slot is left by this load, so a result is never handed to a newcomer.

If the one who runs a load is stopped, nobody runs it, and the next one of those who wait gets the
turn.
-/

namespace GatewayRouting

/-- The state of a shared load. -/
inductive LoadState where
  /-- nobody runs it -/
  | idle
  /-- somebody runs it -/
  | running
  /-- it was run -/
  | settled (result : Except StoreError (List Route))

/-- All shared loads so far, and the one that can be joined. -/
structure SharedLoads where
  /-- the number of the load that newcomers join -/
  slot : Option Nat := none
  /-- the states of the loads by number -/
  states : List LoadState := []

namespace SharedLoads

/-- Joins the load in the slot; if there is none, a new one is put there. -/
def join (loads : SharedLoads) : Nat × SharedLoads :=
  match loads.slot with
  | some number => (number, loads)
  | none =>
    (loads.states.length, ⟨some loads.states.length, loads.states ++ [.idle]⟩)

/-- Whether a load makes those who joined it wait. -/
def isRunning (loads : SharedLoads) (number : Nat) : Bool :=
  match loads.states[number]? with
  | some .running => true
  | _ => false

/-- A turn with a load: its result if it is there, and otherwise the turn to run it. -/
def takeTurn (loads : SharedLoads) (number : Nat) : Turn × SharedLoads :=
  match loads.states[number]? with
  | some (.settled result) => (.follow result, loads)
  | _ => (.lead, { loads with states := loads.states.set number .running })

/-- Ends a load with a result. -/
def settle (loads : SharedLoads) (number : Nat) (result : Except StoreError (List Route)) :
    SharedLoads :=
  { loads with states := loads.states.set number (.settled result) }

/-- Gives a load up that was run by somebody who was stopped. -/
def abandon (loads : SharedLoads) (number : Nat) : SharedLoads :=
  { loads with states := loads.states.set number .idle }

/-- Leaves a load behind: the slot is emptied if it holds this load. -/
def release (loads : SharedLoads) (number : Nat) : SharedLoads :=
  if loads.slot = some number then { loads with slot := none } else loads

end SharedLoads

/-- Shares a load: the result of `fetch`, run here or by somebody else at the same time. -/
def sharing (fetch : Program (Except StoreError (List Route))) :
    Program (Except StoreError (List Route)) := do
  let number ← .request .joinLoad
  let result ← match ← .request (.awaitLoad number) with
    | .follow result => pure result
    | .lead => do
      let result ← fetch
      .request (.settleLoad number result)
      pure result
  .request (.releaseLoad number)
  return result

end GatewayRouting
