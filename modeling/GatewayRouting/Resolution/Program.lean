import GatewayRouting.Cache.Key
import GatewayRouting.Failure
import GatewayRouting.Metrics.Observation

/-!
# Programs of requests

What the resolver does is written as a `Program`: it asks for one thing at a time and goes on with
the reply, until it is done. A `Request` is answered at once and as a whole, so a run is a
sequence of answered requests and a concurrent run is an interleaving of such sequences. Nothing
else connects a program with its surroundings, and a program cannot tell more about a cache, the
table or the matcher than the replies say.

`Program.run` answers every request by a handler. `Program.trace` also lists the requests with
their replies, in order.
-/

namespace GatewayRouting

/-- How a program that joined a shared load gets its turn. -/
inductive Turn where
  /-- it runs the load itself -/
  | lead
  /-- the load was run, with this result -/
  | follow (result : Except StoreError (List Route))

/-- What a program can ask for. -/
inductive Request where
  /-- the cached value of a key -/
  | readCache (key : Key)
  /-- a value cached for some seconds -/
  | writeCache (key : Key) (value : Cached) (seconds : UInt64)
  /-- a key erased from the cache -/
  | eraseCache (key : Key)
  /-- a path recorded in the memo, with the pattern that accepted it -/
  | remember (path pattern : String)
  /-- the paths that are recorded, with their patterns -/
  | recorded
  /-- a path forgotten by the memo -/
  | forget (path : String)
  /-- all registered routes -/
  | listRoutes
  /-- a route registered -/
  | addRoute (route : Route)
  /-- a route replaced -/
  | updateRoute (route : Route)
  /-- a route removed -/
  | deleteRoute (path : String)
  /-- calls recorded for a route -/
  | recordCalls (path : String) (calls time : Int64)
  /-- whether a pattern accepts a path -/
  | test (pattern path : String)
  /-- something observed -/
  | note (observation : Observation)
  /-- a place among those who wait for the current shared load; the load's number -/
  | joinLoad
  /-- a turn with a shared load that was joined -/
  | awaitLoad (number : Nat)
  /-- a shared load finished by the one who ran it -/
  | settleLoad (number : Nat) (result : Except StoreError (List Route))
  /-- a shared load left behind, so that the next one to join starts another -/
  | releaseLoad (number : Nat)

/-- The type of the reply to a request. -/
abbrev Request.Reply : Request → Type
  | .readCache _ => Except CacheError (Option Cached)
  | .writeCache .. => Except CacheError Unit
  | .eraseCache _ => Except CacheError Unit
  | .remember .. => Unit
  | .recorded => List (String × String)
  | .forget _ => Unit
  | .listRoutes => Except StoreError (List Route)
  | .addRoute _ => Except StoreError Unit
  | .updateRoute _ => Except StoreError Unit
  | .deleteRoute _ => Except StoreError Unit
  | .recordCalls .. => Except StoreError Unit
  | .test .. => Bool
  | .note _ => Unit
  | .joinLoad => Nat
  | .awaitLoad _ => Turn
  | .settleLoad .. => Unit
  | .releaseLoad _ => Unit

/-- A program that ends with an `α`. -/
inductive Program (α : Type) where
  /-- it is done -/
  | done (value : α)
  /-- it asks for something and goes on with the reply -/
  | ask (request : Request) (next : request.Reply → Program α)

/-- A request with its reply. -/
structure Event where
  /-- what was asked for -/
  request : Request
  /-- what came back -/
  reply : request.Reply

/-- A way of answering requests, with a state of its own. -/
abbrev Handler (σ : Type) := (request : Request) → σ → request.Reply × σ

namespace Program

variable {α β γ σ : Type}

/-- One program after the other. -/
protected def bind : Program α → (α → Program β) → Program β
  | done value, next => next value
  | ask request k, next => ask request fun reply => (k reply).bind next

instance : Monad Program where
  pure := done
  bind := Program.bind

/-- A single request. -/
def request (q : Request) : Program q.Reply :=
  ask q done

/-- Runs a program to its end. -/
def run (handler : Handler σ) : Program α → σ → α × σ
  | done value, state => (value, state)
  | ask q k, state => (k (handler q state).1).run handler (handler q state).2

/-- The requests that a run makes, with their replies. -/
def trace (handler : Handler σ) : Program α → σ → List Event
  | done _, _ => []
  | ask q k, state =>
    ⟨q, (handler q state).1⟩ :: (k (handler q state).1).trace handler (handler q state).2

@[simp] theorem bind_done (value : α) (next : α → Program β) :
    (done value).bind next = next value := rfl

@[simp] theorem bind_ask (q : Request) (k : q.Reply → Program α) (next : α → Program β) :
    (ask q k).bind next = ask q fun reply => (k reply).bind next := rfl

theorem bind_assoc (program : Program α) (f : α → Program β) (g : β → Program γ) :
    (program.bind f).bind g = program.bind fun value => (f value).bind g := by
  induction program with
  | done value => rfl
  | ask q k ih => exact congrArg (ask q) (funext ih)

@[simp] theorem run_done (handler : Handler σ) (value : α) (state : σ) :
    (done value).run handler state = (value, state) := rfl

/-- A run of one program after the other is the one run after the other. -/
theorem run_bind (handler : Handler σ) (program : Program α) (next : α → Program β) (state : σ) :
    (program.bind next).run handler state =
      (next (program.run handler state).1).run handler (program.run handler state).2 := by
  induction program generalizing state with
  | done value => rfl
  | ask q k ih => exact ih _ _

/-- The requests of one program after the other are the ones of both, in order. -/
theorem trace_bind (handler : Handler σ) (program : Program α) (next : α → Program β)
    (state : σ) :
    (program.bind next).trace handler state =
      program.trace handler state ++
        (next (program.run handler state).1).trace handler (program.run handler state).2 := by
  induction program generalizing state with
  | done value => rfl
  | ask q k ih => exact congrArg (_ :: ·) (ih _ _)

end Program
end GatewayRouting
