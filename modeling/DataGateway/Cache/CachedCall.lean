import DataGateway.Coroutine.Interleaving

/-!
# Shared fetches

`execute_alpaca_cached_call`: the first caller that misses the cache starts a fetch, later callers
wait for the same task.  A caller that is cancelled while it waits for an unfinished task cancels
the task.  The lock is only held between two waits, so no caller ever waits for it.
-/

namespace DataGateway
namespace Cache

open Coroutine Machine

/-- What a caller raises. -/
inductive CallError (Error : Type)
  /-- `CancelledError`. -/
  | cancelled
  /-- An exception of the provider call. -/
  | provider (error : Error)
  /-- An exception of the cache. -/
  | cache (error : Error)
  deriving DecidableEq

/-- The task that runs `execute_alpaca_provider_call`. -/
inductive Fetch (Value Error : Type)
  | running
  /-- A `CancelledError` is on its way into the task. -/
  | cancelling
  /-- The provider call has returned or raised. -/
  | ended (result : Except Error Value)
  | cancelled

/-- The task still runs. -/
def Fetch.unfinished {Value Error : Type} : Fetch Value Error → Bool
  | .running | .cancelling => true
  | .ended _ | .cancelled => false

/-- A step of a caller. -/
inductive CallStep (Key Value : Type)
  /-- `await cache.get(cache_key)`. -/
  | cacheGet (key : Key)
  /-- The first block under the lock. -/
  | join (key : Key)
  /-- `await future`. -/
  | awaitFetch (fetch : Nat)
  /-- `await cache.set(cache_key, result, ttl=ttl)`. -/
  | cacheSet (key : Key) (value : Value)
  /-- The second block under the lock. -/
  | release (key : Key) (fetch : Nat)

variable {ι Key Value Error : Type}

/-- What a caller learns. -/
@[reducible] def CallStep.Reply (Error : Type) : CallStep Key Value → Type
  | .cacheGet _ => Except (CallError Error) (Option Value)
  | .join _ => Nat × Bool
  | .awaitFetch _ => Except (CallError Error) Value
  | .cacheSet _ _ => Except (CallError Error) Unit
  | .release _ _ => Unit

/-- A caller. -/
abbrev Caller (Key Value Error α : Type) :=
  Coroutine (@CallStep.Reply Key Value Error) (CallError Error) α

namespace Caller

/-- `await cache.get(cache_key)`. -/
def cacheGet (key : Key) : Caller Key Value Error (Option Value) :=
  (call (CallStep.cacheGet key)).bind finish

/-- The future to wait for, and whether the caller owns it. -/
def join (key : Key) : Caller Key Value Error (Nat × Bool) := call (CallStep.join key)

/-- `await future`. -/
def awaitFetch (future : Nat) : Caller Key Value Error Value :=
  (call (CallStep.awaitFetch future)).bind finish

/-- `if owner: await cache.set(cache_key, result, ttl=ttl)`. -/
def store (owner : Bool) (key : Key) (result : Value) : Caller Key Value Error Unit :=
  if owner then (call (CallStep.cacheSet key result)).bind finish else finish (.ok ())

/-- `if owner: …`, the second block under the lock. -/
def release (owner : Bool) (key : Key) (future : Nat) : Caller Key Value Error Unit :=
  if owner then call (CallStep.release key future) else finish (.ok ())

end Caller

/-- `execute_alpaca_cached_call` after a miss, with the future and whether the caller owns it. -/
def sharedFetch (cacheKey : Key) (future : Nat) (owner : Bool) : Caller Key Value Error Value :=
  ((Caller.awaitFetch future).bind fun result =>
    (Caller.store owner cacheKey result).bind fun _ => finish (.ok result)).ensuring
  (Caller.release owner cacheKey future)

/-- `execute_alpaca_cached_call`. -/
def executeAlpacaCachedCall (cacheKey : Key) : Caller Key Value Error Value :=
  (Caller.cacheGet cacheKey).bind fun
    | some cached => finish (.ok cached)
    | none => (Caller.join cacheKey).bind fun joined => sharedFetch cacheKey joined.1 joined.2

/-- The tasks in flight; with it, the key of each task, the task each caller has joined and who was
cancelled. -/
structure FlightWorld (ι Key Value Error : Type) where
  /-- `_ALPACA_CACHE_INFLIGHT`. -/
  inflight : Key → Option Nat
  /-- The tasks, by their number. -/
  fetches : List (Fetch Value Error)
  startedFor : Nat → Option Key
  /-- The fetch a caller waits for. -/
  awaiting : ι → Option Nat
  joined : ι → Option Nat
  cancelled : ι → Bool

/-- How a wait for the cache ends. -/
inductive Waited (Error α : Type)
  | returned (value : α)
  | raised (error : Error)
  | cancelled

/-- What the caller learns of it. -/
def Waited.reply {α : Type} : Waited Error α → Except (CallError Error) α
  | .returned value => .ok value
  | .raised error => .error (.cache error)
  | .cancelled => .error .cancelled

/-- Whether the caller was cancelled. -/
def Waited.isCancelled {α : Type} : Waited Error α → Bool
  | .cancelled => true
  | _ => false

/-- What is left open when a caller moves; a wait for a fetch that is over may
still be cancelled. -/
@[reducible] def CallStep.Outcome (Error : Type) : CallStep Key Value → Type
  | .cacheGet _ => Waited Error (Option Value)
  | .join _ => Unit
  | .awaitFetch _ => Bool
  | .cacheSet _ _ => Waited Error Unit
  | .release _ _ => Unit

/-- What happens without a caller. -/
inductive FlightMove (ι Value Error : Type)
  /-- A caller that waits for a fetch is cancelled. -/
  | cancel (i : ι)
  /-- The provider call of a fetch ends. -/
  | complete (fetch : Nat) (result : Except Error Value)
  /-- A cancelled fetch ends. -/
  | abort (fetch : Nat)

variable [DecidableEq ι] [DecidableEq Key]

namespace FlightWorld

/-- The world knows of a cancellation of this caller, if there was one. -/
def marking (world : FlightWorld ι Key Value Error) (i : ι) (cancelled : Bool) :
    FlightWorld ι Key Value Error :=
  { world with cancelled := Function.update world.cancelled i (cancelled || world.cancelled i) }

/-- The first block under the lock: join the fetch in flight or start one. -/
def join (world : FlightWorld ι Key Value Error) (i : ι) (key : Key) :
    (Nat × Bool) × FlightWorld ι Key Value Error :=
  match world.inflight key with
  | some fetch => ((fetch, false), { world with
      awaiting := Function.update world.awaiting i (some fetch)
      joined := Function.update world.joined i (some fetch) })
  | none =>
      let fetch := world.fetches.length
      ((fetch, true), { world with
        inflight := Function.update world.inflight key (some fetch)
        fetches := world.fetches ++ [.running]
        startedFor := Function.update world.startedFor fetch (some key)
        awaiting := Function.update world.awaiting i (some fetch)
        joined := Function.update world.joined i (some fetch) })

/-- A caller resumes from its wait for a fetch, when that has ended. -/
def resume (world : FlightWorld ι Key Value Error) (i : ι) (fetch : Nat) (cancelled : Bool) :
    Option (Except (CallError Error) Value × FlightWorld ι Key Value Error) :=
  let resumed :=
    { world.marking i cancelled with awaiting := Function.update world.awaiting i none }
  match world.fetches[fetch]? with
  | some (.ended result) =>
      some (if cancelled then .error .cancelled else result.mapError .provider, resumed)
  | some .cancelled => some (.error .cancelled, resumed)
  | _ => none

/-- The second block under the lock. -/
def release (world : FlightWorld ι Key Value Error) (key : Key) (fetch : Nat) :
    FlightWorld ι Key Value Error :=
  if world.inflight key = some fetch then
    { world with inflight := Function.update world.inflight key none }
  else world

/-- Perform one step of a caller. -/
def perform (i : ι) : (step : CallStep Key Value) → step.Outcome Error →
    FlightWorld ι Key Value Error → Option (step.Reply Error × FlightWorld ι Key Value Error)
  | .cacheGet _, waited, world => some (waited.reply, world.marking i waited.isCancelled)
  | .join key, _, world => some (world.join i key)
  | .awaitFetch fetch, cancelled, world => world.resume i fetch cancelled
  | .cacheSet _ _, waited, world => some (waited.reply, world.marking i waited.isCancelled)
  | .release key fetch, _, world => some ((), world.release key fetch)

/-- One move without a caller. -/
def disturb : FlightMove ι Value Error → FlightWorld ι Key Value Error →
    FlightWorld ι Key Value Error
  | .cancel i, world => match world.awaiting i with
    | none => world
    | some fetch => match world.fetches[fetch]? with
      | some .running | some .cancelling =>
          { world.marking i true with fetches := world.fetches.set fetch .cancelling }
      | _ => world
  | .complete fetch result, world => match world.fetches[fetch]? with
    | some .running | some .cancelling =>
        { world with fetches := world.fetches.set fetch (.ended result) }
    | _ => world
  | .abort fetch, world => match world.fetches[fetch]? with
    | some .cancelling => { world with fetches := world.fetches.set fetch .cancelled }
    | _ => world

end FlightWorld

/-- The machine of callers that share fetches. -/
def flightMachine (ι Key Value Error : Type) [DecidableEq ι] [DecidableEq Key] :
    Machine ι (@CallStep.Reply Key Value Error) (FlightWorld ι Key Value Error) where
  Outcome := CallStep.Outcome Error
  perform := FlightWorld.perform
  Disturbance := FlightMove ι Value Error
  disturb := FlightWorld.disturb

/-- No caller is cancelled while the fetch it waits for is unfinished. -/
def noWaiterCancelled (ι Key Value Error : Type) [DecidableEq ι] [DecidableEq Key] :
    Policy (flightMachine ι Key Value Error) where
  allows _ _ _ _ := True
  permits
    | .cancel i, world => ∀ fetch ∈ world.awaiting i,
        (world.fetches[fetch]?).any Fetch.unfinished = false
    | _, _ => True

instance (ι Key Value Error : Type) [DecidableEq ι] [DecidableEq Key] :
    (noWaiterCancelled ι Key Value Error).Decides where
  act _ _ _ _ := inferInstanceAs (Decidable True)
  calm
    | .cancel i, world => inferInstanceAs (Decidable (∀ fetch ∈ world.awaiting i,
        (world.fetches[fetch]?).any Fetch.unfinished = false))
    | .complete _ _, _ => inferInstanceAs (Decidable True)
    | .abort _, _ => inferInstanceAs (Decidable True)

end Cache
end DataGateway
