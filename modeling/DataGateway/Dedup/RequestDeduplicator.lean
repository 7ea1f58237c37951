import DataGateway.Coroutine.Interleaving

/-!
# Request deduplication

`RequestDeduplicator`: the first call for a key fetches, and the calls that come while it does wait
for its future.  A block under a lock stripe holds no wait, so the lock never makes a call wait and
a call is cancelled only in its fetch or in its wait for the future.
-/

namespace DataGateway
namespace Dedup

open Coroutine Machine

/-- What a call raises. -/
inductive Raised (Error : Type)
  /-- `CancelledError`. -/
  | cancelled
  /-- `InvalidStateError` of a future that is done. -/
  | invalidState
  /-- An exception of the fetcher. -/
  | error (error : Error)
  deriving DecidableEq

/-- What a fetch or a call ends with. -/
abbrev Outcome (Value Error : Type) := Except (Raised Error) Value

/-- Whose future a call has. -/
inductive Role
  | leader
  | follower
  deriving DecidableEq

/-- A step of a call. -/
inductive DedupeStep (Key Value Error : Type)
  /-- The block under the lock; a leader then calls the fetcher. -/
  | enter (key : Key)
  /-- `await fetcher()`. -/
  | fetch
  /-- `await asyncio.shield(future)`. -/
  | awaitFuture (future : Nat)
  /-- `set_result`, `set_exception` or `cancel`, which do nothing to a future that is done. -/
  | settle (future : Nat) (outcome : Outcome Value Error)
  /-- The block under the lock that removes the entry. -/
  | remove (key : Key) (future : Nat)

variable {ι Key Value Error : Type}

/-- What the call learns. -/
@[reducible] def DedupeStep.Reply : DedupeStep Key Value Error → Type
  | .enter _ => Role × Nat
  | .fetch => Outcome Value Error
  | .awaitFuture _ => Outcome Value Error
  | .settle _ _ => Bool
  | .remove _ _ => Unit

/-- What is left open; a wait for the future may be cancelled. -/
@[reducible] def DedupeStep.Choice : DedupeStep Key Value Error → Type
  | .fetch => Outcome Value Error
  | .awaitFuture _ => Bool
  | _ => Unit

/-- A call. -/
abbrev DedupeCall (Key Value Error : Type) :=
  Coroutine (@DedupeStep.Reply Key Value Error) (Raised Error) Value

/-- `future.set_result(await fetcher())`. -/
def fetchResult (future : Nat) : DedupeCall Key Value Error :=
  .suspend .fetch fun fetched => (Coroutine.finish fetched).bind fun result =>
    .suspend (.settle future (.ok result)) fun pending =>
      if pending then .finish (.ok result) else raise .invalidState

/-- A leader's call: an exception is handed on, and the entry is removed whatever happens. -/
def lead (key : Key) (future : Nat) : DedupeCall Key Value Error :=
  ((fetchResult future).catching fun error =>
    .suspend (.settle future (.error error)) fun _ => raise error).resolve fun outcome =>
      .suspend (.remove key future) fun _ => .finish outcome

/-- `dedupe`. -/
def dedupe (key : Key) : DedupeCall Key Value Error :=
  .suspend (.enter key) fun
    | (.leader, future) => lead key future
    | (.follower, future) => .suspend (.awaitFuture future) .finish

/-! ## The shared state -/

/-- The pending futures; with them, whose future each one is, what future a call has, whose fetch is
in flight and what it ended with, and which waits were cancelled. -/
structure DedupWorld (ι Key Value Error : Type) where
  pending : Key → Option Nat
  futures : List (Option (Outcome Value Error))
  totalRequests : Nat
  deduplicated : Nat
  leader : Nat → Option ι
  joined : ι → Option Nat
  fetching : ι → Bool
  fetched : ι → Option (Outcome Value Error)
  cancelled : ι → Bool

namespace DedupWorld

/-- Before any call. -/
def initial : DedupWorld ι Key Value Error :=
  ⟨fun _ => none, [], 0, 0, fun _ => none, fun _ => none, fun _ => false, fun _ => none,
    fun _ => false⟩

variable [DecidableEq ι] [DecidableEq Key]

/-- The block under the lock: a call follows the pending future or leads with one of its own. -/
def enter (world : DedupWorld ι Key Value Error) (i : ι) (key : Key) :
    (Role × Nat) × DedupWorld ι Key Value Error :=
  match world.pending key with
  | some future =>
      ((.follower, future), { world with
        totalRequests := world.totalRequests + 1
        deduplicated := world.deduplicated + 1
        joined := Function.update world.joined i (some future) })
  | none =>
      let future := world.futures.length
      ((.leader, future), { world with
        totalRequests := world.totalRequests + 1
        pending := Function.update world.pending key (some future)
        futures := world.futures ++ [none]
        leader := Function.update world.leader future (some i)
        joined := Function.update world.joined i (some future)
        fetching := Function.update world.fetching i true })

omit [DecidableEq ι] [DecidableEq Key] in
/-- The future is there and is not done. -/
def isPending (world : DedupWorld ι Key Value Error) (future : Nat) : Bool :=
  match world.futures[future]? with
  | some none => true
  | _ => false

/-- Perform a step of a call. -/
def perform (i : ι) : (step : DedupeStep Key Value Error) → step.Choice →
    DedupWorld ι Key Value Error → Option (step.Reply × DedupWorld ι Key Value Error)
  | .enter key, _, world => some (world.enter i key)
  | .fetch, outcome, world =>
      some (outcome, { world with
        fetching := Function.update world.fetching i false
        fetched := Function.update world.fetched i (some outcome) })
  | .awaitFuture _, true, world =>
      some (.error .cancelled, { world with cancelled := Function.update world.cancelled i true })
  | .awaitFuture future, false, world =>
      (world.futures[future]?).join.map fun outcome => (outcome, world)
  | .settle future outcome, _, world =>
      if world.isPending future then
        some (true, { world with futures := world.futures.set future (some outcome) })
      else some (false, world)
  | .remove key future, _, world =>
      some ((),
        if world.pending key = some future then
          { world with pending := Function.update world.pending key none }
        else world)

end DedupWorld

/-- The calls over the shared state. -/
@[reducible] def deduplicator (ι Key Value Error : Type) [DecidableEq ι] [DecidableEq Key] :
    Machine ι (@DedupeStep.Reply Key Value Error) (DedupWorld ι Key Value Error) where
  Outcome := DedupeStep.Choice
  perform := DedupWorld.perform
  Disturbance := Empty
  disturb move := move.elim

/-- Any calls, each with its key. -/
def manyCalls (keys : ι → Key) :
    Config ι (@DedupeStep.Reply Key Value Error) (Raised Error) Value
      (DedupWorld ι Key Value Error) where
  world := .initial
  tasks i := dedupe (keys i)

end Dedup
end DataGateway
