import DataGateway.Coroutine.Interleaving
import DataGateway.Python.Deque
import DataGateway.Python.Indexed
import DataGateway.Sinks.RedisBatch

/-!
# The failed-event buffer

The retry buffer of `RedisStreamsSink`: what fills it, what drains it, and `close`.  Tasks
interleave between awaits, so each command below is the code from one await to the next.  Events get
a number when they are first appended; the numbers are only there to tell the events apart.
-/

namespace DataGateway
namespace Sinks

open Coroutine Machine Indexed

/-- A buffered topic and payload. -/
structure FailedEvent (Event : Type) where
  id : Nat
  event : Event
  deriving DecidableEq, Repr

/-- `_buffer_stats`. -/
structure BufferStats where
  buffered : Nat
  drained : Nat
  evicted : Nat
  deriving DecidableEq, Repr

/-- How an await is broken off: the task is cancelled, or a `wait_for` around it times out. -/
inductive Interruption
  | cancelled
  | timeout
  deriving DecidableEq, Repr

/-- What becomes of a drain pipeline: a pipeline that answers has one reply for
every queued command. -/
inductive DrainReply (queued : Nat)
  /-- An `Exception`, a timeout of the pipeline's own `wait_for` included. -/
  | raised
  | interrupted (how : Interruption)
  | replies (answers : List XaddReply) (full : answers.length = queued)
  deriving DecidableEq, Repr

variable {ι Event : Type}

/-! ## Tasks -/

/-- What the tasks do between awaits. -/
inductive BufferCommand (Event : Type)
  /-- `_buffer_failed_event` for a new event. -/
  | buffer (event : Event)
  /-- `if not self._failed_buffer`. -/
  | pending
  /-- `self._failed_buffer and self._redis is not None`. -/
  | drainable
  /-- Take `_drain_lock`. -/
  | acquire
  /-- Give `_drain_lock` up. -/
  | release
  /-- The start of `_do_drain`, up to its first await. -/
  | snapshot
  /-- A pipeline with one `xadd` for every event of the chunk. -/
  | execute (chunk : List (FailedEvent Event))
  /-- The end of `_do_drain`, after its last await. -/
  | rebuffer (events : List (FailedEvent Event)) (drained : Nat)
  /-- The report of `close` and `self._closed = True`. -/
  | reportLost
  /-- `close` waits for the drain tasks, or cancels them. -/
  | joinDrains
  /-- `close` gives up the connection. -/
  | disconnect

/-- The answers. -/
abbrev BufferCommand.Reply (Event : Type) : BufferCommand Event → Type
  | .pending | .drainable => Bool
  | .acquire | .joinDrains => Except Interruption Unit
  | .snapshot => Option (List (FailedEvent Event))
  | .execute chunk => DrainReply chunk.length
  | _ => Unit

/-- A task of the sink. -/
abbrev BufferTask (Event α : Type) := Coroutine (BufferCommand.Reply Event) Interruption α

/-- The events of a chunk that Redis has refused. -/
def refused (chunk : List (FailedEvent Event)) (answers : List XaddReply) :
    List (FailedEvent Event) :=
  ((chunk.zip answers).filter fun (_, reply) => ¬ reply.accepted).map (·.1)

/-- The numbers of the events of a chunk that Redis has accepted. -/
def confirmed (chunk : List (FailedEvent Event)) (answers : List XaddReply) : List Nat :=
  ((chunk.zip answers).filter fun (_, reply) => reply.accepted).map (·.1.id)

/-- The loop body of `_do_drain`. -/
def drainChunk : List (FailedEvent Event) × Nat → List (FailedEvent Event) →
    BufferTask Event (List (FailedEvent Event) × Nat)
  | (reBuffer, drained), chunk => .suspend (.execute chunk) fun
      | .raised => .finish (.ok (reBuffer ++ chunk, drained))
      | .interrupted how => raise how
      | .replies answers _ => .finish (.ok
          (reBuffer ++ refused chunk answers, drained + (confirmed chunk answers).length))

/-- `_do_drain`. -/
def doDrain : BufferTask Event Unit :=
  .suspend .snapshot fun
    | none => .finish (.ok ())
    | some events =>
        (foldEach drainChunk ([], 0) (chunks batchChunkSize events)).bind fun (reBuffer, drained) =>
          .suspend (.rebuffer reBuffer drained) fun _ => .finish (.ok ())

/-- `_drain_buffer`. -/
def drainBuffer : BufferTask Event Unit :=
  .suspend .pending fun
    | false => .finish (.ok ())
    | true => .suspend .acquire fun
        | .error how => raise how
        | .ok _ => doDrain.ensuring (.suspend .release fun _ => .finish (.ok ()))

/-- `schedule_drain`, with the task that it creates. -/
def scheduleDrain : BufferTask Event Unit :=
  .suspend .drainable fun
    | false => .finish (.ok ())
    | true => drainBuffer

/-- The final attempt of `close` to drain the buffer. -/
def finalDrain : BufferTask Event Unit :=
  .suspend .drainable fun
    | false => .finish (.ok ())
    | true => doDrain.catching fun
        | .timeout => .finish (.ok ())
        | .cancelled => raise .cancelled

/-- `close`. -/
def close : BufferTask Event Unit :=
  finalDrain.bind fun _ => .suspend .reportLost fun _ =>
    .suspend .joinDrains fun
      | .error how => raise how
      | .ok _ => .suspend .disconnect fun _ => .finish (.ok ())

/-- What a task of the sink is started for. -/
inductive BufferOperation (Event : Type)
  /-- The end of a `publish` that has used up its retries, or `buffer_event`. -/
  | buffer (event : Event)
  /-- The drain task of `_ensure_connected`. -/
  | drain
  /-- `schedule_drain`. -/
  | schedule
  /-- `close`. -/
  | close

def BufferOperation.run : BufferOperation Event → BufferTask Event Unit
  | .buffer event => .suspend (.buffer event) fun _ => .finish (.ok ())
  | .drain => drainBuffer
  | .schedule => scheduleDrain
  | .close => Sinks.close

/-! ## The sink -/

/-- The shared state of the sink, with what has become of the events. -/
structure BufferWorld (ι Event : Type) where
  failedBuffer : Deque (FailedEvent Event)
  stats : BufferStats
  /-- `self._redis is not None`. -/
  connected : Bool
  closed : Bool
  drainLock : Option ι
  /-- How many events were appended. -/
  appended : Nat
  /-- The events that Redis has accepted. -/
  accepted : List Nat
  /-- The events that were dropped from a full buffer, one entry for each time the counter moves. -/
  evicted : List Nat
  /-- The snapshot of a drain that is running. -/
  snapshots : ι → List (FailedEvent Event)
  /-- The `lost_events` that were reported. -/
  reports : List Nat

namespace BufferWorld

/-- A sink as it is constructed. -/
def initial (capacity : Nat) (positive : 0 < capacity) : BufferWorld ι Event :=
  ⟨.empty capacity positive, ⟨0, 0, 0⟩, false, false, none, 0, [], [], fun _ => [], []⟩

/-- `_buffer_failed_event`. -/
def bufferFailedEvent (world : BufferWorld ι Event) (event : FailedEvent Event) :
    BufferWorld ι Event :=
  let wasFull := world.failedBuffer.full
  { world with
    failedBuffer := world.failedBuffer.append event
    stats := { world.stats with
      buffered := world.stats.buffered + 1
      evicted := if wasFull then world.stats.evicted + 1 else world.stats.evicted }
    evicted := (world.failedBuffer.dropped.map (·.id)).toList ++ world.evicted }

end BufferWorld

/-- What Redis makes of a pipeline: the events that it accepts, and what the drain hears of it. -/
structure PipelineOutcome (queued : Nat) where
  taken : List Nat
  reply : DrainReply queued

/-- The choices left open when a command is performed. -/
abbrev BufferCommand.Outcome : BufferCommand Event → Type
  | .acquire | .joinDrains => Option Interruption
  | .execute chunk => PipelineOutcome chunk.length
  | _ => Unit

variable [DecidableEq ι]

/-- Perform one command. -/
def performBuffer (i : ι) : (command : BufferCommand Event) → command.Outcome →
    BufferWorld ι Event → Option (command.Reply × BufferWorld ι Event)
  | .buffer event, _, world =>
      some ((), { world.bufferFailedEvent ⟨world.appended, event⟩ with
        appended := world.appended + 1 })
  | .pending, _, world => some (¬ world.failedBuffer.items.isEmpty, world)
  | .drainable, _, world => some (¬ world.failedBuffer.items.isEmpty && world.connected, world)
  | .acquire, some how, world => some (.error how, world)
  | .acquire, none, world =>
      if world.drainLock = none then some (.ok (), { world with drainLock := some i }) else none
  | .release, _, world => some ((), { world with drainLock := none })
  | .snapshot, _, world =>
      if world.failedBuffer.items.isEmpty ∨ ¬ world.connected then some (none, world)
      else some (some world.failedBuffer.items,
        { world with
          failedBuffer := world.failedBuffer.clear
          snapshots := Function.update world.snapshots i world.failedBuffer.items })
  | .execute chunk, ⟨taken, reply⟩, world =>
      let accepting := { world with accepted := taken ++ world.accepted }
      match reply with
      | .raised => some (.raised, accepting)
      | .interrupted how =>
          some
            (.interrupted how, { accepting with snapshots := Function.update world.snapshots i [] })
      | .replies answers full =>
          if ∀ id ∈ confirmed chunk answers, id ∈ taken then
            some (.replies answers full, accepting)
          else none
  | .rebuffer events drained, _, world =>
      let rebuffered := events.foldl BufferWorld.bufferFailedEvent world
      some ((), { rebuffered with
        stats := { rebuffered.stats with drained := rebuffered.stats.drained + drained }
        snapshots := Function.update world.snapshots i [] })
  | .reportLost, _, world =>
      let lostEvents := world.failedBuffer.items.length
      some ((), { world with
        reports := if 0 < lostEvents then lostEvents :: world.reports else world.reports
        closed := true })
  | .joinDrains, some how, world => some (.error how, world)
  | .joinDrains, none, world => some (.ok (), world)
  | .disconnect, _, world => some ((), { world with connected := false })

/-- The sink as a machine; the environment connects and resets the connection. -/
def bufferMachine (ι Event : Type) [DecidableEq ι] :
    Machine ι (BufferCommand.Reply Event) (BufferWorld ι Event) where
  Outcome := BufferCommand.Outcome
  perform := performBuffer
  Disturbance := Bool
  disturb connected world := { world with connected := connected }

end Sinks
end DataGateway
