import DataGateway.Breaker.CircuitBreaker

/-!
# The event queue of a volatile sink

`publish_all` for one volatile sink: the circuit check, the bounded queue with its timed put, and
the workers that take events from the queue.  What the deduplication cache, the breaker and the sink
answer is left open, and so is every point at which a task is cancelled.  An event is named by the
task that publishes it.
-/

namespace DataGateway
namespace Sinks

open Coroutine Machine Breaker

/-- The exceptions of publishers and workers. -/
inductive WorkError (Time : Type)
  | circuitOpen (rejection : CircuitOpenError Time)
  /-- A `RuntimeError`. -/
  | runtime (message : String)
  | raised (message : String)
  | cancelled
  deriving DecidableEq, Repr

/-- `isinstance(error, Exception)`. -/
def WorkError.isException {Time : Type} : WorkError Time → Bool
  | .cancelled => false
  | _ => true

/-- An exception of `buffer_event`, which never waits. -/
inductive BufferFailure
  | runtime
  | other
  deriving DecidableEq, Repr

/-- How the timed put ends. -/
inductive PutEnd
  | queued
  | timedOut
  | cancelled
  deriving DecidableEq, Repr

/-- Where an event is handed to `buffer_event`. -/
inductive BufferSite
  /-- `publish_all`, when the circuit is open. -/
  | precheck
  /-- `_enqueue_for_sink`, when the put has timed out. -/
  | timeout
  /-- `_safe_buffer_event`. -/
  | salvage
  deriving DecidableEq, Repr

/-- What publishers and workers wait for, or do between two waits.  Every `DataSink` has
`buffer_event`; the default of the base class declines. -/
inductive WorkCommand (ι : Type)
  /-- The start of `publish_all`: whether the registry is enabled, and the event has
  an id to check. -/
  | start
  /-- `set_nx`. -/
  | setNx
  /-- `get_circuit_breaker` in `publish_all`, and `state == OPEN and not probe_due()`. -/
  | precheck
  | bufferEvent (site : BufferSite) (event : ι)
  /-- `wait_for(queue.put(...))`. -/
  | put (event : ι)
  /-- `producer_timeout_loss` and its metric. -/
  | recordTimeoutLoss (event : ι)
  /-- `queue.get()`. -/
  | get
  /-- `get_circuit_breaker` in `_safe_publish`. -/
  | lookup
  /-- A section of the sink's breaker. -/
  | inside (part : Section)
  /-- `sink.publish`. -/
  | publish (event : ι)
  /-- `data_sink_worker_inflight_event_lost`. -/
  | recordInflightLost (event : ι)
  | taskDone
  /-- The worker's task is done. -/
  | exit
  /-- The run lets the worker go no further. -/
  | pause

/-- The answers. -/
abbrev WorkCommand.Reply (Time ι : Type) : WorkCommand ι → Type
  | .start => Option Bool
  | .setNx => Except (WorkError Time) (Option Bool)
  | .precheck => Except (WorkError Time) Bool
  | .bufferEvent .. => Except BufferFailure Bool
  | .put _ => PutEnd
  | .get => Option (Option ι)
  | .lookup => Except (WorkError Time) Unit
  | .inside part => Option (part.Reply Time)
  | .publish _ => Except (WorkError Time) Bool
  | _ => Unit

variable {Time ι α : Type}

/-- A part of a publisher or of a worker. -/
abbrev Work (Time ι α : Type) := Coroutine (WorkCommand.Reply Time ι) (WorkError Time) α

/-- Do something that has no answer. -/
def act (command : WorkCommand ι) (rest : Work Time ι α) : Work Time ι α :=
  .suspend command fun _ => rest

/-! ## Publishers -/

section Shared

variable {Command : Type} {Reply : Command → Type}

/-- A command of a publisher that is answered by a value of this type. -/
abbrev Asking (Reply : Command → Type) (Time α : Type) :=
  (α → Coroutine Reply (WorkError Time) Unit) → Coroutine Reply (WorkError Time) Unit

/-- `_enqueue_for_sink`, for its put, its call of `buffer_event` and what is noted
of a lost event. -/
def enqueueVolatile (put : Asking Reply Time PutEnd)
    (bufferEvent : Asking Reply Time (Except BufferFailure Bool))
    (recordLoss : Coroutine Reply (WorkError Time) Unit) : Coroutine Reply (WorkError Time) Unit :=
  put fun
    | .queued => .finish (.ok ())
    | .cancelled => raise .cancelled
    | .timedOut => bufferEvent fun
        | .error _ => raise (.raised "buffer_event")
        | .ok true => .finish (.ok ())
        | .ok false => recordLoss

/-- The loop body of `publish_all` for a volatile sink. -/
def publishVolatile (precheck : Asking Reply Time (Except (WorkError Time) Bool))
    (bufferEvent : Asking Reply Time (Except BufferFailure Bool))
    (enqueue : Coroutine Reply (WorkError Time) Unit) : Coroutine Reply (WorkError Time) Unit :=
  precheck fun
    | .error (.runtime _) => enqueue
    | .error error => raise error
    | .ok false => enqueue
    | .ok true => bufferEvent fun
        | .error .runtime => enqueue
        | .error .other => raise (.raised "buffer_event")
        | .ok _ => .finish (.ok ())

/-- The check of `publish_all` in the deduplication cache, before its loop. -/
def publishUnlessMarked (setNx : Asking Reply Time (Except (WorkError Time) (Option Bool)))
    (publish : Coroutine Reply (WorkError Time) Unit) : Coroutine Reply (WorkError Time) Unit :=
  setNx fun
    | .ok (some false) => .finish (.ok ())
    | .ok _ => publish
    | .error error => if error.isException then publish else raise error

end Shared

/-- `_enqueue_for_sink`. -/
def enqueueForSink (event : ι) : Work Time ι Unit :=
  enqueueVolatile (fun next => .suspend (.put event) next)
    (fun next => .suspend (.bufferEvent .timeout event) next)
    (act (.recordTimeoutLoss event) (.finish (.ok ())))

/-- The loop body of `publish_all`. -/
def publishToSink (event : ι) : Work Time ι Unit :=
  publishVolatile (fun next => .suspend .precheck next)
    (fun next => .suspend (.bufferEvent .precheck event) next) (enqueueForSink event)

/-- `publish_all`. -/
def publishAll (event : ι) : Work Time ι Unit :=
  .suspend .start fun
    | none => .finish (.ok ())
    | some false => publishToSink event
    | some true => publishUnlessMarked (fun next => .suspend .setNx next) (publishToSink event)

/-! ## Workers -/

/-- A section of the breaker, unless the worker is cancelled while it waits for the lock. -/
def runWorkSection (part : Section) : Work Time ι (part.Reply Time) :=
  .suspend (.inside part) fun
    | some reply => .finish (.ok reply)
    | none => raise .cancelled

/-- `_safe_buffer_event`. -/
def salvage (event : ι) : Work Time ι Unit :=
  .suspend (.bufferEvent .salvage event) fun
    | .ok true => .finish (.ok ())
    | _ => act (.recordInflightLost event) (.finish (.ok ()))

/-- `_call` in `_safe_publish`. -/
def callSink (event : ι) : Work Time ι Unit :=
  .suspend (.publish event) fun
    | .ok true => .finish (.ok ())
    | .ok false => raise (.runtime "sink_publish_failed")
    | .error error => raise error

/-- `_safe_publish`. -/
def safePublish (event : ι) : Work Time ι Unit :=
  (Coroutine.suspend .lookup fun
    | .error error => raise error
    | .ok _ => Breaker.call runWorkSection .circuitOpen WorkError.isException
        (callSink event)).catching
      fun
        | .circuitOpen _ => salvage event
        | error => if error.isException then .finish (.ok ()) else raise error

/-- The loop body of `_sink_worker_loop` for an event. -/
def workerTurn (event : ι) : Work Time ι Unit :=
  (safePublish event).resolve fun
    | .ok _ => act .taskDone (.finish (.ok ()))
    | .error error =>
        if error.isException then act .taskDone (.finish (.ok ()))
        else (salvage event).bind fun _ => act .taskDone (raise error)

/-- `_sink_worker_loop`, for as many events as a run lets the worker take. -/
def sinkWorkerLoop : Nat → Work Time ι Unit
  | 0 => act .pause (.finish (.ok ()))
  | turns + 1 => .suspend .get fun
      | none => act .exit (raise .cancelled)
      | some none => act .taskDone (act .exit (.finish (.ok ())))
      | some (some event) => (workerTurn event).resolve fun
          | .ok _ => sinkWorkerLoop turns
          | .error error => act .exit (raise error)

/-- What a task is for. -/
inductive Role
  | publisher
  /-- A worker, with a bound on the events that the run lets it take. -/
  | worker (turns : Nat)
  deriving DecidableEq, Repr

def Role.run (i : ι) : Role → Work Time ι Unit
  | .publisher => publishAll i
  | .worker turns => sinkWorkerLoop turns

/-! ## The registry -/

/-- The queue of the sink, with what has become of the events. -/
structure QueueWorld (ι : Type) where
  queueSize : Nat
  /-- The queued events; `none` is the shutdown sentinel. -/
  queue : List (Option ι)
  enabled : Bool
  /-- The workers whose tasks are not done. -/
  workers : List ι
  /-- The events that were given to `publish_all`. -/
  requested : List ι
  /-- The events that were skipped as duplicates. -/
  skipped : List ι
  /-- The events for which `sink.publish` has returned `True`. -/
  published : List ι
  /-- The events that the retry buffer of the sink has taken. -/
  buffered : List ι
  /-- The events that were recorded as lost. -/
  lost : List ι
  /-- The event that a task is working on. -/
  working : ι → Option ι

/-- What `sink.publish` does: its answer, and whether it has put the event in the retry buffer. -/
structure PublishOutcome (Time : Type) where
  reply : Except (WorkError Time) Bool
  keeps : Bool

/-- What has become of the event when `sink.publish` ends. -/
def QueueWorld.afterPublish (world : QueueWorld ι) (event : ι) (outcome : PublishOutcome Time) :
    QueueWorld ι :=
  { world with
    published := match outcome.reply with
      | .ok true => event :: world.published
      | _ => world.published
    buffered := if outcome.keeps then event :: world.buffered else world.buffered }

/-- The choices left open when a command is performed. -/
abbrev WorkCommand.Outcome (Time : Type) : WorkCommand ι → Type
  | .start => Bool
  | .setNx => Except (WorkError Time) (Option Bool)
  | .precheck => Except (WorkError Time) Bool
  | .bufferEvent .. => Except BufferFailure Bool
  | .put _ => PutEnd
  | .get => Bool
  | .lookup => Except (WorkError Time) Unit
  | .inside part => Option (part.Reply Time)
  | .publish _ => PublishOutcome Time
  | _ => Unit

variable [DecidableEq ι]

/-- Perform one command. -/
def performWork (i : ι) : (command : WorkCommand ι) → command.Outcome Time → QueueWorld ι →
    Option (command.Reply Time × QueueWorld ι)
  | .start, checked, world =>
      some (if world.enabled then some checked else none,
        { world with
          requested := i :: world.requested
          working := Function.update world.working i (some i) })
  | .setNx, reply, world => some (reply,
      match reply with
      | .ok (some false) => { world with skipped := i :: world.skipped }
      | _ => world)
  | .precheck, reply, world => some (reply, world)
  | .bufferEvent _ event, reply, world => some (reply,
      match reply with
      | .ok true => { world with buffered := event :: world.buffered }
      | _ => world)
  | .put event, .queued, world =>
      if world.queue.length < world.queueSize then some (.queued,
        { world with
          queue := world.queue ++ [some event]
          working := Function.update world.working i none })
      else none
  | .put _, ended, world => some (ended, world)
  | .recordTimeoutLoss event, _, world => some ((), { world with lost := event :: world.lost })
  | .get, true, world => some (none, world)
  | .get, false, world =>
      match world.queue with
      | [] => none
      | item :: rest => some (some item,
          { world with queue := rest, working := Function.update world.working i item })
  | .lookup, reply, world => some (reply, world)
  | .inside _, reply, world => some (reply, world)
  | .publish event, outcome, world => some (outcome.reply, world.afterPublish event outcome)
  | .recordInflightLost event, _, world => some ((), { world with lost := event :: world.lost })
  | .taskDone, _, world => some ((), { world with working := Function.update world.working i none })
  | .exit, _, world => some ((), { world with workers := world.workers.filter (· ≠ i) })
  | .pause, _, _ => none

/-- What happens to the registry from outside. -/
inductive QueueDisturbance
  /-- `enable` or `disable`. -/
  | enabled (value : Bool)
  /-- `drain_queues` puts a shutdown sentinel. -/
  | sentinel
  deriving DecidableEq, Repr

/-- Publishers and workers as a machine. -/
def queueMachine (ι Time : Type) [DecidableEq ι] :
    Machine ι (WorkCommand.Reply Time ι) (QueueWorld ι) where
  Outcome := WorkCommand.Outcome Time
  perform := performWork
  Disturbance := QueueDisturbance
  disturb
    | .enabled value, world => { world with enabled := value }
    | .sentinel, world =>
        if world.queue.length < world.queueSize then { world with queue := world.queue ++ [none] }
        else world

end Sinks
end DataGateway
