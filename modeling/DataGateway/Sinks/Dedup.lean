import DataGateway.Sinks.EventQueue

/-!
# Deduplicated publishing

`publish_all` over all sinks of the registry.  A call first sets the key of its event in the
deduplication cache and then offers the event to one sink after the other; a call that finds the key
there is skipped.  Whatever sinks, queues, breakers and the cache answer is left open, and so is
every point at which a call is cancelled.
-/

namespace DataGateway
namespace Sinks
namespace Dedup

open Coroutine Machine

/-- A call of `publish_all`. -/
structure PublishCall (Id : Type) where
  /-- `data.get("event_id")`, for a dictionary with an id that counts. -/
  eventId : Option Id
  /-- `_is_durable_for(sink, topic)`, for the sinks by their place. -/
  durable : Nat → Bool

/-- What a call waits for, or does between two waits. -/
inductive PublishCommand (Id : Type)
  /-- `self._enabled`. -/
  | start
  /-- `set_nx`. -/
  | setNx (eventId : Id)
  /-- `sink.publish` of a durable sink. -/
  | admission (sink : Nat)
  /-- `get_circuit_breaker`, and `state == OPEN and not probe_due()`. -/
  | precheck (sink : Nat)
  | bufferEvent (site : BufferSite) (sink : Nat)
  /-- `wait_for(queue.put(...))`. -/
  | put (sink : Nat)
  /-- The call returns or raises. -/
  | leave

/-- The answers. -/
abbrev PublishCommand.Reply (Time Id : Type) : PublishCommand Id → Type
  | .start => Bool
  | .setNx _ => Except (WorkError Time) (Option Bool)
  | .admission _ => Except (WorkError Time) Bool
  | .precheck _ => Except (WorkError Time) Bool
  | .bufferEvent _ _ => Except BufferFailure Bool
  | .put _ => PutEnd
  | .leave => Unit

variable {ι Id Time α : Type}

/-- A part of a call. -/
abbrev Publisher (Time Id α : Type) :=
  Coroutine (PublishCommand.Reply Time Id) (WorkError Time) α

/-- `_enqueue_for_sink`. -/
def enqueueForSink (sink : Nat) : Publisher Time Id Unit :=
  enqueueVolatile (fun next => .suspend (.put sink) next)
    (fun next => .suspend (.bufferEvent .timeout sink) next) (.finish (.ok ()))

/-- The loop body of `publish_all`. -/
def publishTo (call : PublishCall Id) (sink : Nat) : Publisher Time Id Unit :=
  if call.durable sink then
    .suspend (.admission sink) fun
      | .ok true => .finish (.ok ())
      | .ok false => raise (.runtime "durable_sink_admission_failed")
      | .error error => raise error
  else
    publishVolatile (fun next => .suspend (.precheck sink) next)
      (fun next => .suspend (.bufferEvent .precheck sink) next) (enqueueForSink sink)

/-- The loop of `publish_all`. -/
def publishToAll (sinks : Nat) (call : PublishCall Id) : Publisher Time Id Unit :=
  forEach (List.range sinks) (publishTo call)

/-- The id that is checked: with a durable sink or without a cache there is none. -/
def checkedId (sinks : Nat) (deduplicates : Bool) (call : PublishCall Id) : Option Id :=
  if deduplicates && !(List.range sinks).any call.durable then call.eventId else none

/-- `publish_all` past its first test. -/
def checkAndPublish (sinks : Nat) (deduplicates : Bool) (call : PublishCall Id) :
    Publisher Time Id Unit :=
  match checkedId sinks deduplicates call with
  | none => publishToAll sinks call
  | some eventId =>
      publishUnlessMarked (fun next => .suspend (.setNx eventId) next) (publishToAll sinks call)

/-- `publish_all`, for a number of sinks and with or without a deduplication cache. -/
def publishAll (sinks : Nat) (deduplicates : Bool) (call : PublishCall Id) :
    Publisher Time Id Unit :=
  (Coroutine.suspend .start fun enabled =>
    if enabled ∧ sinks ≠ 0 then checkAndPublish sinks deduplicates call
    else .finish (.ok ())).resolve fun outcome => .suspend .leave fun _ => .finish outcome

/-- A call that was skipped, with what the sinks had taken of which call by then. -/
structure Skip (ι : Type) where
  call : ι
  taken : List (ι × Nat)

/-- The registry and its deduplication cache, with what has become of the calls. -/
structure DedupWorld (ι Id : Type) where
  enabled : Bool
  /-- The keys in the deduplication cache. -/
  marked : Id → Bool
  /-- The calls that were checked and went on. -/
  passed : List ι
  skipped : List (Skip ι)
  /-- The sinks that have published, queued or buffered the event of a call. -/
  taken : List (ι × Nat)
  left : List ι

/-- How `set_nx` ends: its answer and whether the key was set. -/
structure SetNx (Time : Type) where
  reply : Except (WorkError Time) (Option Bool)
  applied : Bool

/-- The choices left open when a command is performed. -/
abbrev PublishCommand.Outcome (Time : Type) : PublishCommand Id → Type
  | .start => Unit
  | .setNx _ => SetNx Time
  | .admission _ => Except (WorkError Time) Bool
  | .precheck _ => Except (WorkError Time) Bool
  | .bufferEvent _ _ => Except BufferFailure Bool
  | .put _ => PutEnd
  | .leave => Unit

variable [DecidableEq ι] [DecidableEq Id]

/-- `set_nx` ends for a call. -/
def DedupWorld.check (world : DedupWorld ι Id) (i : ι) (eventId : Id) (outcome : SetNx Time) :
    Option (DedupWorld ι Id) :=
  let marked := Function.update world.marked eventId true
  match outcome.reply with
  | .ok (some true) =>
      if world.marked eventId then none
      else some { world with marked := marked, passed := i :: world.passed }
  | .ok (some false) =>
      if world.marked eventId then some { world with skipped := ⟨i, world.taken⟩ :: world.skipped }
      else none
  | .ok none => some
      { world with
        marked := if outcome.applied then marked else world.marked
        passed := i :: world.passed }
  | .error error => some
      { world with
        marked := if outcome.applied then marked else world.marked
        passed := if error.isException then i :: world.passed else world.passed }

/-- A sink has taken the event of a call, or not. -/
def DedupWorld.offer (world : DedupWorld ι Id) (i : ι) (sink : Nat) (takes : Bool) :
    DedupWorld ι Id :=
  if takes then { world with taken := (i, sink) :: world.taken } else world

/-- The answer says that the sink has the event. -/
def takes : (command : PublishCommand Id) → command.Reply Time → Bool
  | .admission _, .ok true => true
  | .bufferEvent _ _, .ok true => true
  | .put _, .queued => true
  | _, _ => false

/-- Perform one command. -/
def performPublish (i : ι) : (command : PublishCommand Id) → command.Outcome Time →
    DedupWorld ι Id → Option (command.Reply Time × DedupWorld ι Id)
  | .start, _, world => some (world.enabled, world)
  | .setNx eventId, outcome, world => (world.check i eventId outcome).map fun after =>
      (outcome.reply, after)
  | .admission sink, reply, world =>
      some (reply, world.offer i sink (@takes Id Time (.admission sink) reply))
  | .precheck _, reply, world => some (reply, world)
  | .bufferEvent site sink, reply, world =>
      some (reply, world.offer i sink (@takes Id Time (.bufferEvent site sink) reply))
  | .put sink, reply, world =>
      some (reply, world.offer i sink (@takes Id Time (.put sink) reply))
  | .leave, _, world => some ((), { world with left := i :: world.left })

/-- What happens without a call. -/
inductive DedupMove (Id : Type)
  /-- The key of an event expires. -/
  | expire (eventId : Id)
  /-- `enable` or `disable`. -/
  | enabled (value : Bool)

/-- Calls of `publish_all` as a machine. -/
def dedupMachine (ι Id Time : Type) [DecidableEq ι] [DecidableEq Id] :
    Machine ι (PublishCommand.Reply Time Id) (DedupWorld ι Id) where
  Outcome := PublishCommand.Outcome Time
  perform := performPublish
  Disturbance := DedupMove Id
  disturb
    | .expire eventId, world => { world with marked := Function.update world.marked eventId false }
    | .enabled value, world => { world with enabled := value }

end Dedup
end Sinks
end DataGateway
