import DataGateway.Breaker.CircuitBreaker
import DataGateway.Python.Indexed

/-!
# Batch publishing of the sink registry

`DataSinkRegistry` over any list of sinks.  What the breakers, the sinks and the event loop answer
is left open: a publish is a computation that issues commands and resumes on any reply.
-/

namespace DataGateway
namespace Sinks

open Coroutine Breaker Indexed

/-- A topic and its data. -/
abbrev Message (Data : Type) := String × Data

/-- What the registry asks a registered sink for with `getattr` and `hasattr`. -/
structure RegisteredSink where
  name : String
  /-- `_is_durable_for`. -/
  durable : String → Bool
  /-- `buffer_event` is callable. -/
  hasBuffer : Bool
  hasBatchResults : Bool
  hasBatchIndexed : Bool
  hasBatch : Bool

/-- The message is on a durable topic of the sink. -/
def RegisteredSink.keeps {Data : Type} (sink : RegisteredSink) (message : Message Data) : Bool :=
  sink.durable message.1

/-! ## Results of a batch call -/

/-- What a batch method returned, as far as the registry can tell. -/
inductive BatchResult
  | bool (value : Bool)
  | int (value : Int)
  /-- A list or a tuple, by the truth of its items. -/
  | items (flags : List Bool)
  /-- A set or a frozenset; `none` is a member that is not an `int`. -/
  | set (members : List (Option Int))
  | other
  deriving DecidableEq, Repr

/-- `_batch_result_alive`. -/
def batchResultAlive (raw : BatchResult) (n : Nat) : Bool :=
  if n = 0 then true
  else match raw with
    | .bool value => value
    | .int value => 0 < value
    | .items flags => flags.any id
    | .set members => 0 < members.length
    | .other => false

/-- `_flags_from_results`. -/
def flagsFromResults (result : BatchResult) (n : Nat) : List Bool :=
  let flags := match result with
    | .items flags => flags
    | _ => []
  (flags ++ List.replicate n false).take n

/-- `result if isinstance(result, int) else 0`. -/
def BatchResult.count : BatchResult → Int
  | .int value => value
  | .bool value => if value then 1 else 0
  | _ => 0

/-- `_flags_from_count`. -/
def flagsFromCount (result : BatchResult) (n : Nat) : List Bool :=
  if (n : Int) ≤ result.count then List.replicate n true else List.replicate n false

/-- `if isinstance(index, int) and 0 <= index < n: flags[index] = True`. -/
def markIndex (n : Nat) (flags : List Bool) : Option Int → List Bool
  | some index => if 0 ≤ index ∧ index < n then flags.set index.toNat true else flags
  | none => flags

/-- `_flags_from_indices`. -/
def flagsFromIndices (result : BatchResult) (n : Nat) : List Bool :=
  match result with
  | .set members => members.foldl (markIndex n) (List.replicate n false)
  | _ => List.replicate n false

/-- `publish_batch_results`, `publish_batch_indexed` and `publish_batch`. -/
inductive BatchMethod
  | results
  | indexed
  | count
  deriving DecidableEq, Repr

/-- The normalizer that the registry passes with a method. -/
def BatchMethod.toFlags : BatchMethod → BatchResult → Nat → List Bool
  | .results => flagsFromResults
  | .indexed => flagsFromIndices
  | .count => flagsFromCount

/-! ## Commands -/

/-- The exceptions of a batch publish. -/
inductive RegistryError (Time : Type)
  | circuitOpen (rejection : CircuitOpenError Time)
  /-- `_BatchProbeFailure`. -/
  | probeFailure
  /-- The `RuntimeError` of a breaker lookup. -/
  | lookup (message : String)
  /-- Any other exception of a sink. -/
  | raised (message : String)
  | cancelled
  deriving DecidableEq, Repr

/-- `isinstance(error, Exception)`. -/
def RegistryError.isException {Time : Type} : RegistryError Time → Bool
  | .cancelled => false
  | _ => true

/-- What a publish asks of its surroundings. -/
inductive RegistryCommand (Data : Type)
  /-- `get_circuit_breaker`, and a look at the state and at `probe_due()`. -/
  | breaker (sink : RegisteredSink)
  /-- A section of the sink's breaker. -/
  | inside (sink : RegisteredSink) (part : Section)
  | publishBatch (sink : RegisteredSink) (method : BatchMethod) (messages : List (Message Data))
  | bufferEvent (sink : RegisteredSink) (message : Message Data)
  /-- `create_task` of a `_safe_publish`. -/
  | spawn (sink : RegisteredSink) (message : Message Data)

/-- The answers. -/
abbrev RegistryCommand.Reply (Time Data : Type) : RegistryCommand Data → Type
  | .breaker _ => Except String (CircuitState × Bool)
  | .inside _ part => part.Reply Time
  | .publishBatch .. => Except (RegistryError Time) BatchResult
  | .bufferEvent .. => Except (RegistryError Time) Bool
  | .spawn .. => Unit

variable {Time Data α : Type}

/-- A part of a publish. -/
abbrev Publish (Time Data α : Type) :=
  Coroutine (RegistryCommand.Reply Time Data) (RegistryError Time) α

/-! ## One sink -/

/-- `_batch_candidates`. -/
def batchCandidates (sink : RegisteredSink) (messages : List (Message Data)) :
    Publish Time Data (List (Message Data × Nat)) :=
  let indexed := enumerateWhere (fun _ => true) messages
  let volatile := messages.filter fun message => ¬ sink.keeps message
  if volatile.isEmpty then .finish (.ok indexed)
  else .suspend (.breaker sink) fun
    | .error _ => .finish (.ok indexed)
    | .ok (state, probeDue) =>
        if state ≠ .opened ∨ probeDue then .finish (.ok indexed)
        else
          let buffered : Publish Time Data Unit :=
            if sink.hasBuffer then
              forEach volatile fun message => .suspend (.bufferEvent sink message) fun
                | .error error => raise error
                | .ok _ => .finish (.ok ())
            else .finish (.ok ())
          buffered.bind fun _ => .finish (.ok (enumerateWhere sink.keeps messages))

/-- `_safe_buffer_event`. -/
def safeBufferEvent (sink : RegisteredSink) (message : Message Data) : Publish Time Data Unit :=
  if sink.hasBuffer then .suspend (.bufferEvent sink message) fun _ => .finish (.ok ())
  else .finish (.ok ())

/-- A section of the sink's breaker as a computation. -/
def runSection (sink : RegisteredSink) (part : Section) : Publish Time Data (part.Reply Time) :=
  .suspend (.inside sink part) fun reply => .finish (.ok reply)

/-- `_probe`. -/
def probe (sink : RegisteredSink) (method : BatchMethod) (messages : List (Message Data)) :
    Publish Time Data (List Bool) :=
  .suspend (.publishBatch sink method messages) fun
    | .error error => raise error
    | .ok raw =>
        if batchResultAlive raw messages.length then
          .finish (.ok (method.toFlags raw messages.length))
        else raise .probeFailure

/-- The durable messages of a batch that its circuit has denied go to the sink directly. -/
def publishDurable (sink : RegisteredSink) (method : BatchMethod) (messages : List (Message Data)) :
    Publish Time Data (List Bool) :=
  let flags := List.replicate messages.length false
  let durableIndexed := enumerateWhere sink.keeps messages
  if durableIndexed.isEmpty then .finish (.ok flags)
  else
    let durableMessages := durableIndexed.map (·.1)
    .suspend (.publishBatch sink method durableMessages) fun
      | .ok raw => .finish (.ok
          (assign flags durableIndexed (method.toFlags raw durableMessages.length)))
      | .error error =>
          if error.isException then .finish (.ok
            (assign flags durableIndexed (List.replicate durableMessages.length false)))
          else raise error

/-- `_batch_publish_flags`. -/
def batchPublishFlags (sink : RegisteredSink) (method : BatchMethod)
    (messages : List (Message Data)) : Publish Time Data (List Bool) :=
  if messages.isEmpty then .finish (.ok [])
  else .suspend (.breaker sink) fun
    | .error message => raise (.lookup message)
    | .ok _ =>
        (Breaker.call (runSection sink) .circuitOpen RegistryError.isException
          (probe sink method messages)).resolve fun
          | .ok flags => .finish (.ok flags)
          | .error (.circuitOpen _) =>
              (forEach (messages.filter fun message => ¬ sink.keeps message)
                (safeBufferEvent sink)).bind fun _ => publishDurable sink method messages
          | .error error =>
              if error.isException then
                (forEach messages (safeBufferEvent sink)).bind fun _ =>
                  .finish (.ok (List.replicate messages.length false))
              else raise error

/-! ## All sinks -/

/-- `if ok: any_success[original_index] = True`. -/
def markIf (marks : List Bool) : (Message Data × Nat) × Bool → List Bool
  | ((_, index), true) => marks.set index true
  | (_, false) => marks

/-- The marks of a sink, at the indices its messages came from. -/
def mark (marks : List Bool) (indexed : List (Message Data × Nat))
    (flags : List Bool) : List Bool :=
  (indexed.zip flags).foldl markIf marks

/-- The loop body of `publish_all_batch_results`. -/
def resultsTurn (messages : List (Message Data)) (anySuccess : List Bool) (sink : RegisteredSink) :
    Publish Time Data (List Bool) :=
  (batchCandidates sink messages).bind fun indexed =>
    if indexed.isEmpty then .finish (.ok anySuccess)
    else if sink.hasBatchResults then
      (batchPublishFlags sink .results (indexed.map (·.1))).bind fun flags =>
        .finish (.ok (mark anySuccess indexed flags))
    else if sink.hasBatch then
      (batchPublishFlags sink .count (indexed.map (·.1))).bind fun flags =>
        .finish (.ok (mark anySuccess indexed flags))
    else
      (forEach indexed fun (message, _) => .suspend (.spawn sink message) fun _ =>
        .finish (.ok ())).bind fun _ =>
          .finish (.ok (mark anySuccess indexed (List.replicate indexed.length true)))

/-- `publish_all_batch_results`. -/
def publishAllBatchResults (enabled : Bool) (sinks : List RegisteredSink)
    (messages : List (Message Data)) : Publish Time Data (List Bool) :=
  if messages.isEmpty then .finish (.ok [])
  else if ¬ enabled ∨ sinks.isEmpty then .finish (.ok (List.replicate messages.length false))
  else foldEach (resultsTurn messages) (List.replicate messages.length false) sinks

/-- `succeeded & indices`, where `None` stands for no constraint yet. -/
def meet (succeeded : Option (List Nat)) (indices : List Nat) : List Nat :=
  match succeeded with
  | none => indices
  | some before => before.filter (· ∈ indices)

/-- The loop body of `publish_all_batch_indexed`. -/
def indexedTurn (messages : List (Message Data)) (succeeded : Option (List Nat))
    (sink : RegisteredSink) : Publish Time Data (Option (List Nat)) :=
  (batchCandidates sink messages).bind fun indexed =>
    let candidateIndices := indexed.map (·.2)
    let succeeded := meet succeeded candidateIndices
    if indexed.isEmpty then .finish (.ok (some succeeded))
    else if sink.hasBatchIndexed then
      (batchPublishFlags sink .indexed (indexed.map (·.1))).bind fun flags =>
        let sinkIndices := ((indexed.zip flags).filter (·.2)).map (·.1.2)
        .finish (.ok (some (meet (some succeeded) sinkIndices)))
    else if sink.hasBatch then
      (batchPublishFlags sink .count (indexed.map (·.1))).bind fun flags =>
        let confirmed := if flags.all id then candidateIndices else []
        .finish (.ok (some (meet (some succeeded) confirmed)))
    else
      (forEach indexed fun (message, _) => .suspend (.spawn sink message) fun _ =>
        .finish (.ok ())).bind fun _ => .finish (.ok (some succeeded))

/-- `publish_all_batch_indexed`. -/
def publishAllBatchIndexed (enabled : Bool) (sinks : List RegisteredSink)
    (messages : List (Message Data)) : Publish Time Data (List Nat) :=
  if ¬ enabled ∨ sinks.isEmpty ∨ messages.isEmpty then .finish (.ok [])
  else (foldEach (indexedTurn messages) none sinks).bind fun succeeded =>
    .finish (.ok (succeeded.getD (List.range messages.length)))

end Sinks
end DataGateway
