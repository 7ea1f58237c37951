import DataGateway.Outbox.Lanes
import Mathlib.Logic.Function.Basic
import Mathlib.Logic.Relation

/-!
# The durable outbox sink

`DurableOutboxSink` as a state machine.  A step is what one task does between two points at which it
waits, and the end of a call in a worker thread is one step with the code that resumes on it.
Callers, the admission task, the drains, the children of their `gather`, threads whose caller was
cancelled, any number of `close` calls and restarts interleave in any order.
-/

namespace DataGateway
namespace Outbox

/-- The limits of a sink and of its outbox. -/
structure SinkConfig where
  maxBytes : Option Nat
  admissionQueueMaxEvents : Nat
  admissionQueueMaxBytes : Nat
  deriving DecidableEq, Repr

/-- `_MAX_ADMISSION_TRANSACTION_EVENTS`. -/
def maxTransactionEvents : Nat := 256

/-- `_MAX_ADMISSION_TRANSACTION_BYTES`. -/
def maxTransactionBytes : Nat := 16 * 1024 ^ 2

/-- `_MAX_CONCURRENT_PUBACKS`. -/
def maxConcurrentPubacks : Nat := 32

/-- What a publish call raises. -/
inductive SinkError
  /-- `RuntimeError("durable outbox sink is closed")`. -/
  | closed
  /-- `RuntimeError("durable outbox admission failed: ...")`. -/
  | admissionFailed (cause : OutboxError)
  | outbox (error : OutboxError)
  deriving DecidableEq, Repr

/-- A future that a publish call waits for. -/
inductive Future
  | pending
  | accepted
  | failed (error : SinkError)
  | cancelled
  deriving DecidableEq, Repr

/-- `_AdmissionRequest`, with the number of its future. -/
structure AdmissionRequest (Dict : Type) where
  topic : String
  data : EventData Dict
  sizeBytes : Nat
  result : Nat

abbrev AdmissionRequest.message {Dict : Type} (request : AdmissionRequest Dict) : Message Dict :=
  (request.topic, request.data)

/-- `_commit_admission_groups`: not running, between two groups, or in `admit_many` with a group. -/
inductive AdmissionTask (Dict : Type)
  | absent
  | waiting
  | committing (requests : List (AdmissionRequest Dict))

/-- How the publisher ends. -/
inductive PublishOutcome
  | acknowledged
  | rejected
  | raised (error : String)
  deriving DecidableEq, Repr

/-- The second component of `_publish_with_puback`. -/
def PublishOutcome.error : PublishOutcome → Option String
  | .acknowledged => none
  | .rejected => some "publisher returned False"
  | .raised error => some error

/-- The children of one `gather`: not started, in the publisher, ended. -/
structure Batch where
  entries : List OutboxEntry
  unstarted : List OutboxEntry
  inFlight : List OutboxEntry
  outcomes : List (OutboxEntry × PublishOutcome)
  deriving DecidableEq, Repr

namespace Batch

/-- Every child has ended. -/
def complete (batch : Batch) : Bool :=
  batch.entries.all fun entry => (batch.outcomes.lookup entry).isSome

/-- `acknowledged_sequences`. -/
def acknowledgedSequences (batch : Batch) : List Nat :=
  (batch.entries.filter fun entry => batch.outcomes.lookup entry = some .acknowledged).map
    (·.sequence)

/-- `failures`. -/
def failures (batch : Batch) : List (Nat × String) :=
  batch.entries.filterMap fun entry =>
    (batch.outcomes.lookup entry).bind fun outcome =>
      outcome.error.map fun error => (entry.sequence, error)

end Batch

/-- `_drain`. -/
inductive Drain
  /-- There is no task, or it has returned or was cancelled. -/
  | absent
  /-- The task has ended with an exception. -/
  | crashed
  /-- At the top of the loop. -/
  | looping
  /-- Waiting for the storage lock to read. -/
  | locking
  /-- In `pending`, with the lock. -/
  | reading
  /-- Waiting for the wake event. -/
  | parked
  /-- In `gather`, or waiting for the lock to settle. -/
  | publishing (batch : Batch)
  /-- In `settle_publications`, with the lock. -/
  | settling (batch : Batch)
  /-- In the retry delay. -/
  | sleeping
  deriving DecidableEq, Repr

/-- `task is None or task.done()`. -/
def Drain.done : Drain → Bool
  | .absent | .crashed => true
  | _ => false

/-- One lane: its drain, whether `_drain_tasks` has an entry, and its two events. -/
structure LaneState where
  drain : Drain
  hasTask : Bool
  wake : Bool
  settleSafe : Bool
  deriving DecidableEq, Repr

/-- Who holds the storage lock. -/
inductive Holder
  | admission
  | batch
  | drain (lane : Lane)
  deriving DecidableEq, Repr

/-- A call that a thread still has to make after its caller was cancelled. -/
inductive Job (Dict : Type)
  | admitMany (messages : List (Message Dict))
  | settle (acknowledged : List Nat) (failures : List (Nat × String))

/-- Where one call of `close` is. -/
inductive Closer
  | absent
  /-- Waiting for the storage lock. -/
  | locking
  /-- Waiting for the admission task. -/
  | joining
  /-- In `_wait_until_safe_to_cancel_drains`; the deadline may have passed. -/
  | guarding (elapsed : Bool)
  /-- Waiting for the storage lock to close the outbox. -/
  | finishing
  | done
  /-- `close` has raised the exception of a drain. -/
  | raised
  deriving DecidableEq, Repr

/-- What can be observed of a run. -/
inductive SinkEvent (Dict : Type)
  /-- A caller was told that its event was accepted. -/
  | accepted (message : Message Dict)
  /-- A publish call raised. -/
  | refused (error : SinkError)
  /-- A group of queued requests was given to `admit_many`. -/
  | committed (results : List Nat)
  /-- The publisher was called for an entry while these rows were stored. -/
  | offered (lane : Lane) (entry : OutboxEntry) (stored : List OutboxEntry)
  | acknowledged (lane : Lane) (entry : OutboxEntry)
  /-- A `settle_publications` call with these acknowledged sequences has ended, well or not. -/
  | settled (lane : Lane) (sequences : List Nat)
  | drainsCancelled (deadlineElapsed : Bool)
  | restarted

/-- `DurableOutboxSink` and its outbox. -/
structure Sink (Dict : Type) where
  config : SinkConfig
  table : Table
  /-- The connection of the outbox is open. -/
  connected : Bool
  lock : Option Holder
  admissionRequests : List (AdmissionRequest Dict)
  admissionQueuedBytes : Int
  admissionTask : AdmissionTask Dict
  admissionError : Option OutboxError
  /-- The direct batch admission that holds the lock. -/
  batch : List (Message Dict)
  closed : Bool
  lanes : Lane → LaneState
  pubackSlots : Nat
  /-- The queue of the PubAck semaphore. -/
  pubackWaiters : List (Lane × OutboxEntry)
  threads : List (Job Dict)
  closers : Nat → Closer
  /-- The futures that were created are those below `issued`. -/
  futures : Nat → Future
  issued : Nat
  /-- What has happened, the newest first. -/
  log : List (SinkEvent Dict)

namespace Sink

variable {Dict : Type}

/-- A sink as it is constructed over a table. -/
def new (config : SinkConfig) (table : Table) (futures : Nat → Future) (issued : Nat)
    (log : List (SinkEvent Dict)) : Sink Dict where
  config := config
  table := table
  connected := true
  lock := none
  admissionRequests := []
  admissionQueuedBytes := 0
  admissionTask := .absent
  admissionError := none
  batch := []
  closed := false
  lanes := fun _ => ⟨.absent, false, false, true⟩
  pubackSlots := maxConcurrentPubacks
  pubackWaiters := []
  threads := []
  closers := fun _ => .absent
  futures := futures
  issued := issued
  log := log

/-- The first sink over a new database. -/
def initial (config : SinkConfig) : Sink Dict := new config .empty (fun _ => .pending) 0 []

/-- The sink with one lane changed. -/
def setLane (sink : Sink Dict) (lane : Lane) (state : LaneState) : Sink Dict :=
  { sink with lanes := Function.update sink.lanes lane state }

/-- The sink with one drain changed. -/
def setDrain (sink : Sink Dict) (lane : Lane) (drain : Drain) : Sink Dict :=
  sink.setLane lane { sink.lanes lane with drain := drain }

def setCloser (sink : Sink Dict) (i : Nat) (closer : Closer) : Sink Dict :=
  { sink with closers := Function.update sink.closers i closer }

/-- The sink after something was observed. -/
def record (sink : Sink Dict) (events : List (SinkEvent Dict)) : Sink Dict :=
  { sink with log := events ++ sink.log }

/-! ## Admission -/

/-- `_start_drain` of a sink that is not closed. -/
def startDrain (sink : Sink Dict) (started : List Lane) : Sink Dict :=
  { sink with lanes := fun lane =>
      if lane ∈ started then
        { sink.lanes lane with
          drain := if (sink.lanes lane).drain.done then .looping else (sink.lanes lane).drain
          hasTask := true
          wake := true }
      else sink.lanes lane }

/-- Give the pending futures of some requests a result. -/
def resolve (futures : Nat → Future) (requests : List (AdmissionRequest Dict)) (outcome : Future) :
    Nat → Future := fun result =>
  if futures result = .pending ∧ requests.any (fun request => request.result = result) then outcome
    else futures result

/-- `_poison_admission`. -/
def poisonAdmission (sink : Sink Dict) (error : OutboxError) : Sink Dict :=
  { sink with
    admissionError := some error
    futures := resolve sink.futures sink.admissionRequests (.failed (.outbox error))
    admissionRequests := []
    admissionQueuedBytes := 0 }

variable [Encoding Dict]

/-- `_admission_size`. -/
def admissionSize (data : EventData Dict) : Except OutboxError Nat :=
  (serialize data).map (·.length + 512)

/-- `admit_many` of the sink's outbox. -/
def admitMany (sink : Sink Dict) (disk : Disk) (messages : List (Message Dict)) :
    Except OutboxError (List Bool) × Table :=
  if sink.connected then sink.table.admitMany sink.config.maxBytes disk messages
  else (.error .closed, sink.table)

/-- What `publish` checks under the lock. -/
def publishError (sink : Sink Dict) (sizeBytes : Nat) : Option SinkError :=
  if sink.closed then some .closed
  else match sink.admissionError with
    | some cause => some (.admissionFailed cause)
    | none =>
        if sink.config.admissionQueueMaxEvents ≤ sink.admissionRequests.length then
          some (.outbox (.capacity "durable outbox admission queue event limit reached"))
        else if sink.config.admissionQueueMaxBytes < sink.admissionQueuedBytes + sizeBytes then
          some (.outbox (.capacity "durable outbox admission queue byte limit reached"))
        else none

/-- `publish` up to its wait for the result. -/
def publish (sink : Sink Dict) (topic : String) (data : EventData Dict) : Option (Sink Dict) :=
  match admissionSize data with
  | .error error => some (sink.record [.refused (.outbox error)])
  | .ok sizeBytes =>
      if maxTransactionBytes < sizeBytes then
        some (sink.record [.refused (.outbox
          (.capacity "durable outbox admission transaction byte limit reached"))])
      else if sink.lock.isSome then none
      else match sink.publishError sizeBytes with
        | some error => some (sink.record [.refused error])
        | none => some { sink with
            admissionRequests := sink.admissionRequests ++ [⟨topic, data, sizeBytes, sink.issued⟩]
            admissionQueuedBytes := sink.admissionQueuedBytes + sizeBytes
            admissionTask := match sink.admissionTask with
              | .absent => .waiting
              | running => running
            futures := Function.update sink.futures sink.issued .pending
            issued := sink.issued + 1 }

/-- The caller of a publish is cancelled while it waits for its result. -/
def cancelCaller (sink : Sink Dict) (result : Nat) : Option (Sink Dict) :=
  if result < sink.issued ∧ sink.futures result = .pending then
    some { sink with futures := Function.update sink.futures result .cancelled }
  else none

/-- The requests at the head of the queue that fit one transaction, and the others. -/
def takeGroup : Nat → Nat → List (AdmissionRequest Dict) →
    List (AdmissionRequest Dict) × List (AdmissionRequest Dict)
  | _, _, [] => ([], [])
  | count, bytes, request :: rest =>
      if count < maxTransactionEvents ∧ bytes + request.sizeBytes ≤ maxTransactionBytes then
        let (group, left) := takeGroup (count + 1) (bytes + request.sizeBytes) rest
        (request :: group, left)
      else ([], request :: rest)

/-- The sum of `size_bytes`. -/
def totalBytes (requests : List (AdmissionRequest Dict)) : Int :=
  (requests.map fun request => (request.sizeBytes : Int)).sum

/-- The admission task takes the lock and the next group. -/
def groupBegins (sink : Sink Dict) : Option (Sink Dict) :=
  match sink.admissionTask, sink.lock with
  | .waiting, none =>
      let (requests, rest) := takeGroup 0 0 sink.admissionRequests
      let taken := { sink with
        admissionRequests := rest
        admissionQueuedBytes := sink.admissionQueuedBytes - totalBytes requests }
      if requests.isEmpty then some { taken with admissionTask := .absent }
      else if sink.closed then some { taken with
        admissionTask := .absent
        futures := resolve sink.futures requests (.failed .closed) }
      else match sink.admissionError with
        | some cause => some { taken with
            admissionTask := .absent
            futures := resolve sink.futures requests (.failed (.admissionFailed cause)) }
        | none => some { taken with
            admissionTask := .committing requests
            lock := some .admission }
  | _, _ => none

/-- `admit_many` ends for the group, and its callers are answered. -/
def groupCommits (sink : Sink Dict) (disk : Disk) : Option (Sink Dict) :=
  match sink.admissionTask with
  | .committing requests =>
      let (result, table) := sink.admitMany disk (requests.map AdmissionRequest.message)
      let released := { sink with table := table, lock := none }.record
        [.committed (requests.map AdmissionRequest.result)]
      match result with
      | .error error =>
          let poisoned := released.poisonAdmission error
          some { poisoned with
            admissionTask := .absent
            futures := resolve poisoned.futures requests (.failed (.outbox error)) }
      | .ok _ =>
          let waiting := requests.filter fun request => sink.futures request.result = .pending
          let started :=
            released.startDrain (requests.map fun request => Lane.ofTopic request.topic)
          let answered := { started with
            admissionTask := .waiting
            futures := resolve sink.futures requests .accepted }
          some (answered.record (waiting.map fun request => .accepted request.message))
  | _ => none

/-- `_validate_transaction`. -/
def validateTransaction (messages : List (Message Dict)) : Except OutboxError Unit :=
  if maxTransactionEvents < messages.length then
    .error (.capacity "durable outbox admission transaction event limit reached")
  else do
    let sizes ← messages.mapM fun message => admissionSize message.2
    if maxTransactionBytes < sizes.sum then
      .error (.capacity "durable outbox admission transaction byte limit reached")
    else return

/-- A direct batch admission up to its transaction. -/
def batchBegins (sink : Sink Dict) (messages : List (Message Dict)) : Option (Sink Dict) :=
  if messages.isEmpty then some sink
  else match validateTransaction messages with
    | .error error => some (sink.record [.refused (.outbox error)])
    | .ok () =>
        if sink.lock.isSome then none
        else if sink.closed then some (sink.record [.refused .closed])
        else match sink.admissionError with
          | some cause => some (sink.record [.refused (.admissionFailed cause)])
          | none => some { sink with lock := some .batch, batch := messages }

/-- `publish_batch_results`. -/
def publishBatchResults (sink : Sink Dict) (messages : List (Message Dict)) : Option (Sink Dict) :=
  sink.batchBegins messages

/-- `publish_flow_with_watch_batch`: every record goes to its writer and to the watch queue. -/
def publishFlowWithWatchBatch (sink : Sink Dict) (messages : List (Message Dict)) :
    Option (Sink Dict) :=
  sink.batchBegins (messages ++ messages.map fun message => ("heber:watch", message.2))

/-- `admit_many` ends for a direct batch admission. -/
def batchCommits (sink : Sink Dict) (disk : Disk) : Option (Sink Dict) :=
  if sink.lock = some .batch then
    let (result, table) := sink.admitMany disk sink.batch
    let released := { sink with table := table, lock := none, batch := [] }
    match result with
    | .error error => some ((released.poisonAdmission error).record [.refused (.outbox error)])
    | .ok _ =>
        let started := released.startDrain (sink.batch.map fun message => Lane.ofTopic message.1)
        some (started.record (sink.batch.map .accepted))
  else none

/-- The caller of a batch admission is cancelled; the thread goes on. -/
def batchCancelled (sink : Sink Dict) : Option (Sink Dict) :=
  if sink.lock = some .batch then
    some { sink with lock := none, batch := [], threads := .admitMany sink.batch :: sink.threads }
  else none

/-- A thread without a caller makes its call. -/
def threadRuns (sink : Sink Dict) (position : Nat) (disk : Disk) (fails : Bool) :
    Option (Sink Dict) :=
  match sink.threads[position]? with
  | none => none
  | some (.admitMany messages) => some { sink with
      table := (sink.admitMany disk messages).2
      threads := sink.threads.eraseIdx position }
  | some (.settle acknowledged failures) => some { sink with
      table := if sink.connected then
          (sink.table.settlePublications fails acknowledged failures).2
        else sink.table
      threads := sink.threads.eraseIdx position }

/-! ## Drains -/

/-- `schedule_drain`. -/
def scheduleDrain (sink : Sink Dict) : Option (Sink Dict) :=
  if sink.closed then some (sink.record [.refused .closed]) else some (sink.startDrain Lane.all)

/-- `start`. -/
def start (sink : Sink Dict) : Option (Sink Dict) :=
  if sink.lock.isSome then none else sink.scheduleDrain

/-- The top of the loop of a drain. -/
def drainLoops (sink : Sink Dict) (lane : Lane) : Option (Sink Dict) :=
  if (sink.lanes lane).drain = .looping then
    some (sink.setLane lane { sink.lanes lane with drain := .locking, wake := false })
  else none

/-- A drain takes the lock to read. -/
def drainLocks (sink : Sink Dict) (lane : Lane) : Option (Sink Dict) :=
  if (sink.lanes lane).drain = .locking ∧ sink.lock = none then
    some { sink.setDrain lane .reading with lock := some (.drain lane) }
  else none

/-- `pending` ends for a drain; if it raises, so does the task. -/
def drainReads (sink : Sink Dict) (lane : Lane) (fails : Bool) : Option (Sink Dict) :=
  if (sink.lanes lane).drain = .reading then
    let released := { sink with lock := none }
    if fails ∨ ¬ sink.connected then some (released.setDrain lane .crashed)
    else match sink.table.pending maxTransactionEvents (some lane) with
      | .error _ => some (released.setDrain lane .crashed)
      | .ok [] => some (released.setDrain lane (if sink.closed then .absent else .parked))
      | .ok entries => some (released.setDrain lane (.publishing ⟨entries, entries, [], []⟩))
  else none

/-- A drain goes on after its wake event was set, or after its retry delay. -/
def drainWakes (sink : Sink Dict) (lane : Lane) : Option (Sink Dict) :=
  if (sink.lanes lane).drain = .sleeping ∨
      (sink.lanes lane).drain = .parked ∧ (sink.lanes lane).wake then
    some (sink.setDrain lane .looping)
  else none

/-- The publisher is called for an entry, which takes a slot of the semaphore. -/
def offer (sink : Sink Dict) (lane : Lane) (batch : Batch) (entry : OutboxEntry) : Sink Dict :=
  ({ sink with pubackSlots := sink.pubackSlots - 1 }.setDrain lane
    (.publishing { batch with inFlight := batch.inFlight ++ [entry] })).record
      [.offered lane entry sink.table.rows]

/-- The next child of a drain's `gather` starts; it queues up unless a slot is free at once. -/
def childStarts (sink : Sink Dict) (lane : Lane) : Option (Sink Dict) :=
  match (sink.lanes lane).drain with
  | .publishing batch =>
      match batch.unstarted with
      | [] => none
      | entry :: rest =>
          let begun := { batch with unstarted := rest }
          if sink.pubackSlots = 0 ∨ sink.pubackWaiters ≠ [] then
            some { sink.setDrain lane (.publishing begun) with
              pubackWaiters := sink.pubackWaiters ++ [(lane, entry)] }
          else some (sink.offer lane begun entry)
  | _ => none

/-- The head of the semaphore's queue takes a free slot. -/
def waiterAcquires (sink : Sink Dict) : Option (Sink Dict) :=
  match sink.pubackWaiters with
  | [] => none
  | (lane, entry) :: rest =>
      match (sink.lanes lane).drain with
      | .publishing batch =>
          if sink.pubackSlots = 0 then none
          else some ({ sink with pubackWaiters := rest }.offer lane batch entry)
      | _ => none

/-- The publisher ends for an entry. -/
def publisherReturns (sink : Sink Dict) (lane : Lane) (entry : OutboxEntry)
    (outcome : PublishOutcome) : Option (Sink Dict) :=
  match (sink.lanes lane).drain with
  | .publishing batch =>
      if entry ∈ batch.inFlight then
        let ended := Drain.publishing { batch with
          inFlight := batch.inFlight.erase entry
          outcomes := (entry, outcome) :: batch.outcomes }
        let state := sink.lanes lane
        let released := { sink with pubackSlots := sink.pubackSlots + 1 }
        if outcome = .acknowledged then
          some ((released.setLane lane { state with drain := ended, settleSafe := false }).record
            [.acknowledged lane entry])
        else some (released.setLane lane { state with drain := ended })
      else none
  | _ => none

/-- A drain whose children have all ended takes the lock to settle. -/
def drainSettles (sink : Sink Dict) (lane : Lane) : Option (Sink Dict) :=
  match (sink.lanes lane).drain with
  | .publishing batch =>
      if batch.complete ∧ sink.lock = none then
        some { sink.setDrain lane (.settling batch) with lock := some (.drain lane) }
      else none
  | _ => none

/-- `settle_publications` ends for a drain. -/
def drainSettled (sink : Sink Dict) (lane : Lane) (fails : Bool) : Option (Sink Dict) :=
  match (sink.lanes lane).drain with
  | .settling batch =>
      let (result, table) :=
        if sink.connected then
          sink.table.settlePublications fails batch.acknowledgedSequences batch.failures
        else (.error .closed, sink.table)
      let next := match result with
        | .error _ => Drain.sleeping
        | .ok _ => if batch.failures.isEmpty then .looping else .sleeping
      let settled := { sink with table := table, lock := none }.setLane lane
        { sink.lanes lane with drain := next, settleSafe := true }
      some (settled.record [.settled lane batch.acknowledgedSequences])
  | _ => none

/-! ## Shutdown -/

/-- `close` is called. -/
def closeCalled (sink : Sink Dict) (i : Nat) : Option (Sink Dict) :=
  if sink.closers i = .absent then
    some (sink.setCloser i (if sink.closed then .done else .locking))
  else none

/-- `close` takes the lock, marks the sink closed and fails the queued requests. -/
def closeLocks (sink : Sink Dict) (i : Nat) : Option (Sink Dict) :=
  if sink.closers i = .locking ∧ sink.lock = none then
    some ({ sink with
      closed := true
      futures := resolve sink.futures sink.admissionRequests (.failed .closed)
      admissionRequests := []
      admissionQueuedBytes := 0 }.setCloser i .joining)
  else none

/-- The admission task has ended, and `close` wakes the drains. -/
def closeJoins (sink : Sink Dict) (i : Nat) : Option (Sink Dict) :=
  match sink.closers i, sink.admissionTask with
  | .joining, .absent =>
      let woken := { sink with lanes := fun lane => { sink.lanes lane with wake := true } }
      some (woken.setCloser i
        (if Lane.all.any fun lane => (sink.lanes lane).hasTask then .guarding false
          else .finishing))
  | _, _ => none

/-- The shutdown deadline passes. -/
def deadlinePasses (sink : Sink Dict) (i : Nat) : Option (Sink Dict) :=
  if sink.closers i = .guarding false then some (sink.setCloser i (.guarding true)) else none

/-- The job that a cancelled drain leaves to its thread. -/
def leftBehind : Drain → List (Job Dict)
  | .settling batch => [.settle batch.acknowledgedSequences batch.failures]
  | _ => []

/-- The slots of the semaphore that a cancelled drain gives back. -/
def slotsHeld : Drain → Nat
  | .publishing batch => batch.inFlight.length
  | _ => 0

/-- What a drain is after it was cancelled. -/
def cancelDrain : Drain → Drain
  | .crashed => .crashed
  | _ => .absent

/-- `close` sees that every lane is safe, or that the deadline has passed, cancels the drains and
waits for them.  The exception of a drain that had crashed leaves `close`. -/
def closeCancels (sink : Sink Dict) (i : Nat) : Option (Sink Dict) :=
  match sink.closers i with
  | .guarding elapsed =>
      if (Lane.all.all fun lane => (sink.lanes lane).settleSafe) ∨ elapsed then
        let raises := Lane.all.any fun lane => (sink.lanes lane).drain = .crashed
        let cancelled := { sink with
          lanes := fun lane => { sink.lanes lane with
            drain := cancelDrain (sink.lanes lane).drain
            hasTask := (sink.lanes lane).hasTask && raises }
          lock := match sink.lock with
            | some (.drain _) => none
            | held => held
          pubackSlots := sink.pubackSlots +
            (Lane.all.map fun lane => slotsHeld (sink.lanes lane).drain).sum
          pubackWaiters := []
          threads := (Lane.all.flatMap fun lane => leftBehind (sink.lanes lane).drain) ++
            sink.threads }
        some ((cancelled.setCloser i (if raises then .raised else .finishing)).record
          [.drainsCancelled elapsed])
      else none
  | _ => none

/-- `close` closes the outbox. -/
def closeFinishes (sink : Sink Dict) (i : Nat) : Option (Sink Dict) :=
  if sink.closers i = .finishing ∧ sink.lock = none then
    some ({ sink with connected := false }.setCloser i .done)
  else none

/-- The process ends, at any point, and a new one opens the same database.  The callers that were
waiting are gone. -/
def restart (sink : Sink Dict) (config : SinkConfig) : Sink Dict :=
  new config sink.table
    (fun result => if sink.futures result = .pending then .cancelled else sink.futures result)
    sink.issued (.restarted :: sink.log)

/-! ## Steps -/

/-- What happens next. -/
inductive Action (Dict : Type)
  | start
  | scheduleDrain
  | publish (topic : String) (data : EventData Dict)
  | cancelCaller (result : Nat)
  | groupBegins
  | groupCommits (disk : Disk)
  | publishBatchResults (messages : List (Message Dict))
  | publishFlowWithWatchBatch (messages : List (Message Dict))
  | batchCommits (disk : Disk)
  | batchCancelled
  | threadRuns (position : Nat) (disk : Disk) (fails : Bool)
  | drainLoops (lane : Lane)
  | drainLocks (lane : Lane)
  | drainReads (lane : Lane) (fails : Bool)
  | drainWakes (lane : Lane)
  | childStarts (lane : Lane)
  | waiterAcquires
  | publisherReturns (lane : Lane) (entry : OutboxEntry) (outcome : PublishOutcome)
  | drainSettles (lane : Lane)
  | drainSettled (lane : Lane) (fails : Bool)
  | closeCalled (i : Nat)
  | closeLocks (i : Nat)
  | closeJoins (i : Nat)
  | deadlinePasses (i : Nat)
  | closeCancels (i : Nat)
  | closeFinishes (i : Nat)
  | restart (config : SinkConfig)

/-- Take a step, if it is possible here. -/
def step (sink : Sink Dict) : Action Dict → Option (Sink Dict)
  | .start => sink.start
  | .scheduleDrain => sink.scheduleDrain
  | .publish topic data => sink.publish topic data
  | .cancelCaller result => sink.cancelCaller result
  | .groupBegins => sink.groupBegins
  | .groupCommits disk => sink.groupCommits disk
  | .publishBatchResults messages => sink.publishBatchResults messages
  | .publishFlowWithWatchBatch messages => sink.publishFlowWithWatchBatch messages
  | .batchCommits disk => sink.batchCommits disk
  | .batchCancelled => sink.batchCancelled
  | .threadRuns position disk fails => sink.threadRuns position disk fails
  | .drainLoops lane => sink.drainLoops lane
  | .drainLocks lane => sink.drainLocks lane
  | .drainReads lane fails => sink.drainReads lane fails
  | .drainWakes lane => sink.drainWakes lane
  | .childStarts lane => sink.childStarts lane
  | .waiterAcquires => sink.waiterAcquires
  | .publisherReturns lane entry outcome => sink.publisherReturns lane entry outcome
  | .drainSettles lane => sink.drainSettles lane
  | .drainSettled lane fails => sink.drainSettled lane fails
  | .closeCalled i => sink.closeCalled i
  | .closeLocks i => sink.closeLocks i
  | .closeJoins i => sink.closeJoins i
  | .deadlinePasses i => sink.deadlinePasses i
  | .closeCancels i => sink.closeCancels i
  | .closeFinishes i => sink.closeFinishes i
  | .restart config => some (sink.restart config)

/-- A run of the sink. -/
def Runs : Sink Dict → Sink Dict → Prop :=
  Relation.ReflTransGen fun before after => ∃ action, before.step action = some after

/-- What every step keeps holds at the end of a run. -/
theorem Runs.keeps {P : Sink Dict → Prop} {first last : Sink Dict} (run : Runs first last)
    (step : ∀ sink action after, sink.step action = some after → P sink → P after)
    (start : P first) : P last := by
  induction run with
  | refl => exact start
  | tail _ stepped ih =>
      obtain ⟨action, stepped⟩ := stepped
      exact step _ action _ stepped ih

/-- Take steps one after the other. -/
def play (sink : Sink Dict) : List (Action Dict) → Option (Sink Dict)
  | [] => some sink
  | action :: rest => (sink.step action).bind fun after => after.play rest

theorem play_runs {actions : List (Action Dict)} {first last : Sink Dict}
    (played : first.play actions = some last) : Runs first last := by
  induction actions generalizing first with
  | nil =>
      obtain rfl := Option.some.inj played
      exact .refl
  | cons action rest ih =>
      obtain ⟨after, stepped, remaining⟩ := Option.bind_eq_some_iff.mp played
      exact .head ⟨action, stepped⟩ (ih remaining)

end Sink

end Outbox
end DataGateway
