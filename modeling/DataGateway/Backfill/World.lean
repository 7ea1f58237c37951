import DataGateway.Backfill.Engine
import DataGateway.Coroutine.Interleaving

/-!
# The engine's world

The process with its job objects and tasks, the manifest store and the acknowledgements.  A restart
leaves the store and the acknowledgements only.
-/

namespace DataGateway
namespace Backfill

open Coroutine Machine

/-- A job object with its task. -/
structure JobObject where
  job : BackfillJob
  epoch : Nat
  task : Option TaskKind
  ended : Bool
  /-- The date whose chunk tasks are under way, and the positions of those that have not ended. -/
  date : Nat
  open_ : List Nat
  inside : List Nat
  results : List (Nat × String)
  /-- The acknowledgements that were read since the current pass began. -/
  pass : List (String × Option HeberChunkAcknowledgement)
  /-- The chunks whose processing has begun. -/
  processed : List String
  /-- The chunks that were fetched and published. -/
  republished : List String

/-- A job object without a task. -/
def JobObject.new (job : BackfillJob) (epoch : Nat) : JobObject :=
  ⟨job, epoch, none, false, 0, [], [], [], [], [], []⟩

/-- The process and what outlives it. -/
structure EngineWorld where
  now : Int
  epoch : Nat
  store : OrderedDict String BackfillJob
  acks : String → String → Option HeberChunkAcknowledgement
  /-- Every job object that was ever made. -/
  objects : List JobObject
  /-- `_jobs`. -/
  jobs : OrderedDict String Nat
  /-- `_running_tasks`. -/
  runningTasks : OrderedDict String Nat
  locks : List String
  slots : List (String × Bool)

/-- The tasks of every process. -/
inductive EngineTask
  | start (epoch : Nat)
  | submit (epoch n : Nat)
  | cancel (epoch n : Nat)
  | job (object : Nat)
  | chunk (object date position : Nat)
  deriving DecidableEq

namespace EngineWorld

/-- The first process, with what an earlier one has left. -/
def initial (store : OrderedDict String BackfillJob)
    (acks : String → String → Option HeberChunkAcknowledgement) : EngineWorld :=
  ⟨0, 0, store, acks, [], .empty, .empty, [], []⟩

/-- The task belongs to the current process. -/
def alive (world : EngineWorld) : EngineTask → Bool
  | .start epoch | .submit epoch _ | .cancel epoch _ => epoch = world.epoch
  | .job object | .chunk object _ _ => world.objects[object]?.any fun object =>
      object.epoch = world.epoch

/-- Change a job object. -/
def change (world : EngineWorld) (object : Nat) (by_ : JobObject → JobObject) : EngineWorld :=
  { world with objects := world.objects.modify object by_ }

/-- A wait that may raise. -/
def waited {α : Type} (outcome : Option Fault) (value : α) (world after : EngineWorld) :
    Option (Except Fault α × EngineWorld) :=
  match outcome with
  | none => some (.ok value, after)
  | some fault => some (.error fault, world)

end EngineWorld

/-- What the surroundings decide: a wait may raise. -/
@[reducible] def EngineCommand.Outcome : EngineCommand → Type
  | .loadJobs => Option Fault
  | .loadJob _ => Option Fault
  | .write _ _ => Option Fault
  | .acquireLock _ => Option Fault
  | .releaseLock _ => Unit
  | .runningJob _ => Unit
  | .adopt _ => Unit
  | .update _ _ => Unit
  | .startTask _ _ => Unit
  | .cancelJob _ => Unit
  | .begin _ => Unit
  | .endTask _ => Unit
  | .acquireSlot _ _ => Option Fault
  | .releaseSlot _ _ => Unit
  | .readReadiness => Except Fault Readiness
  | .spawn _ _ _ => Unit
  | .gather _ => Option Fault
  | .sleep => Option Fault
  | .enter _ _ _ => Option Fault
  | .leave _ _ _ => Unit
  | .processing _ _ => Unit
  | .acquireRate => Option Fault
  | .fetch _ _ => Except Fault ChunkEvidence
  | .publish _ _ _ => Except Fault Int
  | .beginPass _ => Unit
  | .readAck _ _ _ => Option Fault
  | .clock => Unit

namespace EngineWorld

variable (engine : BackfillEngine)

/-- The slots of a provider for feeds of a weight. -/
def slotLimit (heavy : Bool) : Nat :=
  if heavy then max 1 engine.heavyweightConcurrency else max 1 engine.lightweightConcurrency

/-- The published messages are noted where all of them were. -/
def republish (world : EngineWorld) (object : Nat) (chunkId : String) (count : Int) :
    Except Fault Int → EngineWorld
  | .ok published =>
      if published < count then world
      else world.change object fun object =>
        { object with republished := chunkId :: object.republished }
  | .error _ => world

/-- Perform a command of a task of the current process. -/
def performAlive (world : EngineWorld) : (command : EngineCommand) → command.Outcome →
    Option (command.Reply × EngineWorld)
  | .loadJobs, outcome => waited outcome (world.store.items.map Prod.snd) world world
  | .loadJob jobId, outcome => waited outcome (world.store.get? jobId) world world
  | .write _ payload, outcome =>
      waited outcome () world { world with store := world.store.set payload.jobId payload }
  | .acquireLock jobId, none =>
      if jobId ∈ world.locks then none
        else some (.ok (), { world with locks := jobId :: world.locks })
  | .acquireLock _, some fault => some (.error fault, world)
  | .releaseLock jobId, _ => some ((), { world with locks := world.locks.erase jobId })
  | .runningJob jobId, _ =>
      some ((world.runningTasks.get? jobId).any fun object =>
        world.objects[object]?.any fun object => !object.ended, world)
  | .adopt make, _ =>
      let job := make (utc world.now)
      some (world.objects.length, { world with
        objects := world.objects ++ [.new job world.epoch]
        jobs := world.jobs.set job.jobId world.objects.length })
  | .update object change, _ =>
      world.objects[object]?.map fun held =>
        (held.job, world.change object fun object =>
          { object with job := change (utc world.now) object.job })
  | .startTask object kind, _ =>
      world.objects[object]?.map fun held =>
        ((), { world.change object fun object => { object with task := some kind } with
          runningTasks := world.runningTasks.set held.job.jobId object })
  | .cancelJob jobId, _ =>
      match world.jobs.get? jobId with
      | none => some (none, world)
      | some object => match world.objects[object]? with
        | none => some (none, world)
        | some held =>
            if held.job.status = .queued ∨ held.job.status = .running then
              some (some object, world.change object fun object => { object with
                job := object.job.block .cancelled "cancelled" (utc world.now) })
            else some (none, world)
  | .begin object, _ =>
      match world.objects[object]? with
      | none => none
      | some held => held.task.map fun kind => ((kind, held.job), world)
  | .endTask object, _ =>
      world.objects[object]?.map fun held =>
        ((), { world.change object fun object => { object with ended := true } with
          runningTasks :=
            if world.runningTasks.get? held.job.jobId = some object then
              world.runningTasks.erase held.job.jobId
            else world.runningTasks })
  | .acquireSlot provider heavy, none =>
      if world.slots.count (provider, heavy) < slotLimit engine heavy then
        some (.ok (), { world with slots := (provider, heavy) :: world.slots })
      else none
  | .acquireSlot _ _, some fault => some (.error fault, world)
  | .releaseSlot provider heavy, _ =>
      some ((), { world with slots := world.slots.erase (provider, heavy) })
  | .readReadiness, outcome => some (outcome, world)
  | .spawn object date count, _ =>
      some ((), world.change object fun object =>
        { object with date := date, open_ := List.range count, inside := [], results := [] })
  | .gather object, outcome =>
      match world.objects[object]? with
      | none => none
      | some held => if held.open_ = [] then waited outcome held.results world world else none
  | .sleep, outcome => waited outcome () world world
  | .enter object date position, none =>
      match world.objects[object]? with
      | none => none
      | some held =>
          if held.date = date ∧ position ∈ held.open_ ∧ position ∉ held.inside ∧
              held.inside.length < engine.symbolConcurrency then
            some (.ok held.job, world.change object fun object =>
              { object with inside := position :: object.inside })
          else none
  | .enter object date position, some fault =>
      match world.objects[object]? with
      | none => none
      | some held =>
          if held.date = date ∧ position ∈ held.open_ ∧ position ∉ held.inside then
            some (.error fault, world)
          else none
  | .leave object position error, _ =>
      some ((), world.change object fun object => { object with
        open_ := object.open_.erase position
        inside := object.inside.erase position
        results := object.results ++ (error.map fun message => (position, message)).toList })
  | .processing object chunkId, _ =>
      some ((), world.change object fun object =>
        { object with processed := chunkId :: object.processed })
  | .acquireRate, outcome => waited outcome () world world
  | .fetch _ _, outcome => some (outcome, world)
  | .publish object chunkId count,
      outcome => some (outcome, world.republish object chunkId count outcome)
  | .beginPass object, _ =>
      world.objects[object]?.map fun held =>
        (held.job, world.change object fun object => { object with pass := [] })
  | .readAck object jobId chunkId, outcome =>
      waited outcome (world.acks jobId chunkId) world (world.change object fun object =>
        { object with pass := (chunkId, world.acks jobId chunkId) :: object.pass })
  | .clock, _ => some (world.now, world)

/-- Perform a command of a task. -/
def perform (task : EngineTask) (command : EngineCommand) (outcome : command.Outcome)
    (world : EngineWorld) : Option (command.Reply × EngineWorld) :=
  if world.alive task then world.performAlive engine command outcome else none

end EngineWorld

/-- What happens besides the tasks. -/
inductive EngineMove
  | pass (micros : Nat)
  /-- The acknowledgement of a chunk changes. -/
  | acknowledge (jobId chunkId : String) (acknowledgement : Option HeberChunkAcknowledgement)
  /-- The process ends, and another one takes its place. -/
  | restart

/-- What a move does. -/
def EngineWorld.disturb : EngineMove → EngineWorld → EngineWorld
  | .pass micros, world => { world with now := world.now + micros }
  | .acknowledge jobId chunkId acknowledgement, world =>
      { world with acks := fun job chunk =>
          if job = jobId ∧ chunk = chunkId then acknowledgement else world.acks job chunk }
  | .restart, world =>
      { world with
        epoch := world.epoch + 1
        jobs := .empty
        runningTasks := .empty
        locks := []
        slots := [] }

/-- The engine. -/
@[reducible] def backfillMachine (engine : BackfillEngine) :
    Machine EngineTask EngineCommand.Reply EngineWorld where
  Outcome := EngineCommand.Outcome
  perform task command outcome world := world.perform engine task command outcome
  Disturbance := EngineMove
  disturb := EngineWorld.disturb

/-- What clients ask of each process. -/
structure ClientCalls where
  submitted : (epoch n : Nat) → BackfillRequest
  cancelled : (epoch n : Nat) → String

/-- The engine before the first call. -/
def engineRun [Manifests] [Unicode] (engine : BackfillEngine) (calls : ClientCalls) (polls : Nat)
    (world : EngineWorld) : Config EngineTask EngineCommand.Reply Fault Unit EngineWorld where
  world := world
  tasks
    | .start _ => start
    | .submit epoch n => submit engine (calls.submitted epoch n)
    | .cancel epoch n => cancel (calls.cancelled epoch n)
    | .job object => jobTask engine polls object
    | .chunk object date position => chunkTask object date position

/-! ## A small engine -/

/-- Hashes that are short enough to be computed. -/
@[reducible] def plainManifests : Manifests where
  manifestHash request := ",".intercalate request.symbols
  chunkId _ symbol _ _ := symbol
  dateText _ := "today"

/-- One provider whose feeds are bounded by dates. -/
def plainEngine : BackfillEngine where
  providers _ := true
  dispatch _ _ := true
  capabilities _ _ := some ⟨.dateBounded, none⟩
  validCrypto _ := true
  completedMarketDay _ := true
  symbolConcurrency := 10
  lightweightConcurrency := 5
  heavyweightConcurrency := 2
  ackWaitSeconds := 60

/-- 2026-07-23. -/
def july23 : Day := ⟨739820, by decide⟩

/-- Noon of that day. -/
def noon : DateTime := utc (739820 * dayMicros + 43200000000)

/-- Bars of one day. -/
def oneDay (symbols : List String) : BackfillRequest :=
  ⟨"alpaca", "bars", symbols, july23, july23, "1Day", "normal", 1, false, by decide⟩

/-- One record. -/
def oneRecord : ChunkEvidence := ⟨1, "events", "records", noon, noon⟩

/-- Nothing fails, and every chunk has one record. -/
def nothingFails : (command : EngineCommand) → command.Outcome
  | .loadJobs => none
  | .loadJob _ => none
  | .write _ _ => none
  | .acquireLock _ => none
  | .releaseLock _ => ()
  | .runningJob _ => ()
  | .adopt _ => ()
  | .update _ _ => ()
  | .startTask _ _ => ()
  | .cancelJob _ => ()
  | .begin _ => ()
  | .endTask _ => ()
  | .acquireSlot _ _ => none
  | .releaseSlot _ _ => ()
  | .readReadiness => .ok .ready
  | .spawn _ _ _ => ()
  | .gather _ => none
  | .sleep => none
  | .enter _ _ _ => none
  | .leave _ _ _ => ()
  | .processing _ _ => ()
  | .acquireRate => none
  | .fetch _ _ => .ok oneRecord
  | .publish _ _ count => .ok count
  | .beginPass _ => ()
  | .readAck _ _ _ => none
  | .clock => ()

/-- A chunk with one published record. -/
def publishedChunk (symbol : String) : ChunkResult :=
  { BackfillJob.pendingChunk symbol symbol ⟨739820, 739820⟩ with
    status := "published"
    recordCount := 1
    recordsPublished := 1
    eventIdsSha256 := some "events"
    recordsSha256 := some "records"
    publishedAt := some noon }

/-- A job of one symbol that was published in full. -/
def publishedJob (status : BackfillStatus) (reason : Option String) : BackfillJob :=
  { BackfillJob.fresh "bf-AAPL" "AAPL" (oneDay ["AAPL"]) noon with
    status := status
    blockedReason := reason
    symbolsProgress := OrderedDict.empty.set "AAPL" ⟨"AAPL", "complete", 1, 1, 1, []⟩
    chunks := OrderedDict.empty.set "AAPL" (publishedChunk "AAPL")
    recordsPublished := 1
    gatewayCompletedAt := some noon }

end Backfill
end DataGateway
