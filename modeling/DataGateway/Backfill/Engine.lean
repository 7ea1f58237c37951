import DataGateway.Backfill.Job
import DataGateway.Coroutine.Basic
import DataGateway.Streaming.InputValidation

/-!
# The backfill engine

`BackfillEngine` as the tasks that it starts: a submission, the task of a job, one task for each
chunk of the date at hand, a cancellation, and the restoration at start.  They share the job objects
and the manifest store.
-/

namespace DataGateway
namespace Backfill

open Coroutine

/-! ## Commands -/

/-- What a wait may raise; the reason is the one a chunk is blocked with. -/
inductive Fault
  | cancelled
  | raised (message reason : String)

/-- An exception that says nothing about the provider. -/
def Fault.other (message : String) : Fault := .raised message (exceptionReason message)

/-- What a job's task does. -/
inductive TaskKind
  /-- `_run_job`. -/
  | run
  /-- `_verify_heber_acknowledgements`. -/
  | verify
  deriving DecidableEq

/-- What the readiness record says. -/
inductive Readiness
  | missing
  | failing (reason : String)
  | ready

/-- Where a job is saved. -/
inductive SavePoint
  /-- After a chunk has been counted, in the body of `_process_chunk`. -/
  | counted
  | other
  deriving DecidableEq

/-- What the tasks of the engine do at once, up to their next wait. -/
inductive EngineCommand
  | loadJobs
  | loadJob (jobId : String)
  /-- `manifest_store.save_job`. -/
  | write (point : SavePoint) (payload : BackfillJob)
  | acquireLock (jobId : String)
  | releaseLock (jobId : String)
  /-- The job has a task that has not ended. -/
  | runningJob (jobId : String)
  /-- A new job object, which `_jobs` holds from now on. -/
  | adopt (make : DateTime → BackfillJob)
  /-- An assignment to a job object; the reply is the job before. -/
  | update (object : Nat) (change : DateTime → BackfillJob → BackfillJob)
  | startTask (object : Nat) (kind : TaskKind)
  /-- `cancel` up to its wait. -/
  | cancelJob (jobId : String)
  /-- The task of a job begins. -/
  | begin (object : Nat)
  | endTask (object : Nat)
  | acquireSlot (provider : String) (heavy : Bool)
  | releaseSlot (provider : String) (heavy : Bool)
  | readReadiness
  /-- The chunk tasks of a date. -/
  | spawn (object date count : Nat)
  | gather (object : Nat)
  | sleep
  /-- A chunk task has its place. -/
  | enter (object date position : Nat)
  | leave (object position : Nat) (error : Option String)
  /-- `_process_chunk` begins. -/
  | processing (object : Nat) (chunkId : String)
  | acquireRate
  /-- The provider's records, normalised, validated and wrapped. -/
  | fetch (object : Nat) (chunkId : String)
  /-- `_publish_messages` of so many messages; the reply is how many were published. -/
  | publish (object : Nat) (chunkId : String) (count : Int)
  /-- A pass of `_verify_heber_acknowledgements` begins. -/
  | beginPass (object : Nat)
  | readAck (object : Nat) (jobId chunkId : String)
  | clock

/-- What a task learns. -/
@[reducible] def EngineCommand.Reply : EngineCommand → Type
  | .loadJobs => Except Fault (List BackfillJob)
  | .loadJob _ => Except Fault (Option BackfillJob)
  | .write _ _ => Except Fault Unit
  | .acquireLock _ => Except Fault Unit
  | .releaseLock _ => Unit
  | .runningJob _ => Bool
  | .adopt _ => Nat
  | .update _ _ => BackfillJob
  | .startTask _ _ => Unit
  | .cancelJob _ => Option Nat
  | .begin _ => TaskKind × BackfillJob
  | .endTask _ => Unit
  | .acquireSlot _ _ => Except Fault Unit
  | .releaseSlot _ _ => Unit
  | .readReadiness => Except Fault Readiness
  | .spawn _ _ _ => Unit
  | .gather _ => Except Fault (List (Nat × String))
  | .sleep => Except Fault Unit
  | .enter _ _ _ => Except Fault BackfillJob
  | .leave _ _ _ => Unit
  | .processing _ _ => Unit
  | .acquireRate => Except Fault Unit
  | .fetch _ _ => Except Fault ChunkEvidence
  | .publish _ _ _ => Except Fault Int
  | .beginPass _ => BackfillJob
  | .readAck _ _ _ => Except Fault (Option HeberChunkAcknowledgement)
  | .clock => Int

/-- What a task of the engine computes. -/
abbrev Working (α : Type) := Coroutine EngineCommand.Reply Fault α

/-- A reply that may be an exception. -/
def settle {α : Type} : Except Fault α → Working α
  | .ok value => .finish (.ok value)
  | .error fault => raise fault

/-- `except Exception`: a cancellation goes on. -/
def exceptRaised {α : Type} (body : Working α) (handler : (message reason : String) → Working α) :
    Working α :=
  body.catching fun
    | .cancelled => raise .cancelled
    | .raised message reason => handler message reason

/-- `_save_job`. -/
def saveJob (object : Nat) (point : SavePoint) : Working Unit :=
  .suspend (.update object fun _ job => job) fun payload => .suspend (.write point payload) settle

/-- An assignment. -/
def assign (object : Nat) (change : DateTime → BackfillJob → BackfillJob) : Working BackfillJob :=
  call (EngineCommand.update object change)

/-- `_block_job`. -/
def blockJob (object : Nat) (status : BackfillStatus) (reason : String) : Working Unit :=
  (assign object (BackfillJob.block status reason)).bind fun _ => saveJob object .other

/-- `BackfillEngine`, with what does not change while it runs. -/
structure BackfillEngine where
  providers : String → Bool
  /-- The keys of `BACKFILL_DISPATCH`. -/
  dispatch : String → String → Bool
  capabilities : String → String → Option ReplayFeedCapability
  /-- `validate_symbol(symbol, symbol_type="crypto") is None`. -/
  validCrypto : String → Bool
  /-- `_is_completed_market_day`. -/
  completedMarketDay : Day → Bool
  symbolConcurrency : Nat
  lightweightConcurrency : Nat
  heavyweightConcurrency : Nat
  ackWaitSeconds : Nat

/-- `HEAVYWEIGHT_FEEDS`. -/
def heavyweightFeeds : List String := ["trades", "option_trades", "crypto_trades"]

/-- Microseconds in a second. -/
def secondMicros : Int := 1000000

section Programs

variable [Manifests] (engine : BackfillEngine)

/-! ## Verification -/

/-- What a pass has found so far. -/
structure PassState where
  allVerified : Bool
  reason : String

/-- The body of the loop over the chunks. -/
def checkChunk (object : Nat) (jobId : String) (state : PassState) (item : String × ChunkResult) :
    Working PassState :=
  (exceptRaised ((call (EngineCommand.readAck object jobId item.2.chunkId)).bind fun reply =>
      (settle reply).bind fun acknowledgement => .finish (.ok (acknowledgement, state)))
    fun _ _ => .finish (.ok (none, ⟨false, "heber_acknowledgement_invalid"⟩))).bind
  fun (acknowledgement, state) =>
    (assign object fun _ => BackfillJob.noteAck item.1 acknowledgement).bind fun job =>
      match job.chunks.get? item.1 with
      | none => .finish (.ok state)
      | some chunk => match ackMismatch job chunk acknowledgement with
        | .error message => raise (.other message)
        | .ok none => .finish (.ok state)
        | .ok (some mismatch) => .finish (.ok ⟨false,
            if state.reason = "heber_acknowledgement_invalid" then state.reason else mismatch⟩)

/-- The first turns of the loop of `_verify_heber_acknowledgements`. -/
def poll (object : Nat) (deadline : Int) : Nat → (reason : String) →
    (alerted : Bool) → Working Unit
  | 0, _, _ => .finish (.ok ())
  | polls + 1, reason, alerted =>
      .suspend (.beginPass object) fun job =>
        (foldEach (checkChunk object job.jobId) ⟨true, reason⟩ job.chunks.items).bind fun state =>
          if state.allVerified then
            (assign object BackfillJob.setVerified).bind fun _ => saveJob object .other
          else
            .suspend .clock fun now =>
              if !alerted && deadline ≤ now then
                (blockJob object .partial_ state.reason).bind fun _ =>
                  if engine.ackWaitSeconds = 0 then .finish (.ok ())
                  else .suspend .sleep fun slept =>
                    (settle slept).bind fun _ => poll object deadline polls state.reason true
              else .suspend .sleep fun slept =>
                (settle slept).bind fun _ => poll object deadline polls state.reason alerted

/-- `_verify_heber_acknowledgements`, for so many turns. -/
def verifyHeberAcknowledgements (polls object : Nat) : Working Unit :=
  (assign object fun _ job => job).bind fun job =>
    if manifestStructureValid job && publicationEvidenceComplete job then
      .suspend .clock fun now =>
        poll engine object (now + engine.ackWaitSeconds * secondMicros) polls
          "missing_heber_acknowledgement" (job.status = .partial_)
    else blockJob object .partial_ "durable_manifest_publication_evidence_incomplete"

/-! ## Chunks -/

/-- The first words of the errors of a chunk. -/
def chunkLabel (symbol : String) (range : DateRange) : String :=
  symbol ++ " chunk " ++ Manifests.dateText range.first ++ "-" ++
    Manifests.dateText range.last ++ ": "

/-- The body of `_process_chunk`. -/
def fetchAndPublish (object : Nat) (symbol chunkId : String) (range : DateRange) : Working Unit :=
  .suspend .acquireRate fun acquired => (settle acquired).bind fun _ =>
    .suspend (.fetch object chunkId) fun fetched => (settle fetched).bind fun evidence =>
      (assign object fun _ job => job).bind fun job =>
        if (job.chunks.get? chunkId).any (·.identityChanged evidence) then
          raise (.raised (symbol ++ " returned different stable record identities on retry")
            "provider_record_identity_changed")
        else
          (assign object fun _ => BackfillJob.noteValidated chunkId evidence).bind fun _ =>
            (saveJob object .other).bind fun _ =>
              (assign object (BackfillJob.notePublishing chunkId)).bind fun _ =>
                .suspend (.publish object chunkId evidence.recordCount) fun published =>
                  (settle published).bind fun published =>
                    (assign object fun _ => BackfillJob.notePublished symbol chunkId
                      (chunkLabel symbol range ++ "sink published " ++ toString published ++ "/" ++
                        toString evidence.recordCount ++ " (partial failure)")
                      evidence.recordCount published).bind fun _ => saveJob object .counted

/-- `_process_chunk`. -/
def processChunk (object : Nat) (symbol chunkId : String) (range : DateRange) : Working Unit :=
  .suspend (.processing object chunkId) fun _ =>
    (assign object fun _ => BackfillJob.countAcknowledged symbol chunkId).bind fun job =>
      match job.chunks.get? chunkId with
      | none => raise (.other "KeyError")
      | some chunk =>
          if chunk.acknowledged then .finish (.ok ())
          else exceptRaised (fetchAndPublish object symbol chunkId range) fun message reason =>
            (assign object fun _ => BackfillJob.noteFailed symbol chunkId
              (chunkLabel symbol range ++ message) reason).bind fun _ => saveJob object .other

/-- `_bounded_chunk`. -/
def boundedChunk (object date position : Nat) : Working Unit :=
  .suspend (.enter object date position) fun entered => (settle entered).bind fun job =>
    match job.request.symbols[position]?, job.request.ranges[date]? with
    | some symbol, some range =>
        if job.status = .cancelled then .finish (.ok ())
        else if job.symbolsProgress.contains symbol then
          processChunk object symbol (chunkId job.jobId symbol range) range
        else raise (.other "KeyError")
    | _, _ => .finish (.ok ())

/-- The task of a chunk. -/
def chunkTask (object date position : Nat) : Working Unit :=
  (boundedChunk object date position).resolve fun outcome =>
    .suspend (.leave object position (match outcome with
      | .error (.raised message _) => some message
      | _ => none)) fun _ => .finish outcome

/-! ## Execution -/

/-- What is recorded of the exceptions that left the tasks of a date. -/
def noteResults (request : BackfillRequest) (range : DateRange) (results : List (Nat × String))
    (job : BackfillJob) : BackfillJob :=
  results.foldl (fun job (position, message) => match request.symbols[position]? with
    | none => job
    | some symbol => job.noteUnhandled symbol (symbol ++ ": unhandled error in chunk " ++
        Manifests.dateText range.first ++ ": " ++ message)) job

/-- One date of `_execute_job`; the state says whether the loop was left. -/
def executeDate (object : Nat) (request : BackfillRequest) (left : Bool) (date : Nat × DateRange) :
    Working Bool :=
  if left then .finish (.ok true)
  else (assign object fun _ job => job).bind fun job =>
    if job.status = .cancelled then .finish (.ok true)
    else .suspend (.spawn object date.1 request.symbols.length) fun _ =>
      .suspend (.gather object) fun gathered => (settle gathered).bind fun results =>
        (assign object fun _ => noteResults request date.2 results).bind fun _ =>
          .suspend .sleep fun slept => (settle slept).bind fun _ => .finish (.ok false)

/-- `_execute_job`. -/
def executeJob (object : Nat) (request : BackfillRequest) : Working Unit :=
  if engine.providers request.provider = false then
    raise (.other "Provider not available")
  else if engine.dispatch request.provider request.feed = false then raise (.other "KeyError")
  else
    (assign object fun _ => BackfillJob.markRunning).bind fun job =>
      if request.symbols.all job.symbolsProgress.contains then
        (foldEach (executeDate object request) false
          ((List.range request.ranges.length).zip request.ranges)).bind fun _ =>
            (assign object fun _ => BackfillJob.finalize).bind fun _ => .finish (.ok ())
      else raise (.other "KeyError")

/-- `_run_job` once it has its slot and Heber is ready. -/
def runReady (polls object : Nat) (request : BackfillRequest) : Working Unit :=
  (assign object BackfillJob.setRunning).bind fun _ => (saveJob object .other).bind fun _ =>
    (executeJob engine object request).resolve fun
      | .error .cancelled =>
          (assign object (BackfillJob.block .cancelled "cancelled")).bind fun _ =>
            (saveJob object .other).bind fun _ => raise .cancelled
      | .error (.raised message _) =>
          (assign object fun _ => BackfillJob.noteError message).bind fun _ =>
            blockJob object .failed "backfill_execution_failed"
      | .ok () =>
          (assign object fun _ job => job).bind fun job =>
            if job.failedSymbols = [] then
              (assign object BackfillJob.setPublished).bind fun _ =>
                (saveJob object .other).bind fun _ =>
                  verifyHeberAcknowledgements engine polls object
            else
              blockJob object
                (if job.failedSymbols.length = job.symbolsProgress.size then .failed else .partial_)
                ((job.blockedReason.filter (· ≠ "")).getD "partial_chunk_failure")

/-- The check of Heber's readiness; a record that cannot be read blocks the job. -/
def readReadiness (object : Nat) : Working (Option Readiness) :=
  exceptRaised (.suspend .readReadiness fun reply => (settle reply).bind fun readiness =>
      .finish (.ok (some readiness)))
    fun _ _ => (blockJob object .failed "heber_readiness_invalid").bind fun _ => .finish (.ok none)

/-- `_run_job` in its slot. -/
def runInSlot (polls object : Nat) (request : BackfillRequest) : Working Unit :=
  (readReadiness object).bind fun
    | none => .finish (.ok ())
    | some .missing => blockJob object .failed "heber_readiness_missing"
    | some (.failing reason) => blockJob object .failed reason
    | some .ready => runReady engine polls object request

/-- `_run_job`. -/
def runJob (polls object : Nat) (request : BackfillRequest) : Working Unit :=
  .suspend (.acquireSlot request.provider (request.feed ∈ heavyweightFeeds)) fun acquired =>
    (settle acquired).bind fun _ => ensuring (runInSlot engine polls object request)
      (.suspend (.releaseSlot request.provider (request.feed ∈ heavyweightFeeds)) fun _ =>
        .finish (.ok ()))

/-! ## Submission -/

/-- What a request is refused with. -/
inductive Refusal
  | unknownProvider
  | unsupportedFeed
  | dateOrder
  | wildcard
  | noSymbols
  | canary
  | cryptoSymbols (symbols : List String)

/-- `raw_symbol.strip().upper()`. -/
def normalizeSymbol [Unicode] (raw : String) : String :=
  String.ofList (Text.upperChars (Text.stripChars raw.toList))

/-- The symbol is empty or a wildcard. -/
def invalidSymbol (symbol : String) : Bool := symbol = "" || '*' ∈ symbol.toList

/-- `ALPACA_CRYPTO_FEEDS`. -/
def alpacaCryptoFeeds : List String := ["crypto_bars", "crypto_trades"]

/-- The checks of `submit`, with the request as it is submitted and the capability. -/
def acceptRequest [Unicode] (request : BackfillRequest) :
    Except Refusal (BackfillRequest × ReplayFeedCapability) :=
  let symbols := request.symbols.map normalizeSymbol
  let capability := engine.capabilities request.provider request.feed
  if engine.providers request.provider = false then .error .unknownProvider
  else if engine.dispatch request.provider request.feed = false ∧ capability.isNone then
    .error .unsupportedFeed
  else if request.end_ < request.start then .error .dateOrder
  else if symbols.any invalidSymbol then .error .wildcard
  else if symbols = [] then .error .noSymbols
  else if request.canary ∧ (symbols.length ≠ 1 ∨ request.start ≠ request.end_ ∨
      engine.completedMarketDay request.end_ = false) then .error .canary
  else if request.provider = "alpaca" ∧ request.feed ∈ alpacaCryptoFeeds ∧
      symbols.any (fun symbol => !engine.validCrypto symbol) then
    .error (.cryptoSymbols (symbols.filter fun symbol => !engine.validCrypto symbol))
  else .ok ({ request with symbols := symbols },
    capability.getD ⟨.unproven, some "provider_historical_bounds_not_proven"⟩)

/-- A job object that is saved. -/
def adoptAndSave (make : DateTime → BackfillJob) : Working Nat :=
  .suspend (.adopt make) fun object => (saveJob object .other).bind fun _ => .finish (.ok object)

/-- The end of `_submit_locked`, for a job before its tables are filled. -/
def enqueue (request : BackfillRequest) (capability : ReplayFeedCapability)
    (make : DateTime → BackfillJob) : Working Unit :=
  if request.dateChunks.isNone then raise (.other "OverflowError")
  else if capability.capability = .dateBounded then
    (adoptAndSave fun now => ((make now).withSymbols request).withChunks request).bind fun object =>
      .suspend (.startTask object .run) fun _ => .finish (.ok ())
  else
    (adoptAndSave fun now =>
      (((make now).withSymbols request).withChunks request).block .unrecoverable
      ((capability.reason.filter (· ≠ "")).getD "provider_historical_bounds_not_proven") now).bind
        fun _ => .finish (.ok ())

/-- What `_submit_locked` does with a job that it has loaded. -/
def resubmit (request : BackfillRequest) (capability : ReplayFeedCapability) (job : BackfillJob) :
    Working Unit :=
  if manifestStructureValid job then
    match job.status with
    | .unrecoverable => .suspend (.adopt fun _ => job) fun _ => .finish (.ok ())
    | .verified =>
        if publicationEvidenceComplete job then
          (adoptAndSave fun _ => job.awaitAgain).bind fun object =>
            .suspend (.startTask object .verify) fun _ => .finish (.ok ())
        else
          (adoptAndSave fun now => job.block .partial_
            "durable_manifest_publication_evidence_incomplete" now).bind fun _ => .finish (.ok ())
    | _ => enqueue request capability fun _ => job.reset
  else
    (adoptAndSave fun now => job.block .failed "durable_manifest_invalid" now).bind fun _ =>
      .finish (.ok ())

/-- `_submit_locked`. -/
def submitLocked (request : BackfillRequest) (capability : ReplayFeedCapability) : Working Unit :=
  let manifestHash := Manifests.manifestHash request
  let jobId := jobIdOf manifestHash
  .suspend (.runningJob jobId) fun
    | true => .finish (.ok ())
    | false => .suspend (.loadJob jobId) fun loaded => (settle loaded).bind fun
      | none => enqueue request capability fun now => .fresh jobId manifestHash request now
      | some job =>
          if job.manifestHash ≠ manifestHash ∨ job.request ≠ request then
            raise (.other "ValueError")
          else resubmit request capability job

/-- `submit`. -/
def submit [Unicode] (request : BackfillRequest) : Working Unit :=
  match acceptRequest engine request with
  | .error _ => raise (.other "ValueError")
  | .ok (request, capability) =>
      let jobId := jobIdOf (Manifests.manifestHash request)
      .suspend (.acquireLock jobId) fun acquired => (settle acquired).bind fun _ =>
        ensuring (submitLocked request capability)
          (.suspend (.releaseLock jobId) fun _ => .finish (.ok ()))

/-- `cancel`. -/
def cancel (jobId : String) : Working Unit :=
  .suspend (.cancelJob jobId) fun
    | none => .finish (.ok ())
    | some object => saveJob object .other

/-! ## Restart -/

/-- The body of the loop of `start`. -/
def restoreJob (payload : BackfillJob) : Working Unit :=
  .suspend (.adopt fun now => payload.restored now) fun object =>
    (if payload.restoreSaves then saveJob object .other else .finish (.ok ())).bind fun _ =>
      if manifestStructureValid payload then
        (assign object BackfillJob.resumed).bind fun job =>
          if job.checkable then
            if publicationEvidenceComplete job then
              .suspend (.startTask object .verify) fun _ => .finish (.ok ())
            else saveJob object .other
          else .finish (.ok ())
      else .finish (.ok ())

/-- `start`. -/
def start : Working Unit :=
  .suspend .loadJobs fun loaded => (settle loaded).bind fun payloads => forEach payloads restoreJob

/-! ## Tasks -/

/-- The task of a job. -/
def jobTask (polls object : Nat) : Working Unit :=
  .suspend (.begin object) fun (kind, job) =>
    ensuring
      (match kind with
        | .run => runJob engine polls object job.request
        | .verify => verifyHeberAcknowledgements engine polls object)
      (.suspend (.endTask object) fun _ => .finish (.ok ()))

end Programs

end Backfill
end DataGateway
