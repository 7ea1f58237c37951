import DataGateway.Backfill.Manifest

/-!
# What becomes of a job

The assignments that the engine makes to a job between two waits.
-/

namespace DataGateway
namespace Backfill
namespace BackfillJob

/-! ## Status -/

/-- What `_block_job` assigns. -/
def block (status : BackfillStatus) (reason : String) (now : DateTime) (job : BackfillJob) :
    BackfillJob :=
  { job with status := status, blockedReason := some reason, completedAt := some now }

/-- A job that was verified has to be verified again. -/
def awaitAgain (job : BackfillJob) : BackfillJob :=
  { job with
    status := .awaitingAck
    blockedReason := some "missing_heber_acknowledgement"
    completedAt := none
    ingestionVerifiedAt := none }

def setRunning (now : DateTime) (job : BackfillJob) : BackfillJob :=
  { job with status := .running, startedAt := some now }

def setPublished (now : DateTime) (job : BackfillJob) : BackfillJob :=
  { job with status := .awaitingAck, gatewayCompletedAt := some now }

def setVerified (now : DateTime) (job : BackfillJob) : BackfillJob :=
  { job with
    status := .verified
    blockedReason := none
    completedAt := some now
    ingestionVerifiedAt := some now }

def noteError (message : String) (job : BackfillJob) : BackfillJob :=
  { job with errors := job.errors ++ [message] }

/-! ## Restart -/

section Restart

variable [Manifests]

/-- The reasons with which `start` looks for acknowledgements. -/
def checkableReasons : List (Option String) :=
  [none, some "missing_heber_acknowledgement", some "heber_acknowledgement_invalid",
    some "heber_acknowledgement_mismatch"]

/-- What `start` makes of a loaded job at first. -/
def restored (now : DateTime) (job : BackfillJob) : BackfillJob :=
  if manifestStructureValid job then
    match job.status with
    | .verified =>
        if publicationEvidenceComplete job then job.awaitAgain
        else { job.block .partial_ "durable_manifest_publication_evidence_incomplete" now with
          ingestionVerifiedAt := none }
    | .queued | .running => job.block .failed "gateway_restart_interrupted_before_publication" now
    | .awaitingAck =>
        if job.blockedReason = none then
          { job with blockedReason := some "missing_heber_acknowledgement" }
        else job
    | _ => job
  else job.block .failed "durable_manifest_invalid" now

/-- `start` saves what it has made of the job. -/
def restoreSaves (job : BackfillJob) : Bool :=
  !manifestStructureValid job || job.status = .verified || job.status = .queued ||
    job.status = .running || (job.status = .awaitingAck && job.blockedReason = none)

/-- `start` looks for acknowledgements. -/
def checkable (job : BackfillJob) : Bool :=
  job.gatewayCompletedAt.isSome && (job.status = .awaitingAck || job.status = .partial_) &&
    job.blockedReason ∈ checkableReasons

/-- What `start` makes of a restored job. -/
def resumed (now : DateTime) (job : BackfillJob) : BackfillJob :=
  if job.checkable then
    if publicationEvidenceComplete job then { job with status := .awaitingAck }
    else job.block .partial_ "durable_manifest_publication_evidence_incomplete" now
  else job

end Restart

/-! ## Submission -/

/-- A job that was never submitted before. -/
def fresh (jobId manifestHash : String) (request : BackfillRequest) (now : DateTime) :
    BackfillJob where
  jobId := jobId
  manifestHash := manifestHash
  request := request
  status := .queued
  symbolsProgress := .empty
  chunks := .empty
  recordsPublished := 0
  errors := []
  blockedReason := none
  createdAt := now
  startedAt := none
  completedAt := none
  gatewayCompletedAt := none
  ingestionVerifiedAt := none

/-- The reset of a job that is submitted again. -/
def reset (job : BackfillJob) : BackfillJob :=
  { job with
    status := .queued
    blockedReason := none
    startedAt := none
    completedAt := none
    gatewayCompletedAt := none
    ingestionVerifiedAt := none
    errors := []
    recordsPublished := 0
    symbolsProgress := job.symbolsProgress.mapValues fun progress =>
      { progress with
        status := "pending"
        chunksComplete := 0
        recordsPublished := 0
        errors := [] } }

/-- A symbol before its first chunk. -/
def pendingSymbol (symbol : String) (chunks : Nat) : SymbolProgress :=
  ⟨symbol, "pending", chunks, 0, 0, []⟩

/-- A chunk before it is fetched. -/
def pendingChunk (chunkId symbol : String) (range : DateRange) : ChunkResult where
  chunkId := chunkId
  symbol := symbol
  requestedStart := range.start
  requestedEnd := range.end_
  status := "pending"
  returnedStart := none
  returnedEnd := none
  recordCount := 0
  recordsPublished := 0
  eventIdsSha256 := none
  recordsSha256 := none
  publishedAt := none
  acknowledged := false
  heberCommitId := none
  error := none

/-- The symbols, where there are none yet. -/
def withSymbols (request : BackfillRequest) (job : BackfillJob) : BackfillJob :=
  if job.symbolsProgress.items.isEmpty then
    { job with
      symbolsProgress := request.symbols.foldl
        (fun progress symbol => progress.set symbol (pendingSymbol symbol request.ranges.length))
          .empty }
  else job

/-- `job.chunks.setdefault` for every chunk of the request. -/
def withChunks [Manifests] (request : BackfillRequest) (job : BackfillJob) : BackfillJob :=
  { job with
    chunks := (request.symbols.flatMap fun symbol => request.ranges.map fun range =>
        (symbol, range)).foldl
      (fun chunks (symbol, range) =>
        let id := chunkId job.jobId symbol range
        if chunks.contains id then chunks
          else chunks.set id (pendingChunk id symbol range)) job.chunks }

/-! ## Execution -/

def setSymbol (symbol : String) (change : SymbolProgress → SymbolProgress) (job : BackfillJob) :
    BackfillJob :=
  { job with symbolsProgress := job.symbolsProgress.modify symbol change }

def setChunk (chunkId : String) (change : ChunkResult → ChunkResult) (job : BackfillJob) :
    BackfillJob :=
  { job with chunks := job.chunks.modify chunkId change }

/-- Every symbol of the request is running. -/
def markRunning (job : BackfillJob) : BackfillJob :=
  job.request.symbols.foldl
    (fun job symbol => job.setSymbol symbol fun progress =>
      { progress with status := "running" }) job

/-- An exception that left the task of a chunk. -/
def noteUnhandled (symbol message : String) (job : BackfillJob) : BackfillJob :=
  { (job.noteError message).setSymbol symbol fun progress =>
      { progress with errors := progress.errors ++ [message] } with
    blockedReason := some "backfill_execution_failed" }

/-- The statuses of the symbols after the last chunk. -/
def finalize (job : BackfillJob) : BackfillJob :=
  { job with
    symbolsProgress := job.symbolsProgress.mapValues fun progress =>
      if progress.status = "running" then
        { progress with status := if progress.errors = [] then "complete" else "failed" }
      else progress }

/-- The symbols that failed. -/
def failedSymbols (job : BackfillJob) : List String :=
  (job.symbolsProgress.items.filter fun item => item.2.status = "failed").map fun item =>
    item.2.symbol

/-- A symbol has one chunk more, with so many records. -/
def countChunk (symbol : String) (records : Int) (job : BackfillJob) : BackfillJob :=
  { job.setSymbol symbol fun progress => { progress with
      chunksComplete := progress.chunksComplete + 1
      recordsPublished := progress.recordsPublished + records } with
    recordsPublished := job.recordsPublished + records }

/-- `_process_chunk` up to its first wait: what was acknowledged is not fetched again. -/
def countAcknowledged (symbol chunkId : String) (job : BackfillJob) : BackfillJob :=
  match job.chunks.get? chunkId with
  | none => job
  | some chunk => if chunk.acknowledged then job.countChunk symbol chunk.recordsPublished else job

end BackfillJob

/-- What the provider's records of a chunk prove. -/
structure ChunkEvidence where
  recordCount : Int
  eventIdsSha256 : String
  recordsSha256 : String
  returnedStart : DateTime
  returnedEnd : DateTime

/-- The chunk was fetched before, with other records. -/
def ChunkResult.identityChanged (chunk : ChunkResult) (evidence : ChunkEvidence) : Bool :=
  chunk.eventIdsSha256.any (· ≠ "") && (chunk.eventIdsSha256 ≠ some evidence.eventIdsSha256 ||
    chunk.recordsSha256 ≠ some evidence.recordsSha256)

namespace BackfillJob

/-- The records of a chunk have been validated. -/
def noteValidated (chunkId : String) (evidence : ChunkEvidence) (job : BackfillJob) : BackfillJob :=
  job.setChunk chunkId fun chunk => { chunk with
    returnedStart := some evidence.returnedStart
    returnedEnd := some evidence.returnedEnd
    recordCount := evidence.recordCount
    eventIdsSha256 := some evidence.eventIdsSha256
    recordsSha256 := some evidence.recordsSha256
    status := "validated" }

/-- The chunk is about to be published. -/
def notePublishing (chunkId : String) (now : DateTime) (job : BackfillJob) : BackfillJob :=
  job.setChunk chunkId fun chunk => { chunk with publishedAt := some now }

/-- So many of the records of a chunk have been published. -/
def notePublished (symbol chunkId shortfall : String) (total published : Int) (job : BackfillJob) :
    BackfillJob :=
  let noted :=
    if published < total then
      { ((job.setSymbol symbol fun progress =>
          { progress with errors := progress.errors ++ [shortfall] }).noteError
            shortfall).setChunk chunkId
            fun chunk => { chunk with error := some shortfall, status := "partial" } with
        blockedReason := some "stream_publication_partial" }
    else job.setChunk chunkId fun chunk => { chunk with status := "published" }
  (noted.countChunk symbol published).setChunk chunkId fun chunk =>
    { chunk with recordsPublished := published }

/-- The chunk has failed. -/
def noteFailed (symbol chunkId message reason : String) (job : BackfillJob) : BackfillJob :=
  { ((job.setSymbol symbol fun progress => { progress with
        errors := progress.errors ++ [message]
        chunksComplete := progress.chunksComplete + 1 }).noteError message).setChunk chunkId
          fun chunk => { chunk with error := some message, status := "failed" } with
    blockedReason := some reason }

/-- What an acknowledgement changes of its chunk. -/
def noteAck (key : String) (acknowledgement : Option HeberChunkAcknowledgement)
    (job : BackfillJob) :
    BackfillJob :=
  match job.chunks.get? key, acknowledgement with
  | some chunk, some ack =>
      match ackMismatch job chunk (some ack) with
      | .ok none => job.setChunk key fun chunk => { chunk with
          acknowledged := true
          heberCommitId := some ack.commitId
          status := "verified" }
      | _ => job
  | _, _ => job

end BackfillJob

/-- `_exception_reason` for an exception of this type. -/
def exceptionReason (typeName : String) : String :=
  if typeName = "RateLimitExceeded" then "provider_rate_limit" else "provider_request_failed"

end Backfill
end DataGateway
