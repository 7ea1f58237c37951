import DataGateway.Python.Day
import DataGateway.Python.OrderedDict

/-!
# Manifests of backfill jobs

A job is cut into one chunk for every symbol and every range of dates.  What was fetched and
published for a chunk is kept with it, and outlives the process.
-/

namespace DataGateway
namespace Backfill

/-! ## Requests and jobs -/

/-- `datetime`, in microseconds, with or without a time zone. -/
structure DateTime where
  micros : Int
  aware : Bool
  deriving DecidableEq

/-- `datetime.now(UTC)`. -/
def utc (micros : Int) : DateTime := ⟨micros, true⟩

/-- `BackfillStatus`. -/
inductive BackfillStatus
  | queued
  | running
  | awaitingAck
  | partial_
  | failed
  | verified
  | unrecoverable
  | cancelled
  deriving DecidableEq

/-- `ReplayCapability`. -/
inductive ReplayCapability
  | dateBounded
  | unproven
  | unrecoverable
  deriving DecidableEq

/-- `ReplayFeedCapability`. -/
structure ReplayFeedCapability where
  capability : ReplayCapability
  reason : Option String

/-- `BackfillRequest`. -/
structure BackfillRequest where
  provider : String
  feed : String
  symbols : List String
  start : Day
  end_ : Day
  timeframe : String
  priority : String
  chunkDays : Nat
  canary : Bool
  chunkDays_bounds : 1 ≤ chunkDays ∧ chunkDays ≤ 30
  deriving DecidableEq

/-- `SymbolProgress`. -/
structure SymbolProgress where
  symbol : String
  status : String
  chunksTotal : Int
  chunksComplete : Int
  recordsPublished : Int
  errors : List String

/-- `ChunkResult`. -/
structure ChunkResult where
  chunkId : String
  symbol : String
  requestedStart : DateTime
  requestedEnd : DateTime
  status : String
  returnedStart : Option DateTime
  returnedEnd : Option DateTime
  recordCount : Int
  recordsPublished : Int
  eventIdsSha256 : Option String
  recordsSha256 : Option String
  publishedAt : Option DateTime
  acknowledged : Bool
  heberCommitId : Option String
  error : Option String

/-- `BackfillJob`. -/
structure BackfillJob where
  jobId : String
  manifestHash : String
  request : BackfillRequest
  status : BackfillStatus
  symbolsProgress : OrderedDict String SymbolProgress
  chunks : OrderedDict String ChunkResult
  recordsPublished : Int
  errors : List String
  blockedReason : Option String
  createdAt : DateTime
  startedAt : Option DateTime
  completedAt : Option DateTime
  gatewayCompletedAt : Option DateTime
  ingestionVerifiedAt : Option DateTime

/-- `HeberChunkAcknowledgement`. -/
structure HeberChunkAcknowledgement where
  jobId : String
  chunkId : String
  manifestHash : String
  recordCount : Int
  eventIdsSha256 : String
  recordsSha256 : String
  commitId : String
  committedAt : DateTime
  status : String

/-! ## Chunks -/

/-- The first and the last day of a chunk. -/
structure DateRange where
  first : Int
  last : Int
  deriving DecidableEq

/-- The microseconds of a day. -/
def dayMicros : Int := 86400000000

/-- `datetime(first.year, first.month, first.day, tzinfo=UTC)`. -/
def DateRange.start (range : DateRange) : DateTime := utc (range.first * dayMicros)

/-- `datetime(last.year, last.month, last.day, 23, 59, 59, tzinfo=UTC)`. -/
def DateRange.end_ (range : DateRange) : DateTime := utc (range.last * dayMicros + 86399000000)

/-- The loop of `_date_chunks`, which makes at most one turn for every day. -/
def dateChunksOfFrom (end_ : Day) (chunkDays : Nat) : Nat → Day → Option (List DateRange)
  | 0, _ => some []
  | turns + 1, cursor =>
      if cursor ≤ end_ then
        match cursor.addDays (chunkDays - 1) with
        | none => none
        | some whole =>
            let chunkEnd := min whole end_
            match chunkEnd.addDays 1 with
            | none => none
            | some next =>
                (dateChunksOfFrom end_ chunkDays turns next).map
                  (⟨cursor.ordinal, chunkEnd.ordinal⟩ :: ·)
      else some []

/-- `_date_chunks`; `none` is an `OverflowError`. -/
def dateChunksOf (start end_ : Day) (chunkDays : Nat) : Option (List DateRange) :=
  dateChunksOfFrom end_ chunkDays (end_.ordinal - start.ordinal + 1).toNat start

namespace BackfillRequest

/-- `_date_chunks(request.start, request.end, request.chunk_days)`. -/
def dateChunks (request : BackfillRequest) : Option (List DateRange) :=
  dateChunksOf request.start request.end_ request.chunkDays

/-- The ranges of a request; no job is made of one whose dates overflow. -/
def ranges (request : BackfillRequest) : List DateRange := request.dateChunks.getD []

end BackfillRequest

/-- The hashes, and the text of a date. -/
class Manifests where
  /-- `_manifest_hash`. -/
  manifestHash : BackfillRequest → String
  /-- `_chunk_id`. -/
  chunkId : (jobId symbol : String) → (start end_ : DateTime) → String
  /-- `str(date)`. -/
  dateText : Int → String

section Hashes

variable [Manifests]

/-- `f"bf-{manifest_hash[:32]}"`. -/
def jobIdOf (manifestHash : String) : String := "bf-" ++ String.ofList (manifestHash.toList.take 32)

/-- The id of a chunk of a symbol. -/
def chunkId (jobId symbol : String) (range : DateRange) : String :=
  Manifests.chunkId jobId symbol range.start range.end_

/-- `expected_chunks`. -/
def expectedChunks (jobId : String) (request : BackfillRequest) :
    OrderedDict String (String × DateTime × DateTime) :=
  (request.symbols.flatMap fun symbol => request.ranges.map fun range => (symbol, range)).foldl
    (fun expected (symbol, range) =>
      expected.set (chunkId jobId symbol range) (symbol, range.start, range.end_)) .empty

/-- The chunk is the one that is expected under its key. -/
def chunkExpected (expected : OrderedDict String (String × DateTime × DateTime)) (key : String)
    (chunk : ChunkResult) : Bool :=
  chunk.chunkId = key &&
    expected.get? key = some (chunk.symbol, chunk.requestedStart, chunk.requestedEnd)

/-- `_manifest_structure_valid`. -/
def manifestStructureValid (job : BackfillJob) : Bool :=
  let manifestHash := Manifests.manifestHash job.request
  let expected := expectedChunks job.jobId job.request
  !expected.items.isEmpty && job.manifestHash = manifestHash && job.jobId = jobIdOf manifestHash &&
    expected.items.all (fun item => job.chunks.contains item.1) &&
    job.chunks.items.all fun item => chunkExpected expected item.1 item.2

end Hashes

/-! ## Evidence -/

/-- The chunk was published in full. -/
def chunkPublished (chunk : ChunkResult) : Bool :=
  (chunk.status = "published" || chunk.status = "verified") && 0 < chunk.recordCount &&
    chunk.recordsPublished = chunk.recordCount && chunk.eventIdsSha256.any (· ≠ "") &&
    chunk.recordsSha256.any (· ≠ "") && chunk.publishedAt.isSome

/-- `_publication_evidence_complete`. -/
def publicationEvidenceComplete (job : BackfillJob) : Bool :=
  !job.chunks.items.isEmpty && job.chunks.items.all fun item => chunkPublished item.2

/-- `_ack_mismatch`; a time of publication without a time zone cannot be compared. -/
def ackMismatch (job : BackfillJob) (chunk : ChunkResult) :
    Option HeberChunkAcknowledgement → Except String (Option String)
  | none => .ok (some "missing_heber_acknowledgement")
  | some acknowledgement =>
      if acknowledgement.status ≠ "committed" ∨ acknowledgement.jobId ≠ job.jobId ∨
          acknowledgement.chunkId ≠ chunk.chunkId ∨
          acknowledgement.manifestHash ≠ job.manifestHash ∨
          acknowledgement.recordCount ≠ chunk.recordCount ∨
          some acknowledgement.eventIdsSha256 ≠ chunk.eventIdsSha256 ∨
          some acknowledgement.recordsSha256 ≠ chunk.recordsSha256 ∨
          acknowledgement.commitId = "" ∨ acknowledgement.committedAt.aware = false then
        .ok (some "heber_acknowledgement_mismatch")
      else match chunk.publishedAt with
        | none => .ok (some "heber_acknowledgement_mismatch")
        | some published =>
            if published.aware then
              if acknowledgement.committedAt.micros < published.micros then
                .ok (some "heber_acknowledgement_mismatch")
              else .ok none
            else .error "can't compare offset-naive and offset-aware datetimes"

end Backfill
end DataGateway
