import DataGateway.Backfill.Restart

/-!
# Evidence for a job

What a verification goes by: the chunks of the manifest with their counts and digests.
An acknowledgement that is noted leaves it as it is, and so does every assignment that is
not about a chunk.
-/

namespace DataGateway
namespace Backfill

/-- A chunk without what an acknowledgement changes of it. -/
def ChunkResult.bare (chunk : ChunkResult) : ChunkResult :=
  { chunk with status := "", acknowledged := false, heberCommitId := none }

/-- The same evidence: an acknowledgement may have been noted. -/
structure SameEvidence (job other : BackfillJob) : Prop where
  jobId : other.jobId = job.jobId
  manifestHash : other.manifestHash = job.manifestHash
  request : other.request = job.request
  chunks : other.chunks.mapValues ChunkResult.bare = job.chunks.mapValues ChunkResult.bare

theorem SameEvidence.refl (job : BackfillJob) : SameEvidence job job := ⟨rfl, rfl, rfl, rfl⟩

theorem SameEvidence.trans {job middle last : BackfillJob} (first : SameEvidence job middle)
    (second : SameEvidence middle last) : SameEvidence job last :=
  ⟨second.jobId.trans first.jobId, second.manifestHash.trans first.manifestHash,
    second.request.trans first.request, second.chunks.trans first.chunks⟩

theorem SameEvidence.symm {job other : BackfillJob} (same : SameEvidence job other) :
    SameEvidence other job :=
  ⟨same.jobId.symm, same.manifestHash.symm, same.request.symm, same.chunks.symm⟩

section Same

variable {job other : BackfillJob} {key : String} {chunk : ChunkResult}

/-- A chunk has its counterpart. -/
theorem SameEvidence.get? (same : SameEvidence job other)
    (found : job.chunks.get? key = some chunk) :
    ∃ chunk', other.chunks.get? key = some chunk' ∧ chunk'.bare = chunk.bare := by
  have bare : (other.chunks.mapValues ChunkResult.bare).get? key = some chunk.bare := by
    rw [same.chunks, OrderedDict.get?_mapValues, found]
    rfl
  rw [OrderedDict.get?_mapValues] at bare
  exact Option.map_eq_some_iff.mp bare

/-- Whether an acknowledgement matches depends on the evidence. -/
theorem ackMismatch_congr {chunk' : ChunkResult} (same : SameEvidence job other)
    (bare : chunk'.bare = chunk.bare) (acknowledgement : Option HeberChunkAcknowledgement) :
    ackMismatch other chunk' acknowledgement = ackMismatch job chunk acknowledgement := by
  have reads (job : BackfillJob) (chunk : ChunkResult) :
      ackMismatch job chunk acknowledgement = ackMismatch job chunk.bare acknowledgement := by
    cases acknowledgement <;> rfl
  rw [reads other, bare, reads job chunk]
  cases acknowledgement with
  | none => rfl
  | some _ => simp only [ackMismatch, same.jobId, same.manifestHash]

theorem SameEvidence.valid [Manifests] (same : SameEvidence job other) :
    manifestStructureValid other = manifestStructureValid job := by
  have contains : ∀ key, other.chunks.contains key = job.chunks.contains key := fun key => by
    rw [← OrderedDict.contains_mapValues other.chunks key ChunkResult.bare, same.chunks,
      OrderedDict.contains_mapValues]
  have expected (jobId : String) (request : BackfillRequest) (job : BackfillJob) :
      (job.chunks.items.all fun item =>
        chunkExpected (expectedChunks jobId request) item.1 item.2) =
        (job.chunks.mapValues ChunkResult.bare).items.all fun item =>
          chunkExpected (expectedChunks jobId request) item.1 item.2 := by
    rw [OrderedDict.mapValues, List.all_map]
    rfl
  simp only [manifestStructureValid, same.jobId, same.manifestHash, same.request,
    contains, expected, same.chunks]

end Same

/-! ## Readings -/

/-- The acknowledgement that was read of a chunk matches it. -/
def BackfillJob.Matches (job : BackfillJob) (reading : String × Option HeberChunkAcknowledgement) :
    Prop :=
  ∃ chunk, job.chunks.get? reading.1 = some chunk ∧ reading.2.isSome = true ∧
    ackMismatch job chunk reading.2 = .ok none

/-- Every chunk was read, and everything that was read matches. -/
structure BackfillJob.Covered (job : BackfillJob)
    (read : List (String × Option HeberChunkAcknowledgement)) : Prop where
  matches_ : ∀ reading ∈ read, job.Matches reading
  every : ∀ key chunk, job.chunks.get? key = some chunk → ∃ acknowledgement,
    (key, acknowledgement) ∈ read

theorem SameEvidence.matches_ {job other : BackfillJob} (same : SameEvidence job other)
    {reading : String × Option HeberChunkAcknowledgement} (held : job.Matches reading) :
    other.Matches reading := by
  obtain ⟨chunk, found, some, fits⟩ := held
  obtain ⟨chunk', found', bare⟩ := same.get? found
  exact ⟨chunk', found', some, (ackMismatch_congr same bare _).trans fits⟩

theorem SameEvidence.covered {job other : BackfillJob} (same : SameEvidence job other)
    {read : List (String × Option HeberChunkAcknowledgement)} (covered : job.Covered read) :
    other.Covered read := by
  refine ⟨fun reading mem => same.matches_ (covered.matches_ reading mem),
    fun key chunk found => ?_⟩
  obtain ⟨chunk', found', -⟩ := same.symm.get? found
  exact covered.every key chunk' found'

/-- What an acknowledgement that matches says. -/
structure Attests (job : BackfillJob) (chunk : ChunkResult)
    (ack : HeberChunkAcknowledgement) : Prop where
  status : ack.status = "committed"
  jobId : ack.jobId = job.jobId
  chunkId : ack.chunkId = chunk.chunkId
  manifestHash : ack.manifestHash = job.manifestHash
  recordCount : ack.recordCount = chunk.recordCount
  eventIds : chunk.eventIdsSha256 = some ack.eventIdsSha256
  records : chunk.recordsSha256 = some ack.recordsSha256
  committed : ∃ published, chunk.publishedAt = some published ∧
    published.micros ≤ ack.committedAt.micros

theorem attests_of_ackMismatch {job : BackfillJob} {chunk : ChunkResult}
    {ack : HeberChunkAcknowledgement} (fits : ackMismatch job chunk (some ack) = .ok none) :
    Attests job chunk ack := by
  rw [ackMismatch] at fits
  split at fits
  · cases fits
  next same =>
    simp only [not_or, Decidable.not_not] at same
    obtain ⟨status, jobId, chunkId, manifestHash, recordCount, eventIds, records, -, -⟩ := same
    split at fits
    · cases fits
    next published known =>
      split at fits
      · split at fits
        · cases fits
        next late =>
          exact ⟨status, jobId, chunkId, manifestHash, recordCount, eventIds.symm, records.symm,
            published, known, Int.not_lt.mp late⟩
      · cases fits

/-! ## The structure of a manifest -/

section Structure

variable [Manifests]

/-- The chunks are those of the request. -/
structure BackfillJob.Complete (job : BackfillJob) : Prop where
  hash : job.manifestHash = Manifests.manifestHash job.request
  jobId : job.jobId = jobIdOf job.manifestHash
  /-- Every symbol has a chunk for every range. -/
  present : ∀ symbol ∈ job.request.symbols, ∀ range ∈ job.request.ranges,
    job.chunks.contains (chunkId job.jobId symbol range) = true
  /-- There is nothing else. -/
  only : ∀ key chunk, job.chunks.get? key = some chunk → chunk.chunkId = key ∧
    ∃ symbol ∈ job.request.symbols, ∃ range ∈ job.request.ranges,
      key = chunkId job.jobId symbol range ∧ chunk.symbol = symbol ∧
        chunk.requestedStart = range.start ∧ chunk.requestedEnd = range.end_

theorem expectedChunks_spec (jobId : String) (request : BackfillRequest) :
    (∀ symbol ∈ request.symbols, ∀ range ∈ request.ranges,
      (expectedChunks jobId request).contains (chunkId jobId symbol range) = true) ∧
    ∀ key value, (expectedChunks jobId request).get? key = some value →
      ∃ symbol ∈ request.symbols, ∃ range ∈ request.ranges,
        key = chunkId jobId symbol range ∧ value = (symbol, range.start, range.end_) := by
  have run : ∀ (pairs : List (String × DateRange))
      (expected : OrderedDict String (String × DateTime × DateTime)),
      let filled := pairs.foldl (fun expected pair =>
        expected.set (chunkId jobId pair.1 pair.2) (pair.1, pair.2.start, pair.2.end_)) expected
      (∀ key, filled.contains key = true ↔ expected.contains key = true ∨
        ∃ pair ∈ pairs, key = chunkId jobId pair.1 pair.2) ∧
      ∀ key value, filled.get? key = some value → expected.get? key = some value ∨
        ∃ pair ∈ pairs, key = chunkId jobId pair.1 pair.2 ∧
          value = (pair.1, pair.2.start, pair.2.end_) := by
    intro pairs
    induction pairs with
    | nil => simp
    | cons pair pairs ih =>
        intro expected
        obtain ⟨contains, values⟩ :=
          ih (expected.set (chunkId jobId pair.1 pair.2) (pair.1, pair.2.start, pair.2.end_))
        refine ⟨fun key => ?_, fun key value found => ?_⟩
        · rw [List.foldl_cons, contains, OrderedDict.contains_set]
          simp only [Bool.or_eq_true, decide_eq_true_eq, List.mem_cons, exists_eq_or_imp]
          tauto
        · rcases values key value found with earlier | ⟨other, mem, same⟩
          · rw [OrderedDict.get?_set] at earlier
            split at earlier
            next here => exact .inr ⟨pair, .head _, here, (Option.some.inj earlier).symm⟩
            next => exact .inl earlier
          · exact .inr ⟨other, .tail _ mem, same⟩
  obtain ⟨contains, values⟩ := run (request.symbols.flatMap fun symbol =>
    request.ranges.map fun range => (symbol, range)) .empty
  constructor
  · intro symbol named range ranged
    refine (contains _).mpr (.inr ⟨(symbol, range), ?_, rfl⟩)
    exact List.mem_flatMap.mpr ⟨symbol, named, List.mem_map_of_mem ranged⟩
  · intro key value found
    rcases values key value found with none | ⟨⟨symbol, range⟩, mem, same⟩
    · cases none
    · obtain ⟨_, named, mem⟩ := List.mem_flatMap.mp mem
      obtain ⟨_, ranged, same'⟩ := List.mem_map.mp mem
      cases same'
      exact ⟨symbol, named, range, ranged, same⟩

/-- What a valid structure says. -/
theorem complete_of_valid {job : BackfillJob} (valid : manifestStructureValid job = true) :
    job.Complete := by
  simp only [manifestStructureValid, Bool.and_eq_true, decide_eq_true_eq, List.all_eq_true] at valid
  obtain ⟨⟨⟨⟨-, hash⟩, jobId⟩, present⟩, only⟩ := valid
  obtain ⟨contains, values⟩ := expectedChunks_spec job.jobId job.request
  refine ⟨hash, hash ▸ jobId, fun symbol named range ranged => ?_, fun key chunk found => ?_⟩
  · obtain ⟨value, expected⟩ := OrderedDict.contains_iff.mp (contains symbol named range ranged)
    exact present _ (OrderedDict.get?_eq_some.mp expected)
  · have fits := only (key, chunk) (OrderedDict.get?_eq_some.mp found)
    simp only [chunkExpected, Bool.and_eq_true, decide_eq_true_eq] at fits
    obtain ⟨id, expected⟩ := fits
    obtain ⟨symbol, named, range, ranged, same, value⟩ := values key _ expected
    obtain ⟨symbols, times⟩ := Prod.mk.inj value
    obtain ⟨starts, ends⟩ := Prod.mk.inj times
    exact ⟨id, symbol, named, range, ranged, same, symbols, starts, ends⟩

end Structure

/-! ## Assignments -/

section Assignments

variable [Manifests]

/-- The job may be verified: its structure is valid and its chunks were published. -/
def BackfillJob.sound (job : BackfillJob) : Bool :=
  manifestStructureValid job && publicationEvidenceComplete job

/-- An assignment that leaves the evidence as it is, and does not verify. -/
structure Harmless (change : BackfillJob → BackfillJob) : Prop where
  same : ∀ job, SameEvidence job (change job)
  published : ∀ job, publicationEvidenceComplete job = true →
    publicationEvidenceComplete (change job) = true
  status : ∀ job, (change job).status = .verified → job.status = .verified

theorem Harmless.sound {change : BackfillJob → BackfillJob} (harmless : Harmless change)
    {job : BackfillJob} (sound : job.sound = true) : (change job).sound = true := by
  simp only [BackfillJob.sound, Bool.and_eq_true] at sound ⊢
  exact ⟨(harmless.same job).valid.trans sound.1, harmless.published job sound.2⟩

omit [Manifests] in
/-- An assignment that does not touch the chunks. -/
theorem harmless_of_chunks {change : BackfillJob → BackfillJob}
    (jobId : ∀ job, (change job).jobId = job.jobId)
    (manifestHash : ∀ job, (change job).manifestHash = job.manifestHash)
    (request : ∀ job, (change job).request = job.request)
    (chunks : ∀ job, (change job).chunks = job.chunks)
    (status : ∀ job, (change job).status = .verified → job.status = .verified) :
      Harmless change where
  same job := ⟨jobId job, manifestHash job, request job, by rw [chunks]⟩
  published job published := by rwa [publicationEvidenceComplete, chunks]
  status := status

omit [Manifests] in
theorem Harmless.comp {first second : BackfillJob → BackfillJob} (f : Harmless first)
    (s : Harmless second) : Harmless fun job => second (first job) where
  same job := (f.same job).trans (s.same (first job))
  published job published := s.published _ (f.published job published)
  status job verified := f.status job (s.status _ verified)

omit [Manifests] in
theorem Harmless.foldl {α : Type} {change : BackfillJob → α → BackfillJob}
    (each : ∀ item, Harmless fun job => change job item) (items : List α) :
    Harmless fun job => items.foldl change job := by
  induction items with
  | nil =>
      exact harmless_of_chunks (fun _ => rfl) (fun _ => rfl) (fun _ => rfl) (fun _ => rfl)
        fun _ => id
  | cons item items ih => exact (each item).comp ih

namespace BackfillJob

omit [Manifests]

theorem harmless_same : Harmless id :=
  harmless_of_chunks (fun _ => rfl) (fun _ => rfl) (fun _ => rfl) (fun _ => rfl) fun _ => id

theorem harmless_block {status : BackfillStatus} (other : status ≠ .verified) (reason : String)
    (now : DateTime) : Harmless (block status reason now) :=
  harmless_of_chunks (fun _ => rfl) (fun _ => rfl) (fun _ => rfl) (fun _ => rfl)
    fun _ same => absurd same other

theorem harmless_setRunning (now : DateTime) : Harmless (setRunning now) :=
  harmless_of_chunks (fun _ => rfl) (fun _ => rfl) (fun _ => rfl) (fun _ => rfl) (by rintro _ ⟨⟩)

theorem harmless_setPublished (now : DateTime) : Harmless (setPublished now) :=
  harmless_of_chunks (fun _ => rfl) (fun _ => rfl) (fun _ => rfl) (fun _ => rfl) (by rintro _ ⟨⟩)

theorem harmless_noteError (message : String) : Harmless (noteError message) :=
  harmless_of_chunks (fun _ => rfl) (fun _ => rfl) (fun _ => rfl) (fun _ => rfl) fun _ => id

theorem harmless_setSymbol (symbol : String) (change : SymbolProgress → SymbolProgress) :
    Harmless (setSymbol symbol change) :=
  harmless_of_chunks (fun _ => rfl) (fun _ => rfl) (fun _ => rfl) (fun _ => rfl) fun _ => id

theorem harmless_finalize : Harmless finalize :=
  harmless_of_chunks (fun _ => rfl) (fun _ => rfl) (fun _ => rfl) (fun _ => rfl) fun _ => id

theorem harmless_noteUnhandled (symbol message : String) :
    Harmless (noteUnhandled symbol message) :=
  harmless_of_chunks (fun _ => rfl) (fun _ => rfl) (fun _ => rfl) (fun _ => rfl) fun _ => id

theorem harmless_noteResults [Manifests] (request : BackfillRequest) (range : DateRange)
    (results : List (Nat × String)) : Harmless (noteResults request range results) := by
  refine Harmless.foldl (fun (position, message) => ?_) results
  dsimp only
  cases request.symbols[position]? with
  | none => exact harmless_same
  | some symbol => exact harmless_noteUnhandled _ _

theorem harmless_countAcknowledged (symbol chunkId : String) :
    Harmless (countAcknowledged symbol chunkId) := by
  have counted (job : BackfillJob) : countAcknowledged symbol chunkId job = job ∨
      ∃ records, countAcknowledged symbol chunkId job = job.countChunk symbol records := by
    unfold countAcknowledged
    split
    · exact .inl rfl
    · split
      · exact .inr ⟨_, rfl⟩
      · exact .inl rfl
  refine ⟨fun job => ?_, fun job published => ?_, fun job same => ?_⟩
  all_goals rcases counted job with unchanged | ⟨records, changed⟩
  · rw [unchanged]
    exact .refl job
  · rw [changed]
    exact ⟨rfl, rfl, rfl, rfl⟩
  · rwa [unchanged]
  · rwa [changed]
  · rwa [unchanged] at same
  · rwa [changed] at same

theorem harmless_markRunning : Harmless markRunning := by
  have each (symbols : List String) := Harmless.foldl
    (fun symbol => harmless_setSymbol symbol fun progress => { progress with status := "running" })
    symbols
  exact ⟨fun job => (each job.request.symbols).same job,
    fun job => (each job.request.symbols).published job,
    fun job => (each job.request.symbols).status job⟩

theorem harmless_resumed (now : DateTime) : Harmless (resumed now) := by
  refine ⟨fun job => ?_, fun job published => ?_, fun job same => ?_⟩
  · have same : SameManifest job (job.resumed now) := sameManifest_resumed
    exact ⟨same.jobId, same.manifestHash, same.request, by rw [same.chunks]⟩
  · rwa [(sameManifest_resumed : SameManifest job (job.resumed now)).evidence]
  · unfold resumed at same
    split at same
    · split at same <;> cases same
    · exact same

/-- An acknowledgement is noted of a chunk that was published. -/
theorem harmless_noteAck (key : String) (acknowledgement : Option HeberChunkAcknowledgement) :
    Harmless (noteAck key acknowledgement) := by
  have noted (job : BackfillJob) : noteAck key acknowledgement job = job ∨
      ∃ commit, noteAck key acknowledgement job = job.setChunk key fun chunk =>
        { chunk with acknowledged := true, heberCommitId := some commit, status :=
          "verified" } := by
    unfold noteAck
    split
    · split
      · exact .inr ⟨_, rfl⟩
      · exact .inl rfl
    · exact .inl rfl
  refine ⟨fun job => ?_, fun job published => ?_, fun job same => ?_⟩
  all_goals rcases noted job with unchanged | ⟨commit, changed⟩
  · rw [unchanged]
    exact .refl job
  · rw [changed]
    exact ⟨rfl, rfl, rfl, OrderedDict.mapValues_modify_same _ _ fun _ => rfl⟩
  · rwa [unchanged]
  · rw [changed]
    obtain ⟨some_, all⟩ := Bool.and_eq_true_iff.mp published
    refine Bool.and_eq_true_iff.mpr ⟨?_, List.all_eq_true.mpr fun item mem => ?_⟩
    · simpa [BackfillJob.setChunk, OrderedDict.modify] using some_
    · obtain ⟨old, held, rfl⟩ := List.mem_map.mp mem
      have fits := List.all_eq_true.mp all old held
      split
      next here =>
        simp only [chunkPublished, Bool.and_eq_true] at fits ⊢
        exact ⟨⟨⟨⟨⟨by simp, fits.1.1.1.1.2⟩, fits.1.1.1.2⟩, fits.1.1.2⟩, fits.1.2⟩,
          fits.2⟩
      next => exact fits
  · rwa [unchanged] at same
  · rwa [changed] at same

end BackfillJob

end Assignments

end Backfill
end DataGateway
