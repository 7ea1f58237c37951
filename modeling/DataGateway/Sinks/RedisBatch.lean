import DataGateway.Coroutine.Contract
import DataGateway.Python.Indexed

/-!
# Batches of the Redis sink

`publish_batch_results` and `publish_batch_indexed` of `RedisStreamsSink`.  The chunks of a batch
are published side by side, so each chunk has a run of its own: whatever the others do to the
connection reaches it only through the answers to its commands.
-/

namespace DataGateway
namespace Sinks

open Coroutine Indexed

/-- `BATCH_CHUNK_SIZE`. -/
def batchChunkSize : Nat := 2000

/-- The reply to one queued `xadd`. -/
inductive XaddReply
  | streamId (id : String)
  | exception (message : String)
  deriving DecidableEq, Repr

def XaddReply.accepted : XaddReply → Bool
  | .streamId _ => true
  | .exception _ => false

/-- What leaves a chunk, an `Exception` or a `CancelledError`. -/
inductive BatchError
  | raised (message : String)
  | cancelled
  deriving DecidableEq, Repr

/-- What becomes of a pipeline: a pipeline that answers has one reply for every queued command. -/
inductive PipelineEnd (queued : Nat)
  /-- `client is None`. -/
  | disconnected
  /-- An `Exception`, after which the connection is reset. -/
  | raised
  | cancelled
  | replies (answers : List XaddReply) (full : answers.length = queued)

/-- What the chunks of a batch ask of the connection. -/
inductive BatchCommand (Item : Type)
  /-- `_ensure_connected`. -/
  | ensureConnected
  /-- A pipeline with one `xadd` for every message. -/
  | execute (chunk : List Item)

/-- The answers. -/
abbrev BatchCommand.Reply (Item : Type) : BatchCommand Item → Type
  | .ensureConnected => Except BatchError Unit
  | .execute chunk => PipelineEnd chunk.length

variable {Item β : Type}

/-- A part of the publishing of a chunk. -/
abbrev Chunked (Item β : Type) := Coroutine (BatchCommand.Reply Item) BatchError β

/-- `_publish_chunk`. -/
def publishChunk (chunk : List Item) : Chunked Item (List Bool) :=
  .suspend (.execute chunk) fun
    | .disconnected => .finish (.ok (List.replicate chunk.length false))
    | .raised => .finish (.ok (List.replicate chunk.length false))
    | .cancelled => raise .cancelled
    | .replies answers _ => .finish (.ok (answers.map XaddReply.accepted))

/-- `_publish_chunk_indexed`. -/
def publishChunkIndexed (chunk : List Item) : Chunked Item (List Nat) :=
  (publishChunk chunk).bind fun outcomes =>
    .finish (.ok ((enumerateWhere id outcomes).map (·.2)))

/-- Publish a chunk, and once more where nothing of it has landed. -/
def withRetry (publish : List Item → Chunked Item β) (landed : β → Bool) (chunk : List Item) :
    Chunked Item β :=
  (publish chunk).bind fun outcome =>
    if ¬ landed outcome ∧ 0 < chunk.length then
      .suspend .ensureConnected fun
        | .error error => raise error
        | .ok _ => publish chunk
    else .finish (.ok outcome)

/-- `_process_chunk_with_retry` of `publish_batch_results`. -/
def processChunkResults : List Item → Chunked Item (List Bool) :=
  withRetry publishChunk fun chunkResults => chunkResults.any id

/-- `_process_chunk_with_retry` of `publish_batch_indexed`. -/
def processChunkIndexed : List Item → Chunked Item (List Nat) :=
  withRetry publishChunkIndexed fun succeeded => ¬ succeeded.isEmpty

/-- The results of a chunk that may have ended in an exception. -/
def chunkResults (chunk : List Item) : Except BatchError (List Bool) → List Bool
  | .ok outcome => outcome
  | .error _ => List.replicate chunk.length false

/-- `publish_batch_results`, from what its chunks have ended with. -/
def publishBatchResults (messages : List Item) (outcomes : List (Except BatchError (List Bool))) :
    List Bool :=
  (List.zipWith chunkResults (chunks batchChunkSize messages) outcomes).flatten

/-- The indices of a chunk that may have ended in an exception. -/
def chunkIndices (offset : Nat) : Except BatchError (List Nat) → List Nat
  | .ok succeeded => succeeded.map (offset + ·)
  | .error _ => []

/-- `publish_batch_indexed`, from what its chunks have ended with. -/
def publishBatchIndexed (outcomes : List (Except BatchError (List Nat))) : List Nat :=
  outcomes.zipIdx.flatMap fun (outcome, k) => chunkIndices (k * batchChunkSize) outcome

/-! ## One chunk -/

/-- What a chunk has asked and heard, the newest first. -/
abbrev ChunkLog (Item : Type) := List ((command : BatchCommand Item) × command.Reply)

/-- Redis has answered the `xadd` of a place of the chunk with a stream id. -/
def Acknowledged (log : ChunkLog Item) (chunk : List Item) (place : Nat) : Prop :=
  ∃ answers full id, ⟨.execute chunk, .replies answers full⟩ ∈ log ∧
    answers[place]? = some (.streamId id)

@[simp]
theorem acknowledged_append {later earlier : ChunkLog Item} {chunk : List Item} {place : Nat} :
    Acknowledged (later ++ earlier) chunk place ↔
      Acknowledged later chunk place ∨ Acknowledged earlier chunk place := by
  simp only [Acknowledged, List.mem_append, or_and_right, exists_or]

theorem Acknowledged.lt {log : ChunkLog Item} {chunk : List Item} {place : Nat}
    (heard : Acknowledged log chunk place) : place < chunk.length := by
  obtain ⟨answers, full, id, -, reply⟩ := heard
  exact full ▸ (List.getElem?_eq_some_iff.mp reply).1

/-- An outcome of a chunk tells exactly which places were acknowledged; an exception leaves only a
chunk of which nothing was. -/
def Tells (chunk : List Item) (told : β → Nat → Prop) (outcome : Except BatchError β)
    (log : ChunkLog Item) : Prop :=
  match outcome with
  | .ok value => ∀ place, told value place ↔ Acknowledged log chunk place
  | .error _ => ∀ place, ¬ Acknowledged log chunk place

abbrev FlagAt (flags : List Bool) (place : Nat) : Prop := flags[place]? = some true

theorem XaddReply.accepted_iff {reply : XaddReply} :
    reply.accepted = true ↔ ∃ id, reply = .streamId id := by
  cases reply <;> simp [accepted]

/-- The flags of a chunk of which nothing was acknowledged. -/
theorem tells_nothing {chunk : List Item} {log : ChunkLog Item} (n : Nat)
    (nothing : ∀ place, ¬ Acknowledged log chunk place) :
    Tells chunk FlagAt (.ok (List.replicate n false)) log := fun place =>
  iff_of_false (by simp [List.getElem?_replicate]) (nothing place)

theorem publishChunk_tells (chunk : List Item) :
    Meets (Contract.logged (BatchCommand.Reply Item)) (fun outcome log =>
      Tells chunk FlagAt outcome log ∧ ∀ flags, outcome = .ok flags →
        flags.length = chunk.length) []
    (publishChunk chunk) := by
  rw [publishChunk, meets_logged_suspend]
  have sized : (List.replicate chunk.length false).length = chunk.length := List.length_replicate
  rintro (_ | _ | _ | ⟨answers, full⟩)
  · exact ⟨tells_nothing _ (by simp [Acknowledged]), fun _ same => Except.ok.inj same ▸ sized⟩
  · exact ⟨tells_nothing _ (by simp [Acknowledged]), fun _ same => Except.ok.inj same ▸ sized⟩
  · exact ⟨fun place => by simp [Acknowledged], nofun⟩
  · refine ⟨fun place => ?_, fun flags same => Except.ok.inj same ▸ (by simpa using full)⟩
    have told : FlagAt (answers.map XaddReply.accepted) place ↔
        ∃ id, answers[place]? = some (.streamId id) := by
      simp [FlagAt, XaddReply.accepted_iff]
    refine told.trans ?_
    simp [Acknowledged, full]

theorem publishChunkIndexed_tells (chunk : List Item) :
    Meets (Contract.logged (BatchCommand.Reply Item))
    (Tells chunk fun indices place => place ∈ indices) [] (publishChunkIndexed chunk) := by
  refine (publishChunk_tells chunk).logged_bind (fun flags log tells place => ?_)
    (fun _ _ tells => tells.1)
  rw [List.nil_append, ← tells.1 place]
  simp [mem_enumerateWhere]

/-- A retry follows only a call of which nothing was acknowledged, so what the last call tells is
what was acknowledged at all. -/
theorem withRetry_tells {publish : List Item → Chunked Item β} {landed : β → Bool}
    {told : β → Nat → Prop} (good : β → Prop) (chunk : List Item)
    (publishes : Meets (Contract.logged (BatchCommand.Reply Item)) (fun outcome log =>
      Tells chunk told outcome log ∧ ∀ value, outcome = .ok value → good value) [] (publish chunk))
    (nothing : ∀ value place, landed value = false → ¬ told value place) :
    Meets (Contract.logged (BatchCommand.Reply Item)) (fun outcome log =>
      Tells chunk told outcome log ∧ ∀ value, outcome = .ok value → good value) []
    (withRetry publish landed chunk) := by
  refine publishes.logged_bind (fun value first tells => ?_) (fun _ _ tells => ⟨tells.1, nofun⟩)
  split
  next failed =>
    have unheard (place : Nat) : ¬ Acknowledged first chunk place := fun heard =>
      nothing value place (by simpa using failed.1) ((tells.1 place).mpr heard)
    rw [meets_logged_suspend]
    rintro (error | connected)
    · exact ⟨fun place => by simpa [Acknowledged] using unheard place, nofun⟩
    · refine Meets.logged_after (publishes.mono fun outcome second ⟨again, fine⟩ => ⟨?_, fine⟩)
      have same (place : Nat) :
          Acknowledged (second ++ [⟨.ensureConnected, .ok connected⟩] ++ first) chunk place ↔
            Acknowledged second chunk place := by
        rw [acknowledged_append, acknowledged_append, or_iff_left (unheard place)]
        exact or_iff_left (by simp [Acknowledged])
      cases outcome with
      | ok value => exact fun place => (again place).trans (same place).symm
      | error error => exact fun place heard => again place ((same place).mp heard)
  · exact tells

theorem processChunkResults_tells (chunk : List Item) :
    Meets (Contract.logged (BatchCommand.Reply Item)) (fun outcome log =>
      Tells chunk FlagAt outcome log ∧ ∀ flags, outcome = .ok flags →
        flags.length = chunk.length) []
    (processChunkResults chunk) := by
  refine withRetry_tells _ chunk (publishChunk_tells chunk) fun flags place none told => ?_
  have set : true ∈ flags := List.mem_of_getElem? told
  simp [set] at none

theorem processChunkIndexed_tells (chunk : List Item) :
    Meets (Contract.logged (BatchCommand.Reply Item))
    (Tells chunk fun indices place => place ∈ indices) [] (processChunkIndexed chunk) := by
  refine (withRetry_tells (fun _ => True) chunk ?_ fun indices place none told => ?_).mono
    fun _ _ => And.left
  · exact (publishChunkIndexed_tells chunk).mono fun _ _ tells => ⟨tells, fun _ _ => trivial⟩
  · simp [List.isEmpty_iff] at none
    simp [none] at told

/-! ## One batch -/

/-- Every chunk of a batch has run to its end. -/
abbrev ChunksRan (process : List Item → Chunked Item β) (messages : List Item)
    (runs : List (Except BatchError β × ChunkLog Item)) : Prop :=
  List.Forall₂ (fun chunk run => Ends (Contract.logged (BatchCommand.Reply Item)) [] (process chunk)
    run.1 run.2) (chunks batchChunkSize messages) runs

/-- Redis has answered the `xadd` of the message of an index with a stream id: the message is at its
place in its chunk, and the chunk's own run has heard so. -/
def Landed (messages : List Item) (runs : List (Except BatchError β × ChunkLog Item))
    (i : Nat) : Prop :=
  ∃ chunk run, (chunks batchChunkSize messages)[i / batchChunkSize]? = some chunk ∧
    chunk[i % batchChunkSize]? = messages[i]? ∧ runs[i / batchChunkSize]? = some run ∧
    Acknowledged run.2 chunk (i % batchChunkSize)

variable {messages : List Item}

theorem batchChunkSize_pos : 0 < batchChunkSize := by decide

/-- The results of the chunks, aligned with them. -/
theorem chunkResults_told {chunk : List Item} {outcome : Except BatchError (List Bool)}
    {log : ChunkLog Item} (ends : Ends (Contract.logged (BatchCommand.Reply Item)) []
      (processChunkResults chunk) outcome log) :
    (chunkResults chunk outcome).length = chunk.length ∧
      ∀ place : Nat, (chunkResults chunk outcome)[place]? = some true ↔
        Acknowledged log chunk place := by
  obtain ⟨tells, sized⟩ := ends.meets (processChunkResults_tells chunk)
  cases outcome with
  | ok flags => exact ⟨sized flags rfl, tells⟩
  | error error => exact ⟨List.length_replicate, tells_nothing _ tells⟩

theorem chunkResults_sized {all : List (List Item)}
    {runs : List (Except BatchError (List Bool) × ChunkLog Item)}
    (ran : List.Forall₂ (fun chunk run => Ends (Contract.logged (BatchCommand.Reply Item)) []
      (processChunkResults chunk) run.1 run.2) all runs) :
    (List.zipWith chunkResults all (runs.map (·.1))).map List.length = all.map List.length := by
  induction ran with
  | nil => rfl
  | cons ends _ ih => simpa [(chunkResults_told ends).1] using ih

/-- A chunk and the run that belongs to it. -/
theorem ChunksRan.chunk {process : List Item → Chunked Item β}
    {runs : List (Except BatchError β × ChunkLog Item)}
    (ran : ChunksRan process messages runs) {k : Nat}
    {run : Except BatchError β × ChunkLog Item} (here : runs[k]? = some run) :
    ∃ chunk, (chunks batchChunkSize messages)[k]? = some chunk ∧
      Ends (Contract.logged (BatchCommand.Reply Item)) [] (process chunk) run.1 run.2 := by
  obtain ⟨lt, rfl⟩ := List.getElem?_eq_some_iff.mp here
  have below : k < (chunks batchChunkSize messages).length := ran.length_eq ▸ lt
  exact ⟨_, List.getElem?_eq_getElem below, ran.get below lt⟩

/-- A place of a chunk is an index of the batch. -/
theorem chunk_index {chunk : List Item} {k place : Nat}
    (here : (chunks batchChunkSize messages)[k]? = some chunk) (lt : place < chunk.length) :
    (k * batchChunkSize + place) / batchChunkSize = k ∧
      (k * batchChunkSize + place) % batchChunkSize = place ∧
      chunk[place]? = messages[k * batchChunkSize + place]? ∧
      k * batchChunkSize + place < messages.length := by
  obtain rfl := chunk_eq here
  rw [List.length_take, List.length_drop] at lt
  have small : place < batchChunkSize := by omega
  refine ⟨?_, ?_, ?_, by omega⟩
  · rw [Nat.mul_comm, Nat.mul_add_div batchChunkSize_pos, Nat.div_eq_of_lt small, Nat.add_zero]
  · rw [Nat.mul_comm, Nat.mul_add_mod, Nat.mod_eq_of_lt small]
  · rw [List.getElem?_take_of_lt small, List.getElem?_drop]

/-- `publish_batch_results` has one flag for every message, set exactly for
those that have landed. -/
theorem publishBatchResults_exact {runs : List (Except BatchError (List Bool) × ChunkLog Item)}
    (ran : ChunksRan processChunkResults messages runs) :
    (publishBatchResults messages (runs.map (·.1))).length = messages.length ∧
      ∀ i < messages.length, (publishBatchResults messages (runs.map (·.1)))[i]? = some true ↔
        Landed messages runs i := by
  have sized := chunkResults_sized ran
  refine ⟨length_blocks sized batchChunkSize_pos, fun i lt => ?_⟩
  obtain ⟨block, here, own⟩ := blocks_getElem sized batchChunkSize_pos lt
  obtain ⟨chunk, outcome, place, ended, rfl⟩ := List.getElem?_zipWith_eq_some.mp here
  obtain ⟨run, at_, rfl⟩ := Option.map_eq_some_iff.mp ((List.getElem?_map ..).symm.trans ended)
  obtain ⟨_, again, ends⟩ := ran.chunk at_
  obtain rfl := Option.some.inj (place.symm.trans again)
  have whole : chunk[i % batchChunkSize]? = messages[i]? := by
    rw [← chunk_getElem (i := i) batchChunkSize_pos,
      Option.some.inj (place.symm.trans (chunks_getElem batchChunkSize_pos lt))]
  rw [publishBatchResults, own, (chunkResults_told ends).2]
  constructor
  · exact fun heard => ⟨chunk, run, place, whole, at_, heard⟩
  · rintro ⟨_, _, place', -, at', heard⟩
    obtain rfl := Option.some.inj (place'.symm.trans place)
    obtain rfl := Option.some.inj (at'.symm.trans at_)
    exact heard

/-- `publish_batch_indexed` has exactly the indices of the messages that have landed. -/
theorem publishBatchIndexed_exact {runs : List (Except BatchError (List Nat) × ChunkLog Item)}
    (ran : ChunksRan processChunkIndexed messages runs) (i : Nat) :
    i ∈ publishBatchIndexed (runs.map (·.1)) ↔ i < messages.length ∧ Landed messages runs i := by
  constructor
  · intro mem
    obtain ⟨⟨outcome, k⟩, selected, inside⟩ := List.mem_flatMap.mp mem
    have here := List.mk_mem_zipIdx_iff_getElem?.mp selected
    obtain ⟨run, at_, rfl⟩ := Option.map_eq_some_iff.mp ((List.getElem?_map ..).symm.trans here)
    obtain ⟨chunk, position, ends⟩ := ran.chunk at_
    have tells := ends.meets (processChunkIndexed_tells chunk)
    obtain ⟨outcome, log⟩ := run
    cases outcome with
    | error error => exact nomatch inside
    | ok indices =>
        obtain ⟨place, told, rfl⟩ := List.mem_map.mp inside
        have heard := (tells place).mp told
        obtain ⟨whichChunk, whichPlace, same, lt⟩ := chunk_index position heard.lt
        exact ⟨lt, chunk, _, by rwa [whichChunk], by rwa [whichPlace], by rwa [whichChunk],
          by rwa [whichPlace]⟩
  · rintro ⟨lt, chunk, ⟨outcome, log⟩, position, -, at_, heard⟩
    obtain ⟨_, again, ends⟩ := ran.chunk at_
    obtain rfl := Option.some.inj (position.symm.trans again)
    have tells := ends.meets (processChunkIndexed_tells chunk)
    cases outcome with
    | error error => exact (tells _ heard).elim
    | ok indices =>
        refine List.mem_flatMap.mpr ⟨(.ok indices, i / batchChunkSize), ?_, ?_⟩
        · rw [List.mk_mem_zipIdx_iff_getElem?, List.getElem?_map, at_]
          rfl
        · exact List.mem_map.mpr ⟨_, (tells _).mpr heard, Nat.div_add_mod' ..⟩

end Sinks
end DataGateway
