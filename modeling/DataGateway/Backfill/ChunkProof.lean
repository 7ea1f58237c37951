import DataGateway.Backfill.Job
import DataGateway.Python.Join
import DataGateway.Python.Sorting
import Mathlib.Data.List.Dedup
import Mathlib.Data.Prod.Lex
import Mathlib.Data.Set.Function
import Mathlib.Data.String.Basic

/-!
# Proofs of chunks

A chunk is identified by two hashes, of the event ids of its records and of the ids with the hashes
of the payloads, both in sorted order.  A retry has to give the same two hashes again.
-/

namespace DataGateway
namespace Backfill

/-- `hashlib.sha256(text.encode()).hexdigest()`. -/
class Sha256 where
  hexdigest : String → String
  length_hexdigest : ∀ text, (hexdigest text).length = 64
  hexdigest_hex : ∀ text, ∀ c ∈ (hexdigest text).toList, c.isDigit ∨ ('a' ≤ c ∧ c ≤ 'f')

/-- Payloads and their canonical JSON. -/
class CanonicalJson (Payload : Type) where
  /-- `json.dumps(payload, sort_keys=True, separators=(",", ":"), default=str)`; it may raise. -/
  dumps : Payload → Option String

/-- An envelope, as far as a proof reads it: `str(envelope["event_id"])` and `envelope["payload"]`.
-/
structure ChunkEnvelope (Payload : Type) where
  eventId : String
  payload : Payload

/-- Why there is no proof. -/
inductive ChunkProofError
  /-- `ReplayValidationError`. -/
  | validation (code detail : String)
  /-- What `json.dumps` raises. -/
  | dumpsRaised
  deriving DecidableEq

/-- The error for two records of one id. -/
def duplicateEventIdentity : ChunkProofError :=
  .validation "provider_duplicate_event_identity"
    "backfill chunk contains duplicate event_id values"

/-- A record of a proof is an id with a hash, and so is compared by the id first. -/
abbrev ProofRecord := String × String

/-- `"\n".join(event_id for event_id, _ in records)`. -/
def idsText (records : List ProofRecord) : String :=
  (String.singleton '\n').intercalate (records.map Prod.fst)

/-- `f"{event_id}:{payload_hash}"`. -/
def recordLine (record : ProofRecord) : String := record.1 ++ ":" ++ record.2

/-- `"\n".join(f"{event_id}:{payload_hash}" for event_id, payload_hash in records)`. -/
def recordsText (records : List ProofRecord) : String :=
  (String.singleton '\n').intercalate (records.map recordLine)

/-! ## Lines -/

/-- Neither the id nor the hash of a record has a newline or a colon. -/
structure CleanRecord (record : ProofRecord) : Prop where
  idLine : '\n' ∉ record.1.toList
  idColon : ':' ∉ record.1.toList
  hashLine : '\n' ∉ record.2.toList
  hashColon : ':' ∉ record.2.toList

theorem toList_recordLine (record : ProofRecord) :
    (recordLine record).toList = record.1.toList ++ ':' :: record.2.toList := by
  simp [recordLine]

/-- A line gives its record back. -/
theorem CleanRecord.eq_of_recordLine {first second : ProofRecord} (clean : CleanRecord first)
    (same : recordLine first = recordLine second) : first = second := by
  have texts := congrArg String.toList same
  rw [toList_recordLine, toList_recordLine] at texts
  obtain ⟨ids, -, hashes⟩ :=
    (List.append_cons_inj_of_notMem clean.idColon clean.hashColon).mp texts
  exact Prod.ext (String.toList_injective ids) (String.toList_injective hashes)

theorem CleanRecord.notMem_recordLine {record : ProofRecord} (clean : CleanRecord record) :
    '\n' ∉ (recordLine record).toList := by
  rw [toList_recordLine]
  simp [clean.idLine, clean.hashLine]

/-- The text of no record is empty, any other one has a colon. -/
theorem recordsText_eq_empty_iff {records : List ProofRecord} :
    recordsText records = "" ↔ records = [] := by
  constructor
  · intro empty
    cases records with
    | nil => rfl
    | cons record rest =>
        have colon : ':' ∈ (recordsText (record :: rest)).toList := by
          cases rest with
          | nil => simp [recordsText, recordLine]
          | cons second rest => simp [recordsText, recordLine, String.intercalate_cons_cons]
        rw [empty] at colon
        cases colon
  · rintro rfl
    rfl

theorem eq_of_map_recordLine {left right : List ProofRecord}
    (clean : ∀ record ∈ left, CleanRecord record) (same : left.map recordLine =
      right.map recordLine) :
    left = right := by
  induction left generalizing right with
  | nil => exact (List.map_eq_nil_iff.mp same.symm).symm
  | cons record rest ih =>
      cases right with
      | nil => cases same
      | cons other others =>
          obtain ⟨here, later⟩ := List.cons.inj same
          rw [(clean record (.head _)).eq_of_recordLine here,
            ih (fun record mem => clean record (.tail _ mem)) later]

/-- The lines give the records back. -/
theorem eq_of_recordsText {left right : List ProofRecord}
    (leftClean : ∀ record ∈ left, CleanRecord record)
    (rightClean : ∀ record ∈ right, CleanRecord record) (same : recordsText left = recordsText
      right) :
    left = right := by
  by_cases none : left = []
  · subst none
    exact (recordsText_eq_empty_iff.mp same.symm).symm
  have some : right ≠ [] := fun none' => none
    (recordsText_eq_empty_iff.mp (same.trans (recordsText_eq_empty_iff.mpr none')))
  have cut := (Text.join_eq_iff '\n' (List.map_eq_nil_iff.not.mpr none)
    (List.map_eq_nil_iff.not.mpr some)).mp same
  rw [Text.pieces_of_forall_notMem, Text.pieces_of_forall_notMem] at cut
  · exact eq_of_map_recordLine leftClean
      (List.map_injective_iff.mpr (fun _ _ => String.toList_injective) cut)
  · rintro _ line
    obtain ⟨record, mem, rfl⟩ := List.mem_map.mp line
    exact (rightClean record mem).notMem_recordLine
  · rintro _ line
    obtain ⟨record, mem, rfl⟩ := List.mem_map.mp line
    exact (leftClean record mem).notMem_recordLine

/-- Sorted records do not depend on their order before. -/
theorem sortedBy_toLex_eq_iff {left right : List ProofRecord} :
    sortedBy toLex left = sortedBy toLex right ↔ left.Perm right := by
  constructor
  · intro same
    exact (sortedBy_perm toLex left).symm.trans (same ▸ sortedBy_perm toLex right)
  · intro perm
    refine List.Perm.eq_of_pairwise (fun first second _ _ up down => toLex.injective
      (le_antisymm up down))
      (pairwise_sortedBy toLex left) (pairwise_sortedBy toLex right) ?_
    exact ((sortedBy_perm toLex left).trans perm).trans (sortedBy_perm toLex right).symm

section Proofs

variable {Payload : Type} [CanonicalJson Payload]

open Sha256 CanonicalJson

/-- What a proof is to identify: the ids with the canonical JSON of their payloads. -/
def identities (envelopes : List (ChunkEnvelope Payload)) : Option (List (String × String)) :=
  envelopes.mapM fun envelope => (dumps envelope.payload).map fun json => (envelope.eventId, json)

theorem identities_cons_eq_some {envelope : ChunkEnvelope Payload}
    {rest : List (ChunkEnvelope Payload)} {keys : List (String × String)} :
    identities (envelope :: rest) = some keys ↔ ∃ json others, dumps envelope.payload = some json ∧
      identities rest = some others ∧ keys = (envelope.eventId, json) :: others := by
  rw [identities, List.mapM_cons, ← identities]
  cases dumps envelope.payload <;> cases identities rest <;> simp [eq_comm]

/-- The identities carry the ids in order. -/
theorem ids_of_identities {envelopes : List (ChunkEnvelope Payload)} {keys : List (String × String)}
    (known : identities envelopes = some keys) :
    keys.map Prod.fst = envelopes.map ChunkEnvelope.eventId := by
  induction envelopes generalizing keys with
  | nil => cases known; rfl
  | cons envelope rest ih =>
      obtain ⟨json, others, -, later, rfl⟩ := identities_cons_eq_some.mp known
      simp [ih later]

/-- The canonical JSON of an identity belongs to a payload. -/
theorem mem_dumps_of_mem {envelopes : List (ChunkEnvelope Payload)} {keys : List (String × String)}
    (known : identities envelopes = some keys) {key : String × String} (mem : key ∈ keys) :
    key.2 ∈ envelopes.filterMap fun envelope => dumps envelope.payload := by
  induction envelopes generalizing keys with
  | nil => cases known; cases mem
  | cons envelope rest ih =>
      obtain ⟨json, others, text, later, rfl⟩ := identities_cons_eq_some.mp known
      simp only [List.filterMap_cons, text]
      rcases List.mem_cons.mp mem with rfl | mem
      · exact .head _
      · exact .tail _ (ih later mem)

variable [Sha256]

/-- The record of an envelope. -/
def ChunkEnvelope.record (envelope : ChunkEnvelope Payload) : Option ProofRecord :=
  (dumps envelope.payload).map fun json => (envelope.eventId, hexdigest json)

/-- `_backfill_chunk_proof`. -/
def backfillChunkProof (envelopes : List (ChunkEnvelope Payload)) :
    Except ChunkProofError (String × String) :=
  match envelopes.mapM ChunkEnvelope.record with
  | none => .error .dumpsRaised
  | some records =>
      let records := sortedBy toLex records
      if (records.map Prod.fst).dedup.length ≠ records.length then .error duplicateEventIdentity
      else .ok (hexdigest (idsText records), hexdigest (recordsText records))

/-- The texts that are hashed for a proof. -/
def hashedTexts (envelopes : List (ChunkEnvelope Payload)) : List String :=
  envelopes.filterMap (fun envelope => dumps envelope.payload) ++
    match envelopes.mapM ChunkEnvelope.record with
    | none => []
    | some records => [idsText (sortedBy toLex records), recordsText (sortedBy toLex records)]

/-- The record of an identity. -/
def hashed (key : String × String) : ProofRecord := (key.1, hexdigest key.2)

theorem mapM_record (envelopes : List (ChunkEnvelope Payload)) :
    envelopes.mapM ChunkEnvelope.record = (identities envelopes).map (List.map hashed) := by
  induction envelopes with
  | nil => rfl
  | cons envelope rest ih =>
      rw [List.mapM_cons, identities, List.mapM_cons, ← identities, ih, ChunkEnvelope.record]
      cases dumps envelope.payload <;> cases identities rest <;> rfl

/-- A digest has neither a newline nor a colon. -/
theorem notMem_hexdigest (text : String) :
    '\n' ∉ (hexdigest text).toList ∧ ':' ∉ (hexdigest text).toList := by
  constructor <;> intro mem <;> rcases hexdigest_hex text _ mem with digit | ⟨least, -⟩
  · exact absurd digit (by decide)
  · exact absurd least (by decide)
  · exact absurd digit (by decide)
  · exact absurd least (by decide)

/-! ## Duplicates -/

/-- The set of ids is smaller exactly when an id occurs twice. -/
theorem length_dedup_sorted_iff {envelopes : List (ChunkEnvelope Payload)}
    {keys : List (String × String)} (known : identities envelopes = some keys) :
    ((sortedBy toLex (keys.map hashed)).map Prod.fst).dedup.length =
        (sortedBy toLex (keys.map hashed)).length ↔
      (envelopes.map ChunkEnvelope.eventId).Nodup := by
  have ids : (keys.map hashed).map Prod.fst = envelopes.map ChunkEnvelope.eventId := by
    rw [← ids_of_identities known, List.map_map]
    rfl
  have perm := (sortedBy_perm toLex (keys.map hashed)).map Prod.fst
  rw [ids] at perm
  rw [← List.length_map (f := Prod.fst), ← perm.nodup_iff, ← List.dedup_eq_self]
  exact ⟨(List.dedup_sublist _).eq_of_length, congrArg List.length⟩

theorem backfillChunkProof_of_identities {envelopes : List (ChunkEnvelope Payload)}
    {keys : List (String × String)} (known : identities envelopes = some keys) :
    backfillChunkProof envelopes =
      if (envelopes.map ChunkEnvelope.eventId).Nodup then
        .ok (hexdigest (idsText (sortedBy toLex (keys.map hashed))),
          hexdigest (recordsText (sortedBy toLex (keys.map hashed))))
      else .error duplicateEventIdentity := by
  rw [backfillChunkProof, mapM_record, known]
  by_cases nodup : (envelopes.map ChunkEnvelope.eventId).Nodup
  · simp [nodup, (length_dedup_sorted_iff known).mpr nodup]
  · simp [nodup, (length_dedup_sorted_iff known).not.mpr nodup]

/-- A payload without JSON comes before any comparison of ids. -/
theorem backfillChunkProof_of_none {envelopes : List (ChunkEnvelope Payload)}
    (unknown : identities envelopes = none) :
    backfillChunkProof envelopes = .error .dumpsRaised := by
  rw [backfillChunkProof, mapM_record, unknown]
  rfl

theorem identities_of_ok {envelopes : List (ChunkEnvelope Payload)} {proof : String × String}
    (done : backfillChunkProof envelopes = .ok proof) : ∃ keys, identities envelopes =
      some keys := by
  cases known : identities envelopes with
  | none => rw [backfillChunkProof_of_none known] at done; cases done
  | some keys => exact ⟨keys, rfl⟩

/-! ## What a proof identifies -/

/-- Records of distinct ids are the same records when their hashes are. -/
theorem perm_of_hashed {left right : List (String × String)} {texts : Set String}
    (collisionFree : texts.InjOn hexdigest) (leftTexts : ∀ key ∈ left, key.2 ∈ texts)
    (rightTexts : ∀ key ∈ right, key.2 ∈ texts) (leftNodup : (left.map Prod.fst).Nodup)
    (rightNodup : (right.map Prod.fst).Nodup) (perm : (left.map hashed).Perm (right.map hashed)) :
    left.Perm right := by
  have eq_of_hashed : ∀ first second : String × String, first.2 ∈ texts → second.2 ∈ texts →
      hashed first = hashed second → first = second := fun first second mem other same =>
    Prod.ext (Prod.ext_iff.mp same).1 (collisionFree mem other (Prod.ext_iff.mp same).2)
  refine (List.perm_ext_iff_of_nodup (List.Nodup.of_map _ leftNodup)
    (List.Nodup.of_map _ rightNodup)).mpr fun key => ⟨fun mem => ?_, fun mem => ?_⟩
  · obtain ⟨other, among, same⟩ :=
      List.mem_map.mp (perm.mem_iff.mp (List.mem_map_of_mem (f := hashed) mem))
    exact eq_of_hashed other key (rightTexts other among) (leftTexts key mem) same ▸ among
  · obtain ⟨other, among, same⟩ :=
      List.mem_map.mp (perm.mem_iff.mpr (List.mem_map_of_mem (f := hashed) mem))
    exact eq_of_hashed other key (leftTexts other among) (rightTexts key mem) same ▸ among

/-- An id as it is generated. -/
abbrev CleanId (envelope : ChunkEnvelope Payload) : Prop :=
  '\n' ∉ envelope.eventId.toList ∧ ':' ∉ envelope.eventId.toList

/-- No two of the texts that are hashed for one of the two proofs have one digest. -/
def CollisionFree (first second : List (ChunkEnvelope Payload)) : Prop :=
  Set.InjOn hexdigest {text | text ∈ hashedTexts first ∨ text ∈ hashedTexts second}

theorem mem_hashedTexts {envelopes : List (ChunkEnvelope Payload)} {keys : List (String × String)}
    (known : identities envelopes = some keys) :
    (∀ key ∈ keys, key.2 ∈ hashedTexts envelopes) ∧
      recordsText (sortedBy toLex (keys.map hashed)) ∈ hashedTexts envelopes := by
  refine ⟨fun key mem => List.mem_append_left _ (mem_dumps_of_mem known mem), ?_⟩
  refine List.mem_append_right _ ?_
  rw [mapM_record, known]
  simp

theorem cleanRecords {envelopes : List (ChunkEnvelope Payload)} {keys : List (String × String)}
    (clean : ∀ envelope ∈ envelopes, CleanId envelope) (known : identities envelopes = some keys) :
    ∀ record ∈ sortedBy toLex (keys.map hashed), CleanRecord record := by
  intro record mem
  obtain ⟨key, among, rfl⟩ := List.mem_map.mp ((sortedBy_perm toLex _).mem_iff.mp mem)
  have id : key.1 ∈ envelopes.map ChunkEnvelope.eventId :=
    ids_of_identities known ▸ List.mem_map_of_mem among
  obtain ⟨envelope, member, same⟩ := List.mem_map.mp id
  obtain ⟨line, colon⟩ := clean envelope member
  exact {
    idLine := by simpa [hashed, ← same] using line
    idColon := by simpa [hashed, ← same] using colon
    hashLine := (notMem_hexdigest key.2).1
    hashColon := (notMem_hexdigest key.2).2 }

/-- Lists of distinct ids have one proof when they are permutations of each other. -/
theorem backfillChunkProof_eq_iff {first second : List (ChunkEnvelope Payload)}
    {left right : List (String × String)} (known : identities first = some left)
    (otherKnown : identities second = some right)
    (clean : ∀ envelope ∈ first ++ second, CleanId envelope)
    (collisionFree : CollisionFree first second)
    (nodup : (first.map ChunkEnvelope.eventId).Nodup)
    (otherNodup : (second.map ChunkEnvelope.eventId).Nodup) :
    backfillChunkProof first = backfillChunkProof second ↔ left.Perm right := by
  rw [backfillChunkProof_of_identities known, backfillChunkProof_of_identities otherKnown,
    if_pos nodup,
    if_pos otherNodup]
  obtain ⟨texts, mem⟩ := mem_hashedTexts known
  obtain ⟨otherTexts, otherMem⟩ := mem_hashedTexts otherKnown
  constructor
  · intro same
    have digests : hexdigest (recordsText (sortedBy toLex (left.map hashed))) =
        hexdigest (recordsText (sortedBy toLex (right.map hashed))) := by
      injection same with same
      injection same
    have lines := eq_of_recordsText
      (cleanRecords (fun envelope mem => clean envelope (List.mem_append_left _ mem)) known)
      (cleanRecords (fun envelope mem => clean envelope (List.mem_append_right _ mem)) otherKnown)
      (collisionFree (.inl mem) (.inr otherMem) digests)
    exact perm_of_hashed collisionFree (fun key mem => .inl (texts key mem))
      (fun key mem => .inr (otherTexts key mem)) (ids_of_identities known ▸ nodup)
      (ids_of_identities otherKnown ▸ otherNodup) (sortedBy_toLex_eq_iff.mp lines)
  · intro perm
    rw [sortedBy_toLex_eq_iff.mpr (perm.map hashed)]

/-- Proofs identify the records of a chunk, and there is one unless an id occurs twice. -/
theorem chunk_proofs_identify_records (first second : List (ChunkEnvelope Payload))
    (clean : ∀ envelope ∈ first ++ second, CleanId envelope)
    (collisionFree : CollisionFree first second) :
    ((first.map ChunkEnvelope.eventId).Nodup → (second.map ChunkEnvelope.eventId).Nodup →
      ((∃ proof, backfillChunkProof first = .ok proof ∧ backfillChunkProof second = .ok proof) ↔
        ∃ left right, identities first = some left ∧ identities second = some right ∧
          left.Perm right)) ∧
      ∀ envelopes : List (ChunkEnvelope Payload),
        backfillChunkProof envelopes = .error duplicateEventIdentity ↔
          (identities envelopes).isSome ∧ ¬(envelopes.map ChunkEnvelope.eventId).Nodup := by
  refine ⟨fun nodup otherNodup => ⟨?_, ?_⟩, fun envelopes => ?_⟩
  · rintro ⟨proof, done, again⟩
    obtain ⟨left, known⟩ := identities_of_ok done
    obtain ⟨right, otherKnown⟩ := identities_of_ok again
    refine ⟨left, right, known, otherKnown, ?_⟩
    exact (backfillChunkProof_eq_iff known otherKnown clean collisionFree nodup otherNodup).mp
      (done.trans again.symm)
  · rintro ⟨left, right, known, otherKnown, perm⟩
    have same := (backfillChunkProof_eq_iff known otherKnown clean collisionFree nodup
      otherNodup).mpr perm
    have done := backfillChunkProof_of_identities known
    rw [if_pos nodup] at done
    exact ⟨_, done, same ▸ done⟩
  · cases known : identities envelopes with
    | none =>
        rw [backfillChunkProof_of_none known]
        simp [duplicateEventIdentity]
    | some keys =>
        rw [backfillChunkProof_of_identities known]
        split <;> simp [*]

end Proofs

/-! ## A chunk of two records -/

/-- The texts that are hashed for a proof of two records, with their digests. -/
def twoRecordTexts : List (String × String) :=
  [("\x7b\"price\":\"1\"\x7d", "723e169bc2ff42d8d49f32c1ac2c8737c447e2b27cae2dfb3eea945d305591d1"),
    ("\x7b\"price\":\"2\"\x7d", "9b17c23c29473849cf3fd562eafaa3a5d3fa1515b9bedd61945336b3acde1f74"),
    ("1f3a\n9c07", "fef4730655f36cb757fbd7551576d7a18af21177fde211ec32b66b98f4469a7d"),
    ("1f3a:723e169bc2ff42d8d49f32c1ac2c8737c447e2b27cae2dfb3eea945d305591d1" ++ "\n" ++
        "9c07:9b17c23c29473849cf3fd562eafaa3a5d3fa1515b9bedd61945336b3acde1f74",
      "662dae71b43aa2fdb1181ae26701314aef11f4718d66011880e237ecfafbc28a")]

/-- SHA-256 on these texts, any digest elsewhere. -/
def twoRecordDigest (text : String) : String :=
  (twoRecordTexts.lookup text).getD (String.ofList (List.replicate 64 '0'))

theorem twoRecordDigest_mem (text : String) :
    twoRecordDigest text ∈
      String.ofList (List.replicate 64 '0') :: twoRecordTexts.map Prod.snd := by
  unfold twoRecordDigest
  cases found : twoRecordTexts.lookup text with
  | none => exact .head _
  | some digest =>
      obtain ⟨before, rest, split, -⟩ := List.lookup_eq_some_iff.mp found
      rw [split]
      simp

/-- These digests are hexadecimal. -/
@[reducible] def twoRecordDigests : Sha256 where
  hexdigest := twoRecordDigest
  length_hexdigest text := by
    have all : ∀ digest ∈ String.ofList (List.replicate 64 '0') :: twoRecordTexts.map Prod.snd,
        digest.length = 64 := by decide +kernel
    exact all _ (twoRecordDigest_mem text)
  hexdigest_hex text := by
    have all : ∀ digest ∈ String.ofList (List.replicate 64 '0') :: twoRecordTexts.map Prod.snd,
        digest.toList.all fun c => c.isDigit || ('a' ≤ c && c ≤ 'f') := by decide +kernel
    simpa using all _ (twoRecordDigest_mem text)

/-- Payloads by their JSON. -/
@[reducible] def jsonTexts : CanonicalJson String where
  dumps text := some text

/-- Two records. -/
def twoRecords : List (ChunkEnvelope String) :=
  [⟨"1f3a", "\x7b\"price\":\"1\"\x7d"⟩, ⟨"9c07", "\x7b\"price\":\"2\"\x7d"⟩]

/-- Two records have one proof in both orders. -/
theorem reordered_chunk_has_same_proof :
    let _ := twoRecordDigests
    let _ := jsonTexts
    ∃ proof, backfillChunkProof twoRecords = .ok proof ∧
      backfillChunkProof twoRecords.reverse = .ok proof := by
  intro digests payloads
  have injective : Set.InjOn digests.hexdigest {text | text ∈ twoRecordTexts.map Prod.fst} :=
    List.inj_on_of_nodup_map (by decide +kernel)
  have texts : ∀ text ∈ hashedTexts twoRecords ++ hashedTexts twoRecords.reverse,
      text ∈ twoRecordTexts.map Prod.fst := by decide +kernel
  refine ((chunk_proofs_identify_records twoRecords twoRecords.reverse (by decide +kernel)
    (injective.mono fun text mem => texts text (List.mem_append.mpr mem))).1 (by decide)
    (by decide)).mpr ⟨_, _, rfl, rfl, List.Perm.swap _ _ _⟩

end Backfill
end DataGateway
