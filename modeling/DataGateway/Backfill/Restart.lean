import DataGateway.Backfill.World

/-!
# What a restart trusts

`start` on its own: what it makes of every persisted job, and what it saves of that.
-/

namespace DataGateway
namespace Backfill

open Coroutine Machine

section Jobs

variable [Manifests] {job : BackfillJob} {now later : DateTime}

/-! ## One job -/

/-- Whether a manifest is valid depends on what its hash is made of. -/
theorem structureValid_congr {other : BackfillJob} (jobId : other.jobId = job.jobId)
    (manifestHash : other.manifestHash = job.manifestHash) (request : other.request = job.request)
    (chunks : other.chunks = job.chunks) :
    manifestStructureValid other = manifestStructureValid job := by
  simp only [manifestStructureValid, jobId, manifestHash, request, chunks]

omit [Manifests] in
theorem evidenceComplete_congr {other : BackfillJob} (chunks : other.chunks = job.chunks) :
    publicationEvidenceComplete other = publicationEvidenceComplete job := by
  rw [publicationEvidenceComplete, publicationEvidenceComplete, chunks]

/-- `start` changes the status of a job, its reason and its times. -/
structure SameManifest (job other : BackfillJob) : Prop where
  jobId : other.jobId = job.jobId
  manifestHash : other.manifestHash = job.manifestHash
  request : other.request = job.request
  chunks : other.chunks = job.chunks
  gatewayCompletedAt : other.gatewayCompletedAt = job.gatewayCompletedAt

omit [Manifests] in
theorem sameManifest_resumed : SameManifest job (job.resumed now) := by
  unfold BackfillJob.resumed
  split
  · split <;> exact ⟨rfl, rfl, rfl, rfl, rfl⟩
  · exact ⟨rfl, rfl, rfl, rfl, rfl⟩

omit [Manifests] in
theorem SameManifest.trans {middle last : BackfillJob} (first : SameManifest job middle)
    (second : SameManifest middle last) : SameManifest job last :=
  ⟨second.jobId.trans first.jobId, second.manifestHash.trans first.manifestHash,
    second.request.trans first.request, second.chunks.trans first.chunks,
    second.gatewayCompletedAt.trans first.gatewayCompletedAt⟩

theorem SameManifest.valid {other : BackfillJob} (same : SameManifest job other) :
    manifestStructureValid other = manifestStructureValid job :=
  structureValid_congr same.jobId same.manifestHash same.request same.chunks

omit [Manifests] in
theorem SameManifest.evidence {other : BackfillJob} (same : SameManifest job other) :
    publicationEvidenceComplete other = publicationEvidenceComplete job :=
  evidenceComplete_congr same.chunks

/-- What `start` leaves of a job. -/
def restart (now later : DateTime) (job : BackfillJob) : BackfillJob :=
  (job.restored now).resumed later

/-- A job that `start` does not find at work. -/
def AtRest (status : BackfillStatus) : Prop :=
  status ≠ .verified ∧ status ≠ .running ∧ status ≠ .queued

theorem atRest_restored : AtRest (job.restored now).status := by
  unfold BackfillJob.restored
  split
  · split
    · split <;> exact ⟨by rintro ⟨⟩, by rintro ⟨⟩, by rintro ⟨⟩⟩
    · exact ⟨by rintro ⟨⟩, by rintro ⟨⟩, by rintro ⟨⟩⟩
    · exact ⟨by rintro ⟨⟩, by rintro ⟨⟩, by rintro ⟨⟩⟩
    next awaiting => split <;> simp [AtRest, awaiting]
    next verified queued running awaiting => exact ⟨verified, running, queued⟩
  · exact ⟨by rintro ⟨⟩, by rintro ⟨⟩, by rintro ⟨⟩⟩

/-- The status that the record has after `start`. -/
def recordStatus (now later : DateTime) (job : BackfillJob) : BackfillStatus :=
  if manifestStructureValid job ∧ (job.restored now).checkable ∧
      publicationEvidenceComplete job = false then (restart now later job).status
  else if job.restoreSaves then (job.restored now).status
  else job.status

end Jobs

/-! ## The loop of `start` -/

section Loop

variable [Manifests] (engine : BackfillEngine)

/-- The process lives on. -/
def steady : Policy (backfillMachine engine) where
  allows _ _ _ _ := True
  permits move _ := match move with
    | .restart => False
    | _ => True

variable {engine} {task : EngineTask} {world after : EngineWorld} {command : EngineCommand}
  {reply : command.Reply}

/-- Later, with other acknowledgements. -/
def EngineWorld.later (world : EngineWorld) (now : Int)
    (acks : String → String → Option HeberChunkAcknowledgement) : EngineWorld :=
  { world with now := now, acks := acks }

omit [Manifests] in
theorem drifts_steady {drifted : EngineWorld} (drifts : Drifts (steady engine) world drifted) :
    ∃ now acks, drifted = world.later now acks := by
  induction drifts with
  | refl => exact ⟨world.now, world.acks, rfl⟩
  | tail _ step ih =>
      obtain ⟨now, acks, rfl⟩ := ih
      obtain ⟨move, permitted, rfl⟩ := step
      cases move with
      | pass micros => exact ⟨_, acks, rfl⟩
      | acknowledge jobId chunkId acknowledgement => exact ⟨now, _, rfl⟩
      | restart => exact permitted.elim

omit [Manifests] in
/-- A command of a task that runs alone. -/
theorem alone_after (answered : (solo (steady engine) task).after command world reply after) :
    ∃ now acks outcome,
      (world.later now acks).performAlive engine command outcome = some (reply, after) := by
  obtain ⟨drifted, outcome, drifts, -, performed⟩ := answered
  obtain ⟨now, acks, rfl⟩ := drifts_steady drifts
  exact ⟨now, acks, outcome, (Option.ite_none_right_eq_some.mp performed).2⟩

omit [Manifests] in
/-- An assignment of a task that runs alone. -/
theorem assign_alone {object : Nat} {held : JobObject}
    {change : DateTime → BackfillJob → BackfillJob} (here : world.objects[object]? = some held) :
    Meets (solo (steady engine) task) (fun outcome last => outcome = .ok held.job ∧
      last.jobs = world.jobs ∧ last.store = world.store ∧ ∃ now, last.objects =
        world.objects.modify object fun object => { object with job := change now object.job })
      world (assign object change) := by
  refine ⟨trivial, fun reply next answered => ?_⟩
  obtain ⟨now, acks, outcome, performed⟩ := alone_after answered
  change (world.objects[object]?.map _) = _ at performed
  rw [here] at performed
  cases performed
  exact ⟨rfl, rfl, rfl, _, rfl⟩

/-- The object of a job that was loaded, and the status of its record. -/
structure Stands (payload : BackfillJob) (before : EngineWorld) (held : JobObject)
    (status : BackfillStatus) (world : EngineWorld) : Prop where
  objects : world.objects = before.objects ++ [held]
  jobs : world.jobs = before.jobs.set payload.jobId before.objects.length
  record : ∃ record, world.store.get? payload.jobId = some record ∧ record.status = status
  others : ∀ id, id ≠ payload.jobId → world.store.get? id = before.store.get? id

section Stands

variable {payload : BackfillJob} {before : EngineWorld} {held : JobObject} {status : BackfillStatus}

omit [Manifests] in
theorem Stands.here (stands : Stands payload before held status world) :
    world.objects[before.objects.length]? = some held := by
  rw [stands.objects]
  exact List.getElem?_concat_length

omit [Manifests] in
theorem modify_last (objects : List JobObject) (held : JobObject) (by_ : JobObject → JobObject) :
    (objects ++ [held]).modify objects.length by_ = objects ++ [by_ held] := by
  induction objects with
  | nil => rfl
  | cons object objects ih => simp [ih]

omit [Manifests] in
theorem Stands.assign {change : DateTime → BackfillJob → BackfillJob}
    (stands : Stands payload before held status world) :
    Meets (solo (steady engine) task) (fun outcome last => outcome = .ok held.job ∧ ∃ now,
      Stands payload before { held with job := change now held.job } status last) world
      (assign before.objects.length change) := by
  refine (assign_alone stands.here).mono ?_
  rintro outcome last ⟨same, jobs, store, now, objects⟩
  refine ⟨same, now, ?_, jobs.trans stands.jobs, by rw [store]; exact stands.record,
    fun id other => by rw [store]; exact stands.others id other⟩
  rw [objects, stands.objects, modify_last]

end Stands

/-- What the loop makes of a job that was loaded. -/
structure RestoredJob (payload : BackfillJob) (before after : EngineWorld) : Prop where
  stands : ∃ held now later, Stands payload before held (recordStatus now later payload) after ∧
    held.job = restart now later payload ∧
    (held.task = some .verify → publicationEvidenceComplete payload = true)

/-- The loop has made what it makes of the jobs that are not left. -/
structure Restarted (before : EngineWorld) (left : List BackfillJob)
    (world : EngineWorld) : Prop where
  done : ∀ id payload, before.store.get? id = some payload → id ∉ left.map BackfillJob.jobId →
    ∃ object held now later record, world.jobs.get? id = some object ∧
      world.objects[object]? = some held ∧ held.job = restart now later payload ∧
      (held.task = some .verify → publicationEvidenceComplete payload = true) ∧
      world.store.get? id = some record ∧ record.status = recordStatus now later payload
  todo : ∀ payload ∈ left, world.store.get? payload.jobId = some payload ∧
    before.store.get? payload.jobId = some payload
  apart : (left.map BackfillJob.jobId).Nodup
  jobs : ∀ id object, world.jobs.get? id = some object →
    id ∉ left.map BackfillJob.jobId ∧ ∃ payload, before.store.get? id = some payload
  store : ∀ id record, world.store.get? id = some record →
    ∃ payload, before.store.get? id = some payload

omit [Manifests] in
theorem getElem?_append_some {objects more : List JobObject} {object : Nat} {held : JobObject}
    (here : objects[object]? = some held) : (objects ++ more)[object]? = some held := by
  obtain ⟨inside, -⟩ := List.getElem?_eq_some_iff.mp here
  rw [List.getElem?_append_left inside, here]

theorem Restarted.turn {before : EngineWorld} {payload : BackfillJob} {left : List BackfillJob}
    (restarted : Restarted before (payload :: left) world)
    (restored : RestoredJob payload world after) :
    Restarted before left after := by
  obtain ⟨held, now, later, stands, job, verify⟩ := restored.stands
  obtain ⟨fresh, apart⟩ := List.nodup_cons.mp restarted.apart
  have own := restarted.todo payload List.mem_cons_self
  refine ⟨fun id loaded found notLeft => ?_, fun other mem => ?_, apart, fun id object held => ?_,
    fun id record found => ?_⟩
  · by_cases same : id = payload.jobId
    · subst same
      obtain rfl := Option.some.inj (own.2.symm.trans found)
      obtain ⟨record, stored, status⟩ := stands.record
      refine ⟨world.objects.length, held, now, later, record, ?_, stands.here, job, verify,
        stored, status⟩
      rw [stands.jobs, OrderedDict.get?_set, if_pos rfl]
    · obtain ⟨object, kept, now, later, record, jobs, here, final, check, stored, status⟩ :=
        restarted.done id loaded found (by simpa [same] using notLeft)
      refine ⟨object, kept, now, later, record, ?_, ?_, final, check, ?_, status⟩
      · rw [stands.jobs, OrderedDict.get?_set, if_neg same, jobs]
      · rw [stands.objects]
        exact getElem?_append_some here
      · rw [stands.others id same, stored]
  · obtain ⟨stored, loaded⟩ := restarted.todo other (List.mem_cons_of_mem _ mem)
    refine ⟨?_, loaded⟩
    rw [stands.others _ fun same => fresh (same ▸ List.mem_map_of_mem mem), stored]
  · rw [stands.jobs, OrderedDict.get?_set] at held
    split at held
    next same =>
      subst same
      exact ⟨fresh, payload, own.2⟩
    · obtain ⟨notLeft, loaded⟩ := restarted.jobs id object held
      exact ⟨fun mem => notLeft (List.mem_cons_of_mem _ mem), loaded⟩
  · by_cases same : id = payload.jobId
    · exact ⟨payload, same ▸ own.2⟩
    · rw [stands.others id same] at found
      exact restarted.store id record found

omit [Manifests] in
instance : (steady engine).Decides where
  act _ _ _ _ := inferInstanceAs (Decidable True)
  calm move _ := by
    cases move with
    | restart => exact inferInstanceAs (Decidable False)
    | pass _ | acknowledge _ _ _ => exact inferInstanceAs (Decidable True)

end Loop

/-! ## A partial job -/

end Backfill
end DataGateway
