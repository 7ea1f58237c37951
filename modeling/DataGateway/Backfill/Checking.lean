import DataGateway.Backfill.Evidence

/-!
# What the tasks check

A job is verified by its own task only, at the end of a pass in which an acknowledgement was read
for every chunk and matched it.  While it checks, no task of a chunk is under way.
-/

namespace DataGateway
namespace Backfill

open Coroutine Machine

/-- How far a task has come. -/
inductive CheckStage
  | idle
  /-- The task of a job while no task of a chunk is under way, and whether the job was seen to
  be sound since then. -/
  | rest (sound : Bool)
  /-- The tasks of a date are under way. -/
  | spawned
  /-- A pass over the chunks of this job, with what was read of it so far. -/
  | pass (job : BackfillJob) (read : List (String × Option HeberChunkAcknowledgement))
  | certified
  /-- The task of a chunk has its turn. -/
  | inside
  | left

namespace CheckStage

/-- The task of a job with no task of a chunk under way. -/
def Rests (stage : CheckStage) : Prop := ∃ sound, stage = .rest sound

/-- In a pass over the chunks of this job. -/
def Passes (job : BackfillJob) (stage : CheckStage) : Prop := ∃ read, stage = .pass job read

end CheckStage

section Tasks

variable [Manifests]

/-- The stage after a command. -/
def CheckStage.next (stage : CheckStage) : (command : EngineCommand) → command.Reply → CheckStage
  | .begin _, _ => .rest false
  | .update _ change, job => match stage with
      | .rest sound => .rest (sound || job.sound)
      | .pass _ _ => if (change (utc 0) job).status = .verified then .certified else stage
      | _ => stage
  | .spawn _ _ _, _ => .spawned
  | .gather _, _ => .rest false
  | .beginPass _, job => .pass job []
  | .readAck _ _ chunkId, reply => match stage, reply with
      | .pass job read, .ok acknowledgement => .pass job ((chunkId, acknowledgement) :: read)
      | _, _ => stage
  | .enter _ _ _, _ => .inside
  | .leave _ _ _, _ => .left
  | _, _ => stage

/-- An assignment that does not verify the job. -/
def KeepsStatus (change : DateTime → BackfillJob → BackfillJob) : Prop :=
  ∀ now job, (change now job).status = .verified → job.status = .verified

/-- The task of a job assigns to that job only. -/
def EngineTask.Owns (task : EngineTask) (object : Nat) : Prop :=
  ∀ own, task = .job own → object = own

/-- What a task promises of its commands. -/
def CheckStage.promises (task : EngineTask) : EngineCommand → CheckStage → Prop
  | .adopt make, _ => ∀ now, (make now).status ≠ .verified
  | .update object change, stage => task.Owns object ∧
      ((∀ now, Harmless (change now)) ∨
        (∃ date position, task = .chunk object date position ∧ stage = .inside ∧
          KeepsStatus change) ∨ ∃ job read, task = .job object ∧ stage = .pass job read ∧
          change = BackfillJob.setVerified ∧ job.Covered read)
  | .begin object, stage => task = .job object ∧ stage = .idle
  | .spawn object _ _, stage => task = .job object ∧ stage.Rests
  | .gather object, stage => task = .job object ∧ stage = .spawned
  | .beginPass object, stage => task = .job object ∧
      (stage = .rest true ∨ ∃ job, stage.Passes job)
  | .readAck object _ _, stage => task = .job object ∧ ∃ job, stage.Passes job
  | .enter object date position, stage => task = .chunk object date position ∧ stage = .idle
  | .leave object position _, stage => ∃ date, task = .chunk object date position ∧ stage = .inside
  | _, _ => True

/-- What a task is promised of the replies. -/
def CheckStage.relies (task : EngineTask) : (command : EngineCommand) → CheckStage →
    command.Reply → Prop
  | .update object _, stage, job => ∀ seen, task = .job object → stage.Passes seen →
      SameEvidence seen job ∧ job.status ≠ .verified
  | .beginPass _, _, job => job.sound = true
  | _, _, _ => True

/-- The rules for what is verified. -/
def checking (task : EngineTask) : Contract EngineCommand.Reply CheckStage :=
  .tracking CheckStage.next ⟨CheckStage.promises task, CheckStage.relies task⟩

/-! ## Commands that change no evidence -/

/-- The command leaves the evidence for every job as it is. -/
def Plain (task : EngineTask) : EngineCommand → Prop
  | .adopt make => ∀ now, (make now).status ≠ .verified
  | .update object change => task.Owns object ∧ ∀ now, Harmless (change now)
  | .begin _ | .spawn _ _ _ | .gather _ | .beginPass _ | .readAck _ _ _ | .enter _ _ _
  | .leave _ _ _ => False
  | _ => True

variable {task : EngineTask} {stage : CheckStage} {α : Type} {body : Working α} {object : Nat}

omit [Manifests] in
theorem Plain.promised {command : EngineCommand} (plain : Plain task command) :
    CheckStage.promises task command stage := by
  cases command with
  | update object change => exact ⟨plain.1, .inl plain.2⟩
  | adopt make => exact plain
  | begin _ | spawn _ _ _ | gather _ | beginPass _ | readAck _ _ _ | enter _ _ _ | leave _ _ _ =>
      exact plain.elim
  | loadJobs | loadJob _ | write _ _ | acquireLock _ | releaseLock _ | runningJob _
  | startTask _ _ | cancelJob _ | endTask _ | acquireSlot _ _ | releaseSlot _ _ | readReadiness
  | sleep | processing _ _ | acquireRate | fetch _ _ | publish _ _ _ | clock => trivial

/-- A job that rests does so after a plain command. -/
theorem Plain.rests {command : EngineCommand} {reply : command.Reply} (plain : Plain task command)
    (rests : stage.Rests) : (stage.next command reply).Rests := by
  obtain ⟨sound, rfl⟩ := rests
  cases command with
  | begin _ | spawn _ _ _ | gather _ | beginPass _ | readAck _ _ _ | enter _ _ _ | leave _ _ _ =>
      exact plain.elim
  | update _ _ | loadJobs | loadJob _ | write _ _ | acquireLock _ | releaseLock _ | runningJob _
  | adopt _ | startTask _ _ | cancelJob _ | endTask _ | acquireSlot _ _ | releaseSlot _ _
  | readReadiness | sleep | processing _ _ | acquireRate | fetch _ _ | publish _ _ _ | clock =>
      exact ⟨_, rfl⟩

/-- A plain command moves no other stage. -/
theorem Plain.still {command : EngineCommand} {reply : command.Reply} (plain : Plain task command)
    (relied : CheckStage.relies task command stage reply) (works : ¬stage.Rests)
    (own : ∀ seen, stage.Passes seen → ∃ object, task = .job object) :
    stage.next command reply = stage := by
  cases command with
  | update object change =>
      cases stage with
      | rest sound => exact absurd ⟨sound, rfl⟩ works
      | pass seen read =>
          have passes : (CheckStage.pass seen read).Passes seen := ⟨read, rfl⟩
          obtain ⟨mine, rfl⟩ := own seen passes
          obtain rfl := plain.1 mine rfl
          obtain ⟨-, unverified⟩ := relied seen rfl passes
          exact if_neg fun verified => unverified ((plain.2 (utc 0)).status reply verified)
      | idle | spawned | certified | inside | left => rfl
  | begin _ | spawn _ _ _ | gather _ | beginPass _ | readAck _ _ _ | enter _ _ _ | leave _ _ _ =>
      exact plain.elim
  | loadJobs | loadJob _ | write _ _ | acquireLock _ | releaseLock _ | runningJob _ | adopt _
  | startTask _ _ | cancelJob _ | endTask _ | acquireSlot _ _ | releaseSlot _ _ | readReadiness
  | sleep | processing _ _ | acquireRate | fetch _ _ | publish _ _ _ | clock => rfl

/-- A job that rests does so after a plain program. -/
theorem plain_rests (plain : body.Uses (Plain task)) (rests : stage.Rests) :
    Meets (checking task) (fun _ last => last.Rests) stage body := by
  refine plain.meets_inv rests fun command current plain rests => ⟨plain.promised, ?_⟩
  rintro reply _ ⟨rfl, -⟩
  exact plain.rests rests

/-- A plain program moves no other stage. -/
theorem plain_still (plain : body.Uses (Plain task)) (works : ¬stage.Rests)
    (own : ∀ seen, stage.Passes seen → ∃ object, task = .job object) :
    Meets (checking task) (fun _ last => last = stage) stage body := by
  refine plain.meets_inv rfl fun command current plain same => ⟨plain.promised, ?_⟩
  rintro reply _ ⟨rfl, relied⟩
  subst same
  exact plain.still relied works own

/-! ## Plain programs -/

section Programs

variable (owns : task.Owns object)

omit [Manifests] in
theorem plain_settle (outcome : Except Fault α) : (settle outcome).Uses (Plain task) := by
  cases outcome <;> trivial

include owns

omit [Manifests] in
theorem plain_assign {change : DateTime → BackfillJob → BackfillJob}
    (harmless : ∀ now, Harmless (change now)) : (assign object change).Uses (Plain task) :=
  ⟨⟨owns, harmless⟩, fun _ => trivial⟩

omit [Manifests] in
theorem plain_saveJob {point : SavePoint} : (saveJob object point).Uses (Plain task) :=
  ⟨⟨owns, fun _ => BackfillJob.harmless_same⟩, fun _ => ⟨trivial, plain_settle⟩⟩

omit [Manifests] in
theorem plain_blockJob {status : BackfillStatus} (other : status ≠ .verified) {reason : String} :
    (blockJob object status reason).Uses (Plain task) :=
  (plain_assign owns fun _ => BackfillJob.harmless_block other _ _).bind fun _ => plain_saveJob owns

omit [Manifests] in
theorem plain_readReadiness : (readReadiness object).Uses (Plain task) := by
  refine Uses.catching ⟨trivial, fun reply => (plain_settle reply).bind fun _ => trivial⟩ ?_
  rintro (_ | _)
  · trivial
  · exact (plain_blockJob owns (by rintro ⟨⟩)).bind fun _ => trivial

end Programs

/-! ## Clients and the restart -/

section Clients

variable (client : ∀ object, task.Owns object)
include client

omit [Manifests] in
theorem plain_adoptAndSave {make : DateTime → BackfillJob}
    (unverified : ∀ now, (make now).status ≠ .verified) : (adoptAndSave make).Uses (Plain task) :=
  ⟨unverified, fun _ => (plain_saveJob (client _)).bind fun _ => trivial⟩

theorem plain_enqueue {request : BackfillRequest} {capability : ReplayFeedCapability}
    {make : DateTime → BackfillJob} (queued : ∀ now, (make now).status = .queued) :
    (enqueue request capability make).Uses (Plain task) := by
  have tables (now : DateTime) :
      (((make now).withSymbols request).withChunks request).status = .queued := by
    change ((make now).withSymbols request).status = .queued
    unfold BackfillJob.withSymbols
    split <;> exact queued now
  unfold enqueue
  split
  · trivial
  split
  · refine (plain_adoptAndSave client fun now => ?_).bind fun _ => ⟨trivial, fun _ => trivial⟩
    rw [tables]
    rintro ⟨⟩
  · exact (plain_adoptAndSave client (by rintro _ ⟨⟩)).bind fun _ => trivial

theorem plain_resubmit {request : BackfillRequest} {capability : ReplayFeedCapability}
    {job : BackfillJob} : (resubmit request capability job).Uses (Plain task) := by
  unfold resubmit
  split
  · split
    next unrecoverable =>
      refine ⟨fun _ => ?_, fun _ => trivial⟩
      rw [unrecoverable]
      rintro ⟨⟩
    · split
      · exact (plain_adoptAndSave client (by rintro _ ⟨⟩)).bind fun _ =>
          ⟨trivial, fun _ => trivial⟩
      · exact (plain_adoptAndSave client (by rintro _ ⟨⟩)).bind fun _ => trivial
    · exact plain_enqueue client fun _ => rfl
  · exact (plain_adoptAndSave client (by rintro _ ⟨⟩)).bind fun _ => trivial

theorem plain_submit [Unicode] {engine : BackfillEngine} {request : BackfillRequest} :
    (submit engine request).Uses (Plain task) := by
  unfold submit
  split
  · trivial
  next request capability _ =>
    refine ⟨trivial, fun acquired => (plain_settle acquired).bind fun _ => ?_⟩
    refine Uses.resolve ⟨trivial, ?_⟩ fun _ =>
      Uses.bind ⟨trivial, fun _ => trivial⟩ fun _ => trivial
    rintro (_ | _)
    · refine ⟨trivial, fun loaded => (plain_settle loaded).bind ?_⟩
      rintro (_ | job)
      · exact plain_enqueue client fun _ => rfl
      · dsimp only
        split
        · trivial
        · exact plain_resubmit client
    · trivial

omit [Manifests] in
theorem plain_cancel {jobId : String} : (cancel jobId).Uses (Plain task) := by
  refine ⟨trivial, ?_⟩
  rintro (_ | object)
  · trivial
  · exact plain_saveJob (client object)

theorem plain_restoreJob {payload : BackfillJob} : (restoreJob payload).Uses (Plain task) := by
  refine ⟨fun _ => atRest_restored.1, fun object => Uses.bind ?_ fun _ => ?_⟩
  · split
    · exact plain_saveJob (client object)
    · trivial
  · split
    · refine (plain_assign (client object) BackfillJob.harmless_resumed).bind fun job => ?_
      split
      · split
        · exact ⟨trivial, fun _ => trivial⟩
        · exact plain_saveJob (client object)
      · trivial
    · trivial

theorem plain_start : start.Uses (Plain task) :=
  ⟨trivial, fun loaded => (plain_settle loaded).bind fun _ =>
    Uses.foldEach fun _ _ _ => plain_restoreJob client⟩

end Clients

/-! ## A pass -/

section Job

variable (engine : BackfillEngine) {job : BackfillJob}

omit [Manifests] in
theorem owns_job : (EngineTask.job object).Owns object := by
  rintro _ ⟨⟩
  rfl

/-- What a pass has found before these chunks are checked: where nothing was missing, all that was
read matches, and the other chunks were read. -/
def PassFound (job : BackfillJob) (left : List (String × ChunkResult)) (state : PassState)
    (stage : CheckStage) : Prop :=
  ∃ read, stage = .pass job read ∧ (∀ item ∈ left, item ∈ job.chunks.items) ∧
    (state.allVerified = true → (∀ reading ∈ read, job.Matches reading) ∧
      ∀ item ∈ job.chunks.items, item ∈ left ∨
        ∃ acknowledgement, (item.1, acknowledgement) ∈ read)

/-- A reply of a job that passes over its chunks. -/
theorem pass_still {read : List (String × Option HeberChunkAcknowledgement)}
    (plain : body.Uses (Plain (.job object))) :
    Meets (checking (.job object)) (fun _ last => last = .pass job read) (.pass job read) body :=
  plain_still plain (by rintro ⟨_, ⟨⟩⟩) fun _ _ => ⟨object, rfl⟩

/-- The acknowledgement of one chunk is checked. -/
theorem checkChunk_meets {left : List (String × ChunkResult)} {state : PassState}
    {item : String × ChunkResult} (sound : job.sound = true)
    (found : PassFound job (item :: left) state stage) :
    Meets (checking (.job object)) (fun outcome last => match outcome with
        | .ok next => PassFound job left next last
        | .error _ => True) stage (checkChunk object job.jobId state item) := by
  obtain ⟨read, rfl, within, all⟩ := found
  have listed := OrderedDict.get?_eq_some.mpr (within item (.head _))
  have named : item.2.chunkId = item.1 :=
    ((complete_of_valid (Bool.and_eq_true_iff.mp sound).1).only _ _ listed).1
  have reads : Meets (checking (.job object)) (fun outcome last => match outcome with
      | .ok (acknowledgement, next) =>
          (next = state ∧ last = .pass job ((item.1, acknowledgement) :: read)) ∨
            (next.allVerified = false ∧ last = .pass job read)
      | .error _ => True) (.pass job read)
      (exceptRaised
        ((call (EngineCommand.readAck object job.jobId item.2.chunkId)).bind fun reply =>
          (settle reply).bind fun acknowledgement => .finish (.ok (acknowledgement, state)))
        fun _ _ => .finish (.ok (none, ⟨false, "heber_acknowledgement_invalid"⟩))) := by
    refine ⟨⟨rfl, job, read, rfl⟩, ?_⟩
    rintro (fault | acknowledgement) _ ⟨rfl, -⟩
    · cases fault with
      | cancelled => trivial
      | raised message reason => exact .inr ⟨rfl, rfl⟩
    · exact .inl ⟨rfl, by rw [← named]; rfl⟩
  refine reads.bind ?_ fun _ _ _ => trivial
  rintro ⟨acknowledgement, next⟩ last seen
  obtain ⟨read', rfl⟩ : ∃ read', last = .pass job read' := by
    rcases seen with ⟨-, rfl⟩ | ⟨-, rfl⟩ <;> exact ⟨_, rfl⟩
  refine ⟨⟨owns_job, .inl fun _ => BackfillJob.harmless_noteAck _ _⟩, ?_⟩
  rintro job' _ ⟨rfl, relied⟩
  obtain ⟨same, unverified⟩ := relied job rfl ⟨read', rfl⟩
  have still : CheckStage.next (.pass job read')
      (.update object fun _ => BackfillJob.noteAck item.1 acknowledgement) job' = .pass job read' :=
    if_neg fun verified =>
      unverified ((BackfillJob.harmless_noteAck item.1 acknowledgement).status job' verified)
  obtain ⟨chunk', found', bare⟩ := same.get? listed
  rw [still]
  dsimp only [Coroutine.resolve]
  rw [found']
  have rest : ∀ other ∈ left, other ∈ job.chunks.items :=
    fun other mem => within other (.tail _ mem)
  dsimp only
  split
  · trivial
  next fits =>
      refine ⟨read', rfl, rest, fun verified => ?_⟩
      rcases seen with ⟨rfl, read_⟩ | ⟨missed, -⟩
      · cases read_
        obtain ⟨held, covered⟩ := all verified
        rw [ackMismatch_congr same bare] at fits
        refine ⟨fun reading mem => ?_, fun other mem => ?_⟩
        · rcases List.mem_cons.mp mem with rfl | earlier
          · refine ⟨item.2, listed, ?_, fits⟩
            cases acknowledgement with
            | none => cases fits
            | some _ => rfl
          · exact held reading earlier
        · rcases covered other mem with mem | ⟨acknowledged, mem⟩
          · rcases List.mem_cons.mp mem with rfl | later
            · exact .inr ⟨acknowledgement, .head _⟩
            · exact .inl later
          · exact .inr ⟨acknowledged, .tail _ mem⟩
      · rw [missed] at verified
        cases verified
  · exact ⟨read', rfl, rest, by rintro ⟨⟩⟩

/-- A pass may begin. -/
def CheckStage.Ready (stage : CheckStage) : Prop := stage = .rest true ∨ ∃ job, stage.Passes job

theorem poll_meets {deadline : Int} {polls : Nat} {reason : String} {alerted : Bool}
    (ready : stage.Ready) :
    Meets (checking (.job object)) (fun _ _ => True) stage
      (poll engine object deadline polls reason alerted) := by
  induction polls generalizing reason alerted stage with
  | zero => trivial
  | succ polls ih =>
      refine ⟨⟨rfl, ready⟩, ?_⟩
      rintro job _ ⟨rfl, sound⟩
      have begun : PassFound job job.chunks.items ⟨true, reason⟩ (.pass job []) :=
        ⟨[], rfl, fun _ => id, fun _ => ⟨nofun, fun _ => .inl⟩⟩
      refine (Meets.foldEach (PassFound job) (fun _ _ => True) begun
        fun item left state last found => (checkChunk_meets sound found).mono ?_).bind ?_
        fun _ _ _ => trivial
      · rintro (_ | _) _ kept <;> exact kept
      rintro state _ ⟨read, rfl, -, all⟩
      have sleeps {reason : String} {alerted : Bool} :
          Meets (checking (.job object)) (fun _ _ => True)
          (.pass job read) (.suspend .sleep fun slept =>
            (settle slept).bind fun _ => poll engine object deadline polls reason alerted) := by
        refine ⟨trivial, ?_⟩
        rintro slept _ ⟨rfl, -⟩
        refine (pass_still (plain_settle slept)).bind ?_ fun _ _ _ => trivial
        rintro _ _ rfl
        exact ih (.inr ⟨job, read, rfl⟩)
      split
      next verified =>
        obtain ⟨held, covered⟩ := all verified
        refine ⟨⟨owns_job,
          .inr (.inr ⟨job, read, rfl, rfl, rfl, held, fun key chunk found => ?_⟩)⟩, ?_⟩
        · exact (covered (key, chunk) (OrderedDict.get?_eq_some.mp found)).resolve_left nofun
        · rintro job' _ ⟨rfl, -⟩
          refine (plain_still (plain_saveJob owns_job) (by rintro ⟨_, ⟨⟩⟩) ?_).mono fun _ _ _ =>
            trivial
          rintro _ ⟨_, ⟨⟩⟩
      · refine ⟨trivial, ?_⟩
        rintro now _ ⟨rfl, -⟩
        change Meets (checking (.job object)) (fun _ _ => True) (.pass job read)
            (if _ then _ else _)
        split
        · refine (pass_still (plain_blockJob owns_job (by rintro ⟨⟩))).bind ?_ fun _ _ _ => trivial
          rintro _ _ rfl
          split
          · trivial
          · exact sleeps
        · exact sleeps

/-- A job is checked while none of its chunks is under way. -/
theorem verifyHeberAcknowledgements_meets {polls : Nat} (rests : stage.Rests) :
    Meets (checking (.job object)) (fun _ _ => True) stage
      (verifyHeberAcknowledgements engine polls object) := by
  obtain ⟨seen, rfl⟩ := rests
  refine ⟨⟨owns_job, .inl fun _ => BackfillJob.harmless_same⟩, ?_⟩
  rintro job _ ⟨rfl, -⟩
  dsimp only [Coroutine.resolve]
  split
  next sound =>
    refine ⟨trivial, ?_⟩
    rintro now _ ⟨rfl, -⟩
    refine poll_meets engine (.inl ?_)
    change CheckStage.rest (seen || job.sound) = _
    rw [show job.sound = true from sound, Bool.or_true]
  · exact (plain_rests (plain_blockJob owns_job (by rintro ⟨⟩)) ⟨_, rfl⟩).mono fun _ _ _ =>
      trivial

/-! ## The task of a job -/

/-- The program leaves a job at rest. -/
def KeepsRest (object : Nat) (body : Working α) : Prop :=
  ∀ stage : CheckStage, stage.Rests →
    Meets (checking (.job object)) (fun _ last => last.Rests) stage body

theorem keepsRest_of_plain (plain : body.Uses (Plain (.job object))) : KeepsRest object body :=
  fun _ rests => plain_rests plain rests

theorem KeepsRest.bind {β : Type} {next : α → Working β} (first : KeepsRest object body)
    (rest : ∀ value, KeepsRest object (next value)) : KeepsRest object (body.bind next) :=
  fun stage rests => (first stage rests).bind_kept fun value last kept => rest value last kept

theorem keepsRest_executeDate {request : BackfillRequest} (left : Bool) (date : Nat × DateRange) :
    KeepsRest object (executeDate object request left date) := by
  have plain {β : Type} {body : Working β} := @keepsRest_of_plain _ β body object
  unfold executeDate
  split
  · exact plain trivial
  · refine (plain (plain_assign owns_job fun _ => BackfillJob.harmless_same)).bind fun job => ?_
    split
    · exact plain trivial
    · intro stage rests
      refine ⟨⟨rfl, rests⟩, ?_⟩
      rintro _ _ ⟨rfl, -⟩
      refine ⟨⟨rfl, rfl⟩, ?_⟩
      rintro gathered _ ⟨rfl, -⟩
      refine plain ((plain_settle gathered).bind fun results => ?_) _ ⟨false, rfl⟩
      refine (plain_assign owns_job fun _ => BackfillJob.harmless_noteResults _ _ _).bind
        fun _ => ?_
      exact ⟨trivial, fun slept => (plain_settle slept).bind fun _ => trivial⟩

theorem keepsRest_foldEach {β γ : Type} {each : β → γ → Working β}
    (keeps : ∀ state item, KeepsRest object (each state item)) (state : β) (items : List γ) :
    KeepsRest object (foldEach each state items) := by
  induction items generalizing state with
  | nil => exact keepsRest_of_plain trivial
  | cons item items ih => exact (keeps state item).bind fun next => ih next

theorem keepsRest_executeJob {request : BackfillRequest} :
    KeepsRest object (executeJob engine object request) := by
  have plain {β : Type} {body : Working β} := @keepsRest_of_plain _ β body object
  unfold executeJob
  split
  · exact plain trivial
  · split
    · exact plain trivial
    · refine (plain (plain_assign owns_job fun _ => BackfillJob.harmless_markRunning)).bind
        fun job => ?_
      split
      · refine (keepsRest_foldEach keepsRest_executeDate _ _).bind fun _ => plain ?_
        exact (plain_assign owns_job fun _ => BackfillJob.harmless_finalize).bind fun _ => trivial
      · exact plain trivial

theorem runReady_meets {polls : Nat} {request : BackfillRequest} (rests : stage.Rests) :
    Meets (checking (.job object))
    (fun _ _ => True) stage (runReady engine polls object request) := by
  have free {α β : Type} {body : Working α} {next : α → Working β} {stage : CheckStage}
      (plain : body.Uses (Plain (.job object))) (rests : stage.Rests)
      (rest : ∀ value last, last.Rests → Meets (checking (.job object))
        (fun _ _ => True) last (next value)) :
      Meets (checking (.job object)) (fun _ _ => True) stage (body.bind next) :=
    (plain_rests plain rests).bind rest fun _ _ _ => trivial
  have ends {α : Type} {body : Working α} {stage : CheckStage}
      (plain : body.Uses (Plain (.job object)))
      (rests : stage.Rests) : Meets (checking (.job object)) (fun _ _ => True) stage body :=
    (plain_rests plain rests).mono fun _ _ _ => trivial
  refine free (plain_assign owns_job BackfillJob.harmless_setRunning) rests fun _ stage rests => ?_
  refine free (plain_saveJob owns_job) rests fun _ stage rests => ?_
  refine (keepsRest_executeJob engine stage rests).resolve ?_
  rintro ((_ | ⟨message, reason⟩) | _) stage rests
  · refine ends
      ((plain_assign owns_job (BackfillJob.harmless_block (by rintro ⟨⟩) _)).bind fun _ => ?_) rests
    exact (plain_saveJob owns_job).bind fun _ => trivial
  · refine ends
      ((plain_assign owns_job fun _ => BackfillJob.harmless_noteError _).bind fun _ => ?_) rests
    exact plain_blockJob owns_job (by rintro ⟨⟩)
  · refine free (plain_assign owns_job fun _ => BackfillJob.harmless_same) rests
      fun job stage rests => ?_
    split
    · refine free (plain_assign owns_job BackfillJob.harmless_setPublished) rests
        fun _ stage rests => ?_
      refine free (plain_saveJob owns_job) rests fun _ stage rests => ?_
      exact verifyHeberAcknowledgements_meets engine rests
    · refine ends (plain_blockJob owns_job ?_) rests
      split <;> rintro ⟨⟩

theorem runJob_meets {polls : Nat} {request : BackfillRequest} (rests : stage.Rests) :
    Meets (checking (.job object))
    (fun _ _ => True) stage (runJob engine polls object request) := by
  obtain ⟨seen, rfl⟩ := rests
  refine ⟨trivial, ?_⟩
  rintro acquired _ ⟨rfl, -⟩
  refine (plain_rests (plain_settle acquired) ⟨seen, rfl⟩).bind (fun _ stage rests => ?_)
    fun _ _ _ => trivial
  refine Meets.ensuring (?_ : Meets _ (fun _ _ => True) _ _) fun _ _ _ =>
    ⟨trivial, fun _ _ _ => trivial⟩
  refine (plain_rests (plain_readReadiness owns_job) rests).bind ?_ fun _ _ _ => trivial
  rintro (_ | _ | _ | _) stage rests
  · trivial
  · exact (plain_rests (plain_blockJob owns_job (by rintro ⟨⟩)) rests).mono fun _ _ _ => trivial
  · exact (plain_rests (plain_blockJob owns_job (by rintro ⟨⟩)) rests).mono fun _ _ _ => trivial
  · exact runReady_meets engine rests

theorem jobTask_checks {polls : Nat} :
    Meets (checking (.job object)) (fun _ _ => True) .idle (jobTask engine polls object) := by
  refine ⟨⟨rfl, rfl⟩, ?_⟩
  rintro ⟨kind, job⟩ _ ⟨rfl, -⟩
  refine Meets.ensuring (?_ : Meets _ (fun _ _ => True) _ _) fun _ _ _ =>
    ⟨trivial, fun _ _ _ => trivial⟩
  cases kind with
  | run => exact runJob_meets engine ⟨false, rfl⟩
  | verify => exact verifyHeberAcknowledgements_meets engine ⟨false, rfl⟩

end Job

/-! ## The task of a chunk -/

section Chunk

variable {date position : Nat} {symbol id : String} {range : DateRange}

/-- The command leaves the task of a chunk its turn. -/
def Inside (task : EngineTask) (command : EngineCommand) : Prop :=
  CheckStage.promises task command .inside ∧
    ∀ reply, CheckStage.next .inside command reply = .inside

theorem inside_of_plain {command : EngineCommand} (plain : Plain task command) :
    Inside task command := by
  refine ⟨plain.promised, fun reply => ?_⟩
  cases command with
  | begin _ | spawn _ _ _ | gather _ | beginPass _ | readAck _ _ _ | enter _ _ _ | leave _ _ _ =>
      exact plain.elim
  | update _ _ | loadJobs | loadJob _ | write _ _ | acquireLock _ | releaseLock _ | runningJob _
  | adopt _ | startTask _ _ | cancelJob _ | endTask _ | acquireSlot _ _ | releaseSlot _ _
  | readReadiness | sleep | processing _ _ | acquireRate | fetch _ _ | publish _ _ _ | clock => rfl

omit [Manifests] in
theorem owns_chunk {other : Nat} : (EngineTask.chunk object date position).Owns other := by
  rintro _ ⟨⟩

/-- An assignment to the chunk. -/
theorem inside_assign {change : DateTime → BackfillJob → BackfillJob}
    (status : ∀ now job, (change now job).status = job.status) :
    (assign object change).Uses (Inside (.chunk object date position)) :=
  ⟨⟨⟨owns_chunk, .inr (.inl ⟨date, position, rfl, rfl, fun now job verified => by
    rwa [status] at verified⟩)⟩, fun _ => rfl⟩, fun _ => trivial⟩

theorem inside_saveJob {point : SavePoint} :
    (saveJob object point).Uses (Inside (.chunk object date position)) :=
  (plain_saveJob owns_chunk).mono fun _ => inside_of_plain

theorem inside_settle (outcome : Except Fault α) :
    (settle outcome).Uses (Inside (.chunk object date position)) :=
  (plain_settle outcome).mono fun _ => inside_of_plain

theorem inside_fetchAndPublish :
    (fetchAndPublish object symbol id range).Uses (Inside (.chunk object date position)) := by
  refine ⟨inside_of_plain trivial, fun acquired => (inside_settle acquired).bind fun _ => ?_⟩
  refine ⟨inside_of_plain trivial, fun fetched => (inside_settle fetched).bind fun evidence => ?_⟩
  refine Uses.bind (inside_assign fun _ _ => rfl) fun job => ?_
  split
  · trivial
  · refine Uses.bind (inside_assign fun _ _ => rfl) fun _ => inside_saveJob.bind fun _ => ?_
    refine Uses.bind (inside_assign fun _ _ => rfl) fun _ =>
      ⟨inside_of_plain trivial, fun published => ?_⟩
    refine (inside_settle published).bind fun published =>
      Uses.bind (inside_assign fun _ job => ?_) fun _ => inside_saveJob
    unfold BackfillJob.notePublished
    dsimp only
    split <;> rfl

theorem inside_processChunk :
    (processChunk object symbol id range).Uses (Inside (.chunk object date position)) := by
  refine ⟨inside_of_plain trivial, fun _ => ?_⟩
  refine Uses.bind
    ((plain_assign owns_chunk fun _ => BackfillJob.harmless_countAcknowledged _ _).mono
    fun _ => inside_of_plain) fun job => ?_
  split
  · trivial
  · split
    · trivial
    · refine inside_fetchAndPublish.catching ?_
      rintro (_ | ⟨message, reason⟩)
      · trivial
      · exact Uses.bind (inside_assign fun _ _ => rfl) fun _ => inside_saveJob

theorem chunkTask_checks :
    Meets (checking (.chunk object date position)) (fun _ _ => True) .idle
      (chunkTask object date position) := by
  refine Meets.resolve (?_ : Meets _ (fun _ last => last = .inside) _ _) fun outcome _ same =>
    ⟨⟨date, rfl, same⟩, fun _ _ _ => trivial⟩
  refine ⟨⟨rfl, rfl⟩, ?_⟩
  rintro entered _ ⟨rfl, -⟩
  refine Uses.meets_inv (?_ : Coroutine.Uses (Inside (.chunk object date position)) _) rfl
    fun command current inside same => ?_
  · refine (inside_settle entered).bind fun job => ?_
    split
    · split
      · trivial
      · split
        · exact inside_processChunk
        · trivial
    · trivial
  · subst same
    refine ⟨inside.1, ?_⟩
    rintro reply _ ⟨rfl, -⟩
    exact inside.2 reply

end Chunk

/-- Every task keeps the rules. -/
theorem tasks_check [Unicode] (engine : BackfillEngine) (calls : ClientCalls) (polls : Nat)
    (world : EngineWorld) (task : EngineTask) :
    Meets (checking task)
    (fun _ _ => True) .idle ((engineRun engine calls polls world).tasks task) := by
  have plain {body : Working Unit} {task : EngineTask} (uses : body.Uses (Plain task)) :
      Meets (checking task) (fun _ _ => True) .idle body :=
    (plain_still uses (by rintro ⟨_, ⟨⟩⟩) (by rintro _ ⟨_, ⟨⟩⟩)).mono fun _ _ _ =>
      trivial
  cases task with
  | start _ => exact plain (plain_start fun _ => by rintro _ ⟨⟩)
  | submit _ _ => exact plain (plain_submit fun _ => by rintro _ ⟨⟩)
  | cancel _ _ => exact plain (plain_cancel fun _ => by rintro _ ⟨⟩)
  | job object => exact jobTask_checks engine
  | chunk object date position => exact chunkTask_checks

end Tasks

end Backfill
end DataGateway
