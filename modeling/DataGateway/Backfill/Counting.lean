import DataGateway.Backfill.Ledger
import DataGateway.Backfill.Restart

/-!
# What the tasks count

A job that begins an attempt counts nothing, every task of a chunk counts its chunk at most once,
and nothing else counts.
-/

namespace DataGateway
namespace Backfill

open Coroutine Machine

/-! ## What the tasks do to the accounts -/

/-- How far a task of the engine has come. -/
inductive AccountStage
  | idle
  /-- It has made a job object. -/
  | made (object : Nat) (make : DateTime → BackfillJob)
  /-- It runs its job. -/
  | running
  /-- It has its turn among the chunks of a date. -/
  | entered (place : Option (String × String))
  /-- It processes a chunk. -/
  | counting (symbol chunkId : String)
  | counted

namespace AccountStage

def isCounted : AccountStage → Bool
  | .counted => true
  | _ => false

end AccountStage

section Tasks

variable [Manifests]

/-- A task that makes job objects. -/
def EngineTask.Client : EngineTask → Prop
  | .start _ | .submit _ _ => True
  | _ => False

/-- A job that is queued, or found unrecoverable, has not published anything. -/
def BackfillJob.Clean (job : BackfillJob) : Prop :=
  job.status = .queued ∨ job.status = .unrecoverable → job.NothingPublished

/-- A job as the engine makes it. -/
structure BackfillJob.Begins (job : BackfillJob) : Prop where
  balanced : job.Clean → job.accounts.Balanced
  uncounted : job.Clean → job.status = .queued → job.Uncounted

/-- The stage after a command. -/
def AccountStage.next (stage : AccountStage) : (command : EngineCommand) → command.Reply →
    AccountStage
  | .adopt make, object => .made object make
  | .begin _, (kind, _) => match kind with
      | .run => .running
      | .verify => .idle
  | .enter _ date position, reply => .entered (match reply with
      | .ok job => placeOf job.jobId job.request date position
      | .error _ => none)
  | .processing _ _, _ => match stage with
      | .entered (some (symbol, id)) => .counting symbol id
      | _ => stage
  | .update _ change, job => match stage with
      | .counting symbol _ =>
          if (change (utc 0) job).accounts.symbols.get? symbol = job.accounts.symbols.get?
            symbol then stage
          else .counted
      | _ => stage
  | _, _ => stage

/-- What a task promises of its commands. -/
def AccountStage.promises (task : EngineTask) : EngineCommand → AccountStage → Prop
  | .write _ payload, _ => payload.accounts.Balanced
  | .adopt make, _ => task.Client ∧ ∀ now, (make now).Begins
  | .update object change, stage => (∀ now, Neutral (change now)) ∨
      ∃ date position symbol id count, task = .chunk object date position ∧ stage = .counting symbol
        id ∧
        change = (fun _ => count) ∧
        ∀ job : BackfillJob, job.accounts.chunks.get? id = some 0 → Counts symbol id count job
  | .startTask object kind, stage => kind = .run →
      ∃ make, stage = .made object make ∧ ∀ now, (make now).status = .queued
  | .begin object, _ => task = .job object
  | .spawn object _ _, stage => task = .job object ∧ stage = .running
  | .enter object date position, stage => task = .chunk object date position ∧ stage = .idle
  | .processing object id, stage => ∃ date position symbol, task = .chunk object date position ∧
      stage = .entered (some (symbol, id))
  | _, _ => True

/-- What a task is promised of the replies. -/
def AccountStage.relies : (command : EngineCommand) → command.Reply → Prop
  | .loadJobs, .ok jobs => ∀ job ∈ jobs, job.accounts.Balanced
  | .loadJob _, .ok (some job) => job.accounts.Balanced
  | .update _ _, job => job.accounts.Balanced
  | .write .counted _, .error _ => False
  | _, _ => True

/-- The rules for the accounts. -/
def accounting (task : EngineTask) : Contract EngineCommand.Reply AccountStage :=
  .tracking AccountStage.next ⟨AccountStage.promises task, fun command _ reply =>
    AccountStage.relies command reply⟩

/-- The program keeps the rules, and its stage. -/
def Keeps {α : Type} (task : EngineTask) (stage : AccountStage) (body : Working α) : Prop :=
  Meets (accounting task) (fun _ last => last = stage) stage body

section Keeps

variable {α β : Type} {task : EngineTask} {stage : AccountStage}

theorem keeps_suspend {command : EngineCommand} {resume : command.Reply → Working α}
    (promised : AccountStage.promises task command stage)
    (still : ∀ reply, AccountStage.relies command reply → stage.next command reply = stage)
    (rest : ∀ reply, AccountStage.relies command reply → Keeps task stage (resume reply)) :
    Keeps task stage (.suspend command resume) := by
  refine ⟨promised, ?_⟩
  rintro reply _ ⟨rfl, relied⟩
  rw [still reply relied]
  exact rest reply relied

theorem Keeps.resolve {body : Working α} {next : Except Fault α → Working β}
    (first : Keeps task stage body)
    (rest : ∀ outcome, Keeps task stage (next outcome)) : Keeps task stage (body.resolve next) :=
  Meets.resolve first fun outcome _ same => same ▸ rest outcome

theorem Keeps.bind {body : Working α} {next : α → Working β} (first : Keeps task stage body)
    (rest : ∀ value, Keeps task stage (next value)) : Keeps task stage (body.bind next) :=
  first.resolve fun
    | .ok value => rest value
    | .error _ => rfl

theorem Keeps.exceptRaised {body : Working α} {handler : String → String → Working α}
    (first : Keeps task stage body) (rest : ∀ message reason, Keeps task stage
      (handler message reason)) :
    Keeps task stage (exceptRaised body handler) :=
  first.resolve fun
    | .ok _ => rfl
    | .error .cancelled => rfl
    | .error (.raised message reason) => rest message reason

theorem Keeps.ensuring {body : Working α} {cleanup : Working Unit} (first : Keeps task stage body)
    (rest : Keeps task stage cleanup) : Keeps task stage (body.ensuring cleanup) :=
  first.resolve fun _ => rest.bind fun _ => rfl

theorem keeps_foldEach {body : β → α → Working β} (each : ∀ state item, Keeps task stage
    (body state item))
    (state : β) (items : List α) : Keeps task stage (foldEach body state items) := by
  induction items generalizing state with
  | nil => rfl
  | cons item items ih => exact (each state item).bind fun next => ih next

theorem keeps_settle (outcome : Except Fault α) : Keeps task stage (settle outcome) := by
  cases outcome <;> exact rfl

/-! ## What leaves the accounts alone -/

theorem next_neutral {object : Nat} {change : DateTime → BackfillJob → BackfillJob}
    (neutral : ∀ now, Neutral (change now)) (job : BackfillJob) :
    stage.next (.update object change) job = stage := by
  cases stage with
  | counting symbol id => exact if_pos (by rw [neutral])
  | idle | made _ _ | running | entered _ | counted => rfl

/-- An assignment that counts nothing. -/
theorem keeps_update {object : Nat} {change : DateTime → BackfillJob → BackfillJob}
    {resume : BackfillJob → Working α} (neutral : ∀ now, Neutral (change now))
    (rest : ∀ job : BackfillJob, job.accounts.Balanced → Keeps task stage (resume job)) :
    Keeps task stage (.suspend (.update object change) resume) :=
  keeps_suspend (.inl neutral) (fun job _ => next_neutral neutral job) rest

theorem keeps_assign {object : Nat} {change : DateTime → BackfillJob → BackfillJob}
    (neutral : ∀ now, Neutral (change now)) : Keeps task stage (assign object change) :=
  keeps_update neutral fun _ _ => rfl

theorem keeps_saveJob {object : Nat} {point : SavePoint} : Keeps task stage
    (saveJob object point) :=
  keeps_update (fun _ => neutral_same) fun _ balanced =>
    keeps_suspend balanced (fun _ _ => rfl) fun reply _ => keeps_settle reply

theorem keeps_blockJob {object : Nat} {status : BackfillStatus} {reason : String} :
    Keeps task stage (blockJob object status reason) :=
  (keeps_assign fun _ => BackfillJob.neutral_block _ _).bind fun _ => keeps_saveJob

/-- A command that has nothing to do with the accounts. -/
theorem keeps_free {command : EngineCommand} {resume : command.Reply → Working α}
    (promised : AccountStage.promises task command stage) (still : ∀ reply, stage.next command
      reply = stage)
    (rest : ∀ reply, Keeps task stage (resume reply)) : Keeps task stage
      (.suspend command resume) :=
  keeps_suspend promised (fun reply _ => still reply) fun reply _ => rest reply

variable (engine : BackfillEngine)

theorem keeps_checkChunk {object : Nat} {jobId : String} (state : PassState)
    (item : String × ChunkResult) :
    Keeps task stage (checkChunk object jobId state item) := by
  refine Keeps.bind (Keeps.exceptRaised ?_ fun _ _ => rfl) fun found => ?_
  · refine Keeps.bind (keeps_free trivial (fun _ => rfl) fun _ => rfl) fun reply => ?_
    exact (keeps_settle reply).bind fun _ => rfl
  · refine (keeps_assign fun _ => BackfillJob.neutral_noteAck _ _).bind fun job => ?_
    split
    · exact rfl
    · split <;> exact rfl

theorem keeps_poll {object : Nat} {deadline : Int} {polls : Nat} {reason : String}
    {alerted : Bool} :
    Keeps task stage (poll engine object deadline polls reason alerted) := by
  induction polls generalizing reason alerted with
  | zero => rfl
  | succ polls ih =>
      have sleeps {reason : String} {alerted : Bool} : Keeps task stage
        (.suspend .sleep fun slept =>
          (settle slept).bind fun _ => poll engine object deadline polls reason alerted) :=
        keeps_free trivial (fun _ => rfl) fun slept => (keeps_settle slept).bind fun _ => ih
      refine keeps_free trivial (fun _ => rfl) fun job => ?_
      refine (keeps_foldEach keeps_checkChunk _ _).bind fun state => ?_
      split
      · exact (keeps_assign fun _ => BackfillJob.neutral_setVerified).bind fun _ => keeps_saveJob
      · refine keeps_free trivial (fun _ => rfl) fun now => ?_
        split
        · refine keeps_blockJob.bind fun _ => ?_
          split
          · rfl
          · exact sleeps
        · exact sleeps

theorem keeps_verifyHeberAcknowledgements {polls object : Nat} :
    Keeps task stage (verifyHeberAcknowledgements engine polls object) := by
  refine (keeps_assign fun _ => neutral_same).bind fun job => ?_
  split
  · exact keeps_free trivial (fun _ => rfl) fun now => keeps_poll engine
  · exact keeps_blockJob

/-! ## The task of a job -/

theorem keeps_executeDate {object : Nat} {request : BackfillRequest} (left : Bool)
    (date : Nat × DateRange) : Keeps (.job object) .running (executeDate object request left
      date) := by
  unfold executeDate
  split
  · rfl
  · refine (keeps_assign fun _ => neutral_same).bind fun job => ?_
    split
    · rfl
    · refine keeps_free ⟨rfl, rfl⟩ (fun _ => rfl) fun _ => ?_
      refine keeps_free trivial (fun _ => rfl) fun gathered => (keeps_settle gathered).bind fun
        results => ?_
      refine (keeps_assign fun _ => BackfillJob.neutral_noteResults _ _ _).bind fun _ => ?_
      exact keeps_free trivial (fun _ => rfl) fun slept => (keeps_settle slept).bind fun _ => rfl

theorem keeps_executeJob {object : Nat} {request : BackfillRequest} :
    Keeps (.job object) .running (executeJob engine object request) := by
  unfold executeJob
  split
  · rfl
  · split
    · rfl
    · refine (keeps_assign fun _ => BackfillJob.neutral_markRunning).bind fun job => ?_
      split
      · exact (keeps_foldEach keeps_executeDate _ _).bind fun _ =>
          (keeps_assign fun _ => BackfillJob.neutral_finalize).bind fun _ => rfl
      · rfl

theorem keeps_runReady {polls object : Nat} {request : BackfillRequest} :
    Keeps (.job object) .running (runReady engine polls object request) := by
  refine (keeps_assign fun _ => BackfillJob.neutral_setRunning).bind fun _ => keeps_saveJob.bind fun
    _ => ?_
  refine (keeps_executeJob engine).resolve fun outcome => ?_
  match outcome with
  | .error .cancelled =>
      exact (keeps_assign fun _ => BackfillJob.neutral_block _ _).bind fun _ => keeps_saveJob.bind
        fun _ => rfl
  | .error (.raised message _) =>
      exact (keeps_assign fun _ => BackfillJob.neutral_noteError).bind fun _ => keeps_blockJob
  | .ok () =>
      refine (keeps_assign fun _ => neutral_same).bind fun job => ?_
      split
      · exact (keeps_assign fun _ => BackfillJob.neutral_setPublished).bind fun _ =>
          keeps_saveJob.bind fun _ => keeps_verifyHeberAcknowledgements engine
      · exact keeps_blockJob

theorem keeps_runJob {polls object : Nat} {request : BackfillRequest} :
    Keeps (.job object) .running (runJob engine polls object request) := by
  refine keeps_free trivial (fun _ => rfl) fun acquired => (keeps_settle acquired).bind fun _ => ?_
  refine Keeps.ensuring (Keeps.bind ?_ fun readiness => ?_) (keeps_free trivial (fun _ => rfl) fun
    _ => rfl)
  · exact Keeps.exceptRaised
      (keeps_free trivial (fun _ => rfl) fun reply => (keeps_settle reply).bind fun _ => rfl)
      fun _ _ => keeps_blockJob.bind fun _ => rfl
  · match readiness with
    | none => exact rfl
    | some .missing | some (.failing _) => exact keeps_blockJob
    | some .ready => exact keeps_runReady engine

theorem jobTask_meets {polls object : Nat} :
    Meets (accounting (.job object)) (fun _ _ => True) .idle (jobTask engine polls object) := by
  refine ⟨rfl, ?_⟩
  rintro ⟨kind, job⟩ _ ⟨rfl, -⟩
  have ends {stage : AccountStage} {body : Working Unit} (kept : Keeps (.job object) stage body) :
      Meets (accounting (.job object)) (fun _ _ => True) stage
        (ensuring body (.suspend (.endTask object) fun _ => .finish (.ok ()))) := by
    have last : Keeps (.job object) stage (.suspend (.endTask object) fun _ => .finish (.ok ())) :=
      keeps_free trivial (fun _ => rfl) fun _ => rfl
    exact (kept.ensuring last).mono fun _ _ _ => trivial
  cases kind with
  | run => exact ends (keeps_runJob engine)
  | verify => exact ends (keeps_verifyHeberAcknowledgements engine)

/-! ## The task of a chunk -/

section Chunk

variable {object date position : Nat} {symbol id : String} {range : DateRange}

/-- A chunk that is saved after it was counted is saved. -/
theorem saveCounted_meets : Meets (accounting task) (fun outcome _ => ∀ fault, outcome ≠ .error
    fault) stage
    (saveJob object .counted) := by
  refine ⟨.inl fun _ => neutral_same, ?_⟩
  rintro payload _ ⟨rfl, balanced⟩
  refine ⟨balanced, ?_⟩
  rintro (fault | _) _ ⟨rfl, relied⟩
  · exact relied.elim
  · rintro _ ⟨⟩

/-- The chunk may be counted now. -/
theorem counts_promised {count : BackfillJob → BackfillJob}
    (counts : ∀ job : BackfillJob, job.accounts.chunks.get? id = some 0 → Counts symbol id count
      job) :
    AccountStage.promises (.chunk object date position) (.update object fun _ => count)
      (.counting symbol id) :=
  .inr ⟨date, position, symbol, id, count, rfl, rfl, rfl, counts⟩

/-- The body of `_process_chunk` raises before it has counted the chunk. -/
theorem fetchAndPublish_meets :
    Meets (accounting (.chunk object date position))
      (fun outcome last => ∀ fault, outcome = .error fault → last = .counting symbol id)
      (.counting symbol id) (fetchAndPublish object symbol id range) := by
  have before {α : Type} {body : Working α} {next : α → Working Unit}
      (kept : Keeps (.chunk object date position) (.counting symbol id) body)
      (rest : ∀ value, Meets (accounting (.chunk object date position))
        (fun outcome last => ∀ fault, outcome = .error fault → last = .counting symbol id)
        (.counting symbol id) (next value)) :
      Meets (accounting (.chunk object date position))
        (fun outcome last => ∀ fault, outcome = .error fault → last = .counting symbol id)
        (.counting symbol id) (body.bind next) :=
    Meets.bind kept (fun value _ same => same ▸ rest value) fun _ _ same _ _ => same
  refine ⟨trivial, ?_⟩
  rintro acquired _ ⟨rfl, -⟩
  refine before (keeps_settle acquired) fun _ => ⟨trivial, ?_⟩
  rintro fetched _ ⟨rfl, -⟩
  refine before (keeps_settle fetched) fun evidence => before (keeps_assign fun _ => neutral_same)
    fun job => ?_
  split
  · exact fun _ _ => rfl
  · refine before (keeps_assign fun _ => BackfillJob.neutral_noteValidated _) fun _ =>
      before keeps_saveJob fun _ => before (keeps_assign fun _ =>
        BackfillJob.neutral_notePublishing)
        fun _ => ⟨trivial, ?_⟩
    rintro published _ ⟨rfl, -⟩
    refine before (keeps_settle published) fun published => ⟨counts_promised fun job _ =>
      BackfillJob.counts_notePublished _ _ _, ?_⟩
    rintro job _ ⟨rfl, -⟩
    exact saveCounted_meets.mono fun outcome last saved fault failed => absurd failed (saved fault)

theorem processChunk_meets :
    Meets (accounting (.chunk object date position)) (fun _ _ => True)
      (.entered (some (symbol, id)))
      (processChunk object symbol id range) := by
  refine ⟨⟨date, position, symbol, rfl, rfl⟩, ?_⟩
  rintro _ _ ⟨rfl, -⟩
  refine ⟨counts_promised fun job _ => BackfillJob.counts_countAcknowledged, ?_⟩
  rintro job _ ⟨rfl, -⟩
  dsimp only [Coroutine.resolve]
  split
  · trivial
  next chunk found =>
      split
      · trivial
      next fetched =>
        have same : job.countAcknowledged symbol id = job := by
          rw [BackfillJob.countAcknowledged, found]
          exact if_neg fetched
        have still : (AccountStage.counting symbol id).next
            (.update object fun _ => BackfillJob.countAcknowledged symbol id) job = .counting symbol
              id :=
          if_pos (by dsimp only; rw [same])
        change Meets _ _ ((AccountStage.counting symbol id).next
          (.update object fun _ => BackfillJob.countAcknowledged symbol id) job) _
        rw [still]
        refine Meets.catching fetchAndPublish_meets (fun _ _ _ => trivial) fun fault last raised =>
          ?_
        obtain rfl := raised fault rfl
        cases fault with
        | cancelled => trivial
        | raised message reason =>
            refine ⟨counts_promised fun job held => BackfillJob.counts_noteFailed held _ _, ?_⟩
            rintro job _ ⟨rfl, -⟩
            exact keeps_saveJob.mono fun _ _ _ => trivial

theorem chunkTask_meets :
    Meets (accounting (.chunk object date position)) (fun _ _ => True) .idle
      (chunkTask object date position) := by
  refine Meets.resolve (?_ : Meets _ (fun _ _ => True) _ _) fun outcome stage _ =>
    ⟨trivial, fun _ _ _ => trivial⟩
  refine ⟨⟨rfl, rfl⟩, ?_⟩
  rintro (fault | job) _ ⟨rfl, -⟩
  · trivial
  · change Meets _ _ (AccountStage.entered (placeOf job.jobId job.request date position)) _
    dsimp only [settle, Coroutine.bind, Coroutine.resolve]
    split
    next symbol range named ranged =>
      rw [placeOf_eq_some.mpr ⟨range, named, ranged, rfl⟩]
      split
      · trivial
      · split
        · exact processChunk_meets
        · trivial
    · trivial

end Chunk

/-! ## Clients and the restart -/

/-- A job is made, and saved. -/
theorem adoptAndSave_meets {make : DateTime → BackfillJob} (client : task.Client)
    (begins : ∀ now, (make now).Begins) :
    Meets (accounting task) (fun outcome last => ∀ object, outcome = .ok object → last =
      .made object make)
      stage (adoptAndSave make) := by
  refine ⟨⟨client, begins⟩, ?_⟩
  rintro object _ ⟨rfl, -⟩
  refine Meets.bind keeps_saveJob ?_ (by rintro _ _ _ _ ⟨⟩)
  rintro _ _ rfl _ ⟨⟩
  rfl

/-- A job that does not begin an attempt counts what it counted. -/
theorem begins_of_same {job old : BackfillJob} (balanced : old.accounts.Balanced)
    (same : job.accounts = old.accounts) (status : job.status ≠ .queued) : job.Begins :=
  ⟨fun _ => by rw [same]; exact balanced, fun _ queued => absurd queued status⟩

theorem enqueue_meets {request : BackfillRequest} {capability : ReplayFeedCapability}
    {make : DateTime → BackfillJob} (client : task.Client) (blank : ∀ now, (make now).Blank request)
    (queued : ∀ now, (make now).status = .queued) :
    Meets (accounting task) (fun _ _ => True) stage (enqueue request capability make) := by
  have tables (now : DateTime) : (((make now).withSymbols request).withChunks request).status =
    .queued := by
    change ((make now).withSymbols request).status = .queued
    unfold BackfillJob.withSymbols
    split <;> exact queued now
  unfold enqueue
  split
  · trivial
  split
  · have begins (now : DateTime) : (((make now).withSymbols request).withChunks request).Begins :=
      ⟨fun clean => (BackfillJob.balanced_of_blank (blank now) (clean (.inl (tables now)))).1,
        fun clean _ => (BackfillJob.balanced_of_blank (blank now) (clean (.inl (tables now)))).2⟩
    refine (adoptAndSave_meets client begins).bind (fun object last made => ?_) fun _ _ _ => trivial
    obtain rfl := made object rfl
    exact ⟨fun _ => ⟨_, rfl, tables⟩, fun _ _ _ => trivial⟩
  · have begins (reason : String) (now : DateTime) :
        ((((make now).withSymbols request).withChunks request).block .unrecoverable reason
          now).Begins :=
      ⟨fun clean => (BackfillJob.balanced_of_blank (blank now) (clean (.inr rfl))).1,
        by rintro _ ⟨⟩⟩
    exact (adoptAndSave_meets client (begins _)).bind (fun _ _ _ => trivial) fun _ _ _ => trivial

theorem resubmit_meets {request : BackfillRequest} {capability : ReplayFeedCapability}
    {job : BackfillJob}
    (client : task.Client) (balanced : job.accounts.Balanced) (same : job.request = request) :
    Meets (accounting task) (fun _ _ => True) stage (resubmit request capability job) := by
  have saved {make : DateTime → BackfillJob} (kept : ∀ now, (make now).accounts = job.accounts)
      (status : ∀ now, (make now).status ≠ .queued) :
      Meets (accounting task) (fun _ _ => True) stage
        ((adoptAndSave make).bind fun _ => .finish (.ok ())) :=
    (adoptAndSave_meets client fun now => begins_of_same balanced (kept now) (status now)).bind
      (fun _ _ _ => trivial) fun _ _ _ => trivial
  unfold resubmit
  split
  · split
    next unrecoverable =>
      refine ⟨⟨client, fun _ => begins_of_same balanced rfl (by simp [unrecoverable])⟩, ?_⟩
      rintro object _ ⟨rfl, -⟩
      trivial
    · split
      · have begins : job.awaitAgain.Begins := begins_of_same balanced rfl (by rintro ⟨⟩)
        exact (adoptAndSave_meets client fun _ => begins).bind
          (fun object last made => ⟨by rintro ⟨⟩, fun _ _ _ => trivial⟩) fun _ _ _ => trivial
      · exact saved (fun _ => rfl) (by rintro _ ⟨⟩)
    · exact enqueue_meets client (fun _ => same ▸ BackfillJob.blank_reset balanced) fun _ => rfl
  · exact saved (fun _ => rfl) (by rintro _ ⟨⟩)

theorem submit_meets [Unicode] {request : BackfillRequest} (client : task.Client) :
    Meets (accounting task) (fun _ _ => True) stage (submit engine request) := by
  unfold submit
  split
  · trivial
  next request capability _ =>
    refine ⟨trivial, ?_⟩
    rintro acquired _ ⟨rfl, -⟩
    refine Meets.bind (keeps_settle acquired) ?_ fun _ _ _ => trivial
    rintro _ _ rfl
    refine Meets.ensuring ?_ fun outcome last (_ : True) => ⟨trivial, fun _ _ _ => trivial⟩
    refine ⟨trivial, ?_⟩
    rintro (_ | _) _ ⟨rfl, -⟩
    · refine ⟨trivial, ?_⟩
      rintro (fault | _ | job) _ ⟨rfl, relied⟩
      · trivial
      · exact enqueue_meets client (fun _ => BackfillJob.blank_fresh) fun _ => rfl
      · change Meets _ _ _ (if _ then _ else _)
        split
        · trivial
        next same => exact resubmit_meets client relied (not_not.mp (not_or.mp same).2)
    · trivial

theorem cancel_meets {jobId : String} : Keeps task stage (cancel jobId) := by
  refine keeps_free trivial (fun _ => rfl) fun found => ?_
  cases found with
  | none => rfl
  | some object => exact keeps_saveJob

theorem restoreJob_meets' {payload : BackfillJob} (client : task.Client)
    (balanced : payload.accounts.Balanced) :
    Meets (accounting task) (fun _ _ => True) stage (restoreJob payload) := by
  refine ⟨⟨client, fun now => begins_of_same balanced BackfillJob.accounts_restored
    atRest_restored.2.2⟩, ?_⟩
  rintro object _ ⟨rfl, -⟩
  have saved (stage : AccountStage) : Meets (accounting task) (fun _ _ => True) stage
      (if payload.restoreSaves then saveJob object .other else .finish (.ok ())) := by
    split
    · exact keeps_saveJob.mono fun _ _ _ => trivial
    · trivial
  refine (saved _).bind (fun _ last _ => ?_) fun _ _ _ => trivial
  · split
    · refine Meets.bind (keeps_assign fun _ => BackfillJob.neutral_resumed) ?_ fun _ _ _ => trivial
      rintro job _ rfl
      split
      · split
        · exact ⟨by rintro ⟨⟩, fun _ _ _ => trivial⟩
        · exact keeps_saveJob.mono fun _ _ _ => trivial
      · trivial
    · trivial

theorem start_meets' (client : task.Client) : Meets (accounting task) (fun _ _ => True) stage
    start := by
  refine ⟨trivial, ?_⟩
  rintro (fault | jobs) _ ⟨rfl, relied⟩
  · trivial
  · change Meets _ _ _ (forEach jobs restoreJob)
    have all : ∀ job ∈ jobs, job.accounts.Balanced := relied
    refine (Meets.foldEach (fun left _ _ => ∀ job ∈ left, job.accounts.Balanced) (fun _ _ => True)
      all
      ?_).mono fun _ _ _ => trivial
    intro job left _ last balanced
    refine (restoreJob_meets' client (balanced job List.mem_cons_self)).mono ?_
    rintro (_ | _) _ -
    · trivial
    · exact fun other mem => balanced other (List.mem_cons_of_mem _ mem)

end Keeps

end Tasks

end Backfill
end DataGateway
