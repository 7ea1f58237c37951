import DataGateway.Backfill.Checking

/-!
# Verified jobs

In every run a job becomes verified on evidence only: its manifest is the one of its request,
its chunks were published in full, and every chunk has an acknowledgement that was read in the
pass and attests it.
-/

namespace DataGateway
namespace Backfill

open Coroutine Machine

section Runs

variable [Manifests] {engine : BackfillEngine} {world after : EngineWorld}
variable {stages stages' : EngineTask → CheckStage} {task : EngineTask} {object : Nat}
variable {held : JobObject}

/-! ## The invariant -/

omit [Manifests] in
theorem unready_idle : ¬CheckStage.idle.Ready := by
  rintro (⟨⟨⟩⟩ | ⟨_, _, ⟨⟩⟩)

omit [Manifests] in
theorem unready_rest : ¬(CheckStage.rest false).Ready := by
  rintro (⟨⟨⟩⟩ | ⟨_, _, ⟨⟩⟩)

omit [Manifests] in
theorem unready_spawned : ¬CheckStage.spawned.Ready := by
  rintro (⟨⟨⟩⟩ | ⟨_, _, ⟨⟩⟩)

/-- What holds of a job object. -/
structure ObjectChecked (stages : EngineTask → CheckStage) (object : Nat) (held : JobObject) :
    Prop where
  rests : stages (.job object) ≠ .spawned → held.open_ = []
  inside : ∀ date position, stages (.chunk object date position) = .inside →
    held.date = date ∧ position ∈ held.open_
  unverified : stages (.job object) ≠ .certified → held.job.status ≠ .verified
  sound : (stages (.job object)).Ready → held.job.sound = true
  passes : ∀ job read, stages (.job object) = .pass job read →
    SameEvidence job held.job ∧ held.pass = read
  earned : stages (.job object) = .certified → held.job.sound = true ∧ held.job.Covered held.pass

/-- What holds of the world and of the stages of the tasks. -/
structure EngineChecked (world : EngineWorld) (stages : EngineTask → CheckStage) : Prop where
  objects : ∀ object held, world.objects[object]? = some held → ObjectChecked stages object held
  fresh : ∀ object, world.objects.length ≤ object → stages (.job object) = .idle ∧
    ∀ date position, stages (.chunk object date position) ≠ .inside

namespace ObjectChecked

/-- Nothing was seen of the job yet. -/
theorem of_unready (unready : ¬(stages (.job object)).Ready)
    (uncertified : stages (.job object) ≠ .certified) (unverified : held.job.status ≠ .verified)
    (rests : stages (.job object) ≠ .spawned → held.open_ = [])
    (inside : ∀ date position, stages (.chunk object date position) = .inside →
      held.date = date ∧ position ∈ held.open_) : ObjectChecked stages object held where
  rests := rests
  inside := inside
  unverified _ := unverified
  sound ready := absurd ready unready
  passes job read stage := absurd (.inr ⟨job, read, stage⟩) unready
  earned certified := absurd certified uncertified

/-- The task of the job has its stage, and no task of a chunk has got a turn. -/
theorem congr (kept : ObjectChecked stages object held)
    (job : stages' (.job object) = stages (.job object))
    (chunks : ∀ date position, stages' (.chunk object date position) = .inside →
      stages (.chunk object date position) = .inside) : ObjectChecked stages' object held where
  rests := job ▸ kept.rests
  inside date position inside := kept.inside date position (chunks date position inside)
  unverified := job ▸ kept.unverified
  sound := job ▸ kept.sound
  passes := job ▸ kept.passes
  earned := job ▸ kept.earned

/-- An assignment that leaves the evidence as it is. -/
theorem touched {held' : JobObject} {change : BackfillJob → BackfillJob}
    (kept : ObjectChecked stages object held) (harmless : Harmless change)
    (job : held'.job = change held.job) (open_ : held'.open_ = held.open_)
    (date : held'.date = held.date) (pass : held'.pass = held.pass) :
    ObjectChecked stages object held' where
  rests works := open_.trans (kept.rests works)
  inside date' position inside := by
    rw [date, open_]
    exact kept.inside date' position inside
  unverified uncertified := by
    rw [job]
    exact fun verified => kept.unverified uncertified (harmless.status held.job verified)
  sound ready := by
    rw [job]
    exact harmless.sound (kept.sound ready)
  passes seen read stage := by
    obtain ⟨same, here⟩ := kept.passes seen read stage
    rw [job, pass]
    exact ⟨same.trans (harmless.same held.job), here⟩
  earned stage := by
    obtain ⟨sound, covered⟩ := kept.earned stage
    rw [job, pass]
    exact ⟨harmless.sound sound, (harmless.same held.job).covered covered⟩

/-- A command that leaves the stage of its task alone. -/
theorem unmoved {stage : CheckStage} (kept : ObjectChecked stages object held)
    (same : stage = stages task) :
    ObjectChecked (Function.update stages task stage) object held := by
  rwa [same, Function.update_eq_self]

/-- A task of a chunk has its turn while the tasks of a date are under way. -/
theorem spawned {date position : Nat} (kept : ObjectChecked stages object held)
    (inside : stages (.chunk object date position) = .inside) :
    stages (.job object) = .spawned := by
  by_contra works
  have mem := (kept.inside date position inside).2
  rw [kept.rests works] at mem
  cases mem

end ObjectChecked

namespace EngineChecked

/-- The objects are as they were. -/
theorem still (kept : EngineChecked world stages) (objects : after.objects = world.objects) :
    EngineChecked after stages :=
  ⟨objects ▸ kept.objects, objects ▸ kept.fresh⟩

/-- One object is changed in nothing that a verification goes by. -/
theorem touched {by_ : JobObject → JobObject} (kept : EngineChecked world stages)
    (objects : after.objects = world.objects.modify object by_)
    (each : ∀ held, ObjectChecked stages object held → ObjectChecked stages object (by_ held)) :
    EngineChecked after stages := by
  refine ⟨fun other held found => ?_, fun other beyond => ?_⟩
  · rw [objects, List.getElem?_modify] at found
    obtain ⟨old, here, rfl⟩ := Option.map_eq_some_iff.mp found
    have holds := kept.objects other old here
    split
    next same =>
      subst same
      exact each old holds
    · exact holds
  · rw [objects, List.length_modify] at beyond
    exact kept.fresh other beyond

/-- One object is changed, and a task of it moves on. -/
theorem moved {stage : CheckStage} {by_ : JobObject → JobObject} (kept : EngineChecked world stages)
    (inside : object < world.objects.length)
    (objects : after.objects = world.objects.modify object by_) (owns : task.Owns object)
    (enters : stage = .inside → stages task = .inside ∨
      ∃ date position, task = .chunk object date position)
    (each : ∀ held, world.objects[object]? = some held → ObjectChecked stages object held →
      ObjectChecked (Function.update stages task stage) object (by_ held)) :
    EngineChecked after (Function.update stages task stage) := by
  have job {other : Nat} (apart : object ≠ other) :
      Function.update stages task stage (.job other) = stages (.job other) :=
    Function.update_of_ne (by rintro rfl; exact apart (owns other rfl)) _ _
  have chunk {other date position : Nat} (apart : object ≠ other)
      (turn : Function.update stages task stage (.chunk other date position) = .inside) :
      stages (.chunk other date position) = .inside := by
    rw [Function.update_apply] at turn
    split at turn
    next here =>
      subst here
      rcases enters turn with same | ⟨_, _, same⟩
      · exact same
      · cases same
        exact absurd rfl apart
    · exact turn
  refine ⟨fun other held found => ?_, fun other beyond => ?_⟩
  · rw [objects, List.getElem?_modify] at found
    obtain ⟨old, here, rfl⟩ := Option.map_eq_some_iff.mp found
    have holds := kept.objects other old here
    split
    next same =>
      subst same
      exact each old here holds
    next apart => exact holds.congr (job apart) fun _ _ => chunk apart
  · rw [objects, List.length_modify] at beyond
    have apart : object ≠ other := by omega
    obtain ⟨idle, outside⟩ := kept.fresh other beyond
    exact ⟨(job apart).trans idle, fun date position turn =>
      outside date position (chunk apart turn)⟩

/-- A command that leaves the stage of its task alone. -/
theorem unmoved {stage : CheckStage} (kept : EngineChecked after stages)
    (same : stage = stages task) :
    EngineChecked after (Function.update stages task stage) := by
  rwa [same, Function.update_eq_self]

/-- A task that has begun is one of an object that is there. -/
theorem begun (kept : EngineChecked world stages) (works : stages (.job object) ≠ .idle) :
    object < world.objects.length := by
  by_contra outside
  exact works (kept.fresh object (Nat.not_lt.mp outside)).1

theorem begun_chunk {date position : Nat} (kept : EngineChecked world stages)
    (inside : stages (.chunk object date position) = .inside) : object < world.objects.length := by
  by_contra outside
  exact (kept.fresh object (Nat.not_lt.mp outside)).2 date position inside

end EngineChecked

/-! ## Assignments -/

omit [Manifests] in
theorem update_chunk (stages : EngineTask → CheckStage) (stage : CheckStage)
    (object other date position : Nat) :
    Function.update stages (.job object) stage (.chunk other date position) =
      stages (.chunk other date position) :=
  Function.update_of_ne (by rintro ⟨⟩) _ _

/-- Where an assignment leaves a task its turn, it had it. -/
theorem inside_of_update {change : DateTime → BackfillJob → BackfillJob} {stage : CheckStage}
    {job : BackfillJob} (inside : stage.next (.update object change) job = .inside) :
    stage = .inside := by
  cases stage with
  | pass seen read =>
      change (if (change (utc 0) job).status = .verified then CheckStage.certified
          else .pass seen read) = _
        at inside
      split at inside <;> cases inside
  | inside => rfl
  | idle | rest _ | spawned | certified | left => cases inside

namespace ObjectChecked

variable {change : DateTime → BackfillJob → BackfillJob} {now : DateTime}

/-- The job's own task assigns. -/
theorem assigned (kept : ObjectChecked stages object held)
    (harmless : ∀ now, Harmless (change now)) :
    ObjectChecked (Function.update stages (.job object)
        ((stages (.job object)).next (.update object change) held.job)) object
      { held with job := change now held.job } := by
  have touched : ObjectChecked stages object { held with job := change now held.job } :=
    kept.touched (harmless now) rfl rfl rfl rfl
  cases stage : stages (.job object) with
  | rest sound =>
      have works : stages (.job object) ≠ .spawned := by
        rw [stage]
        rintro ⟨⟩
      have uncertified : stages (.job object) ≠ .certified := by
        rw [stage]
        rintro ⟨⟩
      refine ⟨fun _ => touched.rests works, fun date position turn => ?_,
        fun _ => touched.unverified uncertified, fun ready => ?_, fun job read passes => ?_,
        fun certified => ?_⟩
      · rw [update_chunk] at turn
        exact touched.inside date position turn
      · rw [Function.update_self] at ready
        rcases ready with rest | ⟨_, _, ⟨⟩⟩
        refine (harmless now).sound ?_
        rcases Bool.or_eq_true_iff.mp (CheckStage.rest.inj rest) with seen | sound
        · exact kept.sound (.inl (stage.trans (congrArg CheckStage.rest seen)))
        · exact sound
      · rw [Function.update_self] at passes
        cases passes
      · rw [Function.update_self] at certified
        cases certified
  | pass seen read =>
      have unverified : held.job.status ≠ .verified := kept.unverified (by rw [stage]; rintro ⟨⟩)
      have still : (CheckStage.pass seen read).next (.update object change) held.job =
          .pass seen read :=
        if_neg fun verified => unverified ((harmless (utc 0)).status held.job verified)
      exact touched.unmoved (still.trans stage.symm)
  | idle | spawned | certified | inside | left => exact touched.unmoved stage.symm

/-- A task of a chunk assigns. -/
theorem chunked {date position : Nat} (kept : ObjectChecked stages object held)
    (inside : stages (.chunk object date position) = .inside) (keeps : KeepsStatus change) :
    ObjectChecked stages object { held with job := change now held.job } := by
  have spawned := kept.spawned inside
  have uncertified : stages (.job object) ≠ .certified := by
    rw [spawned]
    rintro ⟨⟩
  refine of_unready ?_ uncertified (fun verified => ?_) kept.rests kept.inside
  · rw [spawned]
    exact unready_spawned
  · exact kept.unverified uncertified (keeps now held.job verified)

/-- The job is verified. -/
theorem certified (kept : ObjectChecked stages object held) {seen : BackfillJob}
    {read : List (String × Option HeberChunkAcknowledgement)}
    (stage : stages (.job object) = .pass seen read) (covered : seen.Covered read) :
    ObjectChecked (Function.update stages (.job object) .certified) object
      { held with job := held.job.setVerified now } := by
  have rests : held.open_ = [] := kept.rests (by rw [stage]; rintro ⟨⟩)
  refine ⟨fun _ => rests, fun date position turn => ?_, fun uncertified => ?_, fun ready => ?_,
    fun job read passes => ?_, fun _ => ?_⟩
  · rw [update_chunk] at turn
    exact kept.inside date position turn
  · exact absurd (Function.update_self ..) uncertified
  · rw [Function.update_self] at ready
    rcases ready with ⟨⟨⟩⟩ | ⟨_, _, ⟨⟩⟩
  · rw [Function.update_self] at passes
    cases passes
  · obtain ⟨same, here⟩ := kept.passes seen read stage
    have verified : SameEvidence held.job (held.job.setVerified now) := ⟨rfl, rfl, rfl, rfl⟩
    rw [here]
    exact ⟨kept.sound (.inr ⟨seen, read, stage⟩), (same.trans verified).covered covered⟩

end ObjectChecked

namespace EngineChecked

/-- An assignment keeps the rules. -/
theorem update {change : DateTime → BackfillJob → BackfillJob} (kept : EngineChecked world stages)
    (promised : CheckStage.promises task (.update object change) (stages task))
    (found : world.objects[object]? = some held) :
    CheckStage.relies task (.update object change) (stages task) held.job ∧
      EngineChecked (world.change object fun object =>
          { object with job := change (utc world.now) object.job })
        (Function.update stages task ((stages task).next (.update object change) held.job)) := by
  have holds := kept.objects object held found
  have inside := (List.getElem?_eq_some_iff.mp found).1
  have only {other : JobObject} (here : world.objects[object]? = some other) : other = held :=
    Option.some.inj (here.symm.trans found)
  refine ⟨fun seen own passes => ?_, ?_⟩
  · subst own
    obtain ⟨read, stage⟩ := passes
    exact ⟨(holds.passes seen read stage).1, holds.unverified (by rw [stage]; rintro ⟨⟩)⟩
  obtain ⟨owns, harmless | ⟨date, position, rfl, turn, keeps⟩ |
      ⟨job, read, rfl, stage, rfl, covered⟩⟩ :=
    promised
  · refine kept.moved inside rfl owns (fun turn => .inl (inside_of_update turn))
      fun other here _ => ?_
    obtain rfl := only here
    by_cases own : task = .job object
    · subst own
      exact holds.assigned harmless
    · have touched :
          ObjectChecked stages object { other with job := change (utc world.now) other.job } :=
        holds.touched (harmless (utc world.now)) rfl rfl rfl rfl
      refine touched.congr ?_ fun date position turn => ?_
      · exact Function.update_of_ne (Ne.symm own) _ _
      · rw [Function.update_apply] at turn
        split at turn
        next same => exact same ▸ inside_of_update turn
        · exact turn
  · have still : CheckStage.next (stages (.chunk object date position)) (.update object change)
        held.job = stages (.chunk object date position) := by
      rw [turn]
      rfl
    refine kept.moved inside rfl owns (fun turned => .inl (inside_of_update turned))
      fun other here _ => ?_
    obtain rfl := only here
    exact (holds.chunked turn keeps).unmoved still
  · rw [stage]
    refine kept.moved inside rfl owns (by rintro ⟨⟩) fun other here _ => ?_
    obtain rfl := only here
    exact holds.certified stage covered

end EngineChecked

/-! ## Stages -/

namespace ObjectChecked

/-- A stage of the job's task at which no task of a chunk is under way and nothing was seen. -/
theorem rested {held' : JobObject} (kept : ObjectChecked stages object held)
    (job : held'.job = held.job)
    (open_ : held'.open_ = []) (uncertified : stages (.job object) ≠ .certified)
    (outside : ∀ date position, stages (.chunk object date position) ≠ .inside) :
    ObjectChecked (Function.update stages (.job object) (.rest false)) object held' := by
  have stage : Function.update stages (.job object) (.rest false) (.job object) = .rest false :=
    Function.update_self ..
  refine of_unready ?_ (by rw [stage]; rintro ⟨⟩) ?_ (fun _ => open_) fun date position turn => ?_
  · rw [stage]
    exact unready_rest
  · rw [job]
    exact kept.unverified uncertified
  · rw [update_chunk] at turn
    exact absurd turn (outside date position)

/-- While no task of a chunk is under way, none has a turn. -/
theorem outside (kept : ObjectChecked stages object held) (open_ : held.open_ = [])
    (date position : Nat) : stages (.chunk object date position) ≠ .inside := by
  intro turn
  have mem := (kept.inside date position turn).2
  rw [open_] at mem
  cases mem

/-- The tasks of a date are under way. -/
theorem spawns {held' : JobObject} (kept : ObjectChecked stages object held)
    (rests : (stages (.job object)).Rests) (job : held'.job = held.job) :
    ObjectChecked (Function.update stages (.job object) .spawned) object held' := by
  obtain ⟨sound, rest⟩ := rests
  have open_ : held.open_ = [] := kept.rests (by rw [rest]; rintro ⟨⟩)
  have stage : Function.update stages (.job object) .spawned (.job object) = .spawned :=
    Function.update_self ..
  refine of_unready ?_ (by rw [stage]; rintro ⟨⟩) ?_ (absurd stage) fun date position turn => ?_
  · rw [stage]
    exact unready_spawned
  · rw [job]
    exact kept.unverified (by rw [rest]; rintro ⟨⟩)
  · rw [update_chunk] at turn
    exact absurd turn (kept.outside open_ date position)

/-- A task of a chunk gets or leaves its turn. -/
theorem turns {held' : JobObject} {date position : Nat} {stage : CheckStage}
    (kept : ObjectChecked stages object held) (job : held'.job = held.job)
    (pass : held'.pass = held.pass) (open_ : held.open_ = [] → held'.open_ = [])
    (inside : ∀ date' position',
      Function.update stages (.chunk object date position) stage (.chunk object date' position') =
        .inside → held'.date = date' ∧ position' ∈ held'.open_) :
    ObjectChecked (Function.update stages (.chunk object date position) stage) object held' := by
  have still : Function.update stages (.chunk object date position) stage (.job object) =
      stages (.job object) := Function.update_of_ne (by rintro ⟨⟩) _ _
  refine ⟨fun works => open_ (kept.rests (still ▸ works)), inside, fun uncertified => ?_,
    fun ready => ?_, fun seen read passes => ?_, fun certified => ?_⟩
  · rw [job]
    exact kept.unverified (still ▸ uncertified)
  · rw [job]
    exact kept.sound (still ▸ ready)
  · rw [job, pass]
    exact kept.passes seen read (still ▸ passes)
  · rw [job, pass]
    exact kept.earned (still ▸ certified)

/-- A pass over the job's chunks, with what was read so far. -/
theorem passing {held' : JobObject} {seen : BackfillJob}
    {read : List (String × Option HeberChunkAcknowledgement)}
    (kept : ObjectChecked stages object held)
    (ready : (stages (.job object)).Ready) (job : held'.job = held.job)
    (open_ : held'.open_ = held.open_) (same : SameEvidence seen held.job)
    (pass : held'.pass = read) :
    ObjectChecked (Function.update stages (.job object) (.pass seen read)) object held' := by
  have rests : held.open_ = [] := kept.rests fun spawned => unready_spawned (spawned ▸ ready)
  have unverified : held.job.status ≠ .verified := kept.unverified fun certified => by
    rw [certified] at ready
    rcases ready with ⟨⟨⟩⟩ | ⟨_, _, ⟨⟩⟩
  refine ⟨fun _ => open_.trans rests, fun date position turn => ?_, fun _ => ?_, fun _ => ?_,
    fun seen' read' passes => ?_, fun certified => ?_⟩
  · rw [update_chunk] at turn
    exact absurd turn (kept.outside rests date position)
  · rwa [job]
  · rw [job]
    exact kept.sound ready
  · rw [Function.update_self] at passes
    cases passes
    rw [job]
    exact ⟨same, pass⟩
  · rw [Function.update_self] at certified
    cases certified

end ObjectChecked

namespace EngineChecked

/-- A new object, whose job is not verified. -/
theorem adopted {job : BackfillJob} {epoch : Nat} (kept : EngineChecked world stages)
    (unverified : job.status ≠ .verified)
    (objects : after.objects = world.objects ++ [.new job epoch]) :
    EngineChecked after stages := by
  obtain ⟨idle, outside⟩ := kept.fresh world.objects.length (Nat.le_refl _)
  refine ⟨fun other held found => ?_, fun other beyond => ?_⟩
  · rw [objects, List.getElem?_append] at found
    split at found
    · exact kept.objects other held found
    next after =>
      obtain ⟨last, rfl⟩ := List.getElem?_eq_some_iff.mp found
      obtain rfl : other = world.objects.length := by
        rw [List.length_singleton] at last
        omega
      simp only [Nat.sub_self, List.getElem_cons_zero]
      refine .of_unready ?_ (by rw [idle]; rintro ⟨⟩) unverified (fun _ => rfl)
        fun date position turn => absurd turn (outside date position)
      rw [idle]
      exact unready_idle
  · rw [objects, List.length_append, List.length_singleton] at beyond
    exact kept.fresh other (by omega)

/-- The task of a job begins. -/
theorem begin_ {reply : TaskKind × BackfillJob} (kept : EngineChecked world stages)
    (promised : CheckStage.promises task (.begin object) (stages task))
    (found : world.objects[object]? = some held) :
    EngineChecked world
      (Function.update stages task ((stages task).next (.begin object) reply)) := by
  obtain ⟨rfl, idle⟩ := promised
  refine kept.moved (List.getElem?_eq_some_iff.mp found).1 (List.modify_id object _).symm owns_job
    (by rintro ⟨⟩) fun other here holds => ?_
  have open_ : other.open_ = [] := holds.rests (by rw [idle]; rintro ⟨⟩)
  exact holds.rested rfl open_ (by rw [idle]; rintro ⟨⟩) (holds.outside open_)

/-- The tasks of a date are under way. -/
theorem spawn {date count : Nat} (kept : EngineChecked world stages)
    (promised : CheckStage.promises task (.spawn object date count) (stages task)) :
    EngineChecked (world.change object fun object =>
        { object with date := date, open_ := List.range count, inside := [], results := [] })
      (Function.update stages task ((stages task).next (.spawn object date count) ())) := by
  obtain ⟨rfl, rests⟩ := promised
  have inside : object < world.objects.length := kept.begun (by
    obtain ⟨_, stage⟩ := rests
    rw [stage]
    rintro ⟨⟩)
  exact kept.moved inside rfl owns_job (by rintro ⟨⟩) fun _ _ holds => holds.spawns rests rfl

/-- The tasks of a date have ended. -/
theorem gather {reply : Except Fault (List (Nat × String))} (kept : EngineChecked world stages)
    (promised : CheckStage.promises task (.gather object) (stages task))
    (found : world.objects[object]? = some held) (open_ : held.open_ = []) :
    EngineChecked world
      (Function.update stages task ((stages task).next (.gather object) reply)) := by
  obtain ⟨rfl, spawned⟩ := promised
  refine kept.moved (List.getElem?_eq_some_iff.mp found).1 (List.modify_id object _).symm owns_job
    (by rintro ⟨⟩) fun other here holds => ?_
  obtain rfl := Option.some.inj (here.symm.trans found)
  exact holds.rested rfl open_ (by rw [spawned]; rintro ⟨⟩) (holds.outside open_)

/-- A task of a chunk gets its turn. -/
theorem enter {date position : Nat} {reply : Except Fault BackfillJob} {by_ : JobObject → JobObject}
    (kept : EngineChecked world stages)
    (promised : CheckStage.promises task (.enter object date position) (stages task))
    (found : world.objects[object]? = some held) (dated : held.date = date)
    (spawned : position ∈ held.open_) (objects : after.objects = world.objects.modify object by_)
    (same : ∀ held, (by_ held).job = held.job ∧ (by_ held).pass = held.pass ∧
      (by_ held).open_ = held.open_ ∧ (by_ held).date = held.date) :
    EngineChecked after
      (Function.update stages task ((stages task).next (.enter object date position) reply)) := by
  obtain ⟨rfl, -⟩ := promised
  refine kept.moved (List.getElem?_eq_some_iff.mp found).1 objects owns_chunk
    (fun _ => .inr ⟨date, position, rfl⟩) fun other here holds => ?_
  obtain rfl := Option.some.inj (here.symm.trans found)
  obtain ⟨job, pass, open_, date_⟩ := same other
  refine holds.turns job pass open_.trans fun date' position' turn => ?_
  rw [date_, open_]
  by_cases here : EngineTask.chunk object date' position' = .chunk object date position
  · cases here
    exact ⟨dated, spawned⟩
  · rw [Function.update_of_ne here] at turn
    exact holds.inside date' position' turn

/-- A task of a chunk leaves its turn. -/
theorem leave {position : Nat} {error : Option String} (kept : EngineChecked world stages)
    (promised : CheckStage.promises task (.leave object position error) (stages task)) :
    EngineChecked (world.change object fun object => { object with
        open_ := object.open_.erase position
        inside := object.inside.erase position
        results := object.results ++ (error.map fun message => (position, message)).toList })
      (Function.update stages task ((stages task).next (.leave object position error) ())) := by
  obtain ⟨date, rfl, left⟩ := promised
  refine kept.moved (kept.begun_chunk left) rfl owns_chunk (by rintro ⟨⟩) fun other _ holds => ?_
  refine holds.turns rfl rfl (fun none => by rw [none]; rfl) fun date' position' turn => ?_
  rw [Function.update_apply] at turn
  split at turn
  · cases turn
  next apart =>
    obtain ⟨dated, spawned⟩ := holds.inside date' position' turn
    have others : position' ≠ position := by
      rintro rfl
      exact apart (by rw [← dated, (holds.inside date position' left).1])
    exact ⟨dated, (List.mem_erase_of_ne others).mpr spawned⟩

/-- A pass begins. -/
theorem beginPass (kept : EngineChecked world stages)
    (promised : CheckStage.promises task (.beginPass object) (stages task))
    (found : world.objects[object]? = some held) :
    CheckStage.relies task (.beginPass object) (stages task) held.job ∧
      EngineChecked (world.change object fun object => { object with pass := [] })
        (Function.update stages task ((stages task).next (.beginPass object) held.job)) := by
  obtain ⟨rfl, ready⟩ := promised
  refine ⟨(kept.objects object held found).sound ready, ?_⟩
  refine kept.moved (List.getElem?_eq_some_iff.mp found).1 rfl owns_job (by rintro ⟨⟩)
    fun other here holds => ?_
  obtain rfl := Option.some.inj (here.symm.trans found)
  exact holds.passing ready rfl rfl (.refl _) rfl

/-- An acknowledgement is read. -/
theorem readAck {jobId chunkId : String} (kept : EngineChecked world stages)
    (promised : CheckStage.promises task (.readAck object jobId chunkId) (stages task)) :
    EngineChecked (world.change object fun object =>
        { object with pass := (chunkId, world.acks jobId chunkId) :: object.pass })
      (Function.update stages task ((stages task).next (.readAck object jobId chunkId)
        (.ok (world.acks jobId chunkId)))) := by
  obtain ⟨rfl, seen, read, stage⟩ := promised
  rw [stage]
  refine kept.moved (kept.begun (by rw [stage]; rintro ⟨⟩)) rfl owns_job (by rintro ⟨⟩)
    fun other _ holds => ?_
  obtain ⟨same, here⟩ := holds.passes seen read stage
  exact holds.passing (.inr ⟨seen, read, stage⟩) rfl rfl same (congrArg _ here)

/-- Every command of a task keeps the rules. -/
theorem perform {command : EngineCommand} {outcome : command.Outcome} {reply : command.Reply}
    (kept : EngineChecked world stages) (promised : CheckStage.promises task command (stages task))
    (performed : world.performAlive engine command outcome = some (reply, after)) :
    CheckStage.relies task command (stages task) reply ∧
      EngineChecked after (Function.update stages task ((stages task).next command reply)) := by
  have same {held held' : JobObject} {object : Nat} (holds : ObjectChecked stages object held)
      (job : held'.job = held.job) (open_ : held'.open_ = held.open_)
      (date : held'.date = held.date)
      (pass : held'.pass = held.pass) : ObjectChecked stages object held' :=
    holds.touched BackfillJob.harmless_same job open_ date pass
  cases command with
  | adopt make =>
      cases performed
      exact ⟨trivial, unmoved (kept.adopted (promised _) rfl) rfl⟩
  | update object change =>
      obtain ⟨held, found, same⟩ := Option.map_eq_some_iff.mp performed
      cases same
      exact kept.update promised found
  | begin object =>
      simp only [EngineWorld.performAlive] at performed
      split at performed
      · cases performed
      next held found =>
        obtain ⟨kind, -, same⟩ := Option.map_eq_some_iff.mp performed
        cases same
        exact ⟨trivial, kept.begin_ promised found⟩
  | spawn object date count =>
      cases performed
      exact ⟨trivial, kept.spawn promised⟩
  | gather object =>
      simp only [EngineWorld.performAlive] at performed
      split at performed
      · cases performed
      next held found =>
        obtain ⟨open_, same⟩ := Option.ite_none_right_eq_some.mp performed
        cases outcome <;> cases same <;> exact ⟨trivial, kept.gather promised found open_⟩
  | enter object date position =>
      cases outcome with
      | none =>
          simp only [EngineWorld.performAlive] at performed
          split at performed
          · cases performed
          next held found =>
            obtain ⟨⟨dated, spawned, -⟩, same⟩ := Option.ite_none_right_eq_some.mp performed
            cases same
            exact ⟨trivial, kept.enter promised found dated spawned rfl fun _ =>
              ⟨rfl, rfl, rfl, rfl⟩⟩
      | some fault =>
          simp only [EngineWorld.performAlive] at performed
          split at performed
          · cases performed
          next held found =>
            obtain ⟨⟨dated, spawned, -⟩, same⟩ := Option.ite_none_right_eq_some.mp performed
            cases same
            exact ⟨trivial, kept.enter promised found dated spawned (List.modify_id object _).symm
              fun _ => ⟨rfl, rfl, rfl, rfl⟩⟩
  | leave object position error =>
      cases performed
      exact ⟨trivial, kept.leave promised⟩
  | beginPass object =>
      obtain ⟨held, found, same⟩ := Option.map_eq_some_iff.mp performed
      cases same
      exact kept.beginPass promised found
  | readAck object jobId chunkId =>
      cases outcome with
      | none =>
          cases performed
          exact ⟨trivial, kept.readAck promised⟩
      | some fault =>
          cases performed
          obtain ⟨-, seen, read, stage⟩ := promised
          refine ⟨trivial, kept.unmoved ?_⟩
          rw [stage]
          rfl
  | startTask object kind | endTask object =>
      obtain ⟨held, found, here⟩ := Option.map_eq_some_iff.mp performed
      cases here
      exact ⟨trivial, unmoved (kept.touched rfl fun held holds => same holds rfl rfl rfl rfl) rfl⟩
  | cancelJob jobId =>
      refine ⟨trivial, unmoved ?_ rfl⟩
      simp only [EngineWorld.performAlive] at performed
      split at performed
      · cases performed
        exact kept
      split at performed
      · cases performed
        exact kept
      split at performed
      · cases performed
        refine kept.touched rfl fun held holds =>
          holds.touched (BackfillJob.harmless_block ?_ _ _) rfl
          rfl rfl rfl
        rintro ⟨⟩
      · cases performed
        exact kept
  | processing object chunkId =>
      cases performed
      exact ⟨trivial, unmoved (kept.touched rfl fun held holds => same holds rfl rfl rfl rfl) rfl⟩
  | publish object chunkId count =>
      cases performed
      refine ⟨trivial, unmoved ?_ rfl⟩
      cases outcome with
      | error fault => exact kept
      | ok published =>
          unfold EngineWorld.republish
          dsimp only
          split
          · exact kept
          · exact kept.touched rfl fun held holds => same holds rfl rfl rfl rfl
  | acquireLock jobId =>
      refine ⟨trivial, unmoved ?_ rfl⟩
      cases outcome with
      | none =>
          obtain ⟨-, same⟩ := Option.ite_none_left_eq_some.mp performed
          cases same
          exact kept.still rfl
      | some fault =>
          cases performed
          exact kept
  | acquireSlot provider heavy =>
      refine ⟨trivial, unmoved ?_ rfl⟩
      cases outcome with
      | none =>
          obtain ⟨-, same⟩ := Option.ite_none_right_eq_some.mp performed
          cases same
          exact kept.still rfl
      | some fault =>
          cases performed
          exact kept
  | write _ _ =>
      refine ⟨trivial, unmoved ?_ rfl⟩
      cases outcome <;> cases performed <;> exact kept.still rfl
  | loadJobs | loadJob _ | sleep | acquireRate =>
      refine ⟨trivial, unmoved ?_ rfl⟩
      cases outcome <;> cases performed <;> exact kept
  | releaseLock _ | releaseSlot _ _ =>
      cases performed
      exact ⟨trivial, unmoved (kept.still rfl) rfl⟩
  | runningJob _ | readReadiness | fetch _ _ | clock =>
      cases performed
      exact ⟨trivial, unmoved kept rfl⟩

end EngineChecked

/-! ## Runs -/

/-- What a verified job rests on: the chunks of its manifest are those of its request, each
was published in full, and an acknowledgement of each was read in the pass, and all that was
read attests its chunk. -/
structure JobObject.Earned (held : JobObject) : Prop where
  complete : held.job.Complete
  published : ∀ key chunk, held.job.chunks.get? key = some chunk →
    0 < chunk.recordCount ∧ chunk.recordsPublished = chunk.recordCount
  read : ∀ key chunk, held.job.chunks.get? key = some chunk →
    ∃ acknowledgement, (key, acknowledgement) ∈ held.pass
  attested : ∀ key chunk acknowledgement, held.job.chunks.get? key = some chunk →
    (key, acknowledgement) ∈ held.pass →
    ∃ ack, acknowledgement = some ack ∧ Attests held.job chunk ack

theorem earned_of_covered (sound : held.job.sound = true) (covered : held.job.Covered held.pass) :
    held.Earned := by
  obtain ⟨valid, published⟩ := Bool.and_eq_true_iff.mp sound
  refine ⟨complete_of_valid valid, fun key chunk found => ?_, covered.every,
    fun key chunk acknowledgement found read => ?_⟩
  · have full := List.all_eq_true.mp (Bool.and_eq_true_iff.mp published).2 (key, chunk)
      (OrderedDict.get?_eq_some.mp found)
    simp only [chunkPublished, Bool.and_eq_true, decide_eq_true_eq] at full
    exact ⟨full.1.1.1.1.2, full.1.1.1.2⟩
  · obtain ⟨chunk', found', some_, fits⟩ := covered.matches_ _ read
    cases Option.some.inj (found.symm.trans found')
    obtain ⟨ack, rfl⟩ := Option.isSome_iff_exists.mp some_
    exact ⟨ack, rfl, attests_of_ackMismatch fits⟩

/-- **A job is verified on evidence only.**  In every state of every run, with any clients,
failures, restarts and acknowledgements, and whatever the manifest store held at first. -/
theorem verified_is_earned [Unicode] {calls : ClientCalls} {polls : Nat}
    {store : OrderedDict String BackfillJob}
    {acks : String → String → Option HeberChunkAcknowledgement}
    {final : Config EngineTask EngineCommand.Reply Fault Unit EngineWorld}
    (reach : Reaches (.free (backfillMachine engine))
      (engineRun engine calls polls (.initial store acks)) final) :
    ∀ held ∈ final.world.objects, held.job.status = .verified → held.Earned := by
  have act : ∀ world stages task command outcome reply after, EngineChecked world stages →
      (checking task).may command (stages task) →
      (Policy.free (backfillMachine engine)).allows task command outcome world →
      world.perform engine task command outcome = some (reply, after) →
      ∃ next, (checking task).after command (stages task) reply next ∧
        EngineChecked after (Function.update stages task next) := by
    intro world stages task command outcome reply after kept promised _ performed
    obtain ⟨relied, still⟩ := kept.perform promised (Option.ite_none_right_eq_some.mp performed).2
    exact ⟨_, ⟨rfl, relied⟩, still⟩
  have start : EngineChecked (.initial store acks) fun _ => .idle :=
    ⟨by rintro _ _ ⟨⟩, fun _ _ => ⟨rfl, by rintro _ _ ⟨⟩⟩⟩
  obtain ⟨stages, kept, -⟩ := reach.invariant act
    (fun world stages move kept _ => kept.still (by cases move <;> rfl)) start
    (tasks_check engine calls polls (.initial store acks))
  intro held mem verified
  obtain ⟨object, found⟩ := List.getElem?_of_mem mem
  have holds := kept.objects object held found
  have certified : stages (.job object) = .certified := by
    by_contra uncertified
    exact holds.unverified uncertified verified
  obtain ⟨sound, covered⟩ := holds.earned certified
  exact earned_of_covered sound covered

end Runs

/-- The acknowledgement of the one chunk that was published. -/
def oneAck (jobId chunkId : String) : Option HeberChunkAcknowledgement :=
  some ⟨jobId, chunkId, "AAPL", 1, "events", "records", "commit", noon, "committed"⟩

/-- A job that was verified before the restart earns it again. -/
theorem restored_job_earns_it :
    ∃ final, Reaches (.free (backfillMachine plainEngine))
        (@engineRun plainManifests asciiUnicode plainEngine ⟨fun _ _ => oneDay [], fun _ _ => ""⟩ 1
          (.initial (OrderedDict.empty.set "bf-AAPL" (publishedJob .verified none)) oneAck)) final ∧
      ∃ held ∈ final.world.objects, held.job.status = .verified ∧ @held.Earned plainManifests := by
  let _ := plainManifests
  let _ := asciiUnicode
  let turns (count : Nat) (task : EngineTask) : List (Turn (backfillMachine plainEngine)) :=
    List.replicate count (.run task nothingFails)
  have played : ((engineRun plainEngine ⟨fun _ _ => oneDay [], fun _ _ => ""⟩ 1
      (.initial (OrderedDict.empty.set "bf-AAPL" (publishedJob .verified none)) oneAck)).play
      (.free (backfillMachine plainEngine)) (turns 6 (.start 0) ++ turns 10 (.job 0))).map
        (fun final => final.world.objects.map fun held => held.job.status) = some [.verified] := by
    decide +kernel
  obtain ⟨final, ran, seen⟩ := Option.map_eq_some_iff.mp played
  obtain ⟨held, rest, objects, verified, -⟩ := List.map_eq_cons_iff.mp seen
  have mem : held ∈ final.world.objects := objects ▸ List.mem_cons_self
  have reach := Config.play_reaches ran
  exact ⟨final, reach, held, mem, verified, verified_is_earned reach held mem verified⟩

end Backfill
end DataGateway
