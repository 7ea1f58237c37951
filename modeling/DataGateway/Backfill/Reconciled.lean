import DataGateway.Backfill.Accounting

/-!
# Reconciled jobs

Runs in which no two chunks of a job have one id, no attempt begins with published records, and
every chunk that was counted is saved: the counters of every job agree in every state.
-/

namespace DataGateway
namespace Backfill

open Coroutine Machine

section Runs

variable [Manifests] (engine : BackfillEngine)

/-- No two chunks of a job that is taken up have one id, none that is queued or unrecoverable has
published records, and the save that follows the count of a chunk does not raise. -/
def countsOnce : Policy (backfillMachine engine) where
  allows _ command outcome world := match command, outcome with
    | .adopt make, _ =>
        (chunkIds (make (utc world.now)).jobId (make (utc world.now)).request).Nodup ∧
          (make (utc world.now)).Clean
    | .write .counted _, outcome => outcome = none
    | _, _ => True
  permits _ _ := True

variable {engine} {world after : EngineWorld} {stages : EngineTask → AccountStage}
  {task : EngineTask}
  {object : Nat} {held : JobObject}

/-! ## Commands -/

namespace BooksKept

/-- A command that leaves the stage of its task alone. -/
theorem unmoved {stage : AccountStage} (kept : BooksKept after stages)
    (same : stage = stages task) :
    BooksKept after (Function.update stages task stage) := by
  rwa [same, Function.update_eq_self]

/-- An assignment counts nothing, or counts the chunk that its task processes. -/
theorem update (kept : BooksKept world stages) {change : DateTime → BackfillJob → BackfillJob}
    (promised : (stages task).promises task (.update object change))
    (found : world.objects[object]? = some held) :
    BooksKept (world.change object fun object =>
        { object with job := change (utc world.now) object.job })
      (Function.update stages task ((stages task).next (.update object change) held.job)) := by
  rcases promised with neutral | ⟨date, position, symbol, id, count, rfl, counting, rfl, counts⟩
  · refine unmoved ?_ (next_neutral neutral held.job)
    exact kept.touched rfl rfl (fun held => neutral _ held.job) (fun _ => rfl) (fun _ => rfl)
      fun _ => id
  · have holds := kept.objects object held found
    have place := holds.place date position symbol id (.inr counting)
    have runnable := holds.runnable (.entered date position (by rw [counting]; rintro ⟨⟩))
    have zero := runnable.zero date position symbol id place (by rw [counting]; rfl)
    obtain ⟨range, named, -, -⟩ := placeOf_eq_some.mp place
    obtain ⟨account, listed⟩ := OrderedDict.contains_iff.mp
      (holds.balanced.listed symbol (List.mem_of_getElem? named))
    have inside := (List.getElem?_eq_some_iff.mp found).1
    rcases counts held.job zero with same | ⟨records, counted⟩
    · have still : (stages (.chunk object date position)).next (.update object fun _ => count)
          held.job = stages (.chunk object date position) := by
        rw [counting]
        exact if_pos (by rw [same])
      refine unmoved (kept.changed rfl rfl fun other here holds => ?_) still
      obtain rfl := Option.some.inj (here.symm.trans found)
      refine holds.congr same rfl (fun _ _ => rfl) fun runs => holds.runnable (runs.of_same ?_ ?_)
      · rfl
      · exact fun open_ => open_
    · have counts : (stages (.chunk object date position)).next (.update object fun _ => count)
          held.job = .counted := by
        rw [counting]
        refine if_neg fun same => ?_
        rw [counted, JobAccounts.count, OrderedDict.get?_modify, if_pos rfl, listed] at same
        have complete := congrArg SymbolAccount.complete (Option.some.inj same)
        simp only at complete
        omega
      rw [counts]
      refine kept.rechunked inside (by rintro _ _ ⟨⟩) rfl rfl fun other here holds => ?_
      obtain rfl := Option.some.inj (here.symm.trans found)
      exact holds.counts counting counted rfl

/-- The task of a job is started. -/
theorem startTask (kept : BooksKept world stages) {kind : TaskKind}
    (promised : (stages task).promises task (.startTask object kind)) :
    BooksKept (world.change object fun object => { object with task := some kind }) stages := by
  refine kept.changed rfl rfl fun held found holds => ?_
  refine holds.congr rfl rfl (fun _ _ => rfl) fun runs => ?_
  cases kind with
  | run =>
      obtain ⟨make, made, queued⟩ := promised rfl
      exact holds.runnable (.made task make made queued)
  | verify =>
      exact holds.runnable (runs.before (by rintro ⟨⟩) id (fun _ _ made => made) .running fun _ _ =>
        rfl)

/-- The task of a job begins. -/
theorem begin_ (kept : BooksKept world stages) {kind : TaskKind} (found : world.objects[object]? =
    some held)
    (started : held.task = some kind) :
    BooksKept world (Function.update stages (.job object)
      ((stages (.job object)).next (.begin object) (kind, held.job))) := by
  have inside := (List.getElem?_eq_some_iff.mp found).1
  have apart {task : EngineTask} {other : Nat} {make : DateTime → BackfillJob}
    {stage : AccountStage}
      (noMade : ∀ make, stage ≠ .made other make)
      (made : Function.update stages (.job object) stage task = .made other make) :
      stages task = .made other make := by
    rw [Function.update_apply] at made
    split at made
    · exact absurd made (noMade make)
    · exact made
  have chunks {stage : AccountStage} (other date position : Nat) :
      Function.update stages (.job object) stage (.chunk other date position) =
        stages (.chunk other date position) := Function.update_of_ne (by rintro ⟨⟩) _ _
  cases kind with
  | run =>
      refine kept.restaged (by rintro _ _ _ ⟨⟩) (fun other held' here runs => ?_)
        (by rintro _ _ _ ⟨⟩) fun other beyond same => ?_
      · have holds := kept.objects other held' here
        by_cases same : other = object
        · subst same
          obtain rfl := Option.some.inj (here.symm.trans found)
          exact holds.runnable (.started started)
        · refine holds.runnable (runs.before .started id (fun _ _ => apart (by rintro _ ⟨⟩))
            (fun stage => ?_) (chunks other))
          rw [Function.update_of_ne (by rintro ⟨⟩; exact same rfl)] at stage
          exact .running stage
      · cases same
        exact absurd inside (Nat.not_lt.mpr beyond)
  | verify =>
      refine kept.restaged (by rintro _ _ _ ⟨⟩) (fun other held' here runs => ?_)
        (by rintro _ _ _ ⟨⟩) (by rintro _ _ _ ⟨⟩)
      refine (kept.objects other held' here).runnable (runs.before .started id
        (fun _ _ => apart (by rintro _ ⟨⟩)) (fun stage => ?_) (chunks other))
      rw [Function.update_apply] at stage
      split at stage
      · cases stage
      · exact .running stage

/-- The chunk tasks of a date are started. -/
theorem spawn (kept : BooksKept world stages) {date count : Nat}
    (promised : (stages task).promises task (.spawn object date count)) :
    BooksKept (world.change object fun object =>
      { object with date := date, open_ := List.range count, inside := [], results := [] })
        stages := by
  obtain ⟨rfl, running⟩ := promised
  exact kept.changed rfl rfl fun held _ holds =>
    holds.congr rfl rfl (fun _ _ => rfl) fun _ => holds.runnable (.running running)

/-- A chunk has its turn, or does not get it. -/
theorem enter (kept : BooksKept world stages) {date position : Nat} {by_ : JobObject → JobObject}
    {place : Option (String × String)} (found : world.objects[object]? = some held)
    (idle : stages (.chunk object date position) = .idle) (spawned : held.open_ ≠ [])
    (placed : place = placeOf held.job.jobId held.job.request date position ∨ place = none)
    (objects : after.objects = world.objects.modify object by_) (store : after.store = world.store)
    (job : ∀ held, (by_ held).job = held.job) (processed : ∀ held, (by_ held).processed =
      held.processed) :
    BooksKept after (Function.update stages (.chunk object date position) (.entered place)) := by
  have inside := (List.getElem?_eq_some_iff.mp found).1
  refine kept.rechunked inside (by rintro _ _ ⟨⟩) objects store fun other here holds => ?_
  obtain rfl := Option.some.inj (here.symm.trans found)
  refine holds.entered idle (holds.runnable (.spawned spawned)) (job _) (processed _) ?_
  rintro symbol id rfl
  rcases placed with same | none_
  · exact same.symm
  · cases none_

/-- The processing of a chunk begins. -/
theorem processing (kept : BooksKept world stages) {id : String}
    (promised : (stages task).promises task (.processing object id)) :
    BooksKept (world.change object fun object => { object with processed := id :: object.processed
      })
      (Function.update stages task ((stages task).next (.processing object id) ())) := by
  obtain ⟨date, position, symbol, rfl, entered⟩ := promised
  have inside : object < world.objects.length := by
    by_contra outside
    have idle := (kept.fresh object (Nat.not_lt.mp outside)).chunks date position
    rw [entered] at idle
    cases idle
  rw [entered]
  exact kept.rechunked inside (by rintro _ _ ⟨⟩) rfl rfl fun held _ holds =>
    holds.begins entered rfl rfl

/-- Every command of a task keeps the books. -/
theorem perform (kept : BooksKept world stages) {command : EngineCommand}
    {outcome : command.Outcome}
    {reply : command.Reply} (promised : (stages task).promises task command)
    (once : (countsOnce engine).allows task command outcome world)
    (performed : world.performAlive engine command outcome = some (reply, after)) :
    AccountStage.relies command reply ∧
      BooksKept after (Function.update stages task ((stages task).next command reply)) := by
  cases command with
  | loadJobs =>
      cases outcome with
      | some fault =>
          cases performed
          exact ⟨trivial, kept.unmoved rfl⟩
      | none =>
          cases performed
          refine ⟨fun job mem => ?_, kept.unmoved rfl⟩
          obtain ⟨⟨id, _⟩, stored, rfl⟩ := List.mem_map.mp mem
          exact kept.store id _ (OrderedDict.get?_eq_some.mpr stored)
  | loadJob jobId =>
      cases outcome with
      | some fault =>
          cases performed
          exact ⟨trivial, kept.unmoved rfl⟩
      | none =>
          cases performed
          refine ⟨?_, kept.unmoved rfl⟩
          cases found : world.store.get? jobId with
          | none => trivial
          | some job => exact kept.store jobId job found
  | write point payload =>
      cases outcome with
      | none =>
          cases performed
          exact ⟨by cases point <;> trivial, (kept.saved promised).unmoved rfl⟩
      | some fault =>
          cases performed
          refine ⟨?_, kept.unmoved rfl⟩
          cases point with
          | counted => cases once
          | other => trivial
  | adopt make =>
      cases performed
      exact ⟨trivial, kept.adopted promised.1 (promised.2 _) once.2 once.1 rfl rfl⟩
  | update object change =>
      obtain ⟨held, found, same⟩ := Option.map_eq_some_iff.mp performed
      cases same
      exact ⟨(kept.objects object held found).balanced, kept.update promised found⟩
  | startTask object kind =>
      obtain ⟨held, found, same⟩ := Option.map_eq_some_iff.mp performed
      cases same
      refine ⟨trivial, unmoved ?_ rfl⟩
      exact (kept.startTask promised).still rfl rfl
  | begin object =>
      simp only [EngineWorld.performAlive] at performed
      split at performed
      · cases performed
      next held found =>
          obtain ⟨kind, started, same⟩ := Option.map_eq_some_iff.mp performed
          cases same
          cases (promised : task = .job object)
          exact ⟨trivial, kept.begin_ found started⟩
  | spawn object date count =>
      cases performed
      exact ⟨trivial, (kept.spawn promised).unmoved rfl⟩
  | enter object date position =>
      obtain ⟨rfl, idle⟩ := promised
      cases outcome with
      | none =>
          simp only [EngineWorld.performAlive] at performed
          split at performed
          · cases performed
          next held found =>
              obtain ⟨⟨-, open_, -⟩, same⟩ := Option.ite_none_right_eq_some.mp performed
              cases same
              exact ⟨trivial, kept.enter found idle (List.ne_nil_of_mem open_) (.inl rfl) rfl rfl
                (fun _ => rfl) fun _ => rfl⟩
      | some fault =>
          simp only [EngineWorld.performAlive] at performed
          split at performed
          · cases performed
          next held found =>
              obtain ⟨⟨-, open_, -⟩, same⟩ := Option.ite_none_right_eq_some.mp performed
              cases same
              exact ⟨trivial, kept.enter found idle (List.ne_nil_of_mem open_) (.inr rfl)
                (List.modify_id object _).symm rfl (fun _ => rfl) fun _ => rfl⟩
  | processing object id =>
      cases performed
      exact ⟨trivial, kept.processing promised⟩
  | cancelJob jobId =>
      refine ⟨trivial, unmoved ?_ rfl⟩
      simp only [EngineWorld.performAlive] at performed
      split at performed
      · cases performed
        exact kept
      split at performed
      · cases performed
        exact kept
      split at performed
      · cases performed
        exact kept.touched rfl rfl (fun _ => rfl) (fun _ => rfl) (fun _ => rfl) fun _ open_ => open_
      · cases performed
        exact kept
  | endTask object =>
      obtain ⟨held, found, same⟩ := Option.map_eq_some_iff.mp performed
      cases same
      refine ⟨trivial, unmoved ?_ rfl⟩
      exact kept.touched rfl rfl (fun _ => rfl) (fun _ => rfl) (fun _ => rfl) fun _ open_ => open_
  | leave object position error =>
      cases performed
      refine ⟨trivial, unmoved ?_ rfl⟩
      refine kept.touched rfl rfl (fun _ => rfl) (fun _ => rfl) (fun _ => rfl) fun held left
        empty => ?_
      refine left ?_
      rw [empty]
      rfl
  | beginPass object =>
      obtain ⟨held, found, same⟩ := Option.map_eq_some_iff.mp performed
      cases same
      refine ⟨trivial, unmoved ?_ rfl⟩
      exact kept.touched rfl rfl (fun _ => rfl) (fun _ => rfl) (fun _ => rfl) fun _ open_ => open_
  | readAck object jobId chunkId =>
      refine ⟨trivial, unmoved ?_ rfl⟩
      cases outcome with
      | none =>
          cases performed
          exact kept.touched rfl rfl (fun _ => rfl) (fun _ => rfl) (fun _ => rfl) fun _ open_ =>
            open_
      | some fault =>
          cases performed
          exact kept
  | publish object chunkId count =>
      cases performed
      refine ⟨trivial, unmoved ?_ rfl⟩
      cases outcome with
      | error fault => exact kept
      | ok published =>
          unfold EngineWorld.republish
          dsimp only
          split
          · exact kept
          · exact kept.touched rfl rfl (fun _ => rfl) (fun _ => rfl) (fun _ => rfl) fun _ open_ =>
            open_
  | acquireLock jobId =>
      refine ⟨trivial, unmoved ?_ rfl⟩
      cases outcome with
      | none =>
          simp only [EngineWorld.performAlive] at performed
          split at performed
          · cases performed
          · cases performed
            exact kept.still rfl rfl
      | some fault =>
          cases performed
          exact kept
  | acquireSlot provider heavy =>
      refine ⟨trivial, unmoved ?_ rfl⟩
      cases outcome with
      | none =>
          obtain ⟨-, same⟩ := Option.ite_none_right_eq_some.mp performed
          cases same
          exact kept.still rfl rfl
      | some fault =>
          cases performed
          exact kept
  | gather object =>
      refine ⟨trivial, unmoved ?_ rfl⟩
      simp only [EngineWorld.performAlive] at performed
      split at performed
      · cases performed
      · obtain ⟨-, same⟩ := Option.ite_none_right_eq_some.mp performed
        cases outcome <;> cases same <;> exact kept
  | sleep | acquireRate =>
      refine ⟨trivial, unmoved ?_ rfl⟩
      cases outcome <;> cases performed <;> exact kept
  | releaseLock _ | releaseSlot _ _ =>
      cases performed
      exact ⟨trivial, unmoved (kept.still rfl rfl) rfl⟩
  | runningJob _ | readReadiness | fetch _ _ | clock =>
      cases performed
      exact ⟨trivial, unmoved kept rfl⟩

end BooksKept

/-! ## Runs -/

omit [Manifests] in
/-- What happens besides the tasks leaves the objects and the store alone. -/
theorem objects_disturb (move : EngineMove) (world : EngineWorld) :
    (world.disturb move).objects = world.objects ∧ (world.disturb move).store = world.store := by
  cases move <;> exact ⟨rfl, rfl⟩

/-- The books before the first job. -/
theorem booksKept_initial {acks : String → String → Option HeberChunkAcknowledgement} :
    BooksKept (.initial .empty acks) fun _ => .idle := by
  refine ⟨fun id job found => ?_, fun object held found => ?_, fun object _ => ?_⟩
  · cases found
  · cases found
  · exact ⟨by rintro _ _ ⟨⟩, by rintro ⟨⟩, fun _ _ => rfl⟩

/-- The counters of a job agree, none of its chunks was processed twice, and no symbol has more
chunks complete than it has. -/
structure JobObject.AddsUp (held : JobObject) : Prop where
  symbols : held.job.symbolsProgress.total SymbolProgress.recordsPublished =
    held.job.recordsPublished
  chunks : held.job.chunks.total ChunkResult.recordsPublished = held.job.recordsPublished
  once : held.processed.Nodup
  complete : ∀ item ∈ held.job.symbolsProgress.items, item.2.chunksComplete ≤ item.2.chunksTotal
  progress : held.job.progress ≤ 1

theorem ObjectKept.addsUp (kept : ObjectKept stages object held) : held.AddsUp := by
  have balanced := kept.balanced
  refine ⟨?_, ?_, kept.processed, fun item mem => ?_, BackfillJob.progress_le_one balanced⟩
  · have symbols := balanced.symbols
    rw [BackfillJob.accounts, OrderedDict.total_mapValues] at symbols
    exact symbols
  · have chunks := balanced.chunks
    rw [BackfillJob.accounts, OrderedDict.total_mapValues] at chunks
    exact chunks
  · exact balanced.within _ _ (BackfillJob.account_of_mem mem)

/-- **The counters of a backfill agree.**  In every state of every run in which chunks are counted
once, under any clients, failures, restarts and acknowledgements. -/
theorem counters_add_up [Unicode] {calls : ClientCalls} {polls : Nat}
    {acks : String → String → Option HeberChunkAcknowledgement}
    {final : Config EngineTask EngineCommand.Reply Fault Unit EngineWorld}
    (reach : Reaches (countsOnce engine) (engineRun engine calls polls (.initial .empty acks))
      final) :
    ∀ held ∈ final.world.objects, held.AddsUp := by
  have act : ∀ world stages task command outcome reply after, BooksKept world stages →
      (accounting task).may command (stages task) → (countsOnce engine).allows task command outcome
        world →
      world.perform engine task command outcome = some (reply, after) →
      ∃ next, (accounting task).after command (stages task) reply next ∧
        BooksKept after (Function.update stages task next) := by
    intro world stages task command outcome reply after kept promised once performed
    obtain ⟨relied, still⟩ :=
      kept.perform promised once (Option.ite_none_right_eq_some.mp performed).2
    exact ⟨_, ⟨rfl, relied⟩, still⟩
  have meets : ∀ task, Meets (accounting task) (fun _ _ => True) .idle
      ((engineRun engine calls polls (.initial .empty acks)).tasks task) := by
    intro task
    cases task with
    | start epoch => exact start_meets' trivial
    | submit epoch n => exact submit_meets engine trivial
    | cancel epoch n => exact cancel_meets.mono fun _ _ _ => trivial
    | job object => exact jobTask_meets engine
    | chunk object date position => exact chunkTask_meets
  obtain ⟨stages, kept, -⟩ := reach.invariant act
    (fun world stages move kept _ =>
      kept.still (objects_disturb move world).1 (objects_disturb move world).2)
    booksKept_initial meets
  intro held mem
  obtain ⟨object, found⟩ := List.getElem?_of_mem mem
  exact (kept.objects object held found).addsUp

/-! ## Two small runs -/

instance (job : BackfillJob) : Decidable job.Clean :=
  inferInstanceAs (Decidable (_ → ∀ item ∈ job.chunks.items, item.2.recordsPublished = 0))

instance : (countsOnce engine).Decides where
  act _ command outcome world := by
    cases command with
    | adopt make => exact inferInstanceAs (Decidable (_ ∧ _))
    | write point payload =>
        cases point with
        | counted => exact decidable_of_iff (Option.isNone outcome = true) Option.isNone_iff_eq_none
        | other => exact inferInstanceAs (Decidable True)
    | _ => exact inferInstanceAs (Decidable True)
  calm _ _ := inferInstanceAs (Decidable True)

end Runs

/-- Backfills of one day that clients ask for again and again. -/
def repeated (symbols : List String) : ClientCalls := ⟨fun _ _ => oneDay symbols, fun _ _ => ""⟩

/-- So many commands of a task. -/
def steps (count : Nat) (task : EngineTask) : List (Turn (backfillMachine plainEngine)) :=
  List.replicate count (.run task nothingFails)

/-- A symbol that is listed twice is backfilled twice, and its one chunk is counted twice. -/
theorem repeated_symbol_is_counted_twice :
    ∃ final, Reaches (.free (backfillMachine plainEngine))
        (@engineRun plainManifests asciiUnicode plainEngine (repeated ["AAPL", "AAPL"]) 1
          (.initial .empty fun _ _ => none)) final ∧
      ∃ held ∈ final.world.objects, held.open_ = [] ∧ ¬held.AddsUp := by
  let _ := plainManifests
  let _ := asciiUnicode
  have played : ((engineRun plainEngine (repeated ["AAPL", "AAPL"]) 1
      (.initial .empty fun _ _ => none)).play (.free (backfillMachine plainEngine))
      (steps 8 (.submit 0 0) ++ steps 9 (.job 0) ++ steps 15 (.chunk 0 0 0) ++
        steps 15 (.chunk 0 0 1))).map (fun final => final.world.objects.map fun held =>
          (held.open_, held.job.recordsPublished, held.job.chunks.total
            ChunkResult.recordsPublished)) =
      some [([], 2, 1)] := by decide +kernel
  obtain ⟨final, ran, seen⟩ := Option.map_eq_some_iff.mp played
  obtain ⟨held, rest, objects, counted, -⟩ := List.map_eq_cons_iff.mp seen
  obtain ⟨open_, counted⟩ := Prod.mk.inj counted
  obtain ⟨records, chunks⟩ := Prod.mk.inj counted
  refine ⟨final, Config.play_reaches ran, held, objects ▸ List.mem_cons_self, open_,
    fun adds => ?_⟩
  have same := adds.chunks
  rw [records, chunks] at same
  cases same

/-- A symbol that is listed once is counted once. -/
theorem single_symbol_adds_up :
    ∃ final, (@engineRun plainManifests asciiUnicode plainEngine (repeated ["AAPL"]) 1
        (.initial .empty fun _ _ => none)).play (@countsOnce plainManifests plainEngine)
          (steps 8 (.submit 0 0) ++ steps 9 (.job 0) ++ steps 15 (.chunk 0 0 0)) = some final ∧
      ∀ held ∈ final.world.objects, held.AddsUp := by
  let _ := plainManifests
  let _ := asciiUnicode
  have played : ((engineRun plainEngine (repeated ["AAPL"]) 1
      (.initial .empty fun _ _ => none)).play (countsOnce plainEngine)
      (steps 8 (.submit 0 0) ++ steps 9 (.job 0) ++ steps 15 (.chunk 0 0 0))).isSome = true := by
    decide +kernel
  obtain ⟨final, ran⟩ := Option.isSome_iff_exists.mp played
  exact ⟨final, ran, counters_add_up (Config.play_reaches ran)⟩

end Backfill
end DataGateway
