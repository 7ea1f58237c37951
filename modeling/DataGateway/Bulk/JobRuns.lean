import DataGateway.Bulk.JobRecords
import DataGateway.Bulk.Paging

/-!
# Bulk jobs over whole runs

Whatever the order of requests, cancellations, fetches and background tasks, a job that has ended
stays what it is until it is forgotten, a complete job holds the records of every fetch once, and
every spool file belongs to a job in the table.
-/

namespace DataGateway
namespace Bulk

open Stepping

variable {Record : Type} [JsonLines Record]
variable {fromisoformat : String → Option Int}
variable {filterOptionContracts : BulkRequest → List Record → Except String (List Record)}

namespace BulkWorld

/-- `__init__`, with the files that are there already. -/
def initial (manager : BulkJobManager) (files : Files) : BulkWorld Record :=
  ⟨manager, 0, 0, fun _ => none, [], files⟩

/-- What holds of the manager and its jobs. -/
structure Sound (fromisoformat : String → Option Int)
    (filterOptionContracts : BulkRequest → List Record → Except String (List Record))
    (world : BulkWorld Record) : Prop where
  known : ∀ n ∈ world.jobs, ∃ entry, world.entries n = some entry
  created : ∀ n entry, world.entries n = some entry → n < world.created
  nodup : world.jobs.Nodup
  few : world.jobs.length ≤ maxJobs
  kept : ∀ n entry, world.entries n = some entry → entry.Kept fromisoformat
  /-- A job that is not in the table has ended. -/
  gone : ∀ n entry, world.entries n = some entry → n ∉ world.jobs → entry.job.Ended
  held : ∀ n ∈ world.jobs, ∀ entry, world.entries n = some entry →
    entry.Held filterOptionContracts world.manager world.files
  /-- No two jobs share a spool file. -/
  apart : ∀ n ∈ world.jobs, ∀ m ∈ world.jobs, ∀ path, world.spool n = some path →
    world.spool m = some path → n = m

variable {world after : BulkWorld Record}

theorem initial_sound (manager : BulkJobManager) (files : Files) :
    (initial manager files : BulkWorld Record).Sound fromisoformat filterOptionContracts where
  known _ mem := absurd mem List.not_mem_nil
  created _ _ here := by cases here
  nodup := .nil
  few := Nat.zero_le maxJobs
  kept _ _ here := by cases here
  gone _ _ here := by cases here
  held _ mem := absurd mem List.not_mem_nil
  apart _ mem := absurd mem List.not_mem_nil

/-! ## Jobs are forgotten -/

omit [JsonLines Record] in
theorem mem_cleanup {n : Nat} :
    n ∈ world.cleanupExpiredJobs.jobs ↔ n ∈ world.jobs ∧ world.expired n = false := by
  simp [cleanupExpiredJobs]

omit [JsonLines Record] in
theorem ended_of_expired {n : Nat} {entry : Entry Record} (here : world.entries n = some entry)
    (expired : world.expired n = true) : entry.job.Ended := by
  unfold BulkWorld.expired at expired
  rw [here] at expired
  exact (of_decide_eq_true expired).2

/-- The spool file of a job that stays is left alone. -/
theorem Sound.files_cleanup (sound : world.Sound fromisoformat filterOptionContracts) {n : Nat}
    (stays : n ∈ world.cleanupExpiredJobs.jobs) {path : String}
    (spooled : world.spool n = some path) :
    world.cleanupExpiredJobs.files path = world.files path := by
  obtain ⟨mem, fresh⟩ := mem_cleanup.mp stays
  refine if_neg ?_
  rintro ⟨other, listed, expired, same⟩
  rw [sound.apart n mem other listed path spooled same, expired] at fresh
  cases fresh

omit [JsonLines Record] in
theorem spool_eq {n : Nat} {entry : Entry Record} (here : world.entries n = some entry) :
    world.spool n = entry.job.resultsSpoolPath := by
  rw [BulkWorld.spool, here]
  rfl

theorem Sound.cleanup (sound : world.Sound fromisoformat filterOptionContracts) :
    world.cleanupExpiredJobs.Sound fromisoformat filterOptionContracts where
  known n mem := sound.known n (mem_cleanup.mp mem).1
  created := sound.created
  nodup := sound.nodup.filter _
  few := (List.length_filter_le _ _).trans sound.few
  kept := sound.kept
  gone n entry here out := by
    by_cases mem : n ∈ world.jobs
    · have expired : world.expired n = true := by
        by_contra fresh
        exact out (mem_cleanup.mpr ⟨mem, by simpa using fresh⟩)
      exact ended_of_expired here expired
    · exact sound.gone n entry here mem
  held n mem entry here := by
    refine (sound.held n (mem_cleanup.mp mem).1 entry here).frame fun path spooled => ?_
    exact sound.files_cleanup mem ((spool_eq here).trans spooled)
  apart n mem m other := sound.apart n (mem_cleanup.mp mem).1 m (mem_cleanup.mp other).1

/-! ## One entry changes -/

/-- The world with another state of one job. -/
def put (world : BulkWorld Record) (n : Nat) (entry : Entry Record) (files : Files) :
    BulkWorld Record :=
  { world with entries := Function.update world.entries n (some entry), files := files }

omit [JsonLines Record] in
theorem spool_put (n : Nat) (entry : Entry Record) (files : Files) (m : Nat) :
    (world.put n entry files).spool m =
      if m = n then entry.job.resultsSpoolPath else world.spool m := by
  unfold put BulkWorld.spool
  dsimp only
  by_cases same : m = n
  · rw [if_pos same, same, Function.update_self]
    rfl
  · rw [if_neg same, Function.update_of_ne same]

/-- The spool file of another job is left alone. -/
theorem Sound.other_files (sound : world.Sound fromisoformat filterOptionContracts) {n m : Nat}
    {entry next : Entry Record} {files : Files} {refused : Prop}
    (here : world.entries n = some entry) (ended : entry.job.Ended → files = world.files)
    (touches : Entry.Touches refused world.files files entry.job.toBulkJob next.job.toBulkJob)
    (mem : m ∈ world.jobs) (apart : m ≠ n) {path : String} (spooled : world.spool m = some path) :
    files path = world.files path ∧
    (n ∈ world.jobs → next.job.resultsSpoolPath ≠ some path) := by
  obtain ⟨other, known⟩ := sound.known m mem
  have stored := (sound.held m mem other known).file path ((spool_eq known).symm.trans spooled)
  have own (live : n ∈ world.jobs) : next.job.resultsSpoolPath ≠ some path := by
    intro same
    rcases touches.spool with kept | ⟨-, fresh, free, opened⟩
    · exact apart (sound.apart m mem n live path spooled ((spool_eq here).trans (kept ▸ same)))
    · -- a file that was opened just now was nobody's
      rw [opened] at same
      obtain rfl := Option.some.inj same
      rw [free] at stored
      cases stored
  refine ⟨?_, own⟩
  by_cases live : n ∈ world.jobs
  · refine (touches.others path (own live)).resolve_right fun free => ?_
    rw [free.1] at stored
    cases stored
  · rw [ended (sound.gone n entry here live)]

/-- A job moves on, and writes to no file but its own. -/
theorem Sound.put (sound : world.Sound fromisoformat filterOptionContracts) {n : Nat}
    {entry next : Entry Record} {files : Files} {refused : Prop}
    (here : world.entries n = some entry) (kept : next.Kept fromisoformat)
    (ended : entry.job.Ended → next.job = entry.job ∧ files = world.files)
    (held : entry.Held filterOptionContracts world.manager world.files →
      next.Held filterOptionContracts world.manager files)
    (touches : Entry.Touches refused world.files files entry.job.toBulkJob next.job.toBulkJob) :
    (world.put n next files).Sound fromisoformat filterOptionContracts := by
  have lookup (m : Nat) (other : Entry Record)
      (found : Function.update world.entries n (some next) m = some other) :
      (m = n ∧ other = next) ∨ (m ≠ n ∧ world.entries m = some other) := by
    by_cases same : m = n
    · subst same
      rw [Function.update_self] at found
      exact .inl ⟨rfl, (Option.some.inj found).symm⟩
    · rw [Function.update_of_ne same] at found
      exact .inr ⟨same, found⟩
  have others (m : Nat) (mem : m ∈ world.jobs) (apart : m ≠ n) (path : String)
      (spooled : world.spool m = some path) :=
    sound.other_files here (fun past => (ended past).2) touches mem apart spooled
  refine ⟨fun m mem => ?_, fun m other found => ?_, sound.nodup, sound.few, fun m other found => ?_,
    fun m other found out => ?_, fun m mem other found => ?_, fun m mem k listed path one two => ?_⟩
  · by_cases same : m = n
    · exact ⟨next, by rw [same]; exact Function.update_self ..⟩
    · obtain ⟨other, known⟩ := sound.known m mem
      exact ⟨other, (Function.update_of_ne same _ _).trans known⟩
  · rcases lookup m other found with ⟨rfl, -⟩ | ⟨-, known⟩
    · exact sound.created m entry here
    · exact sound.created m other known
  · rcases lookup m other found with ⟨-, rfl⟩ | ⟨-, known⟩
    · exact kept
    · exact sound.kept m other known
  · rcases lookup m other found with ⟨rfl, rfl⟩ | ⟨-, known⟩
    · have final := sound.gone m entry here out
      rw [(ended final).1]
      exact final
    · exact sound.gone m other known out
  · rcases lookup m other found with ⟨rfl, rfl⟩ | ⟨apart, known⟩
    · exact held (sound.held m mem entry here)
    · exact (sound.held m mem other known).frame fun path spooled =>
        (others m mem apart path ((spool_eq known).trans spooled)).1
  · rw [spool_put] at one two
    by_cases first : m = n
    · by_cases second : k = n
      · exact first.trans second.symm
      · rw [if_pos first] at one
        rw [if_neg second] at two
        exact absurd one ((others k listed second path two).2 (first ▸ mem))
    · rw [if_neg first] at one
      by_cases second : k = n
      · rw [if_pos second] at two
        exact absurd two ((others m mem first path one).2 (second ▸ listed))
      · rw [if_neg second] at two
        exact sound.apart m mem k listed path one two

omit [JsonLines Record] in
/-- A new job has no file yet. -/
theorem spool_new {request : BulkRequest} {clientId : String} {n : Nat} {path : String}
    (spooled : (Function.update world.entries world.created
      (some (Entry.new request clientId world.clock)) n).bind
        (fun entry => entry.job.resultsSpoolPath) = some path) :
    n ≠ world.created ∧ world.spool n = some path := by
  by_cases same : n = world.created
  · rw [same, Function.update_self] at spooled
    cases spooled
  · rw [Function.update_of_ne same] at spooled
    exact ⟨same, spooled⟩

theorem Sound.create (sound : world.Sound fromisoformat filterOptionContracts)
    (request : BulkRequest) (clientId : String) :
    (world.create request clientId).Sound fromisoformat filterOptionContracts := by
  have cleaned := sound.cleanup
  unfold BulkWorld.create
  dsimp only
  generalize world.cleanupExpiredJobs = world at cleaned
  split_ifs with full
  · exact cleaned
  have new (n : Nat) (entry : Entry Record)
      (found : Function.update world.entries world.created
        (some (Entry.new request clientId world.clock)) n = some entry) :
      (n = world.created ∧ entry = Entry.new request clientId world.clock) ∨
        (n < world.created ∧ world.entries n = some entry) := by
    by_cases same : n = world.created
    · rw [same, Function.update_self] at found
      exact .inl ⟨same, (Option.some.inj found).symm⟩
    · rw [Function.update_of_ne same] at found
      exact .inr ⟨cleaned.created n entry found, found⟩
  have older (n : Nat) (mem : n ∈ world.jobs) : n < world.created := by
    obtain ⟨entry, known⟩ := cleaned.known n mem
    exact cleaned.created n entry known
  refine ⟨fun n mem => ?_, fun n entry found => ?_, ?_, ?_, fun n entry found => ?_,
    fun n entry found out => ?_, fun n mem entry found => ?_, fun n mem m listed path one two => ?_⟩
  · rcases List.mem_append.mp mem with mem | mem
    · obtain ⟨entry, known⟩ := cleaned.known n mem
      exact ⟨entry, (Function.update_of_ne (older n mem).ne _ _).trans known⟩
    · obtain rfl := List.mem_singleton.mp mem
      exact ⟨_, Function.update_self ..⟩
  · rcases new n entry found with ⟨rfl, -⟩ | ⟨before, -⟩
    · exact Nat.lt_succ_self _
    · exact Nat.lt_succ_of_lt before
  · exact cleaned.nodup.append (List.nodup_singleton _) fun n mem same =>
      (older n mem).ne (List.mem_singleton.mp same)
  · rw [List.length_append, List.length_singleton]
    omega
  · rcases new n entry found with ⟨-, rfl⟩ | ⟨-, known⟩
    · exact Entry.new_kept request clientId world.clock
    · exact cleaned.kept n entry known
  · rcases new n entry found with ⟨rfl, -⟩ | ⟨-, known⟩
    · exact absurd (List.mem_append_right _ (.head _)) out
    · exact cleaned.gone n entry known fun mem => out (List.mem_append_left _ mem)
  · rcases new n entry found with ⟨-, rfl⟩ | ⟨before, known⟩
    · exact Entry.new_held request clientId world.clock
    · refine cleaned.held n ((List.mem_append.mp mem).resolve_right fun same => ?_) entry known
      exact before.ne (List.mem_singleton.mp same)
  · obtain ⟨first, one⟩ := spool_new one
    obtain ⟨second, two⟩ := spool_new two
    have older {k : Nat} (mem : k ∈ world.jobs ++ [world.created]) (other : k ≠ world.created) :
        k ∈ world.jobs :=
      (List.mem_append.mp mem).resolve_right fun same => other (List.mem_singleton.mp same)
    exact cleaned.apart n (older mem first) m (older listed second) path one two

theorem Sound.stepped (sound : world.Sound fromisoformat filterOptionContracts)
    {action : BulkAction Record}
    (stepped : world.step fromisoformat filterOptionContracts action = some after) :
    after.Sound fromisoformat filterOptionContracts := by
  cases action with
  | create request clientId =>
      obtain rfl := Option.some.inj stepped
      exact sound.create request clientId
  | cancel clientId n =>
      obtain rfl := Option.some.inj stepped
      unfold BulkWorld.cancel
      split
      · exact sound
      next entry here =>
        split_ifs
        · have touches : Entry.Touches False world.files world.files entry.job.toBulkJob
              entry.cancel.job.toBulkJob := .refl (Entry.spool_cancel entry)
          exact sound.put here (sound.kept n entry here).cancel
            (fun ended => ⟨Entry.job_cancel ended, rfl⟩) (fun held => held.cancel) touches
        · exact sound
  | job n action =>
      obtain ⟨entry, here, stepped⟩ := Option.bind_eq_some_iff.mp stepped
      obtain ⟨⟨next, files⟩, acts, rfl⟩ := Option.map_eq_some_iff.mp stepped
      have kept := sound.kept n entry here
      refine sound.put here (kept.act acts) (fun ended => ?_) (fun held => held.act kept acts)
        (Entry.touches_act acts)
      rcases kept.idle_or_works acts with ⟨idle, same⟩ | live
      · exact ⟨idle.job, same⟩
      · exact absurd ended live.1
  | tick elapsed =>
      obtain rfl := Option.some.inj stepped
      exact
        ⟨sound.known, sound.created, sound.nodup, sound.few, sound.kept, sound.gone, sound.held,
          sound.apart⟩

/-- The runs from an empty table. -/
theorem Sound.run {manager : BulkJobManager} {files : Files}
    {allowed : BulkWorld Record → BulkAction Record → Prop}
    (run : Runs (step fromisoformat filterOptionContracts) allowed (initial manager files) world) :
    world.Sound fromisoformat filterOptionContracts :=
  run.keeps (fun _ _ _ _ stepped sound => sound.stepped stepped) (initial_sound manager files)

/-! ## Jobs that have ended -/

theorem iterJobResults_congr {job : BulkJob Record} {files later : Files}
    (same : ∀ path, job.resultsSpoolPath = some path → later path = files path) :
    iterJobResults job later = iterJobResults job files := by
  unfold iterJobResults
  cases spooled : job.resultsSpoolPath with
  | none => rfl
  | some path => rw [Option.bind_some, Option.bind_some, same path spooled]

/-- A job that has ended is still the same, and so are its results while it is in the table. -/
def Stays (n : Nat) (job : Job Record) (before after : BulkWorld Record) : Prop :=
  ∃ entry, after.entries n = some entry ∧ entry.job = job ∧
    (n ∈ after.jobs → n ∈ before.jobs ∧
      iterJobResults job.toBulkJob after.files = iterJobResults job.toBulkJob before.files)

/-- One step leaves a job that has ended as it is. -/
theorem Sound.stays (sound : world.Sound fromisoformat filterOptionContracts)
    {action : BulkAction Record} {n : Nat} {entry : Entry Record}
    (stepped : world.step fromisoformat filterOptionContracts action = some after)
    (here : world.entries n = some entry) (ended : entry.job.Ended) :
    Stays n entry.job world after := by
  have old := sound.created n entry here
  cases action with
  | create request clientId =>
      obtain rfl := Option.some.inj stepped
      have cleaned : Stays n entry.job world world.cleanupExpiredJobs :=
        ⟨entry, here, rfl, fun mem => ⟨(mem_cleanup.mp mem).1, iterJobResults_congr
          fun path spooled => sound.files_cleanup mem ((spool_eq here).trans spooled)⟩⟩
      unfold BulkWorld.create
      dsimp only
      split_ifs
      · exact cleaned
      · obtain ⟨other, known, same, stays⟩ := cleaned
        refine ⟨other, (Function.update_of_ne old.ne _ _).trans known, same, fun mem => stays ?_⟩
        exact (List.mem_append.mp mem).resolve_right fun new => old.ne (List.mem_singleton.mp new)
  | cancel clientId m =>
      obtain rfl := Option.some.inj stepped
      unfold BulkWorld.cancel
      split
      · exact ⟨entry, here, rfl, fun mem => ⟨mem, rfl⟩⟩
      next other found =>
        split_ifs
        · by_cases same : n = m
          · subst same
            rw [here] at found
            obtain rfl := Option.some.inj found
            exact ⟨entry.cancel, Function.update_self .., Entry.job_cancel ended,
              fun mem => ⟨mem, rfl⟩⟩
          · exact ⟨entry, (Function.update_of_ne same _ _).trans here, rfl,
              fun mem => ⟨mem, rfl⟩⟩
        · exact ⟨entry, here, rfl, fun mem => ⟨mem, rfl⟩⟩
  | job m action =>
      obtain ⟨other, found, stepped⟩ := Option.bind_eq_some_iff.mp stepped
      obtain ⟨⟨next, files⟩, acts, rfl⟩ := Option.map_eq_some_iff.mp stepped
      have idle (past : other.job.Ended) : next.job = other.job ∧ files = world.files :=
        ((sound.kept m other found).idle_or_works acts).elim
          (fun ⟨idle, same⟩ => ⟨idle.job, same⟩)
          fun live => absurd past live.1
      by_cases same : n = m
      · subst same
        rw [here] at found
        obtain rfl := Option.some.inj found
        obtain ⟨job, rfl⟩ := idle ended
        exact ⟨next, Function.update_self .., job, fun mem => ⟨mem, rfl⟩⟩
      · refine ⟨entry, (Function.update_of_ne same _ _).trans here, rfl, fun mem => ⟨mem, ?_⟩⟩
        exact iterJobResults_congr fun path spooled => (sound.other_files found
          (fun past => (idle past).2) (Entry.touches_act acts) mem same
          ((spool_eq here).trans spooled)).1
  | tick elapsed =>
      obtain rfl := Option.some.inj stepped
      exact ⟨entry, here, rfl, fun mem => ⟨mem, rfl⟩⟩

/-- **A job that has ended stays what it is.**  However the run goes on, its status, its counters
and its error do not change, and neither do its results until it is forgotten; a cancelled job gets
no more records from the fetches that still run. -/
theorem ended_jobs_stay {manager : BulkJobManager} {files : Files} {first last : BulkWorld Record}
    (toFirst : Free (step fromisoformat filterOptionContracts) (initial manager files) first)
    (toLast : Free (step fromisoformat filterOptionContracts) first last) {n : Nat}
    {entry : Entry Record} (here : first.entries n = some entry) (ended : entry.job.Ended) :
    Stays n entry.job first last := by
  have start : Stays n entry.job first first := ⟨entry, here, rfl, fun mem => ⟨mem, rfl⟩⟩
  let Kept (middle : BulkWorld Record) : Prop :=
    middle.Sound fromisoformat filterOptionContracts ∧ Stays n entry.job first middle
  have keep : ∀ middle action after, True →
      step fromisoformat filterOptionContracts middle action = some after → Kept middle →
      Kept after := by
    rintro middle action after - stepped ⟨sound, other, known, same, results⟩
    refine ⟨sound.stepped stepped, ?_⟩
    obtain ⟨next, found, job, later⟩ := sound.stays stepped known (same ▸ ended)
    refine ⟨next, found, job.trans same, fun mem => ?_⟩
    obtain ⟨listed, still⟩ := later mem
    obtain ⟨there, before⟩ := results listed
    exact ⟨there, (same ▸ still).trans before⟩
  have both : Kept last := toLast.keeps keep ⟨Sound.run toFirst, start⟩
  exact both.2

/-! ## Complete jobs -/

/-- **A complete job holds every fetch once.**  It has collected the fetches of all its symbols, its
results are their records in the order in which they were collected, and its counters say so. -/
theorem complete_jobs_hold_every_fetch {manager : BulkJobManager} {files : Files}
    (run : Free (step fromisoformat filterOptionContracts) (initial manager files) world) {n : Nat}
    {entry : Entry Record} (mem : n ∈ world.jobs) (here : world.entries n = some entry)
    (complete : entry.job.status = .complete) :
    entry.collected.Perm (List.range entry.request.symbols.length) ∧
      (∀ i ∈ entry.collected, Entry.HasEnded entry.fetches i) ∧
      Stores (entry.collected.flatMap (entry.contribution filterOptionContracts))
        entry.job.toBulkJob
        world.files ∧
      entry.job.recordsFetched =
        (entry.collected.flatMap (entry.contribution filterOptionContracts)).length ∧
      entry.job.symbolsComplete = entry.request.symbols.length := by
  have sound := Sound.run run
  have kept := sound.kept n entry here
  have whole : entry.job.status ≠ .failed := by rw [complete]; nofun
  obtain ⟨stores, fetched⟩ := (sound.held n mem entry here).stored whole
  obtain ⟨collected, spawned⟩ := kept.whole complete
  have idle : entry.background.held = 0 := by
    rcases kept.final (.inl complete) with done | cancelled
    · cases background : entry.background with
      | done => rfl
      | created | collecting | filtering _ => rw [background] at done; cases done
    · exact absurd (kept.lost cancelled) whole
  have counted : entry.job.symbolsComplete = entry.job.symbolsTotal := by
    have counted := kept.counted whole
    omega
  have gathered : entry.gathered filterOptionContracts =
      entry.collected.flatMap (entry.contribution filterOptionContracts) := by
    rw [Entry.gathered, List.take_of_length_le (by omega)]
  rw [gathered] at stores fetched
  have ended (i : Nat) (mem : i ∈ entry.collected) : Entry.HasEnded entry.fetches i :=
    (kept.ended i).mp (List.mem_append_left _ mem)
  refine ⟨?_, ended, stores, fetched, counted.trans kept.total⟩
  have inside : entry.collected ⊆ List.range entry.request.symbols.length := by
    intro i mem
    obtain ⟨records, place⟩ := ended i mem
    have bound := (List.getElem?_eq_some_iff.mp place).1
    rw [List.mem_range, ← kept.total, ← spawned]
    exact bound
  have nodup : entry.collected.Nodup := (List.nodup_append.mp kept.nodup).1
  refine (List.subperm_of_subset nodup inside).perm_of_length_le ?_
  rw [List.length_range, collected, kept.total]

/-! ## Jobs that go on -/

/-- **The table is bounded and its jobs are worked on.**  There are at most a hundred jobs, with at
most ten fetches each that run, and a job that has not ended is in the table and has its background
task, unless the bounds of its request lead off the calendar. -/
theorem live_jobs_are_worked_on {manager : BulkJobManager} {files : Files}
    (run : Free (step fromisoformat filterOptionContracts) (initial manager files) world) :
    world.jobs.length ≤ 100 ∧
      ∀ n entry, world.entries n = some entry → entry.running ≤ 10 ∧
        (¬entry.job.Ended → n ∈ world.jobs ∧ entry.cancelled = false ∧
          (entry.background.isDone = true → entry.request.Crashes fromisoformat)) := by
  have sound := Sound.run run
  refine ⟨sound.few, fun n entry here => ?_⟩
  have kept := sound.kept n entry here
  refine ⟨kept.slots, fun live => ⟨?_, ?_, fun done => ?_⟩⟩
  · by_contra out
    exact live (sound.gone n entry here out)
  · by_contra cancelled
    exact live (.inr (kept.lost (by simpa using cancelled)))
  · refine kept.crashed ?_ done
    cases status : entry.job.status with
    | running => rfl
    | pending =>
        rw [kept.pending status] at done
        cases done
    | complete => exact absurd (.inl status) live
    | failed => exact absurd (.inr status) live

/-- The files that are not as they were are the spool files of jobs in the table. -/
structure Owned (files : Files) (world : BulkWorld Record) : Prop where
  others : ∀ path, world.files path = files path ∨ ∃ n ∈ world.jobs, world.spool n = some path
  new : ∀ n ∈ world.jobs, ∀ path, world.spool n = some path → files path = none

omit [JsonLines Record] in
theorem Owned.cleanup {files : Files} (owned : Owned files world) :
    Owned files world.cleanupExpiredJobs where
  new n mem := owned.new n (mem_cleanup.mp mem).1
  others path := by
    rcases owned.others path with same | ⟨n, mem, spooled⟩
    · refine .inl ?_
      change (if _ then none else world.files path) = files path
      split_ifs with removed
      · obtain ⟨n, mem, -, spooled⟩ := removed
        exact (owned.new n mem path spooled).symm
      · exact same
    · by_cases stays : n ∈ world.cleanupExpiredJobs.jobs
      · exact .inr ⟨n, stays, spooled⟩
      · have expired : world.expired n = true := by
          by_contra fresh
          exact stays (mem_cleanup.mpr ⟨mem, by simpa using fresh⟩)
        exact .inl ((if_pos ⟨n, mem, expired, spooled⟩).trans (owned.new n mem path spooled).symm)

theorem Owned.put {files later : Files} (owned : Owned files world)
    (sound : world.Sound fromisoformat filterOptionContracts) {n : Nat} {entry next : Entry Record}
    (here : world.entries n = some entry)
    (ended : entry.job.Ended → next.job = entry.job ∧ later = world.files)
    (touches : Entry.Touches False world.files later entry.job.toBulkJob next.job.toBulkJob) :
    Owned files (world.put n next later) := by
  have kept {m : Nat} (apart : m ≠ n) : (world.put n next later).spool m = world.spool m := by
    rw [spool_put, if_neg apart]
  have own : (world.put n next later).spool n = next.job.resultsSpoolPath := by
    rw [spool_put, if_pos rfl]
  by_cases live : n ∈ world.jobs
  · refine ⟨fun path => ?_, fun m mem path spooled => ?_⟩
    · by_cases same : next.job.resultsSpoolPath = some path
      · exact .inr ⟨n, live, own.trans same⟩
      · have still := (touches.others path same).resolve_right fun refused => refused.2
        rcases owned.others path with before | ⟨m, mem, spooled⟩
        · exact .inl (still.trans before)
        · refine .inr ⟨m, mem, (kept fun here_ => ?_).trans spooled⟩
          rw [here_, spool_eq here] at spooled
          rcases touches.spool with still | ⟨fresh, -⟩
          · exact same (still.trans spooled)
          · exact absurd (fresh.symm.trans spooled) nofun
    · by_cases same : m = n
      · rw [same, own] at spooled
        rcases touches.spool with still | ⟨-, opened, free, new⟩
        · exact owned.new n live path ((spool_eq here).trans (still.symm.trans spooled))
        · rw [new] at spooled
          obtain rfl := Option.some.inj spooled
          rcases owned.others opened with before | ⟨k, listed, taken⟩
          · exact before.symm.trans free
          · exact owned.new k listed opened taken
      · exact owned.new m mem path ((kept same).symm.trans spooled)
  · -- a job that was forgotten writes nothing
    obtain ⟨-, rfl⟩ := ended (sound.gone n entry here live)
    have apart {m : Nat} (mem : m ∈ world.jobs) : m ≠ n := fun same => live (same ▸ mem)
    refine ⟨fun path => ?_, fun m mem path spooled => ?_⟩
    · refine (owned.others path).imp_right ?_
      rintro ⟨m, mem, spooled⟩
      exact ⟨m, mem, (kept (apart mem)).trans spooled⟩
    · exact owned.new m mem path ((kept (apart mem)).symm.trans spooled)

theorem Owned.step {files : Files} (owned : Owned files world)
    (sound : world.Sound fromisoformat filterOptionContracts) {action : BulkAction Record}
    (opens : ∀ n act, action = .job n act → ¬act.Refuses)
    (stepped : world.step fromisoformat filterOptionContracts action = some after) :
    Owned files after := by
  cases action with
  | tick elapsed =>
      obtain rfl := Option.some.inj stepped
      exact ⟨owned.others, owned.new⟩
  | create request clientId =>
      obtain rfl := Option.some.inj stepped
      have cleaned := sound.cleanup
      have owned := owned.cleanup
      unfold BulkWorld.create
      dsimp only
      generalize world.cleanupExpiredJobs = world at cleaned owned
      split_ifs
      · exact owned
      refine ⟨fun path => (owned.others path).imp_right ?_, fun n mem path spooled => ?_⟩
      · rintro ⟨n, mem, spooled⟩
        obtain ⟨entry, known⟩ := cleaned.known n mem
        have old := (cleaned.created n entry known).ne
        refine ⟨n, List.mem_append_left _ mem, ?_⟩
        unfold BulkWorld.spool at spooled ⊢
        dsimp only
        rwa [Function.update_of_ne old]
      · obtain ⟨other, spooled⟩ := spool_new spooled
        refine owned.new n ((List.mem_append.mp mem).resolve_right fun same => ?_) path spooled
        exact other (List.mem_singleton.mp same)
  | cancel clientId n =>
      obtain rfl := Option.some.inj stepped
      unfold BulkWorld.cancel
      split
      · exact owned
      next entry here =>
        split_ifs
        · exact owned.put sound here (fun ended => ⟨Entry.job_cancel ended, rfl⟩)
            (.refl (Entry.spool_cancel entry))
        · exact owned
  | job n action =>
      obtain ⟨entry, here, stepped⟩ := Option.bind_eq_some_iff.mp stepped
      obtain ⟨⟨next, files⟩, acts, rfl⟩ := Option.map_eq_some_iff.mp stepped
      obtain ⟨spool, others⟩ := Entry.touches_act acts
      refine owned.put sound here (fun ended => ?_)
        ⟨spool, fun path apart => (others path apart).imp_right fun ⟨free, refused⟩ =>
          ⟨free, opens n action rfl refused⟩⟩
      rcases (sound.kept n entry here).idle_or_works acts with ⟨idle, same⟩ | live
      · exact ⟨idle.job, same⟩
      · exact absurd ended live.1

/-- The steps of a manager that keeps all contracts, where every date is the same day. -/
def plainStep : BulkWorld Bool → BulkAction Bool → Option (BulkWorld Bool) :=
  @step Bool boolLines (fun _ => some 739000) fun _ records => .ok records

/-- No more than two records are kept in memory. -/
def twoInMemory : BulkWorld Bool := initial ⟨2, true⟩ fun _ => none

/-- Bars of two symbols are fetched, the second one first. -/
def barsFetched : List (BulkAction Bool) :=
  [.create (.bars ["SPY", "QQQ"]) "client", .job 0 (.begins 0), .job 0 (.fetchBegins 0),
    .job 0 (.fetchBegins 1), .job 0 (.answers 1 (some [true])), .job 0 (.collects "first" .written),
    .job 0 (.answers 0 (some [false, true])), .job 0 (.collects "second" .written)]

/-- The second fetch is in front of the first one. -/
theorem two_fetches_are_held :
    let _ := boolLines
    ∃ (world : BulkWorld Bool) (entry : Entry Bool),
      play plainStep twoInMemory barsFetched = some world ∧ world.entries 0 = some entry ∧
        entry.collected = [1, 0] ∧ Stores [true, false, true] entry.job.toBulkJob world.files ∧
        entry.job.recordsFetched = 3 ∧ entry.job.symbolsComplete = 2 := by
  intro lines
  have played : ∃ world entry, play plainStep twoInMemory barsFetched = some world ∧
      world.entries 0 = some entry ∧ world.jobs = [0] ∧ entry.job.status = .complete ∧
      entry.request = .bars ["SPY", "QQQ"] ∧ entry.collected = [1, 0] ∧
      entry.contribution (fun _ records => .ok records) 1 = [true] ∧
      entry.contribution (fun _ records => .ok records) 0 = [false, true] :=
    ⟨_, _, rfl, rfl, rfl, rfl, rfl, rfl, rfl, rfl⟩
  obtain ⟨world, entry, ran, here, jobs, complete, request, order, second, first⟩ := played
  obtain ⟨-, -, stores, fetched, counted⟩ := complete_jobs_hold_every_fetch
    (play_runs ran fun _ _ _ => trivial) (jobs ▸ List.mem_singleton_self 0) here complete
  have records : entry.collected.flatMap (entry.contribution fun _ records => .ok records) =
      [true, false, true] := by simp [order, second, first]
  rw [records] at stores fetched
  exact ⟨world, entry, ran, here, order, stores, fetched, counted.trans (by rw [request]; rfl)⟩

/-- A job is cancelled while it fetches, and the provider answers afterwards. -/
theorem cancelled_job_stays :
    let _ := boolLines
    ∃ first last entry,
      play plainStep twoInMemory [.create (.bars ["SPY"]) "client", .job 0 (.begins 0),
        .job 0 (.fetchBegins 0), .cancel "client" 0] = some first ∧
      play plainStep first [.job 0 (.answers 0 (some [true])), .job 0 .stops] = some last ∧
      first.entries 0 = some entry ∧ entry.job.error = some "Cancelled by user" ∧
      Stays 0 entry.job first last := by
  intro lines
  have played : ∃ first last entry,
      play plainStep twoInMemory [.create (.bars ["SPY"]) "client", .job 0 (.begins 0),
        .job 0 (.fetchBegins 0), .cancel "client" 0] = some first ∧
      play plainStep first [.job 0 (.answers 0 (some [true])), .job 0 .stops] = some last ∧
      first.entries 0 = some entry ∧ entry.job.error = some "Cancelled by user" ∧
      entry.job.status = .failed := ⟨_, _, _, rfl, rfl, rfl, rfl, rfl⟩
  obtain ⟨first, last, entry, toFirst, toLast, here, error, failed⟩ := played
  exact ⟨first, last, entry, toFirst, toLast, here, error,
    ended_jobs_stay (play_runs toFirst fun _ _ _ => trivial) (play_runs toLast fun _ _ _ => trivial)
      here (.inr failed)⟩

/-- While the second fetch is still running, the job of the first one is in the table. -/
theorem fetching_job_is_worked_on : ∃ world entry,
    play plainStep twoInMemory (barsFetched.take 6) = some world ∧ world.entries 0 = some entry ∧
      entry.running = 1 ∧ world.jobs.length ≤ 100 ∧ entry.running ≤ 10 ∧
      (¬entry.job.Ended → 0 ∈ world.jobs ∧ entry.cancelled = false ∧
        (entry.background.isDone = true → entry.request.Crashes fun _ => some 739000)) := by
  have played : ∃ world entry, play plainStep twoInMemory (barsFetched.take 6) = some world ∧
      world.entries 0 = some entry ∧ entry.running = 1 := ⟨_, _, rfl, rfl, rfl⟩
  obtain ⟨world, entry, ran, here, one⟩ := played
  obtain ⟨few, each⟩ := @live_jobs_are_worked_on Bool boolLines (fun _ => some 739000)
    (fun _ records => .ok records) world ⟨2, true⟩ (fun _ => none)
    (play_runs ran fun _ _ _ => trivial)
  exact ⟨world, entry, ran, here, one, few, each 0 entry here⟩

end BulkWorld

end Bulk
end DataGateway
