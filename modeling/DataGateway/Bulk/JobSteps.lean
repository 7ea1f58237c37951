import DataGateway.Bulk.Jobs
import Mathlib.Data.List.Nodup

/-!
# What the tasks of a bulk job keep

The fetches only move towards their ends, the background task collects each of them once, and a job
that has ended has no background task left that could change it.
-/

namespace DataGateway
namespace Bulk

variable {Record : Type}

/-- The job is complete or has failed. -/
def Job.Ended (job : Job Record) : Prop := job.status = .complete ∨ job.status = .failed

/-- Whether a fetch was collected whose records are not stored yet. -/
def Background.held : Background Record → Nat
  | .filtering _ => 1
  | _ => 0

/-- The background task loops over the fetches. -/
def Background.Loops : Background Record → Prop
  | .collecting | .filtering _ => True
  | .created | .done => False

/-- The date arithmetic of the request leaves the calendar. -/
def BulkRequest.Crashes (fromisoformat : String → Option Int) (request : BulkRequest) : Prop :=
  ∃ today, request.beginning fromisoformat today = .crashed

/-- Only the bounds of an options request can lead off the calendar, on whatever
day it is handled. -/
theorem BulkRequest.Crashes.options {fromisoformat : String → Option Int} {request : BulkRequest}
    (crashes : request.Crashes fromisoformat) (today : Int) :
    request.jobType = .options ∧ request.beginning fromisoformat today = .crashed := by
  obtain ⟨other, crashed⟩ := crashes
  cases request with
  | bars symbols => cases crashed
  | options underlyings date minDte maxDte => exact ⟨rfl, crashed⟩
  | adjustments symbols start end_ =>
      unfold BulkRequest.beginning at crashed
      dsimp only at crashed
      (repeat' split at crashed) <;> cases crashed

namespace Entry

/-- The fetch has ended. -/
def HasEnded (fetches : List (Fetch Record)) (i : Nat) : Prop :=
  ∃ records, fetches[i]? = some (.ended records)

/-- The fetches that have ended are those that were collected and those that wait for it. -/
structure Sound (entry : Entry Record) : Prop where
  jobType : entry.job.jobType = entry.request.jobType
  total : entry.job.symbolsTotal = entry.request.symbols.length
  nodup : (entry.collected ++ entry.finished).Nodup
  ended : ∀ i, i ∈ entry.collected ++ entry.finished ↔ HasEnded entry.fetches i
  slots : entry.running ≤ maxConcurrency

/-- What holds of a job and its tasks, whatever the files are. -/
structure Kept (fromisoformat : String → Option Int) (entry : Entry Record) : Prop
    extends entry.Sound where
  pending : entry.job.status = .pending → entry.background = .created
  /-- A job that has ended has no background task that goes on. -/
  final : entry.job.Ended → entry.background.isDone = true ∨ entry.cancelled = true
  lost : entry.cancelled = true → entry.job.status = .failed
  created : entry.background = .created →
    entry.fetches = [] ∧ entry.finished = [] ∧ entry.collected = []
  spawned : entry.background.Loops → entry.fetches.length = entry.job.symbolsTotal
  counted : entry.job.status ≠ .failed →
    entry.collected.length = entry.job.symbolsComplete + entry.background.held
  whole : entry.job.status = .complete → entry.collected.length = entry.job.symbolsTotal ∧
    entry.fetches.length = entry.job.symbolsTotal
  crashed : entry.job.status = .running → entry.background.isDone = true →
    entry.request.Crashes fromisoformat

variable {fromisoformat : String → Option Int} {entry after : Entry Record}

theorem new_kept (request : BulkRequest) (clientId : String) (now : Nat) :
    (Entry.new request clientId now : Entry Record).Kept fromisoformat where
  jobType := rfl
  total := rfl
  pending _ := rfl
  final ended := by rcases ended with ended | ended <;> cases ended
  lost cancelled := by cases cancelled
  created _ := ⟨rfl, rfl, rfl⟩
  spawned loops := loops.elim
  nodup := .nil
  ended i := by simp [Entry.new, HasEnded]
  counted _ := rfl
  whole complete := by cases complete
  crashed running := by cases running
  slots := Nat.zero_le _

/-- A background task that goes on belongs to a job that runs. -/
theorem Kept.goesOn (kept : entry.Kept fromisoformat) (begun : entry.background ≠ .created)
    (live : entry.background.isDone = false) (wanted : entry.cancelled = false) :
    entry.job.status = .running := by
  cases status : entry.job.status with
  | running => rfl
  | pending => exact absurd (kept.pending status) begun
  | complete | failed =>
      rcases kept.final (by simp [Job.Ended, status]) with done | cancelled
      · rw [live] at done
        cases done
      · rw [wanted] at cancelled
        cases cancelled

/-! ## Fetches -/

/-- Only the fetches have moved on. -/
theorem Kept.fetches (kept : entry.Kept fromisoformat) {fetches : List (Fetch Record)}
    {finished : List Nat} (length : fetches.length = entry.fetches.length)
    (begun : entry.background ≠ .created) (nodup : (entry.collected ++ finished).Nodup)
    (ended : ∀ i, i ∈ entry.collected ++ finished ↔ HasEnded fetches i)
    (slots : { entry with fetches := fetches, finished := finished }.running ≤ maxConcurrency) :
    { entry with fetches := fetches, finished := finished }.Kept fromisoformat where
  jobType := kept.jobType
  total := kept.total
  pending := kept.pending
  final := kept.final
  lost := kept.lost
  created background := absurd background begun
  spawned loops := length.trans (kept.spawned loops)
  nodup := nodup
  ended := ended
  counted := kept.counted
  whole complete := ⟨(kept.whole complete).1, length.trans (kept.whole complete).2⟩
  crashed := kept.crashed
  slots := slots

theorem Kept.begun (kept : entry.Kept fromisoformat) {i : Nat} {fetch : Fetch Record}
    (here : entry.fetches[i]? = some fetch) : entry.background ≠ .created := by
  intro created
  rw [(kept.created created).1] at here
  cases here

theorem hasEnded_set {fetches : List (Fetch Record)} {i j : Nat} {new : Fetch Record}
    (apart : j ≠ i) :
    HasEnded (fetches.set i new) j ↔ HasEnded fetches j := by
  rw [HasEnded, HasEnded, List.getElem?_set_ne (Ne.symm apart)]

/-- A fetch that does not end takes the semaphore at most when there is room. -/
theorem Kept.moves (kept : entry.Kept fromisoformat) {i : Nat} {old new : Fetch Record}
    (here : entry.fetches[i]? = some old) (pending : ∀ records, old ≠ .ended records)
    (still : ∀ records, new ≠ .ended records)
    (slots : { entry with fetches := entry.fetches.set i new }.running ≤ maxConcurrency) :
    { entry with fetches := entry.fetches.set i new }.Kept fromisoformat := by
  refine kept.fetches (List.length_set ..) (kept.begun here) kept.nodup (fun j => ?_) slots
  rw [kept.ended j]
  by_cases same : j = i
  · subst same
    have place := (List.getElem?_eq_some_iff.mp here).1
    constructor
    · rintro ⟨records, ended⟩
      rw [here] at ended
      exact absurd (Option.some.inj ended) (pending records)
    · rintro ⟨records, ended⟩
      rw [List.getElem?_set_self place] at ended
      exact absurd (Option.some.inj ended) (still records)
  · exact (hasEnded_set same).symm

theorem countP_set_le {p : Fetch Record → Bool} {fetches : List (Fetch Record)} {i : Nat}
    {new : Fetch Record} (other : p new = false) :
    (fetches.set i new).countP p ≤ fetches.countP p := by
  by_cases place : i < fetches.length
  · rw [List.countP_set place, other]
    simp
  · rw [List.set_eq_of_length_le (by omega)]

theorem countP_set_le_succ {p : Fetch Record → Bool} {fetches : List (Fetch Record)} {i : Nat}
    {new : Fetch Record} : (fetches.set i new).countP p ≤ fetches.countP p + 1 := by
  by_cases place : i < fetches.length
  · rw [List.countP_set place]
    split <;> split <;> omega
  · rw [List.set_eq_of_length_le (by omega)]
    omega

theorem Kept.fetchEnds (kept : entry.Kept fromisoformat) {i : Nat} {old : Fetch Record}
    (here : entry.fetches[i]? = some old) (pending : ∀ records, old ≠ .ended records)
    (records : Option (List Record)) : (entry.fetchEnds i records).Kept fromisoformat := by
  have place := (List.getElem?_eq_some_iff.mp here).1
  have apart : i ∉ entry.collected ++ entry.finished := by
    intro mem
    obtain ⟨records, ended⟩ := (kept.ended i).mp mem
    rw [here] at ended
    exact pending records (Option.some.inj ended)
  refine kept.fetches (List.length_set ..) (kept.begun here) ?_ (fun j => ?_)
    ((countP_set_le rfl).trans kept.slots)
  · rw [← List.append_assoc]
    exact kept.nodup.append (List.nodup_singleton i)
      fun j mem same => apart (List.mem_singleton.mp same ▸ mem)
  · rw [← List.append_assoc, List.mem_append, List.mem_singleton, kept.ended j]
    by_cases same : j = i
    · subst same
      exact iff_of_true (.inr rfl) ⟨records, List.getElem?_set_self place⟩
    · rw [hasEnded_set same]
      simp [same]

theorem Kept.fetchBegins (kept : entry.Kept fromisoformat) {i : Nat}
    (begins : entry.fetchBegins i = some after) : after.Kept fromisoformat := by
  unfold Entry.fetchBegins at begins
  split at begins
  next here =>
    split_ifs at begins with failed room <;> obtain rfl := Option.some.inj begins
    · exact kept.fetchEnds here nofun none
    · exact kept.moves here nofun nofun (countP_set_le_succ.trans room.1)
    · exact kept.moves here nofun nofun ((countP_set_le rfl).trans kept.slots)
  · cases begins

theorem Kept.fetchWakes (kept : entry.Kept fromisoformat) {i : Nat}
    (wakes : entry.fetchWakes i = some after) : after.Kept fromisoformat := by
  unfold Entry.fetchWakes at wakes
  split at wakes
  next here =>
    split_ifs at wakes with room
    obtain rfl := Option.some.inj wakes
    exact kept.moves here nofun nofun (countP_set_le_succ.trans room)
  · cases wakes

theorem Kept.answers (kept : entry.Kept fromisoformat) {i : Nat} {records : Option (List Record)}
    (answers : entry.answers i records = some after) : after.Kept fromisoformat := by
  unfold Entry.answers at answers
  split at answers
  next here =>
    obtain rfl := Option.some.inj answers
    exact kept.fetchEnds here nofun records
  · cases answers

/-! ## The background task -/

/-- A job fails, whatever its background task was about. -/
theorem Sound.fail (sound : entry.Sound) (message : String) (now : Nat) :
    (entry.fail message now).Kept fromisoformat where
  toSound := ⟨sound.jobType, sound.total, sound.nodup, sound.ended, sound.slots⟩
  pending status := by cases status
  final _ := .inl rfl
  lost _ := rfl
  created background := by cases background
  spawned loops := loops.elim
  counted status := absurd rfl status
  whole status := by cases status
  crashed status := by cases status

/-- A job runs while its background task loops. -/
theorem Sound.loops (sound : entry.Sound) (running : entry.job.status = .running)
    (wanted : entry.cancelled = false) (loops : entry.background.Loops)
    (spawned : entry.fetches.length = entry.job.symbolsTotal)
    (counted : entry.collected.length = entry.job.symbolsComplete + entry.background.held) :
    entry.Kept fromisoformat where
  toSound := sound
  pending status := by rw [running] at status; cases status
  final ended := by rcases ended with ended | ended <;> rw [running] at ended <;> cases ended
  lost cancelled := by rw [wanted] at cancelled; cases cancelled
  created background := by rw [background] at loops; exact loops.elim
  spawned _ := spawned
  counted _ := counted
  whole status := by rw [running] at status; cases status
  crashed _ done := by
    cases background : entry.background with
    | done => rw [background] at loops; exact loops.elim
    | created | collecting | filtering _ => rw [background] at done; cases done

/-- The loop over the fetches ends. -/
theorem Sound.finish (sound : entry.Sound) (now : Nat) (running : entry.job.status = .running)
    (wanted : entry.cancelled = false)
    (spawned : entry.fetches.length = entry.job.symbolsTotal)
    (counted : entry.collected.length = entry.job.symbolsComplete)
    (whole : entry.collected.length = entry.job.symbolsTotal) :
    (entry.finish now).Kept fromisoformat := by
  unfold Entry.finish
  rw [if_pos running]
  exact
    { toSound := ⟨sound.jobType, sound.total, sound.nodup, sound.ended, sound.slots⟩
      pending := nofun
      final := fun _ => .inl rfl
      lost := fun cancelled => absurd (wanted.symm.trans cancelled) Bool.false_ne_true
      created := nofun
      spawned := False.elim
      counted := fun _ => counted
      whole := fun _ => ⟨whole, spawned⟩
      crashed := nofun }

/-- The end of a turn, with one fetch more than was counted. -/
theorem Sound.advance (sound : entry.Sound) (now : Nat) (running : entry.job.status = .running)
    (wanted : entry.cancelled = false)
    (spawned : entry.fetches.length = entry.job.symbolsTotal)
    (counted : entry.collected.length = entry.job.symbolsComplete + 1) :
    (entry.advance now).Kept fromisoformat := by
  unfold Entry.advance
  dsimp only
  split_ifs with last
  · have turned : Sound { entry with
        job := { entry.job with symbolsComplete := entry.job.symbolsComplete + 1 }
        background := .collecting } :=
      ⟨sound.jobType, sound.total, sound.nodup, sound.ended, sound.slots⟩
    exact turned.finish now running wanted spawned counted (last.trans spawned)
  · exact Sound.loops ⟨sound.jobType, sound.total, sound.nodup, sound.ended, sound.slots⟩ running
      wanted trivial spawned counted

/-- A fetch is taken from those that have ended. -/
theorem Sound.take (sound : entry.Sound) {i : Nat} {rest : List Nat}
    (finished : entry.finished = i :: rest) : (entry.take i rest).Sound where
  jobType := sound.jobType
  total := sound.total
  nodup := by simpa [Entry.take, finished] using sound.nodup
  ended j := by simpa [Entry.take, finished] using sound.ended j
  slots := sound.slots

theorem Sound.start (sound : entry.Sound) (now : Nat) : (entry.start now).Sound :=
  ⟨sound.jobType, sound.total, sound.nodup, sound.ended, sound.slots⟩

theorem running_replicate (count : Nat) :
    (List.replicate count (Fetch.created : Fetch Record)).countP (fun fetch => match fetch with
      | .fetching => true
      | _ => false) = 0 := by
  rw [List.countP_replicate]
  rfl

/-- The tasks for the symbols are created while none has ended. -/
theorem Kept.spawn (kept : entry.Kept fromisoformat) (created : entry.background = .created)
    (now : Nat) : (entry.start now).spawn.Sound where
  jobType := kept.jobType
  total := kept.total
  nodup := kept.nodup
  ended i := by
    obtain ⟨-, finished, collected⟩ := kept.created created
    simp [Entry.spawn, Entry.start, finished, collected, HasEnded, List.getElem?_replicate]
  slots := (running_replicate _).le.trans (Nat.zero_le _)

variable [JsonLines Record]

omit [JsonLines Record] in
theorem Kept.begins (kept : entry.Kept fromisoformat) {today : Int} {now : Nat}
    (begins : entry.begins fromisoformat today now = some after) : after.Kept fromisoformat := by
  unfold Entry.begins at begins
  split at begins
  next created =>
    obtain ⟨-, -, collected⟩ := kept.created created
    have sound := kept.spawn created now
    have spawned : (entry.start now).spawn.fetches.length = entry.job.symbolsTotal :=
      List.length_replicate.trans kept.total.symm
    split at begins
    · cases begins
    next wanted =>
    -- a task that was not cancelled before it began has not lost its job
    have counted : entry.collected.length = entry.job.symbolsComplete := by
      refine (kept.counted fun failed => ?_).trans (by rw [created]; rfl)
      have final := kept.final (.inr failed)
      rw [created] at final
      exact final.elim nofun wanted
    split at begins
    next message _ =>
      obtain rfl := Option.some.inj begins
      exact (kept.toSound.start now).fail message now
    next crash =>
      obtain rfl := Option.some.inj begins
      have started := kept.toSound.start now
      exact
        { toSound := ⟨started.jobType, started.total, started.nodup, started.ended, started.slots⟩
          pending := nofun
          final := fun _ => .inl rfl
          lost := fun cancelled => absurd cancelled wanted
          created := nofun
          spawned := False.elim
          counted := fun _ => counted
          whole := nofun
          crashed := fun _ _ => ⟨today, crash⟩ }
    next ready =>
      have wanted : entry.cancelled = false := by simpa using wanted
      split_ifs at begins with none_ <;> obtain rfl := Option.some.inj begins
      · have nothing : entry.job.symbolsTotal = 0 := by rw [kept.total, none_]; rfl
        exact sound.finish now rfl wanted spawned counted
          ((congrArg List.length collected).trans nothing.symm)
      · exact sound.loops rfl wanted trivial spawned counted
  · cases begins

omit [JsonLines Record] in
theorem Kept.stops (kept : entry.Kept fromisoformat) (stops : entry.stops = some after) :
    after.Kept fromisoformat := by
  unfold Entry.stops at stops
  split_ifs at stops with cancelled
  obtain rfl := Option.some.inj stops
  have failed := kept.lost cancelled.1
  exact
    { toSound := ⟨kept.jobType, kept.total, kept.nodup, kept.ended, kept.slots⟩
      pending := fun status => by rw [failed] at status; cases status
      final := fun _ => .inl rfl
      lost := fun _ => failed
      created := nofun
      spawned := False.elim
      counted := fun status => absurd failed status
      whole := fun status => by rw [failed] at status; cases status
      crashed := fun status => by rw [failed] at status; cases status }

/-- The progress of the job is left to the caller. -/
theorem frame_appendJobResults (manager : BulkJobManager) (path : String) (records : List Record)
    (job : BulkJob Record) (files : Files) :
    (manager.appendJobResults path records job files).1.status = job.status ∧
      (manager.appendJobResults path records job files).1.jobType = job.jobType := by
  unfold BulkJobManager.appendJobResults
  split_ifs
  · exact ⟨rfl, rfl⟩
  · exact ⟨rfl, rfl⟩
  · exact ⟨rfl, rfl⟩
  · dsimp only
    cases job.resultsSpoolPath <;> exact ⟨rfl, rfl⟩

theorem frame_addFetched (manager : BulkJobManager) (path : String) (state : BulkJob Record × Files)
    (records : List Record) : (manager.addFetched path state records).1.status = state.1.status ∧
      (manager.addFetched path state records).1.jobType = state.1.jobType := by
  unfold BulkJobManager.addFetched
  cases kind : state.1.jobType with
  | bars =>
      obtain ⟨status, jobType⟩ := frame_appendJobResults manager path records state.1 state.2
      exact ⟨status, jobType.trans kind⟩
  | options => exact ⟨rfl, kind⟩
  | adjustments => exact ⟨rfl, kind⟩

theorem Sound.stores (sound : entry.Sound) (manager : BulkJobManager) (files : Files)
    (path : String) (records : List Record) : (entry.stores manager files path records).1.Sound :=
  ⟨(frame_addFetched manager path _ records).2.trans sound.jobType, sound.total, sound.nodup,
    sound.ended, sound.slots⟩

/-- The records of a fetch are stored, or the job fails. -/
theorem Sound.receives (sound : entry.Sound) {manager : BulkJobManager} {files later : Files}
    {path : String} {records : List Record} {now : Nat} {disk : Disk}
    (receives : entry.receives manager files path records now disk = some (after, later))
    (running : entry.job.status = .running) (wanted : entry.cancelled = false)
    (spawned : entry.fetches.length = entry.job.symbolsTotal)
    (counted : entry.collected.length = entry.job.symbolsComplete + 1) :
    after.Kept fromisoformat := by
  unfold Entry.receives at receives
  cases disk with
  | written =>
      obtain ⟨rfl, -⟩ := Prod.mk.inj (Option.some.inj receives)
      exact (sound.stores manager files path records).advance now
        ((frame_addFetched manager path _ _).1.trans running) wanted spawned counted
  | refuses error left =>
      obtain ⟨-, same⟩ := Option.ite_none_right_eq_some.mp receives
      obtain ⟨rfl, -⟩ := Prod.mk.inj (Option.some.inj same)
      exact sound.fail error now
  | breaks error left =>
      obtain ⟨-, same⟩ := Option.ite_none_right_eq_some.mp receives
      obtain ⟨rfl, -⟩ := Prod.mk.inj (Option.some.inj same)
      have opened : (entry.opened path).Sound :=
        ⟨sound.jobType, sound.total, sound.nodup, sound.ended, sound.slots⟩
      exact opened.fail error now

theorem Kept.collects (kept : entry.Kept fromisoformat) {manager : BulkJobManager}
    {files later : Files} {path : String} {disk : Disk} {now : Nat}
    (collects : entry.collects manager files path disk now = some (after, later)) :
    after.Kept fromisoformat := by
  unfold Entry.collects at collects
  split at collects
  next i rest collecting finished =>
    split at collects
    · cases collects
    next free =>
    rw [not_or] at free
    have wanted : entry.cancelled = false := by simpa using free.1
    have running := kept.goesOn (by rw [collecting]; nofun) (by rw [collecting]; rfl) wanted
    have spawned := kept.spawned (by rw [collecting]; trivial)
    have counted := kept.counted (by rw [running]; nofun)
    have sound := kept.toSound.take finished
    have more : (entry.take i rest).collected.length = entry.job.symbolsComplete + 1 := by
      rw [Entry.take, List.length_append, counted, collecting]
      rfl
    dsimp only at collects
    split_ifs at collects with empty options
    · obtain ⟨rfl, -⟩ := Prod.mk.inj (Option.some.inj collects)
      exact sound.advance now running wanted spawned more
    · obtain ⟨rfl, -⟩ := Prod.mk.inj (Option.some.inj collects)
      exact Sound.loops ⟨sound.jobType, sound.total, sound.nodup, sound.ended, sound.slots⟩ running
        wanted trivial spawned more
    · exact sound.receives collects running wanted spawned more
  · cases collects

variable {filterOptionContracts : BulkRequest → List Record → Except String (List Record)}

omit [JsonLines Record] in
theorem Kept.filtered (kept : entry.Kept fromisoformat) {now : Nat}
    (filtered : entry.filtered filterOptionContracts now = some after) :
    after.Kept fromisoformat := by
  unfold Entry.filtered at filtered
  split at filtered
  next contracts filtering =>
    split at filtered
    · cases filtered
    next free =>
    have wanted : entry.cancelled = false := by simpa using free
    have running := kept.goesOn (by rw [filtering]; nofun) (by rw [filtering]; rfl) wanted
    have spawned := kept.spawned (by rw [filtering]; trivial)
    have counted := kept.counted (by rw [running]; nofun)
    rw [filtering] at counted
    split at filtered
    next message _ =>
      obtain rfl := Option.some.inj filtered
      exact kept.toSound.fail message now
    next records _ =>
      obtain rfl := Option.some.inj filtered
      have more : (entry.keep records).Sound :=
        ⟨kept.jobType, kept.total, kept.nodup, kept.ended, kept.slots⟩
      exact more.advance now running wanted spawned counted
  · cases filtered

/-- Every step keeps what holds of a job. -/
theorem Kept.act (kept : entry.Kept fromisoformat) {manager : BulkJobManager} {files later : Files}
    {now : Nat} {action : JobAction Record}
    (acts : entry.act fromisoformat filterOptionContracts manager files now action =
      some (after, later)) : after.Kept fromisoformat := by
  have mapped {result : Option (Entry Record)}
      (some_ : result.map (·, files) = some (after, later)) : result = some after := by
    obtain ⟨entry, found, same⟩ := Option.map_eq_some_iff.mp some_
    obtain ⟨rfl, -⟩ := Prod.mk.inj same
    exact found
  cases action with
  | begins today => exact kept.begins (mapped acts)
  | fetchBegins i => exact kept.fetchBegins (mapped acts)
  | fetchWakes i => exact kept.fetchWakes (mapped acts)
  | answers i records => exact kept.answers (mapped acts)
  | collects path disk => exact kept.collects acts
  | filtered => exact kept.filtered (mapped acts)
  | stops => exact kept.stops (mapped acts)

omit [JsonLines Record] in
theorem Kept.cancel (kept : entry.Kept fromisoformat) : entry.cancel.Kept fromisoformat := by
  unfold Entry.cancel
  split_ifs with live
  · exact
      { toSound := ⟨kept.jobType, kept.total, kept.nodup, kept.ended, kept.slots⟩
        pending := nofun
        final := fun _ => by cases entry.background <;> simp [Background.isDone]
        lost := fun _ => rfl
        created := kept.created
        spawned := kept.spawned
        counted := fun status => absurd rfl status
        whole := nofun
        crashed := nofun }
  · exact kept

/-! ## Idle steps -/

/-- The step is one of the fetches, or the end of a background task that was cancelled. -/
structure Idle (entry after : Entry Record) : Prop where
  job : after.job = entry.job
  request : after.request = entry.request
  collected : after.collected = entry.collected
  background : after.background = entry.background ∨ after.background = .done
  ended : ∀ (i : Nat) (records : Option (List Record)),
    entry.fetches[i]? = some (.ended records) → after.fetches[i]? = some (.ended records)

omit [JsonLines Record] in
theorem idle_set {i : Nat} {old : Fetch Record} (here : entry.fetches[i]? = some old)
    (pending : ∀ records, old ≠ .ended records) (new : Fetch Record) (finished : List Nat) :
    entry.Idle { entry with fetches := entry.fetches.set i new, finished := finished } where
  job := rfl
  request := rfl
  collected := rfl
  background := .inl rfl
  ended j records ended := by
    have apart : i ≠ j := by
      rintro rfl
      rw [here] at ended
      exact pending records (Option.some.inj ended)
    rw [List.getElem?_set_ne apart]
    exact ended

omit [JsonLines Record] in
theorem idle_fetchBegins {i : Nat} (begins : entry.fetchBegins i = some after) :
    entry.Idle after := by
  unfold Entry.fetchBegins at begins
  split at begins
  next here =>
    split_ifs at begins <;> obtain rfl := Option.some.inj begins
    · exact idle_set here nofun _ _
    · exact idle_set here nofun _ _
    · exact idle_set here nofun _ _
  · cases begins

omit [JsonLines Record] in
theorem idle_fetchWakes {i : Nat} (wakes : entry.fetchWakes i = some after) : entry.Idle after := by
  unfold Entry.fetchWakes at wakes
  split at wakes
  next here =>
    split_ifs at wakes
    obtain rfl := Option.some.inj wakes
    exact idle_set here nofun _ _
  · cases wakes

omit [JsonLines Record] in
theorem idle_answers {i : Nat} {records : Option (List Record)}
    (answers : entry.answers i records = some after) : entry.Idle after := by
  unfold Entry.answers at answers
  split at answers
  next here =>
    obtain rfl := Option.some.inj answers
    exact idle_set here nofun _ _
  · cases answers

omit [JsonLines Record] in
theorem idle_stops (stops : entry.stops = some after) : entry.Idle after := by
  unfold Entry.stops at stops
  split_ifs at stops
  obtain rfl := Option.some.inj stops
  exact ⟨rfl, rfl, rfl, .inr rfl, fun _ _ ended => ended⟩

omit [JsonLines Record] in
/-- A job that has ended is not cancelled. -/
theorem job_cancel (ended : entry.job.Ended) : entry.cancel.job = entry.job := by
  unfold Entry.cancel
  rw [if_neg]
  rcases ended with ended | ended <;> simp [ended]

omit [JsonLines Record] in
theorem spool_cancel (entry : Entry Record) :
    entry.cancel.job.resultsSpoolPath = entry.job.resultsSpoolPath := by
  unfold Entry.cancel
  split_ifs <;> rfl

omit [JsonLines Record] in
/-- A background task that goes on was not cancelled, and its job has not ended. -/
theorem Kept.live (kept : entry.Kept fromisoformat) (live : entry.background.isDone = false)
    (wanted : ¬entry.cancelled = true) : ¬entry.job.Ended := fun ended =>
  (kept.final ended).elim (fun done => absurd (live.symm.trans done) Bool.false_ne_true) wanted

/-- A step is idle, or it is one of the background task of a job that has not ended. -/
theorem Kept.idle_or_works (kept : entry.Kept fromisoformat) {manager : BulkJobManager}
    {files later : Files} {now : Nat} {action : JobAction Record}
    (acts : entry.act fromisoformat filterOptionContracts manager files now action =
      some (after, later)) :
    (entry.Idle after ∧ later = files) ∨
      (¬entry.job.Ended ∧ entry.background.isDone = false) := by
  have works (live : entry.background.isDone = false) (wanted : ¬entry.cancelled = true) :
      ¬entry.job.Ended ∧ entry.background.isDone = false := ⟨kept.live live wanted, live⟩
  have mapped {result : Option (Entry Record)} (idle : ∀ next, result = some next → entry.Idle next)
      (some_ : result.map (·, files) = some (after, later)) : entry.Idle after ∧ later = files := by
    obtain ⟨entry, found, same⟩ := Option.map_eq_some_iff.mp some_
    obtain ⟨rfl, rfl⟩ := Prod.mk.inj same
    exact ⟨idle _ found, rfl⟩
  cases action with
  | fetchBegins i => exact .inl (mapped (fun _ => idle_fetchBegins) acts)
  | fetchWakes i => exact .inl (mapped (fun _ => idle_fetchWakes) acts)
  | answers i records => exact .inl (mapped (fun _ => idle_answers) acts)
  | stops => exact .inl (mapped (fun _ => idle_stops) acts)
  | begins today =>
      obtain ⟨_, begins, -⟩ := Option.map_eq_some_iff.mp acts
      unfold Entry.begins at begins
      split at begins
      next created =>
        split at begins
        · cases begins
        next wanted => exact .inr (works (by rw [created]; rfl) wanted)
      · cases begins
  | collects path disk =>
      have collects : entry.collects manager files path disk now = some (after, later) := acts
      unfold Entry.collects at collects
      split at collects
      next collecting _ =>
        split at collects
        · cases collects
        next free =>
          exact .inr (works (by rw [collecting]; rfl) fun cancelled => free (.inl cancelled))
      · cases collects
  | filtered =>
      obtain ⟨_, filtered, -⟩ := Option.map_eq_some_iff.mp acts
      unfold Entry.filtered at filtered
      split at filtered
      next filtering =>
        split at filtered
        · cases filtered
        next wanted => exact .inr (works (by rw [filtering]; rfl) wanted)
      · cases filtered

end Entry

end Bulk
end DataGateway
