import DataGateway.Bulk.JobSteps

/-!
# The records of a bulk job

Until a job fails, the records in memory or in its spool file are those of the fetches that were
counted, in the order in which they were collected.  A step writes to no other file, except that a
spool file that could not be opened may be left behind.
-/

namespace DataGateway
namespace Bulk

variable {Record : Type} [JsonLines Record]

/-- A job that keeps its records in a file has the file. -/
theorem Stores.file {files : Files} {job : BulkJob Record} {records : List Record}
    (stores : Stores records job files)
    (path : String) (spooled : job.resultsSpoolPath = some path) : (files path).isSome := by
  rcases stores with ⟨unspooled, -⟩ | ⟨spool, known, -, stored, -⟩
  · rw [unspooled] at spooled
    cases spooled
  · rw [known] at spooled
    obtain rfl := Option.some.inj spooled
    rw [stored]
    rfl

/-- A spool file could not be opened. -/
def Disk.Refuses : Disk → Prop
  | .refuses _ _ => True
  | .written | .breaks _ _ => False

/-- The step finds that a spool file cannot be opened. -/
def JobAction.Refuses : JobAction Record → Prop
  | .collects _ disk => disk.Refuses
  | _ => False

variable (filterOptionContracts : BulkRequest → List Record → Except String (List Record))

namespace Entry

/-- What a fetch adds to the results. -/
def contribution (entry : Entry Record) (i : Nat) : List Record :=
  if entry.recordsOf i = [] then []
  else
    match entry.request.jobType with
    | .options => (filterOptionContracts entry.request (entry.recordsOf i)).toOption.getD []
    | .bars | .adjustments => entry.recordsOf i

/-- What the fetches that were counted have added. -/
def gathered (entry : Entry Record) : List Record :=
  (entry.collected.take entry.job.symbolsComplete).flatMap
    (entry.contribution filterOptionContracts)

/-- The records of a job that has not failed are in store, and its spool file is there. -/
structure Held (manager : BulkJobManager) (files : Files) (entry : Entry Record) : Prop where
  stored : entry.job.status ≠ .failed →
    Stores (entry.gathered filterOptionContracts) entry.job.toBulkJob files ∧
      entry.job.recordsFetched = (entry.gathered filterOptionContracts).length
  allowed : SpillsAllowed manager entry.job.toBulkJob
  file : ∀ path, entry.job.resultsSpoolPath = some path → (files path).isSome
  filtering : ∀ contracts, entry.background = .filtering contracts →
    entry.request.jobType = .options ∧ contracts ≠ [] ∧
      ∃ front i, entry.collected = front ++ [i] ∧ entry.recordsOf i = contracts

variable {filterOptionContracts}
variable {fromisoformat : String → Option Int} {manager : BulkJobManager} {files later : Files}
variable {entry after : Entry Record}

theorem new_held (request : BulkRequest) (clientId : String) (now : Nat) :
    (Entry.new request clientId now : Entry Record).Held filterOptionContracts manager files where
  stored _ := ⟨.inl ⟨rfl, rfl⟩, rfl⟩
  allowed spooled := absurd rfl spooled
  file := nofun
  filtering := nofun

/-- Only the spool file matters. -/
theorem Held.frame (held : entry.Held filterOptionContracts manager files)
    (same : ∀ path, entry.job.resultsSpoolPath = some path → later path = files path) :
    entry.Held filterOptionContracts manager later where
  stored status := by
    obtain ⟨stores, counted⟩ := held.stored status
    refine ⟨stores.imp_right ?_, counted⟩
    rintro ⟨path, spooled, rest⟩
    rw [← same path spooled] at rest
    exact ⟨path, spooled, rest⟩
  allowed := held.allowed
  file path spooled := by rw [same path spooled]; exact held.file path spooled
  filtering := held.filtering

/-! ## Idle steps -/

omit [JsonLines Record] in
theorem Idle.recordsOf (idle : entry.Idle after) {i : Nat} (ended : HasEnded entry.fetches i) :
    after.recordsOf i = entry.recordsOf i := by
  obtain ⟨records, ended⟩ := ended
  rw [Entry.recordsOf, Entry.recordsOf, ended, idle.ended i records ended]

omit [JsonLines Record] in
theorem Idle.gathered (idle : entry.Idle after) (kept : entry.Kept fromisoformat) :
    after.gathered filterOptionContracts = entry.gathered filterOptionContracts := by
  rw [Entry.gathered, Entry.gathered, idle.job, idle.collected]
  refine List.flatMap_congr fun i mem => ?_
  have ended := (kept.ended i).mp (List.mem_append_left _ (List.mem_of_mem_take mem))
  rw [contribution, contribution, idle.recordsOf ended, idle.request]

theorem Idle.held (idle : entry.Idle after) (kept : entry.Kept fromisoformat)
    (held : entry.Held filterOptionContracts manager files) :
    after.Held filterOptionContracts manager files where
  stored := by
    rw [idle.job, idle.gathered kept]
    exact held.stored
  allowed := by rw [idle.job]; exact held.allowed
  file := by rw [idle.job]; exact held.file
  filtering contracts filtering := by
    rcases idle.background with same | done
    · obtain ⟨options, some_, front, i, collected, records⟩ :=
        held.filtering contracts (same ▸ filtering)
      have mem : i ∈ entry.collected ++ entry.finished := by simp [collected]
      refine ⟨idle.request ▸ options, some_, front, i, idle.collected.trans collected, ?_⟩
      rw [idle.recordsOf ((kept.ended i).mp mem), records]
    · rw [done] at filtering
      cases filtering

/-! ## Turns of the background task -/

/-- A turn ends with the records of one fetch more. -/
theorem advance_held {front : List Nat} {i : Nat} (now : Nat)
    (collected : entry.collected = front ++ [i])
    (counted : front.length = entry.job.symbolsComplete)
    (stores : Stores (front.flatMap (entry.contribution filterOptionContracts) ++
      entry.contribution filterOptionContracts i) entry.job.toBulkJob files)
    (fetched : entry.job.recordsFetched =
      (front.flatMap (entry.contribution filterOptionContracts) ++
        entry.contribution filterOptionContracts i).length)
    (allowed : SpillsAllowed manager entry.job.toBulkJob) :
    (entry.advance now).Held filterOptionContracts manager files := by
  have gathered : (entry.collected.take (entry.job.symbolsComplete + 1)).flatMap
      (entry.contribution filterOptionContracts) =
      front.flatMap (entry.contribution filterOptionContracts) ++
        entry.contribution filterOptionContracts i := by
    rw [← counted, collected, List.take_of_length_le (by simp), List.flatMap_append]
    simp
  rw [← gathered] at stores fetched
  unfold Entry.advance Entry.finish
  dsimp only
  split_ifs
  · exact ⟨fun _ => ⟨stores, fetched⟩, allowed, stores.file, nofun⟩
  · exact ⟨fun _ => ⟨stores, fetched⟩, allowed, stores.file, nofun⟩
  · exact ⟨fun _ => ⟨stores, fetched⟩, allowed, stores.file, nofun⟩

theorem fail_held (message : String) (now : Nat)
    (allowed : SpillsAllowed manager entry.job.toBulkJob)
    (file : ∀ path, entry.job.resultsSpoolPath = some path → (files path).isSome) :
    (entry.fail message now).Held filterOptionContracts manager files :=
  ⟨fun status => absurd rfl status, allowed, file, nofun⟩

theorem empty_held (collected : entry.collected = []) (stores : Stores [] entry.job.toBulkJob files)
    (fetched : entry.job.recordsFetched = 0) (allowed : SpillsAllowed manager entry.job.toBulkJob)
    (file : ∀ path, entry.job.resultsSpoolPath = some path → (files path).isSome)
    (idle : ∀ contracts, entry.background ≠ .filtering contracts) :
    entry.Held filterOptionContracts manager files where
  stored _ := by
    have nothing : entry.gathered filterOptionContracts = [] := by simp [gathered, collected]
    rw [nothing]
    exact ⟨stores, fetched⟩
  allowed := allowed
  file := file
  filtering contracts filtering := absurd filtering (idle contracts)

theorem Held.begins (held : entry.Held filterOptionContracts manager files)
    (kept : entry.Kept fromisoformat) {today : Int} {now : Nat}
    (begins : entry.begins fromisoformat today now = some after) :
    after.Held filterOptionContracts manager files := by
  unfold Entry.begins at begins
  split at begins
  next created =>
    obtain ⟨-, -, collected⟩ := kept.created created
    split at begins
    · cases begins
    next wanted =>
    have alive := kept.live (by rw [created]; rfl) wanted
    have nothing : entry.gathered filterOptionContracts = [] := by
      simp [Entry.gathered, collected]
    obtain ⟨stores, fetched⟩ := held.stored fun failed => alive (.inr failed)
    rw [nothing] at stores fetched
    split at begins
    · obtain rfl := Option.some.inj begins
      exact fail_held _ _ held.allowed held.file
    · obtain rfl := Option.some.inj begins
      exact empty_held collected stores fetched held.allowed held.file nofun
    · split_ifs at begins <;> obtain rfl := Option.some.inj begins
      · exact empty_held collected stores fetched held.allowed held.file nofun
      · exact empty_held collected stores fetched held.allowed held.file nofun
  · cases begins

/-- The records of a fetch of bars or factors are stored, or the job fails. -/
theorem receives_held {path : String} {front : List Nat} {i : Nat} {now : Nat} {disk : Disk}
    (receives : entry.receives manager files path (entry.recordsOf i) now disk =
      some (after, later))
    (jobType : entry.job.jobType = entry.request.jobType) (bars : entry.job.jobType ≠ .options)
    (collected : entry.collected = front ++ [i])
    (counted : front.length = entry.job.symbolsComplete)
    (stores : Stores (front.flatMap (entry.contribution filterOptionContracts))
      entry.job.toBulkJob files)
    (fetched : entry.job.recordsFetched =
      (front.flatMap (entry.contribution filterOptionContracts)).length)
    (allowed : SpillsAllowed manager entry.job.toBulkJob) :
    after.Held filterOptionContracts manager later := by
  have own : entry.contribution filterOptionContracts i = entry.recordsOf i := by
    unfold contribution
    split_ifs with none_
    · exact none_.symm
    · rw [jobType] at bars
      cases kind : entry.request.jobType with
      | options => exact absurd kind bars
      | bars | adjustments => rfl
  unfold Entry.receives at receives
  cases disk with
  | written =>
      obtain ⟨rfl, rfl⟩ := Prod.mk.inj (Option.some.inj receives)
      obtain ⟨more, still⟩ := stores.addFetched allowed path (entry.recordsOf i)
      refine advance_held now collected counted (own.symm ▸ more) ?_ still
      exact (recordsFetched_addFetched manager path (entry.job.toBulkJob, files) _).trans (by
        rw [fetched, ← own, List.length_append]
        rfl)
  | refuses error left =>
      obtain ⟨⟨-, unspooled⟩, same⟩ := Option.ite_none_right_eq_some.mp receives
      obtain ⟨rfl, rfl⟩ := Prod.mk.inj (Option.some.inj same)
      refine fail_held error now allowed fun spool spooled => ?_
      rw [unspooled] at spooled
      cases spooled
  | breaks error left =>
      obtain ⟨spills, same⟩ := Option.ite_none_right_eq_some.mp receives
      obtain ⟨rfl, rfl⟩ := Prod.mk.inj (Option.some.inj same)
      have spills := of_decide_eq_true spills
      refine fail_held error now (fun _ => ⟨spills.1, spills.2.1⟩) fun spool spooled => ?_
      obtain rfl := Option.some.inj spooled
      rw [Function.update_self]
      rfl

theorem Held.collects (held : entry.Held filterOptionContracts manager files)
    (kept : entry.Kept fromisoformat) {path : String} {disk : Disk} {now : Nat}
    (collects : entry.collects manager files path disk now = some (after, later)) :
    after.Held filterOptionContracts manager later := by
  unfold Entry.collects at collects
  split at collects
  next i rest collecting finished =>
    split at collects
    · cases collects
    next free =>
    rw [not_or] at free
    have alive := kept.live (by rw [collecting]; rfl) free.1
    have whole : entry.job.status ≠ .failed := fun failed => alive (.inr failed)
    have counted : entry.collected.length = entry.job.symbolsComplete := by
      rw [kept.counted whole, collecting]
      rfl
    have gathered : entry.gathered filterOptionContracts =
        entry.collected.flatMap (entry.contribution filterOptionContracts) := by
      rw [Entry.gathered, List.take_of_length_le counted.le]
    obtain ⟨stores, fetched⟩ := held.stored whole
    rw [gathered] at stores fetched
    dsimp only at collects
    split_ifs at collects with empty options
    · obtain ⟨rfl, rfl⟩ := Prod.mk.inj (Option.some.inj collects)
      have none_ : (entry.take i rest).contribution filterOptionContracts i = [] := if_pos empty
      refine advance_held now rfl counted ?_ ?_ held.allowed
      · rw [none_, List.append_nil]
        exact stores
      · rw [none_, List.append_nil]
        exact fetched
    · obtain ⟨rfl, rfl⟩ := Prod.mk.inj (Option.some.inj collects)
      have still : ((entry.collected ++ [i]).take entry.job.symbolsComplete).flatMap
          (entry.contribution filterOptionContracts) =
          entry.collected.flatMap (entry.contribution filterOptionContracts) := by
        rw [← counted, List.take_left]
      rw [← still] at stores fetched
      refine ⟨fun _ => ⟨stores, fetched⟩, held.allowed, held.file, fun contracts filtering => ?_⟩
      obtain rfl := Background.filtering.inj filtering
      exact ⟨kept.jobType.symm.trans options, empty, entry.collected, i, rfl, rfl⟩
    · exact receives_held collects kept.jobType options rfl counted stores fetched held.allowed
  · cases collects

omit [JsonLines Record] in
theorem contribution_options {i : Nat} {contracts records : List Record}
    (options : entry.request.jobType = .options) (some_ : contracts ≠ [])
    (fetched : entry.recordsOf i = contracts)
    (filtered : filterOptionContracts entry.request contracts = .ok records) :
    entry.contribution filterOptionContracts i = records := by
  rw [contribution, fetched, if_neg some_, options, filtered]
  rfl

theorem Held.filtered (held : entry.Held filterOptionContracts manager files)
    (kept : entry.Kept fromisoformat) {now : Nat}
    (filtered : entry.filtered filterOptionContracts now = some after) :
    after.Held filterOptionContracts manager files := by
  unfold Entry.filtered at filtered
  split at filtered
  next contracts filtering =>
    split at filtered
    · cases filtered
    next free =>
    have alive := kept.live (by rw [filtering]; rfl) free
    have whole : entry.job.status ≠ .failed := fun failed => alive (.inr failed)
    obtain ⟨options, some_, front, i, collected, fetched⟩ := held.filtering contracts filtering
    have counted : front.length = entry.job.symbolsComplete := by
      have length := kept.counted whole
      rw [collected, filtering, List.length_append] at length
      exact Nat.succ.inj length
    have gathered : entry.gathered filterOptionContracts =
        front.flatMap (entry.contribution filterOptionContracts) := by
      rw [Entry.gathered, collected, ← counted, List.take_left]
    obtain ⟨stores, total⟩ := held.stored whole
    rw [gathered] at stores total
    have unspooled : entry.job.resultsSpoolPath = none := by
      by_contra spooled
      have bars := (held.allowed spooled).1
      rw [kept.jobType, options] at bars
      cases bars
    split at filtered
    · obtain rfl := Option.some.inj filtered
      exact fail_held _ now held.allowed held.file
    next records passed =>
      obtain rfl := Option.some.inj filtered
      have own := contribution_options options some_ fetched passed
      have more := stores.extend unspooled records
      refine advance_held now collected counted ?_ ?_ held.allowed
      · exact own.symm ▸ more
      · exact (congrArg (· + records.length) total).trans (by rw [← own, List.length_append]; rfl)
  · cases filtered

theorem Held.act (held : entry.Held filterOptionContracts manager files)
    (kept : entry.Kept fromisoformat) {now : Nat} {action : JobAction Record}
    (acts : entry.act fromisoformat filterOptionContracts manager files now action =
      some (after, later)) : after.Held filterOptionContracts manager later := by
  have mapped {result : Option (Entry Record)} (holds : ∀ next, result = some next →
      next.Held filterOptionContracts manager files)
      (some_ : result.map (·, files) = some (after, later)) :
      after.Held filterOptionContracts manager later := by
    obtain ⟨entry, found, same⟩ := Option.map_eq_some_iff.mp some_
    obtain ⟨rfl, rfl⟩ := Prod.mk.inj same
    exact holds _ found
  cases action with
  | begins today => exact mapped (fun _ => held.begins kept) acts
  | fetchBegins i => exact mapped (fun _ begins => (idle_fetchBegins begins).held kept held) acts
  | fetchWakes i => exact mapped (fun _ wakes => (idle_fetchWakes wakes).held kept held) acts
  | answers i records => exact mapped (fun _ answers => (idle_answers answers).held kept held) acts
  | collects path disk => exact held.collects kept acts
  | filtered => exact mapped (fun _ => held.filtered kept) acts
  | stops => exact mapped (fun _ stops => (idle_stops stops).held kept held) acts

theorem Held.cancel (held : entry.Held filterOptionContracts manager files) :
    entry.cancel.Held filterOptionContracts manager files := by
  unfold Entry.cancel
  split_ifs
  · exact ⟨fun status => absurd rfl status, held.allowed, held.file, held.filtering⟩
  · exact held

/-! ## Files -/

/-- How a step treats the files: the job keeps its spool file or opens a new one, and nothing else
changes but a file that could not be opened. -/
structure Touches (refused : Prop) (files later : Files)
    (before after : BulkJob Record) : Prop where
  spool : after.resultsSpoolPath = before.resultsSpoolPath ∨
    before.resultsSpoolPath = none ∧ ∃ path, files path = none ∧ after.resultsSpoolPath = some path
  others : ∀ path, after.resultsSpoolPath ≠ some path →
    later path = files path ∨ files path = none ∧ refused

omit [JsonLines Record] in
theorem Touches.refl {refused : Prop} {before after : BulkJob Record}
    (same : after.resultsSpoolPath = before.resultsSpoolPath) :
    Touches refused files files before after :=
  ⟨.inl same, fun _ _ => .inl rfl⟩

theorem touches_appendJobResults (manager : BulkJobManager) {path : String}
    (free : files path = none) (records : List Record) (job : BulkJob Record) (refused : Prop) :
    Touches refused files (manager.appendJobResults path records job files).2 job
      (manager.appendJobResults path records job files).1 := by
  unfold BulkJobManager.appendJobResults
  split_ifs with none_ memory full
  · exact .refl rfl
  · exact .refl rfl
  · refine ⟨.inr ⟨full.1, path, free, rfl⟩, fun other apart => .inl ?_⟩
    have apart : other ≠ path := fun same => apart (same ▸ rfl)
    simp [Function.update_of_ne apart]
  · dsimp only
    cases spooled : job.resultsSpoolPath with
    | none => exact .refl spooled.symm
    | some spool =>
        refine ⟨.inl rfl, fun other apart => .inl ?_⟩
        have apart : other ≠ spool := fun same => apart (by rw [spooled, same])
        exact Function.update_of_ne apart _ _

theorem touches_stores (entry : Entry Record) (manager : BulkJobManager) {path : String}
    (free : files path = none) (records : List Record) (refused : Prop) :
    Touches refused files (entry.stores manager files path records).2
      entry.job.toBulkJob (entry.stores manager files path records).1.job.toBulkJob := by
  unfold Entry.stores BulkJobManager.addFetched
  cases kind : entry.job.jobType with
  | bars =>
      obtain ⟨spool, others⟩ :=
        touches_appendJobResults manager free records entry.job.toBulkJob refused
      exact ⟨spool, others⟩
  | options | adjustments => exact .refl rfl

omit [JsonLines Record] in
theorem spool_advance (entry : Entry Record) (now : Nat) :
    (entry.advance now).job.resultsSpoolPath = entry.job.resultsSpoolPath := by
  unfold Entry.advance Entry.finish
  dsimp only
  split_ifs <;> rfl

theorem touches_receives {path : String} {records : List Record} {now : Nat} {disk : Disk}
    (receives : entry.receives manager files path records now disk = some (after, later))
    (free : files path = none) :
    Touches disk.Refuses files later entry.job.toBulkJob after.job.toBulkJob := by
  unfold Entry.receives at receives
  cases disk with
  | written =>
      obtain ⟨rfl, rfl⟩ := Prod.mk.inj (Option.some.inj receives)
      obtain ⟨spool, others⟩ := touches_stores entry manager free records (Disk.Refuses .written)
      refine ⟨?_, ?_⟩
      · rw [spool_advance]
        exact spool
      · rw [spool_advance]
        exact others
  | refuses error left =>
      obtain ⟨⟨-, unspooled⟩, same⟩ := Option.ite_none_right_eq_some.mp receives
      obtain ⟨rfl, rfl⟩ := Prod.mk.inj (Option.some.inj same)
      refine ⟨.inl rfl, fun other _ => ?_⟩
      by_cases here : other = path
      · exact .inr ⟨here ▸ free, trivial⟩
      · exact .inl (Function.update_of_ne here _ _)
  | breaks error left =>
      obtain ⟨-, same⟩ := Option.ite_none_right_eq_some.mp receives
      obtain ⟨rfl, rfl⟩ := Prod.mk.inj (Option.some.inj same)
      refine ⟨?_, fun other apart => .inl ?_⟩
      · cases spooled : entry.job.resultsSpoolPath with
        | none => exact .inr ⟨rfl, path, free, by simp [Entry.opened, Entry.fail, spooled]⟩
        | some spool => exact .inl (by simp [Entry.opened, Entry.fail, spooled])
      · have here : other ≠ entry.job.resultsSpoolPath.getD path := fun same => apart (same ▸ rfl)
        exact Function.update_of_ne here _ _

omit [JsonLines Record] in
theorem spool_begins {today : Int} {now : Nat}
    (begins : entry.begins fromisoformat today now = some after) :
    after.job.resultsSpoolPath = entry.job.resultsSpoolPath := by
  unfold Entry.begins at begins
  split at begins
  · split at begins
    · cases begins
    split at begins
    · obtain rfl := Option.some.inj begins
      rfl
    · obtain rfl := Option.some.inj begins
      rfl
    · split_ifs at begins <;> obtain rfl := Option.some.inj begins <;> rfl
  · cases begins

omit [JsonLines Record] in
theorem spool_filtered {now : Nat}
    (filtered : entry.filtered filterOptionContracts now = some after) :
    after.job.resultsSpoolPath = entry.job.resultsSpoolPath := by
  unfold Entry.filtered at filtered
  split at filtered
  · split at filtered
    · cases filtered
    split at filtered
    · obtain rfl := Option.some.inj filtered
      rfl
    · obtain rfl := Option.some.inj filtered
      exact spool_advance _ _
  · cases filtered

theorem touches_act {now : Nat} {action : JobAction Record}
    (acts : entry.act fromisoformat filterOptionContracts manager files now action =
      some (after, later)) :
    Touches action.Refuses files later entry.job.toBulkJob after.job.toBulkJob := by
  have mapped {result : Option (Entry Record)} (spool : ∀ next, result = some next →
      next.job.resultsSpoolPath = entry.job.resultsSpoolPath)
      (some_ : result.map (·, files) = some (after, later)) :
      Touches action.Refuses files later entry.job.toBulkJob after.job.toBulkJob := by
    obtain ⟨entry, found, same⟩ := Option.map_eq_some_iff.mp some_
    obtain ⟨rfl, rfl⟩ := Prod.mk.inj same
    exact .refl (spool _ found)
  cases action with
  | begins today => exact mapped (fun _ => spool_begins) acts
  | fetchBegins i => exact mapped (fun _ begins => by rw [(idle_fetchBegins begins).job]) acts
  | fetchWakes i => exact mapped (fun _ wakes => by rw [(idle_fetchWakes wakes).job]) acts
  | answers i records => exact mapped (fun _ answers => by rw [(idle_answers answers).job]) acts
  | filtered => exact mapped (fun _ => spool_filtered) acts
  | stops => exact mapped (fun _ stops => by rw [(idle_stops stops).job]) acts
  | collects path disk =>
      have collects : entry.collects manager files path disk now = some (after, later) := acts
      unfold Entry.collects at collects
      split at collects
      · split at collects
        · cases collects
        next free =>
        rw [not_or, Option.not_isSome_iff_eq_none] at free
        dsimp only at collects
        split_ifs at collects
        · obtain ⟨rfl, rfl⟩ := Prod.mk.inj (Option.some.inj collects)
          exact .refl (spool_advance _ _)
        · obtain ⟨rfl, rfl⟩ := Prod.mk.inj (Option.some.inj collects)
          exact .refl rfl
        · have touched := touches_receives collects free.2
          exact touched
      · cases collects

end Entry

end Bulk
end DataGateway
