import DataGateway.Python.Text
import Mathlib.Logic.Function.Basic

/-!
# The results of a bulk job

A job keeps its records in memory until they are too many, and from then on in a spool file with one
record on a line.  It counts the records on its own.  Every completed job has as many records in
store as it has counted, as long as its spool file is there.
-/

namespace DataGateway
namespace Bulk

/-- What the spool file relies on: `json.dumps` writes a record on one line, without white space
around it, and `json.loads` reads the line. -/
class JsonLines (Record : Type) where
  /-- `json.dumps`. -/
  dumps : Record → List Char
  /-- `json.loads`; `none` is a `ValueError`. -/
  loads : List Char → Option Record
  loads_dumps : ∀ record, (loads (dumps record)).isSome = true
  dumps_line : ∀ record, '\n' ∉ dumps record
  dumps_ne_nil : ∀ record, dumps record ≠ []
  strip_dumps : ∀ record, Text.stripChars (dumps record) = dumps record

/-- The text of every file, by its path. -/
abbrev Files := String → Option (List Char)

/-- The lines of an open file, without their breaks. -/
def linesFrom (line : List Char) : List Char → List (List Char)
  | [] => if line = [] then [] else [line]
  | c :: rest => if c = '\n' then line :: linesFrom [] rest else linesFrom (line ++ [c]) rest

theorem linesFrom_line {body : List Char} (unbroken : '\n' ∉ body) (line rest : List Char) :
    linesFrom line (body ++ '\n' :: rest) = (line ++ body) :: linesFrom [] rest := by
  induction body generalizing line with
  | nil => simp [linesFrom]
  | cons c body ih =>
      have other : c ≠ '\n' := fun same => unbroken (by simp [same])
      have later : '\n' ∉ body := fun mem => unbroken (List.mem_cons_of_mem c mem)
      simp [linesFrom, other, ih later]

/-- `BulkJobStatus`. -/
inductive BulkJobStatus
  /-- `"pending"`. -/
  | pending
  /-- `"running"`. -/
  | running
  /-- `"complete"`. -/
  | complete
  /-- `"failed"`. -/
  | failed
  deriving DecidableEq, Repr

/-- Which of the three background tasks fills a job. -/
inductive JobType
  /-- `_process_bars_job`. -/
  | bars
  /-- `_process_options_job`. -/
  | options
  /-- `_process_adjustments_job`. -/
  | adjustments
  deriving DecidableEq, Repr

/-- `BulkJob`, the fields its results depend on. -/
structure BulkJob (Record : Type) where
  /-- `job_type`. -/
  jobType : JobType
  /-- `status`. -/
  status : BulkJobStatus
  /-- `records_fetched`. -/
  recordsFetched : Nat
  /-- `results`. -/
  results : List Record
  /-- `results_spool_path`. -/
  resultsSpoolPath : Option String
  deriving DecidableEq

/-- `BulkJobManager`, the settings for results. -/
structure BulkJobManager where
  /-- `_max_results_in_memory`. -/
  maxResultsInMemory : Nat
  /-- `_spill_results_to_disk`. -/
  spillResultsToDisk : Bool

variable {Record : Type} [JsonLines Record]

/-- The lines of some records. -/
def spoolText (records : List Record) : List Char :=
  records.flatMap fun record => JsonLines.dumps record ++ ['\n']

/-- `_iter_job_results`: the records in memory and those in the file; `none` is a line that cannot
be read.  A missing file has none. -/
def iterJobResults (job : BulkJob Record) (files : Files) : List (Option Record) :=
  job.results.map some ++
    match job.resultsSpoolPath.bind files with
    | none => []
    | some text => (((linesFrom [] text).map Text.stripChars).filter (· ≠ [])).map JsonLines.loads

/-- `sys.maxsize`, the greatest number that `islice` takes. -/
def maxsize : Nat := 9223372036854775807

/-- `islice(items, start, stop)`; `none` is its `ValueError`.  Items that cannot be read are not
passed over. -/
def islice {α : Type} (items : List (Option α)) (start : Nat) (stop : Option Nat) :
    Option (List (Option α)) :=
  if maxsize < start ∨ stop.any (maxsize < ·) then none
  else some (if (items.take start).any Option.isNone then [none] else
    (stop.elim items items.take).drop start)

/-- `_append_job_results`, where a new spool file gets the given path. -/
def BulkJobManager.appendJobResults (manager : BulkJobManager) (path : String)
    (records : List Record) (job : BulkJob Record) (files : Files) : BulkJob Record × Files :=
  if records = [] then (job, files)
  else if !manager.spillResultsToDisk then ({ job with results := job.results ++ records }, files)
  else
    let (job, files) :=
      if job.resultsSpoolPath = none ∧
          manager.maxResultsInMemory < job.results.length + records.length then
        ({ job with results := [], resultsSpoolPath := some path },
          Function.update files path (some (spoolText job.results)))
      else (job, files)
    match job.resultsSpoolPath with
    | some spool =>
        (job, Function.update files spool (some ((files spool).getD [] ++ spoolText records)))
    | none => ({ job with results := job.results ++ records }, files)

/-- What a finished fetch of one symbol adds to the job. -/
def BulkJobManager.addFetched (manager : BulkJobManager) (path : String)
    (state : BulkJob Record × Files) (records : List Record) : BulkJob Record × Files :=
  let (job, files) :=
    match state.1.jobType with
    | .bars => manager.appendJobResults path records state.1 state.2
    | .options | .adjustments => ({ state.1 with results := state.1.results ++ records }, state.2)
  ({ job with recordsFetched := job.recordsFetched + records.length }, files)

/-- The background task of a job: the fetches in the order in which they end, each with its records,
or without any when it failed. -/
def BulkJobManager.process (manager : BulkJobManager) (jobType : JobType) (path : String)
    (files : Files) (fetched : List (List Record)) : BulkJob Record × Files :=
  let (job, files) :=
    fetched.foldl (manager.addFetched path) (⟨jobType, .running, 0, [], none⟩, files)
  ({ job with status := .complete }, files)

/-! ## What is in store -/

theorem iterJobResults_spool {job : BulkJob Record} {files : Files} {path : String}
    {records : List Record} (spooled : job.resultsSpoolPath = some path)
    (stored : files path = some (spoolText records)) :
    iterJobResults job files =
      job.results.map some ++ records.map fun record =>
        JsonLines.loads (JsonLines.dumps record) := by
  have lines : ((linesFrom [] (spoolText records)).map Text.stripChars).filter (· ≠ []) =
      records.map JsonLines.dumps := by
    clear stored
    induction records with
    | nil => rfl
    | cons record records ih =>
        have text : spoolText (record :: records) =
            JsonLines.dumps record ++ '\n' :: spoolText records := by simp [spoolText]
        rw [text, linesFrom_line (JsonLines.dumps_line record), List.nil_append, List.map_cons,
          JsonLines.strip_dumps, List.filter_cons, if_pos (by simp [JsonLines.dumps_ne_nil]), ih,
          List.map_cons]
  rw [iterJobResults, spooled, Option.bind_some, stored]
  dsimp only
  rw [lines, List.map_map]
  rfl

/-- The counter agrees with the records in memory, or with those of a spool file that has some. -/
def CountAgrees (job : BulkJob Record) (files : Files) : Prop :=
  (job.resultsSpoolPath = none ∧ job.recordsFetched = job.results.length) ∨
    ∃ (path : String) (records : List Record), job.resultsSpoolPath = some path ∧
      job.results = [] ∧
      files path = some (spoolText records) ∧ job.recordsFetched = records.length ∧ records ≠ []

/-- The records are in memory, or there are some and all are in the spool file. -/
def Stores (records : List Record) (job : BulkJob Record) (files : Files) : Prop :=
  (job.resultsSpoolPath = none ∧ job.results = records) ∨
    ∃ path, job.resultsSpoolPath = some path ∧ job.results = [] ∧
      files path = some (spoolText records) ∧ records ≠ []

/-- Only the task for bars spills, and only when the manager lets it. -/
def SpillsAllowed (manager : BulkJobManager) (job : BulkJob Record) : Prop :=
  job.resultsSpoolPath ≠ none → job.jobType = .bars ∧ manager.spillResultsToDisk = true

theorem spoolText_append (left right : List Record) :
    spoolText (left ++ right) = spoolText left ++ spoolText right := by simp [spoolText]

variable {manager : BulkJobManager} {job : BulkJob Record} {files : Files} {stored : List Record}

/-- Records that are kept in memory are stored behind the others. -/
theorem Stores.extend (stores : Stores stored job files) (unspooled : job.resultsSpoolPath = none)
    (records : List Record) :
    Stores (stored ++ records) { job with results := job.results ++ records } files := by
  rcases stores with ⟨-, results⟩ | ⟨path, spooled, -⟩
  · exact .inl ⟨unspooled, by simp [results]⟩
  · rw [unspooled] at spooled
    cases spooled

/-- Records are appended to those in store, in memory or in the file. -/
theorem Stores.appendJobResults (stores : Stores stored job files)
    (allowed : SpillsAllowed manager job) (bars : job.jobType = .bars) (path : String)
    (records : List Record) :
    Stores (stored ++ records) (manager.appendJobResults path records job files).1
        (manager.appendJobResults path records job files).2 ∧
      SpillsAllowed manager (manager.appendJobResults path records job files).1 := by
  unfold BulkJobManager.appendJobResults
  split_ifs with none_ memory full
  · subst none_
    rw [List.append_nil]
    exact ⟨stores, allowed⟩
  · have unspooled : job.resultsSpoolPath = none := by
      by_contra spooled
      simp [(allowed spooled).2] at memory
    exact ⟨stores.extend unspooled records, fun spooled => absurd unspooled spooled⟩
  · -- the records in memory open the file
    have spills : manager.spillResultsToDisk = true := by simpa using memory
    have results : job.results = stored := by
      rcases stores with ⟨-, results⟩ | ⟨path, spooled, -⟩
      · exact results
      · rw [full.1] at spooled
        cases spooled
    dsimp only
    refine ⟨.inr ⟨path, rfl, rfl, ?_, ?_⟩, fun _ => ⟨bars, spills⟩⟩
    · simp [Function.update_self, spoolText_append, results]
    · simp [none_]
  · have spills : manager.spillResultsToDisk = true := by simpa using memory
    dsimp only
    rcases stores with ⟨unspooled, results⟩ | ⟨spool, spooled, empty, file, some_⟩
    · simp only [unspooled]
      exact ⟨.inl ⟨rfl, by simp [results]⟩, fun spooled => absurd rfl spooled⟩
    · simp only [spooled]
      refine ⟨.inr ⟨spool, spooled, empty, ?_, ?_⟩, fun _ => ⟨bars, spills⟩⟩
      · simp [Function.update_self, file, spoolText_append]
      · simp [some_]

/-- The counter is left to the caller. -/
theorem recordsFetched_appendJobResults (manager : BulkJobManager) (path : String)
    (records : List Record) (job : BulkJob Record) (files : Files) :
    (manager.appendJobResults path records job files).1.recordsFetched = job.recordsFetched := by
  unfold BulkJobManager.appendJobResults
  split_ifs
  · rfl
  · rfl
  · rfl
  · dsimp only
    cases job.resultsSpoolPath <;> rfl

theorem recordsFetched_addFetched (manager : BulkJobManager) (path : String)
    (state : BulkJob Record × Files) (records : List Record) :
    (manager.addFetched path state records).1.recordsFetched =
      state.1.recordsFetched + records.length := by
  unfold BulkJobManager.addFetched
  cases state.1.jobType with
  | bars => exact congrArg (· + _) (recordsFetched_appendJobResults manager path records _ _)
  | options => rfl
  | adjustments => rfl

/-- One fetch adds its records to those in store. -/
theorem Stores.addFetched (stores : Stores stored job files) (allowed : SpillsAllowed manager job)
    (path : String) (records : List Record) :
    Stores (stored ++ records) (manager.addFetched path (job, files) records).1
        (manager.addFetched path (job, files) records).2 ∧
      SpillsAllowed manager (manager.addFetched path (job, files) records).1 := by
  by_cases bars : job.jobType = .bars
  · simpa [BulkJobManager.addFetched, bars, Stores, SpillsAllowed] using
      stores.appendJobResults allowed bars path records
  · have unspooled : job.resultsSpoolPath = none := by
      by_contra spooled
      exact bars (allowed spooled).1
    have kept := stores.extend unspooled records
    unfold BulkJobManager.addFetched
    cases kind : job.jobType with
    | bars => exact absurd kind bars
    | options =>
        exact ⟨by simpa [kind, Stores] using kept, by simp [SpillsAllowed, kind, unspooled]⟩
    | adjustments =>
        exact ⟨by simpa [kind, Stores] using kept, by simp [SpillsAllowed, kind, unspooled]⟩

/-- A completed job has all its records in store. -/
theorem stores_process (manager : BulkJobManager) (jobType : JobType) (path : String)
    (files : Files) (fetched : List (List Record)) :
    Stores fetched.flatten (manager.process jobType path files fetched).1
      (manager.process jobType path files fetched).2 := by
  have run : ∀ (state : BulkJob Record × Files) (stored : List Record),
      Stores stored state.1 state.2 → SpillsAllowed manager state.1 →
      Stores (stored ++ fetched.flatten) (fetched.foldl (manager.addFetched path) state).1
        (fetched.foldl (manager.addFetched path) state).2 := by
    induction fetched with
    | nil => exact fun _ stored stores _ => by simpa using stores
    | cons records fetched ih =>
        intro state stored stores allowed
        obtain ⟨stores, allowed⟩ := stores.addFetched allowed path records
        rw [List.flatten_cons, ← List.append_assoc]
        exact ih _ _ stores allowed
  exact run _ [] (.inl ⟨rfl, rfl⟩) fun spooled => absurd rfl spooled

/-- A completed job has counted all its records. -/
theorem recordsFetched_process (manager : BulkJobManager) (jobType : JobType) (path : String)
    (files : Files) (fetched : List (List Record)) :
    (manager.process jobType path files fetched).1.recordsFetched = fetched.flatten.length := by
  have run : ∀ state : BulkJob Record × Files,
      (fetched.foldl (manager.addFetched path) state).1.recordsFetched =
        state.1.recordsFetched + fetched.flatten.length := by
    induction fetched with
    | nil => exact fun _ => rfl
    | cons records fetched ih =>
        intro state
        rw [List.foldl_cons, ih, recordsFetched_addFetched, List.flatten_cons, List.length_append,
          Nat.add_assoc]
  exact (run _).trans (Nat.zero_add _)

/-- In a completed job the counter agrees with what is in store. -/
theorem countAgrees_process (manager : BulkJobManager) (jobType : JobType) (path : String)
    (files : Files) (fetched : List (List Record)) :
    CountAgrees (manager.process jobType path files fetched).1
      (manager.process jobType path files fetched).2 := by
  have count := recordsFetched_process manager jobType path files fetched
  rcases stores_process manager jobType path files fetched with
    ⟨unspooled, results⟩ | ⟨spool, spooled, empty, file, some_⟩
  · exact .inl ⟨unspooled, by rw [count, results]⟩
  · exact .inr ⟨spool, fetched.flatten, spooled, empty, file, count, some_⟩

end Bulk
end DataGateway
