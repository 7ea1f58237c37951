import DataGateway.Bulk.Results
import DataGateway.Coroutine.Stepping

/-!
# Bulk jobs

A job is filled by a background task that starts a fetch for each symbol, lets ten of them run at a
time and stores what each of them returns.  A job may be cancelled at any point, which ends the
background task but not the fetches.  Jobs that have ended are forgotten after an hour.  A step is
what one task does between two points at which it waits.
-/

namespace DataGateway
namespace Bulk

/-! ## Requests -/

/-- The three requests; the dates of bars are left to the provider. -/
inductive BulkRequest
  /-- `BulkBarsRequest`. -/
  | bars (symbols : List String)
  /-- `BulkOptionsRequest`, with the two bounds of `expiration_range`. -/
  | options (underlyings : List String) (date : String) (minDte maxDte : Option Int)
  /-- `BulkAdjustmentFactorsRequest`. -/
  | adjustments (symbols : List String) (start : String) (end_ : Option String)
  deriving DecidableEq, Repr

namespace BulkRequest

/-- What is fetched one by one. -/
def symbols : BulkRequest → List String
  | .bars symbols => symbols
  | .options underlyings _ _ _ => underlyings
  | .adjustments symbols _ _ => symbols

/-- `job_type`. -/
def jobType : BulkRequest → JobType
  | .bars _ => .bars
  | .options _ _ _ _ => .options
  | .adjustments _ _ _ => .adjustments

end BulkRequest

/-- How a background task gets past the dates of its request. -/
inductive Beginning
  | ready
  /-- The job fails with a message. -/
  | refused (message : String)
  /-- `date + timedelta(...)` raises `OverflowError`, which nothing catches. -/
  | crashed
  deriving DecidableEq, Repr

/-- `as_of_date + timedelta(days=...)` stays on the calendar. -/
def OnCalendar (asOf : Int) (days : Option Int) : Prop :=
  ∀ bound ∈ days, bound ≤ 999999999 ∧ 1 ≤ asOf + bound ∧ asOf + bound ≤ 3652059

instance (asOf : Int) (days : Option Int) : Decidable (OnCalendar asOf days) :=
  inferInstanceAs (Decidable (∀ bound ∈ days, _))

/-- The dates of a request, up to the first fetch; `fromisoformat` gives the ordinal of a date. -/
def BulkRequest.beginning (fromisoformat : String → Option Int) (today : Int) :
    BulkRequest → Beginning
  | .bars _ => .ready
  | .options _ date minDte maxDte =>
      match fromisoformat date with
      | none => .refused ("Invalid date: " ++ date)
      | some asOf => if OnCalendar asOf minDte ∧ OnCalendar asOf maxDte then .ready else .crashed
  | .adjustments _ start end_ =>
      match fromisoformat start with
      | none => .refused ("Invalid start date: " ++ start)
      | some startDate =>
          let text := end_.getD ""
          match if text = "" then some today else fromisoformat text with
          | none => .refused ("Invalid end date: " ++ text)
          | some endDate =>
              if endDate < startDate then .refused "end date must be after start date" else .ready

/-! ## Jobs and their tasks -/

/-- `BulkJob`, with the fields that its progress depends on. -/
structure Job (Record : Type) extends BulkJob Record where
  clientId : String
  symbolsTotal : Nat
  symbolsComplete : Nat
  createdAt : Nat
  startedAt : Option Nat
  completedAt : Option Nat
  error : Option String
  deriving DecidableEq

/-- What has become of the task that fetches for one symbol. -/
inductive Fetch (Record : Type)
  | created
  /-- It waits for the semaphore. -/
  | queued
  /-- It holds the semaphore while the provider answers. -/
  | fetching
  /-- It has returned records, or `None`. -/
  | ended (records : Option (List Record))
  deriving DecidableEq

/-- Where a background task stands. -/
inductive Background (Record : Type)
  | created
  /-- It waits for the next fetch that ends. -/
  | collecting
  /-- The contracts of a fetch are filtered in a thread. -/
  | filtering (contracts : List Record)
  | done
  deriving DecidableEq

/-- The task has ended. -/
def Background.isDone {Record : Type} : Background Record → Bool
  | .done => true
  | _ => false

/-- A job with its request and its tasks. -/
structure Entry (Record : Type) where
  job : Job Record
  request : BulkRequest
  fetches : List (Fetch Record)
  /-- Fetches that have ended and were not collected yet, the first one first. -/
  finished : List Nat
  /-- Fetches that were collected, the first one first. -/
  collected : List Nat
  background : Background Record
  /-- `_task.cancel()` was called. -/
  cancelled : Bool

/-- How a write to the spool file ends. -/
inductive Disk
  | written
  /-- The file that is to be the spool raises, and may be left behind. -/
  | refuses (error : String) (left : Option (List Char))
  /-- The spool raises, and holds some of the text. -/
  | breaks (error : String) (left : List Char)
  deriving DecidableEq

/-- What happens to a job next. -/
inductive JobAction (Record : Type)
  /-- The background task begins. -/
  | begins (today : Int)
  /-- A fetch begins. -/
  | fetchBegins (i : Nat)
  /-- A fetch gets the semaphore. -/
  | fetchWakes (i : Nat)
  /-- The provider answers a fetch, or raises. -/
  | answers (i : Nat) (records : Option (List Record))
  /-- The background task takes the next fetch, and may open a spool file. -/
  | collects (path : String) (disk : Disk)
  /-- The contracts are filtered. -/
  | filtered
  /-- The background task finds that it was cancelled. -/
  | stops

section Steps

variable {Record : Type} [JsonLines Record]
variable (fromisoformat : String → Option Int)
variable (filterOptionContracts : BulkRequest → List Record → Except String (List Record))

/-- `_max_concurrency`. -/
def maxConcurrency : Nat := 10

/-- `create_bars_job` and its siblings: the job before its task begins. -/
def Entry.new (request : BulkRequest) (clientId : String) (now : Nat) : Entry Record where
  job :=
    { jobType := request.jobType, status := .pending, recordsFetched := 0, results := []
      resultsSpoolPath := none, clientId := clientId, symbolsTotal := request.symbols.length
      symbolsComplete := 0, createdAt := now, startedAt := none, completedAt :=
        none, error := none }
  request := request
  fetches := []
  finished := []
  collected := []
  background := .created
  cancelled := false

namespace Entry

/-- How many fetches hold the semaphore. -/
def running (entry : Entry Record) : Nat :=
  entry.fetches.countP fun fetch => match fetch with
    | .fetching => true
    | _ => false

/-- Some fetch waits for the semaphore. -/
def someQueued (entry : Entry Record) : Bool :=
  entry.fetches.any fun fetch => match fetch with
    | .queued => true
    | _ => false

/-- The job has failed. -/
def fail (entry : Entry Record) (message : String) (now : Nat) : Entry Record :=
  { entry with
    job := { entry.job with status := .failed, error := some message, completedAt := some now }
    background := .done }

/-- The end of the loop over the fetches. -/
def finish (entry : Entry Record) (now : Nat) : Entry Record :=
  { entry with
    job := if entry.job.status = .running then
        { entry.job with status := .complete, completedAt := some now }
      else entry.job
    background := .done }

/-- The end of one turn of the loop, and of the loop when every fetch was collected. -/
def advance (entry : Entry Record) (now : Nat) : Entry Record :=
  let entry := { entry with
    job := { entry.job with symbolsComplete := entry.job.symbolsComplete + 1 }
    background := .collecting }
  if entry.collected.length = entry.fetches.length then entry.finish now else entry

/-- The job runs. -/
def start (entry : Entry Record) (now : Nat) : Entry Record :=
  { entry with job := { entry.job with status := .running, startedAt := some now } }

/-- The tasks for all symbols are created. -/
def spawn (entry : Entry Record) : Entry Record :=
  { entry with
    fetches := List.replicate entry.request.symbols.length .created
    background := .collecting }

/-- A background task begins. -/
def begins (entry : Entry Record) (today : Int) (now : Nat) : Option (Entry Record) :=
  match entry.background with
  | .created =>
      if entry.cancelled then none
      else
        match entry.request.beginning fromisoformat today with
        | .refused message => some ((entry.start now).fail message now)
        | .crashed => some { entry.start now with background := .done }
        | .ready =>
            if entry.request.symbols = [] then some ((entry.start now).spawn.finish now)
            else some (entry.start now).spawn
  | _ => none

/-- The cancelled background task ends. -/
def stops (entry : Entry Record) : Option (Entry Record) :=
  if entry.cancelled ∧ entry.background.isDone = false then some { entry with background := .done }
  else none

/-- A fetch ends. -/
def fetchEnds (entry : Entry Record) (i : Nat) (records : Option (List Record)) : Entry Record :=
  { entry with
    fetches := entry.fetches.set i (.ended records)
    finished := entry.finished ++ [i] }

/-- `_fetch_symbol` begins: a failed job needs nothing any more. -/
def fetchBegins (entry : Entry Record) (i : Nat) : Option (Entry Record) :=
  match entry.fetches[i]? with
  | some .created =>
      some (if entry.job.status = .failed then entry.fetchEnds i none
        else if entry.running < maxConcurrency ∧ entry.someQueued = false then
          { entry with fetches := entry.fetches.set i .fetching }
        else { entry with fetches := entry.fetches.set i .queued })
  | _ => none

/-- A fetch gets the semaphore. -/
def fetchWakes (entry : Entry Record) (i : Nat) : Option (Entry Record) :=
  match entry.fetches[i]? with
  | some .queued =>
      if entry.running < maxConcurrency then
        some { entry with fetches := entry.fetches.set i .fetching }
      else none
  | _ => none

/-- The provider answers, or raises. -/
def answers (entry : Entry Record) (i : Nat) (records : Option (List Record)) :
    Option (Entry Record) :=
  match entry.fetches[i]? with
  | some .fetching => some (entry.fetchEnds i records)
  | _ => none

/-- The records that a fetch has returned, if there are any. -/
def recordsOf (entry : Entry Record) (i : Nat) : List Record :=
  match entry.fetches[i]? with
  | some (.ended records) => records.getD []
  | _ => []

/-- `_append_job_results` writes to a file. -/
def spills (manager : BulkJobManager) (entry : Entry Record) (records : List Record) : Bool :=
  entry.job.jobType = .bars ∧ manager.spillResultsToDisk = true ∧
    (entry.job.resultsSpoolPath.isSome ∨
      manager.maxResultsInMemory < entry.job.results.length + records.length)

/-- The job has its file. -/
def opened (entry : Entry Record) (path : String) : Entry Record :=
  { entry with
    job := { entry.job with
      results := if entry.job.resultsSpoolPath = none then [] else entry.job.results
      resultsSpoolPath := some (entry.job.resultsSpoolPath.getD path) } }

/-- The next fetch that has ended. -/
def take (entry : Entry Record) (i : Nat) (rest : List Nat) : Entry Record :=
  { entry with finished := rest, collected := entry.collected ++ [i] }

/-- The background task stores the records of a fetch of bars or factors. -/
def stores (manager : BulkJobManager) (entry : Entry Record) (files : Files) (path : String)
    (records : List Record) : Entry Record × Files :=
  let (job, files) := manager.addFetched path (entry.job.toBulkJob, files) records
  ({ entry with job := { entry.job with toBulkJob := job } }, files)

/-- The background task stores the records of a fetch, as far as the disk lets it. -/
def receives (manager : BulkJobManager) (entry : Entry Record) (files : Files) (path : String)
    (records : List Record) (now : Nat) : Disk → Option (Entry Record × Files)
  | .written =>
      let (entry, files) := entry.stores manager files path records
      some (entry.advance now, files)
  | .refuses error left =>
      if entry.spills manager records ∧ entry.job.resultsSpoolPath = none then
        some (entry.fail error now, Function.update files path left)
      else none
  | .breaks error left =>
      if entry.spills manager records then
        some ((entry.opened path).fail error now,
          Function.update files (entry.job.resultsSpoolPath.getD path) (some left))
      else none

/-- The background task takes the next fetch that has ended. -/
def collects (manager : BulkJobManager) (entry : Entry Record) (files : Files) (path : String)
    (disk : Disk) (now : Nat) : Option (Entry Record × Files) :=
  match entry.background, entry.finished with
  | .collecting, i :: rest =>
      if entry.cancelled ∨ (files path).isSome then none
      else
        let entry := entry.take i rest
        let records := entry.recordsOf i
        if records = [] then some (entry.advance now, files)
        else if entry.job.jobType = .options then
          some ({ entry with background := .filtering records }, files)
        else entry.receives manager files path records now disk
  | _, _ => none

/-- Contracts are kept in memory. -/
def keep (entry : Entry Record) (records : List Record) : Entry Record :=
  { entry with
    job := { entry.job with
      results := entry.job.results ++ records
      recordsFetched := entry.job.recordsFetched + records.length } }

/-- The filtered contracts of a fetch are stored. -/
def filtered (entry : Entry Record) (now : Nat) : Option (Entry Record) :=
  match entry.background with
  | .filtering contracts =>
      if entry.cancelled then none
      else
        match filterOptionContracts entry.request contracts with
        | .error message => some (entry.fail message now)
        | .ok records =>
            some ((entry.keep records).advance now)
  | _ => none

/-- `cancel_job`. -/
def cancel (entry : Entry Record) : Entry Record :=
  if entry.job.status = .pending ∨ entry.job.status = .running then
    { entry with
      job := { entry.job with status := .failed, error := some "Cancelled by user" }
      cancelled := entry.cancelled || !entry.background.isDone }
  else entry

/-- A step of one of the tasks of a job. -/
def act (manager : BulkJobManager) (entry : Entry Record) (files : Files) (now : Nat) :
    JobAction Record → Option (Entry Record × Files)
  | .begins today => (entry.begins fromisoformat today now).map (·, files)
  | .fetchBegins i => (entry.fetchBegins i).map (·, files)
  | .fetchWakes i => (entry.fetchWakes i).map (·, files)
  | .answers i records => (entry.answers i records).map (·, files)
  | .collects path disk => entry.collects manager files path disk now
  | .filtered => (entry.filtered filterOptionContracts now).map (·, files)
  | .stops => entry.stops.map (·, files)

end Entry
end Steps

/-! ## The manager -/

/-- `MAX_JOBS`. -/
def maxJobs : Nat := 100

/-- `JOB_TTL_SECONDS`, in microseconds. -/
def jobTtl : Nat := 3600 * 1000000

/-- `BulkJobManager` with its files.  Every job has a number of its own. -/
structure BulkWorld (Record : Type) where
  manager : BulkJobManager
  clock : Nat
  /-- How many jobs were ever created. -/
  created : Nat
  entries : Nat → Option (Entry Record)
  /-- `_jobs`. -/
  jobs : List Nat
  files : Files

/-- What happens next. -/
inductive BulkAction (Record : Type)
  | create (request : BulkRequest) (clientId : String)
  | cancel (clientId : String) (number : Nat)
  | job (number : Nat) (action : JobAction Record)
  | tick (elapsed : Nat)

namespace BulkWorld

variable {Record : Type}

/-- The job has ended, an hour after it was created. -/
def expired (world : BulkWorld Record) (number : Nat) : Bool :=
  match world.entries number with
  | none => false
  | some entry => jobTtl < world.clock - entry.job.createdAt ∧
      (entry.job.status = .complete ∨ entry.job.status = .failed)

/-- The spool file of a job. -/
def spool (world : BulkWorld Record) (number : Nat) : Option String :=
  (world.entries number).bind fun entry => entry.job.resultsSpoolPath

/-- `_cleanup_expired_jobs`. -/
def cleanupExpiredJobs (world : BulkWorld Record) : BulkWorld Record :=
  { world with
    jobs := world.jobs.filter fun number => !world.expired number
    files := fun path =>
      if ∃ number ∈ world.jobs, world.expired number ∧ world.spool number = some path then none
      else world.files path }

/-- `create_bars_job` and its siblings. -/
def create (world : BulkWorld Record) (request : BulkRequest) (clientId : String) :
    BulkWorld Record :=
  let world := world.cleanupExpiredJobs
  if maxJobs ≤ world.jobs.length then world
  else
    { world with
      created := world.created + 1
      entries := Function.update world.entries world.created
        (some (Entry.new request clientId world.clock))
      jobs := world.jobs ++ [world.created] }

/-- The route for cancelling a job, which only finds jobs of the client. -/
def cancel (world : BulkWorld Record) (clientId : String) (number : Nat) : BulkWorld Record :=
  match world.entries number with
  | none => world
  | some entry =>
      if number ∈ world.jobs ∧ entry.job.clientId = clientId then
        { world with entries := Function.update world.entries number (some entry.cancel) }
      else world

variable [JsonLines Record]
variable (fromisoformat : String → Option Int)
variable (filterOptionContracts : BulkRequest → List Record → Except String (List Record))

/-- Take a step, if it is possible here. -/
def step (world : BulkWorld Record) : BulkAction Record → Option (BulkWorld Record)
  | .create request clientId => some (world.create request clientId)
  | .cancel clientId number => some (world.cancel clientId number)
  | .job number action =>
      (world.entries number).bind fun entry =>
        (entry.act fromisoformat filterOptionContracts world.manager world.files world.clock
            action).map fun (entry, files) =>
          { world with
            entries := Function.update world.entries number (some entry)
            files := files }
  | .tick elapsed => some { world with clock := world.clock + elapsed }

end BulkWorld

end Bulk
end DataGateway
