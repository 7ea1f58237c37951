import DataGateway.Backfill.Counting
import Mathlib.Data.Finset.Card
import Mathlib.Data.Finset.Range

/-!
# Backfill accounting

Where every job begins its attempt without published records, a symbol has counted at most the
chunks whose tasks have counted, and the counters of every job agree in every state of every run.
-/

namespace DataGateway
namespace Backfill

open Coroutine Machine

section Invariant

variable [Manifests]

/-! ## The invariant -/

/-- The task of a chunk has begun to process it. -/
def AccountStage.Begun : AccountStage → Prop
  | .counting _ _ | .counted => True
  | _ => False

/-- The task has this chunk before it. -/
def AccountStage.Has (stage : AccountStage) (symbol id : String) : Prop :=
  stage = .entered (some (symbol, id)) ∨ stage = .counting symbol id

/-- The dates at which the chunk of a position was counted. -/
def countedDates (stages : EngineTask → AccountStage) (object position dates : Nat) : Finset Nat :=
  (Finset.range dates).filter fun date => (stages (.chunk object date position)).isCounted

omit [Manifests] in
theorem mem_countedDates {stages : EngineTask → AccountStage} {object position dates date : Nat} :
    date ∈ countedDates stages object position dates ↔
      date < dates ∧ (stages (.chunk object date position)).isCounted = true := by
  rw [countedDates, Finset.mem_filter, Finset.mem_range]

/-- What holds of the accounts of a job that may run. -/
structure Runnable (stages : EngineTask → AccountStage) (object : Nat) (accounts : JobAccounts) :
    Prop where
  apart : (chunkIds accounts.jobId accounts.request).Nodup
  zero : ∀ date position symbol id,
    placeOf accounts.jobId accounts.request date position = some (symbol, id) →
    (stages (.chunk object date position)).isCounted = false → accounts.chunks.get? id = some 0
  complete : ∀ position symbol account, accounts.request.symbols[position]? = some symbol →
    accounts.symbols.get? symbol = some account →
    account.complete ≤ (countedDates stages object position accounts.request.ranges.length).card

/-- The job of an object may run, or runs. -/
inductive Runs (stages : EngineTask → AccountStage) (object : Nat) (held : JobObject) : Prop
  | started (task : held.task = some .run)
  | spawned (open_ : held.open_ ≠ [])
  | made (task : EngineTask) (make : DateTime → BackfillJob) (made : stages task = .made object
    make)
      (queued : ∀ now, (make now).status = .queued)
  | running (stage : stages (.job object) = .running)
  | entered (date position : Nat) (stage : stages (.chunk object date position) ≠ .idle)

/-- What holds of a job object. -/
structure ObjectKept (stages : EngineTask → AccountStage) (object : Nat) (held : JobObject) :
    Prop where
  balanced : held.job.accounts.Balanced
  runnable : Runs stages object held → Runnable stages object held.job.accounts
  place : ∀ date position symbol id, (stages (.chunk object date position)).Has symbol id →
    placeOf held.job.jobId held.job.request date position = some (symbol, id)
  processed : held.processed.Nodup
  begun : ∀ id ∈ held.processed, ∃ date position symbol,
    placeOf held.job.jobId held.job.request date position = some (symbol, id) ∧
      (stages (.chunk object date position)).Begun

/-- Nothing has happened to an object yet. -/
structure Untouched (stages : EngineTask → AccountStage) (object : Nat) : Prop where
  made : ∀ task make, stages task ≠ .made object make
  running : stages (.job object) ≠ .running
  chunks : ∀ date position, stages (.chunk object date position) = .idle

/-- What holds of the world and the stages of the tasks. -/
structure BooksKept (world : EngineWorld) (stages : EngineTask → AccountStage) : Prop where
  store : ∀ id job, world.store.get? id = some job → job.accounts.Balanced
  objects : ∀ object held, world.objects[object]? = some held → ObjectKept stages object held
  fresh : ∀ object, world.objects.length ≤ object → Untouched stages object

variable {stages stages' : EngineTask → AccountStage} {object : Nat} {held held' : JobObject}

/-! ## What keeps it -/

theorem Runnable.congr {accounts : JobAccounts} (runnable : Runnable stages object accounts)
    (same : ∀ date position, (stages' (.chunk object date position)).isCounted =
      (stages (.chunk object date position)).isCounted) : Runnable stages' object accounts := by
  refine ⟨runnable.apart, fun date position symbol id place idle => ?_, fun position symbol account
    named found => ?_⟩
  · exact runnable.zero date position symbol id place (same date position ▸ idle)
  · have dates : countedDates stages' object position accounts.request.ranges.length =
        countedDates stages object position accounts.request.ranges.length := by
      simp only [countedDates, same]
    rw [dates]
    exact runnable.complete position symbol account named found

/-- An object that counts what it counted, under stages that say of its chunks what they said. -/
theorem ObjectKept.congr (kept : ObjectKept stages object held)
    (accounts : held'.job.accounts = held.job.accounts) (processed : held'.processed =
      held.processed)
    (same : ∀ date position, stages' (.chunk object date position) =
      stages (.chunk object date position))
    (runs : Runs stages' object held' → Runnable stages object held.job.accounts) :
    ObjectKept stages' object held' := by
  have jobId : held'.job.jobId = held.job.jobId := congrArg JobAccounts.jobId accounts
  have request : held'.job.request = held.job.request := congrArg JobAccounts.request accounts
  refine ⟨accounts ▸ kept.balanced, fun run => ?_, fun date position symbol id has => ?_,
    processed ▸ kept.processed, fun id mem => ?_⟩
  · rw [accounts]
    exact (runs run).congr fun date position => by rw [same]
  · rw [same] at has
    rw [jobId, request]
    exact kept.place date position symbol id has
  · rw [processed] at mem
    obtain ⟨date, position, symbol, place, begun⟩ := kept.begun id mem
    exact ⟨date, position, symbol, by rw [jobId, request, place], by rwa [same]⟩

omit [Manifests] in
/-- What may run after a step may run before it, if the step starts nothing else. -/
theorem Runs.before (runs : Runs stages' object held')
    (started : held'.task = some .run → Runs stages object held)
    (open_ : held'.open_ ≠ [] → held.open_ ≠ [])
    (made : ∀ task make, stages' task = .made object make → stages task = .made object make)
    (running : stages' (.job object) = .running → Runs stages object held)
    (chunks : ∀ date position, stages' (.chunk object date position) =
      stages (.chunk object date position)) : Runs stages object held := by
  cases runs with
  | started task => exact started task
  | spawned spawned => exact .spawned (open_ spawned)
  | made task make here queued => exact .made task make (made task make here) queued
  | running stage => exact running stage
  | entered date position stage => exact .entered date position (by rwa [chunks] at stage)

omit [Manifests] in
theorem Runs.of_same (task : held'.task = held.task) (open_ : held'.open_ ≠ [] → held.open_ ≠ [])
    (runs : Runs stages object held') : Runs stages object held :=
  runs.before (fun started => .started (task ▸ started)) open_ (fun _ _ made => made) .running
    fun _ _ => rfl

namespace BooksKept

variable {world after : EngineWorld}

/-- The objects and the store are as they were. -/
theorem still (kept : BooksKept world stages) (objects : after.objects = world.objects)
    (store : after.store = world.store) : BooksKept after stages :=
  ⟨store ▸ kept.store, objects ▸ kept.objects, objects ▸ kept.fresh⟩

/-- A balanced job is saved. -/
theorem saved (kept : BooksKept world stages) {payload : BackfillJob}
    (balanced : payload.accounts.Balanced)
    {id : String} : BooksKept { world with store := world.store.set id payload } stages := by
  refine ⟨fun other job found => ?_, kept.objects, kept.fresh⟩
  change (world.store.set id payload).get? other = some job at found
  rw [OrderedDict.get?_set] at found
  split at found
  · exact Option.some.inj found ▸ balanced
  · exact kept.store other job found

/-- One object is changed. -/
theorem changed (kept : BooksKept world stages) {by_ : JobObject → JobObject}
    (objects : after.objects = world.objects.modify object by_) (store : after.store = world.store)
    (each : ∀ held, world.objects[object]? = some held → ObjectKept stages object held →
      ObjectKept stages object (by_ held)) : BooksKept after stages := by
  refine ⟨store ▸ kept.store, fun other held found => ?_, fun other beyond => ?_⟩
  · rw [objects, List.getElem?_modify] at found
    obtain ⟨old, here, rfl⟩ := Option.map_eq_some_iff.mp found
    have holds := kept.objects other old here
    split
    next same =>
      subst same
      exact each old here holds
    · exact holds
  · rw [objects, List.length_modify] at beyond
    exact kept.fresh other beyond

/-- One object is changed in nothing that counts. -/
theorem touched (kept : BooksKept world stages) {by_ : JobObject → JobObject}
    (objects : after.objects = world.objects.modify object by_) (store : after.store = world.store)
    (accounts : ∀ held, (by_ held).job.accounts = held.job.accounts)
    (processed : ∀ held, (by_ held).processed = held.processed) (task : ∀ held, (by_ held).task =
      held.task)
    (open_ : ∀ held, (by_ held).open_ ≠ [] → held.open_ ≠ []) : BooksKept after stages :=
  kept.changed objects store fun held _ holds => holds.congr (accounts held) (processed held)
    (fun _ _ => rfl) fun runs => holds.runnable (runs.of_same (task held) (open_ held))

/-- The stage of a task that is no chunk's is another one. -/
theorem restaged (kept : BooksKept world stages) {task : EngineTask} {stage : AccountStage}
    (noChunk : ∀ object date position, task ≠ .chunk object date position)
    (runs : ∀ object held, world.objects[object]? = some held →
      Runs (Function.update stages task stage) object held → Runnable stages object
        held.job.accounts)
    (made : ∀ object make, world.objects.length ≤ object → stage ≠ .made object make)
    (running : ∀ object, world.objects.length ≤ object → task = .job object →
      stage ≠ .running) :
    BooksKept world (Function.update stages task stage) := by
  have same (object date position : Nat) : Function.update stages task stage
    (.chunk object date position) =
      stages (.chunk object date position) :=
    Function.update_of_ne (Ne.symm (noChunk object date position)) _ _
  refine ⟨kept.store, fun object held found => (kept.objects object held found).congr rfl rfl
    (same object) (runs object held found), fun object beyond => ?_⟩
  have fresh := kept.fresh object beyond
  refine ⟨fun other make => ?_, ?_, fun date position => (same object date position).trans
    (fresh.chunks date position)⟩
  · rw [Function.update_apply]
    split
    · exact made object make beyond
    · exact fresh.made other make
  · rw [Function.update_apply]
    split
    next here => exact running object beyond here.symm
    · exact fresh.running

/-- A new object. -/
theorem adopted (kept : BooksKept world stages) {task : EngineTask} {make : DateTime → BackfillJob}
    {now : DateTime} {epoch : Nat} (client : task.Client) (begins : (make now).Begins)
    (clean : (make now).Clean) (apart : (chunkIds (make now).jobId (make now).request).Nodup)
    (objects : after.objects = world.objects ++ [.new (make now) epoch]) (store : after.store =
      world.store) :
    BooksKept after (Function.update stages task (.made world.objects.length make)) := by
  have noChunk (object date position : Nat) : EngineTask.chunk object date position ≠ task := by
    rintro rfl
    exact client
  have noJob (object : Nat) : EngineTask.job object ≠ task := by
    rintro rfl
    exact client
  have same (object date position : Nat) :
      Function.update stages task (.made world.objects.length make) (.chunk object date position) =
        stages (.chunk object date position) := Function.update_of_ne (noChunk object date position)
          _ _
  have older {object : Nat} {held : JobObject} (before : object ≠ world.objects.length)
      (runs : Runs (Function.update stages task (.made world.objects.length make)) object held) :
      Runs stages object held := by
    refine runs.before .started id (fun other make made => ?_) (fun stage => ?_) (same object)
    · rw [Function.update_apply] at made
      split at made
      · cases made
        exact absurd rfl before
      · exact made
    · rw [Function.update_of_ne (noJob object)] at stage
      exact .running stage
  have fresh := kept.fresh world.objects.length (Nat.le_refl _)
  refine ⟨store ▸ kept.store, fun object held found => ?_, fun object beyond => ?_⟩
  · rw [objects, List.getElem?_append] at found
    split at found
    next inside =>
      have holds := kept.objects object held found
      exact holds.congr rfl rfl (same object) fun runs => holds.runnable
        (older (Nat.ne_of_lt inside) runs)
    next outside =>
      obtain ⟨last, rfl⟩ := List.getElem?_eq_some_iff.mp found
      have here : object = world.objects.length := by
        have := last
        simp only [List.length_singleton] at this
        omega
      subst here
      simp only [Nat.sub_self, List.getElem_cons_zero]
      refine ⟨begins.balanced clean, fun runs => ?_, fun date position symbol id has => ?_, .nil,
        fun id mem => nomatch mem⟩
      · have queued : (make now).status = .queued := by
          cases runs with
          | started started => cases started
          | spawned spawned => exact absurd rfl spawned
          | made other make' made queued =>
              rw [Function.update_apply] at made
              split at made
              · cases made
                exact queued now
              · exact absurd made (fresh.made other make')
          | running stage =>
              rw [Function.update_of_ne (noJob _)] at stage
              exact absurd stage fresh.running
          | entered date position stage =>
              rw [same, fresh.chunks] at stage
              exact absurd rfl stage
        have uncounted := begins.uncounted clean queued
        have balanced := begins.balanced clean
        refine ⟨apart, fun date position symbol id place _ => uncounted.chunks id ?_,
          fun position symbol account _ found => ?_⟩
        · have listed := balanced.cut id (mem_chunkIds.mpr ⟨date, position, symbol, place⟩)
          rwa [BackfillJob.accounts, OrderedDict.contains_mapValues] at listed
        · rw [uncounted.complete symbol account found]
          exact Int.natCast_nonneg _
      · rw [same, fresh.chunks] at has
        rcases has with entered | counting
        · cases entered
        · cases counting
  · have beyond : world.objects.length + 1 ≤ object := by
      rw [objects, List.length_append, List.length_singleton] at beyond
      exact beyond
    have untouched := kept.fresh object (by omega)
    refine ⟨fun other make' => ?_, ?_, fun date position => (same object date position).trans
      (untouched.chunks date position)⟩
    · rw [Function.update_apply]
      split
      · rintro ⟨⟩
        omega
      · exact untouched.made other make'
    · rw [Function.update_of_ne (noJob object)]
      exact untouched.running

/-- The stage of the task of a chunk is another one. -/
theorem rechunked (kept : BooksKept world stages) {date position : Nat} {stage : AccountStage}
    {by_ : JobObject → JobObject} (inside : object < world.objects.length)
    (noMade : ∀ other make, stage ≠ .made other make)
    (objects : after.objects = world.objects.modify object by_) (store : after.store = world.store)
    (own : ∀ held, world.objects[object]? = some held → ObjectKept stages object held →
      ObjectKept (Function.update stages (.chunk object date position) stage) object (by_ held)) :
    BooksKept after (Function.update stages (.chunk object date position) stage) := by
  have same {other : Nat} (apart : object ≠ other) (date' position' : Nat) :
      Function.update stages (.chunk object date position) stage (.chunk other date' position') =
        stages (.chunk other date' position') :=
    Function.update_of_ne (by rintro ⟨⟩; exact apart rfl) _ _
  have made {task : EngineTask} {other : Nat} {make : DateTime → BackfillJob}
      (found : Function.update stages (.chunk object date position) stage task = .made other make) :
      stages task = .made other make := by
    rw [Function.update_apply] at found
    split at found
    · exact absurd found (noMade other make)
    · exact found
  refine ⟨store ▸ kept.store, fun other held found => ?_, fun other beyond => ?_⟩
  · rw [objects, List.getElem?_modify] at found
    obtain ⟨old, here, rfl⟩ := Option.map_eq_some_iff.mp found
    have holds := kept.objects other old here
    split
    next here' =>
      subst here'
      exact own old here holds
    next apart =>
      refine holds.congr rfl rfl (same apart) fun runs => holds.runnable ?_
      refine runs.before .started id (fun _ _ => made) (fun stage => ?_) (same apart)
      rw [Function.update_of_ne (by rintro ⟨⟩)] at stage
      exact .running stage
  · rw [objects, List.length_modify] at beyond
    have fresh := kept.fresh other beyond
    refine ⟨fun task make found => fresh.made task make (made found), ?_, fun date' position' => ?_⟩
    · rw [Function.update_of_ne (by rintro ⟨⟩)]
      exact fresh.running
    · rw [same (by omega), fresh.chunks]

end BooksKept

/-! ## The chunks of an object -/

namespace ObjectKept

variable {date position : Nat} {symbol id : String}

omit [Manifests] in
/-- Where a stage was updated, or was not. -/
theorem update_cases (stages : EngineTask → AccountStage) (object date position : Nat)
    (stage : AccountStage)
    (date' position' : Nat) :
    (date' = date ∧ position' = position ∧
      Function.update stages (.chunk object date position) stage (.chunk object date' position') =
        stage) ∨
    Function.update stages (.chunk object date position) stage (.chunk object date' position') =
      stages (.chunk object date' position') := by
  by_cases here : date' = date ∧ position' = position
  · obtain ⟨rfl, rfl⟩ := here
    exact .inl ⟨rfl, rfl, Function.update_self _ _ _⟩
  · exact .inr (Function.update_of_ne (by rintro ⟨⟩; exact here ⟨rfl, rfl⟩) _ _)

/-- A chunk has its turn. -/
theorem entered (kept : ObjectKept stages object held)
    (idle : stages (.chunk object date position) = .idle)
    (runnable : Runnable stages object held.job.accounts) (job : held'.job = held.job)
    (processed : held'.processed = held.processed) {place : Option (String × String)}
    (placed : ∀ symbol id, place = some (symbol, id) →
      placeOf held.job.jobId held.job.request date position = some (symbol, id)) :
    ObjectKept (Function.update stages (.chunk object date position) (.entered place)) object
      held' := by
  refine ⟨job ▸ kept.balanced, fun _ => ?_, fun date' position' symbol id has => ?_,
    processed ▸ kept.processed, fun id mem => ?_⟩
  · rw [job]
    refine runnable.congr fun date' position' => ?_
    rcases update_cases stages object date position (.entered place) date' position' with
      ⟨rfl, rfl, updated⟩ | same
    · rw [updated, idle]
      rfl
    · rw [same]
  · rw [job]
    rcases update_cases stages object date position (.entered place) date' position' with
      ⟨rfl, rfl, updated⟩ | same
    · rw [updated] at has
      rcases has with entered | counting
      · cases entered
        exact placed symbol id rfl
      · cases counting
    · rw [same] at has
      exact kept.place date' position' symbol id has
  · rw [processed] at mem
    obtain ⟨date', position', symbol, place', begun⟩ := kept.begun id mem
    refine ⟨date', position', symbol, by rw [job, place'], ?_⟩
    rcases update_cases stages object date position (.entered place) date' position' with
      ⟨rfl, rfl, updated⟩ | same
    · rw [idle] at begun
      exact begun.elim
    · rwa [same]

/-- The processing of a chunk begins. -/
theorem begins (kept : ObjectKept stages object held)
    (entered : stages (.chunk object date position) = .entered (some (symbol, id)))
    (job : held'.job = held.job) (processed : held'.processed = id :: held.processed) :
    ObjectKept (Function.update stages (.chunk object date position) (.counting symbol id)) object
      held' := by
  have place := kept.place date position symbol id (.inl entered)
  have runnable := kept.runnable (.entered date position (by rw [entered]; rintro ⟨⟩))
  refine ⟨job ▸ kept.balanced, fun _ => ?_, fun date' position' symbol' id' has => ?_, ?_,
    fun id' mem => ?_⟩
  · rw [job]
    refine runnable.congr fun date' position' => ?_
    rcases update_cases stages object date position (.counting symbol id) date' position' with
      ⟨rfl, rfl, updated⟩ | same
    · rw [updated, entered]
      rfl
    · rw [same]
  · rw [job]
    rcases update_cases stages object date position (.counting symbol id) date' position' with
      ⟨rfl, rfl, updated⟩ | same
    · rw [updated] at has
      rcases has with entered | counting
      · cases entered
      · cases counting
        exact place
    · rw [same] at has
      exact kept.place date' position' symbol' id' has
  · rw [processed]
    refine List.nodup_cons.mpr ⟨fun mem => ?_, kept.processed⟩
    obtain ⟨date', position', symbol', place', begun⟩ := kept.begun id mem
    obtain ⟨rfl, rfl⟩ := place_unique runnable.apart place place'
    rw [entered] at begun
    exact begun.elim
  · rw [processed] at mem
    rcases List.mem_cons.mp mem with rfl | mem
    · refine ⟨date, position, symbol, by rw [job, place], ?_⟩
      rw [Function.update_self]
      trivial
    · obtain ⟨date', position', symbol', place', begun⟩ := kept.begun id' mem
      refine ⟨date', position', symbol', by rw [job, place'], ?_⟩
      rcases update_cases stages object date position (.counting symbol id) date' position' with
        ⟨-, -, updated⟩ | same
      · rw [updated]
        trivial
      · rwa [same]

/-- A chunk is counted. -/
theorem counts {records : Int} (kept : ObjectKept stages object held)
    (counting : stages (.chunk object date position) = .counting symbol id)
    (accounts : held'.job.accounts = held.job.accounts.count symbol id records)
    (processed : held'.processed = held.processed) :
    ObjectKept (Function.update stages (.chunk object date position) .counted) object held' := by
  have place := kept.place date position symbol id (.inr counting)
  obtain ⟨range, named, ranged, same⟩ := placeOf_eq_some.mp place
  have runnable := kept.runnable (.entered date position (by rw [counting]; rintro ⟨⟩))
  have zero := runnable.zero date position symbol id place (by rw [counting]; rfl)
  have listed := kept.balanced.listed symbol (List.mem_of_getElem? named)
  have outside : date ∉ countedDates stages object position held.job.request.ranges.length := by
    rw [mem_countedDates, counting]
    rintro ⟨-, ⟨⟩⟩
  have within : date < held.job.request.ranges.length := (List.getElem?_eq_some_iff.mp ranged).1
  have more : insert date (countedDates stages object position held.job.request.ranges.length) =
      countedDates (Function.update stages (.chunk object date position) .counted) object position
        held.job.request.ranges.length := by
    ext date'
    rw [Finset.mem_insert, mem_countedDates, mem_countedDates]
    by_cases here : date' = date
    · subst here
      simp [AccountStage.isCounted, within]
    · rw [Function.update_of_ne (by rintro ⟨⟩; exact here rfl)]
      simp [here]
  have left (account : SymbolAccount) (found : held.job.accounts.symbols.get? symbol =
    some account) :
      account.complete + 1 ≤ (countedDates (Function.update stages (.chunk object date position)
        .counted)
        object position held.job.request.ranges.length).card := by
    have complete := runnable.complete position symbol account named found
    rw [← more, Finset.card_insert_of_notMem outside]
    change account.complete ≤ (countedDates stages object position
      held.job.request.ranges.length).card
      at complete
    push_cast
    omega
  have bounded (dates : Nat) (stages : EngineTask → AccountStage) :
      (countedDates stages object position dates).card ≤ dates :=
    (Finset.card_filter_le _ _).trans (Finset.card_range dates).le
  have jobId : held'.job.jobId = held.job.jobId := congrArg JobAccounts.jobId accounts
  have request : held'.job.request = held.job.request := congrArg JobAccounts.request accounts
  refine ⟨?_, fun _ => ?_, fun date' position' symbol' id' has => ?_, processed ▸ kept.processed,
    fun id' mem => ?_⟩
  · rw [accounts]
    refine kept.balanced.count zero listed fun account found => ?_
    have total := kept.balanced.totals symbol account found
    have := left account found
    have := bounded held.job.request.ranges.length
      (Function.update stages (.chunk object date position) .counted)
    change account.total = (held.job.request.ranges.length : Int) at total
    omega
  · rw [accounts]
    refine ⟨runnable.apart, fun date' position' symbol' id' place' idle => ?_,
      fun position' symbol' account named' found => ?_⟩
    · rcases update_cases stages object date position .counted date' position' with
      ⟨rfl, rfl, updated⟩ | same'
      · rw [updated] at idle
        cases idle
      · rw [same'] at idle
        have old := runnable.zero date' position' symbol' id' place' idle
        rw [JobAccounts.count, OrderedDict.get?_modify, if_neg, old]
        rintro rfl
        obtain ⟨rfl, rfl⟩ := place_unique runnable.apart place place'
        rw [Function.update_self, counting] at same'
        cases same'
    · rw [JobAccounts.count, OrderedDict.get?_modify] at found
      split at found
      next here =>
        subst here
        have place' : placeOf held.job.jobId held.job.request date position' = some (symbol', id) :=
          placeOf_eq_some.mpr ⟨range, named', ranged, same⟩
        obtain ⟨-, rfl⟩ := place_unique runnable.apart place place'
        obtain ⟨old, held, rfl⟩ := Option.map_eq_some_iff.mp found
        exact left old held
      next apart =>
        have others : position' ≠ position := by
          rintro rfl
          exact apart (Option.some.inj (named'.symm.trans named))
        have dates : countedDates (Function.update stages (.chunk object date position) .counted)
          object
            position' held.job.request.ranges.length =
            countedDates stages object position' held.job.request.ranges.length := by
          refine Finset.filter_congr fun date' _ => ?_
          rw [Function.update_of_ne (by rintro ⟨⟩; exact others rfl)]
        change account.complete ≤ (countedDates _ object position'
          held.job.request.ranges.length).card
        rw [dates]
        exact runnable.complete position' symbol' account named' found
  · rw [jobId, request]
    rcases update_cases stages object date position .counted date' position' with
      ⟨rfl, rfl, updated⟩ | same'
    · rw [updated] at has
      rcases has with entered | counting
      · cases entered
      · cases counting
    · rw [same'] at has
      exact kept.place date' position' symbol' id' has
  · rw [processed] at mem
    obtain ⟨date', position', symbol', place', begun⟩ := kept.begun id' mem
    refine ⟨date', position', symbol', by rw [jobId, request, place'], ?_⟩
    rcases update_cases stages object date position .counted date' position' with ⟨-, -, updated⟩ |
      same'
    · rw [updated]
      trivial
    · rwa [same']

end ObjectKept

end Invariant

end Backfill
end DataGateway
