import DataGateway.Backfill.Engine
import Mathlib.Algebra.Order.Field.Rat
import Mathlib.Algebra.Order.Field.Basic

/-!
# The counters of a job

A job counts the records that it has published in three places: for itself, for every symbol and for
every chunk.  Its accounts are what it counts, and everything that is assigned to a job either
leaves them alone or counts one chunk.
-/

namespace DataGateway
namespace Backfill

/-! ## Accounts -/

/-- What is counted of a symbol. -/
structure SymbolAccount where
  total : Int
  complete : Int
  records : Int
  deriving DecidableEq

/-- What a job counts. -/
structure JobAccounts where
  jobId : String
  request : BackfillRequest
  records : Int
  symbols : OrderedDict String SymbolAccount
  chunks : OrderedDict String Int

/-- The counters of a symbol. -/
def SymbolProgress.account (progress : SymbolProgress) : SymbolAccount :=
  ⟨progress.chunksTotal, progress.chunksComplete, progress.recordsPublished⟩

/-- The counters of a job. -/
def BackfillJob.accounts (job : BackfillJob) : JobAccounts where
  jobId := job.jobId
  request := job.request
  records := job.recordsPublished
  symbols := job.symbolsProgress.mapValues SymbolProgress.account
  chunks := job.chunks.mapValues ChunkResult.recordsPublished

/-- `progress`, before it is rounded. -/
def BackfillJob.progress (job : BackfillJob) : ℚ :=
  if job.symbolsProgress.total SymbolProgress.chunksTotal = 0 then 0
  else (job.symbolsProgress.total SymbolProgress.chunksComplete : ℚ) /
    (job.symbolsProgress.total SymbolProgress.chunksTotal : ℚ)

section Places

variable [Manifests]

/-- The symbol and the chunk id of a place of a request: a date and a position among the symbols. -/
def placeOf (jobId : String) (request : BackfillRequest) (date position : Nat) :
    Option (String × String) :=
  match request.symbols[position]?, request.ranges[date]? with
  | some symbol, some range => some (symbol, chunkId jobId symbol range)
  | _, _ => none

/-- The ids of all chunks of a request. -/
def chunkIds (jobId : String) (request : BackfillRequest) : List String :=
  request.symbols.flatMap fun symbol => request.ranges.map (chunkId jobId symbol)

variable {jobId symbol id : String} {request : BackfillRequest} {date position : Nat}

theorem placeOf_eq_some : placeOf jobId request date position = some (symbol, id) ↔
    ∃ range, request.symbols[position]? = some symbol ∧ request.ranges[date]? = some range ∧
      chunkId jobId symbol range = id := by
  unfold placeOf
  split
  next named ranged =>
    rw [Option.some.injEq, Prod.mk.injEq]
    constructor
    · rintro ⟨rfl, rfl⟩
      exact ⟨_, named, ranged, rfl⟩
    · rintro ⟨range, named', ranged', rfl⟩
      obtain rfl := Option.some.inj (named.symm.trans named')
      obtain rfl := Option.some.inj (ranged.symm.trans ranged')
      exact ⟨rfl, rfl⟩
  next missing =>
    refine ⟨by rintro ⟨⟩, ?_⟩
    rintro ⟨range, named, ranged, -⟩
    exact absurd ranged (missing symbol range named)

theorem mem_chunkIds : id ∈ chunkIds jobId request ↔
    ∃ date position symbol, placeOf jobId request date position = some (symbol, id) := by
  simp only [chunkIds, List.mem_flatMap, List.mem_map, placeOf_eq_some]
  constructor
  · rintro ⟨symbol, named, range, ranged, same⟩
    obtain ⟨position, named⟩ := List.getElem?_of_mem named
    obtain ⟨date, ranged⟩ := List.getElem?_of_mem ranged
    exact ⟨date, position, symbol, range, named, ranged, same⟩
  · rintro ⟨date, position, symbol, range, named, ranged, same⟩
    exact ⟨symbol, List.mem_of_getElem? named, range, List.mem_of_getElem? ranged, same⟩

/-- Where no two chunks have one id, an id has one place. -/
theorem place_unique {date' position' : Nat} {symbol' : String}
    (apart : (chunkIds jobId request).Nodup)
    (here : placeOf jobId request date position = some (symbol, id))
    (there : placeOf jobId request date' position' = some (symbol', id)) :
    date = date' ∧ position = position' := by
  obtain ⟨range, named, ranged, same⟩ := placeOf_eq_some.mp here
  obtain ⟨range', named', ranged', same'⟩ := placeOf_eq_some.mp there
  obtain ⟨each, others⟩ := List.nodup_flatMap.mp apart
  have listed {symbol : String} {range : DateRange} {date : Nat} (ranged : request.ranges[date]? =
    some range) :
      (request.ranges.map (chunkId jobId symbol))[date]? = some (chunkId jobId symbol range) := by
    rw [List.getElem?_map, ranged]
    rfl
  have positions : position = position' := by
    by_contra apart
    obtain ⟨inside, rfl⟩ := List.getElem?_eq_some_iff.mp named
    obtain ⟨inside', rfl⟩ := List.getElem?_eq_some_iff.mp named'
    have disjoint {first second : Nat} (firstInside : first < request.symbols.length)
        (secondInside : second < request.symbols.length) (before : first < second) :=
      List.pairwise_iff_getElem.mp others first second firstInside secondInside before
    rcases Nat.lt_or_gt_of_ne apart with before | before
    · exact disjoint inside inside' before (same ▸ List.mem_of_getElem? (listed ranged))
        (same' ▸ List.mem_of_getElem? (listed ranged'))
    · exact disjoint inside' inside before (same' ▸ List.mem_of_getElem? (listed ranged'))
        (same ▸ List.mem_of_getElem? (listed ranged))
  subst positions
  obtain rfl := Option.some.inj (named.symm.trans named')
  have once := each symbol (List.mem_of_getElem? named)
  have first : (request.ranges.map (chunkId jobId symbol))[date]? = _ := listed ranged
  have second : (request.ranges.map (chunkId jobId symbol))[date']? = _ := listed ranged'
  rw [same] at first
  rw [same'] at second
  exact ⟨(List.getElem?_inj (List.getElem?_eq_some_iff.mp first).1 once).mp
    (first.trans second.symm), rfl⟩

end Places

/-! ## What leaves the accounts alone -/

/-- An assignment after which the job counts what it counted. -/
def Neutral (change : BackfillJob → BackfillJob) : Prop := ∀ job, (change job).accounts =
    job.accounts

namespace BackfillJob

variable {job : BackfillJob} {now : DateTime} {symbol chunkId message : String}

theorem accounts_restored [Manifests] : (job.restored now).accounts = job.accounts := by
  unfold restored
  split
  · split
    · split <;> rfl
    · rfl
    · rfl
    · split <;> rfl
    · rfl
  · rfl

theorem neutral_resumed : Neutral (resumed now) := by
  intro job
  unfold resumed
  split
  · split <;> rfl
  · rfl

theorem accounts_setSymbol {change : SymbolProgress → SymbolProgress}
    (same : ∀ progress, (change progress).account = progress.account) :
    (job.setSymbol symbol change).accounts = job.accounts := by
  simp only [accounts, setSymbol, OrderedDict.mapValues_modify_same _ _ same]

theorem accounts_setChunk {change : ChunkResult → ChunkResult}
    (same : ∀ chunk, (change chunk).recordsPublished = chunk.recordsPublished) :
    (job.setChunk chunkId change).accounts = job.accounts := by
  simp only [accounts, setChunk, OrderedDict.mapValues_modify_same _ _ same]

theorem neutral_foldl {ι : Type} {step : BackfillJob → ι → BackfillJob}
    (each : ∀ item, Neutral fun job => step job item) (items : List ι) :
      Neutral (items.foldl step) := by
  intro job
  induction items generalizing job with
  | nil => rfl
  | cons item items ih => exact (ih _).trans (each item job)

theorem neutral_markRunning : Neutral markRunning := fun job =>
  neutral_foldl (fun _ _ => accounts_setSymbol (by intro _; rfl)) job.request.symbols job

theorem neutral_noteUnhandled : Neutral (noteUnhandled symbol message) := fun job => by
  have same : ((job.noteError message).setSymbol symbol fun progress =>
      { progress with errors := progress.errors ++ [message] }).accounts =
      (job.noteError message).accounts := accounts_setSymbol fun _ => rfl
  exact same

theorem neutral_noteResults [Manifests] (request : BackfillRequest) (range : DateRange)
    (results : List (Nat × String)) : Neutral (noteResults request range results) := by
  refine neutral_foldl (fun result job => ?_) results
  dsimp only
  split
  · rfl
  · exact neutral_noteUnhandled _

theorem neutral_finalize : Neutral finalize := by
  intro job
  simp only [accounts, finalize, OrderedDict.mapValues_mapValues]
  congr 2
  funext progress
  simp only [Function.comp_apply]
  split <;> rfl

theorem neutral_noteAck (key : String) (acknowledgement : Option HeberChunkAcknowledgement) :
    Neutral (noteAck key acknowledgement) := by
  intro job
  unfold noteAck
  split
  · split
    · exact accounts_setChunk fun _ => rfl
    · rfl
  · rfl

theorem neutral_block (status : BackfillStatus) (reason : String) :
    Neutral (block status reason now) :=
  fun _ => rfl

theorem neutral_setRunning : Neutral (setRunning now) := fun _ => rfl

theorem neutral_setPublished : Neutral (setPublished now) := fun _ => rfl

theorem neutral_setVerified : Neutral (setVerified now) := fun _ => rfl

theorem neutral_noteError : Neutral (noteError message) := fun _ => rfl

theorem neutral_noteValidated (evidence : ChunkEvidence) :
    Neutral (noteValidated chunkId evidence) :=
  fun _ => accounts_setChunk fun _ => rfl

theorem neutral_notePublishing : Neutral (notePublishing chunkId now) :=
  fun _ => accounts_setChunk fun _ => rfl

end BackfillJob

theorem neutral_same : Neutral fun job => job := fun _ => rfl

/-! ## What counts a chunk -/

/-- One chunk more of a symbol, with so many records. -/
def JobAccounts.count (accounts : JobAccounts) (symbol chunkId : String) (records : Int) :
    JobAccounts where
  jobId := accounts.jobId
  request := accounts.request
  records := accounts.records + records
  symbols := accounts.symbols.modify symbol fun account =>
    ⟨account.total, account.complete + 1, account.records + records⟩
  chunks := accounts.chunks.modify chunkId fun _ => records

/-- The change leaves the accounts of a job alone, or counts the chunk. -/
def Counts (symbol chunkId : String) (change : BackfillJob → BackfillJob) (job : BackfillJob) :
    Prop :=
  (change job).accounts = job.accounts ∨
    ∃ records, (change job).accounts = job.accounts.count symbol chunkId records

namespace BackfillJob

variable {job : BackfillJob} {symbol chunkId : String}

/-- A chunk that was not counted yet is counted where it says how many records it has. -/
theorem accounts_countChunk {records : Int} (held : job.accounts.chunks.get? chunkId =
    some records) :
    (job.countChunk symbol records).accounts = job.accounts.count symbol chunkId records := by
  simp only [accounts, countChunk, setSymbol, JobAccounts.count]
  congr 1
  · exact OrderedDict.mapValues_modify _ _ fun _ => rfl
  · exact (OrderedDict.modify_held held rfl).symm

theorem counts_countAcknowledged :
    Counts symbol chunkId (countAcknowledged symbol chunkId) job := by
  unfold Counts countAcknowledged
  split
  · exact .inl rfl
  next chunk found =>
    split
    · refine .inr ⟨chunk.recordsPublished, accounts_countChunk ?_⟩
      rw [accounts, OrderedDict.get?_mapValues, found]
      rfl
    · exact .inl rfl

theorem counts_notePublished (shortfall : String) (total published : Int) :
    Counts symbol chunkId (notePublished symbol chunkId shortfall total published) job := by
  refine .inr ⟨published, ?_⟩
  have counted (noted : BackfillJob) (same : noted.accounts = job.accounts) :
      ((noted.countChunk symbol published).setChunk chunkId fun chunk =>
        { chunk with recordsPublished := published }).accounts =
        job.accounts.count symbol chunkId published := by
    rw [← same]
    simp only [accounts, countChunk, setSymbol, setChunk, JobAccounts.count]
    congr 1
    · exact OrderedDict.mapValues_modify _ _ fun _ => rfl
    · exact OrderedDict.mapValues_modify _ _ fun _ => rfl
  refine counted _ ?_
  split
  · let failed := job.setSymbol symbol fun progress =>
      { progress with errors := progress.errors ++ [shortfall] }
    have same : failed.accounts = job.accounts := accounts_setSymbol fun _ => rfl
    have kept : ((failed.noteError shortfall).setChunk chunkId fun chunk =>
        { chunk with error := some shortfall, status := "partial" }).accounts =
        (failed.noteError shortfall).accounts := accounts_setChunk fun _ => rfl
    exact kept.trans same
  · exact accounts_setChunk fun _ => rfl

theorem counts_noteFailed (held : job.accounts.chunks.get? chunkId = some 0)
    (message reason : String) :
    Counts symbol chunkId (noteFailed symbol chunkId message reason) job := by
  refine .inr ⟨0, ?_⟩
  simp only [accounts, noteFailed, noteError, setSymbol, setChunk, JobAccounts.count, Int.add_zero]
  congr 1
  · exact OrderedDict.mapValues_modify _ _ fun _ => by simp [SymbolProgress.account]
  · have kept : job.accounts.chunks.modify chunkId (fun _ => 0) = job.accounts.chunks :=
      OrderedDict.modify_held held rfl
    exact (OrderedDict.mapValues_modify_same _ _ (by intro _; rfl)).trans kept.symm

end BackfillJob

/-! ## Balance -/

section Balance

variable [Manifests]

/-- The counters of a job agree, and its tables are those of its request. -/
structure JobAccounts.Balanced (accounts : JobAccounts) : Prop where
  symbols : accounts.symbols.total SymbolAccount.records = accounts.records
  chunks : accounts.chunks.total id = accounts.records
  within : ∀ symbol account, accounts.symbols.get? symbol = some account → account.complete ≤
    account.total
  totals : ∀ symbol account, accounts.symbols.get? symbol = some account →
    account.total = accounts.request.ranges.length
  listed : ∀ symbol ∈ accounts.request.symbols, accounts.symbols.contains symbol = true
  cut : ∀ id ∈ chunkIds accounts.jobId accounts.request, accounts.chunks.contains id = true

namespace JobAccounts

variable {accounts : JobAccounts} {symbol chunkId : String} {records : Int}

/-- Counting a chunk that was not counted keeps the balance, if the symbol has a chunk left. -/
theorem Balanced.count (balanced : accounts.Balanced) (held : accounts.chunks.get? chunkId = some 0)
    (listed : accounts.symbols.contains symbol = true)
    (left : ∀ account, accounts.symbols.get? symbol = some account → account.complete <
      account.total) :
    (accounts.count symbol chunkId records).Balanced := by
  obtain ⟨account, found⟩ := OrderedDict.contains_iff.mp listed
  refine ⟨?_, ?_, fun other changed seen => ?_, fun other changed seen => ?_, fun other mem => ?_,
    fun id mem => ?_⟩
  · rw [JobAccounts.count, OrderedDict.total_modify found, balanced.symbols]
    simp
  · rw [JobAccounts.count, OrderedDict.total_modify held, balanced.chunks]
    simp
  · rw [JobAccounts.count, OrderedDict.get?_modify, found] at seen
    split at seen
    · cases seen
      have := left account found
      simp only
      omega
    · exact balanced.within other changed seen
  · rw [JobAccounts.count, OrderedDict.get?_modify, found] at seen
    split at seen
    · cases seen
      exact balanced.totals symbol account found
    · exact balanced.totals other changed seen
  · rw [JobAccounts.count, OrderedDict.contains_modify]
    exact balanced.listed other mem
  · rw [JobAccounts.count, OrderedDict.contains_modify]
    exact balanced.cut id mem

end JobAccounts

namespace BackfillJob

variable {job : BackfillJob} {request : BackfillRequest}

omit [Manifests] in
theorem account_of_mem {item : String × SymbolProgress} (mem : item ∈ job.symbolsProgress.items) :
    job.accounts.symbols.get? item.1 = some item.2.account := by
  rw [accounts, OrderedDict.get?_mapValues, OrderedDict.get?_eq_some.mpr mem]
  rfl

/-- What the counters of a balanced job say. -/
theorem progress_le_one (balanced : job.accounts.Balanced) : job.progress ≤ 1 := by
  have counted : ∀ item ∈ job.symbolsProgress.items, item.2.chunksComplete ≤ item.2.chunksTotal ∧
      item.2.chunksTotal = job.request.ranges.length := by
    intro item mem
    exact ⟨balanced.within _ _ (account_of_mem mem), balanced.totals _ _ (account_of_mem mem)⟩
  have le : job.symbolsProgress.total SymbolProgress.chunksComplete ≤
      job.symbolsProgress.total SymbolProgress.chunksTotal :=
    OrderedDict.total_le fun item mem => (counted item mem).1
  have positive : 0 ≤ job.symbolsProgress.total SymbolProgress.chunksTotal := by
    refine List.sum_nonneg fun number mem => ?_
    obtain ⟨item, held, rfl⟩ := List.mem_map.mp mem
    rw [(counted item held).2]
    exact Int.natCast_nonneg _
  rw [progress]
  split
  · exact zero_le_one
  · exact div_le_one_of_le₀ (by exact_mod_cast le) (by exact_mod_cast positive)

/-- A job before its first chunk of an attempt; it may still have to get its tables. -/
structure Blank (request : BackfillRequest) (job : BackfillJob) : Prop where
  asked : job.request = request
  records : job.recordsPublished = 0
  symbols : ∀ item ∈ job.symbolsProgress.items, item.2.account = ⟨request.ranges.length, 0, 0⟩
  listed : job.symbolsProgress.items = [] ∨
    ∀ symbol ∈ request.symbols, job.symbolsProgress.contains symbol = true

omit [Manifests] in
theorem blank_fresh {jobId manifestHash : String} {now : DateTime} :
    Blank request (fresh jobId manifestHash request now) :=
  ⟨rfl, rfl, (fun _ mem => nomatch mem), .inl rfl⟩

theorem blank_reset (balanced : job.accounts.Balanced) : Blank job.request job.reset := by
  refine ⟨rfl, rfl, fun item mem => ?_, .inr fun symbol mem => ?_⟩
  · obtain ⟨old, held, rfl⟩ := List.mem_map.mp mem
    have total := balanced.totals _ _ (account_of_mem held)
    exact congrArg (fun total => SymbolAccount.mk total 0 0) total
  · have held := balanced.listed symbol mem
    rw [accounts, OrderedDict.contains_mapValues] at held
    exact (OrderedDict.contains_mapValues _ _ _).trans held

omit [Manifests] in
theorem blank_withSymbols (blank : Blank request job) :
    Blank request (job.withSymbols request) ∧
      ∀ symbol ∈ request.symbols, (job.withSymbols request).symbolsProgress.contains symbol =
        true := by
  have table (symbols : List String) (progress : OrderedDict String SymbolProgress)
      (pending : ∀ item ∈ progress.items, item.2.account = ⟨request.ranges.length, 0, 0⟩) :
      (∀ item ∈ (symbols.foldl (fun progress symbol =>
          progress.set symbol (pendingSymbol symbol request.ranges.length)) progress).items,
        item.2.account = ⟨request.ranges.length, 0, 0⟩) ∧
      ∀ symbol, symbol ∈ symbols ∨ progress.contains symbol = true →
        (symbols.foldl (fun progress symbol =>
          progress.set symbol (pendingSymbol symbol request.ranges.length)) progress).contains
            symbol =
            true := by
    induction symbols generalizing progress with
    | nil => exact ⟨pending, fun symbol held => held.elim (fun mem => absurd mem List.not_mem_nil)
      id⟩
    | cons symbol symbols ih =>
        have later := ih (progress.set symbol (pendingSymbol symbol request.ranges.length)) (by
          intro item mem
          rcases OrderedDict.mem_set.mp mem with rfl | ⟨mem, -⟩
          · rfl
          · exact pending item mem)
        refine ⟨later.1, fun other held => later.2 other ?_⟩
        rw [OrderedDict.contains_set]
        rcases held with mem | held
        · rcases List.mem_cons.mp mem with rfl | mem
          · exact .inr (by simp)
          · exact .inl mem
        · exact .inr (by simp [held])
  unfold withSymbols
  split
  next none =>
    obtain ⟨pending, contains⟩ := table request.symbols .empty fun _ mem =>
      absurd mem List.not_mem_nil
    exact ⟨⟨blank.asked, blank.records, pending, .inr fun symbol mem =>
      contains symbol (.inl mem)⟩, fun symbol mem => contains symbol (.inl mem)⟩
  next some =>
    have listed := blank.listed.resolve_left fun none => some (by rw [none]; rfl)
    exact ⟨blank, listed⟩

theorem contains_withChunks {id : String} (mem : id ∈ chunkIds job.jobId request) :
    (job.withChunks request).chunks.contains id = true := by
  have table (places : List (String × DateRange)) (chunks : OrderedDict String ChunkResult) :
      ∀ id, id ∈ places.map (fun place => chunkId job.jobId place.1 place.2) ∨ chunks.contains id =
        true →
        (places.foldl (fun chunks place =>
          let id := chunkId job.jobId place.1 place.2
          if chunks.contains id then chunks else chunks.set id (pendingChunk id place.1 place.2))
          chunks).contains id = true := by
    induction places generalizing chunks with
    | nil => exact fun id held => held.elim (fun mem => absurd mem List.not_mem_nil) fun held =>
      held
    | cons place places ih =>
        intro id held
        refine ih _ id ?_
        dsimp only
        split
        next there =>
          rcases held with mem | held
          · rcases List.mem_cons.mp mem with rfl | mem
            · exact .inr there
            · exact .inl mem
          · exact .inr held
        · rw [OrderedDict.contains_set]
          rcases held with mem | held
          · rcases List.mem_cons.mp mem with rfl | mem
            · exact .inr (by simp)
            · exact .inl mem
          · exact .inr (by simp [held])
  refine table _ _ id (.inl ?_)
  simpa [chunkIds, List.map_flatMap, Function.comp_def] using mem

/-- No chunk of the job has published records. -/
def NothingPublished (job : BackfillJob) : Prop :=
  ∀ item ∈ job.chunks.items, item.2.recordsPublished = 0

/-- Nothing was counted of a balanced job. -/
structure Uncounted (job : BackfillJob) : Prop where
  complete : ∀ symbol account, job.accounts.symbols.get? symbol = some account → account.complete =
    0
  chunks : ∀ id, job.chunks.contains id = true → job.accounts.chunks.get? id = some 0

/-- A job that begins an attempt is balanced, if no earlier attempt has published anything. -/
theorem balanced_of_blank (blank : Blank request job)
    (nothing : ((job.withSymbols request).withChunks request).NothingPublished) :
    ((job.withSymbols request).withChunks request).accounts.Balanced ∧
      ((job.withSymbols request).withChunks request).Uncounted := by
  obtain ⟨blank, listed⟩ := blank_withSymbols blank
  generalize filledIs : job.withSymbols request = filled at *
  have account {symbol : String} {account : SymbolAccount}
      (found : (filled.withChunks request).accounts.symbols.get? symbol = some account) :
      account = ⟨request.ranges.length, 0, 0⟩ := by
    rw [accounts, OrderedDict.get?_mapValues] at found
    obtain ⟨progress, held, rfl⟩ := Option.map_eq_some_iff.mp found
    exact blank.symbols _ (OrderedDict.get?_eq_some.mp held)
  have requested : (filled.withChunks request).accounts.request = request := blank.asked
  have none : (filled.withChunks request).accounts.records = 0 := blank.records
  refine ⟨⟨?_, ?_, fun symbol other found => ?_, fun symbol other found => ?_, fun symbol mem => ?_,
    fun id mem => ?_⟩, ⟨fun symbol other found => ?_, fun id held => ?_⟩⟩
  · rw [none, accounts, OrderedDict.total_mapValues]
    exact OrderedDict.total_eq_zero fun item mem => congrArg SymbolAccount.records
      (blank.symbols item mem)
  · rw [none, accounts, OrderedDict.total_mapValues]
    exact OrderedDict.total_eq_zero fun item mem => nothing item mem
  · rw [account found]
    exact Int.natCast_nonneg _
  · rw [account found, requested]
  · rw [accounts, OrderedDict.contains_mapValues]
    exact listed symbol (requested ▸ mem)
  · rw [accounts, OrderedDict.contains_mapValues]
    rw [requested] at mem
    exact contains_withChunks mem
  · rw [account found]
  · obtain ⟨chunk, found⟩ := OrderedDict.contains_iff.mp held
    rw [accounts, OrderedDict.get?_mapValues, found, Option.map_some,
      nothing _ (OrderedDict.get?_eq_some.mp found)]

end BackfillJob

end Balance

end Backfill
end DataGateway
