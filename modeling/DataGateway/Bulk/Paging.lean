import DataGateway.Bulk.Results

/-!
# Paging a bulk result

`get_results_page` takes the page from the records in store, but decides by the job's counter
whether there are more.  Following `next_offset` ends, and returns every record once and in order,
unless the spool file is gone, when the first page already is empty and names its own offset as the
next one, or the end of a page is a number that `islice` does not take.
-/

namespace DataGateway
namespace Bulk

variable {Record : Type} [JsonLines Record]

/-- A page of records, and where the next one begins. -/
structure ResultsPage (Record : Type) where
  /-- `page_records`. -/
  records : List Record
  /-- `total_records`. -/
  totalRecords : Nat
  /-- `has_more`. -/
  hasMore : Bool
  /-- `next_offset`. -/
  nextOffset : Option Nat
  deriving DecidableEq

/-- `get_results_page` of a job; `none` is a `ValueError`, of `islice` or out of a
line that it reads. -/
def getResultsPage (job : BulkJob Record) (files : Files) (limit offset : Int) :
    Option (ResultsPage Record) :=
  if job.status ≠ .complete then some ⟨[], 0, false, none⟩
  else
    let pageLimit := (max 1 limit).toNat
    let pageOffset := (max 0 offset).toNat
    let totalRecords := job.recordsFetched
    (islice (iterJobResults job files) pageOffset (some (pageOffset + pageLimit))).bind fun page =>
      (page.mapM id).map fun pageRecords =>
        let consumed := pageOffset + pageRecords.length
        let hasMore := consumed < totalRecords
        ⟨pageRecords, totalRecords, hasMore, if hasMore then some consumed else none⟩

/-- The pages that a client gets from an offset on by following `next_offset`, each of which begins
behind the one before. -/
inductive Follows (page : Nat → Option (ResultsPage Record)) : Nat → List (List Record) → Prop
  | last {offset : Nat} {answer : ResultsPage Record} (answered : page offset = some answer)
      (ends : answer.nextOffset = none) : Follows page offset [answer.records]
  | more {offset next : Nat} {answer : ResultsPage Record} {rest : List (List Record)}
      (answered : page offset = some answer) (continues : answer.nextOffset = some next)
      (progress : offset < next) (later : Follows page next rest) :
      Follows page offset (answer.records :: rest)

/-- From offset 0 the pages come to an end and return the records in store, each
once and in order. -/
def PagesExactly (job : BulkJob Record) (files : Files) (limit : Int) : Prop :=
  ∃ pages, Follows (fun offset => getResultsPage job files limit offset) 0 pages ∧
    pages.flatten.map some = iterJobResults job files

variable {job : BulkJob Record} {files : Files} {limit : Int}

/-- How many records a page has room for. -/
def pageSize (limit : Int) : Nat := (max 1 limit).toNat

/-- A page of a completed job whose records in store can all be read. -/
theorem getResultsPage_eq {stored : List Record} (complete : job.status = .complete)
    (readable : iterJobResults job files = stored.map some) (offset : Nat) :
    getResultsPage job files limit offset =
      if maxsize < offset + pageSize limit then none
      else some
        (let records := (stored.drop offset).take (pageSize limit)
        let consumed := offset + records.length
        ⟨records, job.recordsFetched, consumed < job.recordsFetched,
          if consumed < job.recordsFetched then some consumed else none⟩) := by
  have front : (max 0 (offset : Int)).toNat = offset := by omega
  have read (records : List Record) : (records.map some).mapM id = some records := by
    induction records with
    | nil => rfl
    | cons record records ih => simp [ih]
  have present : ((stored.take offset).map some).any Option.isNone = false := by
    simp [-List.map_take]
  simp only [getResultsPage, complete, ne_eq, not_true_eq_false, if_false, front, readable]
  change (islice (stored.map some) offset (some (offset + pageSize limit))).bind _ = _
  unfold islice
  by_cases above : maxsize < offset + pageSize limit
  · rw [if_pos above, if_pos (.inr (by simpa using above))]
    rfl
  · have fits : ¬(maxsize < offset ∨ (some (offset + pageSize limit)).any (maxsize < ·)) := by
      rintro (start | stop)
      · omega
      · exact above (by simpa using stop)
    rw [if_neg above, if_neg fits]
    simp only [← List.map_take, ← List.map_drop, present, Option.elim_some, Bool.false_eq_true,
      if_false, Option.bind_some, read, Option.map_some, List.drop_take, Nat.add_sub_cancel_left]

/-- `islice` takes the end of every page: of the first one, and of every other one that
begins inside the records. -/
def PagesFit (job : BulkJob Record) (limit : Int) : Prop :=
  ∀ offset, pageSize limit ∣ offset → offset = 0 ∨ offset < job.recordsFetched →
    offset + pageSize limit ≤ maxsize

omit [JsonLines Record] in
theorem pageSize_pos (limit : Int) : 0 < pageSize limit := by
  unfold pageSize
  omega

/-- With as many records in store as counted, the pages from an offset on return the rest. -/
theorem follows_rest {stored : List Record} (complete : job.status = .complete)
    (readable : iterJobResults job files = stored.map some)
    (count : job.recordsFetched = stored.length) (fit : PagesFit job limit) (offset : Nat)
    (begins : pageSize limit ∣ offset) (inside : offset = 0 ∨ offset < job.recordsFetched) :
    ∃ pages, Follows (fun offset => getResultsPage job files limit offset) offset pages ∧
      pages.flatten = stored.drop offset := by
  have positive := pageSize_pos limit
  -- the rest gets shorter from page to page
  induction rest : stored.length - offset using Nat.strong_induction_on generalizing offset with
  | _ rest ih =>
      have page := @getResultsPage_eq _ _ job files limit stored complete readable offset
      rw [if_neg (Nat.not_lt.mpr (fit offset begins inside))] at page
      have length : ((stored.drop offset).take (pageSize limit)).length =
          min (pageSize limit) (stored.length - offset) := by
        rw [List.length_take, List.length_drop]
      by_cases more : offset + pageSize limit < stored.length
      · obtain ⟨pages, follows, flat⟩ :=
          ih (stored.length - (offset + pageSize limit)) (by omega) (offset + pageSize limit)
            (Nat.dvd_add begins (Nat.dvd_refl _)) (.inr (count ▸ more)) rfl
        have consumed : offset + ((stored.drop offset).take (pageSize limit)).length =
            offset + pageSize limit := by omega
        refine ⟨_ :: pages, .more page ?_ (Nat.lt_add_of_pos_right positive) follows, ?_⟩
        · simp only [consumed, if_pos (count.symm ▸ more)]
        · rw [List.flatten_cons, flat, ← List.drop_drop]
          exact List.take_append_drop _ _
      · refine ⟨_, .last page ?_, ?_⟩
        · dsimp only
          rw [if_neg (by omega)]
        · rw [List.flatten_cons, List.flatten_nil, List.append_nil]
          exact List.take_of_length_le (by rw [List.length_drop]; omega)

/-- Pages that come to an end all fit. -/
theorem fits_of_follows {stored : List Record} (complete : job.status = .complete)
    (readable : iterJobResults job files = stored.map some)
    (count : job.recordsFetched = stored.length) {offset : Nat} {pages : List (List Record)}
    (follows : Follows (fun offset => getResultsPage job files limit offset) offset pages)
    (begins : pageSize limit ∣ offset) {later : Nat} (other : pageSize limit ∣ later)
    (behind : offset ≤ later) (inside : later = offset ∨ later < job.recordsFetched) :
    later + pageSize limit ≤ maxsize := by
  have answer (offset : Nat) {answer : ResultsPage Record}
      (answered : getResultsPage job files limit offset = some answer) :
      offset + pageSize limit ≤ maxsize ∧ (offset + pageSize limit < stored.length →
        answer.nextOffset = some (offset + pageSize limit)) := by
    rw [getResultsPage_eq complete readable] at answered
    split_ifs at answered with above
    obtain rfl := Option.some.inj answered
    refine ⟨Nat.not_lt.mp above, fun more => ?_⟩
    have full : ((stored.drop offset).take (pageSize limit)).length = pageSize limit := by
      rw [List.length_take, List.length_drop]
      omega
    simp only [full, if_pos (count.symm ▸ more)]
  -- a page that begins behind this one begins where it ends, or later still
  have next (offset : Nat) (begins : pageSize limit ∣ offset) (behind : offset ≤ later)
      (inside : later = offset ∨ later < job.recordsFetched) :
      later = offset ∨ offset + pageSize limit ≤ later ∧ later < stored.length := by
    rcases inside with same | inside
    · exact .inl same
    · by_cases same : later = offset
      · exact .inl same
      · have gap := Nat.le_of_dvd (by omega) (Nat.dvd_sub other begins)
        exact .inr ⟨by omega, count ▸ inside⟩
  induction follows with
  | @last offset page answered ends =>
      obtain ⟨below, goesOn⟩ := answer offset answered
      rcases next offset begins behind inside with rfl | ⟨far, inside⟩
      · exact below
      · rw [goesOn (by omega)] at ends
        cases ends
  | @more offset following page rest answered continues progress after ih =>
      obtain ⟨below, goesOn⟩ := answer offset answered
      rcases next offset begins behind inside with rfl | ⟨far, inside⟩
      · exact below
      · obtain rfl := Option.some.inj ((goesOn (by omega)).symm.trans continues)
        exact ih (Nat.dvd_add begins (Nat.dvd_refl _)) far (.inr (count ▸ inside))

/-- The spool file of the job is gone. -/
def SpoolMissing (job : BulkJob Record) (files : Files) : Prop :=
  ∃ path, job.resultsSpoolPath = some path ∧ files path = none

/-- With the spool file gone and records counted the first page leads to itself. -/
theorem not_pagesExactly_of_missing (complete : job.status = .complete) (empty : job.results = [])
    (counted : 0 < job.recordsFetched) (missing : SpoolMissing job files) :
    ¬PagesExactly job files limit := by
  obtain ⟨path, spooled, gone⟩ := missing
  have nothing : iterJobResults job files = ([] : List Record).map some := by
    simp [iterJobResults, empty, spooled, gone]
  have itself {answer : ResultsPage Record}
      (answered : getResultsPage job files limit 0 = some answer) : answer.nextOffset = some 0 := by
    have page := (@getResultsPage_eq _ _ job files limit [] complete nothing 0).symm.trans answered
    split_ifs at page
    obtain rfl := Option.some.inj page
    simp [counted]
  rintro ⟨pages, follows, -⟩
  cases follows with
  | last answered ends => cases ends.symm.trans (itself answered)
  | more answered continues progress later =>
      obtain rfl := Option.some.inj (continues.symm.trans (itself answered))
      exact absurd progress (Nat.lt_irrefl 0)

/-- For every page size paging a completed job ends and is exact, exactly when its spool file has
not been removed and `islice` takes the end of every page. -/
theorem paging_is_exact_iff (manager : BulkJobManager) (jobType : JobType) (path : String)
    (before : Files) (fetched : List (List Record)) (files : Files) (limit : Int)
    (kept : ∀ spool, (manager.process jobType path before fetched).1.resultsSpoolPath = some spool →
      files spool = (manager.process jobType path before fetched).2 spool ∨ files spool = none) :
    PagesExactly (manager.process jobType path before fetched).1 files limit ↔
      ¬SpoolMissing (manager.process jobType path before fetched).1 files ∧
        PagesFit (manager.process jobType path before fetched).1 limit := by
  have complete : (manager.process jobType path before fetched).1.status = .complete := rfl
  have agrees := countAgrees_process manager jobType path before fetched
  revert complete agrees kept
  generalize (manager.process jobType path before fetched).2 = written
  generalize (manager.process jobType path before fetched).1 = job
  intro kept complete agrees
  have exact_ {stored : List Record} (readable : iterJobResults job files = stored.map some)
      (count : job.recordsFetched = stored.length) (present : ¬SpoolMissing job files) :
      PagesExactly job files limit ↔ ¬SpoolMissing job files ∧ PagesFit job limit := by
    refine ⟨fun ⟨pages, follows, _⟩ => ⟨present, fun later other inside => ?_⟩,
      fun ⟨_, fit⟩ => ?_⟩
    · exact fits_of_follows complete readable count follows (Nat.dvd_zero _) other (Nat.zero_le _)
        inside
    · obtain ⟨pages, follows, flat⟩ :=
        follows_rest complete readable count fit 0 (Nat.dvd_zero _) (.inl rfl)
      exact ⟨pages, follows, by rw [flat, List.drop_zero, readable]⟩
  rcases agrees with ⟨unspooled, count⟩ | ⟨spool, records, spooled, empty, text, count, some_⟩
  · refine exact_ (by simp [iterJobResults, unspooled]) count ?_
    rintro ⟨path, spooled, -⟩
    rw [unspooled] at spooled
    cases spooled
  · rcases kept spool spooled with same | gone
    · have present : ¬SpoolMissing job files := by
        rintro ⟨path, again, gone⟩
        obtain rfl := Option.some.inj (spooled.symm.trans again)
        rw [same, text] at gone
        cases gone
      -- every line was written by `dumps` and can be read
      have read : ∀ records : List Record, ∃ stored : List Record, stored.length = records.length ∧
          (records.map fun record => JsonLines.loads (JsonLines.dumps record)) =
            stored.map some := by
        intro records
        induction records with
        | nil => exact ⟨[], rfl, rfl⟩
        | cons record records ih =>
            obtain ⟨stored, length, eq⟩ := ih
            obtain ⟨first, loaded⟩ := Option.isSome_iff_exists.mp (JsonLines.loads_dumps record)
            exact ⟨first :: stored, by simp [length], by simp [loaded, eq]⟩
      obtain ⟨stored, length, eq⟩ := read records
      have readable : iterJobResults job files = stored.map some := by
        rw [iterJobResults_spool spooled (same.trans text), empty, eq]
        rfl
      exact exact_ readable (count.trans length.symm) present
    · refine iff_of_false (fun exact_ => ?_) fun present => present.1 ⟨spool, spooled, gone⟩
      exact not_pagesExactly_of_missing complete empty
        (count ▸ List.length_pos_of_ne_nil some_) ⟨spool, spooled, gone⟩ exact_

/-- Records that are true or false. -/
@[reducible] def boolLines : JsonLines Bool where
  dumps record := if record then ['t', 'r', 'u', 'e'] else ['f', 'a', 'l', 's', 'e']
  loads line := if line = ['t', 'r', 'u', 'e'] then some true
    else if line = ['f', 'a', 'l', 's', 'e'] then some false else none
  loads_dumps := by decide
  dumps_line := by decide
  dumps_ne_nil := by decide
  strip_dumps := by decide

/-- A spooled job whose file has been removed is paged without end. -/
theorem missing_spool_is_paged_forever :
    let _ := boolLines
    let manager : BulkJobManager := ⟨1, true⟩
    let job := (manager.process .bars "spool" (fun _ => none) [[true, false]]).1
    getResultsPage job (fun _ => none) 500 0 = some ⟨[], 2, true, some 0⟩ ∧
      ¬PagesExactly job (fun _ => none) 500 := by
  intro _ manager job
  exact ⟨by decide, not_pagesExactly_of_missing rfl rfl (by decide) ⟨"spool", rfl, rfl⟩⟩

/-- A page of more records than `islice` counts raises, although the records are in memory. -/
example :
    let _ := boolLines
    let job := ((⟨1, false⟩ : BulkJobManager).process .bars "spool" (fun _ => none) [[true]]).1
    getResultsPage job (fun _ => none) (2 ^ 63) 0 = none := by decide

/-- While the file is there, the records of a spooled job are paged once each. -/
theorem spooled_job_is_paged :
    let _ := boolLines
    let manager : BulkJobManager := ⟨1, true⟩
    let spooled := manager.process .bars "spool" (fun _ => none) [[true, false], [true]]
    PagesExactly spooled.1 spooled.2 2 := by
  intro _ manager spooled
  refine (paging_is_exact_iff manager .bars "spool" (fun _ => none) [[true, false], [true]]
    spooled.2 2 fun _ _ => .inl rfl).mpr ⟨?_, fun offset _ inside => ?_⟩
  · rintro ⟨path, named, gone⟩
    obtain rfl : "spool" = path := Option.some.inj named
    cases gone
  · have few : offset ≤ 3 := by
      rcases inside with rfl | inside
      · exact Nat.zero_le _
      · exact Nat.le_of_lt inside
    exact (Nat.add_le_add_right few 2).trans (by decide)

end Bulk
end DataGateway
