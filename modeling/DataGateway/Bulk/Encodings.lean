import DataGateway.Bulk.Results

/-!
# Encodings of bulk results

The records of a completed job as JSON lines and as one JSON document, in chunks of so many
records.  A chunk is given by its text, of which the response has the bytes.
-/

namespace DataGateway
namespace Bulk

/-- What is asked of `json` beyond lines: a text of `json.dumps` gives the record back, and so does
a document with a list of such texts. -/
class JsonDocuments (Record : Type) extends JsonLines Record where
  loads_dumps_eq : ∀ record, loads (dumps record) = some record
  /-- `json.loads`, for a dictionary of lists of records. -/
  loadsLists : List Char → Option (List (String × List Record))
  loadsLists_data : ∀ records : List Record,
    loadsLists ("\x7b\"data\":[".toList ++ [','].intercalate (records.map dumps) ++
      "]\x7d".toList) =
      some [("data", records)]

/-- What a client gets of an iterator of chunks; `none` when it raises. -/
def received (chunks : Option (List (Option (List Char)))) : Option (List Char) :=
  chunks.bind fun chunks => (chunks.mapM id).map List.flatten

open JsonLines

section Lines

variable {Record : Type} [JsonLines Record]

/-- `paged_records`. -/
def pagedRecords (job : BulkJob Record) (files : Files) (offset : Int) (limit : Option Int) :
    Option (List (Option Record)) :=
  let pageOffset := (max 0 offset).toNat
  islice (iterJobResults job files) pageOffset
    (limit.map fun limit => pageOffset + (max 1 limit).toNat)

/-- The text of a chunk of lines. -/
def chunkText (firstChunk : Bool) (bufferLines : List (List Char)) : List Char :=
  if firstChunk then ['\n'].intercalate bufferLines else '\n' :: ['\n'].intercalate bufferLines

/-- The loop of `iter_results_jsonl_chunks`; a record that cannot be read ends it with an error. -/
def jsonlChunks (chunkSize : Nat) : Nat → Bool → List (List Char) → List (Option Record) →
    List (Option (List Char))
  | _, firstChunk, bufferLines, [] =>
      if bufferLines = [] then [] else [some (chunkText firstChunk bufferLines)]
  | _, _, _, none :: _ => [none]
  | index, firstChunk, bufferLines, some record :: rest =>
      let bufferLines := bufferLines ++ [dumps record]
      if index % chunkSize = 0 then
        some (chunkText firstChunk bufferLines) :: jsonlChunks chunkSize (index + 1) false [] rest
      else jsonlChunks chunkSize (index + 1) firstChunk bufferLines rest

/-- `iter_results_jsonl_chunks`. -/
def iterResultsJsonlChunks (job : BulkJob Record) (files : Files) (recordsPerChunk offset : Int)
    (limit : Option Int) : Option (List (Option (List Char))) :=
  if job.status ≠ .complete then some []
  else (pagedRecords job files offset limit).map
    (jsonlChunks (max 1 recordsPerChunk).toNat 1 true [])

/-- The loop of `get_results_jsonl`. -/
def writeJsonl : Bool → List Char → List (Option Record) → Option (List Char)
  | _, output, [] => some output
  | _, _, none :: _ => none
  | first, output, some record :: rest =>
      writeJsonl false (output ++ (if first then [] else ['\n']) ++ dumps record) rest

/-- `get_results_jsonl`. -/
def getResultsJsonl (job : BulkJob Record) (files : Files) : Option (List Char) :=
  if job.status ≠ .complete then some [] else writeJsonl true [] (iterJobResults job files)

/-- The loop of `iter_results_json_chunks`. -/
def jsonChunks (chunkSize : Nat) : Nat → Bool → List (List Char) → List (Option Record) →
    List (Option (List Char))
  | _, _, bufferParts, [] =>
      (if bufferParts = [] then [] else [some bufferParts.flatten]) ++ [some "]\x7d".toList]
  | _, _, _, none :: _ => [none]
  | index, first, bufferParts, some record :: rest =>
      let bufferParts := bufferParts ++ (if first then [dumps record] else [[','], dumps record])
      if index % chunkSize = 0 then
        some bufferParts.flatten :: jsonChunks chunkSize (index + 1) false [] rest
      else jsonChunks chunkSize (index + 1) false bufferParts rest

/-- `iter_results_json_chunks`. -/
def iterResultsJsonChunks (job : BulkJob Record) (files : Files) (recordsPerChunk offset : Int)
    (limit : Option Int) : Option (List (Option (List Char))) :=
  if job.status ≠ .complete then some []
  else (pagedRecords job files offset limit).map fun records =>
    some "\x7b\"data\":[".toList :: jsonChunks (max 1 recordsPerChunk).toNat 1 true [] records

/-! ## Separators -/

/-- Texts with a separator between them, and before the first one unless it is the first of all. -/
def separated (separator : Char) (first : Bool) (texts : List (List Char)) : List Char :=
  if first then [separator].intercalate texts else texts.flatMap fun text => separator :: text

theorem intercalate_cons (separator : Char) (text : List Char) (texts : List (List Char)) :
    [separator].intercalate (text :: texts) = text ++ texts.flatMap fun text => separator ::
      text := by
  induction texts generalizing text with
  | nil => simp
  | cons second rest ih => rw [List.intercalate_cons_cons, ih]; simp

theorem separated_cons (separator : Char) (first : Bool) (text : List Char)
    (texts : List (List Char)) :
    separated separator first (text :: texts) =
      (if first then text else separator :: text) ++ separated separator false texts := by
  cases first with
  | false => simp [separated]
  | true => simp [separated, intercalate_cons]

theorem separated_append (separator : Char) (first : Bool) {left : List (List Char)}
    (some : left ≠ [])
    (right : List (List Char)) :
    separated separator first (left ++ right) =
      separated separator first left ++ separated separator false right := by
  obtain ⟨text, texts, rfl⟩ := List.exists_cons_of_ne_nil some
  rw [List.cons_append, separated_cons, separated_cons, List.append_assoc]
  simp [separated]

theorem chunkText_eq (firstChunk : Bool) {bufferLines : List (List Char)}
    (some : bufferLines ≠ []) :
    chunkText firstChunk bufferLines = separated '\n' firstChunk bufferLines := by
  obtain ⟨line, lines, rfl⟩ := List.exists_cons_of_ne_nil some
  cases firstChunk with
  | true => rfl
  | false => simp [chunkText, separated, intercalate_cons]

/-! ## Readable records -/

/-- Chunks that are all yielded are received together. -/
theorem received_map_some (chunks : List (List Char)) :
    received (some (chunks.map some)) = some chunks.flatten := by
  have read : (chunks.map some).mapM id = some chunks := by
    induction chunks with
    | nil => rfl
    | cons chunk chunks ih => simp [ih]
  simp [received, read]

/-- The chunks of lines are the lines with the separators between them, wherever the chunks end. -/
theorem jsonlChunks_eq (chunkSize index : Nat) (firstChunk : Bool) (bufferLines : List (List Char))
    (records : List Record) :
    ∃ chunks : List (List Char), jsonlChunks chunkSize index firstChunk bufferLines
      (records.map some) =
        chunks.map some ∧
      chunks.flatten = separated '\n' firstChunk (bufferLines ++ records.map dumps) := by
  induction records generalizing index firstChunk bufferLines with
  | nil =>
      by_cases empty : bufferLines = []
      · exact ⟨[], by simp [jsonlChunks, empty], by cases firstChunk <;> simp [empty, separated]⟩
      · exact ⟨[chunkText firstChunk bufferLines], by simp [jsonlChunks, empty],
          by simp [chunkText_eq firstChunk empty]⟩
  | cons record rest ih =>
      by_cases full : index % chunkSize = 0
      · obtain ⟨chunks, run, text⟩ := ih (index + 1) false []
        refine ⟨chunkText firstChunk (bufferLines ++ [dumps record]) :: chunks, ?_, ?_⟩
        · simp [jsonlChunks, full, run]
        · rw [List.flatten_cons, text, chunkText_eq firstChunk (by simp), List.nil_append,
            ← separated_append _ _ (by simp)]
          simp
      · obtain ⟨chunks, run, text⟩ := ih (index + 1) firstChunk (bufferLines ++ [dumps record])
        exact ⟨chunks, by simp [jsonlChunks, full, run], by simp [text]⟩

theorem jsonChunks_eq (chunkSize index : Nat) (first : Bool) (bufferParts : List (List Char))
    (records : List Record) :
    ∃ chunks : List (List Char),
      jsonChunks chunkSize index first bufferParts (records.map some) = chunks.map some ∧
      chunks.flatten = bufferParts.flatten ++ separated ',' first (records.map dumps) ++
        "]\x7d".toList := by
  induction records generalizing index first bufferParts with
  | nil =>
      have nothing : separated ',' first ([] : List (List Char)) = [] := by cases first <;> rfl
      by_cases empty : bufferParts = []
      · exact ⟨["]\x7d".toList], by simp [jsonChunks, empty], by simp [empty, nothing]⟩
      · exact ⟨[bufferParts.flatten, "]\x7d".toList], by simp [jsonChunks, empty], by simp
        [nothing]⟩
  | cons record rest ih =>
      have parts : (bufferParts ++ (if first then [dumps record] else
        [[','], dumps record])).flatten =
          bufferParts.flatten ++ (if first then dumps record else ',' :: dumps record) := by
        cases first <;> simp
      rw [List.map_cons, List.map_cons, separated_cons]
      by_cases full : index % chunkSize = 0
      · obtain ⟨chunks, run, text⟩ := ih (index + 1) false []
        refine ⟨(bufferParts ++ (if first then [dumps record] else [[','], dumps record])).flatten
          ::
          chunks, ?_, ?_⟩
        · rw [jsonChunks, if_pos full, run, List.map_cons]
        · rw [List.flatten_cons, text, parts]
          simp
      · obtain ⟨chunks, run, text⟩ := ih (index + 1) false
          (bufferParts ++ (if first then [dumps record] else [[','], dumps record]))
        refine ⟨chunks, ?_, ?_⟩
        · rw [jsonChunks, if_neg full, run]
        · rw [text, parts]
          simp

theorem writeJsonl_eq (first : Bool) (output : List Char) (records : List Record) :
    writeJsonl first output (records.map some) =
      some (output ++ separated '\n' first (records.map dumps)) := by
  induction records generalizing first output with
  | nil => cases first <;> simp [writeJsonl, separated]
  | cons record rest ih =>
      rw [List.map_cons, writeJsonl, ih, List.map_cons, separated_cons]
      cases first <;> simp

/-! ## Completed jobs -/

/-- `records[offset:offset + limit]`, for numbers that are not negative. -/
def slice {α : Type} (records : List α) (offset : Nat) (limit : Option Nat) : List α :=
  limit.elim (records.drop offset) (records.drop offset).take

/-- The end of the page is a number that `islice` takes. -/
def Sliceable (offset : Int) (limit : Option Int) : Prop :=
  max 0 offset + limit.elim 0 (max 1) ≤ maxsize

/-- The records of a page, where a negative offset counts as 0 and a limit below 1 as 1. -/
def page {α : Type} (records : List α) (offset : Int) (limit : Option Int) : List α :=
  slice records (max 0 offset).toNat (limit.map fun limit => (max 1 limit).toNat)

theorem islice_map_some {α : Type} (items : List α) (offset : Int) (limit : Option Int)
    (fits : Sliceable offset limit) :
    islice (items.map some) (max 0 offset).toNat
        (limit.map fun limit => (max 0 offset).toNat + (max 1 limit).toNat) =
      some ((page items offset limit).map some) := by
  unfold Sliceable at fits
  have readable : ((items.map some).take (max 0 offset).toNat).any Option.isNone = false := by
    simp [← List.map_take]
  have start : ¬maxsize < (max 0 offset).toNat := by
    cases limit with
    | none => simp only [Option.elim_none] at fits; omega
    | some limit => simp only [Option.elim_some] at fits; omega
  unfold islice
  rw [if_neg, readable]
  · cases limit with
    | none => simp [page, slice]
    | some limit => simp [page, slice, List.drop_take, List.map_take]
  · rintro (above | above)
    · exact start above
    · cases limit with
      | none => simp at above
      | some limit =>
          simp only [Option.map_some, Option.any_some, decide_eq_true_eq] at above
          simp only [Option.elim_some] at fits
          omega

variable {job : BulkJob Record} {files : Files} {stored : List Record}

theorem iterResultsJsonlChunks_eq (complete : job.status = .complete)
    (readable : iterJobResults job files = stored.map some) {offset : Int} {limit : Option Int}
    (fits : Sliceable offset limit) (recordsPerChunk : Int) :
    received (iterResultsJsonlChunks job files recordsPerChunk offset limit) =
      some (['\n'].intercalate ((page stored offset limit).map dumps)) := by
  obtain ⟨chunks, run, text⟩ :=
    jsonlChunks_eq (max 1 recordsPerChunk).toNat 1 true [] (page stored offset limit)
  rw [iterResultsJsonlChunks, if_neg (by simp [complete]), pagedRecords, readable,
    islice_map_some stored offset limit fits, Option.map_some, run, received_map_some, text]
  rfl

theorem iterResultsJsonChunks_eq (complete : job.status = .complete)
    (readable : iterJobResults job files = stored.map some) {offset : Int} {limit : Option Int}
    (fits : Sliceable offset limit) (recordsPerChunk : Int) :
    received (iterResultsJsonChunks job files recordsPerChunk offset limit) =
      some ("\x7b\"data\":[".toList ++ [','].intercalate ((page stored offset limit).map dumps) ++
        "]\x7d".toList) := by
  obtain ⟨chunks, run, text⟩ :=
    jsonChunks_eq (max 1 recordsPerChunk).toNat 1 true [] (page stored offset limit)
  rw [iterResultsJsonChunks, if_neg (by simp [complete]), pagedRecords, readable,
    islice_map_some stored offset limit fits, Option.map_some, run, ← List.map_cons,
    received_map_some, List.flatten_cons, text]
  simp [separated]

theorem getResultsJsonl_eq (complete : job.status = .complete)
    (readable : iterJobResults job files = stored.map some) :
    getResultsJsonl job files = some (['\n'].intercalate (stored.map dumps)) := by
  rw [getResultsJsonl, if_neg (by simp [complete]), readable, writeJsonl_eq]
  rfl

end Lines

section Documents

variable {Record : Type} [JsonDocuments Record]

/-- The iterated results are the records in store. -/
theorem iterJobResults_of_stores {job : BulkJob Record} {files : Files} {stored : List Record}
    (stores : Stores stored job files) : iterJobResults job files = stored.map some := by
  rcases stores with ⟨unspooled, rfl⟩ | ⟨path, spooled, empty, file, -⟩
  · simp [iterJobResults, unspooled]
  · rw [iterJobResults_spool spooled file, empty]
    simp [JsonDocuments.loads_dumps_eq]

/-- The chunked encodings of a completed job are those of the page, wherever the chunks end and the
records are kept. -/
theorem chunked_encodings_agree (manager : BulkJobManager) (jobType : JobType) (path : String)
    (before : Files) (fetched : List (List Record)) :
    let job := (manager.process jobType path before fetched).1
    let files := (manager.process jobType path before fetched).2
    iterJobResults job files = fetched.flatten.map some ∧
      (∀ recordsPerChunk offset limit, Sliceable offset limit →
        received (iterResultsJsonlChunks job files recordsPerChunk offset limit) =
            some (['\n'].intercalate ((page fetched.flatten offset limit).map dumps)) ∧
          (received (iterResultsJsonChunks job files recordsPerChunk offset limit)).bind
              JsonDocuments.loadsLists = some [("data", page fetched.flatten offset limit)]) ∧
      ∀ recordsPerChunk, received (iterResultsJsonlChunks job files recordsPerChunk 0 none) =
        getResultsJsonl job files := by
  intro job files
  have complete : job.status = .complete := rfl
  have readable := iterJobResults_of_stores (stores_process manager jobType path before fetched)
  refine ⟨readable, fun recordsPerChunk offset limit fits => ⟨?_, ?_⟩, fun recordsPerChunk => ?_⟩
  · exact iterResultsJsonlChunks_eq complete readable fits recordsPerChunk
  · rw [iterResultsJsonChunks_eq complete readable fits recordsPerChunk, Option.bind_some,
      JsonDocuments.loadsLists_data]
  · have fits : Sliceable 0 none := by simp [Sliceable]
    rw [iterResultsJsonlChunks_eq complete readable fits recordsPerChunk,
      getResultsJsonl_eq complete readable]
    rfl

end Documents

/-! ## Records with one flag -/

/-- The text of a record with one flag. -/
def flagText (flag : Bool) : List Char :=
  if flag then "\x7b\"up\": true\x7d".toList else "\x7b\"up\": false\x7d".toList

/-- The record of a text. -/
def flagOf (text : List Char) : Option Bool :=
  if text = flagText true then some true else if text = flagText false then some false else none

theorem flagOf_flagText (flag : Bool) : flagOf (flagText flag) = some flag := by
  revert flag
  decide

/-- The items between the brackets of a document. -/
def dataItems (text : List Char) : Option (List Bool) :=
  let items := (text.drop 9).dropLast.dropLast
  if items = [] then some [] else (items.splitOn ',').mapM flagOf

theorem dataItems_data (flags : List Bool) :
    dataItems ("\x7b\"data\":[".toList ++ [','].intercalate (flags.map flagText) ++
      "]\x7d".toList) = some flags := by
  have items : ∀ middle : List Char,
      (("\x7b\"data\":[".toList ++ middle ++ "]\x7d".toList).drop 9).dropLast.dropLast =
        middle := by
    intro middle
    change (middle ++ [']', '\x7d']).dropLast.dropLast = middle
    simp
  have comma : ∀ flag, ',' ∉ flagText flag := by decide
  have text : ∀ flag, flagText flag ≠ [] := by decide
  have read : ∀ flags : List Bool, (flags.map flagText).mapM flagOf = some flags := by
    intro flags
    induction flags with
    | nil => rfl
    | cons flag rest ih => simp [flagOf_flagText, ih]
  rw [dataItems, items]
  cases flags with
  | nil => rfl
  | cons flag rest =>
      have cut : ([','].intercalate ((flag :: rest).map flagText)).splitOn ',' =
          (flag :: rest).map flagText := by
        refine List.splitOn_intercalate ',' (fun text mem => ?_) (List.cons_ne_nil _ _)
        obtain ⟨flag, -, rfl⟩ := List.mem_map.mp mem
        exact comma flag
      have some_ : [','].intercalate ((flag :: rest).map flagText) ≠ [] := by
        rw [List.map_cons, intercalate_cons]
        exact List.append_ne_nil_of_left_ne_nil (text flag) _
      rw [if_neg some_, cut, read]

/-- JSON for records with one flag. -/
@[reducible] def flagDocuments : JsonDocuments Bool where
  dumps := flagText
  loads := flagOf
  loads_dumps := by decide
  dumps_line := by decide
  dumps_ne_nil := by decide
  strip_dumps := by decide
  loads_dumps_eq := flagOf_flagText
  loadsLists text := (dataItems text).map fun flags => [("data", flags)]
  loadsLists_data flags := by
    rw [dataItems_data]
    rfl

/-- A limit of 0 gives a record, where the slice from 0 to 0 has none. -/
theorem zero_limit_gives_a_record :
    let _ := flagDocuments
    let manager : BulkJobManager := ⟨1, true⟩
    let done := manager.process .bars "spool" (fun _ => none) [[true, false]]
    received (iterResultsJsonlChunks done.1 done.2 500 0 (some 0)) = some (flagText true) ∧
      ['\n'].intercalate ((slice [true, false] 0 (some 0)).map flagText) = [] ∧
      flagText true ≠ [] := by
  intro _ manager done
  exact ⟨by decide, by decide, by decide⟩

/-- Three records, two of which have been in memory, in chunks of one. -/
theorem spooled_flags_are_encoded :
    let _ := flagDocuments
    let manager : BulkJobManager := ⟨2, true⟩
    let done := manager.process .bars "spool" (fun _ => none) [[true, false], [true]]
    received (iterResultsJsonlChunks done.1 done.2 1 1 (some 2)) =
        some (['\n'].intercalate ([false, true].map flagText)) ∧
      (received (iterResultsJsonChunks done.1 done.2 1 1 (some 2))).bind
        JsonDocuments.loadsLists = some [("data", [false, true])] := by
  intro documents manager done
  have fits : Sliceable 1 (some 2) := by simp [Sliceable, maxsize]
  exact (chunked_encodings_agree manager .bars "spool" (fun _ => none)
    [[true, false], [true]]).2.1 1 1 (some 2) fits

end Bulk
end DataGateway
