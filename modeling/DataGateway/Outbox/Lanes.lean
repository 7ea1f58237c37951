import DataGateway.Outbox.Table

/-!
# Lanes

Four places tell rows apart by topic: the drain's `_lane`, the filters of `pending`, the `CASE` of
`lane_summaries` and the subjects of the JetStream publisher.  All four are the same function.
-/

namespace DataGateway
namespace Outbox

/-- `"live"`, `"backfill"` and `"watch"`. -/
inductive Lane
  | live
  | backfill
  | watch
  deriving DecidableEq, Repr

/-- The lanes in the order the sink starts them. -/
def Lane.all : List Lane := [.live, .backfill, .watch]

/-- `DurableOutboxSink._lane`. -/
def Lane.ofTopic (topic : String) : Lane :=
  if topic = "heber:events:backfill" then .backfill
  else if topic = "heber:watch" then .watch
  else .live

namespace Table

/-- The `WHERE` clause of `pending`. -/
def pendingFilter : Option Lane → String → Bool
  | none, _ => true
  | some .backfill, topic => topic = "heber:events:backfill"
  | some .watch, topic => topic = "heber:watch"
  | some .live, topic => topic ∉ ["heber:events:backfill", "heber:watch"]

/-- `pending`; the rows are stored by increasing sequence. -/
def pending (table : Table) (limit : Nat) (lane : Option Lane) :
    Except OutboxError (List OutboxEntry) :=
  if limit < 1 then .error (.value "pending limit must be at least 1")
  else .ok ((table.rows.filter (pendingFilter lane ·.topic)).take limit)

/-- The `CASE` of `lane_summaries`. -/
def caseLane (topic : String) : Lane :=
  if topic = "heber:events:backfill" then .backfill
  else if topic = "heber:watch" then .watch
  else .live

/-- `OutboxSummary`, less the age of the oldest event. -/
structure OutboxSummary where
  pendingCount : Nat
  publishFailureCount : Nat
  deriving DecidableEq, Repr

/-- `lane_summaries`. -/
def laneSummaries (table : Table) (lane : Lane) : OutboxSummary :=
  let rows := table.rows.filter (caseLane ·.topic = lane)
  ⟨rows.length, (rows.map (·.attempts)).sum⟩

end Table

/-! ## Subjects -/

/-- The characters that `_UNSAFE_SUBJECT_TOKEN` leaves alone. -/
def isSubjectChar (c : Char) : Bool :=
  Text.isUpper c || Text.isLower c || Text.isDigit c || c = '_' || c = '-'

/-- `_UNSAFE_SUBJECT_TOKEN.sub("_", text)`, inside of a match or not. -/
def subUnsafe : Bool → List Char → List Char
  | _, [] => []
  | inMatch, c :: rest =>
      if isSubjectChar c then c :: subUnsafe false rest
      else if inMatch then subUnsafe true rest
      else '_' :: subUnsafe true rest

/-- The token of a feed in a subject. -/
def subjectToken (feed : Option String) : String :=
  let replaced := subUnsafe false (feed.getD "unknown").toList
  let stripped := ((replaced.dropWhile (· = '_')).reverse.dropWhile (· = '_')).reverse
  if stripped = [] then "unknown" else String.ofList stripped

/-- `subject_for_entry`, where `readFeed` is the text of the payload's `feed` if there is one that
is not falsy, and may raise what `json.loads` raises beyond decoding errors. -/
def subjectForEntry (readFeed : Bytes → Except OutboxError (Option String)) (entry : OutboxEntry) :
    Except OutboxError (String × String) := do
  let feed ← readFeed entry.payload
  let token := subjectToken feed
  if entry.topic = "heber:events:backfill" then
    return ("heber.backfill." ++ token, "HEBER_BACKFILL")
  if entry.topic = "heber:watch" then return ("heber.watch." ++ token, "HEBER_WATCH")
  return ("heber.live." ++ token, "HEBER_LIVE")

/-- The stream of a lane, and the prefix of the subjects that it holds. -/
def Lane.stream : Lane → String × String
  | .live => ("heber.live.", "HEBER_LIVE")
  | .backfill => ("heber.backfill.", "HEBER_BACKFILL")
  | .watch => ("heber.watch.", "HEBER_WATCH")

/-! ## They agree -/

@[simp]
theorem pendingFilter_some {lane : Lane} {topic : String} :
    Table.pendingFilter (some lane) topic = true ↔ lane = Lane.ofTopic topic := by
  unfold Lane.ofTopic
  by_cases backfill : topic = "heber:events:backfill"
  · subst backfill
    cases lane <;> simp [Table.pendingFilter]
  · by_cases watch : topic = "heber:watch"
    · subst watch
      cases lane <;> simp [Table.pendingFilter]
    · cases lane <;> simp [Table.pendingFilter, backfill, watch]

theorem laneSummaries_pendingCount (table : Table) (lane : Lane) :
    (table.laneSummaries lane).pendingCount =
      table.rows.countP fun row => Lane.ofTopic row.topic = lane := by
  rw [List.countP_eq_length_filter]
  rfl

theorem subjectForEntry_ok {readFeed : Bytes → Except OutboxError (Option String)}
    {entry : OutboxEntry} {feed : Option String} (reads : readFeed entry.payload = .ok feed) :
    subjectForEntry readFeed entry =
      .ok ((Lane.ofTopic entry.topic).stream.1 ++ subjectToken feed,
        (Lane.ofTopic entry.topic).stream.2) := by
  simp only [subjectForEntry, reads, bind, Except.bind, Lane.ofTopic]
  split
  · rfl
  · split <;> rfl

/-- What `pending` returns for a lane: its rows in order, up to the limit. -/
theorem pending_lane (table : Table) (limit : Nat) (positive : 1 ≤ limit) (lane : Lane) :
    table.pending limit (some lane) =
      .ok ((table.rows.filter fun row => Lane.ofTopic row.topic = lane).take limit) := by
  have same : (fun row : OutboxEntry => Table.pendingFilter (some lane) row.topic) =
      fun row => decide (Lane.ofTopic row.topic = lane) := by
    funext row
    rw [Bool.eq_iff_iff, pendingFilter_some, decide_eq_true_eq]
    exact eq_comm
  rw [Table.pending, if_neg (Nat.not_lt.mpr positive), same]

end Outbox
end DataGateway
