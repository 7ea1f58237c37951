import DataGateway.Python.Text
import Mathlib.Algebra.Ring.Int.Defs
import Mathlib.Algebra.Ring.Nat
import Mathlib.Data.List.Basic

/-!
# The outbox table

`SQLiteOutbox`: events that wait for the broker's acknowledgement, as rows of one table with an
increasing primary key and a unique pair of topic and event id.  Every method that writes is one
transaction, which commits as a whole or leaves the table as it was.
-/

namespace DataGateway
namespace Outbox

abbrev Bytes := List UInt8

/-- The exceptions of the outbox. -/
inductive OutboxError
  | value (message : String)
  | type (message : String)
  /-- `OutboxIntegrityError`, with the identity and the topic of its message. -/
  | integrity (identity topic : String)
  /-- `OutboxCapacityError`. -/
  | capacity (message : String)
  /-- Any other error of `sqlite3`. -/
  | sqlite (message : String)
  /-- The error of a connection that was closed. -/
  | closed
  deriving DecidableEq, Repr

/-- `OutboxEntry`. -/
structure OutboxEntry where
  sequence : Nat
  topic : String
  eventId : String
  payload : Bytes
  payloadDigest : String
  attempts : Nat
  lastError : Option String
  createdAt : String
  deriving DecidableEq, Repr

/-- The columns of the unique constraint. -/
abbrev OutboxEntry.key (entry : OutboxEntry) : String × String := (entry.topic, entry.eventId)

/-- The database: the rows by increasing sequence, and the counter behind `AUTOINCREMENT`. -/
structure Table where
  rows : List OutboxEntry
  lastSequence : Nat
  deriving DecidableEq, Repr

/-- A database without rows, as `CREATE TABLE` leaves it. -/
def Table.empty : Table := ⟨[], 0⟩

/-- What the gateway needs of dictionaries and of `hashlib`. -/
class Encoding (Dict : Type) where
  /-- `json.dumps` with sorted keys and compact separators. -/
  dumps : Dict → Except OutboxError String
  /-- The value under `"event_id"`, if it is a `str`. -/
  eventId : Dict → Option String
  /-- `hashlib.sha256(payload).hexdigest()`. -/
  sha256 : Bytes → String

/-- `dict | str | bytes`. -/
inductive EventData (Dict : Type)
  | dict (data : Dict)
  | text (data : String)
  | bytes (data : Bytes)
  deriving DecidableEq, Repr

/-- A message of a batch: its topic and its data. -/
abbrev Message (Dict : Type) := String × EventData Dict

/-- The arguments of one `INSERT`: topic, identity and payload. -/
structure Prepared where
  topic : String
  identity : String
  payload : Bytes
  deriving DecidableEq, Repr

abbrev Prepared.key (message : Prepared) : String × String := (message.topic, message.identity)

/-- The statements of an admission, by the position of the message they are about. -/
inductive Statement
  | select (position : Nat)
  | sum
  | insert (position : Nat)
  | reselect (position : Nat)
  | commit
  deriving DecidableEq, Repr

/-- What the machine decides during one transaction. -/
structure Disk where
  /-- `shutil.disk_usage(path.parent).free`. -/
  free : Nat
  /-- The default of `created_at`. -/
  now : String
  /-- Statements at which `sqlite3` raises an error of its own. -/
  fails : Statement → Bool

variable {Dict : Type} [Encoding Dict]

/-- `_serialize`. -/
def serialize : EventData Dict → Except OutboxError Bytes
  | .bytes data => .ok data
  | .text data => .ok data.toUTF8.toList
  | .dict data => (Encoding.dumps data).map fun text => text.toUTF8.toList

/-- `_event_id`. -/
def eventId (data : EventData Dict) (explicit : Option String) : Except OutboxError String :=
  let identity := explicit <|> match data with
    | .dict dict => Encoding.eventId dict
    | _ => none
  match identity with
  | some identity =>
      if Text.blank identity then .error (.value "outbox admission requires a nonempty event_id")
      else .ok identity
  | none => .error (.value "outbox admission requires a nonempty event_id")

/-- The arguments of `_admit_prepared` for one message. -/
def prepare (message : Message Dict) (explicit : Option String) : Except OutboxError Prepared := do
  let identity ← eventId message.2 explicit
  let payload ← serialize message.2
  return ⟨message.1, identity, payload⟩

namespace Table

/-- `WHERE topic = ? AND event_id = ?`. -/
def lookup (table : Table) (key : String × String) : Option OutboxEntry :=
  table.rows.find? (·.key = key)

/-- `_pending_bytes`. -/
def pendingBytes (table : Table) : Nat := (table.rows.map (·.payload.length + 512)).sum

variable (Dict) in
/-- The row of an inserted message, with the defaults of the other columns. -/
def newRow (disk : Disk) (sequence : Nat) (message : Prepared) : OutboxEntry where
  sequence := sequence
  topic := message.topic
  eventId := message.identity
  payload := message.payload
  payloadDigest := Encoding.sha256 Dict message.payload
  attempts := 0
  lastError := none
  createdAt := disk.now

variable (Dict) in
/-- `INSERT INTO outbox`, which fails on a stored pair of topic and event id. -/
def insert (disk : Disk) (table : Table) (message : Prepared) : Option Table :=
  if (table.lookup message.key).isSome then none
  else some {
    rows := table.rows ++ [newRow Dict disk (table.lastSequence + 1) message]
    lastSequence := table.lastSequence + 1 }

variable (Dict) in
/-- The stored row is the message again. -/
def sameContent (existing : OutboxEntry) (message : Prepared) : Bool :=
  existing.payload = message.payload ∧
    existing.payloadDigest = Encoding.sha256 Dict message.payload

variable (Dict) in
/-- The first pass: refuse reused identities and count the bytes of new events. -/
def precheck (disk : Disk) (table : Table) : Nat → List Prepared → Except OutboxError Nat
  | _, [] => .ok 0
  | position, message :: rest =>
      if disk.fails (.select position) then .error (.sqlite "SELECT")
      else match table.lookup message.key with
        | some existing =>
            if sameContent Dict existing message then precheck disk table (position + 1) rest
            else .error (.integrity message.identity message.topic)
        | none => (precheck disk table (position + 1) rest).map (message.payload.length + 512 + ·)

variable (Dict) in
/-- The second pass: insert every message and tell which ones were new. -/
def insertAll (disk : Disk) : Nat → List Prepared → Table → Except OutboxError (List Bool × Table)
  | _, [], table => .ok ([], table)
  | position, message :: rest, table =>
      if disk.fails (.insert position) then .error (.sqlite "INSERT")
      else match table.insert Dict disk message with
        | some after =>
            (insertAll disk (position + 1) rest after).map fun (flags, last) =>
              (true :: flags, last)
        | none =>
            if disk.fails (.reselect position) then .error (.sqlite "SELECT")
            else match table.lookup message.key with
              | some existing =>
                  if sameContent Dict existing message then
                    (insertAll disk (position + 1) rest table).map fun (flags, last) =>
                      (false :: flags, last)
                  else .error (.integrity message.identity message.topic)
              | none => .error (.integrity message.identity message.topic)

/-- A transaction: a table to commit, or an error that rolls everything back. -/
def transaction {α : Type} (table : Table) (body : Except OutboxError (α × Table)) :
    Except OutboxError α × Table :=
  match body with
  | .ok (result, after) => (.ok result, after)
  | .error error => (.error error, table)

variable (Dict) in
/-- `_admit_prepared`. -/
def admitPrepared (maxBytes : Option Nat) (disk : Disk) (table : Table) (messages : List Prepared) :
    Except OutboxError (List Bool) × Table :=
  if messages.any fun message => Text.blank message.topic then
    (.error (.value "outbox admission requires a nonempty topic"), table)
  else table.transaction do
    let additionalBytes ← precheck Dict disk table 0 messages
    if disk.fails .sum ∧ maxBytes.isSome then throw (.sqlite "SELECT")
    if maxBytes.any (· < table.pendingBytes + additionalBytes) then
      throw (.capacity "outbox admission would exceed configured limit")
    if disk.free ≤ additionalBytes then
      throw (.capacity "outbox admission would exhaust available disk space")
    let result ← insertAll Dict disk 0 messages table
    if disk.fails .commit then throw (.sqlite "COMMIT")
    return result

/-- `admit_many`. -/
def admitMany (maxBytes : Option Nat) (disk : Disk) (table : Table)
    (messages : List (Message Dict)) :
    Except OutboxError (List Bool) × Table :=
  match messages.mapM (prepare · none) with
  | .error error => (.error error, table)
  | .ok prepared => admitPrepared Dict maxBytes disk table prepared

/-- `admit`. -/
def admitMessage (maxBytes : Option Nat) (disk : Disk) (table : Table) (message : Message Dict)
    (explicit : Option String) : Except OutboxError Bool × Table :=
  match prepare message explicit with
  | .error error => (.error error, table)
  | .ok prepared =>
      let (result, after) := admitPrepared Dict maxBytes disk table [prepared]
      (result.map (·.headD false), after)

/-- `UPDATE outbox SET attempts = attempts + 1, last_error = ? WHERE sequence = ?`. -/
def markFailed (table : Table) (sequence : Nat) (error : String) : Table :=
  { table with rows := table.rows.map fun row =>
      if row.sequence = sequence then
        { row with attempts := row.attempts + 1, lastError := some error }
      else row }

/-- How many rows have the sequence. -/
def rowcount (table : Table) (sequence : Nat) : Nat :=
  table.rows.countP (·.sequence = sequence)

/-- `acknowledge`, where `sqlite3` may raise an error of its own. -/
def acknowledge (fails : Bool) (table : Table) (sequence : Nat) : Except OutboxError Bool × Table :=
  table.transaction <|
    if fails then .error (.sqlite "DELETE")
    else .ok (table.rowcount sequence = 1,
      { table with rows := table.rows.filter (·.sequence ≠ sequence) })

/-- `record_failure`, where `sqlite3` may raise an error of its own. -/
def recordFailure (fails : Bool) (table : Table) (sequence : Nat) (error : String) :
    Except OutboxError Bool × Table :=
  table.transaction <|
    if fails then .error (.sqlite "UPDATE")
    else .ok (table.rowcount sequence = 1, table.markFailed sequence error)

/-- `settle_publications`, where `sqlite3` may raise an error of its own. -/
def settlePublications (fails : Bool) (table : Table) (acknowledged : List Nat)
    (failures : List (Nat × String)) : Except OutboxError (Nat × Nat) × Table :=
  let failed := failures.map (·.1)
  if ¬ (acknowledged.Nodup ∧ failed.Nodup) then
    (.error (.value "publication settlement contains duplicate sequences"), table)
  else if acknowledged.any (failed.contains ·) then
    (.error (.value "publication settlement cannot acknowledge and fail the same sequence"), table)
  else table.transaction <|
    if fails then .error (.sqlite "DELETE")
    else
      let rest : Table := { table with rows := table.rows.filter (·.sequence ∉ acknowledged) }
      .ok ((table.rows.length - rest.rows.length, (failed.map rest.rowcount).sum),
        failures.foldl (fun current (sequence, error) => current.markFailed sequence error) rest)

/-- What marking a failure and deleting the acknowledged rows preserve, a settlement preserves. -/
theorem settlePublications_preserves {P : Table → Prop} {fails : Bool} {table : Table}
    {acknowledged : List Nat} {failures : List (Nat × String)}
    (marked : ∀ current sequence error, P current → P (current.markFailed sequence error))
    (kept : P table)
    (deleted : P { table with rows := table.rows.filter (·.sequence ∉ acknowledged) }) :
    P (table.settlePublications fails acknowledged failures).2 := by
  unfold settlePublications
  dsimp only
  split
  · exact kept
  split
  · exact kept
  cases fails
  · exact List.foldlRecOn failures _ deleted fun current holds failure _ => marked current _ _ holds
  · exact kept

end Table

end Outbox
end DataGateway
