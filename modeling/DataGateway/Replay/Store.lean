import DataGateway.Replay.World

/-!
# The replay store

An append that fails leaves a mark behind, in memory and in a file, and the next one that succeeds
writes the mark into the stream before its own event.  A read checks that its range has not been
trimmed, and then asks for the range.
-/

namespace DataGateway
namespace Replay

open Coroutine

/-- What a task of the gateway runs. -/
abbrev ReplayProgram (Client Envelope Text α : Type) :=
  Coroutine (@ReplayCommand.Reply Client Envelope Text) ReplayError α

/-- A persisted event. -/
structure ReplayEntry (Envelope : Type) where
  cursor : Cursor
  envelope : Envelope
  deriving DecidableEq

namespace RedisFlowReplayStore

variable {Client Envelope Text : Type} (format : EnvelopeFormat Envelope Text)

/-- A probe, under the lock. -/
def probe : ReplayProgram Client Envelope Text Bool :=
  .suspend .probeDue fun
    | .available => .finish (.ok true)
    | .early => .finish (.ok false)
    | .due => .suspend .initializeStore fun ready => .finish (.ok ready)

/-- `ensure_available`. -/
def ensureAvailable : ReplayProgram Client Envelope Text Bool :=
  .suspend .available fun available =>
    if available then .finish (.ok true)
    else .suspend .acquireProbe fun _ =>
      probe.ensuring (.suspend .releaseProbe fun _ => .finish (.ok ()))

/-- An operation on a store that is available, or becomes available. -/
def whenAvailable {α : Type} (operation otherwise : ReplayProgram Client Envelope Text α) :
    ReplayProgram Client Envelope Text α :=
  .suspend .available fun available =>
    if available then operation
    else ensureAvailable.bind fun usable => if usable then operation else otherwise

/-- The current client is marked, and its exception raised again. -/
def failed {α : Type} (client : Option Nat) (fault : Fault) :
    ReplayProgram Client Envelope Text α :=
  .suspend (.markUnhealthy client) fun _ => .raise (.fault fault)

/-- The mark of a gap is written into the stream. -/
def recordGap (client : Option Nat) : ReplayProgram Client Envelope Text Unit :=
  .suspend (.xadd client ⟨true, none⟩) fun
    | .ok _ => .suspend (.setGapPending false) fun _ => .finish (.ok ())
    | .error fault => failed client fault

/-- An envelope that is not stored leaves a gap. -/
def noteGap (client : Option Nat) (fault : Fault) : ReplayProgram Client Envelope Text Cursor :=
  .suspend (.markUnhealthy client) fun _ =>
    .suspend (.setGapPending true) fun _ => .raise (.fault fault)

/-- The envelope is stored. -/
def storeEnvelope (client : Option Nat) (envelope : Envelope) :
    ReplayProgram Client Envelope Text Cursor :=
  match format.dumps envelope with
  | none => noteGap client (.other "Type is not JSON serializable")
  | some text =>
      .suspend (.xadd client ⟨false, some text⟩) fun
        | .ok cursor => .finish (.ok cursor)
        | .error fault => noteGap client fault

/-- `append`. -/
def append (envelope : Envelope) : ReplayProgram Client Envelope Text Cursor :=
  whenAvailable
    (.suspend .client fun client =>
      .suspend .gapPending fun pending =>
        if pending then (recordGap client).bind fun _ => storeEnvelope format client envelope
        else storeEnvelope format client envelope)
    (.suspend (.setGapPending true) fun _ => .raise .unavailable)

/-- `high_watermark`. -/
def highWatermark : ReplayProgram Client Envelope Text Cursor :=
  whenAvailable
    (.suspend .client fun client =>
      .suspend (.xrevrange client) fun
        | .ok latest => .finish (.ok (latest.getD Cursor.origin))
        | .error fault => failed client fault)
    (.raise .unavailable)

/-- The events of a range; a gap or an entry that cannot be read ends it. -/
def entriesOf : List (Entry Text) → Except ReplayError (List (ReplayEntry Envelope))
  | [] => .ok []
  | row :: rest =>
      if row.fields.replayGap then .error (.gap row.cursor)
      else
        match row.fields.envelope.map format.loads with
        | none => .error (.noEnvelope row.cursor)
        | some none => .error (.fault (.other "unexpected character"))
        | some (some none) => .error (.malformed row.cursor)
        | some (some (some envelope)) =>
            (entriesOf rest).map fun entries => ⟨row.cursor, envelope⟩ :: entries

/-- The range of a read, once the cursor is known to be retained. -/
def rangeEntries (maxReplayEvents : Nat) (client : Option Nat) (after through : Cursor) :
    ReplayProgram Client Envelope Text (List (ReplayEntry Envelope)) :=
  .suspend (.xrange client after through (maxReplayEvents + 1)) fun
    | .ok rows =>
        if maxReplayEvents < rows.length then .raise (.limit maxReplayEvents)
        else .finish (entriesOf format rows)
    | .error fault => .raise (.fault fault)

/-- `_read_range`. -/
def readRange (maxReplayEvents : Nat) (client : Option Nat) (after through : Cursor) :
    ReplayProgram Client Envelope Text (List (ReplayEntry Envelope)) :=
  .suspend (.xinfoStream client) fun
    | .ok (some first) =>
        if after < first then .raise (.historyTrimmed after first)
        else rangeEntries format maxReplayEvents client after through
    | .ok none => rangeEntries format maxReplayEvents client after through
    | .error fault => .raise (.fault fault)

/-- `read`. -/
def read (maxReplayEvents : Nat) (after : Option Cursor) (through : Cursor) :
    ReplayProgram Client Envelope Text (List (ReplayEntry Envelope)) :=
  whenAvailable
    (match after with
      | none => .finish (.ok [])
      | some after =>
          if after = through then .finish (.ok [])
          else .suspend .client fun client =>
            (readRange format maxReplayEvents client after through).catching fun
              | .fault (.redis message) => failed client (.redis message)
              | error => .raise error)
    (.raise .unavailable)

/-! ## Probes and rows -/

/-- The commands of a probe. -/
def Probing : ReplayCommand Client Envelope Text → Prop
  | .available | .acquireProbe | .probeDue | .initializeStore | .releaseProbe => True
  | _ => False

section Probing

variable {γ : Type} {K : Contract (@ReplayCommand.Reply Client Envelope Text) γ} {state : γ}

/-- A probe answers, and does not matter to a contract in which it is neutral. -/
theorem ensureAvailable_meets (neutral : ∀ command, Probing command →
      K.may command state ∧ ∀ reply next, K.after command state reply next → next = state) :
    Meets K (fun outcome last => (∃ usable, outcome = .ok usable) ∧ last = state) state
      ensureAvailable := by
  refine ⟨(neutral .available trivial).1, fun available next moved => ?_⟩
  obtain rfl := (neutral .available trivial).2 available next moved
  cases available with
  | true => exact ⟨⟨true, rfl⟩, rfl⟩
  | false =>
      refine ⟨(neutral .acquireProbe trivial).1, fun _ held moved => ?_⟩
      obtain rfl := (neutral .acquireProbe trivial).2 _ held moved
      have probes :
          Meets K (fun outcome last => (∃ usable, outcome = .ok usable) ∧ last = held) held
          probe := by
        refine ⟨(neutral .probeDue trivial).1, fun found next moved => ?_⟩
        obtain rfl := (neutral .probeDue trivial).2 found next moved
        cases found with
        | available => exact ⟨⟨true, rfl⟩, rfl⟩
        | early => exact ⟨⟨false, rfl⟩, rfl⟩
        | due =>
            exact ⟨(neutral .initializeStore trivial).1, fun ready last moved =>
              ⟨⟨ready, rfl⟩, (neutral .initializeStore trivial).2 ready last moved⟩⟩
      refine probes.resolve ?_
      rintro _ _ ⟨⟨usable, rfl⟩, rfl⟩
      exact ⟨(neutral .releaseProbe trivial).1, fun _ last moved =>
        ⟨⟨usable, rfl⟩, (neutral .releaseProbe trivial).2 _ last moved⟩⟩

/-- An operation and its refusal start where the probe starts. -/
theorem whenAvailable_meets {α : Type} {post : Except ReplayError α → γ → Prop}
    {operation otherwise : ReplayProgram Client Envelope Text α}
    (neutral : ∀ command, Probing command →
      K.may command state ∧ ∀ reply next, K.after command state reply next → next = state)
    (usable : Meets K post state operation) (unusable : Meets K post state otherwise) :
    Meets K post state (whenAvailable operation otherwise) := by
  refine ⟨(neutral .available trivial).1, fun available next moved => ?_⟩
  obtain rfl := (neutral .available trivial).2 available next moved
  cases available with
  | true => exact usable
  | false =>
      refine (ensureAvailable_meets neutral).bind ?_ ?_
      · rintro ready _ ⟨_, rfl⟩
        cases ready with
        | true => exact usable
        | false => exact unusable
      · rintro error _ ⟨⟨_, impossible⟩, _⟩
        cases impossible

end Probing

theorem ensureAvailable_uses :
    (ensureAvailable : ReplayProgram Client Envelope Text Bool).Uses Probing := by
  refine ⟨trivial, fun available => ?_⟩
  cases available with
  | true => trivial
  | false =>
      refine ⟨trivial, fun _ => Uses.resolve ⟨trivial, fun found => ?_⟩ fun outcome =>
        ⟨trivial, fun _ => trivial⟩⟩
      cases found with
      | available | early => trivial
      | due => exact ⟨trivial, fun _ => trivial⟩

theorem whenAvailable_uses {α : Type} {allowed : ReplayCommand Client Envelope Text → Prop}
    {operation otherwise : ReplayProgram Client Envelope Text α}
    (probes : ∀ command, Probing command → allowed command) (usable : operation.Uses allowed)
    (unusable : otherwise.Uses allowed) : (whenAvailable operation otherwise).Uses allowed := by
  refine ⟨probes _ trivial, fun available => ?_⟩
  cases available with
  | true => exact usable
  | false =>
      refine (ensureAvailable_uses.mono probes).bind fun ready => ?_
      cases ready with
      | true => exact usable
      | false => exact unusable

/-- The commands of a read. -/
def Consulting : ReplayCommand Client Envelope Text → Prop
  | .client | .markUnhealthy _ | .xrevrange _ | .xinfoStream _ | .xrange _ _ _ _ => True
  | command => Probing command

theorem consulting_of_probing {command : ReplayCommand Client Envelope Text}
    (probing : Probing command) : Consulting command := by
  cases command with
  | available | acquireProbe | probeDue | initializeStore | releaseProbe => trivial
  | _ => exact probing.elim

/-- A read only reads. -/
theorem read_consults {format : EnvelopeFormat Envelope Text} {maxReplayEvents : Nat}
    {after : Option Cursor} {through : Cursor} :
    (read format maxReplayEvents after through :
      ReplayProgram Client Envelope Text (List (ReplayEntry Envelope))).Uses Consulting := by
  refine whenAvailable_uses (fun _ => consulting_of_probing) ?_ trivial
  cases after with
  | none => trivial
  | some after =>
      dsimp only
      split
      · trivial
      refine ⟨trivial, fun client => ?_⟩
      have ranges : (rangeEntries format maxReplayEvents client after through :
          ReplayProgram Client Envelope Text (List (ReplayEntry Envelope))).Uses Consulting := by
        refine ⟨trivial, fun rows => ?_⟩
        cases rows with
        | error fault => trivial
        | ok rows =>
            dsimp only
            split <;> trivial
      refine Uses.catching ⟨trivial, fun first => ?_⟩ fun error => ?_
      · cases first with
        | error fault => trivial
        | ok first =>
            cases first with
            | none => exact ranges
            | some first =>
                dsimp only
                split
                · trivial
                · exact ranges
      · split
        · exact ⟨trivial, fun _ => trivial⟩
        · trivial

/-- An entry of the stream as it is replayed. -/
def Replays (row : Entry Text) (entry : ReplayEntry Envelope) : Prop :=
  entry.cursor = row.cursor ∧
    ∃ text, row.fields.envelope = some text ∧ format.loads text = some (some entry.envelope)

/-- A range without a mark of a gap is replayed row by row. -/
theorem entriesOf_eq_ok {format : EnvelopeFormat Envelope Text} {rows : List (Entry Text)}
    {entries : List (ReplayEntry Envelope)} (read : entriesOf format rows = .ok entries) :
    (∀ row ∈ rows, row.fields.replayGap = false ∧
      ∃ entry ∈ entries, Replays format row entry) ∧
      entries.map ReplayEntry.cursor = rows.map Entry.cursor := by
  induction rows generalizing entries with
  | nil =>
      cases read
      exact ⟨fun row mem => absurd mem List.not_mem_nil, rfl⟩
  | cons row rest ih =>
      unfold entriesOf at read
      split at read
      · cases read
      next whole =>
        split at read
        · cases read
        · cases read
        · cases read
        next envelope decoded =>
          cases remaining : entriesOf format rest with
          | error error =>
              rw [remaining] at read
              cases read
          | ok others =>
              rw [remaining] at read
              cases read
              obtain ⟨text, found, loaded⟩ := Option.map_eq_some_iff.mp decoded
              obtain ⟨each, cursors⟩ := ih remaining
              refine ⟨fun other mem => ?_, congrArg (row.cursor :: ·) cursors⟩
              rcases List.mem_cons.mp mem with rfl | mem
              · exact ⟨by simpa using whole, _, .head _, rfl, text, found, loaded⟩
              · obtain ⟨clear, entry, listed, replays⟩ := each other mem
                exact ⟨clear, entry, .tail _ listed, replays⟩

end RedisFlowReplayStore

/-! ## A gateway over plain text -/

/-- Envelopes that are their own text and symbol. -/
def plainFormat : EnvelopeFormat String String :=
  ⟨fun envelope => envelope = "", id, some, fun text => some (some text)⟩

/-- The gateway over plain text. -/
abbrev asciiReplay : Machine (Nat × Nat) (@ReplayCommand.Reply Unit String String)
    (ReplayWorld (Nat × Nat) Unit String String) :=
  @flowReplay Nat Unit String String _ _ asciiUnicode plainFormat

/-- A gateway that has just connected to an empty stream. -/
def connected : ReplayWorld (Nat × Nat) Unit String String where
  redis := .empty
  sentinel := some false
  process := 0
  clock := 0
  store := ⟨some 0, true, 0, false, false⟩
  clients := 1
  flow := .initial
  pendingReplays _ := none
  barriers := []
  deliveries _ := []
  outbox _ := []
  history := []
  inspected _ := 0

/-- Everything succeeds; an entry gets this id, and this many others are trimmed. -/
def succeeding (cursor : Cursor) (trim : Nat) :
    (command : ReplayCommand Unit String String) → command.Outcome
  | .xadd _ _ => .stored cursor trim none
  | .initializeStore => true
  | .setGapPending _ => true
  | .send _ _ _ => true
  | .xrevrange _ => none
  | .xinfoStream _ => none
  | .xrange _ _ _ _ => none
  | .available | .acquireProbe | .probeDue | .releaseProbe | .client | .gapPending
  | .markUnhealthy _ | .publish _ | .dispatch _ _ | .subscribe _ _ | .unsubscribe _ _
  | .clientDisconnect _ | .prepare _ _ _ | .withdraw _ _ | .setThrough _ _ | .startReplay _
  | .takeBuffered _ _ | .endTurn _ _ | .abandon _ _ => ()

/-- The stream refuses entries, and everything else succeeds. -/
def refusing : (command : ReplayCommand Unit String String) → command.Outcome
  | .xadd _ _ => .refused (.redis "connection lost")
  | command => succeeding .origin 0 command

/-- A task takes some turns. -/
def turns (task : Nat × Nat) (count : Nat)
    (choose : (command : ReplayCommand Unit String String) → command.Outcome) :
    List (Machine.Turn asciiReplay) :=
  List.replicate count (.run task choose)

end Replay
end DataGateway
