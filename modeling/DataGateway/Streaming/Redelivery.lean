import DataGateway.Envelope.Wrap
import DataGateway.Python.Join
import DataGateway.Streaming.Feeds
import Std.Data.String.ToNat

/-!
# Messages delivered twice

Every message is numbered by its symbol and its kind of data before it is wrapped, and the number is
hashed with it.  A message that is delivered again keeps its id only when it gets the same number.
-/

namespace DataGateway
namespace Streaming

open Envelope

variable {DateTime Digest : Type}

/-! ## Sequence numbers -/

/-- `_counters` of a `SequenceTracker`, for keys of any type. -/
abbrev SequenceCounters (κ : Type) := OrderedDict κ Nat

/-- `next_seq` for the key `(symbol, feed)`, with at most so many counters. -/
def SequenceCounters.nextSeq {κ : Type} [DecidableEq κ] (cap : Nat) (counters : SequenceCounters κ)
    (key : κ) : Nat × SequenceCounters κ :=
  let seq := (counters.get? key).getD 0 + 1
  let counted := (counters.set key seq).moveToEnd key
  (seq, if cap < counted.size then counted.popFirst else counted)

/-- `SequenceTracker._counters`. -/
abbrev SequenceTracker (DateTime : Type) := SequenceCounters (Value DateTime × DataType)

/-- `SequenceTracker._MAX_COUNTERS`. -/
def maxCounters : Nat := 50000

section Tracker

variable [DecidableEq DateTime]

/-- How many messages have been counted. -/
def SequenceTracker.counted (tracker : SequenceTracker DateTime) (symbol : Value DateTime)
    (feed : DataType) : Nat :=
  (tracker.get? (symbol, feed)).getD 0

/-- `next_seq`. -/
def SequenceTracker.nextSeq (tracker : SequenceTracker DateTime) (symbol : Value DateTime)
    (feed : DataType) : Nat × SequenceTracker DateTime :=
  SequenceCounters.nextSeq maxCounters tracker (symbol, feed)

end Tracker

/-! ## Messages -/

/-- `ANCILLARY_FIELD_RENAMES`. -/
def ancillaryFieldRenames : DataType → List (String × String)
  | .lulds => [("t", "timestamp"), ("u", "upper_limit"), ("d", "lower_limit"), ("i", "indicator")]
  | .statuses =>
      [("t", "timestamp"), ("sc", "status_code"), ("sm", "status_message"), ("rc", "reason_code"),
        ("rm", "reason_message"), ("z", "tape")]
  | .corrections =>
      [("t", "timestamp"), ("x", "exchange"), ("oi", "original_trade_id"), ("op", "original_price"),
        ("os", "original_size"), ("oc", "original_conditions"), ("ci", "corrected_trade_id"),
        ("cp", "corrected_price"), ("cs", "corrected_size"), ("cc", "corrected_conditions"),
        ("z", "tape")]
  | .auctions => [("p", "auction_price")]
  | _ => []

/-- The kind of data of a message, for the types that are handled. -/
def messageDataType (message : Payload DateTime) : Option DataType :=
  (message.get "T").str?.bind fun type => messageTypeToDataType.lookup type

/-- The symbols a message is about. -/
def messageSymbols (dataType : DataType) (message : Payload DateTime) : List (Value DateTime) :=
  let symbol := message.get "S"
  let own := if symbol.truthy then [symbol] else []
  match dataType with
  | .news =>
      let symbols := match message.get "symbols" with
        | .list items _ => own ++ (items.filter (·.truthy)).map .scalar
        | _ => own
      if symbols = [] then [.str "*"] else symbols
  | _ => own

/-- What is wrapped: bars get a timeframe, the ancillary kinds get other keys. -/
def prepared (dataType : DataType) (message : Payload DateTime) : Payload DateTime :=
  let timed := if dataType = .bars ∧ message.contains "timeframe" = false then
    message.set "timeframe" (.str "1Min") else message
  let renames := ancillaryFieldRenames dataType
  if renames = [] then timed
  else timed.items.foldl (fun renamed item =>
    renamed.set ((renames.lookup item.1).getD item.1) item.2) .empty

/-- A message as it arrives, with what its handling reads of the rest of the program. -/
structure Arrival (DateTime : Type) where
  streamType : AlpacaStreamType
  message : Payload DateTime
  /-- There is a connection for the stream, whether or not a client is subscribed. -/
  connected : Bool
  /-- No validator was asked, or the validator took the message. -/
  valid : Bool
  tsIngest : DateTime

/-- The part of the multiplexer that ids depend on. -/
structure StreamState (DateTime : Type) where
  seqTracker : SequenceTracker DateTime
  transportFailed : Bool

/-- A step of the multiplexer. -/
inductive StreamEvent (DateTime : Type)
  | message (arrival : Arrival DateTime)
  /-- `_fail_transport`. -/
  | failTransport

/-- The message brings a timestamp that can be read. -/
def ownTimestamp (event : Payload DateTime) : Bool :=
  let raw := event.firstTrue ["t", "timestamp"]
  raw.truthy && match raw with
    | .str _ | .int _ | .dateTime _ => true
    | .scalar (.object value) =>
        value.isoformat.isSome || value.toDatetime.isSome || value.fromtimestamp.isSome
    | _ => false

/-- The sequence number and the timestamp can be read back from the hashed text. -/
theorem hashedText_eq_iff_of_sequence [DateTimes DateTime]
    {provider feed instrumentKey first second : String} {m n : Nat}
    {fields : List (Value DateTime)} :
    hashedText provider feed instrumentKey first (some m) fields =
        hashedText provider feed instrumentKey second (some n) fields ↔ first = second ∧ m = n := by
  have digits (k : Nat) : Text.pieces '|' [toString k] = [(toString k).toList] := by
    refine Text.pieces_of_forall_notMem fun part mem => ?_
    obtain rfl := List.mem_singleton.mp mem
    intro bar
    have digit : '|'.isDigit = true :=
      Nat.isDigit_of_mem_toDigits (by omega) (by omega) (Nat.toList_repr ▸ bar)
    revert digit
    decide
  refine ⟨fun same => ?_, fun ⟨time, number⟩ => by rw [time, number]⟩
  have cut := (Text.join_eq_iff '|' (by simp) (by simp)).mp same
  have split (text : String) (k : Nat) : Text.pieces '|' ([provider, feed, instrumentKey, text] ++
      ((some k).map toString).toList ++ presentTexts fields) =
      Text.pieces '|' [provider, feed, instrumentKey] ++ ((Text.pieces '|' [text] ++
        [(toString k).toList]) ++ Text.pieces '|' (presentTexts fields)) := by
    rw [← digits k, ← Text.pieces_append, ← Text.pieces_append, ← Text.pieces_append]
    rfl
  rw [split, split, List.append_cancel_left_eq, List.append_cancel_right_eq] at cut
  obtain ⟨times, numbers⟩ := List.append_inj' cut rfl
  constructor
  · have joined := (Text.join_eq_iff '|' (List.cons_ne_nil _ _) (List.cons_ne_nil _ _)).mpr times
    rwa [String.intercalate_singleton, String.intercalate_singleton] at joined
  · exact Nat.repr_injective (String.toList_injective (List.singleton_inj.mp numbers))

section Handling

variable [DecidableEq DateTime] [Unicode] [DateTimes DateTime]

/-- What a message is counted under: its kind of data and its first symbol. -/
def countedUnder (message : Payload DateTime) : Option (DataType × Value DateTime) :=
  match messageDataType message with
  | none => none
  | some dataType => match messageSymbols dataType message with
      | [] => none
      | symbol :: symbols =>
          if (symbol :: symbols).all (·.hashable) then some (dataType, symbol) else none

/-- `_handle_message` up to the envelope, for a hash function. -/
def handleMessage (blake2b : ByteArray → Digest) (state : StreamState DateTime)
    (arrival : Arrival DateTime) : Option (EventEnvelope DateTime Digest) × StreamState DateTime :=
  if state.transportFailed ∨ !arrival.connected ∨ !arrival.valid then (none, state)
  else match countedUnder arrival.message with
    | none => (none, state)
    | some (dataType, symbol) =>
        let (seq, seqTracker) := state.seqTracker.nextSeq symbol dataType
        ((fastWrapStreamingEvent blake2b (prepared dataType arrival.message) "alpaca" dataType.name
            arrival.streamType.instrumentType arrival.tsIngest (some seq)).toOption,
          { state with seqTracker := seqTracker })

/-- One step of the multiplexer. -/
def StreamState.step (blake2b : ByteArray → Digest) (state : StreamState DateTime) :
    StreamEvent DateTime → StreamState DateTime
  | .message arrival => (handleMessage blake2b state arrival).2
  | .failTransport => { state with transportFailed := true }

/-- How many messages have been counted like this one. -/
def StreamState.countBefore (state : StreamState DateTime) (message : Payload DateTime) : Nat :=
  match countedUnder message with
  | none => 0
  | some (dataType, symbol) => state.seqTracker.counted symbol dataType

/-! ## Which ids agree -/

omit [DecidableEq DateTime] [Unicode] in
/-- A message with a timestamp of its own has it whenever it arrives, any other one has the time at
which it arrives. -/
theorem streamTimestamp_eq_iff {event : Payload DateTime} {first second : DateTime} :
    streamTimestamp event first = streamTimestamp event second ↔
      ownTimestamp event = true ∨ DateTimes.isoformat first = DateTimes.isoformat second := by
  unfold streamTimestamp ownTimestamp
  dsimp only
  cases (event.firstTrue ["t", "timestamp"]).truthy with
  | false => simp
  | true =>
      rcases event.firstTrue ["t", "timestamp"] with ⟨_ | text | number | value | object⟩ | items
      · simp
      · simp
      · simp
      · simp
      · rcases object with ⟨_, _, _, _, _, _ | _, _ | _, _ | _⟩ <;> simp
      · simp

/-- An envelope carries what its message was counted under, and the number. -/
theorem handleMessage_envelope {blake2b : ByteArray → Digest} {state : StreamState DateTime}
    {arrival : Arrival DateTime} {envelope : EventEnvelope DateTime Digest}
    (delivered : (handleMessage blake2b state arrival).1 = some envelope) :
    ∃ dataType symbol, countedUnder arrival.message = some (dataType, symbol) ∧
      fastWrapStreamingEvent blake2b (prepared dataType arrival.message) "alpaca" dataType.name
        arrival.streamType.instrumentType arrival.tsIngest
        (some (state.countBefore arrival.message + 1)) = .ok envelope := by
  unfold handleMessage at delivered
  split at delivered
  · cases delivered
  · split at delivered
    · cases delivered
    next dataType symbol counted =>
      refine ⟨dataType, symbol, counted, ?_⟩
      rw [StreamState.countBefore, counted]
      revert delivered
      change (fastWrapStreamingEvent _ _ _ _ _ _
        (some (state.seqTracker.counted symbol dataType + 1))).toOption = _ → _
      cases fastWrapStreamingEvent blake2b (prepared dataType arrival.message)
        "alpaca" dataType.name
        arrival.streamType.instrumentType arrival.tsIngest
        (some (state.seqTracker.counted symbol dataType + 1)) with
      | error failure => exact fun failed => by cases failed
      | ok wrapped => exact fun same => congrArg Except.ok (Option.some.inj same)

/-- The message brings its own timestamp to the envelope. -/
def timestamped (message : Payload DateTime) : Bool :=
  match countedUnder message with
  | none => false
  | some (dataType, _) => ownTimestamp (prepared dataType message)

/-- A message that is handled twice, with any steps in between: unless the hash collides, the ids
agree just when the count for its symbol and its kind of data is back where it was and the message
brings a timestamp or is received at the same time. -/
theorem redelivery_keeps_id_iff {blake2b : ByteArray → Digest} {state : StreamState DateTime}
    {first second : Arrival DateTime} {between : List (StreamEvent DateTime)}
    {envelope again : EventEnvelope DateTime Digest} (message : second.message = first.message)
    (streamType : second.streamType = first.streamType)
    (delivered : (handleMessage blake2b state first).1 = some envelope)
    (redelivered : (handleMessage blake2b
      (between.foldl (StreamState.step blake2b) (handleMessage blake2b state first).2) second).1 =
        some again)
    (collisionFree : blake2b envelope.hashedBytes = blake2b again.hashedBytes →
      envelope.hashedBytes = again.hashedBytes) :
    envelope.eventId = again.eventId ↔
      state.countBefore first.message =
        (between.foldl (StreamState.step blake2b) (handleMessage blake2b state first).2).countBefore
          first.message ∧
      (timestamped first.message = true ∨
        DateTimes.isoformat first.tsIngest = DateTimes.isoformat second.tsIngest) := by
  obtain ⟨dataType, symbol, counted, wrapped⟩ := handleMessage_envelope delivered
  obtain ⟨dataType', symbol', counted', rewrapped⟩ := handleMessage_envelope redelivered
  rw [message] at counted' rewrapped
  rw [streamType] at rewrapped
  obtain ⟨rfl, rfl⟩ := Prod.mk.inj (Option.some.inj (counted.symm.trans counted'))
  obtain ⟨time, bytes⟩ := fastWrapStreamingEvent_ok wrapped
  obtain ⟨time', bytes'⟩ := fastWrapStreamingEvent_ok rewrapped
  have ids : envelope.eventId = again.eventId ↔ envelope.hashedBytes = again.hashedBytes := by
    rw [(Wrapped.fastWrapStreamingEvent wrapped).eventId,
      (Wrapped.fastWrapStreamingEvent rewrapped).eventId]
    exact ⟨collisionFree, congrArg blake2b⟩
  have stamps : envelope.tsEvent = again.tsEvent ↔ timestamped first.message = true ∨
      DateTimes.isoformat first.tsIngest = DateTimes.isoformat second.tsIngest := by
    rw [timestamped, counted, ← Option.some_inj, ← time, ← time']
    exact streamTimestamp_eq_iff
  rw [ids, bytes, bytes', String.toUTF8_eq_toByteArray, String.toUTF8_eq_toByteArray,
    String.toByteArray_inj, hashedText_eq_iff_of_sequence, stamps, and_comm,
    Nat.add_right_cancel_iff]

end Handling

/-- A stock quote that names its time. -/
def quote : Arrival String where
  streamType := .stocksSip
  message :=
    ⟨[("T", .str "q"), ("S", .str "AAPL"), ("t", .str "2026-01-02T14:30:00Z"), ("bp", .int 100),
    ("ap", .int 101), ("bs", .int 1), ("as", .int 2)], by decide⟩
  connected := true
  valid := true
  tsIngest := "2026-01-02T14:30:01+00:00"

/-- The multiplexer at its start. -/
def started : StreamState String := ⟨.empty, false⟩

/-- A quote that is delivered twice in a row gets two ids. -/
theorem redelivered_quote_changes_id : ∃ envelope again : EventEnvelope String ByteArray,
    (@handleMessage _ _ _ asciiUnicode isoTimes id started quote).1 = some envelope ∧
    (@handleMessage _ _ _ asciiUnicode isoTimes id
      (@handleMessage _ _ _ asciiUnicode isoTimes id started quote).2 quote).1 = some again ∧
    envelope.eventId ≠ again.eventId := by
  let _ := asciiUnicode
  let _ := isoTimes
  refine ⟨_, _, rfl, rfl, fun same => ?_⟩
  have numbers : 0 + 1 = 1 + 1 :=
    (@hashedText_eq_iff_of_sequence String isoTimes _ _ _ _ _ _ _ _).mp
      (String.toByteArray_inj.mp same) |>.2
  cases numbers

/-- The quote keeps its id just when its symbol is counted from the same number again. -/
theorem redelivered_quote_is_counted : ∃ envelope again : EventEnvelope String ByteArray,
    (@handleMessage _ _ _ asciiUnicode isoTimes id started quote).1 = some envelope ∧
    (@handleMessage _ _ _ asciiUnicode isoTimes id
      (@handleMessage _ _ _ asciiUnicode isoTimes id started quote).2 quote).1 = some again ∧
    (envelope.eventId = again.eventId ↔ started.countBefore quote.message =
      (@handleMessage _ _ _ asciiUnicode isoTimes id started quote).2.countBefore
        quote.message) := by
  let _ := asciiUnicode
  let _ := isoTimes
  refine ⟨_, _, rfl, rfl, ?_⟩
  have ids :=
    @redelivery_keeps_id_iff String ByteArray _ asciiUnicode isoTimes id started quote quote []
    _ _ rfl rfl rfl rfl fun bytes => bytes
  have timed : timestamped quote.message = true := rfl
  exact ids.trans (and_iff_left (.inl timed))

end Streaming
end DataGateway
