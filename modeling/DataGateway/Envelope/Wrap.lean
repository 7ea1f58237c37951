import DataGateway.Envelope.EventId

/-!
# Wrapping events

The two functions that put an event into an envelope: `wrap_event` looks for the symbol, the time
and the instrument of any event, `fast_wrap_streaming_event` takes a raw stream message.
-/

namespace DataGateway
namespace Envelope

open Text

variable {DateTime Digest : Type}

/-- An envelope. -/
structure EventEnvelope (DateTime Digest : Type) where
  eventId : Digest
  provider : String
  feed : String
  source : String
  instrumentType : String
  instrumentKey : String
  symbol : Value DateTime
  tsEvent : String
  tsIngest : String
  schemaVersion : String
  lineage : List (String × Value DateTime)
  qualityFlags : List String
  payload : Payload DateTime
  seq : Option Nat

/-- `SCHEMA_VERSION`. -/
def schemaVersion : String := "v1"

/-- Why there is no envelope. -/
inductive WrapFailure
  /-- `ValueError`, in strict mode. -/
  | invalidKey (text : String)
  /-- `EnvelopeWrapError`. -/
  | wrapError (text : String)
  /-- An error of the language: a symbol that is no text, a number that is no time. -/
  | raised
  deriving DecidableEq, Repr

theorem bind_eq_ok {Error Middle Result : Type} {first : Except Error Middle}
    {rest : Middle → Except Error Result} {result : Result} (done : first >>= rest = .ok result) :
    ∃ middle, first = .ok middle ∧ rest middle = .ok result := by
  cases first with
  | error => cases done
  | ok middle => exact ⟨middle, rfl, done⟩

/-- `_raise_wrap_failure` for an invalid key, for a key whose text needs no escapes; without
settings there is no `strict_envelopes`. -/
def raiseWrapFailure (strictEnvelopes : Option Bool) (provider feed symbol instrumentKey : String) :
    WrapFailure :=
  let error := "invalid instrument_key: '" ++ instrumentKey ++ "'"
  let failed := "wrap_event failed for " ++ provider ++ "/" ++ feed ++ "/" ++ symbol
  match strictEnvelopes with
  | none => .wrapError (failed ++ " and settings unavailable: " ++ error)
  | some true => .invalidKey error
  | some false => .wrapError (failed ++ ": " ++ error)

/-- `_infer_instrument_type`. -/
def inferInstrumentType (feed : String) (symbol : Value DateTime) (payload : Payload DateTime) :
    Except WrapFailure String :=
  if ["flow", "flow_alerts"].contains feed || (payload.get "strike").truthy ||
      (payload.get "expiry").truthy then .ok "option"
  else match symbol.str? with
    | none => .error .raised
    | some symbol =>
        let crypto := symbol.toList.contains '/' ||
          ["BTC", "ETH", "USDT"].any fun word =>
            startsWith symbol word || word.toList.isSuffixOf symbol.toList
        .ok (if crypto ∧ 6 ≤ symbol.length then "crypto" else "equity")

/-- `override or …`. -/
def overrideOr (override : Option String) (computed : Except WrapFailure String) :
    Except WrapFailure String :=
  match override.filter (· ≠ "") with
  | some text => .ok text
  | none => computed

/-- The arguments of `wrap_event`, and what it reads of the clock and of the settings. -/
structure WrapCall (DateTime : Type) where
  payload : Payload DateTime
  provider : String
  feed : String
  source : String
  streamType : Option String
  tsIngest : Option DateTime
  tsEventOverride : Option DateTime
  instrumentTypeOverride : Option String
  instrumentKeyOverride : Option String
  symbolOverride : Option String
  now : DateTime
  ingestNow : DateTime
  strictEnvelopes : Option Bool

section Wrap

variable [Unicode] [DateTimes DateTime]

/-- The instrument key of an event: a contract that is no text has no upper case. -/
def eventInstrumentKey (symbol : Value DateTime) (instrumentType : String)
    (contractSymbol : Value DateTime) : Except WrapFailure String :=
  match symbol.str? with
  | none => .error .raised
  | some text =>
      if contractSymbol.truthy ∧ contractSymbol.str? = none ∧
        lowerType instrumentType = "option" then
        .error .raised
      else .ok (makeInstrumentKey text instrumentType contractSymbol.str?)

/-- The time of an event. -/
def WrapCall.tsEvent (call : WrapCall DateTime) : DateTime :=
  match call.tsEventOverride with
  | some time => DateTimes.toUtc time
  | none => (parseEventTimestamp (call.payload.firstTrue timestampKeys)).getD call.now

/-- `wrap_event`, for a hash function. -/
def wrapEvent (blake2b : ByteArray → Digest) (call : WrapCall DateTime) :
    Except WrapFailure (EventEnvelope DateTime Digest) := do
  let payload := call.payload
  let symbol := eventSymbol call.feed call.symbolOverride payload
  let tsIngest := call.tsIngest.getD call.ingestNow
  let instrumentType ← overrideOr call.instrumentTypeOverride
    (inferInstrumentType call.feed symbol payload)
  let contractSymbol := payload.firstTrue ["contract_symbol", "contract", "option_chain"]
  let instrumentKey ← overrideOr call.instrumentKeyOverride
    (eventInstrumentKey symbol instrumentType contractSymbol)
  if validInstrumentKey instrumentType instrumentKey then
    let timestamp := DateTimes.isoformat call.tsEvent
    let sequence := (payload.get? "sequence").getD (payload.get "x")
    .ok {
      eventId := blake2b (hashedText call.provider call.feed instrumentKey timestamp none
        (extractUniqueFields call.feed payload)).toUTF8
      provider := call.provider
      feed := call.feed
      source := call.source
      instrumentType := instrumentType
      instrumentKey := instrumentKey
      symbol := symbol
      tsEvent := timestamp
      tsIngest := DateTimes.isoformat tsIngest
      schemaVersion := schemaVersion
      lineage :=
        ((call.streamType.filter (· ≠ "")).map fun text => ("stream_type", .str text)).toList ++
        ((fieldText sequence).map fun text => ("sequence", .str text)).toList
      qualityFlags := ["validated"]
      payload := payload
      seq := none }
  else
    .error
      (raiseWrapFailure call.strictEnvelopes call.provider call.feed symbol.text instrumentKey)

/-- An event with a valid key gets an envelope. -/
theorem wrapEvent_ok {blake2b : ByteArray → Digest} {call : WrapCall DateTime}
    {symbol : Value DateTime} {instrumentType instrumentKey : String}
    (known : eventSymbol call.feed call.symbolOverride call.payload = symbol)
    (type : overrideOr call.instrumentTypeOverride
      (inferInstrumentType call.feed symbol call.payload) = .ok instrumentType)
    (key : overrideOr call.instrumentKeyOverride (eventInstrumentKey symbol instrumentType
      (call.payload.firstTrue ["contract_symbol", "contract", "option_chain"])) = .ok instrumentKey)
    (valid : validInstrumentKey instrumentType instrumentKey = true) :
    ∃ envelope, wrapEvent blake2b call = .ok envelope ∧ envelope.provider = call.provider ∧
      envelope.feed = call.feed ∧ envelope.instrumentKey = instrumentKey ∧
      envelope.tsEvent = DateTimes.isoformat call.tsEvent ∧ envelope.seq = none ∧
      envelope.payload = call.payload := by
  unfold wrapEvent
  simp only [known, type, key, valid, bind, Except.bind, if_true]
  exact ⟨_, rfl, rfl, rfl, rfl, rfl, rfl, rfl⟩

/-- The timestamp text of a raw stream message; `fromtimestamp` may raise. -/
def streamTimestamp (event : Payload DateTime) (tsIngest : DateTime) : Option String :=
  let raw := event.firstTrue ["t", "timestamp"]
  if !raw.truthy then some (DateTimes.isoformat tsIngest)
  else match raw with
    | .str text => some text
    | .dateTime value => some (DateTimes.isoformat value)
    | .int number => (DateTimes.fromtimestamp number : Option DateTime).map DateTimes.isoformat
    | .scalar (.object value) =>
        match value.isoformat, value.toDatetime, value.fromtimestamp with
        | some text, _, _ => some text
        | none, some time, _ => some (DateTimes.isoformat time)
        | none, none, some time => time.map DateTimes.isoformat
        | none, none, none => some (DateTimes.isoformat tsIngest)
    | _ => some (DateTimes.isoformat tsIngest)

/-- The symbol of a raw stream message. -/
def streamSymbol (event : Payload DateTime) : String :=
  ((event.firstTrue ["S", "symbol"]).orElse (.str "")).text

/-- The instrument key of a raw stream message. -/
def streamInstrumentKey (symbol instrumentType : String) : String :=
  match instrumentType with
  | "option" => makeInstrumentKey symbol instrumentType (some symbol)
  | "equity" => "equity:" ++ symbol
  | _ => makeInstrumentKey symbol instrumentType none

/-- `fast_wrap_streaming_event`, for a hash function. -/
def fastWrapStreamingEvent (blake2b : ByteArray → Digest) (event : Payload DateTime)
    (provider feed instrumentType : String) (tsIngest : DateTime) (sequence : Option Nat) :
    Except WrapFailure (EventEnvelope DateTime Digest) :=
  match streamTimestamp event tsIngest with
  | none => .error .raised
  | some timestamp =>
      let symbol := streamSymbol event
      let instrumentKey := streamInstrumentKey symbol instrumentType
      .ok {
        eventId := blake2b (hashedText provider feed instrumentKey timestamp sequence
          (extractUniqueFields feed event)).toUTF8
        provider := provider
        feed := feed
        source := "websocket"
        instrumentType := instrumentType
        instrumentKey := instrumentKey
        symbol := .str symbol
        tsEvent := timestamp
        tsIngest := DateTimes.isoformat tsIngest
        schemaVersion := schemaVersion
        lineage := (sequence.map fun seq => ("seq", .int seq)).toList
        qualityFlags := ["streaming"]
        payload := event
        seq := sequence }

/-- The bytes that belong to an envelope's id. -/
def EventEnvelope.hashedBytes (envelope : EventEnvelope DateTime Digest) : ByteArray :=
  (hashedText envelope.provider envelope.feed envelope.instrumentKey envelope.tsEvent envelope.seq
    (extractUniqueFields envelope.feed envelope.payload)).toUTF8

/-- The timestamp and the hashed bytes of a wrapped stream message. -/
theorem fastWrapStreamingEvent_ok {blake2b : ByteArray → Digest} {event : Payload DateTime}
    {provider feed instrumentType : String} {tsIngest : DateTime} {sequence : Option Nat}
    {envelope : EventEnvelope DateTime Digest}
    (done : fastWrapStreamingEvent blake2b event provider feed instrumentType tsIngest sequence =
      .ok envelope) :
    streamTimestamp event tsIngest = some envelope.tsEvent ∧
      envelope.hashedBytes = (hashedText provider feed
        (streamInstrumentKey (streamSymbol event) instrumentType) envelope.tsEvent sequence
        (extractUniqueFields feed event)).toUTF8 := by
  unfold fastWrapStreamingEvent at done
  split at done
  · cases done
  next timestamp stamped =>
    cases done
    exact ⟨stamped, rfl⟩

/-- A stream envelope carries the sequence number that it was given. -/
theorem fastWrapStreamingEvent_seq {blake2b : ByteArray → Digest} {event : Payload DateTime}
    {provider feed instrumentType : String} {tsIngest : DateTime} {sequence : Option Nat}
    {envelope : EventEnvelope DateTime Digest}
    (done : fastWrapStreamingEvent blake2b event provider feed instrumentType tsIngest sequence =
      .ok envelope) : envelope.seq = sequence := by
  unfold fastWrapStreamingEvent at done
  split at done
  · cases done
  · cases done
    rfl

/-- An envelope that one of the two functions has made. -/
inductive Wrapped (blake2b : ByteArray → Digest) : EventEnvelope DateTime Digest → Prop
  | wrapEvent {call envelope} (done : wrapEvent blake2b call = .ok envelope) :
      Wrapped blake2b envelope
  | fastWrapStreamingEvent {event provider feed instrumentType tsIngest sequence envelope}
      (done : fastWrapStreamingEvent blake2b event provider feed instrumentType tsIngest sequence =
        .ok envelope) : Wrapped blake2b envelope

/-- What is hashed into an envelope's id are its own fields. -/
theorem Wrapped.eventId {blake2b : ByteArray → Digest} {envelope : EventEnvelope DateTime Digest}
    (wrapped : Wrapped blake2b envelope) : envelope.eventId = blake2b envelope.hashedBytes := by
  cases wrapped with
  | wrapEvent done =>
      unfold Envelope.wrapEvent at done
      obtain ⟨instrumentType, _, done⟩ := bind_eq_ok done
      obtain ⟨instrumentKey, _, done⟩ := bind_eq_ok done
      split at done
      · cases done
        rfl
      · cases done
  | fastWrapStreamingEvent done =>
      unfold Envelope.fastWrapStreamingEvent at done
      split at done
      · cases done
      · cases done
        rfl

end Wrap

end Envelope
end DataGateway
