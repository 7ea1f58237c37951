import DataGateway.Envelope.Wrap
import DataGateway.Python.Join

/-!
# Which events share an id

The hashed text joins the fields that are not `None` with `|`.  It tells two events apart by the
pieces of these fields: neither the place of a `None` nor a `|` of a field's own leaves a trace.
-/

namespace DataGateway
namespace Envelope

open Text

variable {DateTime : Type} [DateTimes DateTime]

/-- The unique fields as texts, with `None` at its place. -/
def uniqueTexts (feed : String) (payload : Payload DateTime) : List (Option String) :=
  (extractUniqueFields feed payload).map fieldText

/-- The pieces of the unique fields that are not `None`. -/
def uniquePieces (feed : String) (payload : Payload DateTime) : List (List Char) :=
  pieces '|' (presentTexts (extractUniqueFields feed payload))

/-- Behind the same parts, hashed texts are equal when the fields have the same pieces. -/
theorem hashedText_eq_iff {provider feed instrumentKey timestamp : String} {sequence : Option Nat}
    {left right : List (Value DateTime)} :
    hashedText provider feed instrumentKey timestamp sequence left =
        hashedText provider feed instrumentKey timestamp sequence right ↔
      pieces '|' (presentTexts left) = pieces '|' (presentTexts right) := by
  refine (join_eq_iff '|' ?_ ?_).trans ?_
  · simp
  · simp
  · rw [pieces_append _ _ (presentTexts left), pieces_append _ _ (presentTexts right),
      List.append_cancel_left_eq]

/-- Two envelopes of one source, instrument, time and sequence number: different tuples of unique
fields hash different bytes just when the fields have different pieces. -/
theorem distinct_fields_hash_distinct_bytes_iff [Unicode]
    {first second : EventEnvelope DateTime ByteArray} (wrapped : Wrapped id first)
    (again : Wrapped id second) (provider : first.provider = second.provider)
    (feed : first.feed = second.feed) (instrumentKey : first.instrumentKey = second.instrumentKey)
    (timestamp : first.tsEvent = second.tsEvent) (sequence : first.seq = second.seq) :
    (uniqueTexts first.feed first.payload ≠ uniqueTexts second.feed second.payload →
      first.eventId ≠ second.eventId) ↔
    (uniqueTexts first.feed first.payload = uniqueTexts second.feed second.payload ∨
      uniquePieces first.feed first.payload ≠ uniquePieces second.feed second.payload) := by
  have bytes : first.eventId = second.eventId ↔
      uniquePieces first.feed first.payload = uniquePieces second.feed second.payload := by
    rw [wrapped.eventId, again.eventId, id, id, EventEnvelope.hashedBytes,
      EventEnvelope.hashedBytes, ← provider, ← feed, ← instrumentKey, ← timestamp, ← sequence]
    exact String.toByteArray_inj.trans hashedText_eq_iff
  rw [ne_eq, ne_eq, bytes, ne_eq, or_iff_not_imp_left]

/-- A disclosed trade of one day whose kind and amount may be missing. -/
def disclosure (txnType amounts : Value String) : WrapCall String where
  payload :=
    ⟨[("ticker", .str "AAPL"), ("name", .str "Doe"), ("transaction_date", .str "2026-01-02"),
    ("txn_type", txnType), ("amounts", amounts)],
    by simp⟩
  provider := "unusual_whales"
  feed := "congress_trades"
  source := "rest"
  streamType := none
  tsIngest := none
  tsEventOverride := none
  instrumentTypeOverride := none
  instrumentKeyOverride := none
  symbolOverride := none
  now := "2026-01-03T12:00:00+00:00"
  ingestNow := "2026-01-03T12:00:00+00:00"
  strictEnvelopes := some false

/-- A disclosed trade gets an envelope. -/
theorem wrapped_disclosure (txnType amounts : Value String) :
    ∃ envelope : EventEnvelope String ByteArray, @Wrapped _ _ asciiUnicode isoTimes id envelope ∧
      envelope.provider = "unusual_whales" ∧ envelope.feed = "congress_trades" ∧
      envelope.instrumentKey = "equity:AAPL" ∧ envelope.tsEvent = "2026-01-02T00:00:00+00:00" ∧
      envelope.seq = none ∧ envelope.payload = (disclosure txnType amounts).payload := by
  let _ := asciiUnicode
  let _ := isoTimes
  obtain ⟨envelope, done, provider, feed, key, time, seq, payload⟩ :=
    @wrapEvent_ok _ _ _ _ id (disclosure txnType amounts) (.str "AAPL") "equity" "equity:AAPL"
      rfl rfl rfl rfl
  exact ⟨envelope, .wrapEvent done, provider, feed, key, time.trans rfl, seq, payload⟩

/-- A kind without an amount and an amount without a kind hash the same bytes. -/
theorem missing_fields_share_bytes : ∃ first second : EventEnvelope String ByteArray,
    @Wrapped _ _ asciiUnicode isoTimes id first ∧ @Wrapped _ _ asciiUnicode isoTimes id second ∧
    (first.provider = second.provider ∧ first.feed = second.feed ∧
      first.instrumentKey = second.instrumentKey ∧ first.tsEvent = second.tsEvent ∧
      first.seq = second.seq) ∧
    @uniqueTexts _ isoTimes first.feed first.payload ≠
      @uniqueTexts _ isoTimes second.feed second.payload ∧
    first.eventId = second.eventId := by
  let _ := asciiUnicode
  let _ := isoTimes
  obtain ⟨first, wrapped, provider, feed, key, time, seq, payload⟩ :=
    wrapped_disclosure (.str "Buy") .none
  obtain ⟨second, again, provider', feed', key', time', seq', payload'⟩ :=
    wrapped_disclosure .none (.str "Buy")
  refine ⟨first, second, wrapped, again, ⟨provider.trans provider'.symm, feed.trans feed'.symm,
    key.trans key'.symm, time.trans time'.symm, seq.trans seq'.symm⟩, ?_, ?_⟩
  · rw [feed, feed', payload, payload']
    decide
  · rw [wrapped.eventId, again.eventId, EventEnvelope.hashedBytes,
      EventEnvelope.hashedBytes, provider,
      provider', feed, feed', key, key', time, time', seq, seq', payload, payload']
    rfl

/-- Two kinds with one amount hash different bytes. -/
theorem kinds_hash_apart : ∃ first second : EventEnvelope String ByteArray,
    @Wrapped _ _ asciiUnicode isoTimes id first ∧ @Wrapped _ _ asciiUnicode isoTimes id second ∧
    first.eventId ≠ second.eventId := by
  let _ := asciiUnicode
  let _ := isoTimes
  obtain ⟨first, wrapped, provider, feed, key, time, seq, payload⟩ :=
    wrapped_disclosure (.str "Buy") (.str "$1,001 - $15,000")
  obtain ⟨second, again, provider', feed', key', time', seq', payload'⟩ :=
    wrapped_disclosure (.str "Sell") (.str "$1,001 - $15,000")
  have pieces :
      uniquePieces first.feed first.payload ≠ uniquePieces second.feed second.payload := by
    rw [feed, feed', payload, payload']
    decide
  have tuples : uniqueTexts first.feed first.payload ≠ uniqueTexts second.feed second.payload := by
    rw [feed, feed', payload, payload']
    decide
  have differ := distinct_fields_hash_distinct_bytes_iff wrapped again
    (provider.trans provider'.symm) (feed.trans feed'.symm) (key.trans key'.symm)
    (time.trans time'.symm) (seq.trans seq'.symm)
  exact ⟨first, second, wrapped, again, differ.mpr (.inr pieces) tuples⟩

end Envelope
end DataGateway
