import DataGateway.Backfill.DateChunks
import DataGateway.Envelope.Wrap
import Mathlib.Data.Rat.Defs

/-!
# Timestamps of returned records

A record that a provider returns is accepted with the timestamp that is read of it strictly, and
wrapped in an envelope with the timestamp that `wrap_event` reads.
-/

namespace DataGateway
namespace Backfill

open Envelope

/-- What the strict reading asks of `datetime` and of numbers. -/
class StrictTimes (Time : Type) extends DateTimes Time where
  /-- `timestamp.tzinfo is not None`. -/
  aware : Time → Bool
  /-- The instant of a time with a zone, in microseconds. -/
  instant : Time → Int
  /-- `timestamp.astimezone(UTC)`, or `None` for an `OverflowError`. -/
  astimezone : Time → Option Time
  /-- `date.fromisoformat(text)`, as midnight in UTC, or `None` for a `ValueError`. -/
  dateFromisoformat : String → Option Time
  /-- `float(number)`, or `None` for an `OverflowError`. -/
  floatOfInt : Int → Option ℚ
  /-- The number, for a `float` or a `bool`; not a number and the infinities have none. -/
  floatOf : Object Time → Option (Option ℚ)
  /-- `seconds / 1000`. -/
  thousandth : ℚ → ℚ
  /-- `datetime.fromtimestamp(seconds, tz=UTC)`, or `None` for a number out of range. -/
  fromSeconds : ℚ → Option Time

/-- What the validation raises. -/
inductive ReturnedError
  /-- `ReplayValidationError`. -/
  | validation (code detail : String)
  | overflowError
  deriving DecidableEq

/-- `value.strip().replace("Z", "+00:00")`. -/
def normalized (text : String) : String :=
  String.ofList ((Text.stripChars text.toList).flatMap fun c =>
    if c = 'Z' then "+00:00".toList else [c])

/-- What `parse_timestamp` makes of a text: only a last `Z` is replaced. -/
def withOffset (text : String) : String :=
  String.ofList (if text.toList.getLast? = some 'Z' then text.toList.dropLast ++ "+00:00".toList
    else text.toList)

section Read

variable {Time : Type} [Unicode] [StrictTimes Time]

/-- The end of `_strict_timestamp`. -/
def inUtc (time : Time) : Except ReturnedError (Option Time) :=
  if StrictTimes.aware time = false then .ok none
  else
    match StrictTimes.astimezone time with
    | some utc => .ok (some utc)
    | none => .error .overflowError

/-- Seconds since 1970, or milliseconds when there are more than ten thousand millions. -/
def ofEpoch (number : Option ℚ) : Except ReturnedError (Option Time) :=
  match number with
  | none => .ok none
  | some seconds =>
      match StrictTimes.fromSeconds
          (if 10000000000 < seconds then StrictTimes.thousandth Time seconds else seconds) with
      | some time => inUtc time
      | none => .ok none

/-- `_strict_timestamp`. -/
def strictTimestamp : Value Time → Except ReturnedError (Option Time)
  | .dateTime time => inUtc time
  | .scalar (.object object) =>
      match object.midnight with
      | some midnight => inUtc midnight
      | none =>
          match StrictTimes.floatOf object with
          | some number => ofEpoch number
          | none => .ok none
  | .int number =>
      match StrictTimes.floatOfInt Time number with
      | some seconds => ofEpoch (some seconds)
      | none => .error .overflowError
  | .str text =>
      if Text.blank text then .ok none
      else
        match StrictTimes.dateFromisoformat (normalized text) with
        | some midnight => inUtc midnight
        | none =>
            match DateTimes.fromisoformat (normalized text) with
            | some time => inUtc time
            | none => .ok none
  | _ => .ok none

/-- The first field that is not `None`. -/
def firstPresent (item : Payload Time) : List String → Value Time
  | [] => .none
  | key :: keys =>
      match item.get key with
      | .none => firstPresent item keys
      | value => value

/-- The feeds whose records are about no symbol. -/
def marketWide (feed : String) : Bool := ["market_tide", "sector_tide"].contains feed

/-- `returned_symbol`. -/
def returnedSymbol (item : Payload Time) : String :=
  String.ofList (Text.upperChars
    ((item.firstTrue ["symbol", "ticker", "underlying", "S"]).orElse (.str "")).text.toList)

/-- One turn of the loop of `_validate_returned_items`. -/
def validateReturnedItem (symbol : String) (chunkStart chunkEnd : DateTime) (feed : String)
    (item : Payload Time) : Except ReturnedError Time :=
  match strictTimestamp (firstPresent item timestampKeys) with
  | .error error => .error error
  | .ok none => .error (.validation "provider_timestamp_missing"
      "provider record has no parseable source timestamp")
  | .ok (some timestamp) =>
      if outOfRange chunkStart chunkEnd (StrictTimes.instant timestamp) then
        .error (.validation "provider_date_out_of_range"
          ("provider returned " ++ DateTimes.isoformat timestamp ++ " outside requested chunk"))
      else if !marketWide feed &&
          returnedSymbol item ≠ String.ofList (Text.upperChars symbol.toList) then
        .error (.validation "provider_symbol_mismatch"
          ("provider returned symbol " ++
            (if returnedSymbol item = "" then "<missing>" else returnedSymbol item) ++ " for " ++
            symbol))
      else .ok timestamp

/-- `_validate_returned_items`. -/
def validateReturnedItems (symbol : String) (chunkStart chunkEnd : DateTime) (feed : String)
    (items : List (Payload Time)) : Except ReturnedError (List Time) :=
  items.mapM (validateReturnedItem symbol chunkStart chunkEnd feed)

/-! ## Envelopes -/

/-- `UW_EQUITY_ANALYTICS_FEEDS`. -/
def uwEquityAnalyticsFeeds : List String := ["iv_term_structure", "historic_option_volume"]

/-- The symbol of `_equity_overrides`, if there are overrides. -/
def equitySymbol (item : Payload Time) (provider feed : String) : Option String :=
  if provider ≠ "unusual_whales" ∨ feed ∉ uwEquityAnalyticsFeeds then none
  else
    let symbol := String.ofList (Text.upperChars
      ((item.firstTrue ["symbol", "ticker"]).orElse (.str "")).text.toList)
    if symbol = "" then none else some symbol

/-- The call of `wrap_event` that `_wrap_items` makes for a record. -/
def wrapItem (provider feed : String) (now ingestNow : Time) (strictEnvelopes : Option Bool)
    (item : Payload Time) : WrapCall Time where
  payload := item
  provider := provider
  feed := feed
  source := "backfill"
  streamType := none
  tsIngest := none
  tsEventOverride := none
  instrumentTypeOverride := (equitySymbol item provider feed).map fun _ => "equity"
  instrumentKeyOverride := (equitySymbol item provider feed).map fun symbol => "equity:" ++ symbol
  symbolOverride := equitySymbol item provider feed
  now := now
  ingestNow := ingestNow
  strictEnvelopes := strictEnvelopes

end Read

end Backfill
end DataGateway
