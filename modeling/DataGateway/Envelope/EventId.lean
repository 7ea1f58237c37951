import DataGateway.Envelope.Payload

/-!
# Event envelopes

`wrap_event` and `fast_wrap_streaming_event`.  An envelope carries a hash of its source,
its instrument, its time and the fields that tell events of one feed apart.  The hash
function is a parameter.
-/

namespace DataGateway
namespace Envelope

open Symbology Text

/-! ## Instrument keys -/

/-- `instrument_type.lower()`; the result is only compared with words of ASCII
letters other than `k`. -/
def lowerType (instrumentType : String) : String :=
  String.ofList (instrumentType.toList.map Char.toLower)

/-- Put a dash after this many characters. -/
def splitPair (length : Nat) (pair : List Char) : List Char :=
  pair.take length ++ '-' :: pair.drop length

/-- `symbol.replace("/", "-").replace("_", "-")`. -/
def dashed (symbol : List Char) : List Char :=
  symbol.map fun c => if c = '/' ∨ c = '_' then '-' else c

/-- `known_quotes_3` and `known_quotes_4`. -/
def knownQuotes (length : Nat) : List String :=
  if length = 3 then ["USD", "EUR", "BTC", "ETH", "GBP"] else ["USDT", "USDC", "BUSD"]

/-- The pair ends in a known quote currency of this length. -/
def hasKnownQuote (pair : List Char) (length : Nat) : Bool :=
  length < pair.length &&
    (knownQuotes length).contains (String.ofList (pair.drop (pair.length - length)))

section Keys

variable [Unicode]

/-- `make_instrument_key`. -/
def makeInstrumentKey (symbol instrumentType : String) (contractSymbol : Option String) : String :=
  let text := stripChars (upperChars symbol.toList)
  match lowerType instrumentType with
  | "option" =>
      match contractSymbol.filter (· ≠ "") with
      | some contract => "option:OCC:" ++ String.ofList (upperChars contract.toList)
      | none => "option:" ++ String.ofList text
  | "crypto" =>
      let pair := dashed text
      let normalized :=
        if 6 ≤ pair.length ∧ '-' ∉ pair then
          if hasKnownQuote pair 3 then splitPair (pair.length - 3) pair
          else if hasKnownQuote pair 4 then splitPair (pair.length - 4) pair
          else splitPair 3 pair
        else pair
      "crypto:" ++ String.ofList normalized
  | "forex" =>
      let pair := dashed text
      let normalized := if pair.length = 6 ∧ '-' ∉ pair then splitPair 3 pair else pair
      "forex:" ++ String.ofList normalized
  | _ => "equity:" ++ String.ofList text

/-- `_OCC_OPTION_KEY_RE`. -/
def isOccOptionKey (key : String) : Bool :=
  startsWith key "option:OCC:" && (occPattern (key.toList.drop "option:OCC:".length)).isSome

/-- `_validate_instrument_key` does not raise. -/
def validInstrumentKey (instrumentType key : String) : Bool :=
  key ≠ "" && !startsWith key "unknown:" && (instrumentType ≠ "option" || isOccOptionKey key)

end Keys

/-! ## Unique fields -/

variable {DateTime : Type}

/-- A unique field: its key, another key for it, and its default. -/
structure UniqueField (DateTime : Type) where
  key : String
  fallback : Option String
  default : Value DateTime

/-- A field with a text for a default. -/
def named (key : String) : UniqueField DateTime := ⟨key, none, .str ""⟩

/-- A field with a number for a default. -/
def amount (key : String) : UniqueField DateTime := ⟨key, none, .int 0⟩

/-- A field with a text for a default and another key. -/
def namedOr (key fallback : String) : UniqueField DateTime := ⟨key, some fallback, .str ""⟩

/-- A field with a number for a default and another key. -/
def amountOr (key fallback : String) : UniqueField DateTime := ⟨key, some fallback, .int 0⟩

/-- `FEED_UNIQUE_FIELDS`. -/
def feedUniqueFields : List (String × List (UniqueField DateTime)) :=
  [("trades", [namedOr "trade_id" "i"]),
    ("bars", [⟨"timeframe", some "x", .str "1Min"⟩, namedOr "timestamp" "t"]),
    ("quotes", [amountOr "bid_price" "bp", amountOr "ask_price" "ap", amountOr "bid_size" "bs",
      amountOr "ask_size" "as"]),
    ("flow",
      [named "expiry", amount "strike", named "put_call", amount "premium", amount "volume"]),
    ("flow_alerts",
      [named "expiry", amount "strike", named "put_call", amount "premium", amount "volume"]),
    ("darkpool", [named "tracking_id", amount "price", amount "size", amount "notional"]),
    ("news", [namedOr "article_id" "id"]),
    ("etf", [named "etf_symbol", namedOr "holding_symbol" "symbol", named "date"]),
    ("shorts", [named "date", amountOr "short_interest" "quantity"]),
    ("screener", [named "screen_type", amountOr "rank" "position"]),
    ("market_tide",
      [named "date", named "sector", amount "net_call_premium", amount "net_put_premium"]),
    ("sector_tide",
      [named "date", named "sector", amount "net_call_premium", amount "net_put_premium"]),
    ("insiders", [namedOr "transaction_id" "id", named "filing_date", named "insider_name"]),
    ("institutions", [namedOr "transaction_id" "id", namedOr "date" "filing_date"]),
    ("politicians", [namedOr "transaction_id" "id", namedOr "date" "filing_date"]),
    ("analytics", [named "expiry", named "metric_type"]),
    ("forex", [named "pair", amount "bid", amount "ask"]),
    ("fundamentals", [named "symbol", amount "market_cap"]),
    ("greek_exposure", [named "symbol", amount "call_gamma"]),
    ("iv_rank", [named "symbol", amount "iv_rank"]),
    ("iv_term_structure", [named "symbol", named "expiry"]),
    ("oi_change", [named "option_symbol", named "symbol", named "date", amount "call_oi_change"]),
    ("historic_option_volume", [named "symbol", named "date", named "expiry"]),
    ("short_interest", [named "symbol", named "date", amount "short_interest"]),
    ("short_volume", [named "symbol", named "date", amount "short_interest"]),
    ("ftds", [named "symbol", named "date", amount "quantity"]),
    ("congress_trades",
      [named "ticker", named "name", named "transaction_date", named "txn_type", named "amounts"]),
    ("insider_trades", [named "ticker", named "owner_name", named "transaction_date", named "id"]),
    ("treasury_yields", [named "date", named "maturity", amount "yield_pct"]),
    ("income_statement",
      [namedOr "ticker" "symbol", named "fiscal_date_ending", named "report_type"]),
    ("balance_sheet", [namedOr "ticker" "symbol", named "fiscal_date_ending", named "report_type"]),
    ("cash_flow", [namedOr "ticker" "symbol", named "fiscal_date_ending", named "report_type"])]

/-- The value of a unique field. -/
def UniqueField.extract (field : UniqueField DateTime) (payload : Payload DateTime) :
    Value DateTime :=
  let default := match field.fallback with
    | some fallback => (payload.get? fallback).getD field.default
    | none => field.default
  (payload.get? field.key).getD default

/-- `_extract_unique_fields`. -/
def extractUniqueFields (feed : String) (payload : Payload DateTime) : List (Value DateTime) :=
  ((feedUniqueFields.lookup feed).getD []).map fun field => field.extract payload

/-! ## Timestamps and symbols -/

section Values

variable [DateTimes DateTime]

/-- `parse_timestamp`, for a text. -/
def parseTimestamp (text : String) : Option DateTime :=
  let chars := text.toList
  let offset := if chars.getLast? = some 'Z' then chars.dropLast ++ "+00:00".toList else chars
  (DateTimes.fromisoformat (String.ofList offset)).map DateTimes.toUtc

/-- `_parse_event_timestamp`. -/
def parseEventTimestamp : Value DateTime → Option DateTime
  | .dateTime value => some (DateTimes.toUtc value)
  | .scalar (.object value) => value.midnight
  | .str text => parseTimestamp text
  | _ => none

/-- The keys under which a timestamp is looked for. -/
def timestampKeys : List String :=
  ["timestamp", "t", "published_at", "datetime", "date", "transaction_date", "filing_date",
    "report_date", "effective_date", "period_end_date", "fiscal_date_ending"]

/-- The feeds about the whole market. -/
def marketFeeds : List String := ["market_tide", "sector_tide", "etf_tide", "market_tide_by_etf"]

/-- The symbol of an event; one from `sector` or `etf` may be no text. -/
def eventSymbol (feed : String) (symbolOverride : Option String) (payload : Payload DateTime) :
    Value DateTime :=
  let given : Value DateTime := match symbolOverride with
    | some text => .str text
    | none => .none
  let raw :=
    given.orElse ((payload.firstTrue ["symbol", "S", "underlying", "ticker"]).orElse (.str ""))
  let symbol := match raw with
    | .str text => text
    | .scalar (.object value) => if value.isDict then "" else value.text
    | other => other.text
  if symbol = "" ∧ marketFeeds.contains feed then
    (payload.firstTrue ["sector", "etf"]).orElse (.str "MARKET")
  else .str symbol

end Values

/-! ## Hashes -/

section Hash

variable [DateTimes DateTime]

/-- `str(field)` for a field that is not `None`. -/
def fieldText : Value DateTime → Option String
  | .none => none
  | field => some field.text

/-- The texts of the fields that are not `None`. -/
def presentTexts (fields : List (Value DateTime)) : List String := fields.filterMap fieldText

/-- What `compute_event_id` hashes; `fast_wrap_streaming_event` adds a sequence number. -/
def hashedText (provider feed instrumentKey timestamp : String) (sequence : Option Nat)
    (uniqueFields : List (Value DateTime)) : String :=
  "|".intercalate ([provider, feed, instrumentKey, timestamp] ++
    (sequence.map toString).toList ++ presentTexts uniqueFields)

end Hash

end Envelope
end DataGateway
