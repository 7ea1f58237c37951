import DataGateway.Envelope.EventId
import DataGateway.Python.Float

/-!
# Validation of market data

`DataValidator` looks at bars, quotes and trades before they are delivered.  A price is converted to
a float first, and what cannot be converted is the same as a price that is missing.
-/

namespace DataGateway
namespace Validation

open Text Symbology Envelope

/-- A value of a bar, a quote or a trade. -/
inductive Value
  | none
  | int (number : Int)
  | float (number : Float)
  | str (text : String)
  deriving DecidableEq

/-- A bar, a quote or a trade. -/
abbrev Record := OrderedDict String Value

/-- What a validator raises. -/
inductive Raised
  | typeError
  | overflowError
  | valueError
  deriving DecidableEq, Repr

/-- `datetime`, with the instant of a time that has a zone, in microseconds. -/
class Instants (DateTime : Type) extends DateTimes DateTime where
  instant : DateTime → Int

/-! ## Results -/

/-- `ValidationError`. -/
structure ValidationError where
  code : String
  message : String
  field : Option String
  deriving DecidableEq, Repr

/-- `ValidationResult`, which is valid as long as it has no errors. -/
structure ValidationResult where
  valid : Bool
  errors : List ValidationError
  data : Option Record
  consistent : valid = errors.isEmpty

namespace ValidationResult

/-- `ValidationResult(valid=True, data=data)`. -/
def start (data : Record) : ValidationResult := ⟨true, [], some data, rfl⟩

/-- `add_error`. -/
def addError (result : ValidationResult) (error : ValidationError) : ValidationResult where
  valid := false
  errors := result.errors ++ [error]
  data := result.data
  consistent := by simp

/-- The data of an invalid result is cleared. -/
def cleared (result : ValidationResult) : ValidationResult :=
  { result with data := if result.valid then result.data else none }

end ValidationResult

/-! ## Values -/

namespace Value

/-- `bool(value)`. -/
def truthy : Value → Bool
  | none => false
  | int number => number ≠ 0
  | float number => !(number == 0)
  | str text => text ≠ ""

/-- `value is not None`. -/
def isSome : Value → Bool
  | none => false
  | _ => true

/-- The value in a formatted text; an integer with too many digits is not converted. -/
def text : Value → Except Raised String
  | none => .ok "None"
  | int number =>
      if maxIntDigits < (Nat.toDigits 10 number.natAbs).length then .error .valueError
      else .ok (toString number)
  | float number => .ok (Floats.text number)
  | str text => .ok text

/-- `value is not None and value < 0`. -/
def isNegative : Value → Except Raised Bool
  | none => .ok false
  | int number => .ok (number < 0)
  | float number => .ok (number < 0)
  | str _ => .error .typeError

end Value

/-- `record[key] if key in record else record.get(other, default)`. -/
def Record.field (record : Record) (keys : String × String) (default : Value) : Value :=
  (record.get? keys.1).getD ((record.get? keys.2).getD default)

section Validator

variable [Unicode]

/-- `_to_float`. -/
def toFloat : Value → Except Raised (Option Float)
  | .none => .ok none
  | .float number => .ok (if number.isNaN || number.isInf then none else some number)
  | .int number =>
      match Floats.ofInt number with
      | none => .error .overflowError
      | some result => .ok (some result)
  | .str text =>
      if text = "" then .ok none
      else
        match Floats.ofText text with
        | none => .ok none
        | some result => .ok (if result.isNaN || result.isInf then none else some result)

/-- `_is_valid_symbol`; a pattern is not matched with a number. -/
def isValidSymbol (symbol : Value) : Except Raised Bool :=
  if symbol.truthy then
    match symbol with
    | .str text =>
        let chars := text.toList
        .ok
          (stockPattern chars || (occPattern chars).isSome || (pairPattern 2 10 2 10 chars).isSome)
    | _ => .error .typeError
  else .ok false

/-! ## Checks -/

/-- A check: the error that it adds, if any. -/
abbrev Check := Except Raised (Option ValidationError)

/-- `if bad: result.add_error(code, message, field)`. -/
def refuseIf (bad : Bool) (code : String) (message : Except Raised String)
    (field : String) : Check :=
  if bad then message.map fun message => some ⟨code, message, some field⟩ else .ok none

/-- The check of a symbol. -/
def symbolCheck (symbol : Value) : Check := do
  let valid ← isValidSymbol symbol
  refuseIf (!valid) "GW-E7007" (symbol.text.map fun text => "Invalid symbol format: " ++ text)
    "symbol"

/-- A price that is there and cannot be read. -/
def readCheck (label : String) (raw : Value) (parsed : Option Float) : Check :=
  refuseIf (raw.isSome && parsed.isNone) "GW-E7002"
    (raw.text.map fun text => "Non-finite or unparseable " ++ label ++ " price: " ++ text) label

/-- The sign of a price. -/
def priceCheck (bad : Float → Bool) (wording field : String) : Option Float → Check
  | none => .ok none
  | some price => refuseIf (bad price) "GW-E7002" (.ok (wording ++ ": " ++ Floats.text price)) field

/-- A price of a bar is not above its high. -/
def highCheck (code : String) (high : Float) (name : String) : Option Float → Check
  | none => .ok none
  | some price =>
      refuseIf (high < price) code
        (.ok ("High (" ++ Floats.text high ++ ") < " ++ name ++ " (" ++ Floats.text price ++ ")"))
        "high"

/-- A price of a bar is not below its low. -/
def lowCheck (code : String) (low : Float) (name : String) : Option Float → Check
  | none => .ok none
  | some price =>
      refuseIf (low > price) code
        (.ok ("Low (" ++ Floats.text low ++ ") > " ++ name ++ " (" ++ Floats.text price ++ ")"))
        "low"

/-- The sign of a size. -/
def sizeCheck (label : String) (size : Value) (field : String) : Check := do
  let negative ← size.isNegative
  refuseIf negative "GW-E7006"
    (size.text.map fun text => "Negative " ++ label ++ ": " ++ text) field

/-- The checks in their order. -/
def runChecks (result : ValidationResult) : List Check → Except Raised ValidationResult
  | [] => .ok result
  | check :: rest => do
      match ← check with
      | none => runChecks result rest
      | some error => runChecks (result.addError error) rest

/-- The checks of a record, and the end of its validation. -/
def report (data : Record) (checks : List Check) : Except Raised ValidationResult :=
  (runChecks (.start data) checks).map ValidationResult.cleared

/-- `_is_future_timestamp`: five seconds of drift are allowed. -/
def isFutureTimestamp (DateTime : Type) [Instants DateTime] (timestamp : Value)
    (now : Int) : Bool :=
  match timestamp with
  | .str text =>
      ((parseTimestamp text : Option DateTime).map Instants.instant).any fun time =>
        now + 5000000 < time
  | _ => false

/-- The check of a timestamp. -/
def timestampCheck (DateTime : Type) [Instants DateTime] (timestamp : Value) (now : Int) : Check :=
  refuseIf (timestamp.truthy && isFutureTimestamp DateTime timestamp now) "GW-E7001"
    (timestamp.text.map fun text => "Future timestamp: " ++ text) "timestamp"

/-! ## Validators -/

/-- The order of the prices of a bar, for a bar with a high and a low. -/
def orderChecks (openPrice high low close : Option Float) : List Check :=
  match high, low with
  | some high, some low =>
      [highCheck "GW-E7003" high "Low" (some low), highCheck "GW-E7004" high "Open" openPrice,
        highCheck "GW-E7004" high "Close" close, lowCheck "GW-E7005" low "Open" openPrice,
        lowCheck "GW-E7005" low "Close" close]
  | _, _ => []

/-- `validate_bar`. -/
def validateBar (DateTime : Type) [Instants DateTime] (bar : Record) (now : Int) :
    Except Raised ValidationResult := do
  let symbol := bar.field ("symbol", "S") (.str "")
  let timestamp := bar.field ("timestamp", "t") .none
  let openRaw := bar.field ("open", "o") .none
  let highRaw := bar.field ("high", "h") .none
  let lowRaw := bar.field ("low", "l") .none
  let closeRaw := bar.field ("close", "c") .none
  let openPrice ← toFloat openRaw
  let high ← toFloat highRaw
  let low ← toFloat lowRaw
  let close ← toFloat closeRaw
  let volume := bar.field ("volume", "v") (.int 0)
  report bar
    ([symbolCheck symbol, timestampCheck DateTime timestamp now, readCheck "open" openRaw openPrice,
      readCheck "high" highRaw high, readCheck "low" lowRaw low, readCheck "close" closeRaw close,
      priceCheck (· ≤ 0) "Invalid open price" "open" openPrice,
      priceCheck (· ≤ 0) "Invalid close price" "close" close,
      priceCheck (· ≤ 0) "Invalid high price" "high" high,
      priceCheck (· ≤ 0) "Invalid low price" "low" low] ++
      orderChecks openPrice high low close ++ [sizeCheck "volume" volume "volume"])

/-- `validate_quote`. -/
def validateQuote (DateTime : Type) [Instants DateTime] (quote : Record) (now : Int) :
    Except Raised ValidationResult := do
  let symbol := quote.field ("symbol", "S") (.str "")
  let bidPrice ← toFloat (quote.field ("bid_price", "bp") .none)
  let askPrice ← toFloat (quote.field ("ask_price", "ap") .none)
  let bidSize := quote.field ("bid_size", "bs") (.int 0)
  let askSize := quote.field ("ask_size", "as") (.int 0)
  let timestamp := quote.field ("timestamp", "t") .none
  report quote
    [symbolCheck symbol, timestampCheck DateTime timestamp now,
      priceCheck (· < 0) "Negative bid price" "bid_price" bidPrice,
      priceCheck (· < 0) "Negative ask price" "ask_price" askPrice,
      sizeCheck "bid size" bidSize "bid_size", sizeCheck "ask size" askSize "ask_size"]

/-- `validate_trade`. -/
def validateTrade (DateTime : Type) [Instants DateTime] (trade : Record) (now : Int) :
    Except Raised ValidationResult := do
  let symbol := trade.field ("symbol", "S") (.str "")
  let price ← toFloat (trade.field ("price", "p") .none)
  let size := trade.field ("size", "s") (.int 0)
  let timestamp := trade.field ("timestamp", "t") .none
  report trade
    [symbolCheck symbol, timestampCheck DateTime timestamp now,
      priceCheck (· ≤ 0) "Invalid trade price" "price" price, sizeCheck "trade size" size "size"]

end Validator

end Validation
end DataGateway
