import DataGateway.Trading.Guard

/-!
# Calls to the broker

Every call to the broker's SDK passes the in-flight cap and a timeout, and every route reaches the
provider through one gate that maps foreign exceptions to HTTP errors.  Reconciliation is two such
calls followed by a pure reading of what they returned.
-/

namespace DataGateway
namespace Trading

open Coroutine Symbology

variable {Raw α : Type}

/-- The settings that the routes read. -/
structure Settings where
  /-- `alpaca_trading_max_inflight`. -/
  maxInflight : Nat
  /-- `_known_client_ids()`. -/
  clientIds : List String

/-- An HTTP error whose detail is a plain text. -/
def httpText (statusCode : Int) (message : String) : PyError :=
  .http ⟨.plain, statusCode, .text message⟩

/-- An HTTP error with a gateway code. -/
def httpCoded (statusCode : Int) (code message : String) (context : Fields := []) : PyError :=
  .http (.coded statusCode code message context)

/-- `_run_trading_provider_call`: the in-flight cap, the call, and the timeout. -/
def runTradingProviderCall (settings : Settings) (operation : String) (context : Fields)
    (dispatch : Route Raw PyError (SdkReply α)) : Route Raw PyError α :=
  .suspend .inflightFull fun full =>
    if full then
      raise (httpCoded 503 "GW-E5005"
        (s!"Alpaca trading API backpressure during {operation}: {settings.maxInflight} calls " ++
          "already in-flight. Retry shortly.") context)
    else
      let timeout : PyError := httpCoded 504 "GW-E5004"
        s!"Timed out waiting for Alpaca trading API during {operation}" context
      dispatch.bind fun
        | .returned value => .finish (.ok value)
        | .timedOut => raise timeout
        | .raised (.timeout _) => raise timeout
        | .raised error => raise (.ofBroker error)
        | .cancelled => raise .cancelled

/-- How the gate answers an exception of the call it admitted. -/
def gateError : PyError → PyError
  | .http error => .http error
  | .cancelled => .cancelled
  | .api error =>
      match error.statusCode with
      | .known code => httpText code ("Alpaca API Error: " ++ error.body)
      | .missing => httpText 400 ("Alpaca API Error: " ++ error.body)
      -- comparing the status with 500 raises in the handler, which no other handler catches
      | .absent => .other "'<' not supported between instances of 'NoneType' and 'int'"
      | .unreadable => .other "unreadable status_code"
  | .httpStatus code => httpText code s!"Upstream provider error: {code}"
  | .ownershipConflict _ | .ownershipStoreUnavailable _ | .value _ | .other _ =>
      httpText 502 "Upstream provider error"

theorem gateError_ne_cancelled {error : PyError} (other : error ≠ .cancelled) :
    gateError error ≠ .cancelled := by
  cases error with
  | api error =>
      unfold gateError
      dsimp only
      split <;> rintro ⟨⟩
  | cancelled => exact absurd rfl other
  | _ => rintro ⟨⟩

/-- The admission in front of a provider call: the rate limit and the upstream permit. -/
def admission : Route Raw PyError Unit :=
  .suspend .rateLimit fun
    | .granted => .suspend .permit fun
        | .granted => .finish (.ok ())
        | .cancelled => raise .cancelled
    | .exceeded => raise (httpCoded 429 "GW-E4002" "Provider rate limit exceeded: alpaca"
        [("provider", "alpaca")])
    | .raised message => raise (.other message)
    | .cancelled => raise .cancelled

/-- `execute_alpaca_provider_call`. -/
def executeAlpacaProviderCall (providerCall : Route Raw PyError α) : Route Raw PyError α :=
  .suspend .provider fun
    | false => raise (httpText 503 "Alpaca provider not available")
    | true => (admission.bind fun _ => providerCall).catching fun error => raise (gateError error)

/-! ## Reconciliation -/

section Records

variable [Unicode]

/-- `_extract_symbol_from_broker_record`; `none` is a proven other asset class. -/
def extractSymbolFromBrokerRecord (today : Date) (record : BrokerRecord) :
    Except SymbolError (Option String) :=
  match record.symbol with
  | none => .error .missing
  | some symbol =>
      match canonicalBrokerSymbol today symbol with
      | .ok canonical => .ok (some canonical)
      | .error (.unsupported _) => .ok none
      | .error error => .error error

/-- `_canonical_open_order_symbol_or_conflict`. -/
def canonicalOpenOrderSymbolOrConflict (today : Date) (order : BrokerRecord) (symbol : String) :
    Except PyError String :=
  match extractSymbolFromBrokerRecord today order with
  | .ok (some canonical) => .ok canonical
  | .ok none | .error _ =>
      .error (.ownershipConflict ("unresolvable_broker_order_symbol:" ++ symbol))

/-- The symbol of a position, and whether it could be recognized. -/
def positionSymbol (today : Date) (position : BrokerRecord) : Option String × Bool :=
  match extractSymbolFromBrokerRecord today position with
  | .ok canonical => (canonical, true)
  | .error _ => (none, false)

/-- What `_reconcile_broker_symbol_state` makes of the two reads. -/
def reconcileRecords (clientIds : List String) (today : Date) (symbol : String)
    (orders positions : Option (List BrokerRecord)) : Except PyError BrokerSymbolState :=
  match positions, orders with
  | some positions, some orders =>
      if 500 ≤ orders.length then
        .error (.ownershipConflict ("open_order_reconciliation_truncated:" ++ symbol))
      else
        let seen := positions.map (positionSymbol today)
        match orders.mapM fun order =>
            canonicalOpenOrderSymbolOrConflict today order symbol with
        | .error error => .error error
        | .ok orderSymbols =>
            .ok {
              hasPosition := seen.any fun (canonical, _) => canonical = some symbol
              orderOwners := (((orders.zip orderSymbols).filter fun (_, canonical) =>
                canonical = symbol).map fun (order, _) =>
                  ownerFromClientOrderId order.clientOrderId clientIds).toFinset
              complete := seen.all fun (_, recognized) => recognized }
  | _, _ => .error (.ownershipConflict ("invalid_broker_reconciliation_shape:" ++ symbol))

/-- `_reconcile_broker_symbol_state`: open orders first, then positions. -/
def reconcileBrokerSymbolState (settings : Settings) (symbol : String) :
    Route Raw PyError BrokerSymbolState := do
  let orders ← runTradingProviderCall settings "order_ownership.reconcile_open_orders" []
    (.suspend (.getOrders symbol) fun reply => .finish (.ok reply))
  let positions ← runTradingProviderCall settings "order_ownership.reconcile_positions" []
    (.suspend .getPositions fun reply => .finish (.ok reply))
  .suspend .today fun today =>
    ofExcept (reconcileRecords settings.clientIds today symbol orders positions)

end Records

end Trading
end DataGateway
