import DataGateway.Trading.Refusals

/-!
# The four write routes

`create_order`, `replace_order`, `cancel_order` and `close_position` run one protocol: take the
fence, reconcile, authorize, renew the fence, mark the claim, write to the broker, reconcile again
and clear the mark, with a freeze on every path whose outcome is unknown.  They differ in the values
of a `FencedWrite` and in what they check before the protocol starts.
-/

namespace DataGateway
namespace Trading

open Coroutine Symbology

variable {Raw α : Type}

/-- What a route fills into the common protocol. -/
structure FencedWrite (Raw : Type) where
  /-- The operation, as it appears in tokens and messages. -/
  operation : String
  /-- The SDK call. -/
  write : BrokerWrite
  /-- The authorization against the reconciled broker state. -/
  authorize : BrokerSymbolState → Route Raw PyError Unit
  /-- The replies that prove the write was not applied, `HTTPException` apart. -/
  provenUnapplied : PyError → Bool
  /-- The `HTTPException`s after which the marker is cleared. -/
  httpRefusal : HttpError → Bool
  /-- What follows a cleared marker, given the fence token. -/
  cleanUp : String → Route Raw PyError Unit
  /-- A `ValueError` is answered with 400. -/
  valueErrorIsClientFault : Bool
  /-- The retry fields of the route's errors. -/
  context : Fields
  /-- Errors that leave the gate get the retry fields as well. -/
  mergesContext : Bool

/-- An error of the protected block, with `write_proven_unapplied`. -/
abbrev WriteError := PyError × Bool

/-- Run a step of the protected block before the write is proven unapplied. -/
def tagged (body : Route Raw PyError α) : Route Raw WriteError α :=
  body.catching fun error => raise (error, false)

section Protocol

variable [ClaimText Raw] [Unicode]
variable (settings : Settings) (w : FencedWrite Raw) (clientId symbol : String)

/-- From the first reconciliation to the marker. -/
def prepareWrite (fence : String) : Route Raw PyError String := do
  let brokerState ← reconcileBrokerSymbolState settings symbol
  w.authorize brokerState
  renewFence symbol fence
  beginMutation symbol w.operation

/-- The SDK call that writes. -/
def dispatchWrite : Route Raw PyError String :=
  runTradingProviderCall settings w.operation w.context
    (.suspend (.submit w.write) fun _ => .suspend (.awaitReply w.write) fun reply =>
      .finish (.ok reply))

/-- The two handlers around the SDK call. -/
def afterFailedWrite (fence mutation : String) : PyError → Route Raw WriteError String
  | .http error =>
      (tagged (do
        freezeAfterAmbiguousMutation symbol error
        if w.httpRefusal error then
          clearMutationAfterUnappliedWrite symbol mutation (.http error)
          w.cleanUp fence
        else pure ())).bind fun _ => raise (.http error, false)
  | .cancelled => raise (.cancelled, false)
  | error =>
      if w.provenUnapplied error then
        (tagged (do
          clearMutationAfterUnappliedWrite symbol mutation error
          w.cleanUp fence)).bind fun _ => raise (error, true)
      else raise (error, false)

/-- The reconciliation after the write, and the clearing of the marker. -/
def confirmWrite (mutation : String) : Route Raw PyError Unit := do
  let brokerState ← reconcileBrokerSymbolState settings symbol
  verifyReconciliation clientId symbol brokerState
  completeMutation symbol mutation

/-- The handler of the second reconciliation: a conflict freezes the claim. -/
def afterFailedConfirmation : PyError → Route Raw PyError Unit
  | .ownershipConflict reason =>
      (freezeBeforeFenceRelease symbol ("post_write_reconciliation_" ++ reason)).bind fun _ =>
        raise (rejectOwnership true w.context (.ownershipConflict reason))
  | error => raise (rejectOwnership true w.context error)

/-- The protected block. -/
def guardedWrite (fence : String) : Route Raw WriteError String :=
  (tagged ((prepareWrite settings w symbol fence).catching fun error =>
      raise (rejectOwnership false [] error))).bind fun mutation =>
    ((dispatchWrite settings w).catching (afterFailedWrite w symbol fence mutation)).bind
      fun data =>
      (tagged ((confirmWrite settings clientId symbol mutation).catching
        (afterFailedConfirmation w symbol))).bind fun _ => .finish (.ok data)

/-- The freeze of a failure that no other handler knows. -/
def freezeUnclassified (error : PyError) (provenUnapplied : Bool) : Route Raw PyError String :=
  (if provenUnapplied then pure ()
    else freezeBeforeFenceRelease symbol "broker_mutation_unclassified").bind fun _ => raise error

/-- The outer handlers of `_call`. -/
def afterFailedBlock : WriteError → Route Raw PyError String
  | (.value message, unapplied) =>
      if w.valueErrorIsClientFault then raise (httpText 400 message)
      else freezeUnclassified symbol (.value message) unapplied
  | (.http error, _) => raise (.http error)
  | (.cancelled, _) => raise .cancelled
  | (error, unapplied) => freezeUnclassified symbol error unapplied

/-- `_call`.  Taking the fence can only fail with an ownership error or a cancellation, neither of
which any outer handler changes, and leaves nothing to release. -/
def fencedCall : Route Raw PyError String :=
  ((acquireFence symbol).catching fun error => raise (rejectOwnership false [] error)).bind
    fun fence =>
      ((guardedWrite settings w clientId symbol fence).catching
        (afterFailedBlock w symbol)).ensuring (releaseFence symbol fence)

/-- The handler around the gate. -/
def afterFailedGate : PyError → Route Raw PyError String
  | .http error =>
      (freezeAfterAmbiguousMutation symbol error).bind fun _ =>
        raise (.http
          (if w.mergesContext then mergeIdempotencyContextInto5xx error w.context else error))
  | error => raise error

/-- The protocol behind the gate, with the last handler. -/
def fencedRoute : Route Raw PyError String :=
  (executeAlpacaProviderCall (fencedCall settings w clientId symbol)).catching
    (afterFailedGate w symbol)

end Protocol

/-! ## The routes -/

/-- A successful answer: the data and the `meta` fields. -/
structure Answer where
  /-- The broker's data, serialized. -/
  data : String
  /-- `meta`. -/
  fields : Fields
  deriving DecidableEq, Repr

/-- `get_order_ownership_guard`. -/
def getOrderOwnershipGuard : Route Raw PyError Unit :=
  .suspend .ownershipGuard fun configured =>
    if configured then .finish (.ok ())
    else raise (httpCoded 503 "GW-E5301"
      "Order ownership is unavailable: GATEWAY_DATA_SINK_REDIS_URL is not configured.")

/-- The error of a symbol that cannot be fenced, when the caller supplied it. -/
def invalidSymbol (error : SymbolError) : PyError := httpCoded 400 "GW-E4006" error.text

/-- `_foreign_order_not_found`. -/
def foreignOrderNotFound (orderId : String) : PyError :=
  httpCoded 404 "GW-E4404" "Order not found." [("order_id", orderId)]

/-- `validated_caller_key or _generate_client_order_id(client.id)`, and where it came from. -/
def effectiveClientOrderId (clientOrderId : Option String) (clientId : String) :
    Route Raw PyError (String × String) :=
  match validateClientOrderId clientOrderId clientId with
  | .error error => raise (.http error)
  | .ok (some key) => .finish (.ok (key, "caller"))
  | .ok none => freshUuid.bind fun uuid =>
      match generateClientOrderId clientId uuid with
      | .error error => raise (.http error)
      | .ok key => .finish (.ok (key, "gateway"))

/-- `ALPACA_ROUTER_PREFIX`. -/
def alpacaRouterPrefix : String := "/api/v1/alpaca"

section Routes

variable [ClaimText Raw] [Unicode] (settings : Settings) (clientId : String)

/-- `_assert_order_owned_by_caller`. -/
def assertOrderOwnedByCaller (orderId operation : String) : Route Raw PyError BrokerRecord :=
  (executeAlpacaProviderCall
    (runTradingProviderCall settings (operation ++ ".ownership_check") []
      (.suspend (.getOrder orderId) fun reply => .finish (.ok reply)))).bind fun fetched =>
    match clientOrderIdMatchesOwner fetched.clientOrderId clientId with
    | .error error => raise (.http error)
    | .ok true => .finish (.ok fetched)
    | .ok false => raise (foreignOrderNotFound orderId)

/-- `_canonical_order_symbol_or_reject`. -/
def canonicalOrderSymbolOrReject (order : BrokerRecord) : Route Raw PyError String :=
  .suspend .today fun today =>
    match extractSymbolFromBrokerRecord today order with
    | .ok (some symbol) => .finish (.ok symbol)
    | .ok none | .error _ => raise unfenceableSymbolError

/-- The caller's symbol, canonicalized. -/
def canonicalSymbolOrReject (symbol : String) : Route Raw PyError String :=
  .suspend .today fun today =>
    match canonicalBrokerSymbol today symbol with
    | .ok canonical => .finish (.ok canonical)
    | .error error => raise (invalidSymbol error)

/-- What `create_order` fills in. -/
def createOrderWrite (symbol key source : String) : FencedWrite Raw where
  operation := "create_order"
  write := ⟨"create_order", symbol, none, some key⟩
  authorize := authorizeSubmission clientId symbol
  provenUnapplied := brokerSubmissionProvenUnapplied
  httpRefusal error := brokerSubmissionProvenUnapplied (.http error)
  cleanUp fence := releaseClaimAfterUnappliedSubmission settings symbol fence clientId
  valueErrorIsClientFault := true
  context :=
    [("client_order_id", key), ("client_order_id_source", source),
      ("retry_with", "client_order_id"),
      ("retry_hint", "Order may have placed at Alpaca despite the 5xx — Alpaca natively dedupes " ++
        s!"by client_order_id. Either GET {alpacaRouterPrefix}/orders:by_client_order_id" ++
        s!"?client_order_id={key} to check status, or retry POST {alpacaRouterPrefix}/orders " ++
        "with the same client_order_id to idempotently re-attempt.")]
  mergesContext := true

/-- `create_order`. -/
def createOrder (symbol : String) (clientOrderId : Option String) : Route Raw PyError Answer :=
  (effectiveClientOrderId clientOrderId clientId).bind fun (key, source) =>
    (canonicalSymbolOrReject symbol).bind fun canonical =>
      getOrderOwnershipGuard.bind fun _ =>
        (fencedRoute settings (createOrderWrite settings clientId canonical key source) clientId
          canonical).bind fun data =>
          .finish (.ok ⟨data, [("provider", "alpaca"), ("symbol", canonical),
            ("client_order_id", key), ("client_order_id_source", source)]⟩)

/-- What `replace_order` fills in. -/
def replaceOrderWrite (symbol orderId key source : String) : FencedWrite Raw where
  operation := "replace_order"
  write := ⟨"replace_order", symbol, some orderId, some key⟩
  authorize := authorizeSubmission clientId symbol
  provenUnapplied := brokerWriteProvenUnapplied
  httpRefusal _ := false
  cleanUp _ := pure ()
  valueErrorIsClientFault := true
  context :=
    [("client_order_id", key), ("client_order_id_source", source),
      ("retry_with", "client_order_id"),
      ("retry_hint", "Replacement may have applied at Alpaca despite the 5xx — Alpaca natively " ++
        "dedupes by client_order_id. Verify state via EITHER " ++
        s!"GET {alpacaRouterPrefix}/orders/{orderId} (the original order transitions to " ++
        "'replaced' status when a replacement applies) OR " ++
        s!"GET {alpacaRouterPrefix}/orders:by_client_order_id?client_order_id={key} (the " ++
        "replacement order is keyed by the supplied client_order_id). DO NOT retry PATCH naively " ++
        "— re-issuing without these checks risks a double-modify against a replaced order.")]
  mergesContext := true

/-- `replace_order`. -/
def replaceOrder (orderId : String) (clientOrderId : Option String) : Route Raw PyError Answer :=
  (assertOrderOwnedByCaller settings clientId orderId "replace_order").bind fun original =>
    (canonicalOrderSymbolOrReject original).bind fun canonical =>
      getOrderOwnershipGuard.bind fun _ =>
        (effectiveClientOrderId clientOrderId clientId).bind fun (key, source) =>
          (fencedRoute settings (replaceOrderWrite clientId canonical orderId key source) clientId
            canonical).bind fun data =>
            .finish (.ok ⟨data, [("provider", "alpaca"), ("client_order_id", key),
              ("client_order_id_source", source)]⟩)

/-- What `cancel_order` fills in. -/
def cancelOrderWrite (symbol orderId : String) : FencedWrite Raw where
  operation := "cancel_order"
  write := ⟨"cancel_order", symbol, some orderId, none⟩
  authorize := authorizeSubmission clientId symbol
  provenUnapplied := brokerWriteProvenUnapplied
  httpRefusal _ := false
  cleanUp _ := pure ()
  valueErrorIsClientFault := false
  context := []
  mergesContext := false

/-- `cancel_order`. -/
def cancelOrder (orderId : String) : Route Raw PyError Answer :=
  (assertOrderOwnedByCaller settings clientId orderId "cancel_order").bind fun original =>
    (canonicalOrderSymbolOrReject original).bind fun canonical =>
      getOrderOwnershipGuard.bind fun _ =>
        (fencedRoute settings (cancelOrderWrite clientId canonical orderId) clientId
          canonical).bind fun success => .finish (.ok ⟨success, [("provider", "alpaca")]⟩)

/-- What `close_position` fills in. -/
def closePositionWrite (symbol : String) : FencedWrite Raw where
  operation := "close_position"
  write := ⟨"close_position", symbol, none, none⟩
  authorize := authorizeClose clientId symbol
  provenUnapplied := brokerSubmissionProvenUnapplied
  httpRefusal error := brokerSubmissionProvenUnapplied (.http error)
  cleanUp fence := releaseClaimAfterUnappliedSubmission settings symbol fence clientId
  valueErrorIsClientFault := false
  context :=
    [("symbol", symbol), ("retry_with", "broker_reconciliation"),
      ("retry_hint", "Close may have succeeded at Alpaca despite the 5xx — ClosePositionRequest " ++
        s!"does not accept client_order_id. Check GET {alpacaRouterPrefix}/positions/{symbol} " ++
        s!"and GET {alpacaRouterPrefix}/orders?status=open&symbols={symbol}; do not retry the " ++
        "close while its ownership claim is frozen.")]
  mergesContext := true

/-- A floating-point quantity: its value and how it prints. -/
structure Quantity where
  /-- Whether it is below zero. -/
  negative : Bool
  /-- `str(qty)`. -/
  text : String
  deriving DecidableEq, Repr

/-- `close_position`. -/
def closePosition (symbol : String) (qty : Option Quantity) : Route Raw PyError Answer :=
  (canonicalSymbolOrReject symbol).bind fun canonical =>
    match qty.filter Quantity.negative with
    | some qty =>
        raise (httpCoded 400 "GW-E4006"
          s!"close_position qty must be non-negative; got {qty.text}"
          [("symbol", canonical), ("qty", qty.text)])
    | none =>
        getOrderOwnershipGuard.bind fun _ =>
          (fencedRoute settings (closePositionWrite settings clientId canonical) clientId
            canonical).bind fun data =>
            .finish (.ok ⟨data, [("provider", "alpaca"), ("symbol", canonical)]⟩)

end Routes

/-- A request to one of the four routes. -/
inductive WriteRequest
  /-- `POST /orders`. -/
  | create (symbol : String) (clientOrderId : Option String)
  /-- `PATCH /orders/{order_id}`. -/
  | replace (orderId : String) (clientOrderId : Option String)
  /-- `DELETE /orders/{order_id}`. -/
  | cancel (orderId : String)
  /-- `DELETE /positions/{symbol}`. -/
  | close (symbol : String) (qty : Option Quantity)
  deriving DecidableEq, Repr

/-- The route that serves a request of a client. -/
def WriteRequest.serve [ClaimText Raw] [Unicode] (settings : Settings) (clientId : String) :
    WriteRequest → Route Raw PyError Answer
  | .create symbol clientOrderId => createOrder settings clientId symbol clientOrderId
  | .replace orderId clientOrderId => replaceOrder settings clientId orderId clientOrderId
  | .cancel orderId => cancelOrder settings clientId orderId
  | .close symbol qty => closePosition settings clientId symbol qty

end Trading
end DataGateway
