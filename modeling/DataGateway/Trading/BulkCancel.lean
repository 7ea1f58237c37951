import DataGateway.Trading.Routes

/-!
# Cancelling a symbol's orders in bulk

`DELETE /orders` groups the caller's open orders by symbol and cancels each group under one fence,
one claim and one mutation marker.  A failure is reported against the orders it affects instead of
aborting the batch, and an unknown outcome keeps the fence lease.
-/

namespace DataGateway
namespace Trading

open Coroutine

variable {Raw : Type}

/-- What the batch reports for one order. -/
structure OrderResult where
  /-- `order_id`. -/
  orderId : Option String
  /-- `cancelled`. -/
  cancelled : Bool
  /-- `symbol`, `status_code` and `detail` of a failure. -/
  failure : Option (String × Int × Detail)
  deriving DecidableEq, Repr

/-- `_bulk_cancel_failure`. -/
def bulkCancelFailure (orderId : Option String) (symbol : String) (error : HttpError) :
    OrderResult :=
  ⟨orderId, false, some (symbol, error.statusCode, error.detail)⟩

/-- `_bulk_cancel_rejection`. -/
def bulkCancelRejection (error : PyError) (mayHaveReachedBroker : Bool := false) : HttpError :=
  match error with
  | .ownershipConflict _ | .ownershipStoreUnavailable _ =>
      ownershipRejection error mayHaveReachedBroker []
  | .http error => error
  | error => .coded 502 "GW-E5007" error.text

section Batch

variable [ClaimText Raw] [Unicode] (settings : Settings) (clientId symbol : String)

/-- `_freeze_symbol_for_batch`: the error of a freeze that could not be stored. -/
def freezeSymbolForBatch (reason : String) : Route Raw PyError (Option HttpError) :=
  (freezeBeforeFenceRelease symbol reason).resolve fun
    | .ok _ => .finish (.ok none)
    | .error .cancelled => raise .cancelled
    | .error error => .finish (.ok (some (bulkCancelRejection error true)))

/-- `_reconcile_symbol_state_for_batch`. -/
def reconcileSymbolStateForBatch : Route Raw PyError BrokerSymbolState :=
  executeAlpacaProviderCall (reconcileBrokerSymbolState settings symbol)

/-- A renewal whose failure is `_FenceLostBeforeWrite`. -/
def renewBeforeWrite (fence : String) : Route Raw PyError Unit :=
  (renewFence symbol fence).catching fun error =>
    if error.isOwnership then
      raise (.http { ownershipRejection error false [] with kind := .fenceLostBeforeWrite })
    else raise error

/-- The admission-gated call of `_cancel_one_fenced_order`. -/
def cancelFencedCall (fence orderId : String) : Route Raw PyError String :=
  (renewBeforeWrite symbol fence).bind fun _ =>
    let write : BrokerWrite := ⟨"cancel_all_orders.cancel", symbol, some orderId, none⟩
    runTradingProviderCall settings "cancel_all_orders.cancel" []
      (.suspend (.submit write) fun _ => .suspend (.awaitReply write) fun reply =>
        .finish (.ok reply))

/-- `_cancel_one_fenced_order`: the result, and the reason for a freeze if the
outcome is unknown. -/
def cancelOneFencedOrder (fence orderId : String) :
    Route Raw PyError (OrderResult × Option String) :=
  (executeAlpacaProviderCall (cancelFencedCall settings symbol fence orderId)).resolve fun
    | .ok _ => .finish (.ok (⟨some orderId, true, none⟩, none))
    | .error .cancelled => raise .cancelled
    | .error (.http error) =>
        let reason :=
          if error.kind = .fenceLostBeforeWrite then some "gateway_fence_lost"
          else if 500 ≤ error.statusCode then some s!"broker_mutation_{error.statusCode}"
          else none
        .finish (.ok (bulkCancelFailure (some orderId) symbol error, reason))
    | .error error =>
        .finish (.ok (bulkCancelFailure (some orderId) symbol (bulkCancelRejection error),
          some "broker_mutation_unclassified"))

/-- The loop over the group: the results, and whether an unknown outcome stopped it. -/
def cancelEach (fence : String) : List String → Route Raw PyError (List OrderResult × Bool)
  | [] => .finish (.ok ([], false))
  | orderId :: rest =>
      (cancelOneFencedOrder settings symbol fence orderId).bind fun (result, reason) =>
        match reason with
        | none => (cancelEach fence rest).bind fun (results, stopped) =>
            .finish (.ok (result :: results, stopped))
        | some reason => (freezeSymbolForBatch symbol reason).bind fun freezeError =>
            let skipped := freezeError.getD symbolFrozenError
            .finish (.ok (result :: rest.map fun orderId =>
              bulkCancelFailure (some orderId) symbol skipped, true))

/-- From the first reconciliation to the marker. -/
def prepareGroup (fence : String) : Route Raw PyError String := do
  let brokerState ← reconcileSymbolStateForBatch settings symbol
  authorizeSubmission clientId symbol brokerState
  renewFence symbol fence
  beginMutation symbol "cancel_all_orders"

/-- The reconciliation after the group, and the clearing of the marker. -/
def confirmGroup (mutation : String) : Route Raw PyError Unit := do
  let brokerState ← reconcileSymbolStateForBatch settings symbol
  verifyReconciliation clientId symbol brokerState
  completeMutation symbol mutation

/-- The results, and whether the fence lease is kept. -/
abbrev GroupOutcome := List OrderResult × Bool

/-- The handler of an exception after the marker was set. -/
def afterFailedGroup (results : List OrderResult) (error : PyError) :
    Route Raw WriteError GroupOutcome :=
  let reason := match error with
    | .ownershipConflict reason => "post_write_reconciliation_" ++ reason
    | _ => "post_write_reconciliation_unclassified"
  (tagged (freezeSymbolForBatch symbol reason)).bind fun freezeError =>
    .finish (.ok (results ++ [bulkCancelFailure none symbol
      (freezeError.getD (bulkCancelRejection error true))], freezeError.isSome))

/-- The handler of a cancellation after the marker was set.  The shielded freeze runs to its end
whether or not the wait for it is cut short. -/
def afterCancelledGroup : Route Raw WriteError GroupOutcome :=
  (freezeSymbolForBatch symbol "broker_mutation_cancelled").resolve fun _ =>
    raise (.cancelled, true)

/-- The writes of the group under a held fence and marker. -/
def writeGroup (fence mutation : String) (orderIds : List String) :
    Route Raw WriteError GroupOutcome :=
  (cancelEach settings symbol fence orderIds).resolve fun
    | .error .cancelled => afterCancelledGroup symbol
    -- nothing but a cancellation leaves the loop
    | .error error => afterFailedGroup symbol [] error
    | .ok (results, true) => .finish (.ok (results, true))
    | .ok (results, false) =>
        (confirmGroup settings clientId symbol mutation).resolve fun
          | .ok _ => .finish (.ok (results, false))
          | .error .cancelled => afterCancelledGroup symbol
          | .error error => afterFailedGroup symbol results error

/-- Every order of the group with the error that blocked it. -/
def blockedGroup (orderIds : List String) (error : PyError) : List OrderResult :=
  orderIds.map fun orderId => bulkCancelFailure (some orderId) symbol (bulkCancelRejection error)

/-- The block between taking and giving up the fence. -/
def fencedGroup (fence : String) (orderIds : List String) : Route Raw WriteError GroupOutcome :=
  (prepareGroup settings clientId symbol fence).resolve fun
    | .ok mutation => writeGroup settings clientId symbol fence mutation orderIds
    | .error .cancelled => raise (.cancelled, false)
    | .error error => .finish (.ok (blockedGroup symbol orderIds error, false))

/-- The `finally` clause: a blocked release keeps the lease to its expiry. -/
def releaseUnlessBlocked (fence : String) (blocked : Bool) : Route Raw PyError Unit :=
  if blocked then pure () else releaseFence symbol fence

/-- `_cancel_owned_orders_for_symbol`. -/
def cancelOwnedOrdersForSymbol (orderIds : List String) : Route Raw PyError (List OrderResult) :=
  (acquireFence symbol).resolve fun
    | .error .cancelled => raise .cancelled
    | .error error => .finish (.ok (blockedGroup symbol orderIds error))
    | .ok fence => (fencedGroup settings clientId symbol fence orderIds).resolve fun
        | .ok (results, blocked) =>
            (releaseUnlessBlocked symbol fence blocked).bind fun _ => .finish (.ok results)
        | .error (error, blocked) =>
            (releaseUnlessBlocked symbol fence blocked).bind fun _ => raise error

end Batch

end Trading
end DataGateway
