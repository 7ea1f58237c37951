import DataGateway.Trading.World
import Mathlib.Data.Finset.Card

/-!
# The ownership guard

The methods of `OrderOwnershipGuard` as coroutines over the store commands.  A failed store call is
`OwnershipStoreUnavailable`, a refusal is `OwnershipConflict`, and a cancelled wait is neither.
-/

namespace DataGateway
namespace Trading

open Coroutine

variable {Raw : Type}

/-- `BrokerSymbolState`. -/
structure BrokerSymbolState where
  /-- The broker holds a position. -/
  hasPosition : Bool
  /-- The owners of the open orders; `none` is an order that no client owns. -/
  orderOwners : Finset (Option String)
  /-- Every record that matters could be read. -/
  complete : Bool
  deriving DecidableEq

/-- A claim together with the text it was stored as. -/
structure StoredClaim (Raw : Type) [ClaimText Raw] where
  /-- The stored text. -/
  raw : Raw
  /-- The claim that was read from it. -/
  claim : Claim
  /-- The claim is what the text holds, and it names an owner. -/
  loaded : loads raw = some claim

section Calls

variable {α : Type}

/-- `_reject`. -/
def reject (symbol reason : String) : Route Raw PyError α :=
  raise (.ownershipConflict (reason ++ ":" ++ symbol))

/-- Continue with the value of a pure step or raise its exception. -/
def ofExcept (result : Except PyError α) : Route Raw PyError α := .finish result

/-- The `try` around every store call: an exception becomes `_store_error`. -/
def awaitStore (symbol operation : String) : StoreReply α → Route Raw PyError α
  | .served value => .finish (.ok value)
  | .failed =>
      raise (.ownershipStoreUnavailable ("redis_" ++ operation ++ "_failed:" ++ symbol))
  | .cancelled => raise .cancelled

/-- Run a store command under a name for its failure. -/
def storeCall (symbol operation : String) (op : StoreOp Raw) : Route Raw PyError Bool :=
  .suspend (.store symbol op) (awaitStore symbol operation)

/-- `uuid.uuid4()`. -/
def freshUuid : Route Raw PyError Uuid := .suspend .uuid4 fun uuid => .finish (.ok uuid)

/-- `datetime.now(UTC).isoformat()`. -/
def utcNow : Route Raw PyError String := .suspend .utcnow fun now => .finish (.ok now)

/-- `GET` the claim key. -/
def getClaim (symbol : String) : Route Raw PyError (Option Raw) :=
  .suspend (.getClaim symbol) (awaitStore symbol "read")

/-- The token of a mutation: `f"{operation}:{uuid.uuid4().hex}"`. -/
def mutationToken (operation : String) (uuid : Uuid) : String := operation ++ ":" ++ uuid.hex

/-- `_assert_broker_state_is_unambiguous`. -/
def assertBrokerStateIsUnambiguous (symbol : String) (claim : Option Claim)
    (brokerState : BrokerSymbolState) (allowPendingMutation : Bool := false) :
    Except PyError Unit :=
  let reject (reason : String) : Except PyError Unit :=
    .error (.ownershipConflict (reason ++ ":" ++ symbol))
  let owners := brokerState.orderOwners
  if !brokerState.complete then reject "incomplete_broker_reconciliation"
  else if claim.any fun claim => Claim.truthy claim.frozenReason then
    reject "claim_frozen_after_ambiguous_broker_mutation"
  else if (claim.any fun claim => Claim.truthy claim.mutationPending) && !allowPendingMutation then
    reject "mutation_pending_reconciliation"
  else if none ∈ owners ∨ 1 < owners.card then reject "manual_or_mixed_broker_orders"
  else if brokerState.hasPosition && claim.isNone then reject "unowned_broker_position"
  else if claim.isNone ∧ owners ≠ ∅ then reject "unclaimed_broker_order"
  else if owners ≠ ∅ ∧ claim.any fun claim => some claim.owner ∉ owners then
    reject "claim_disagrees_with_broker_order_owner"
  else .ok ()

end Calls

section Fence

/-- `acquire_fence`. -/
def acquireFence (symbol : String) : Route Raw PyError String := do
  let token ← freshUuid
  let acquired ← storeCall symbol "fence_acquire" (.acquireFence token.hex)
  if acquired then pure token.hex else reject symbol "concurrent_gateway_reconciliation"

/-- `renew_fence`. -/
def renewFence (symbol token : String) : Route Raw PyError Unit := do
  let renewed ← storeCall symbol "fence_renew" (.renewFence token)
  if renewed then pure () else reject symbol "gateway_fence_lost"

/-- `release_fence`: a failed release is logged and swallowed. -/
def releaseFence (symbol token : String) : Route Raw PyError Unit :=
  (storeCall symbol "fence_release" (.compareAndDeleteFence token) >>= fun _ => pure ()).catching
    fun error => if error.isException then pure () else raise error

end Fence

section Claims

variable [ClaimText Raw]

/-- `_load_stored_claim`. -/
def loadStoredClaim (symbol : String) : Route Raw PyError (Option (StoredClaim Raw)) := do
  let raw ← getClaim symbol
  match raw with
  | none => pure none
  | some raw =>
      match loaded : loads raw with
      | some claim => pure (some ⟨raw, claim, loaded⟩)
      | none => raise (.ownershipConflict ("corrupt_claim:" ++ symbol))

/-- `_load_claim`. -/
def loadClaim (symbol : String) : Route Raw PyError (Option Claim) := do
  let stored ← loadStoredClaim symbol
  pure (stored.map StoredClaim.claim)

/-- `_ensure_index`. -/
def ensureIndex (owner symbol : String) : Route Raw PyError Unit := do
  let _ ← storeCall symbol "index_repair" (.ensureIndex owner)
  pure ()

/-- `_release_if_clear`. -/
def releaseIfClear (symbol : String) (claim : Option Claim) (brokerState : BrokerSymbolState) :
    Route Raw PyError Unit :=
  match claim with
  | none => pure ()
  | some claim =>
      if brokerState.hasPosition ∨ brokerState.orderOwners ≠ ∅ then pure ()
      else do
        let _ ← storeCall symbol "release" (.compareAndDelete claim.owner)
        pure ()

/-- `_serialize_claim`. -/
def serializeClaim (clientId now : String) : Raw :=
  ClaimText.dumps ⟨clientId, some now, none, none⟩

/-- `authorize_submission`. -/
def authorizeSubmission (clientId symbol : String) (brokerState : BrokerSymbolState) :
    Route Raw PyError Unit := do
  let claim ← loadClaim symbol
  ofExcept (assertBrokerStateIsUnambiguous symbol claim brokerState)
  releaseIfClear symbol claim brokerState
  let claim ← loadClaim symbol
  ofExcept (assertBrokerStateIsUnambiguous symbol claim brokerState)
  match claim with
  | some claim =>
      if claim.owner ≠ clientId then reject symbol "owned_by_another_gateway_client"
      else ensureIndex claim.owner symbol
  | none =>
      let now ← utcNow
      let acquired ←
        storeCall symbol "claim" (.claimAndIndex clientId (serializeClaim clientId now))
      if acquired then pure ()
      else
        -- the claim appeared in between; whether it is frozen is not looked at again
        let winner ← loadClaim symbol
        match winner with
        | none => raise (.ownershipStoreUnavailable ("claim_race_unresolved:" ++ symbol))
        | some winner =>
            if winner.owner ≠ clientId then
              reject symbol "concurrent_claim_by_another_gateway_client"
            else ensureIndex clientId symbol

/-- `authorize_close`. -/
def authorizeClose (clientId symbol : String) (brokerState : BrokerSymbolState) :
    Route Raw PyError Unit := do
  let claim ← loadClaim symbol
  ofExcept (assertBrokerStateIsUnambiguous symbol claim brokerState)
  if !brokerState.hasPosition then reject symbol "broker_position_not_open"
  else if brokerState.orderOwners ≠ ∅ then reject symbol "open_orders_prevent_close"
  else
    match claim with
    | none => reject symbol "unowned_broker_position"
    | some claim =>
        if claim.owner ≠ clientId then reject symbol "owned_by_another_gateway_client" else pure ()

/-- `begin_mutation`. -/
def beginMutation (symbol operation : String) : Route Raw PyError String := do
  let uuid ← freshUuid
  let token := mutationToken operation uuid
  let started ← storeCall symbol "mutation_begin" (.beginMutation token)
  if started then pure token
  else
    let claim ← loadClaim symbol
    match claim with
    | none => raise (.ownershipStoreUnavailable ("missing_claim_to_begin_mutation:" ++ symbol))
    | some _ => reject symbol "mutation_pending_reconciliation"

/-- `complete_mutation`. -/
def completeMutation (symbol token : String) : Route Raw PyError Unit := do
  let completed ← storeCall symbol "mutation_complete" (.completeMutation token)
  if completed then pure () else reject symbol "mutation_completion_token_lost"

/-- `release_claim_if_broker_is_clear`. -/
def releaseClaimIfBrokerIsClear (clientId symbol fenceToken : String)
    (brokerState : BrokerSymbolState) : Route Raw PyError Unit :=
  if !brokerState.complete ∨ brokerState.hasPosition ∨ brokerState.orderOwners ≠ ∅ then pure ()
  else do
    let claim ← loadClaim symbol
    match claim with
    | none => pure ()
    | some claim =>
        if claim.owner ≠ clientId then pure ()
        else
          let _ ← storeCall symbol "release_under_fence"
            (.releaseClaimUnderFence clientId fenceToken)
          pure ()

/-- `verify_reconciliation`. -/
def verifyReconciliation (clientId symbol : String) (brokerState : BrokerSymbolState) :
    Route Raw PyError Unit := do
  let claim ← loadClaim symbol
  ofExcept (assertBrokerStateIsUnambiguous symbol claim brokerState true)
  if claim.any fun claim => claim.owner = clientId then pure ()
  else reject symbol "claim_missing_or_owned_by_another_gateway_client"

/-- `freeze`: the claim that was read is written back with a reason. -/
def freeze (symbol reason : String) : Route Raw PyError Unit := do
  let claim ← loadClaim symbol
  match claim with
  | none => raise (.ownershipStoreUnavailable ("missing_claim_to_freeze:" ++ symbol))
  | some claim =>
      let _ ← storeCall symbol "freeze"
        (.setClaim (ClaimText.dumps { claim with frozenReason := some reason }))
      pure ()

/-- `thaw`. -/
def thaw (symbol : String) (expected : StoredClaim Raw) (delete : Bool) :
    Route Raw PyError Unit := do
  let thawed ← storeCall symbol "thaw" (.thawClaim expected.raw delete expected.claim.owner)
  if thawed then pure () else reject symbol "claim_changed_before_thaw"

end Claims

end Trading
end DataGateway
