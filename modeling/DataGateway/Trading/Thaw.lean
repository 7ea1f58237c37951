import DataGateway.Trading.Routes

/-!
# The operator's thaw

`thaw_claim` lifts a freeze or a stale marker after a fresh reconciliation.  It holds the symbol's
fence for the whole command, renews it right before the write, and writes only over the exact text
it reviewed.
-/

namespace DataGateway
namespace Trading

open Coroutine

variable {Raw : Type} [ClaimText Raw] [Unicode]

/-- The checks of the reconciled broker state: whether the claim may be lifted. -/
def thawAdmits (owner : String) (brokerState : BrokerSymbolState) (delete : Bool) : Bool :=
  brokerState.complete && brokerState.orderOwners ⊆ {some owner} &&
    !(delete && (brokerState.hasPosition || brokerState.orderOwners ≠ ∅))

/-- The body of the command while the fence is held; the result is the exit status. -/
def thawHeldClaim (settings : Settings) (symbol fence : String) (delete : Bool) :
    Route Raw PyError Nat := do
  let stored ← loadStoredClaim symbol
  match stored with
  | none => pure 1
  | some stored =>
      if !(Claim.truthy stored.claim.frozenReason || Claim.truthy stored.claim.mutationPending) then
        pure 1
      else do
        let brokerState ← reconcileBrokerSymbolState settings symbol
        if thawAdmits stored.claim.owner brokerState delete then do
          renewFence symbol fence
          thaw symbol stored delete
          let _ ← loadStoredClaim symbol
          pure 0
        else pure 1

/-- An ownership error refuses the thaw. -/
def refuseThaw (error : PyError) : Route Raw PyError Nat :=
  if error.isOwnership then pure 1 else raise error

/-- `thaw_claim`. -/
def thawClaim (settings : Settings) (symbol : String) (delete : Bool) : Route Raw PyError Nat :=
  .suspend .today fun today =>
    match Symbology.canonicalBrokerSymbol today symbol with
    | .error _ => .finish (.ok 1)
    | .ok canonical =>
        (acquireFence canonical).resolve fun
          | .error error => refuseThaw error
          | .ok fence =>
              ((thawHeldClaim settings canonical fence delete).catching refuseThaw).ensuring
                (releaseFence canonical fence)

end Trading
end DataGateway
