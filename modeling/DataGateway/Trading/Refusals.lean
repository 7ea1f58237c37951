import DataGateway.Trading.BrokerCalls

/-!
# Refused writes and ownership rejections

Which replies of the broker prove that a write was not applied, how an ownership failure is
answered, and the freeze and clean-up steps that every write route shares.
-/

namespace DataGateway
namespace Trading

open Coroutine Text

variable {Raw : Type}

/-! ## Replies that prove nothing was applied -/

/-- A letter of a pattern that ignores case. -/
def matchesFolded (literal c : Char) : Bool :=
  c.toLower == literal || literal == 'i' && (c == 'İ' || c == 'ı') || literal == 's' && c == 'ſ'

/-- A literal of a pattern that ignores case. -/
def literal : List Char → List Char → Option (List Char)
  | [], rest => some rest
  | letter :: letters, c :: rest => if matchesFolded letter c then literal letters rest else none
  | _ :: _, [] => none

/-- `[\\"']`. -/
def isQuote (c : Char) : Bool := c == '\\' || c == '"' || c == '\''

/-- `_ALREADY_IN_STATE_RE` at one position: the state, the longest one that the rest allows. -/
def alreadyInStateHere (chars : List Char) : Option (List Char) := do
  let rest ← literal "already in".toList chars
  let rest := (rest.dropWhile isSpace).dropWhile isQuote
  let body := rest.takeWhile fun c => isFoldedLetter c || c == '_'
  ((List.range body.length).reverse.map (· + 1)).findSome? fun length => do
    let _ ← literal "state".toList
      (((rest.drop length).dropWhile isQuote).dropWhile isSpace)
    some (body.take length)

/-- `_ALREADY_IN_STATE_RE.search`: the leftmost match. -/
def alreadyInState : List Char → Option (List Char)
  | [] => alreadyInStateHere []
  | c :: rest => (alreadyInStateHere (c :: rest)).or (alreadyInState rest)

/-- `_TERMINAL_ORDER_STATES`. -/
def terminalOrderStates : List String :=
  ["filled", "canceled", "cancelled", "expired", "rejected", "done_for_day"]

def terminalOrderStateCode : Int := 42210000

def orderNotFoundCode : Int := 40410000

/-- `_alpaca_error_message`. -/
def ApiError.alpacaErrorMessage (error : ApiError) : String := error.message.getD error.body

/-- `_broker_write_proven_unapplied`. -/
def brokerWriteProvenUnapplied : PyError → Bool
  | .api error =>
      error.statusCode == .known 404 || error.code == some orderNotFoundCode ||
        error.code == some terminalOrderStateCode &&
          match alreadyInState error.alpacaErrorMessage.toList with
          | none => false
          | some state => terminalOrderStates.contains (String.ofList (state.map Char.toLower))
  | _ => false

/-- `_SUBMISSION_REFUSAL_REPLIES`. -/
def submissionRefusalReplies : List (Int × Int) :=
  [(403, 40310000), (422, 42210000), (404, orderNotFoundCode)]

/-- `_broker_submission_proven_unapplied`. -/
def brokerSubmissionProvenUnapplied : PyError → Bool
  | .http error => error.statusCode < 500
  | .api error =>
      match error.statusCode, error.code with
      | .known status, some code => submissionRefusalReplies.contains (status, code)
      | _, _ => false
  | _ => false

/-! ## Ownership rejections -/

/-- `_OWNERSHIP_UNRESOLVED_MESSAGE`. -/
def ownershipUnresolvedMessage : String :=
  "Order ownership is unresolved; no order was submitted."

/-- `_OWNERSHIP_AMBIGUOUS_MESSAGE`. -/
def ownershipAmbiguousMessage : String :=
  "Broker mutation may have completed; reconcile broker positions and open orders before " ++
    "another mutation."

/-- `OwnershipConflict | OwnershipStoreUnavailable`. -/
def PyError.isOwnership : PyError → Bool
  | .ownershipConflict _ | .ownershipStoreUnavailable _ => true
  | _ => false

/-- `_ownership_rejection`; only ownership errors are passed to it. -/
def ownershipRejection (error : PyError) (mayHaveReachedBroker : Bool) (context : Fields) :
    HttpError :=
  let message :=
    if mayHaveReachedBroker then ownershipAmbiguousMessage else ownershipUnresolvedMessage
  match error with
  | .ownershipStoreUnavailable _ => .coded 503 "GW-E5301" message context
  | _ => .coded 409 "GW-E4301" message context

/-- Replace ownership errors by their rejection; other exceptions pass. -/
def rejectOwnership (mayHaveReachedBroker : Bool) (context : Fields) (error : PyError) : PyError :=
  if error.isOwnership then .http (ownershipRejection error mayHaveReachedBroker context) else error

/-- `_symbol_frozen_error`. -/
def symbolFrozenError : HttpError := .coded 409 "GW-E4301" ownershipAmbiguousMessage

/-- `_unfenceable_symbol_error`. -/
def unfenceableSymbolError : PyError := httpCoded 409 "GW-E4301" ownershipUnresolvedMessage

/-! ## Freezing and clearing -/

section Steps

variable [ClaimText Raw]

/-- `_freeze_before_fence_release`. -/
def freezeBeforeFenceRelease (symbol reason : String) : Route Raw PyError Unit :=
  (freeze symbol reason).catching fun error => raise (rejectOwnership true [] error)

/-- `_freeze_after_ambiguous_mutation`. -/
def freezeAfterAmbiguousMutation (symbol : String) (error : HttpError) : Route Raw PyError Unit :=
  if error.kind = .unappliedWriteOwnership ∨ error.statusCode < 500 then pure ()
  else freezeBeforeFenceRelease symbol s!"broker_mutation_{error.statusCode}"

/-- `_clear_mutation_after_unapplied_write`. -/
def clearMutationAfterUnappliedWrite (symbol token : String) (brokerError : PyError) :
    Route Raw PyError Unit :=
  (completeMutation symbol token).catching fun error =>
    if error.isOwnership then
      let rejection := ownershipRejection error false
        [("broker_error", brokerError.text),
          ("recovery_hint", s!"No order was submitted, but {symbol}'s ownership claim may still " ++
            "carry a pending-mutation marker that blocks the next write. Clear it with " ++
            s!"'python -m gateway.cli thaw-claim {symbol}'.")]
      raise (.http { rejection with kind := .unappliedWriteOwnership })
    else raise error

/-- `_release_claim_after_unapplied_submission`: every failure is logged and swallowed. -/
def releaseClaimAfterUnappliedSubmission [Unicode] (settings : Settings)
    (symbol fenceToken clientId : String) : Route Raw PyError Unit :=
  (do
    renewFence symbol fenceToken
    let brokerState ← reconcileBrokerSymbolState settings symbol
    releaseClaimIfBrokerIsClear clientId symbol fenceToken brokerState).catching fun error =>
      if error.isException then pure () else raise error

/-- `_merge_idempotency_context_into_5xx`. -/
def mergeIdempotencyContextInto5xx (error : HttpError) (context : Fields) : HttpError :=
  if error.kind = .unappliedWriteOwnership ∨ error.statusCode < 500 then error
  else
    match error.detail with
    | .fields detail => ⟨.plain, error.statusCode, .fields (Fields.merge context detail)⟩
    | .text message => .coded error.statusCode "GW-E5007" message context

end Steps

end Trading
end DataGateway
