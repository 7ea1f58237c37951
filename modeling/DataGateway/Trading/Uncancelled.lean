import DataGateway.Trading.CancelAll

/-!
# Steps that nobody cancels

While no wait is cancelled, none of the steps of a batch ends in a cancellation: every other failure
is an exception that the batch reports.
-/

namespace DataGateway
namespace Trading

open Coroutine Symbology

variable {Raw α β : Type}

/-- The wait for this reply was not cancelled. -/
def Command.Completes : (command : Command Raw) → command.Reply → Prop
  | .store _ _, reply | .getClaim _, reply => reply ≠ .cancelled
  | .rateLimit, reply => reply ≠ .cancelled
  | .permit, reply => reply ≠ .cancelled
  | .getOrders _, reply | .getPositions, reply => reply ≠ .cancelled
  | .getOrder _, reply => reply ≠ .cancelled
  | .awaitReply _, reply => reply ≠ .cancelled
  | .uuid4, _ | .utcnow, _ | .today, _ | .ownershipGuard, _ | .provider, _ | .inflightFull, _
  | .submit _, _ => True

/-- The contract of computations whose waits are not cancelled. -/
def completing : Contract (@Command.Reply Raw) Unit where
  may _ _ := True
  after command _ reply _ := command.Completes reply

/-- Without a cancelled wait, the computation does not end in a cancellation. -/
def Uncancelled (body : Route Raw PyError α) : Prop :=
  Meets completing (fun outcome _ => outcome ≠ .error .cancelled) () body

theorem uncancelled_ok (value : α) : Uncancelled (.finish (.ok value) : Route Raw PyError α) := by
  rintro ⟨⟩

theorem uncancelled_raise {error : PyError} (other : error ≠ .cancelled) :
    Uncancelled (raise error : Route Raw PyError α) := by
  rintro ⟨⟩
  exact other rfl

namespace Uncancelled

variable {body : Route Raw PyError α}

theorem bind {next : α → Route Raw PyError β} (first : Uncancelled body)
    (rest : ∀ value, Uncancelled (next value)) : Uncancelled (body.bind next) :=
  Meets.bind first (fun value _ _ => rest value) fun _ _ other same =>
    other (congrArg _ (Except.error.inj same))

theorem catching {handler : PyError → Route Raw PyError α} (first : Uncancelled body)
    (rest : ∀ error, error ≠ .cancelled → Uncancelled (handler error)) :
    Uncancelled (body.catching handler) :=
  Meets.catching first (fun _ _ _ => by rintro ⟨⟩) fun error _ other =>
    rest error fun same => other (congrArg _ same)

/-- A command whose reply is turned into an exception by a step that keeps cancellations apart. -/
theorem suspend {command : Command Raw} {resume : command.Reply → Route Raw PyError α}
    (rest : ∀ reply, command.Completes reply → Uncancelled (resume reply)) :
    Uncancelled (.suspend command resume) :=
  ⟨trivial, fun reply _ completes => rest reply completes⟩

end Uncancelled

/-! ## Calls to the store -/

section Store

variable {symbol operation : String}

theorem uncancelled_awaitStore {reply : StoreReply α} (completes : reply ≠ .cancelled) :
    Uncancelled (awaitStore symbol operation reply : Route Raw PyError α) := by
  cases reply with
  | served value => exact uncancelled_ok value
  | failed => exact uncancelled_raise (by rintro ⟨⟩)
  | cancelled => exact absurd rfl completes

theorem uncancelled_storeCall {op : StoreOp Raw} : Uncancelled (storeCall symbol operation op) :=
  .suspend fun _ completes => uncancelled_awaitStore completes

theorem uncancelled_reject {reason : String} :
    Uncancelled (reject symbol reason : Route Raw PyError α) :=
  uncancelled_raise (by rintro ⟨⟩)

theorem uncancelled_acquireFence :
    Uncancelled (acquireFence symbol : Route Raw PyError String) := by
  refine .suspend fun token _ => uncancelled_storeCall.bind fun acquired => ?_
  cases acquired
  · exact uncancelled_reject
  · exact uncancelled_ok _

theorem uncancelled_renewFence {token : String} :
    Uncancelled (renewFence symbol token : Route Raw PyError Unit) := by
  refine uncancelled_storeCall.bind fun renewed => ?_
  cases renewed
  · exact uncancelled_reject
  · exact uncancelled_ok _

/-- A release swallows every exception. -/
theorem releaseFence_answers {token : String} :
    Meets completing (fun outcome _ => outcome = .ok ()) ()
      (releaseFence symbol token : Route Raw PyError Unit) := by
  refine Meets.catching (uncancelled_storeCall.bind fun _ => uncancelled_ok ()) (fun _ _ _ => rfl)
    fun error _ other => ?_
  cases error with
  | cancelled => exact absurd rfl other
  | _ => rfl

variable [ClaimText Raw]

theorem uncancelled_loadClaim : Uncancelled (loadClaim symbol : Route Raw PyError _) := by
  refine Uncancelled.bind (Uncancelled.bind (.suspend fun _ completes =>
    uncancelled_awaitStore completes) fun raw => ?_) fun _ => uncancelled_ok _
  cases raw with
  | none => exact uncancelled_ok none
  | some raw =>
      dsimp only
      split
      · exact uncancelled_ok _
      · exact uncancelled_raise (by rintro ⟨⟩)

omit [ClaimText Raw] in
/-- A state of the broker that is refused is refused as a conflict. -/
theorem assertUnambiguous_conflict {claim : Option Claim} {brokerState : BrokerSymbolState}
    {allowPending : Bool} {error : PyError}
    (failed : assertBrokerStateIsUnambiguous symbol claim brokerState allowPending = .error error) :
    ∃ reason, error = .ownershipConflict reason := by
  unfold assertBrokerStateIsUnambiguous at failed
  dsimp only at failed
  split_ifs at failed <;> exact ⟨_, (Except.error.inj failed).symm⟩

omit [ClaimText Raw] in
theorem uncancelled_assertUnambiguous {claim : Option Claim} {brokerState : BrokerSymbolState}
    {allowPending : Bool} : Uncancelled (ofExcept (assertBrokerStateIsUnambiguous symbol claim
      brokerState allowPending) : Route Raw PyError Unit) := by
  intro cancelled
  obtain ⟨_, ⟨⟩⟩ := assertUnambiguous_conflict cancelled

omit [ClaimText Raw] in
theorem uncancelled_ensureIndex {owner : String} :
    Uncancelled (ensureIndex owner symbol : Route Raw PyError Unit) :=
  uncancelled_storeCall.bind fun _ => uncancelled_ok ()

omit [ClaimText Raw] in
theorem uncancelled_releaseIfClear {claim : Option Claim} {brokerState : BrokerSymbolState} :
    Uncancelled (releaseIfClear symbol claim brokerState : Route Raw PyError Unit) := by
  unfold releaseIfClear
  split
  · exact uncancelled_ok ()
  · split
    · exact uncancelled_ok ()
    · exact uncancelled_storeCall.bind fun _ => uncancelled_ok ()

theorem uncancelled_authorizeSubmission {clientId : String} {brokerState : BrokerSymbolState} :
    Uncancelled (authorizeSubmission clientId symbol brokerState : Route Raw PyError Unit) := by
  refine uncancelled_loadClaim.bind fun claim => ?_
  refine Uncancelled.bind uncancelled_assertUnambiguous fun _ => ?_
  refine uncancelled_releaseIfClear.bind fun _ => uncancelled_loadClaim.bind fun found => ?_
  refine Uncancelled.bind uncancelled_assertUnambiguous fun _ => ?_
  cases found with
  | some found =>
      dsimp only
      split
      · exact uncancelled_reject
      · exact uncancelled_ensureIndex
  | none =>
      refine .suspend fun now _ => uncancelled_storeCall.bind fun acquired => ?_
      cases acquired with
      | true => exact uncancelled_ok ()
      | false =>
          refine uncancelled_loadClaim.bind fun winner => ?_
          cases winner with
          | none => exact uncancelled_raise (by rintro ⟨⟩)
          | some winner =>
              dsimp only
              split
              · exact uncancelled_reject
              · exact uncancelled_ensureIndex

theorem uncancelled_beginMutation :
    Uncancelled (beginMutation symbol operation : Route Raw PyError String) := by
  refine .suspend fun uuid _ => uncancelled_storeCall.bind fun started => ?_
  cases started with
  | true => exact uncancelled_ok _
  | false =>
      refine uncancelled_loadClaim.bind fun claim => ?_
      cases claim with
      | none => exact uncancelled_raise (by rintro ⟨⟩)
      | some claim => exact uncancelled_reject

omit [ClaimText Raw] in
theorem uncancelled_completeMutation {token : String} :
    Uncancelled (completeMutation symbol token : Route Raw PyError Unit) := by
  refine uncancelled_storeCall.bind fun completed => ?_
  cases completed
  · exact uncancelled_reject
  · exact uncancelled_ok _

theorem uncancelled_verifyReconciliation {clientId : String} {brokerState : BrokerSymbolState} :
    Uncancelled (verifyReconciliation clientId symbol brokerState : Route Raw PyError Unit) := by
  refine uncancelled_loadClaim.bind fun claim => ?_
  refine Uncancelled.bind uncancelled_assertUnambiguous fun _ => ?_
  split
  · exact uncancelled_ok ()
  · exact uncancelled_reject

theorem uncancelled_freezeBeforeFenceRelease {reason : String} :
    Uncancelled (freezeBeforeFenceRelease symbol reason : Route Raw PyError Unit) := by
  refine Uncancelled.catching (uncancelled_loadClaim.bind fun claim => ?_) fun error other => ?_
  · cases claim with
    | none => exact uncancelled_raise (by rintro ⟨⟩)
    | some claim => exact uncancelled_storeCall.bind fun _ => uncancelled_ok ()
  · refine uncancelled_raise ?_
    unfold rejectOwnership
    split
    · rintro ⟨⟩
    · exact other

end Store

/-! ## Calls to the broker -/

section Broker

variable {settings : Settings} {symbol : String}

theorem uncancelled_runTradingProviderCall {operation : String} {context : Fields}
    {dispatch : Route Raw PyError (SdkReply α)}
    (completes : Meets completing (fun outcome _ => outcome ≠ .error .cancelled ∧
      outcome ≠ .ok .cancelled) () dispatch) :
    Uncancelled (runTradingProviderCall settings operation context dispatch) := by
  refine .suspend fun full _ => ?_
  cases full with
  | true => exact uncancelled_raise (by rintro ⟨⟩)
  | false =>
      refine Meets.bind completes (fun reply _ came => ?_) fun error _ came same =>
        came.1 (congrArg _ (Except.error.inj same))
      rcases reply with value | error | - | -
      · rintro ⟨⟩
      · cases error with
        | timeout message => rintro ⟨⟩
        | _ => rintro ⟨⟩
      · rintro ⟨⟩
      · exact absurd rfl came.2

theorem uncancelled_admission : Uncancelled (admission : Route Raw PyError Unit) := by
  refine .suspend fun rate completes => ?_
  cases rate with
  | granted =>
      refine .suspend fun permit completes => ?_
      cases permit with
      | granted => exact uncancelled_ok ()
      | cancelled => exact absurd rfl completes
  | exceeded => exact uncancelled_raise (by rintro ⟨⟩)
  | raised message => exact uncancelled_raise (by rintro ⟨⟩)
  | cancelled => exact absurd rfl completes

theorem uncancelled_executeAlpacaProviderCall {body : Route Raw PyError α}
    (call : Uncancelled body) :
    Uncancelled (executeAlpacaProviderCall body) := by
  refine .suspend fun found _ => ?_
  cases found with
  | false => exact uncancelled_raise (by rintro ⟨⟩)
  | true =>
      exact (uncancelled_admission.bind fun _ => call).catching fun error other =>
        uncancelled_raise (gateError_ne_cancelled other)

/-- The exception of a loop is the exception of one of its turns. -/
theorem mapM_error {rows : List α} {turn : α → Except PyError β} {error : PyError}
    (failed : rows.mapM turn = .error error) : ∃ row ∈ rows, turn row = .error error := by
  induction rows with
  | nil => cases failed
  | cons row rows ih =>
      rw [List.mapM_cons] at failed
      cases turned : turn row with
      | error other =>
          rw [turned] at failed
          obtain rfl : other = error := Except.error.inj failed
          exact ⟨row, .head _, turned⟩
      | ok value =>
          cases others : rows.mapM turn with
          | ok values =>
              simp [turned, others, Except.bind, Bind.bind, Pure.pure, Except.pure] at failed
          | error other =>
              rw [turned, others] at failed
              obtain rfl : other = error := Except.error.inj failed
              obtain ⟨found, mem, raised⟩ := ih others
              exact ⟨found, .tail _ mem, raised⟩

variable [Unicode]

/-- A reconciliation that refuses what it read refuses it as a conflict. -/
theorem reconcileRecords_conflict {clientIds : List String} {today : Date}
    {orders positions : Option (List BrokerRecord)} {error : PyError}
    (failed : reconcileRecords clientIds today symbol orders positions = .error error) :
    ∃ reason, error = .ownershipConflict reason := by
  have conflict : ∀ row, canonicalOpenOrderSymbolOrConflict today row symbol = .error error →
      ∃ reason, error = .ownershipConflict reason := by
    intro row raised
    unfold canonicalOpenOrderSymbolOrConflict at raised
    split at raised
    · cases raised
    · exact ⟨_, (Except.error.inj raised).symm⟩
    · exact ⟨_, (Except.error.inj raised).symm⟩
  unfold reconcileRecords at failed
  split at failed
  · dsimp only at failed
    split at failed
    · exact ⟨_, (Except.error.inj failed).symm⟩
    · split at failed
      next other mapped =>
        obtain rfl := Except.error.inj failed
        obtain ⟨row, -, raised⟩ := mapM_error mapped
        exact conflict row raised
      next => cases failed
  · exact ⟨_, (Except.error.inj failed).symm⟩

theorem uncancelled_reconcile :
    Uncancelled (reconcileSymbolStateForBatch settings symbol : Route Raw PyError _) := by
  have read :
      ∀ {command : Command Raw} {cast : command.Reply → SdkReply (Option (List BrokerRecord))}
      {operation : String}, (∀ reply, command.Completes reply → cast reply ≠ .cancelled) →
      Uncancelled (runTradingProviderCall settings operation []
        (.suspend command fun reply => .finish (.ok (cast reply)))) := by
    intro command cast operation completes
    refine uncancelled_runTradingProviderCall
      ⟨trivial, fun reply _ came => ⟨by rintro ⟨⟩, ?_⟩⟩
    exact fun same => completes reply came (Except.ok.inj same)
  refine uncancelled_executeAlpacaProviderCall (Uncancelled.bind (read fun _ completes => completes)
    fun orders => Uncancelled.bind (read fun _ completes => completes) fun positions =>
      .suspend fun today _ cancelled => by obtain ⟨_, ⟨⟩⟩ := reconcileRecords_conflict cancelled)

end Broker

/-! ## The steps of a batch -/

section Batch

variable [ClaimText Raw] [Unicode] {settings : Settings} {clientId symbol : String}

theorem uncancelled_prepareGroup {fence : String} :
    Uncancelled (prepareGroup settings clientId symbol fence : Route Raw PyError String) :=
  uncancelled_reconcile.bind fun _ => uncancelled_authorizeSubmission.bind fun _ =>
    uncancelled_renewFence.bind fun _ => uncancelled_beginMutation

theorem uncancelled_confirmGroup {mutation : String} :
    Uncancelled (confirmGroup settings clientId symbol mutation : Route Raw PyError Unit) :=
  uncancelled_reconcile.bind fun _ => uncancelled_verifyReconciliation.bind fun _ =>
    uncancelled_completeMutation

omit [Unicode] in
/-- A freeze of a batch always answers. -/
theorem freezeSymbolForBatch_answers {reason : String} :
    Meets completing (fun outcome _ => ∃ error, outcome = .ok error) ()
      (freezeSymbolForBatch symbol reason : Route Raw PyError _) := by
  refine Meets.resolve uncancelled_freezeBeforeFenceRelease fun outcome _ other => ?_
  cases outcome with
  | ok value => exact ⟨_, rfl⟩
  | error error =>
      cases error with
      | cancelled => exact absurd rfl other
      | _ => exact ⟨_, rfl⟩

end Batch

end Trading
end DataGateway
