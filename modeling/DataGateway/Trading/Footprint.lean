import DataGateway.Trading.BulkCancel
import DataGateway.Trading.Thaw

/-!
# Which commands a function issues

One lemma for each function of the guard and the routes: it only issues allowed commands as soon as
the commands that it names are allowed.  Every contract over the routes starts from these.
-/

namespace DataGateway
namespace Trading

open Coroutine

variable {Raw α : Type} {allowed : Command Raw → Prop} {symbol : String}

section Calls

@[simp]
theorem uses_storeCall {operation : String} {op : StoreOp Raw} :
    (storeCall symbol operation op).Uses allowed ↔ allowed (.store symbol op) := by
  refine ⟨fun uses => uses.1, fun permitted => ⟨permitted, fun reply => ?_⟩⟩
  cases reply <;> trivial

@[simp]
theorem uses_getClaim :
    (getClaim symbol : Route Raw PyError _).Uses allowed ↔ allowed (.getClaim symbol) := by
  refine ⟨fun uses => uses.1, fun permitted => ⟨permitted, fun reply => ?_⟩⟩
  cases reply <;> trivial

@[simp]
theorem uses_freshUuid : (freshUuid : Route Raw PyError Uuid).Uses allowed ↔ allowed .uuid4 :=
  ⟨fun uses => uses.1, fun permitted => ⟨permitted, fun _ => trivial⟩⟩

@[simp]
theorem uses_utcNow : (utcNow : Route Raw PyError String).Uses allowed ↔ allowed .utcnow :=
  ⟨fun uses => uses.1, fun permitted => ⟨permitted, fun _ => trivial⟩⟩

@[simp]
theorem uses_reject {reason : String} :
    (reject symbol reason : Route Raw PyError α).Uses allowed := trivial

@[simp]
theorem uses_ofExcept {result : Except PyError α} :
    (ofExcept result : Route Raw PyError α).Uses allowed := trivial

theorem uses_acquireFence (uuid : allowed .uuid4)
    (acquire : ∀ token, allowed (.store symbol (.acquireFence token))) :
    (acquireFence symbol).Uses allowed := by
  refine Uses.bind (uses_freshUuid.mpr uuid) fun token => ?_
  refine Uses.bind (uses_storeCall.mpr (acquire _)) fun acquired => ?_
  cases acquired <;> trivial

theorem uses_renewFence {token : String} (renew : allowed (.store symbol (.renewFence token))) :
    (renewFence symbol token).Uses allowed := by
  refine Uses.bind (uses_storeCall.mpr renew) fun renewed => ?_
  cases renewed <;> trivial

theorem uses_releaseFence {token : String}
    (release : allowed (.store symbol (.compareAndDeleteFence token))) :
    (releaseFence symbol token).Uses allowed := by
  refine Uses.catching ?_ fun error => ?_
  · exact Uses.bind (uses_storeCall.mpr release) fun _ => trivial
  · split_ifs <;> trivial

theorem uses_completeMutation {token : String}
    (complete : allowed (.store symbol (.completeMutation token))) :
    (completeMutation symbol token).Uses allowed := by
  refine Uses.bind (uses_storeCall.mpr complete) fun completed => ?_
  cases completed <;> trivial

theorem uses_ensureIndex {owner : String} (ensure : allowed (.store symbol (.ensureIndex owner))) :
    (ensureIndex owner symbol).Uses allowed :=
  Uses.bind (uses_storeCall.mpr ensure) fun _ => trivial

end Calls

section Guard

variable [ClaimText Raw] {clientId : String} {brokerState : BrokerSymbolState}

theorem uses_loadStoredClaim (read : allowed (.getClaim symbol)) :
    (loadStoredClaim symbol : Route Raw PyError _).Uses allowed := by
  refine Uses.bind (uses_getClaim.mpr read) fun raw => ?_
  cases raw with
  | none => trivial
  | some raw =>
      dsimp only
      split <;> trivial

theorem uses_loadClaim (read : allowed (.getClaim symbol)) :
    (loadClaim symbol : Route Raw PyError _).Uses allowed :=
  Uses.bind (uses_loadStoredClaim read) fun _ => trivial

omit [ClaimText Raw] in
theorem uses_releaseIfClear {claim : Option Claim}
    (release : ∀ owner, allowed (.store symbol (.compareAndDelete owner))) :
    (releaseIfClear symbol claim brokerState).Uses allowed := by
  cases claim with
  | none => trivial
  | some claim =>
      simp only [releaseIfClear]
      split_ifs
      · trivial
      · exact Uses.bind (uses_storeCall.mpr (release _)) fun _ => trivial

theorem uses_authorizeSubmission (read : allowed (.getClaim symbol)) (now : allowed .utcnow)
    (release : ∀ owner, allowed (.store symbol (.compareAndDelete owner)))
    (ensure : ∀ owner, allowed (.store symbol (.ensureIndex owner)))
    (claim : ∀ now, allowed (.store symbol
      (.claimAndIndex clientId (serializeClaim clientId now)))) :
    (authorizeSubmission clientId symbol brokerState).Uses allowed := by
  refine Uses.bind (uses_loadClaim read) fun _ => Uses.bind uses_ofExcept fun _ => ?_
  refine Uses.bind (uses_releaseIfClear release) fun _ => ?_
  refine Uses.bind (uses_loadClaim read) fun found => Uses.bind uses_ofExcept fun _ => ?_
  cases found with
  | some found =>
      dsimp only
      split_ifs
      · trivial
      · exact uses_ensureIndex (ensure _)
  | none =>
      refine Uses.bind (uses_utcNow.mpr now) fun time => ?_
      refine Uses.bind (uses_storeCall.mpr (claim time)) fun acquired => ?_
      cases acquired with
      | true => trivial
      | false =>
          refine Uses.bind (uses_loadClaim read) fun winner => ?_
          cases winner with
          | none => trivial
          | some winner =>
              dsimp only
              split_ifs
              · trivial
              · exact uses_ensureIndex (ensure _)

theorem uses_authorizeClose (read : allowed (.getClaim symbol)) :
    (authorizeClose clientId symbol brokerState : Route Raw PyError Unit).Uses allowed := by
  refine Uses.bind (uses_loadClaim read) fun claim => Uses.bind uses_ofExcept fun _ => ?_
  split_ifs
  · trivial
  · trivial
  · cases claim with
    | none => trivial
    | some claim =>
        dsimp only
        split_ifs <;> trivial

theorem uses_beginMutation {operation : String} (read : allowed (.getClaim symbol))
    (uuid : allowed .uuid4)
    (begins : ∀ uuid, allowed (.store symbol (.beginMutation (mutationToken operation uuid)))) :
    (beginMutation symbol operation).Uses allowed := by
  refine Uses.bind (uses_freshUuid.mpr uuid) fun uuid => ?_
  refine Uses.bind (uses_storeCall.mpr (begins uuid)) fun started => ?_
  cases started with
  | true => trivial
  | false =>
      refine Uses.bind (uses_loadClaim read) fun claim => ?_
      cases claim <;> trivial

theorem uses_releaseClaimIfBrokerIsClear {fence : String} (read : allowed (.getClaim symbol))
    (release : allowed (.store symbol (.releaseClaimUnderFence clientId fence))) :
    (releaseClaimIfBrokerIsClear clientId symbol fence brokerState).Uses allowed := by
  unfold releaseClaimIfBrokerIsClear
  split_ifs
  · trivial
  · refine Uses.bind (uses_loadClaim read) fun claim => ?_
    cases claim with
    | none => trivial
    | some claim =>
        dsimp only
        split_ifs
        · trivial
        · exact Uses.bind (uses_storeCall.mpr release) fun _ => trivial

theorem uses_verifyReconciliation (read : allowed (.getClaim symbol)) :
    (verifyReconciliation clientId symbol brokerState : Route Raw PyError Unit).Uses allowed := by
  refine Uses.bind (uses_loadClaim read) fun claim => Uses.bind uses_ofExcept fun _ => ?_
  split_ifs <;> trivial

theorem uses_freeze {reason : String} (read : allowed (.getClaim symbol))
    (write : ∀ claim : Claim, allowed (.store symbol
      (.setClaim (ClaimText.dumps { claim with frozenReason := some reason })))) :
    (freeze symbol reason).Uses allowed := by
  refine Uses.bind (uses_loadClaim read) fun claim => ?_
  cases claim with
  | none => trivial
  | some claim => exact Uses.bind (uses_storeCall.mpr (write claim)) fun _ => trivial

theorem uses_thaw {expected : StoredClaim Raw} {delete : Bool}
    (lift : allowed (.store symbol (.thawClaim expected.raw delete expected.claim.owner))) :
    (thaw symbol expected delete).Uses allowed := by
  refine Uses.bind (uses_storeCall.mpr lift) fun thawed => ?_
  cases thawed <;> trivial

end Guard

/-! ## Calls to the broker -/

theorem uses_runTradingProviderCall {settings : Settings} {operation : String} {context : Fields}
    {dispatch : Route Raw PyError (SdkReply α)} (full : allowed .inflightFull)
    (calls : dispatch.Uses allowed) :
    (runTradingProviderCall settings operation context dispatch).Uses allowed := by
  refine ⟨full, fun busy => ?_⟩
  cases busy with
  | true => trivial
  | false =>
      refine Uses.bind calls fun reply => ?_
      cases reply with
      | raised error => cases error <;> trivial
      | _ => trivial

theorem uses_reconcile [Unicode] {settings : Settings} (full : allowed .inflightFull)
    (orders : allowed (.getOrders symbol)) (positions : allowed .getPositions)
    (today : allowed .today) :
    (reconcileBrokerSymbolState settings symbol).Uses allowed := by
  refine Uses.bind (uses_runTradingProviderCall full ⟨orders, fun _ => trivial⟩) fun _ => ?_
  refine Uses.bind (uses_runTradingProviderCall full ⟨positions, fun _ => trivial⟩) fun _ => ?_
  exact ⟨today, fun _ => trivial⟩

theorem uses_admission (rate : allowed .rateLimit) (permit : allowed .permit) :
    (admission : Route Raw PyError Unit).Uses allowed := by
  refine ⟨rate, fun reply => ?_⟩
  cases reply with
  | granted =>
      refine ⟨permit, fun reply => ?_⟩
      cases reply <;> trivial
  | _ => trivial

theorem uses_executeAlpacaProviderCall {body : Route Raw PyError α} (provider : allowed .provider)
    (rate : allowed .rateLimit) (permit : allowed .permit) (calls : body.Uses allowed) :
    (executeAlpacaProviderCall body).Uses allowed := by
  refine ⟨provider, fun found => ?_⟩
  cases found with
  | false => trivial
  | true => exact Uses.catching (Uses.bind (uses_admission rate permit) fun _ => calls) fun _ =>
      trivial

section Routes

variable [ClaimText Raw] {clientId fence mutation reason : String}

theorem uses_freezeBeforeFenceRelease (read : allowed (.getClaim symbol))
    (write : ∀ claim : Claim, allowed (.store symbol
      (.setClaim (ClaimText.dumps { claim with frozenReason := some reason })))) :
    (freezeBeforeFenceRelease symbol reason).Uses allowed :=
  Uses.catching (uses_freeze read write) fun _ => trivial

theorem uses_freezeAfterAmbiguousMutation {error : HttpError} (read : allowed (.getClaim symbol))
    (write : ∀ (claim : Claim) (reason : String), allowed (.store symbol
      (.setClaim (ClaimText.dumps { claim with frozenReason := some reason })))) :
    (freezeAfterAmbiguousMutation symbol error).Uses allowed := by
  unfold freezeAfterAmbiguousMutation
  split_ifs
  · trivial
  · exact uses_freezeBeforeFenceRelease read fun claim => write claim _

omit [ClaimText Raw] in
theorem uses_clearMutation {brokerError : PyError}
    (complete : allowed (.store symbol (.completeMutation mutation))) :
    (clearMutationAfterUnappliedWrite symbol mutation brokerError).Uses allowed := by
  refine Uses.catching (uses_completeMutation complete) fun error => ?_
  split_ifs <;> trivial

omit [ClaimText Raw] in
theorem uses_tagged {body : Route Raw PyError α} (uses : body.Uses allowed) :
    (tagged body).Uses allowed := Uses.catching uses fun _ => trivial

theorem uses_releaseAfterUnapplied [Unicode] {settings : Settings} (full : allowed .inflightFull)
    (orders : allowed (.getOrders symbol)) (positions : allowed .getPositions)
    (today : allowed .today) (read : allowed (.getClaim symbol))
    (renew : allowed (.store symbol (.renewFence fence)))
    (release : allowed (.store symbol (.releaseClaimUnderFence clientId fence))) :
    (releaseClaimAfterUnappliedSubmission settings symbol fence clientId).Uses allowed := by
  refine Uses.catching (Uses.bind (uses_renewFence renew) fun _ =>
    Uses.bind (uses_reconcile full orders positions today) fun _ =>
      uses_releaseClaimIfBrokerIsClear read release) fun error => ?_
  split_ifs <;> trivial

variable {w : FencedWrite Raw} {settings : Settings}

omit [ClaimText Raw] in
theorem uses_dispatchWrite (full : allowed .inflightFull) (submit : allowed (.submit w.write))
    (reply : allowed (.awaitReply w.write)) :
    (dispatchWrite settings w).Uses allowed :=
  uses_runTradingProviderCall full ⟨submit, fun _ => ⟨reply, fun _ => trivial⟩⟩

theorem uses_afterFailedWrite {error : PyError} (read : allowed (.getClaim symbol))
    (write : ∀ (claim : Claim) (reason : String), allowed (.store symbol
      (.setClaim (ClaimText.dumps { claim with frozenReason := some reason }))))
    (complete : allowed (.store symbol (.completeMutation mutation)))
    (cleanUp : (w.cleanUp fence).Uses allowed) :
    (afterFailedWrite w symbol fence mutation error).Uses allowed := by
  have clear : ∀ failure, (tagged (clearMutationAfterUnappliedWrite symbol mutation failure >>=
      fun _ => w.cleanUp fence)).Uses allowed := fun failure =>
    uses_tagged (Uses.bind (uses_clearMutation complete) fun _ => cleanUp)
  have other : ∀ failure : PyError, (if w.provenUnapplied failure then
      (tagged (clearMutationAfterUnappliedWrite symbol mutation failure >>= fun _ =>
        w.cleanUp fence)).bind fun _ => raise (failure, true)
      else raise (failure, false) : Route Raw WriteError String).Uses allowed := by
    intro failure
    split_ifs
    · exact Uses.bind (clear failure) fun _ => trivial
    · trivial
  cases error with
  | http error =>
      refine Uses.bind (uses_tagged (Uses.bind
        (uses_freezeAfterAmbiguousMutation read write) fun _ => ?_)) fun _ => trivial
      split_ifs
      · exact Uses.bind (uses_clearMutation complete) fun _ => cleanUp
      · trivial
  | cancelled => trivial
  | _ => exact other _

theorem uses_confirmWrite [Unicode] (full : allowed .inflightFull)
    (orders : allowed (.getOrders symbol)) (positions : allowed .getPositions)
    (today : allowed .today) (read : allowed (.getClaim symbol))
    (complete : allowed (.store symbol (.completeMutation mutation))) :
    (confirmWrite settings clientId symbol mutation).Uses allowed :=
  Uses.bind (uses_reconcile full orders positions today) fun _ =>
    Uses.bind (uses_verifyReconciliation read) fun _ => uses_completeMutation complete

section Freezing

variable (read : allowed (.getClaim symbol))
  (write : ∀ (claim : Claim) (reason : String), allowed (.store symbol
    (.setClaim (ClaimText.dumps { claim with frozenReason := some reason }))))

include read write

theorem uses_afterFailedConfirmation {error : PyError} :
    (afterFailedConfirmation w symbol error).Uses allowed := by
  cases error with
  | ownershipConflict reason =>
      exact Uses.bind (uses_freezeBeforeFenceRelease read fun claim => write claim _)
        fun _ => trivial
  | _ => trivial

theorem uses_freezeUnclassified {error : PyError} {unapplied : Bool} :
    (freezeUnclassified symbol error unapplied).Uses allowed := by
  refine Uses.bind ?_ fun _ => trivial
  split_ifs
  · trivial
  · exact uses_freezeBeforeFenceRelease read fun claim => write claim _

theorem uses_afterFailedBlock {error : WriteError} :
    (afterFailedBlock w symbol error).Uses allowed := by
  obtain ⟨error, unapplied⟩ := error
  cases error with
  | value message =>
      simp only [afterFailedBlock]
      split_ifs
      · trivial
      · exact uses_freezeUnclassified read write
  | http error => trivial
  | cancelled => trivial
  | _ => exact uses_freezeUnclassified read write

theorem uses_afterFailedGate {error : PyError} :
    (afterFailedGate w symbol error).Uses allowed := by
  cases error with
  | http error => exact Uses.bind (uses_freezeAfterAmbiguousMutation read write) fun _ => trivial
  | _ => trivial

end Freezing

end Routes

/-! ## Before the protocol -/

section Preambles

variable {settings : Settings} {clientId orderId : String}

theorem uses_effectiveClientOrderId {clientOrderId : Option String} (uuid : allowed .uuid4) :
    (effectiveClientOrderId clientOrderId clientId : Route Raw PyError _).Uses allowed := by
  unfold effectiveClientOrderId
  split
  · trivial
  · trivial
  · refine Uses.bind (uses_freshUuid.mpr uuid) fun drawn => ?_
    split <;> trivial

theorem uses_canonicalSymbolOrReject [Unicode] (today : allowed .today) :
    (canonicalSymbolOrReject symbol : Route Raw PyError String).Uses allowed := by
  refine ⟨today, fun date => ?_⟩
  dsimp only
  split <;> trivial

theorem uses_canonicalOrderSymbolOrReject [Unicode] {order : BrokerRecord}
    (today : allowed .today) :
    (canonicalOrderSymbolOrReject order : Route Raw PyError String).Uses allowed := by
  refine ⟨today, fun date => ?_⟩
  dsimp only
  split <;> trivial

theorem uses_assertOrderOwnedByCaller {operation : String} (provider : allowed .provider)
    (rate : allowed .rateLimit) (permit : allowed .permit) (full : allowed .inflightFull)
    (order : allowed (.getOrder orderId)) :
    (assertOrderOwnedByCaller settings clientId orderId operation : Route Raw PyError _).Uses
      allowed := by
  refine Uses.bind (uses_executeAlpacaProviderCall provider rate permit
    (uses_runTradingProviderCall full ⟨order, fun _ => trivial⟩)) fun fetched => ?_
  split <;> trivial

end Preambles

/-! ## The requests -/

section Requests

variable [ClaimText Raw] [Unicode] {settings : Settings} {clientId : String}

/-- The protocol instances that a request can reach. -/
inductive WriteRequest.Fills (settings : Settings) (clientId : String) :
    WriteRequest → String → FencedWrite Raw → Prop
  | create {given clientOrderId symbol key source} :
      Fills settings clientId (.create given clientOrderId) symbol
        (createOrderWrite settings clientId symbol key source)
  | replace {orderId clientOrderId symbol key source} :
      Fills settings clientId (.replace orderId clientOrderId) symbol
        (replaceOrderWrite clientId symbol orderId key source)
  | cancel {orderId symbol} :
      Fills settings clientId (.cancel orderId) symbol (cancelOrderWrite clientId symbol orderId)
  | close {given qty symbol} :
      Fills settings clientId (.close given qty) symbol
        (closePositionWrite settings clientId symbol)

/-- Commands that a request issues before it takes a fence. -/
def Preliminary : Command Raw → Prop
  | .store _ _ | .getOrders _ | .submit _ | .awaitReply _ => False
  | _ => True

/-- A request is a preamble in front of the protocol: `A` holds until the guard is found to be
configured, and `B` from there to the protocol. -/
theorem WriteRequest.serve_meets {γ : Type} {K : Contract (@Command.Reply Raw) γ}
    {A B : γ → Prop} {post : Except PyError Answer → γ → Prop} {g : γ} {request : WriteRequest}
    (before : ∀ command g, Preliminary command → command ≠ .ownershipGuard → A g →
      K.may command g ∧ ∀ reply next, K.after command g reply next → A next)
    (guard : ∀ g, A g → K.may .ownershipGuard g ∧
      ∀ found next, K.after .ownershipGuard g found next → if found then B next else A next)
    (between : ∀ g, B g → K.may .uuid4 g ∧ ∀ uuid next, K.after .uuid4 g uuid next → B next)
    (raised : ∀ error g, A g ∨ B g → post (.error error) g)
    (route : ∀ symbol w g, request.Fills settings clientId symbol w → B g →
      Meets K (fun
        | .ok _ => fun last => ∀ answer, post (.ok answer) last
        | .error error => post (.error error)) g (fencedRoute settings w clientId symbol))
    (start : A g) : Meets K post g (request.serve settings clientId) := by
  have plain : ∀ {α : Type} {body : Route Raw PyError α} {g}, A g →
      body.Uses (fun command => Preliminary command ∧ command ≠ .ownershipGuard) →
      Meets K (fun _ last => A last) g body := fun holds uses =>
    uses.meets_inv holds fun command current allowed holds =>
      before command current allowed.1 allowed.2 holds
  have configured : ∀ {g}, A g → Meets K (fun outcome last =>
      match outcome with
      | .ok _ => B last
      | .error _ => A last) g (getOrderOwnershipGuard : Route Raw PyError Unit) := by
    refine fun holds => ⟨(guard _ holds).1, fun found next step => ?_⟩
    have moved := (guard _ holds).2 found next step
    cases found <;> simpa using moved
  have keyed : ∀ {clientOrderId g}, B g → Meets K (fun _ last => B last) g
      (effectiveClientOrderId clientOrderId clientId : Route Raw PyError _) := by
    intro clientOrderId g holds
    have draws : (effectiveClientOrderId clientOrderId clientId : Route Raw PyError _).Uses
        fun command => command = .uuid4 := uses_effectiveClientOrderId rfl
    refine draws.meets_inv holds fun command current same holds => ?_
    subst same
    exact between current holds
  have finish : ∀ {w symbol g} {answer : String → Answer},
      request.Fills settings clientId symbol w →
      B g → Meets K post g ((fencedRoute settings w clientId symbol).bind fun data =>
        .finish (.ok (answer data))) := fun fills holds =>
    Meets.bind (route _ _ _ fills holds) (fun _ _ kept => kept _) fun _ _ kept => kept
  cases request with
  | create given clientOrderId =>
      refine Meets.bind (plain start (uses_effectiveClientOrderId ⟨trivial, nofun⟩))
        (fun key _ holds => ?_) fun _ _ holds => raised _ _ (.inl holds)
      refine Meets.bind (plain holds (uses_canonicalSymbolOrReject ⟨trivial, nofun⟩))
        (fun canonical _ holds => ?_) fun _ _ holds => raised _ _ (.inl holds)
      refine Meets.bind (configured holds) (fun _ _ holds => ?_)
        fun _ _ holds => raised _ _ (.inl holds)
      exact finish .create holds
  | replace orderId clientOrderId =>
      refine Meets.bind (plain start (uses_assertOrderOwnedByCaller ⟨trivial, nofun⟩
        ⟨trivial, nofun⟩ ⟨trivial, nofun⟩ ⟨trivial, nofun⟩ ⟨trivial, nofun⟩))
        (fun original _ holds => ?_) fun _ _ holds => raised _ _ (.inl holds)
      refine Meets.bind (plain holds (uses_canonicalOrderSymbolOrReject ⟨trivial, nofun⟩))
        (fun canonical _ holds => ?_) fun _ _ holds => raised _ _ (.inl holds)
      refine Meets.bind (configured holds) (fun _ _ holds => ?_)
        fun _ _ holds => raised _ _ (.inl holds)
      refine Meets.bind (keyed holds) (fun key _ holds => ?_)
        fun _ _ holds => raised _ _ (.inr holds)
      exact finish .replace holds
  | cancel orderId =>
      refine Meets.bind (plain start (uses_assertOrderOwnedByCaller ⟨trivial, nofun⟩
        ⟨trivial, nofun⟩ ⟨trivial, nofun⟩ ⟨trivial, nofun⟩ ⟨trivial, nofun⟩))
        (fun original _ holds => ?_) fun _ _ holds => raised _ _ (.inl holds)
      refine Meets.bind (plain holds (uses_canonicalOrderSymbolOrReject ⟨trivial, nofun⟩))
        (fun canonical _ holds => ?_) fun _ _ holds => raised _ _ (.inl holds)
      refine Meets.bind (configured holds) (fun _ _ holds => ?_)
        fun _ _ holds => raised _ _ (.inl holds)
      exact finish .cancel holds
  | close given qty =>
      refine Meets.bind (plain start (uses_canonicalSymbolOrReject ⟨trivial, nofun⟩))
        (fun canonical _ holds => ?_) fun _ _ holds => raised _ _ (.inl holds)
      split
      · exact raised _ _ (.inl holds)
      · refine Meets.bind (configured holds) (fun _ _ holds => ?_)
          fun _ _ holds => raised _ _ (.inl holds)
        exact finish .close holds

end Requests

end Trading
end DataGateway
