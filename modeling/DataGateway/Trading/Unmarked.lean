import DataGateway.Trading.History
import DataGateway.Trading.OwnClaim
import DataGateway.Trading.Uncancelled

/-!
# Failures before the marker

Until its marker is set a request has written nothing, and the only changes of a claim that it means
to make are the release and the claim of its authorization.  The handlers around the protocol do not
know whether the marker was set: an exception that is answered with 500 or more, or that no handler
knows, makes them freeze the claim, whoever owns it.
-/

namespace DataGateway
namespace Trading

open Coroutine Machine

variable {ι Raw : Type}

/-! ## Replies after which a handler freezes -/

/-- The exception is answered with 500 or more, or no handler knows it. -/
def BrokerError.alarms (clientFault : Bool) : BrokerError → Bool
  | .http status _ => 500 ≤ status
  | .value _ => !clientFault
  | .api _ | .httpStatus _ | .timeout _ | .other _ => true

/-- The call ends in such an exception. -/
def SdkReply.alarms {α : Type} (clientFault : Bool) : SdkReply α → Bool
  | .raised error => error.alarms clientFault
  | .timedOut => true
  | .returned _ | .cancelled => false

/-- The reply makes a request freeze that has not set its marker.  `clientFault`: the route answers
a `ValueError` with 400.  `refused`: a script has just been refused because of a stored claim, which
the read shows no more. -/
def Command.alarms (clientFault refused : Bool) : (command : Command Raw) → command.Reply → Bool
  | .provider, found => !found
  | .rateLimit, .raised _ => true
  | .inflightFull, full => full
  | .store _ (.compareAndDeleteFence _), _ => false
  | .store _ _, .failed => true
  | .getClaim _, .failed => true
  | .getClaim _, .served none => refused
  | .getOrders _, reply => reply.alarms clientFault
  | .getPositions, reply => reply.alarms clientFault
  | _, _ => false

/-- How far a request has come. -/
inductive WritePhase
  /-- Before the ownership store is found to be configured. -/
  | preliminary
  /-- On the way to the marker. -/
  | preparing (refused : Bool)
  /-- The marker of the symbol was set. -/
  | marked (symbol : String)
  deriving DecidableEq

/-- The phase after a command. -/
def WritePhase.next : WritePhase → (command : Command Raw) → command.Reply → WritePhase
  | .preliminary, .ownershipGuard, true => .preparing false
  | .preparing _, .store symbol (.beginMutation _), .served true => .marked symbol
  | .preparing _, .store _ (.beginMutation _), .served false => .preparing true
  | .preparing _, .store _ (.claimAndIndex _ _), .served false => .preparing true
  | .preparing _, .getClaim _, _ => .preparing false
  | phase, _, _ => phase

/-- A command on the way to the marker. -/
def Command.Prepares : Command Raw → Prop
  | .store _ (.completeMutation _) | .store _ (.thawClaim _ _ _) | .store _ (.setClaim _)
  | .store _ (.releaseClaimUnderFence _ _) | .submit _ | .awaitReply _ => False
  | _ => True

/-- A command that leaves the claims of other symbols alone. -/
def Command.On (symbol : String) : Command Raw → Prop
  | .store target _ => target = symbol
  | _ => True

/-- The commands of a phase. -/
def WritePhase.May : WritePhase → Command Raw → Prop
  | .marked symbol, command => command.On symbol
  | .preliminary, command | .preparing _, command => command.Prepares

/-- The contract of a request none of whose replies makes it freeze before its marker. -/
abbrev unalarmed (clientFault : Bool) : Contract (@Command.Reply Raw) WritePhase :=
  .tracking WritePhase.next ⟨fun command phase => phase.May command, fun command phase reply =>
    ∀ refused, phase = .preparing refused → command.alarms clientFault refused reply = false⟩

/-! ## Exceptions after which no handler freezes -/

/-- On the way to the marker. -/
def PyError.Refused (clientFault : Bool) : PyError → Prop
  | .ownershipConflict _ | .cancelled => True
  | .http error => error.statusCode < 500
  | .value _ => clientFault = true
  | .ownershipStoreUnavailable _ | .api _ | .httpStatus _ | .other _ => False

/-- Once ownership errors are replaced by their rejections. -/
def PyError.Harmless (clientFault : Bool) : PyError → Prop
  | .cancelled => True
  | .http error => error.statusCode < 500
  | .value _ => clientFault = true
  | .ownershipConflict _ | .ownershipStoreUnavailable _ | .api _ | .httpStatus _ | .other _ => False

theorem harmless_of_refused {clientFault : Bool} {error : PyError}
    (refused : error.Refused clientFault) :
    (rejectOwnership false [] error).Harmless clientFault := by
  cases error with
  | ownershipConflict reason => exact (by decide : (409 : Int) < 500)
  | ownershipStoreUnavailable reason => exact refused.elim
  | _ => exact refused

/-- The marker was not set, and the exceptions are of this kind. -/
def Prepared {ε α : Type} (allowed : ε → Prop) (outcome : Except ε α)
    (last : WritePhase) : Prop :=
  (∃ refused, last = .preparing refused) ∧ ∀ error, outcome = .error error → allowed error

/-- The marker was set, or there was an exception of this kind. -/
def Reached {ε α : Type} (symbol : String) (allowed : ε → Prop) (outcome : Except ε α)
    (last : WritePhase) : Prop :=
  last = .marked symbol ∨
    (∃ refused, last = .preparing refused) ∧ ∃ error, outcome = .error error ∧ allowed error

section Parts

variable {ε α β : Type} {clientFault fault refused : Bool} {symbol operation : String}
  {allowed : ε → Prop} {phase : WritePhase}

theorem prepared_ok {value : α} : Prepared allowed (.ok value) (.preparing refused) :=
  ⟨⟨refused, rfl⟩, by rintro error ⟨⟩⟩

theorem prepared_error {error : ε} (permitted : allowed error) :
    Prepared allowed (.error error : Except ε α) (.preparing refused) := by
  refine ⟨⟨refused, rfl⟩, ?_⟩
  rintro _ ⟨⟩
  exact permitted

/-- Steps on the way to the marker, one after the other. -/
theorem Prepared.bind {body : Route Raw ε α} {next : α → Route Raw ε β}
    (first : Meets (unalarmed clientFault) (Prepared allowed) phase body)
    (rest : ∀ value refused,
      Meets (unalarmed clientFault) (Prepared allowed) (.preparing refused) (next value)) :
    Meets (unalarmed clientFault) (Prepared allowed) phase (body.bind next) := by
  refine Meets.bind first ?_ ?_
  · rintro value _ ⟨⟨refused, rfl⟩, -⟩
    exact rest value refused
  · rintro error _ ⟨⟨refused, rfl⟩, permitted⟩
    exact prepared_error (permitted error rfl)

/-- A store command that is answered, or whose wait is cancelled. -/
theorem storeCall_prepared {op : StoreOp Raw} (prepares : (Command.store symbol op).Prepares)
    (alarms : (Command.store symbol op).alarms clientFault refused .failed = true)
    (steady : ∀ reply, WritePhase.next (.preparing refused) (.store symbol op) reply =
      .preparing refused) :
    Meets (unalarmed clientFault) (Prepared (PyError.Refused fault)) (.preparing refused)
      (storeCall symbol operation op) := by
  refine ⟨prepares, ?_⟩
  rintro reply _ ⟨rfl, calm⟩
  rw [steady]
  cases reply with
  | served ok => exact prepared_ok
  | failed =>
      rw [calm refused rfl] at alarms
      cases alarms
  | cancelled => exact prepared_error trivial

theorem freshUuid_prepared : Meets (unalarmed clientFault) (Prepared (PyError.Refused fault))
    (.preparing refused) (freshUuid : Route Raw PyError Uuid) := by
  refine ⟨trivial, ?_⟩
  rintro uuid _ ⟨rfl, -⟩
  exact prepared_ok

theorem acquireFence_prepared : Meets (unalarmed clientFault) (Prepared (PyError.Refused fault))
    (.preparing refused) (acquireFence symbol : Route Raw PyError String) := by
  refine Prepared.bind freshUuid_prepared fun uuid refused => ?_
  refine Prepared.bind (storeCall_prepared (by trivial) rfl fun _ => rfl) fun acquired refused => ?_
  cases acquired with
  | true => exact prepared_ok
  | false => exact prepared_error trivial

theorem renewFence_prepared {token : String} :
    Meets (unalarmed clientFault) (Prepared (PyError.Refused clientFault)) (.preparing refused)
      (renewFence symbol token : Route Raw PyError Unit) := by
  refine Prepared.bind (storeCall_prepared (by trivial) rfl fun _ => rfl) fun renewed refused => ?_
  cases renewed with
  | true => exact prepared_ok
  | false => exact prepared_error trivial

theorem ensureIndex_prepared {owner : String} :
    Meets (unalarmed clientFault) (Prepared (PyError.Refused clientFault)) (.preparing refused)
      (ensureIndex owner symbol : Route Raw PyError Unit) :=
  Prepared.bind (storeCall_prepared (by trivial) rfl fun _ => rfl) fun _ _ => prepared_ok

theorem releaseIfClear_prepared {claim : Option Claim} {brokerState : BrokerSymbolState} :
    Meets (unalarmed clientFault) (Prepared (PyError.Refused clientFault)) (.preparing refused)
      (releaseIfClear symbol claim brokerState : Route Raw PyError Unit) := by
  cases claim with
  | none => exact prepared_ok
  | some claim =>
      unfold releaseIfClear
      split_ifs
      · exact prepared_ok
      · exact Prepared.bind (storeCall_prepared (by trivial) rfl fun _ => rfl) fun _ _ =>
          prepared_ok

/-! ## Reconciliation -/

theorem ofBroker_refused {error : BrokerError} (calm : error.alarms clientFault = false) :
    (PyError.ofBroker error).Refused clientFault := by
  cases error with
  | http status detail => exact Int.lt_of_not_ge (of_decide_eq_false calm)
  | value message => exact (Bool.not_eq_eq_eq_not.mp calm)
  | _ => cases calm

/-- A call to the broker that is answered, refused or cancelled. -/
theorem runTradingProviderCall_prepared {settings : Settings} {context : Fields}
    (command : Command Raw) (read : command.Reply → SdkReply α)
    (prepares : command.Prepares)
    (alarms : ∀ reply, command.alarms clientFault refused reply = (read reply).alarms clientFault)
    (steady : ∀ reply, WritePhase.next (.preparing refused) command reply = .preparing refused) :
    Meets (unalarmed clientFault) (Prepared (PyError.Refused clientFault)) (.preparing refused)
      (runTradingProviderCall settings operation context
        (.suspend command fun reply => .finish (.ok (read reply)))) := by
  refine ⟨trivial, ?_⟩
  rintro full _ ⟨rfl, open_⟩
  cases full with
  | true => cases open_ refused rfl
  | false =>
      refine ⟨prepares, ?_⟩
      rintro reply _ ⟨rfl, calm⟩
      have quiet := (alarms reply).symm.trans (calm refused rfl)
      change Meets _ _ (WritePhase.next (.preparing refused) command reply)
        (Coroutine.bind (.finish (.ok (read reply))) _)
      rw [steady]
      cases answer : read reply with
      | returned value => exact prepared_ok
      | raised error =>
          rw [answer] at quiet
          have permitted := ofBroker_refused quiet
          cases error with
          | timeout message => cases quiet
          | _ => exact prepared_error permitted
      | timedOut =>
          rw [answer] at quiet
          cases quiet
      | cancelled => exact prepared_error trivial

theorem reconcile_prepared [Unicode] {settings : Settings} :
    Meets (unalarmed clientFault) (Prepared (PyError.Refused clientFault)) (.preparing refused)
      (reconcileBrokerSymbolState settings symbol : Route Raw PyError _) := by
  have orders : Meets (unalarmed clientFault) (Prepared (PyError.Refused clientFault))
      (.preparing refused)
      (runTradingProviderCall settings "order_ownership.reconcile_open_orders" []
        (.suspend (.getOrders symbol) fun reply => .finish (.ok reply)) : Route Raw PyError _) :=
    runTradingProviderCall_prepared (.getOrders symbol) id trivial (fun _ => rfl) fun _ => rfl
  have positions : ∀ refused, Meets (unalarmed clientFault) (Prepared (PyError.Refused clientFault))
      (.preparing refused)
      (runTradingProviderCall settings "order_ownership.reconcile_positions" []
        (.suspend .getPositions fun reply => .finish (.ok reply)) : Route Raw PyError _) :=
    fun refused =>
      runTradingProviderCall_prepared .getPositions id trivial (fun _ => rfl) fun _ => rfl
  refine Prepared.bind orders fun orders refused => Prepared.bind (positions refused)
    fun positions refused => ?_
  refine ⟨trivial, ?_⟩
  rintro today _ ⟨rfl, -⟩
  refine ⟨⟨refused, rfl⟩, fun error failed => ?_⟩
  obtain ⟨reason, rfl⟩ := reconcileRecords_conflict failed
  trivial

/-! ## Authorization and the marker -/

section Guard

variable [ClaimText Raw] {clientId : String} {brokerState : BrokerSymbolState}

/-- A claim that refused a script is still there when it is read. -/
theorem loadClaim_prepared : Meets (unalarmed clientFault)
    (fun outcome last => Prepared (PyError.Refused clientFault) outcome last ∧
      (outcome = .ok none → refused = false)) (.preparing refused)
    (loadClaim symbol : Route Raw PyError _) := by
  refine ⟨trivial, ?_⟩
  rintro reply _ ⟨rfl, calm⟩
  have quiet := calm refused rfl
  cases reply with
  | failed => cases quiet
  | cancelled => exact ⟨prepared_error trivial, by rintro ⟨⟩⟩
  | served raw =>
      cases raw with
      | none => exact ⟨prepared_ok, fun _ => quiet⟩
      | some raw =>
          change Meets _ _ _ (Coroutine.bind (Coroutine.bind (.finish (.ok (some raw))) _) _)
          dsimp only [Coroutine.bind, resolve_finish]
          split
          · exact ⟨prepared_ok, by rintro ⟨⟩⟩
          · exact ⟨prepared_error trivial, by rintro ⟨⟩⟩

/-- The claim is read, whatever it is. -/
theorem loadClaim_prepared' : Meets (unalarmed clientFault) (Prepared (PyError.Refused clientFault))
    (.preparing refused) (loadClaim symbol : Route Raw PyError _) :=
  loadClaim_prepared.mono fun _ _ loaded => loaded.1

omit [ClaimText Raw] in
theorem assertUnambiguous_prepared {claim : Option Claim} : Meets (unalarmed clientFault)
    (Prepared (PyError.Refused clientFault)) (.preparing refused)
    (ofExcept (assertBrokerStateIsUnambiguous symbol claim brokerState) :
      Route Raw PyError Unit) := by
  refine ⟨⟨refused, rfl⟩, fun error failed => ?_⟩
  obtain ⟨reason, rfl⟩ := assertUnambiguous_conflict failed
  trivial

theorem authorizeSubmission_prepared : Meets (unalarmed clientFault)
    (Prepared (PyError.Refused clientFault)) (.preparing refused)
    (authorizeSubmission clientId symbol brokerState : Route Raw PyError Unit) := by
  refine Prepared.bind loadClaim_prepared' fun claim refused => ?_
  refine Prepared.bind assertUnambiguous_prepared fun _ refused => ?_
  refine Prepared.bind releaseIfClear_prepared fun _ refused => ?_
  refine Prepared.bind loadClaim_prepared' fun found refused => ?_
  refine Prepared.bind assertUnambiguous_prepared fun _ refused => ?_
  cases found with
  | some found =>
      dsimp only
      split_ifs
      · exact prepared_error trivial
      · exact ensureIndex_prepared
  | none =>
      refine ⟨trivial, ?_⟩
      rintro now _ ⟨rfl, -⟩
      refine ⟨trivial, ?_⟩
      rintro reply _ ⟨rfl, calm⟩
      cases reply with
      | failed => cases calm refused rfl
      | cancelled => exact prepared_error trivial
      | served acquired =>
          cases acquired with
          | true => exact prepared_ok
          | false =>
              -- the race was lost: the winner is still there
              change Meets _ _ (WritePhase.preparing true) (Coroutine.bind (loadClaim symbol) _)
              refine Meets.bind loadClaim_prepared ?_ ?_
              · rintro winner _ ⟨⟨⟨refused, rfl⟩, -⟩, present⟩
                cases winner with
                | none => cases present rfl
                | some winner =>
                    dsimp only
                    split_ifs
                    · exact prepared_error trivial
                    · exact ensureIndex_prepared
              · rintro error _ ⟨⟨⟨refused, rfl⟩, permitted⟩, -⟩
                exact prepared_error (permitted error rfl)

theorem authorizeClose_prepared : Meets (unalarmed clientFault)
    (Prepared (PyError.Refused clientFault)) (.preparing refused)
    (authorizeClose clientId symbol brokerState : Route Raw PyError Unit) := by
  refine Prepared.bind loadClaim_prepared' fun claim refused => ?_
  refine Prepared.bind assertUnambiguous_prepared fun _ refused => ?_
  split_ifs
  · exact prepared_error trivial
  · exact prepared_error trivial
  · cases claim with
    | none => exact prepared_error trivial
    | some claim =>
        dsimp only
        split_ifs
        · exact prepared_error trivial
        · exact prepared_ok

/-- The marker is set, or what refused it is still there. -/
theorem beginMutation_reached : Meets (unalarmed clientFault)
    (Reached symbol (PyError.Refused clientFault)) (.preparing refused)
    (beginMutation symbol operation : Route Raw PyError String) := by
  refine ⟨trivial, ?_⟩
  rintro uuid _ ⟨rfl, -⟩
  refine ⟨trivial, ?_⟩
  rintro reply _ ⟨rfl, calm⟩
  cases reply with
  | failed => cases calm refused rfl
  | cancelled => exact .inr ⟨⟨refused, rfl⟩, _, rfl, trivial⟩
  | served started =>
      cases started with
      | true => exact .inl rfl
      | false =>
          change Meets _ _ (WritePhase.preparing true) (Coroutine.bind (loadClaim symbol) _)
          refine Meets.bind loadClaim_prepared ?_ ?_
          · rintro claim _ ⟨⟨⟨refused, rfl⟩, -⟩, present⟩
            cases claim with
            | none => cases present rfl
            | some claim => exact .inr ⟨⟨refused, rfl⟩, _, rfl, trivial⟩
          · rintro error _ ⟨⟨⟨refused, rfl⟩, permitted⟩, -⟩
            exact .inr ⟨⟨refused, rfl⟩, error, rfl, permitted error rfl⟩

end Guard

end Parts

/-! ## The protocol -/

section Protocol

variable [ClaimText Raw] [Unicode] {ε ε' α β : Type} {clientFault refused : Bool}
  {clientId symbol fence mutation : String} {settings : Settings} {w : FencedWrite Raw}
  {phase : WritePhase} {allowed : ε → Prop} {wider : ε' → Prop}

omit [ClaimText Raw] [Unicode] in
theorem WritePhase.next_marked {command : Command Raw} (reply : command.Reply) :
    WritePhase.next (.marked symbol) command reply = .marked symbol := by
  cases command <;> rfl

omit [ClaimText Raw] [Unicode] in
/-- Behind the marker everything on the symbol is allowed. -/
theorem marked_meets {body : Route Raw ε α} (uses : body.Uses (Command.On symbol)) :
    Meets (unalarmed clientFault) (fun _ last => last = .marked symbol) (.marked symbol) body :=
  uses.meets fun _ on => ⟨on, fun _ _ moved => moved.1.trans (WritePhase.next_marked _)⟩

omit [ClaimText Raw] [Unicode] in
/-- Steps on the way to the marker in front of steps that reach it. -/
theorem Prepared.reach {body : Route Raw ε α} {next : α → Route Raw ε β}
    (first : Meets (unalarmed clientFault) (Prepared allowed) phase body)
    (rest : ∀ value refused,
      Meets (unalarmed clientFault) (Reached symbol allowed) (.preparing refused) (next value)) :
    Meets (unalarmed clientFault) (Reached symbol allowed) phase (body.bind next) := by
  refine Meets.bind first ?_ ?_
  · rintro value _ ⟨⟨refused, rfl⟩, -⟩
    exact rest value refused
  · rintro error _ ⟨preparing, permitted⟩
    exact .inr ⟨preparing, error, rfl, permitted error rfl⟩

omit [ClaimText Raw] [Unicode] in
/-- What follows the marker. -/
theorem Reached.after {body : Route Raw ε α} {next : α → Route Raw ε β}
    (first : Meets (unalarmed clientFault) (Reached symbol allowed) phase body)
    (uses : ∀ value, (next value).Uses (Command.On symbol)) :
    Meets (unalarmed clientFault) (Reached symbol allowed) phase (body.bind next) := by
  refine Meets.bind first ?_ ?_
  · rintro value _ (rfl | ⟨-, _, ⟨⟩, -⟩)
    exact (marked_meets (uses value)).mono fun _ _ marked => .inl marked
  · rintro error last (marked | ⟨preparing, _, ⟨⟩, permitted⟩)
    · exact .inl marked
    · exact .inr ⟨preparing, error, rfl, permitted⟩

omit [ClaimText Raw] [Unicode] in
/-- A handler that stands behind the marker as well as in front of it. -/
theorem Reached.handle {body : Route Raw ε α} {handler : ε → Route Raw ε' α}
    (first : Meets (unalarmed clientFault) (Reached symbol allowed) phase body)
    (uses : ∀ error, (handler error).Uses (Command.On symbol))
    (unmarked : ∀ error refused, allowed error →
      Meets (unalarmed clientFault) (Reached symbol wider) (.preparing refused) (handler error)) :
    Meets (unalarmed clientFault) (Reached symbol wider) phase (body.catching handler) := by
  refine Meets.catching first ?_ ?_
  · rintro value _ (rfl | ⟨-, _, ⟨⟩, -⟩)
    exact .inl rfl
  · rintro error _ (rfl | ⟨⟨refused, rfl⟩, _, ⟨⟩, permitted⟩)
    · exact (marked_meets (uses error)).mono fun _ _ marked => .inl marked
    · exact unmarked error refused permitted

/-- What the protocol relies on in the values that a route fills in. -/
structure FencedWrite.Unalarmed (w : FencedWrite Raw) (clientFault : Bool)
    (symbol : String) : Prop where
  authorize : ∀ brokerState refused, Meets (Trading.unalarmed clientFault)
    (Prepared (PyError.Refused clientFault)) (.preparing refused) (w.authorize brokerState)
  cleanUp : ∀ fence, (w.cleanUp fence).Uses (Command.On symbol)
  fault : w.valueErrorIsClientFault = clientFault

theorem prepareWrite_reached (values : w.Unalarmed clientFault symbol) :
    Meets (unalarmed clientFault) (Reached symbol (PyError.Refused clientFault))
    (.preparing refused) (prepareWrite settings w symbol fence) :=
  Prepared.reach reconcile_prepared fun brokerState _ =>
    Prepared.reach (values.authorize brokerState _) fun _ _ =>
      Prepared.reach renewFence_prepared fun _ _ => beginMutation_reached

/-- The protected block: its exceptions in front of the marker are harmless. -/
theorem guardedWrite_reached (values : w.Unalarmed clientFault symbol) :
    Meets (unalarmed clientFault) (Reached symbol fun error => error.1.Harmless clientFault)
      (.preparing refused) (guardedWrite settings w clientId symbol fence) := by
  have rejected : Meets (unalarmed clientFault) (Reached symbol (PyError.Harmless clientFault))
      (.preparing refused) ((prepareWrite settings w symbol fence).catching fun error =>
        raise (rejectOwnership false [] error) : Route Raw PyError String) :=
    Reached.handle (prepareWrite_reached values) (fun _ => trivial) fun error refused permitted =>
      .inr ⟨⟨refused, rfl⟩, _, rfl, harmless_of_refused permitted⟩
  have prepared : Meets (unalarmed clientFault)
      (Reached symbol fun error : WriteError => error.1.Harmless clientFault) (.preparing refused)
      (tagged ((prepareWrite settings w symbol fence).catching fun error =>
        raise (rejectOwnership false [] error))) :=
    Reached.handle rejected (fun _ => trivial) fun error refused permitted =>
      .inr ⟨⟨refused, rfl⟩, _, rfl, permitted⟩
  refine Reached.after prepared fun mutation => Uses.bind ?_ fun data =>
    Uses.bind ?_ fun _ => trivial
  · exact Uses.catching (uses_dispatchWrite trivial trivial trivial) fun error =>
      uses_afterFailedWrite trivial (fun _ _ => rfl) rfl (values.cleanUp fence)
  · refine uses_tagged (Uses.catching ?_ fun error =>
      uses_afterFailedConfirmation trivial fun _ _ => rfl)
    exact uses_confirmWrite trivial trivial trivial trivial trivial rfl

omit [Unicode] in
/-- The outer handlers freeze nothing in front of the marker. -/
theorem afterFailedBlock_reached (fault : w.valueErrorIsClientFault = clientFault)
    {error : WriteError} (harmless : error.1.Harmless clientFault) :
    Meets (unalarmed clientFault) (Reached symbol (PyError.Harmless false)) (.preparing refused)
      (afterFailedBlock w symbol error) := by
  obtain ⟨error, unapplied⟩ := error
  cases error with
  | value message =>
      rw [afterFailedBlock, if_pos (fault.trans harmless)]
      exact .inr ⟨⟨refused, rfl⟩, _, rfl, (by decide : (400 : Int) < 500)⟩
  | http error => exact .inr ⟨⟨refused, rfl⟩, _, rfl, harmless⟩
  | cancelled => exact .inr ⟨⟨refused, rfl⟩, _, rfl, trivial⟩
  | _ => exact harmless.elim

omit [ClaimText Raw] [Unicode] in
/-- A release that fails is swallowed. -/
theorem releaseFence_prepared : Meets (unalarmed clientFault) (Prepared (PyError.Harmless false))
    (.preparing refused) (releaseFence symbol fence : Route Raw PyError Unit) := by
  refine ⟨trivial, ?_⟩
  rintro reply _ ⟨rfl, -⟩
  cases reply with
  | served released => exact prepared_ok
  | failed => exact prepared_ok
  | cancelled => exact prepared_error trivial

omit [ClaimText Raw] [Unicode] in
/-- The release of the fence at the end. -/
theorem Reached.release {body : Route Raw PyError α}
    (first : Meets (unalarmed clientFault) (Reached symbol (PyError.Harmless false)) phase body) :
    Meets (unalarmed clientFault) (Reached symbol (PyError.Harmless false)) phase
      (body.ensuring (releaseFence symbol fence)) := by
  refine Meets.ensuring first ?_
  rintro outcome _ (rfl | ⟨⟨refused, rfl⟩, error, rfl, harmless⟩)
  · refine (marked_meets (uses_releaseFence rfl)).mono fun released _ marked => ?_
    cases released <;> exact .inl marked
  · refine releaseFence_prepared.mono fun released _ prepared => ?_
    cases released with
    | ok _ => exact .inr ⟨prepared.1, error, rfl, harmless⟩
    | error error => exact .inr ⟨prepared.1, error, rfl, prepared.2 error rfl⟩

/-- The call behind the gate. -/
theorem fencedCall_reached (values : w.Unalarmed clientFault symbol) :
    Meets (unalarmed clientFault) (Reached symbol (PyError.Harmless false)) (.preparing refused)
      (fencedCall settings w clientId symbol) := by
  have fenced :
      Meets (unalarmed clientFault) (Prepared (PyError.Harmless false)) (.preparing refused)
      ((acquireFence symbol).catching fun error => raise (rejectOwnership false [] error) :
        Route Raw PyError String) := by
    have taken :
        Meets (unalarmed clientFault) (Prepared (PyError.Refused false)) (.preparing refused)
        (acquireFence symbol : Route Raw PyError String) := acquireFence_prepared
    refine Meets.catching taken ?_ ?_
    · rintro token last ⟨preparing, -⟩
      exact ⟨preparing, by rintro _ ⟨⟩⟩
    · rintro error _ ⟨⟨refused, rfl⟩, permitted⟩
      exact prepared_error (harmless_of_refused (permitted error rfl))
  refine Prepared.reach fenced fun fence refused => Reached.release ?_
  exact Reached.handle (guardedWrite_reached values)
    (fun _ => uses_afterFailedBlock trivial fun _ _ => rfl)
    fun error _ harmless => afterFailedBlock_reached values.fault harmless

omit [ClaimText Raw] [Unicode] in
theorem admission_prepared : Meets (unalarmed clientFault) (Prepared (PyError.Harmless false))
    (.preparing refused) (admission : Route Raw PyError Unit) := by
  refine ⟨trivial, ?_⟩
  rintro rate _ ⟨rfl, calm⟩
  cases rate with
  | granted =>
      refine ⟨trivial, ?_⟩
      rintro permit _ ⟨rfl, -⟩
      cases permit with
      | granted => exact prepared_ok
      | cancelled => exact prepared_error trivial
  | exceeded => exact prepared_error (by decide : (429 : Int) < 500)
  | raised message => cases calm refused rfl
  | cancelled => exact prepared_error trivial

omit [ClaimText Raw] [Unicode] in
theorem gateError_harmless {error : PyError} (harmless : error.Harmless false) :
    (gateError error).Harmless false := by
  cases error with
  | http error => exact harmless
  | cancelled => trivial
  | value message => cases harmless
  | _ => exact harmless.elim

/-- The protocol with its gate and its last handler. -/
theorem fencedRoute_unalarmed (values : w.Unalarmed clientFault symbol) :
    Meets (unalarmed clientFault) (fun _ _ => True) (.preparing refused)
      (fencedRoute settings w clientId symbol) := by
  have gated : Meets (unalarmed clientFault) (Reached symbol (PyError.Harmless false))
      (.preparing refused) (executeAlpacaProviderCall (fencedCall settings w clientId symbol)) := by
    refine ⟨trivial, ?_⟩
    rintro found _ ⟨rfl, calm⟩
    cases found with
    | false => cases calm refused rfl
    | true =>
        refine Reached.handle
          (Prepared.reach admission_prepared fun _ _ => fencedCall_reached values)
          (fun _ => trivial) fun error refused harmless => ?_
        exact .inr ⟨⟨refused, rfl⟩, _, rfl, gateError_harmless harmless⟩
  have route : Meets (unalarmed clientFault) (Reached symbol (PyError.Harmless false))
      (.preparing refused) (fencedRoute settings w clientId symbol) := by
    refine Reached.handle gated (fun _ => uses_afterFailedGate trivial fun _ _ => rfl)
      fun error refused harmless => ?_
    cases error with
    | http error =>
        have kept : mergeIdempotencyContextInto5xx error w.context = error := if_pos (.inr harmless)
        rw [afterFailedGate, kept, ite_self, freezeAfterAmbiguousMutation, if_pos (.inr harmless)]
        exact .inr ⟨⟨refused, rfl⟩, _, rfl, harmless⟩
    | cancelled => exact .inr ⟨⟨refused, rfl⟩, _, rfl, trivial⟩
    | value message => cases harmless
    | _ => exact harmless.elim
  exact route.mono fun _ _ _ => trivial

end Protocol

/-! ## The requests -/

section Requests

variable [ClaimText Raw] [Unicode] {settings : Settings} {clientId : String}
  {request : WriteRequest}

/-- The routes that answer a `ValueError` with 400. -/
def WriteRequest.clientFault : WriteRequest → Bool
  | .create _ _ | .replace _ _ => true
  | .cancel _ | .close _ _ => false

theorem WriteRequest.Fills.unalarmed {symbol : String} {w : FencedWrite Raw}
    (fills : request.Fills settings clientId symbol w) :
    w.Unalarmed request.clientFault symbol := by
  have undo : ∀ fence, (releaseClaimAfterUnappliedSubmission settings symbol fence clientId).Uses
      (Command.On symbol : Command Raw → Prop) := fun _ =>
    uses_releaseAfterUnapplied trivial trivial trivial trivial trivial rfl rfl
  cases fills with
  | create => exact ⟨fun _ _ => authorizeSubmission_prepared, undo, rfl⟩
  | replace => exact ⟨fun _ _ => authorizeSubmission_prepared, fun _ => trivial, rfl⟩
  | cancel => exact ⟨fun _ _ => authorizeSubmission_prepared, fun _ => trivial, rfl⟩
  | close => exact ⟨fun _ _ => authorizeClose_prepared, undo, rfl⟩

/-- Every request keeps the contract. -/
theorem WriteRequest.serve_unalarmed (request : WriteRequest) :
    Meets (unalarmed request.clientFault) (fun _ _ => True) .preliminary
      (request.serve settings clientId : Route Raw PyError Answer) := by
  refine WriteRequest.serve_meets (A := fun phase => phase = .preliminary)
    (B := fun phase => ∃ refused, phase = .preparing refused) ?_ ?_ ?_ (fun _ _ _ => trivial) ?_ rfl
  · rintro command _ preliminary other rfl
    refine ⟨?_, ?_⟩
    · cases command with
      | store target op => exact preliminary.elim
      | submit write => exact preliminary.elim
      | awaitReply write => exact preliminary.elim
      | _ => trivial
    · rintro reply _ ⟨rfl, -⟩
      cases command with
      | ownershipGuard => exact absurd rfl other
      | _ => rfl
  · rintro _ rfl
    refine ⟨trivial, ?_⟩
    rintro found _ ⟨rfl, -⟩
    cases found with
    | true => exact ⟨false, rfl⟩
    | false => rfl
  · rintro _ ⟨refused, rfl⟩
    refine ⟨trivial, ?_⟩
    rintro uuid _ ⟨rfl, -⟩
    exact ⟨refused, rfl⟩
  · rintro symbol w _ fills ⟨refused, rfl⟩
    refine (fencedRoute_unalarmed fills.unalarmed).mono fun outcome _ _ => ?_
    cases outcome with
    | ok data => exact fun _ => trivial
    | error error => trivial

end Requests

/-! ## Every interleaving -/

section Runs

variable [DecidableEq ι]

/-- How far a request has come. -/
def writePhase (i : ι) : List (Event ι Raw) → WritePhase
  | [] => .preliminary
  | event :: earlier =>
      if event.actor = i then (writePhase i earlier).next event.command event.reply
      else writePhase i earlier

theorem writePhase_cons (event : Event ι Raw) (history : List (Event ι Raw)) :
    (fun i => writePhase i (event :: history)) = Function.update (fun i => writePhase i history)
      event.actor ((writePhase event.actor history).next event.command event.reply) := by
  funext i
  by_cases actor : event.actor = i
  · subst actor
    rw [Function.update_self, writePhase, if_pos rfl]
  · rw [Function.update_of_ne (Ne.symm actor), writePhase, if_neg actor]

omit [DecidableEq ι] in
/-- Only a marker that was set leads to the last phase. -/
theorem begun_of_next {phase : WritePhase} {symbol : String} {event : Event ι Raw}
    (marked : phase.next event.command event.reply = .marked symbol) :
    phase = .marked symbol ∨ ∃ token, event.begun = some (event.actor, symbol, token) := by
  obtain ⟨actor, command, reply, before, after⟩ := event
  cases phase with
  | marked other => exact .inl ((WritePhase.next_marked reply).symm.trans marked)
  | preliminary =>
      cases command with
      | ownershipGuard => cases reply <;> cases marked
      | _ => cases marked
  | preparing refused =>
      cases command with
      | store target op =>
          cases op with
          | beginMutation token =>
              cases reply with
              | served ok =>
                  cases ok with
                  | true =>
                      obtain rfl := WritePhase.marked.inj marked
                      exact .inr ⟨token, rfl⟩
                  | false => cases marked
              | failed => cases marked
              | cancelled => cases marked
          | claimAndIndex owner raw =>
              cases reply with
              | served ok => cases ok <;> cases marked
              | failed => cases marked
              | cancelled => cases marked
          | _ => cases marked
      | _ => cases marked

/-- A request in its last phase has set its marker. -/
theorem begun_of_marked {i : ι} {symbol : String} {history : List (Event ι Raw)}
    (marked : writePhase i history = .marked symbol) :
    ∃ token, Recorded Event.begun history (i, symbol, token) := by
  induction history with
  | nil => cases marked
  | cons event earlier ih =>
      have before (marked : writePhase i earlier = .marked symbol) :
          ∃ token, Recorded Event.begun (event :: earlier) (i, symbol, token) := by
        obtain ⟨token, begun⟩ := ih marked
        exact ⟨token, recorded_cons.mpr (.inr begun)⟩
      by_cases actor : event.actor = i
      · subst actor
        rw [writePhase, if_pos rfl] at marked
        rcases begun_of_next marked with old | ⟨token, begun⟩
        · exact before old
        · exact ⟨token, recorded_cons.mpr (.inl begun)⟩
      · rw [writePhase, if_neg actor] at marked
        exact before marked

variable [DecidableEq Raw] [ClaimText Raw]

/-- No reply makes a request freeze before its marker. -/
def unalarming (requests : ι → String × WriteRequest) :
    Policy (gateway : Machine ι (@Command.Reply Raw) (World ι Raw)) where
  allows i command outcome world := ∀ refused, writePhase i world.history = .preparing refused →
    ∀ result ∈ performCommand i command outcome world,
      command.alarms (requests i).2.clientFault refused result.1 = false
  permits _ _ := True

instance (requests : ι → String × WriteRequest) : (unalarming requests :
    Policy (gateway : Machine ι (@Command.Reply Raw) (World ι Raw))).Decides :=
  ⟨fun _ _ _ _ => inferInstanceAs (Decidable (∀ _ : Bool, _ = _ → ∀ _ ∈ _, _ = _)),
    fun _ _ => inferInstanceAs (Decidable True)⟩

/-- The changes of a claim that a request may make before its marker: the release and the claim of
its authorization, and the marker itself. -/
def Command.authorizes : Command Raw → Bool
  | .store _ (.claimAndIndex _ _) | .store _ (.compareAndDelete _) |
      .store _ (.beginMutation _) => true
  | _ => false

/-- Every change of a claim by a request that has not set its marker is one of these. -/
def SparesUnmarked (history : List (Event ι Raw)) : Prop :=
  ∀ event earlier, event :: earlier <:+ history → ∀ symbol, event.Took symbol →
    event.command.authorizes = true ∨
      ∃ token, Recorded Event.begun earlier (event.actor, symbol, token)

omit [DecidableEq ι] [DecidableEq Raw] in
/-- On the way to the marker nothing else changes a claim. -/
theorem authorizes_of_prepares {symbol : String} {op : StoreOp Raw}
    {before after : Cell Raw} {ok : Bool}
    (prepares : (Command.store symbol op).Prepares) (effect : ClaimEffect op before ok after)
    (took : after.claim ≠ before.claim) : (Command.store symbol op).authorizes = true := by
  cases effect with
  | kept same => exact absurd same took
  | created | begun => rfl
  | released release =>
      cases release with
      | plain => rfl
      | underFence => exact prepares.elim
  | completed | thawed | written => exact prepares.elim

/-- One permitted command. -/
theorem SparesUnmarked.step {i : ι} {command : Command Raw} {outcome : command.Outcome}
    {reply : command.Reply} {world after : World ι Raw} (spares : SparesUnmarked world.history)
    (permitted : (writePhase i world.history).May command)
    (performed : performCommand i command outcome world = some (reply, after)) :
    SparesUnmarked after.history := by
  obtain ⟨recorded, step⟩ := performCommand_record performed
  rw [recorded]
  intro event earlier suffix symbol took
  rcases List.suffix_cons_iff.mp suffix with now | before
  · obtain ⟨rfl, rfl⟩ := List.cons.inj now
    obtain ⟨op, ok, rfl, effect⟩ := (step.claim symbol).resolve_left took
    cases phase : writePhase i world.history with
    | marked target =>
        rw [phase] at permitted
        obtain rfl : symbol = target := permitted
        exact .inr (begun_of_marked phase)
    | preliminary =>
        rw [phase] at permitted
        exact .inl (authorizes_of_prepares permitted effect took)
    | preparing refused =>
        rw [phase] at permitted
        exact .inl (authorizes_of_prepares permitted effect took)
  · exact spares event earlier before symbol took

/-- While no reply makes a request freeze before its marker, a request that has not set its marker
only changes a claim by its authorization, in every interleaving. -/
theorem spares_unmarked [Unicode] {settings : Settings} {requests : ι → String × WriteRequest}
    {cells : String → Cell Raw} {issued : List Uuid}
    {final : Config ι (@Command.Reply Raw) PyError Answer (World ι Raw)}
    (run : Reaches (unalarming requests) (serving settings requests cells issued) final) :
    SparesUnmarked final.world.history := by
  let Held : World ι Raw → (ι → WritePhase) → Prop := fun world phases =>
    phases = (fun i => writePhase i world.history) ∧ SparesUnmarked world.history
  have act : ∀ world phases i command outcome reply after, Held world phases →
      (unalarmed (requests i).2.clientFault).may command (phases i) →
      (unalarming requests).allows i command outcome world →
      performCommand i command outcome world = some (reply, after) →
      ∃ next, (unalarmed (requests i).2.clientFault).after command (phases i) reply next ∧
        Held after (Function.update phases i next) := by
    rintro world _ i command outcome reply after ⟨rfl, spares⟩ permitted allowed performed
    refine ⟨_, ⟨rfl, fun refused phase => allowed refused phase _ performed⟩, ?_,
      spares.step permitted performed⟩
    rw [(performCommand_record performed).1, writePhase_cons]
  have calm : ∀ world phases (move : Disturbance ι), Held world phases →
      (unalarming requests).permits move world → Held (Disturbance.apply move world) phases := by
    rintro world _ move ⟨rfl, spares⟩ _
    refine ⟨by rw [Disturbance.history], ?_⟩
    rw [Disturbance.history]
    exact spares
  have start : Held (serving settings requests cells issued).world fun _ => .preliminary := by
    refine ⟨rfl, fun event earlier suffix => ?_⟩
    exact absurd suffix (by simp [serving])
  obtain ⟨_, ⟨-, spares⟩, -⟩ := run.invariant act calm start
    fun i => (requests i).2.serve_unalarmed
  exact spares

end Runs

/-! ## A failed request freezes another client's claim -/

set_option maxRecDepth 4000 in
/-- A request marks the claim, times out at the broker and freezes the claim. -/
theorem spares_unmarked_timeout :
    ∃ final, rivals.play (unalarming fun _ => ("atlas", .create "AAPL" (some "retry")))
      (calmTurns 16 0 '1' ++ calmTurns 4 0 '2' ++ [timesOut 0] ++ calmTurns 2 0 '2') = some final ∧
      SparesUnmarked final.world.history := by
  have played : (rivals.play (unalarming fun _ => ("atlas", .create "AAPL" (some "retry")))
      (calmTurns 16 0 '1' ++ calmTurns 4 0 '2' ++ [timesOut 0] ++ calmTurns 2 0 '2')).isSome := by
    decide
  obtain ⟨final, ran⟩ := Option.isSome_iff_exists.mp played
  let _ := asciiUnicode
  have run : Reaches (unalarming fun _ => ("atlas", .create "AAPL" (some "retry"))) rivals final :=
    Config.play_reaches ran
  exact ⟨final, ran, spares_unmarked run⟩

/-- Requests of the client `zeus` on a symbol whose claim the client `atlas` owns. -/
def strangers : Config (Fin 3)
    (@Command.Reply PlainText) PyError Answer (World (Fin 3) PlainText) :=
  let _ := asciiUnicode
  serving ⟨100, ["atlas", "zeus"]⟩ (fun _ => ("zeus", .create "AAPL" (some "retry")))
    (fun _ => ⟨some (.python ⟨"atlas", none, none, none⟩), none, ["atlas"]⟩) []

/-- The provider is missing; the request is answered with 503 and freezes the claim. -/
def strangeFreeze (failing : Fin 3) : List RivalTurn :=
  calmTurns 2 failing '0' ++ [missingProvider] ++ calmTurns 2 failing '0'

set_option maxRecDepth 4000 in
theorem freezes_unmarked : ∃ final, Reaches (Policy.free gateway) strangers final ∧
    (final.world.cells "AAPL").stored = some ⟨"atlas", none, none, some "broker_mutation_503"⟩ ∧
    ¬SparesUnmarked final.world.history := by
  have played : (strangers.play (Policy.free gateway) (strangeFreeze 0)).map (fun final =>
      ((final.world.cells "AAPL").stored,
        final.world.history.head?.any fun event => event.Took "AAPL" && !event.command.authorizes,
        final.world.history.all fun event => event.begun.isNone)) =
      some (some ⟨"atlas", none, none, some "broker_mutation_503"⟩, true, true) := by decide
  obtain ⟨final, ran, facts⟩ := Option.map_eq_some_iff.mp played
  obtain ⟨frozen, facts⟩ := Prod.mk.inj facts
  obtain ⟨foreign, unmarked⟩ := Prod.mk.inj facts
  refine ⟨final, Config.play_reaches ran, frozen, fun spares => ?_⟩
  cases history : final.world.history with
  | nil => simp [history] at foreign
  | cons event earlier =>
      rw [history] at foreign unmarked
      obtain ⟨took, other⟩ := (Bool.and_eq_true _ _).mp foreign
      rcases spares event earlier (history ▸ List.suffix_rfl) "AAPL" (of_decide_eq_true took) with
        own | ⟨token, begun, mem, marked⟩
      · simp [own] at other
      · have none := List.all_eq_true.mp unmarked begun (.tail _ mem)
        simp [marked] at none

end Trading
end DataGateway
