import DataGateway.Trading.Alone
import DataGateway.Trading.Fencing

/-!
# Calm surroundings

One request alone, where nothing but the broker's reply to a write is open: the store answers, the
calls are admitted, no lease expires and the broker's records show no open order but the client's
own.  Then every step but the write has one outcome, and the stored claim is known at each of them.
-/

namespace DataGateway
namespace Trading

open Coroutine Machine

variable {ι Raw : Type}

/-! ## Calls to the broker -/

/-- A write at the broker, or its end. -/
inductive BrokerCall
  /-- The write was handed over. -/
  | sent (write : BrokerWrite)
  /-- The wait for it ended. -/
  | replied (reply : SdkReply String)
  deriving DecidableEq

/-- The call that an event is. -/
def Event.brokerCall : Event ι Raw → Option BrokerCall
  | ⟨_, .submit write, _, _, _⟩ => some (.sent write)
  | ⟨_, .awaitReply _, reply, _, _⟩ => some (.replied reply)
  | _ => none

/-- The calls in the order in which they were made. -/
def brokerCalls : List (Event ι Raw) → List BrokerCall
  | [] => []
  | event :: earlier => brokerCalls earlier ++ event.brokerCall.toList

/-- The command is no part of a write at the broker. -/
def Command.unsent : Command Raw → Prop
  | .submit _ | .awaitReply _ => False
  | _ => True

/-- The command is none that can change the store. -/
def Command.unstored : Command Raw → Prop
  | .store _ _ => False
  | _ => True

/-! ## Surroundings in which only the reply is open -/

/-- The records that the broker may answer a reconciliation with. -/
structure Readings where
  /-- The open orders that may be listed for a symbol. -/
  orders : String → List BrokerRecord → Bool
  /-- The positions that may be listed. -/
  positions : List BrokerRecord → Bool

/-- The broker state shows no open order but the client's. -/
def BrokerSymbolState.Own (clientId : String) (brokerState : BrokerSymbolState) : Prop :=
  brokerState.complete = true ∧ brokerState.orderOwners ⊆ {some clientId}

/-- The broker shows no open order but those of one client. -/
def Readings.Clear [Unicode] (readings : Readings) (settings : Settings)
    (clientId : String) : Prop :=
  ∀ symbol today orders positions, readings.orders symbol orders = true →
    readings.positions positions = true → ∃ brokerState,
      reconcileRecords settings.clientIds today symbol (some orders) (some positions) =
        .ok brokerState ∧ brokerState.Own clientId

/-- The read returned such records. -/
def SdkReply.reads (allowed : List BrokerRecord → Bool) :
    SdkReply (Option (List BrokerRecord)) → Bool
  | .returned (some records) => allowed records
  | _ => false

/-- Every command succeeds, but for a write, which may end in any way that is not a cancellation. -/
def Command.calm (readings : Readings) : (command : Command Raw) → command.Outcome → Bool
  | .store _ _, outcome | .getClaim _, outcome => decide (outcome = StoreOutcome.served)
  | .ownershipGuard, found | .provider, found => found
  | .inflightFull, full => !full
  | .rateLimit, reply => decide (reply = RateReply.granted)
  | .permit, reply => decide (reply = PermitReply.granted)
  | .getOrders symbol, reply => reply.reads (readings.orders symbol)
  | .getPositions, reply => reply.reads readings.positions
  | .awaitReply _, reply => decide (reply ≠ SdkReply.cancelled)
  | _, _ => true

section Steps

variable [DecidableEq ι] [DecidableEq Raw] [ClaimText Raw]

/-- The surroundings are calm, and no lease expires. -/
def answering (readings : Readings) :
    Policy (gateway : Machine ι (@Command.Reply Raw) (World ι Raw)) where
  allows _ command outcome _ := command.calm readings outcome = true
  permits _ _ := False

instance (readings : Readings) : (answering readings :
    Policy (gateway : Machine ι (@Command.Reply Raw) (World ι Raw))).Decides :=
  ⟨fun _ _ _ _ => inferInstanceAs (Decidable (_ = true)),
    fun _ _ => inferInstanceAs (Decidable False)⟩

variable {readings : Readings} {i : ι} {world after last : World ι Raw} {ε α : Type}
  {symbol : String}

theorem served_of_calm {outcome : StoreOutcome} (calm : decide (outcome = .served) = true) :
    outcome = .served := of_decide_eq_true calm

theorem serving_answering (world : World ι Raw) : Serving (answering readings) i world := fun _ _ =>
  ⟨fun _ _ _ calm => served_of_calm calm, fun _ _ calm => served_of_calm calm⟩

/-- A step: the command is performed on the world as it is. -/
theorem answering_after {command : Command Raw} {reply : command.Reply}
    (step : (Machine.solo (answering readings) i).after command world reply after) :
    ∃ outcome : command.Outcome, command.calm readings outcome = true ∧
      performCommand i command outcome world = some (reply, after) := by
  obtain ⟨drifted, outcome, drift, calm, performed⟩ := step
  cases drift with
  | refl => exact ⟨outcome, calm, performed⟩
  | tail _ move =>
      obtain ⟨_, never, -⟩ := move
      exact never.elim

/-- Nothing was stored or sent. -/
structure Unmoved (world last : World ι Raw) : Prop where
  cells : last.cells = world.cells
  calls : brokerCalls last.history = brokerCalls world.history

omit [DecidableEq ι] [DecidableEq Raw] [ClaimText Raw] in
theorem Unmoved.trans {middle : World ι Raw} (first : Unmoved world middle)
    (second : Unmoved middle last) : Unmoved world last :=
  ⟨second.cells.trans first.cells, second.calls.trans first.calls⟩

omit [DecidableEq ι] [DecidableEq Raw] [ClaimText Raw] in
theorem brokerCall_of_unsent {command : Command Raw} {reply : command.Reply}
    {before next : String → Cell Raw} (unsent : command.unsent) :
    Event.brokerCall ⟨i, command, reply, before, next⟩ = none := by
  cases command with
  | submit write => exact unsent.elim
  | awaitReply write => exact unsent.elim
  | _ => rfl

theorem calls_after {command : Command Raw} {reply : command.Reply}
    (step : (Machine.solo (answering readings) i).after command world reply after)
    (unsent : command.unsent) : brokerCalls after.history = brokerCalls world.history := by
  obtain ⟨before, history⟩ := alone_history step
  rw [history, brokerCalls, brokerCall_of_unsent unsent]
  exact List.append_nil _

/-- A computation that sends nothing. -/
theorem uses_unsent {body : Route Raw ε α} (uses : body.Uses Command.unsent) :
    Meets (Machine.solo (answering readings) i) (fun _ last =>
      brokerCalls last.history = brokerCalls world.history) world body :=
  uses.meets_inv rfl fun _ _ unsent same =>
    ⟨trivial, fun _ _ step => (calls_after step unsent).trans same⟩

theorem cells_after {command : Command Raw} {reply : command.Reply}
    (step : (Machine.solo (answering readings) i).after command world reply after)
    (unstored : command.unstored) : after.cells = world.cells := by
  obtain ⟨outcome, -, performed⟩ := answering_after step
  cases (performCommand_record performed).2 with
  | other notStore same => exact same
  | unexecuted same lost => exact unstored.elim
  | executed => exact unstored.elim

theorem unmoved_after {command : Command Raw} {reply : command.Reply}
    (step : (Machine.solo (answering readings) i).after command world reply after)
    (unstored : command.unstored) (unsent : command.unsent) : Unmoved world after :=
  ⟨cells_after step unstored, calls_after step unsent⟩

/-! ## Admission and reconciliation -/

/-- How the wait for a call to the broker ends. -/
def SdkReply.ends (operation : String) (context : Fields) : SdkReply α → Except PyError α
  | .returned value => .ok value
  | .timedOut | .raised (.timeout _) => .error (httpCoded 504 "GW-E5004"
      s!"Timed out waiting for Alpaca trading API during {operation}" context)
  | .raised error => .error (.ofBroker error)
  | .cancelled => .error .cancelled

variable {clientId mutation reason fence operation : String} {context : Fields}
  {settings : Settings}

/-- A call to the broker that is not held back. -/
theorem runTradingProviderCall_alone {dispatch : Route Raw PyError (SdkReply α)}
    {post : Except PyError α → World ι Raw → Prop}
    (dispatched : ∀ middle, Unmoved world middle → Returns (Machine.solo (answering readings) i)
      (fun reply last => post (reply.ends operation context) last) middle dispatch) :
    Meets (Machine.solo (answering readings) i) post world
      (runTradingProviderCall settings operation context dispatch) := by
  refine ⟨trivial, fun full middle step => ?_⟩
  obtain ⟨busy, calm, performed⟩ := answering_after step
  obtain ⟨rfl, -⟩ := Prod.mk.inj (Option.some.inj performed)
  cases busy with
  | true => cases calm
  | false =>
      refine (dispatched middle (unmoved_after step trivial trivial)).bind
        fun reply last ended => ?_
      cases reply with
      | raised error => cases error <;> exact ended
      | _ => exact ended

/-- A call that the gate admits. -/
theorem executeAlpacaProviderCall_alone {call : Route Raw PyError α}
    {post : Except PyError α → World ι Raw → Prop}
    (admitted : ∀ middle, Unmoved world middle → Meets (Machine.solo (answering readings) i)
      (fun outcome last => post (outcome.mapError gateError) last) middle call) :
    Meets (Machine.solo (answering readings) i) post world (executeAlpacaProviderCall call) := by
  refine ⟨trivial, fun found registered step => ?_⟩
  have first : Unmoved world registered := unmoved_after step trivial trivial
  obtain ⟨present, calm, performed⟩ := answering_after step
  obtain ⟨rfl, -⟩ := Prod.mk.inj (Option.some.inj performed)
  cases present with
  | false => cases calm
  | true =>
      refine ⟨trivial, fun rate limited step => ?_⟩
      have second : Unmoved world limited := first.trans (unmoved_after step trivial trivial)
      obtain ⟨slot, calm, performed⟩ := answering_after step
      obtain ⟨rfl, -⟩ := Prod.mk.inj (Option.some.inj performed)
      obtain rfl : slot = .granted := of_decide_eq_true calm
      refine ⟨trivial, fun permit middle step => ?_⟩
      have third : Unmoved world middle := second.trans (unmoved_after step trivial trivial)
      obtain ⟨slot, calm, performed⟩ := answering_after step
      obtain ⟨rfl, -⟩ := Prod.mk.inj (Option.some.inj performed)
      obtain rfl : slot = .granted := of_decide_eq_true calm
      exact (admitted middle third).catching (fun _ _ ended => ended) fun _ _ ended => ended

/-- A read of the broker's records returns some of those it may return. -/
theorem readRecords_alone {command : Command Raw}
    {read : command.Reply → SdkReply (Option (List BrokerRecord))}
    {allowed : List BrokerRecord → Bool} (unstored : command.unstored) (unsent : command.unsent)
    (answers : ∀ {world after : World ι Raw} {reply},
      (Machine.solo (answering readings) i).after command world reply after →
      (read reply).reads allowed = true) :
    Returns (Machine.solo (answering readings) i) (fun found last => Unmoved world last ∧
      ∃ records, found = some records ∧ allowed records = true) world
      (runTradingProviderCall settings operation []
        (.suspend command fun reply => .finish (.ok (read reply)))) := by
  refine runTradingProviderCall_alone fun middle unmoved => ⟨trivial, fun reply last step => ?_⟩
  have found := answers step
  have still : Unmoved world last := unmoved.trans (unmoved_after step unstored unsent)
  refine ⟨read reply, rfl, ?_⟩
  cases answer : read reply with
  | returned records =>
      rw [answer] at found
      cases records with
      | some records => exact ⟨_, rfl, still, records, rfl, found⟩
      | none => cases found
  | _ =>
      rw [answer] at found
      cases found

theorem reconcile_alone [Unicode] (clear : readings.Clear settings clientId) :
    Returns (Machine.solo (answering readings) i) (fun brokerState last => Unmoved world last ∧
      brokerState.Own clientId) world (reconcileBrokerSymbolState settings symbol) := by
  have listed : ∀ {world after : World ι Raw} {reply : SdkReply (Option (List BrokerRecord))},
      (Machine.solo (answering readings) i).after (.getOrders symbol) world reply after →
      reply.reads (readings.orders symbol) = true := by
    intro world after reply step
    obtain ⟨outcome, calm, performed⟩ := answering_after step
    obtain ⟨rfl, -⟩ := Prod.mk.inj (Option.some.inj performed)
    exact calm
  have held : ∀ {world after : World ι Raw} {reply : SdkReply (Option (List BrokerRecord))},
      (Machine.solo (answering readings) i).after .getPositions world reply after →
      reply.reads readings.positions = true := by
    intro world after reply step
    obtain ⟨outcome, calm, performed⟩ := answering_after step
    obtain ⟨rfl, -⟩ := Prod.mk.inj (Option.some.inj performed)
    exact calm
  refine Returns.bind (readRecords_alone trivial trivial listed) ?_
  rintro _ middle ⟨first, orders, rfl, allowed⟩
  refine Returns.bind (readRecords_alone trivial trivial held) ?_
  rintro _ later ⟨second, positions, rfl, admissible⟩
  refine ⟨trivial, fun today last step => ?_⟩
  obtain ⟨brokerState, read, own⟩ := clear symbol today orders positions allowed admissible
  exact ⟨brokerState, read, (first.trans second).trans (unmoved_after step trivial trivial), own⟩

theorem reconcileSymbolStateForBatch_alone [Unicode] (clear : readings.Clear settings clientId) :
    Returns (Machine.solo (answering readings) i) (fun brokerState last => Unmoved world last ∧
      brokerState.Own clientId) world (reconcileSymbolStateForBatch settings symbol) := by
  refine executeAlpacaProviderCall_alone fun middle unmoved => Meets.mono (reconcile_alone clear) ?_
  rintro _ last ⟨brokerState, rfl, still, own⟩
  exact ⟨brokerState, rfl, unmoved.trans still, own⟩

/-- The write is sent, and the wait for it ends. -/
theorem write_alone {write : BrokerWrite} :
    Meets (Machine.solo (answering readings) i) (fun outcome last => last.cells = world.cells ∧
      ∃ reply, reply ≠ .cancelled ∧ outcome = reply.ends operation context ∧
        brokerCalls last.history = brokerCalls world.history ++ [.sent write, .replied reply]) world
      (runTradingProviderCall settings operation context
        (.suspend (.submit write) fun _ => .suspend (.awaitReply write) fun reply =>
          .finish (.ok reply))) := by
  refine runTradingProviderCall_alone fun middle unmoved => ⟨trivial, fun _ sent first => ?_⟩
  refine ⟨trivial, fun reply last second => ⟨reply, rfl, ?_, reply, ?_, rfl, ?_⟩⟩
  · exact (cells_after second trivial).trans ((cells_after first trivial).trans unmoved.cells)
  · obtain ⟨outcome, calm, performed⟩ := answering_after second
    obtain ⟨rfl, -⟩ := Prod.mk.inj (Option.some.inj performed)
    exact of_decide_eq_true calm
  · obtain ⟨before, handed⟩ := alone_history first
    obtain ⟨later, ended⟩ := alone_history second
    rw [ended, brokerCalls, handed, brokerCalls, unmoved.calls, List.append_assoc]
    rfl

/-! ## The fence -/

/-- The command neither takes nor gives up a fence. -/
def Command.holdsFence : Command Raw → Prop
  | .store _ (.acquireFence _) | .store _ (.compareAndDeleteFence _) => False
  | _ => True

theorem uses_holdsFence (symbol : String) {body : Route Raw ε α}
    (uses : body.Uses Command.holdsFence) :
    Meets (Machine.solo (answering readings) i) (fun _ last =>
      (last.cells symbol).fence = (world.cells symbol).fence) world body := by
  refine uses.meets_inv rfl fun command current holds same => ⟨trivial, fun reply next step => ?_⟩
  obtain ⟨outcome, -, performed⟩ := answering_after step
  refine Eq.trans ?_ same
  cases (performCommand_record performed).2.fence symbol with
  | kept same => exact same
  | taken => exact holds.elim
  | released => exact holds.elim

theorem acquireFence_alone :
    Meets (Machine.solo (answering readings) i) (fun outcome last => ∀ fence, outcome = .ok fence →
      (last.cells symbol).fence = some fence) world (acquireFence symbol) := by
  refine ⟨trivial, fun uuid drawn _ => ⟨trivial, fun reply last step => ?_⟩⟩
  obtain ⟨cell, -, ⟨acquired, applied, rfl⟩ | ⟨-, rfl⟩⟩ :=
    (serving_answering drawn).store step
  · simp only [StoreOp.apply] at applied
    split at applied
    · obtain ⟨rfl, taken⟩ := Prod.mk.inj (Option.some.inj applied)
      rintro _ ⟨⟩
      rw [← taken]
    · obtain ⟨rfl, -⟩ := Prod.mk.inj (Option.some.inj applied)
      rintro _ ⟨⟩
  · rintro _ ⟨⟩

/-- A fence that is held is renewed. -/
theorem renewFence_alone (held : (world.cells symbol).fence = some fence) :
    Returns (Machine.solo (answering readings) i) (fun _ last => Unmoved world last) world
      (renewFence symbol fence) := by
  refine ⟨trivial, fun reply last step => ?_⟩
  obtain ⟨outcome, calm, performed⟩ := answering_after step
  obtain rfl : outcome = .served := served_of_calm calm
  obtain ⟨rfl, cells⟩ := performCommand_store performed
  have applied : (StoreOp.renewFence fence : StoreOp Raw).apply (world.cells symbol) =
      some (true, world.cells symbol) := by simp [StoreOp.apply, held]
  simp only [performStore, applied, Function.update_eq_self] at cells ⊢
  exact ⟨(), rfl, cells, calls_after step trivial⟩

/-! ## The claim -/

/-- The claim is the client's, frozen or not. -/
def Stands (symbol clientId : String) (frozen : Bool) (world : World ι Raw) : Prop :=
  ∃ claim, (world.cells symbol).Loads claim ∧ claim.owner = clientId ∧
    Claim.truthy claim.frozenReason = frozen

/-- The claim is the client's, and it carries a marker and no freeze. -/
def UnderWay (symbol clientId mutation : String) (world : World ι Raw) : Prop :=
  ∃ claim, (world.cells symbol).Loads claim ∧ claim.owner = clientId ∧
    Claim.truthy claim.frozenReason = false ∧ claim.mutationPending = some mutation

/-- Nothing was sent, and the claim is the client's, frozen or not. -/
def Settles (symbol clientId : String) (frozen : Bool) (world last : World ι Raw) : Prop :=
  Stands symbol clientId frozen last ∧ brokerCalls last.history = brokerCalls world.history

variable {frozen : Bool}

omit [DecidableEq ι] [DecidableEq Raw] in
theorem Stands.congr (stands : Stands symbol clientId frozen world)
    (same : (last.cells symbol).claim = (world.cells symbol).claim) :
    Stands symbol clientId frozen last := by
  obtain ⟨claim, loaded, kept⟩ := stands
  exact ⟨claim, loaded.congr same, kept⟩

omit [DecidableEq ι] [DecidableEq Raw] in
theorem UnderWay.congr (underWay : UnderWay symbol clientId mutation world)
    (same : last.cells = world.cells) : UnderWay symbol clientId mutation last := by
  obtain ⟨claim, loaded, kept⟩ := underWay
  exact ⟨claim, loaded.congr (by rw [same]), kept⟩

omit [DecidableEq ι] [DecidableEq Raw] in
theorem UnderWay.stands (underWay : UnderWay symbol clientId mutation world) :
    Stands symbol clientId false world := by
  obtain ⟨claim, loaded, owned, unfrozen, -⟩ := underWay
  exact ⟨claim, loaded, owned, unfrozen⟩

/-- A freeze of the client's claim. -/
theorem freezeBeforeFenceRelease_settles (stands : Stands symbol clientId frozen world)
    (given : reason ≠ "") :
    Returns (Machine.solo (answering readings) i)
    (fun _ last => Settles symbol clientId true world last)
      world (freezeBeforeFenceRelease symbol reason) := by
  obtain ⟨claim, loaded, owned, -⟩ := stands
  have unsent : (freeze symbol reason : Route Raw PyError Unit).Uses Command.unsent :=
    uses_freeze trivial fun _ => trivial
  refine Returns.catching
    (((freeze_alone (serving_answering world)).and (uses_unsent unsent)).mono ?_)
  rintro outcome last ⟨⟨stored, -⟩, calls⟩
  rw [freezeResult, loaded.result] at stored
  obtain ⟨rfl, written⟩ := Prod.mk.inj stored
  exact ⟨(), rfl, ⟨_, ⟨_, written, loads_dumps loaded.owned⟩, owned, bne_iff_ne.mpr given⟩,
    calls⟩

/-- The marker of a write that is under way is cleared. -/
theorem completeMutation_settles (underWay : UnderWay symbol clientId mutation world) :
    Returns (Machine.solo (answering readings) i)
    (fun _ last => Settles symbol clientId false world last)
      world (completeMutation symbol mutation) := by
  obtain ⟨claim, loaded, owned, unfrozen, marked⟩ := underWay
  have unsent : (completeMutation symbol mutation : Route Raw PyError Unit).Uses Command.unsent :=
    uses_completeMutation trivial
  refine ((completeMutation_alone (serving_answering world) loaded.stored marked).and
    (uses_unsent unsent)).mono ?_
  rintro _ last ⟨⟨rfl, written⟩, calls⟩
  exact ⟨(), rfl, ⟨_, ⟨_, written, loads_encode loaded.owned⟩, owned, unfrozen⟩, calls⟩

/-- From the authorization to the marker. -/
theorem authorized_underWay (named : clientId ≠ "") {brokerState : BrokerSymbolState} :
    Meets (Machine.solo (answering readings) i) (fun outcome last => ∀ mutation,
      outcome = .ok mutation → UnderWay symbol clientId mutation last) world
      ((authorizeSubmission clientId symbol brokerState).bind fun _ =>
        (renewFence symbol fence).bind fun _ => beginMutation symbol operation) := by
  refine Meets.bind (authorizeSubmission_alone serving_answering named) ?_ fun _ _ _ => nofun
  intro _ authorized writable
  refine Meets.bind (uses_spares symbol (uses_renewFence trivial)) ?_ fun _ _ _ => nofun
  intro _ renewed same
  obtain ⟨claim, loaded, owned, unfrozen⟩ := (writable rfl).congr same
  refine (beginMutation_alone (serving_answering renewed) loaded.stored).mono
    fun outcome last begun => ?_
  intro mutation ended
  obtain ⟨written, -⟩ := begun mutation ended
  exact ⟨_, ⟨_, written, loads_encode loaded.owned⟩, owned, unfrozen, rfl⟩

/-- No open orders but the owner's, and no freeze: nothing is ambiguous. -/
theorem unambiguous_own {claim : Claim} {brokerState : BrokerSymbolState}
    (unfrozen : Claim.truthy claim.frozenReason = false) (own : brokerState.Own claim.owner) :
    assertBrokerStateIsUnambiguous symbol (some claim) brokerState true = .ok () := by
  obtain ⟨complete, owners⟩ := own
  have one : ¬(none ∈ brokerState.orderOwners ∨ 1 < brokerState.orderOwners.card) := by
    rintro (anonymous | several)
    · cases Finset.mem_singleton.mp (owners anonymous)
    · exact absurd (Finset.card_le_card owners) (by simpa using several)
  rcases Finset.subset_singleton_iff.mp owners with none | single
  · simp [assertBrokerStateIsUnambiguous, complete, unfrozen, none]
  · simp [assertBrokerStateIsUnambiguous, complete, unfrozen, single]

theorem verifyReconciliation_alone (underWay : UnderWay symbol clientId mutation world)
    {brokerState : BrokerSymbolState} (own : brokerState.Own clientId) :
    Returns (Machine.solo (answering readings) i) (fun _ last =>
      UnderWay symbol clientId mutation last ∧ brokerCalls last.history = brokerCalls world.history)
      world (verifyReconciliation clientId symbol brokerState) := by
  have unsent : (loadClaim symbol : Route Raw PyError _).Uses Command.unsent :=
    uses_loadClaim trivial
  obtain ⟨claim, loaded, rfl, unfrozen, marked⟩ := underWay
  have read : Returns (Machine.solo (answering readings) i) (fun found last => found = some claim ∧
      (last.cells symbol).claim = (world.cells symbol).claim ∧
      brokerCalls last.history = brokerCalls world.history) world
      (loadClaim symbol : Route Raw PyError _) := by
    refine ((loadClaim_alone (serving_answering world)).and (uses_unsent unsent)).mono ?_
    rintro _ last ⟨⟨rfl, same⟩, calls⟩
    exact ⟨_, loaded.result, rfl, same, calls⟩
  refine read.bind ?_
  rintro _ last ⟨rfl, same, calls⟩
  have passed : assertBrokerStateIsUnambiguous symbol (some claim) brokerState true = .ok () :=
    unambiguous_own unfrozen own
  simp only [passed, ofExcept, bind_eq, Coroutine.bind, resolve_finish,
    Option.any_some, decide_true, if_true]
  exact ⟨(), rfl, ⟨claim, loaded.congr same, rfl, unfrozen, marked⟩, calls⟩

/-- A write that is under way is confirmed. -/
theorem confirm_settles {reconciliation : Route Raw PyError BrokerSymbolState}
    (reconciled : Returns (Machine.solo (answering readings) i) (fun brokerState last =>
      Unmoved world last ∧ brokerState.Own clientId) world reconciliation)
    (underWay : UnderWay symbol clientId mutation world) :
    Returns (Machine.solo (answering readings) i)
    (fun _ last => Settles symbol clientId false world last)
      world (reconciliation.bind fun brokerState =>
        (verifyReconciliation clientId symbol brokerState).bind fun _ =>
          completeMutation symbol mutation) := by
  refine reconciled.bind fun brokerState read ⟨unmoved, own⟩ => ?_
  refine (verifyReconciliation_alone (underWay.congr unmoved.cells) own).bind
    fun _ verified ⟨underWay, calls⟩ => ?_
  refine (completeMutation_settles underWay).mono fun _ last ⟨stands, same⟩ => ?_
  exact ⟨stands, same.trans (calls.trans unmoved.calls)⟩

end Steps

end Trading
end DataGateway
