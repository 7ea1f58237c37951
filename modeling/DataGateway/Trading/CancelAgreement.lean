import DataGateway.Trading.Answering
import DataGateway.Trading.Definitive

/-!
# One cancellation and a group of them

`DELETE /orders/{order_id}` classifies what the broker answers to its write, and `DELETE
/orders` what the gate has made of that answer.  Each reply either stops a group, whose claim
is then frozen, or lets it go on; a group refines the single cancellation as long as both
classify its replies alike.
-/

namespace DataGateway
namespace Trading

open Coroutine Machine

variable {ι Raw : Type}

/-! ## The two classifications -/

/-- A group freezes the claim after this answer of the gate. -/
def freezesAfterGate : Except PyError String → Bool
  | .ok _ => false
  | .error (.http error) => error.kind = .fenceLostBeforeWrite || 500 ≤ error.statusCode
  | .error _ => true

/-- A group freezes the claim after this reply. -/
def SdkReply.freezesGroup (reply : SdkReply String) : Bool :=
  freezesAfterGate ((reply.ends "cancel_all_orders.cancel" []).mapError gateError)

/-- The error freezes the claim when it passes a handler of `HTTPException`. -/
def HttpError.ambiguous (error : HttpError) : Bool :=
  error.kind ≠ .unappliedWriteOwnership && 500 ≤ error.statusCode

/-- The exception is such an error. -/
def PyError.ambiguous : PyError → Bool
  | .http error => error.ambiguous
  | _ => false

/-- The handlers behind the write freeze the claim. -/
def freezesBehind : WriteError → Bool
  | (.http error, _) => error.ambiguous
  | (.cancelled, _) => false
  | (error, unapplied) => !unapplied || (gateError error).ambiguous

/-- A single cancellation freezes the claim after its write ended so. -/
def freezesAfterWrite : Except PyError String → Bool
  | .ok _ => false
  | .error error => freezesBehind (error, brokerWriteProvenUnapplied error)

/-- A single cancellation freezes the claim after this reply. -/
def SdkReply.freezesOne (reply : SdkReply String) : Bool :=
  freezesAfterWrite (reply.ends "cancel_order" [])

/-- Both classify the reply alike.  They differ on an `HTTPStatusError` below 500, on an `APIError`
below 500 or without the property that does not prove the write unapplied, and on one that does and
whose status cannot be compared. -/
def SdkReply.classifiedAlike : SdkReply String → Bool
  | .raised (.api error) =>
      match error.statusCode with
      | .known code => 500 ≤ code || brokerWriteProvenUnapplied (.api error)
      | .missing => brokerWriteProvenUnapplied (.api error)
      | .absent | .unreadable => !brokerWriteProvenUnapplied (.api error)
  | .raised (.httpStatus status) => 500 ≤ status
  | _ => true

theorem classifiedAlike_iff {reply : SdkReply String} (waited : reply ≠ .cancelled) :
    reply.classifiedAlike = true ↔ reply.freezesGroup = reply.freezesOne := by
  cases reply with
  | cancelled => exact absurd rfl waited
  | returned value => exact iff_of_true rfl rfl
  | timedOut => exact iff_of_true rfl rfl
  | raised error =>
      cases error with
      | timeout message => exact iff_of_true rfl rfl
      | value message => exact iff_of_true rfl rfl
      | other message => exact iff_of_true rfl rfl
      | http status detail =>
          refine iff_of_true rfl ?_
          simp [SdkReply.freezesGroup, SdkReply.freezesOne, SdkReply.ends,
            PyError.ofBroker, gateError,
            freezesAfterGate, freezesAfterWrite, freezesBehind, HttpError.ambiguous,
            Except.mapError]
      | httpStatus status =>
          simp [SdkReply.classifiedAlike, SdkReply.freezesGroup, SdkReply.freezesOne, SdkReply.ends,
            PyError.ofBroker, gateError, httpText, freezesAfterGate, freezesAfterWrite,
            freezesBehind, brokerWriteProvenUnapplied, Except.mapError]
      | api error =>
          cases proven : brokerWriteProvenUnapplied (.api error) <;>
            cases status : error.statusCode <;>
              simp [SdkReply.classifiedAlike, SdkReply.freezesGroup, SdkReply.freezesOne,
                SdkReply.ends, PyError.ofBroker, PyError.ambiguous, HttpError.ambiguous,
                gateError, httpText,
                freezesAfterGate, freezesAfterWrite, freezesBehind, Except.mapError, proven, status]

theorem ends_ne_cancelled {operation : String} {context : Fields} {reply : SdkReply String}
    (waited : reply ≠ .cancelled) : reply.ends operation context ≠ .error .cancelled := by
  cases reply with
  | cancelled => exact absurd rfl waited
  | returned value => exact nofun
  | timedOut => exact nofun
  | raised error => cases error <;> exact nofun

theorem gated_ne_cancelled {operation : String} {context : Fields} {reply : SdkReply String}
    (waited : reply ≠ .cancelled) :
    (reply.ends operation context).mapError gateError ≠ .error .cancelled := by
  cases ended : reply.ends operation context with
  | ok answer => exact nofun
  | error error =>
      refine fun same => gateError_ne_cancelled ?_ (Except.error.inj same)
      rintro rfl
      exact ends_ne_cancelled waited ended

theorem mutationReason_ne (status : Int) : s!"broker_mutation_{status}" ≠ "" := fun empty =>
  absurd (String.append_eq_empty_iff.mp empty).1 (by decide : toString "broker_mutation_" ≠ "")

section Runs

variable [DecidableEq ι] [DecidableEq Raw] [ClaimText Raw]
variable {readings : Readings} {i : ι} {world last : World ι Raw} {settings : Settings}
variable {symbol clientId mutation fence reason orderId : String} {orderIds : List String}
variable {frozen : Bool}

/-! ## A group -/

/-- The call that cancels one order of a group. -/
def groupCall (symbol orderId : String) : BrokerWrite :=
  ⟨"cancel_all_orders.cancel", symbol, some orderId, none⟩

/-- The calls of a group, and whether one of them stopped it. -/
inductive GroupCalls (symbol : String) : List String → Bool → List BrokerCall → Prop
  /-- No order is left. -/
  | done : GroupCalls symbol [] false []
  /-- The reply stops the group. -/
  | stopped {orderId rest reply} (waited : reply ≠ .cancelled)
      (freezes : reply.freezesGroup = true) :
      GroupCalls symbol (orderId :: rest) true [.sent (groupCall symbol orderId), .replied reply]
  /-- The group goes on. -/
  | next {orderId rest reply stopped calls} (waited : reply ≠ .cancelled)
      (passes : reply.freezesGroup = false) (others : GroupCalls symbol rest stopped calls) :
      GroupCalls symbol (orderId :: rest) stopped
        (.sent (groupCall symbol orderId) :: .replied reply :: calls)

/-- One order of a group: its reply decides whether there is a reason for a freeze. -/
theorem cancelOneFencedOrder_alone (held : (world.cells symbol).fence = some fence) :
    Returns (Machine.solo (answering readings) i) (fun answer last =>
      last.cells = world.cells ∧ ∃ reply, reply ≠ .cancelled ∧
        answer.2.isSome = reply.freezesGroup ∧ (∀ text ∈ answer.2, text ≠ "") ∧
        brokerCalls last.history = brokerCalls world.history ++
          [.sent (groupCall symbol orderId), .replied reply]) world
      (cancelOneFencedOrder settings symbol fence orderId) := by
  have gated : Meets (Machine.solo (answering readings) i) (fun outcome last =>
      last.cells = world.cells ∧ ∃ reply, reply ≠ .cancelled ∧
        outcome = (reply.ends "cancel_all_orders.cancel" []).mapError gateError ∧
        brokerCalls last.history = brokerCalls world.history ++
          [.sent (groupCall symbol orderId), .replied reply]) world
      (executeAlpacaProviderCall (cancelFencedCall settings symbol fence orderId)) := by
    refine executeAlpacaProviderCall_alone fun middle unmoved => ?_
    have still : (middle.cells symbol).fence = some fence := by rw [unmoved.cells, held]
    refine (renewFence_alone still).catching.bind fun _ renewed same => ?_
    refine write_alone.mono fun outcome last ⟨cells, reply, waited, ended, calls⟩ => ?_
    refine ⟨cells.trans (same.cells.trans unmoved.cells), reply, waited, by rw [ended], ?_⟩
    rw [calls, same.calls, unmoved.calls]
    rfl
  refine gated.resolve ?_
  rintro outcome last ⟨cells, reply, waited, ended, calls⟩
  have classified : reply.freezesGroup = freezesAfterGate outcome := by rw [ended]; rfl
  cases outcome with
  | ok answer => exact ⟨_, rfl, cells, reply, waited, classified.symm, nofun, calls⟩
  | error error =>
      cases error with
      | cancelled => exact absurd ended.symm (gated_ne_cancelled waited)
      | http error =>
          refine ⟨_, rfl, cells, reply, waited, ?_, ?_, calls⟩
          · rw [classified]
            by_cases lost : error.kind = .fenceLostBeforeWrite
            · simp [freezesAfterGate, lost]
            · by_cases broken : 500 ≤ error.statusCode <;> simp [freezesAfterGate, lost, broken]
          · intro text mem
            split_ifs at mem
            · exact Option.mem_some_iff.mp mem ▸ by decide
            · exact Option.mem_some_iff.mp mem ▸ mutationReason_ne _
            · cases mem
      | _ => exact ⟨_, rfl, cells, reply, waited, classified.symm,
          fun text mem => Option.mem_some_iff.mp mem ▸ by decide, calls⟩

theorem freezeSymbolForBatch_settles (stands : Stands symbol clientId frozen world)
    (given : reason ≠ "") :
    Returns (Machine.solo (answering readings) i)
    (fun _ last => Settles symbol clientId true world last)
      world (freezeSymbolForBatch symbol reason) :=
  (freezeBeforeFenceRelease_settles stands given).resolve fun _ _ settled => ⟨none, rfl, settled⟩

/-- The loop over the group. -/
theorem cancelEach_alone (held : (world.cells symbol).fence = some fence)
    (underWay : UnderWay symbol clientId mutation world) :
    Returns (Machine.solo (answering readings) i) (fun answer last =>
      (∃ calls, GroupCalls symbol orderIds answer.2 calls ∧
        brokerCalls last.history = brokerCalls world.history ++ calls) ∧
      (answer.2 = true → Stands symbol clientId true last) ∧
      (answer.2 = false → UnderWay symbol clientId mutation last)) world
      (cancelEach settings symbol fence orderIds) := by
  induction orderIds generalizing world with
  | nil => exact ⟨_, rfl, ⟨[], .done, (List.append_nil _).symm⟩, nofun, fun _ => underWay⟩
  | cons orderId rest ih =>
      refine (cancelOneFencedOrder_alone held).bind ?_
      rintro ⟨result, reason⟩ after ⟨cells, reply, waited, frozen, given, sent⟩
      have still : UnderWay symbol clientId mutation after := underWay.congr cells
      cases reason with
      | none =>
          refine (ih (by rw [cells, held]) still).bind ?_
          rintro ⟨results, stopped⟩ last ⟨⟨calls, group, later⟩, left⟩
          refine ⟨_, rfl, ⟨_, .next waited frozen.symm group, ?_⟩, left⟩
          rw [later, sent, List.append_assoc]
          rfl
      | some reason =>
          refine (freezeSymbolForBatch_settles still.stands (given reason rfl)).bind ?_
          rintro freezeError last ⟨stands, same⟩
          exact ⟨_, rfl, ⟨_, .stopped waited frozen.symm, same.trans sent⟩,
            fun _ => stands, nofun⟩

/-- What a group leaves behind. -/
def GroupLeft (symbol clientId : String) (orderIds : List String) (last : World ι Raw) : Prop :=
  brokerCalls last.history = [] ∨ ∃ stopped, Stands symbol clientId stopped last ∧
    GroupCalls symbol orderIds stopped (brokerCalls last.history)

/-- The writes of a group, from its marker to the confirmation. -/
theorem writeGroup_alone [Unicode] (clear : readings.Clear settings clientId)
    (fresh : brokerCalls world.history = []) (held : (world.cells symbol).fence = some fence)
    (underWay : UnderWay symbol clientId mutation world) :
    Meets (Machine.solo (answering readings) i)
    (fun _ last => GroupLeft symbol clientId orderIds last)
      world (writeGroup settings clientId symbol fence mutation orderIds) := by
  refine (cancelEach_alone held underWay).resolve ?_
  rintro ⟨results, stopped⟩ written ⟨⟨calls, group, sent⟩, frozen, unfrozen⟩
  rw [fresh, List.nil_append] at sent
  cases stopped with
  | true => exact .inr ⟨true, frozen rfl, sent ▸ group⟩
  | false =>
      refine (confirm_settles (reconcileSymbolStateForBatch_alone clear) (unfrozen rfl)).resolve ?_
      rintro _ last ⟨stands, same⟩
      exact .inr ⟨false, stands, same.trans sent ▸ group⟩

/-- From the first reconciliation of a group to its marker. -/
theorem prepareGroup_alone [Unicode] (named : clientId ≠ "")
    (held : (world.cells symbol).fence = some fence) :
    Meets (Machine.solo (answering readings) i) (fun outcome last =>
      brokerCalls last.history = brokerCalls world.history ∧
      (last.cells symbol).fence = some fence ∧
      ∀ mutation, outcome = .ok mutation → UnderWay symbol clientId mutation last) world
      (prepareGroup settings clientId symbol fence) := by
  have uses : (prepareGroup settings clientId symbol fence : Route Raw PyError String).Uses
      (fun command => command.unsent ∧ command.holdsFence) := by
    refine Uses.bind (uses_executeAlpacaProviderCall ⟨trivial, trivial⟩ ⟨trivial, trivial⟩
      ⟨trivial, trivial⟩
        (uses_reconcile ⟨trivial, trivial⟩ ⟨trivial, trivial⟩ ⟨trivial, trivial⟩
        ⟨trivial, trivial⟩)) fun _ => ?_
    refine Uses.bind (uses_authorizeSubmission ⟨trivial, trivial⟩ ⟨trivial, trivial⟩
      (fun _ => ⟨trivial, trivial⟩) (fun _ => ⟨trivial, trivial⟩) fun _ =>
        ⟨trivial, trivial⟩)
      fun _ => ?_
    exact Uses.bind (uses_renewFence ⟨trivial, trivial⟩) fun _ =>
      uses_beginMutation ⟨trivial, trivial⟩ ⟨trivial, trivial⟩ fun _ => ⟨trivial, trivial⟩
  have marks : Meets (Machine.solo (answering readings) i) (fun outcome last => ∀ mutation,
      outcome = .ok mutation → UnderWay symbol clientId mutation last) world
      (prepareGroup settings clientId symbol fence) :=
    Meets.bind alone_meets (fun _ _ _ => authorized_underWay named) fun _ _ _ => nofun
  refine ((uses_unsent (uses.mono fun _ allowed => allowed.1)).and
    ((uses_holdsFence symbol (uses.mono fun _ allowed => allowed.2)).and marks)).mono ?_
  rintro outcome last ⟨calls, same, marked⟩
  exact ⟨calls, same.trans held, marked⟩

/-- A group that runs alone. -/
theorem cancelOwnedOrdersForSymbol_alone [Unicode] (named : clientId ≠ "")
    (clear : readings.Clear settings clientId) (fresh : brokerCalls world.history = []) :
    Meets (Machine.solo (answering readings) i)
    (fun _ last => GroupLeft symbol clientId orderIds last)
      world (cancelOwnedOrdersForSymbol settings clientId symbol orderIds) := by
  have taken : (acquireFence symbol : Route Raw PyError String).Uses Command.unsent :=
    uses_acquireFence trivial fun _ => trivial
  refine ((uses_unsent taken).and acquireFence_alone).resolve ?_
  rintro (error | fence) middle ⟨silent, acquired⟩
  · cases error <;> exact .inl (silent.trans fresh)
  have fenced : Meets (Machine.solo (answering readings) i)
      (fun _ last => GroupLeft symbol clientId orderIds last) middle
      (fencedGroup settings clientId symbol fence orderIds) := by
    refine (prepareGroup_alone named (acquired fence rfl)).resolve ?_
    rintro (error | mutation) prepared ⟨calls, held, marked⟩
    · cases error <;> exact .inl (calls.trans (silent.trans fresh))
    · exact writeGroup_alone clear (calls.trans (silent.trans fresh)) held (marked mutation rfl)
  have released : ∀ {world : World ι Raw} {blocked : Bool},
      GroupLeft symbol clientId orderIds world → Meets (Machine.solo (answering readings) i)
        (fun _ last => GroupLeft symbol clientId orderIds last) world
        (releaseUnlessBlocked symbol fence blocked) := by
    rintro world (_ | _) left
    · refine ((uses_unsent (uses_releaseFence trivial)).and
        (uses_spares symbol (uses_releaseFence trivial))).mono ?_
      rintro outcome last ⟨calls, same⟩
      rw [GroupLeft, calls]
      exact left.imp_right fun ⟨stopped, stands, group⟩ => ⟨stopped, stands.congr same, group⟩
    · exact left
  refine fenced.resolve ?_
  rintro (⟨error, blocked⟩ | ⟨results, blocked⟩) last left
  · exact (released left).bind (fun _ _ left => left) fun _ _ left => left
  · exact (released left).bind (fun _ _ left => left) fun _ _ left => left

/-! ## A single cancellation -/

/-- What a single cancellation leaves behind, while later handlers may still freeze the claim. -/
def OneLeft (symbol clientId : String) (write : BrokerWrite) (later : Bool)
    (last : World ι Raw) : Prop :=
  brokerCalls last.history = [] ∨ ∃ reply frozen, reply ≠ .cancelled ∧
    brokerCalls last.history = [.sent write, .replied reply] ∧ Stands symbol clientId frozen last ∧
    (frozen || later) = reply.freezesOne

variable {write : BrokerWrite} {later : Bool}

omit [DecidableEq ι] [DecidableEq Raw] in
theorem OneLeft.congr (left : OneLeft symbol clientId write later world)
    (calls : brokerCalls last.history = brokerCalls world.history)
    (same : (last.cells symbol).claim = (world.cells symbol).claim) :
    OneLeft symbol clientId write later last := by
  rw [OneLeft, calls]
  exact left.imp_right fun ⟨reply, frozen, waited, sent, stands, decided⟩ =>
    ⟨reply, frozen, waited, sent, stands.congr same, decided⟩

/-- An ambiguous error freezes the claim; another one leaves it as it is. -/
theorem freezeAfterAmbiguousMutation_settles {error : HttpError}
    (stands : Stands symbol clientId frozen world) :
    Returns (Machine.solo (answering readings) i) (fun _ last =>
      Settles symbol clientId (frozen || error.ambiguous) world last) world
      (freezeAfterAmbiguousMutation symbol error) := by
  by_cases harmless : error.kind = .unappliedWriteOwnership ∨ error.statusCode < 500
  · have calm : error.ambiguous = false := by
      rcases harmless with own | low
      · simp [HttpError.ambiguous, own]
      · simp [HttpError.ambiguous, low]
    rw [freezeAfterAmbiguousMutation, if_pos harmless, calm, Bool.or_false]
    exact ⟨(), rfl, stands, rfl⟩
  · have ambiguous : error.ambiguous = true := by
      obtain ⟨foreign, high⟩ := not_or.mp harmless
      simp [HttpError.ambiguous, foreign, not_lt.mp high]
    rw [freezeAfterAmbiguousMutation, if_neg harmless, ambiguous, Bool.or_true]
    exact freezeBeforeFenceRelease_settles stands (mutationReason_ne _)

/-- The handlers around the write leave a claim and an error, which decide together. -/
def Handled (symbol clientId : String) (error : PyError) (world : World ι Raw)
    (outcome : Except WriteError String) (last : World ι Raw) : Prop :=
  ∃ frozen failure, outcome = .error failure ∧ Settles symbol clientId frozen world last ∧
    (frozen || freezesBehind failure) = freezesBehind (error, brokerWriteProvenUnapplied error)

/-- An exception that proves the write unapplied clears the marker; another one is passed on. -/
theorem clearIfUnapplied_alone {error : PyError}
    (underWay : UnderWay symbol clientId mutation world) :
    Meets (Machine.solo (answering readings) i) (Handled symbol clientId error world) world
      (if brokerWriteProvenUnapplied error then
        (tagged (do
          clearMutationAfterUnappliedWrite symbol mutation error
          pure ())).bind fun _ => raise (error, true)
      else raise (error, false) : Route Raw WriteError String) := by
  split_ifs with proven
  · have cleared : Returns (Machine.solo (answering readings) i) (fun _ last =>
        Settles symbol clientId false world last) world
        (tagged (do
          clearMutationAfterUnappliedWrite symbol mutation error
          pure () : Route Raw PyError Unit)) := by
      refine Returns.catching ?_
      exact (completeMutation_settles underWay).catching.bind fun _ _ settled => ⟨(), rfl, settled⟩
    refine cleared.bind fun _ last settled => ⟨false, _, rfl, settled, ?_⟩
    rw [proven, Bool.false_or]
  · refine ⟨false, _, rfl, ⟨underWay.stands, rfl⟩, ?_⟩
    rw [Bool.eq_false_iff.mpr proven, Bool.false_or]

/-- The handlers around the write. -/
theorem afterFailedWrite_alone {error : PyError} (running : error ≠ .cancelled)
    (underWay : UnderWay symbol clientId mutation world) :
    Meets (Machine.solo (answering readings) i) (Handled symbol clientId error world) world
      (afterFailedWrite (cancelOrderWrite clientId symbol orderId) symbol fence
        mutation error) := by
  cases error with
  | cancelled => exact absurd rfl running
  | http error =>
      have frozen : Returns (Machine.solo (answering readings) i) (fun _ last =>
          Settles symbol clientId (false || error.ambiguous) world last) world
          (tagged (do
            freezeAfterAmbiguousMutation symbol error
            pure () : Route Raw PyError Unit)) := by
        refine Returns.catching ?_
        exact (freezeAfterAmbiguousMutation_settles underWay.stands).bind fun _ _ settled =>
          ⟨(), rfl, settled⟩
      refine frozen.bind fun _ last settled => ⟨_, _, rfl, settled, ?_⟩
      exact Bool.or_self _
  | _ => exact clearIfUnapplied_alone underWay

/-- What the handlers that are still to come do about an outcome of the protected block. -/
def stillBehind : Except WriteError String → Bool
  | .ok _ => false
  | .error failure => freezesBehind failure

/-- What the handler around the gate does about an outcome of the gate. -/
def stillAtGate : Except PyError String → Bool
  | .ok _ => false
  | .error error => error.ambiguous

/-- The write, its handlers and its confirmation. -/
theorem dispatched_alone [Unicode] (clear : readings.Clear settings clientId)
    (fresh : brokerCalls world.history = []) (underWay : UnderWay symbol clientId mutation world) :
    Meets (Machine.solo (answering readings) i) (fun outcome last =>
      OneLeft symbol clientId (cancelOrderWrite clientId symbol orderId : FencedWrite Raw).write
        (stillBehind outcome) last) world
      (((dispatchWrite settings (cancelOrderWrite clientId symbol orderId)).catching
        (afterFailedWrite (cancelOrderWrite clientId symbol orderId) symbol fence mutation)).bind
          fun data => (tagged ((confirmWrite settings clientId symbol mutation).catching
            (afterFailedConfirmation (cancelOrderWrite clientId symbol orderId) symbol))).bind
              fun _ => .finish (.ok data)) := by
  let w : FencedWrite Raw := cancelOrderWrite clientId symbol orderId
  have answered : Meets (Machine.solo (answering readings) i) (fun outcome last =>
      ∃ reply, reply ≠ .cancelled ∧ brokerCalls last.history = [.sent w.write, .replied reply] ∧
        ((∃ data, outcome = .ok data) ∧ reply.freezesOne = false ∧
            UnderWay symbol clientId mutation last ∨
          ∃ frozen failure, outcome = .error failure ∧ Stands symbol clientId frozen last ∧
            (frozen || freezesBehind failure) = reply.freezesOne)) world
      ((dispatchWrite settings w).catching (afterFailedWrite w symbol fence mutation)) := by
    refine Meets.resolve (write_alone : Meets _ _ _ (dispatchWrite settings w)) ?_
    rintro outcome sent ⟨cells, reply, waited, ended, calls⟩
    rw [fresh, List.nil_append] at calls
    have still : UnderWay symbol clientId mutation sent := underWay.congr cells
    have decided : reply.freezesOne = freezesAfterWrite outcome := by rw [ended]; rfl
    cases outcome with
    | ok data => exact ⟨reply, waited, calls, .inl ⟨⟨data, rfl⟩, decided, still⟩⟩
    | error error =>
        have running : error ≠ .cancelled := by
          rintro rfl
          exact ends_ne_cancelled waited ended.symm
        refine (afterFailedWrite_alone running still).mono ?_
        rintro _ last ⟨frozen, failure, rfl, ⟨stands, same⟩, together⟩
        exact ⟨reply, waited, same.trans calls, .inr ⟨frozen, failure, rfl, stands,
          together.trans decided.symm⟩⟩
  refine answered.bind ?_ ?_
  · rintro data confirmed ⟨reply, waited, calls, ⟨-, passes, still⟩ | ⟨_, _, never, -⟩⟩
    · refine (confirm_settles (reconcile_alone clear) still).catching.catching.bind ?_
      rintro _ last ⟨stands, same⟩
      exact .inr ⟨reply, false, waited, same.trans calls, stands, passes.symm⟩
    · cases never
  · rintro failure last ⟨reply, waited, calls, ⟨⟨_, never⟩, -⟩ |
      ⟨frozen, _, ⟨⟩, stands, decided⟩⟩
    · cases never
    · exact .inr ⟨reply, frozen, waited, calls, stands, decided⟩

/-- A computation that sends nothing, when nothing was sent before. -/
theorem uses_nothingSent {α ε : Type} {body : Route Raw ε α} {later : Except ε α → Bool}
    (silent : brokerCalls world.history = []) (uses : body.Uses Command.unsent) :
    Meets (Machine.solo (answering readings) i) (fun outcome last =>
      OneLeft symbol clientId write (later outcome) last) world body :=
  (uses_unsent uses).mono fun _ _ same => .inl (same.trans silent)

/-- Nothing was sent, and a marker that was set is in place. -/
def MarkerSet {ε : Type} (symbol clientId : String) (outcome : Except ε String)
    (last : World ι Raw) :
    Prop :=
  brokerCalls last.history = [] ∧ ∀ mutation, outcome = .ok mutation →
    UnderWay symbol clientId mutation last

theorem raising_markerSet {ε ε' : Type} {body : Route Raw ε String} {replace : ε → ε'}
    (meets : Meets (Machine.solo (answering readings) i) (MarkerSet symbol clientId) world body) :
    Meets (Machine.solo (answering readings) i) (MarkerSet symbol clientId) world
      (body.catching fun error => raise (replace error)) :=
  meets.catching (fun mutation last kept => ⟨kept.1, fun same eq =>
    kept.2 same (by rw [Except.ok.inj eq])⟩) fun error last kept => ⟨kept.1, nofun⟩

/-- The protected block. -/
theorem guardedWrite_alone [Unicode] (named : clientId ≠ "")
    (clear : readings.Clear settings clientId) (fresh : brokerCalls world.history = []) :
    Meets (Machine.solo (answering readings) i) (fun outcome last =>
      OneLeft symbol clientId (cancelOrderWrite clientId symbol orderId : FencedWrite Raw).write
        (stillBehind outcome) last) world
      (guardedWrite settings (cancelOrderWrite clientId symbol orderId) clientId symbol fence) := by
  let w : FencedWrite Raw := cancelOrderWrite clientId symbol orderId
  have uses : (prepareWrite settings w symbol fence).Uses Command.unsent := by
    refine Uses.bind (uses_reconcile trivial trivial trivial trivial) fun _ => ?_
    refine Uses.bind (uses_authorizeSubmission trivial trivial (fun _ => trivial) (fun _ => trivial)
      fun _ => trivial) fun _ => ?_
    exact Uses.bind (uses_renewFence trivial) fun _ =>
      uses_beginMutation trivial trivial fun _ => trivial
  have marks : Meets (Machine.solo (answering readings) i) (fun outcome last => ∀ mutation,
      outcome = .ok mutation → UnderWay symbol clientId mutation last) world
      (prepareWrite settings w symbol fence) :=
    Meets.bind alone_meets (fun _ _ _ => authorized_underWay named) fun _ _ _ => nofun
  have prepared : Meets (Machine.solo (answering readings) i) (MarkerSet symbol clientId) world
      (prepareWrite settings w symbol fence) :=
    ((uses_unsent uses).and marks).mono fun _ _ kept => ⟨kept.1.trans fresh, kept.2⟩
  refine (raising_markerSet (raising_markerSet prepared)).bind (fun mutation last kept => ?_)
    fun failure last kept => .inl kept.1
  exact dispatched_alone clear kept.1 (kept.2 mutation rfl)

/-- A failure that no other handler knows freezes the claim, unless the write
was proven unapplied. -/
theorem freezeUnclassified_alone {error : PyError} {unapplied : Bool}
    (left : OneLeft symbol clientId write (!unapplied || (gateError error).ambiguous) world) :
    Meets (Machine.solo (answering readings) i) (fun outcome last =>
      OneLeft symbol clientId write (stillAtGate (outcome.mapError gateError)) last) world
      (freezeUnclassified symbol error unapplied) := by
  rcases left with silent | ⟨reply, frozen, waited, calls, stands, decided⟩
  · exact uses_nothingSent silent (uses_freezeUnclassified trivial fun _ _ => trivial)
  · cases unapplied with
    | true => exact .inr ⟨reply, frozen, waited, calls, stands, decided⟩
    | false =>
        refine (freezeBeforeFenceRelease_settles stands (by decide)).bind
          fun _ last ⟨stands, same⟩ => ?_
        refine .inr ⟨reply, true, waited, same.trans calls, stands, ?_⟩
        rw [← decided, Bool.true_or]
        simp

theorem afterFailedBlock_alone {failure : WriteError}
    (left : OneLeft symbol clientId write (freezesBehind failure) world) :
    Meets (Machine.solo (answering readings) i) (fun outcome last =>
      OneLeft symbol clientId write (stillAtGate (outcome.mapError gateError)) last) world
      (afterFailedBlock (cancelOrderWrite clientId symbol orderId) symbol failure) := by
  obtain ⟨error, unapplied⟩ := failure
  cases error with
  | http error => exact left
  | cancelled => exact left
  | value message => exact freezeUnclassified_alone left
  | _ => exact freezeUnclassified_alone left

/-- The protocol behind the gate. -/
theorem fencedCall_alone [Unicode] (named : clientId ≠ "")
    (clear : readings.Clear settings clientId) (fresh : brokerCalls world.history = []) :
    Meets (Machine.solo (answering readings) i) (fun outcome last =>
      OneLeft symbol clientId (cancelOrderWrite clientId symbol orderId : FencedWrite Raw).write
        (stillAtGate (outcome.mapError gateError)) last) world
      (fencedCall settings (cancelOrderWrite clientId symbol orderId) clientId symbol) := by
  let w : FencedWrite Raw := cancelOrderWrite clientId symbol orderId
  have taken : (acquireFence symbol : Route Raw PyError String).Uses Command.unsent :=
    uses_acquireFence trivial fun _ => trivial
  have fenced : Meets (Machine.solo (answering readings) i) (fun _ last =>
      brokerCalls last.history = []) world
      ((acquireFence symbol : Route Raw PyError String).catching fun error =>
        raise (rejectOwnership false [] error)) :=
    Meets.catching (uses_unsent taken) (fun _ _ same => same.trans fresh)
      fun _ _ same => same.trans fresh
  refine fenced.bind (fun fence middle silent => ?_) fun _ _ silent => .inl silent
  have handled : Meets (Machine.solo (answering readings) i) (fun outcome last =>
      OneLeft symbol clientId w.write (stillAtGate (outcome.mapError gateError)) last) middle
      ((guardedWrite settings w clientId symbol fence).catching (afterFailedBlock w symbol)) :=
    Meets.catching (guardedWrite_alone named clear silent) (fun _ _ left => left)
      fun _ _ left => afterFailedBlock_alone left
  refine handled.ensuring fun outcome last left => ?_
  have release : Meets (Machine.solo (answering readings) i) (fun released after =>
      released = .ok () ∧
        OneLeft symbol clientId w.write (stillAtGate (outcome.mapError gateError)) after) last
      (releaseFence symbol fence : Route Raw PyError Unit) := by
    refine ((releaseFence_alone (serving_answering last)).and
      ((uses_unsent (uses_releaseFence trivial)).and
      (uses_spares symbol (uses_releaseFence trivial)))).mono ?_
    rintro released after ⟨ok, calls, same⟩
    exact ⟨ok, left.congr calls same⟩
  refine release.mono ?_
  rintro _ after ⟨rfl, left⟩
  exact left

/-- The route behind its preamble. -/
theorem fencedRoute_alone [Unicode] (named : clientId ≠ "")
    (clear : readings.Clear settings clientId) (fresh : brokerCalls world.history = []) :
    Meets (Machine.solo (answering readings) i) (fun _ last =>
      OneLeft symbol clientId (cancelOrderWrite clientId symbol orderId :
        FencedWrite Raw).write false
        last) world
      (fencedRoute settings (cancelOrderWrite clientId symbol orderId) clientId symbol) := by
  have admitted : Meets (Machine.solo (answering readings) i) (fun outcome last =>
      OneLeft symbol clientId (cancelOrderWrite clientId symbol orderId : FencedWrite Raw).write
        (stillAtGate outcome) last) world
      (executeAlpacaProviderCall
        (fencedCall settings (cancelOrderWrite clientId symbol orderId) clientId symbol)) :=
    executeAlpacaProviderCall_alone fun middle unmoved =>
      fencedCall_alone named clear (unmoved.calls.trans fresh)
  refine admitted.catching (fun _ _ left => left) fun error last left => ?_
  cases error with
  | http error =>
      rcases left with silent | ⟨reply, frozen, waited, calls, stands, decided⟩
      · exact uses_nothingSent silent (uses_afterFailedGate trivial fun _ _ => trivial)
      · refine (freezeAfterAmbiguousMutation_settles stands).bind fun _ after ⟨stands, same⟩ => ?_
        exact .inr ⟨reply, _, waited, same.trans calls, stands, (Bool.or_false _).trans decided⟩
  | _ => exact left

/-- A single cancellation that runs alone. -/
theorem cancelOrder_alone [Unicode] (named : clientId ≠ "")
    (clear : readings.Clear settings clientId) (fresh : brokerCalls world.history = []) :
    Meets (Machine.solo (answering readings) i) (fun _ last => ∃ symbol,
      OneLeft symbol clientId (cancelOrderWrite clientId symbol orderId :
        FencedWrite Raw).write false
        last) world
      (cancelOrder settings clientId orderId) := by
  change Meets _ _ _ ((WriteRequest.cancel orderId).serve settings clientId)
  refine WriteRequest.serve_meets (A := fun world : World ι Raw => brokerCalls world.history = [])
    (B := fun world : World ι Raw => brokerCalls world.history = []) ?_ ?_ ?_ ?_ ?_ fresh
  · intro command world preliminary _ silent
    have unsent : command.unsent := by
      cases command with
      | submit write => exact preliminary.elim
      | awaitReply write => exact preliminary.elim
      | _ => trivial
    exact ⟨trivial, fun _ _ step => (calls_after step unsent).trans silent⟩
  · refine fun world silent => ⟨trivial, fun found next step => ?_⟩
    have still := (calls_after step trivial).trans silent
    cases found <;> exact still
  · exact fun world silent => ⟨trivial, fun _ _ step => (calls_after step trivial).trans silent⟩
  · exact fun error world silent => ⟨"", .inl (silent.elim id id)⟩
  · rintro symbol w world ⟨⟩ silent
    refine (fencedRoute_alone named clear silent).mono fun outcome last left => ?_
    cases outcome with
    | ok data => exact fun _ => ⟨symbol, left⟩
    | error error => exact ⟨symbol, left⟩

/-! ## The refinement -/

/-- The stored claim is frozen. -/
def Cell.isFrozen (cell : Cell Raw) : Bool :=
  cell.stored.any fun claim => Claim.truthy claim.frozenReason

omit [DecidableEq ι] [DecidableEq Raw] in
theorem Stands.isFrozen (stands : Stands symbol clientId frozen world) :
    (world.cells symbol).isFrozen = frozen := by
  obtain ⟨claim, loaded, -, same⟩ := stands
  rw [Cell.isFrozen, loaded.stored]
  exact same

/-- A single cancellation ran alone, got this reply to its write on the symbol, and ended here. -/
def CancelledAlone [Unicode] (settings : Settings) (clientId symbol : String)
    (reply : SdkReply String) (last : World ι Raw) : Prop :=
  ∃ (readings : Readings) (i : ι) (orderId : String) (world : World ι Raw)
    (outcome : Except PyError Answer), readings.Clear settings clientId ∧ world.history = [] ∧
      Ends (Machine.solo (answering readings) i) world
        (cancelOrder settings clientId orderId) outcome
        last ∧
      brokerCalls last.history =
        [.sent ⟨"cancel_order", symbol, some orderId, none⟩, .replied reply]

theorem CancelledAlone.isFrozen [Unicode] {reply : SdkReply String} (named : clientId ≠ "")
    (alone : CancelledAlone settings clientId symbol reply last) :
    reply ≠ .cancelled ∧ (last.cells symbol).isFrozen = reply.freezesOne := by
  obtain ⟨readings, i, orderId, world, outcome, clear, fresh, ends, calls⟩ := alone
  have silent : brokerCalls world.history = [] := by rw [fresh]; rfl
  obtain ⟨target, never | ⟨found, frozen, waited, sent, stands, decided⟩⟩ :=
    ends.meets (cancelOrder_alone named clear silent)
  · rw [calls] at never
    cases never
  · rw [calls] at sent
    obtain ⟨rfl, rfl⟩ : symbol = target ∧ reply = found := by
      simpa [cancelOrderWrite] using sent
    exact ⟨waited, stands.isFrozen.trans ((Bool.or_false _).symm.trans decided)⟩

/-- Nothing follows a reply of this kind. -/
def EndsAt (kind : SdkReply String → Prop) : List BrokerCall → Prop
  | [] => True
  | .sent _ :: later => EndsAt kind later
  | .replied reply :: later => (kind reply → later = []) ∧ EndsAt kind later

/-- A group refines the single cancellations with its replies: its claim is frozen exactly when one
of them froze the claim, and nothing is sent after a reply with which one did. -/
structure RefinesSingle (symbol : String) (alone : SdkReply String → World ι Raw)
    (last : World ι Raw) : Prop where
  frozen : (last.cells symbol).isFrozen = true ↔
    ∃ reply, .replied reply ∈ brokerCalls last.history ∧
      ((alone reply).cells symbol).isFrozen = true
  stops : EndsAt (fun reply => ((alone reply).cells symbol).isFrozen = true)
    (brokerCalls last.history)

omit [DecidableEq ι] [DecidableEq Raw] [ClaimText Raw] in
/-- A group agrees with another classification of its replies exactly when each of
them is classified alike. -/
theorem GroupCalls.agrees_iff {kind : SdkReply String → Prop} {stopped : Bool}
    {calls : List BrokerCall} (group : GroupCalls symbol orderIds stopped calls) :
    (stopped = true ↔ ∃ reply, .replied reply ∈ calls ∧ kind reply) ∧ EndsAt kind calls ↔
      ∀ reply, .replied reply ∈ calls → (reply.freezesGroup = true ↔ kind reply) := by
  induction group with
  | done => simp [EndsAt]
  | stopped waited freezes => simp [EndsAt, freezes]
  | @next orderId rest reply stopped calls waited passes others ih =>
      have skips (passed : ¬kind reply) : (∃ other, .replied other ∈ calls ∧ kind other) ↔
          ∃ other, .replied other ∈ .sent (groupCall symbol orderId) :: .replied reply :: calls ∧
            kind other := by
        simp [or_and_right, exists_or, passed]
      constructor
      · rintro ⟨frozen, ends, stops⟩
        have passed : ¬kind reply := fun froze => by
          obtain rfl := ends froze
          have stopped := frozen.mpr ⟨reply, by simp, froze⟩
          cases others
          cases stopped
        have alike := ih.mp ⟨frozen.trans (skips passed).symm, stops⟩
        rintro other (_ | ⟨_, _ | ⟨_, mem⟩⟩)
        · exact iff_of_false (by simp [passes]) passed
        · exact alike other mem
      · intro alike
        have passed : ¬kind reply := fun froze => by
          have freezes := (alike reply (by simp)).mpr froze
          rw [passes] at freezes
          cases freezes
        obtain ⟨frozen, stops⟩ := ih.mpr fun other mem => alike other (by simp [mem])
        exact ⟨frozen.trans (skips passed), fun froze => absurd froze passed, stops⟩

/-- A group refines single cancellations exactly when both routes classify its replies alike. -/
theorem refines_single [Unicode] (named : clientId ≠ "") (clear : readings.Clear settings clientId)
    {outcome : Except PyError (List OrderResult)} (fresh : world.history = [])
    (group : Ends (Machine.solo (answering readings) i) world
      (cancelOwnedOrdersForSymbol settings clientId symbol orderIds) outcome last)
    (wrote : brokerCalls last.history ≠ []) {alone : SdkReply String → World ι Raw}
    (singles : ∀ reply, .replied reply ∈ brokerCalls last.history →
      CancelledAlone settings clientId symbol reply (alone reply)) :
    RefinesSingle symbol alone last ↔
      ∀ reply, .replied reply ∈ brokerCalls last.history → reply.classifiedAlike = true := by
  have silent : brokerCalls world.history = [] := by rw [fresh]; rfl
  obtain ⟨stopped, stands, calls⟩ :=
    (group.meets (cancelOwnedOrdersForSymbol_alone named clear silent)).resolve_left wrote
  let kind : SdkReply String → Prop := fun reply => ((alone reply).cells symbol).isFrozen = true
  calc RefinesSingle symbol alone last
      ↔ (stopped = true ↔ ∃ reply, .replied reply ∈ brokerCalls last.history ∧ kind reply) ∧
          EndsAt kind (brokerCalls last.history) := by
        rw [← stands.isFrozen]
        exact ⟨fun refines => ⟨refines.frozen, refines.stops⟩, fun both => ⟨both.1, both.2⟩⟩
    _ ↔ ∀ reply, .replied reply ∈ brokerCalls last.history →
      (reply.freezesGroup = true ↔ kind reply) :=
        calls.agrees_iff
    _ ↔ ∀ reply, .replied reply ∈ brokerCalls last.history → reply.classifiedAlike = true := by
        refine forall₂_congr fun reply mem => ?_
        obtain ⟨waited, froze⟩ := (singles reply mem).isFrozen named
        rw [classifiedAlike_iff waited, ← froze]
        exact Bool.eq_iff_iff.symm

end Runs

/-! ## A refused cancellation -/

/-- The broker lists no orders and no positions. -/
def nothingOpen : Readings := ⟨fun _ orders => orders.isEmpty, fun positions => positions.isEmpty⟩

theorem nothingOpen_clear [Unicode] {settings : Settings} {clientId : String} :
    nothingOpen.Clear settings clientId := by
  intro symbol today orders positions unlisted unheld
  obtain rfl := List.isEmpty_iff.mp unlisted
  obtain rfl := List.isEmpty_iff.mp unheld
  exact ⟨⟨false, ∅, true⟩, rfl, rfl, Finset.empty_subset _⟩

/-- Every write ends in this reply. -/
def replying (reply : SdkReply String) (digit : Char) : (command : Command PlainText) →
    command.Outcome
  | .getOrder _ => .returned ⟨some "AAPL", some "c-atlas-1"⟩
  | .awaitReply _ => reply
  | command => calmly (Uuid.repeating digit) [] command

/-- The choices of a run in which every write ends in this reply. -/
def replies (reply : SdkReply String) : Choices :=
  List.replicate 16 (replying reply '1') ++ List.replicate 32 (replying reply '2')

/-- `DELETE /orders` of `atlas` with two orders on `AAPL`. -/
def atlasCancelsAll : Route PlainText PyError (List OrderResult) :=
  let _ := asciiUnicode
  cancelOwnedOrdersForSymbol ⟨100, ["atlas"]⟩ "atlas" "AAPL" ["first", "second"]

/-- `DELETE /orders/first` of `atlas`. -/
def atlasCancels : Route PlainText PyError Answer :=
  let _ := asciiUnicode
  cancelOrder ⟨100, ["atlas"]⟩ "atlas" "first"

/-- Both routes, alone, with the same reply to every write. -/
def bothCancel (reply : SdkReply String) :
    Option (World Unit PlainText × World Unit PlainText) := do
  let group ← playAlone (answering nothingOpen) () (replies reply) atlasCancelsAll atlasAlone
  let single ← playAlone (answering nothingOpen) () (replies reply) atlasCancels atlasAlone
  some (group.2, single.2)

theorem bothCancel_ends {reply : SdkReply String} {group single : World Unit PlainText}
    (played : bothCancel reply = some (group, single)) :
    (∃ outcome,
      Ends (Machine.solo (answering nothingOpen) ()) atlasAlone atlasCancelsAll outcome group) ∧
    ∃ outcome,
      Ends (Machine.solo (answering nothingOpen) ()) atlasAlone atlasCancels outcome single := by
  obtain ⟨⟨first, last⟩, ran, rest⟩ := Option.bind_eq_some_iff.mp played
  obtain ⟨⟨second, end_⟩, ranToo, same⟩ := Option.bind_eq_some_iff.mp rest
  obtain ⟨rfl, rfl⟩ := Prod.mk.inj (Option.some.inj same)
  exact ⟨⟨first, playAlone_ends ran⟩, second, playAlone_ends ranToo⟩

set_option maxRecDepth 4000 in
/-- A timeout stops a group and freezes both claims. -/
theorem refines_single_timeout : ∃ group single, bothCancel .timedOut = some (group, single) ∧
    (RefinesSingle "AAPL" (fun _ => single) group ↔
      ∀ reply, .replied reply ∈ brokerCalls group.history → reply.classifiedAlike = true) := by
  have played : (bothCancel .timedOut).map (fun ends =>
      (brokerCalls ends.1.history, brokerCalls ends.2.history)) =
      some ([.sent (groupCall "AAPL" "first"), .replied .timedOut],
        [.sent ⟨"cancel_order", "AAPL", some "first", none⟩, .replied .timedOut]) := by decide
  obtain ⟨⟨group, single⟩, ran, sent⟩ := Option.map_eq_some_iff.mp played
  obtain ⟨groupSent, singleSent⟩ := Prod.mk.inj sent
  obtain ⟨⟨outcome, groupEnds⟩, answer, singleEnds⟩ := bothCancel_ends ran
  let _ := asciiUnicode
  have alone : CancelledAlone ⟨100, ["atlas"]⟩ "atlas" "AAPL" .timedOut single :=
    ⟨nothingOpen, (), "first", atlasAlone, answer, nothingOpen_clear, rfl, singleEnds, singleSent⟩
  refine ⟨group, single, ran, refines_single (by decide) nothingOpen_clear rfl groupEnds ?_ ?_⟩
  · rw [groupSent]
    exact List.cons_ne_nil _ _
  · intro reply mem
    rw [groupSent] at mem
    obtain rfl : reply = .timedOut := by simpa using mem
    exact alone

set_option maxRecDepth 4000 in
/-- A refusal with 403 freezes the claim of a single cancellation; a group goes on and
leaves its claim unfrozen. -/
theorem passes_refusal : ∃ group single,
    (∃ outcome,
      Ends (Machine.solo (answering nothingOpen) ()) atlasAlone atlasCancelsAll outcome group) ∧
    (∃ outcome,
      Ends (Machine.solo (answering nothingOpen) ()) atlasAlone atlasCancels outcome single) ∧
    brokerCalls group.history = [.sent (groupCall "AAPL" "first"), .replied (.raised refusal),
      .sent (groupCall "AAPL" "second"), .replied (.raised refusal)] ∧
    brokerCalls single.history =
      [.sent ⟨"cancel_order", "AAPL", some "first", none⟩, .replied (.raised refusal)] ∧
    ¬RefinesSingle "AAPL" (fun _ => single) group := by
  have played : (bothCancel (.raised refusal)).map (fun ends =>
      (brokerCalls ends.1.history, brokerCalls ends.2.history,
        (ends.2.cells "AAPL").isFrozen)) =
      some ([.sent (groupCall "AAPL" "first"), .replied (.raised refusal),
          .sent (groupCall "AAPL" "second"), .replied (.raised refusal)],
        [.sent ⟨"cancel_order", "AAPL", some "first", none⟩, .replied (.raised refusal)],
        true) := by
    decide
  obtain ⟨⟨group, single⟩, ran, facts⟩ := Option.map_eq_some_iff.mp played
  obtain ⟨groupSent, facts⟩ := Prod.mk.inj facts
  obtain ⟨singleSent, frozen⟩ := Prod.mk.inj facts
  obtain ⟨groupEnds, singleEnds⟩ := bothCancel_ends ran
  refine ⟨group, single, groupEnds, singleEnds, groupSent, singleSent, fun refines => ?_⟩
  have stops := refines.stops
  rw [groupSent] at stops
  exact absurd (stops.1 frozen) (List.cons_ne_nil _ _)

end Trading
end DataGateway
