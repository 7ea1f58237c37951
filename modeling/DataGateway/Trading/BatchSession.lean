import DataGateway.Trading.BatchPlan
import DataGateway.Trading.Session
import DataGateway.Trading.Uncancelled

/-!
# What a task of a batch does

A task of a batch writes down its commands with their replies.  Every cancel it hands to
the executor comes directly after a renewal of its fence that the store confirmed, after
the marker was set, and for an order id it has not submitted before; and what it reports is
what its calls returned.
-/

namespace DataGateway
namespace Trading

open Coroutine

variable {Raw : Type}

/-! ## The log of a task -/

/-- A command with its reply. -/
abbrev LogEntry (Raw : Type) := (command : Command Raw) × command.Reply

/-- The commands of a task with their replies, the newest first. -/
abbrev TaskLog (Raw : Type) := List (LogEntry Raw)

/-- A store command. -/
def Command.isStore : Command Raw → Bool
  | .store _ _ => true
  | _ => false

/-- The order id that is handed to the executor. -/
def LogEntry.submitted : LogEntry Raw → Option String
  | ⟨.submit write, _⟩ => write.orderId
  | _ => none

/-- The order id whose call returned. -/
def LogEntry.acknowledged : LogEntry Raw → Option String
  | ⟨.awaitReply write, .returned _⟩ => write.orderId
  | _ => none

/-- The order ids that were handed to the executor. -/
def submissions (log : TaskLog Raw) : List String := log.filterMap LogEntry.submitted

/-- The order ids whose calls returned. -/
def returns (log : TaskLog Raw) : List String := log.filterMap LogEntry.acknowledged

/-- The task has set its marker on the claim of the symbol. -/
def MarkWritten (symbol : String) (log : TaskLog Raw) : Prop :=
  ∃ token, ⟨.store symbol (.beginMutation token), .served true⟩ ∈ log

/-- The task took the fence of the symbol, and its last store command was a renewal of that fence
which the store confirmed. -/
def Renewed (symbol : String) (log : TaskLog Raw) : Prop :=
  ∃ fence, ⟨.store symbol (.acquireFence fence), .served true⟩ ∈ log ∧
    log.find? (fun entry => entry.1.isStore) =
      some ⟨.store symbol (.renewFence fence), .served true⟩

/-- The cancel of one order. -/
def cancelWrite (symbol orderId : String) : BrokerWrite :=
  ⟨"cancel_all_orders.cancel", symbol, some orderId, none⟩

/-- The ids of the orders that are reported as cancelled. -/
def cancelledIds (results : List OrderResult) : List String :=
  (results.filter OrderResult.cancelled).filterMap OrderResult.orderId

/-- The task reports every order of its group once, and as cancelled those whose calls returned. -/
structure Reported (orderIds : List String) (log : TaskLog Raw) (results : List OrderResult) :
    Prop where
  /-- Every order of the group has one result. -/
  ids : results.filterMap OrderResult.orderId = orderIds
  /-- A cancelled result names its order. -/
  named : ∀ result ∈ results, result.cancelled = true → result.orderId ≠ none
  /-- The cancelled orders are those whose calls returned. -/
  cancelled : returns log = (cancelledIds results).reverse

section Contract

variable [ClaimText Raw]

/-- What the replies have told a task. -/
def Session.ofLog : TaskLog Raw → Session
  | [] => .start
  | entry :: earlier => (ofLog earlier).next entry.1 entry.2

/-- What a task of a batch promises. -/
def batchTerms (clientId symbol : String) (orderIds : List String) :
    Terms (@Command.Reply Raw) (TaskLog Raw) where
  guarantee
    | .submit write, log => (∃ orderId ∈ orderIds, write = cancelWrite symbol orderId ∧
        orderId ∉ submissions log) ∧ Renewed symbol log ∧ MarkWritten symbol log
    | command, log => (Session.ofLog log).may (.client clientId) command
  rely command _ reply := command.Completes reply

/-- The contract of a task of a batch. -/
abbrev batchContract (clientId symbol : String) (orderIds : List String) :
    Contract (@Command.Reply Raw) (TaskLog Raw) :=
  .tracking (fun log command reply => ⟨command, reply⟩ :: log) (batchTerms clientId symbol orderIds)

/-- A fence that a task knows was taken by it. -/
theorem acquired_of_fence {log : TaskLog Raw} {symbol fence : String}
    (held : (Session.ofLog log).fence = some (symbol, fence)) :
    ⟨.store symbol (.acquireFence fence), .served true⟩ ∈ log := by
  induction log with
  | nil => cases held
  | cons entry earlier ih =>
      obtain ⟨command, reply⟩ := entry
      by_cases takes : ∃ target token, command = .store target (.acquireFence token)
      · obtain ⟨target, token, rfl⟩ := takes
        cases reply with
        | served acquired =>
            cases acquired with
            | true =>
                obtain ⟨rfl, rfl⟩ := Prod.mk.inj (Option.some.inj held)
                exact .head _
            | false => exact .tail _ (ih held)
        | failed => exact .tail _ (ih held)
        | cancelled => exact .tail _ (ih held)
      · refine .tail _ (ih ?_)
        rwa [Session.ofLog, Session.next_fence fun target token same => takes ⟨target, token, same⟩]
          at held

/-! ## Steps that hand nothing to the executor -/

variable {clientId symbol fence : String} {orderIds : List String} {log : TaskLog Raw} {ε α : Type}

/-- The command neither hands an order to the executor nor waits for one. -/
def Command.Quiet : Command Raw → Prop
  | .submit _ | .awaitReply _ => False
  | _ => True

/-- Nothing was handed to the executor since, and nothing came back. -/
structure Still (before after : TaskLog Raw) : Prop where
  submissions : submissions after = submissions before
  returns : returns after = returns before
  suffix : before <:+ after

omit [ClaimText Raw] in
theorem Still.refl : Still log log := ⟨rfl, rfl, List.suffix_rfl⟩

omit [ClaimText Raw] in
theorem Still.cons {before : TaskLog Raw} (still : Still before log) (command : Command Raw)
    (reply : command.Reply) (quiet : command.Quiet) : Still before (⟨command, reply⟩ :: log) := by
  refine ⟨?_, ?_, still.suffix.trans (List.suffix_cons _ _)⟩
  · rw [← still.submissions]
    cases command with
    | submit write => exact quiet.elim
    | _ => rfl
  · rw [← still.returns]
    cases command with
    | awaitReply write => exact quiet.elim
    | _ => rfl

omit [ClaimText Raw] in
theorem Still.trans {before middle : TaskLog Raw} (first : Still before middle)
    (second : Still middle log) : Still before log :=
  ⟨second.submissions.trans first.submissions, second.returns.trans first.returns,
    first.suffix.trans second.suffix⟩

/-- What the session contract tells of a quiet step that nobody cancels. -/
theorem quiet_meets {post : Except ε α → Session → Prop} {ends : Except ε α → Unit → Prop}
    {body : Route Raw ε α} (uses : body.Uses Command.Quiet)
    (meets : Meets (sessionOf (.client clientId)) post (Session.ofLog log) body)
    (completes : Meets completing ends () body) :
    Meets (batchContract clientId symbol orderIds)
      (fun outcome last => (post outcome (Session.ofLog last) ∧ Still log last) ∧ ends outcome ())
      log body := by
  refine Meets.both (fun _ => ()) (uses.through Session.ofLog meets Still.refl
    fun command current quiet still permitted => ?_) completes fun _ _ _ _ moved => moved.2
  refine ⟨?_, ?_⟩
  · cases command with
    | submit write => exact quiet.elim
    | _ => exact permitted
  · rintro reply _ ⟨rfl, -⟩
    exact ⟨rfl, still.cons command reply quiet⟩

/-- The task holds its fence and has set its marker. -/
structure Held (symbol fence : String) (log : TaskLog Raw) : Prop where
  fence : (Session.ofLog log).fence = some (symbol, fence)
  marked : MarkWritten symbol log

omit [ClaimText Raw] in
theorem MarkWritten.mono {later : TaskLog Raw} (marked : MarkWritten symbol log)
    (suffix : log <:+ later) :
    MarkWritten symbol later :=
  marked.imp fun _ mem => suffix.subset mem

/-- A step that takes no fence keeps both. -/
theorem Held.cons (held : Held symbol fence log) (command : Command Raw) (reply : command.Reply)
    (other : ∀ target token, command ≠ .store target (.acquireFence token)) :
    Held symbol fence (⟨command, reply⟩ :: log) :=
  ⟨(Session.next_fence other).trans held.fence, held.marked.mono (List.suffix_cons _ _)⟩

/-- Commands for which the fence is enough, and which hand nothing to the executor. -/
def Steady (clientId symbol fence : String) (command : Command Raw) : Prop :=
  Routine (.client clientId) symbol fence command ∧ command.Quiet

/-- A steady part of the task. -/
theorem steady_meets {ends : Except ε α → Unit → Prop} {body : Route Raw ε α}
    (uses : body.Uses (Steady clientId symbol fence)) (held : Held symbol fence log)
    (completes : Meets completing ends () body) :
    Meets (batchContract clientId symbol orderIds)
      (fun outcome last => (Held symbol fence last ∧ Still log last) ∧ ends outcome ())
        log body := by
  have routine := routine_meets (uses.mono fun _ steady => steady.1) held.fence
  refine (quiet_meets (uses.mono fun _ steady => steady.2) routine completes).mono ?_
  rintro outcome last ⟨⟨taken, still⟩, ended⟩
  exact ⟨⟨⟨taken, held.marked.mono still.suffix⟩, still⟩, ended⟩

end Contract

/-! ## Up to the marker -/

section Programs

variable [ClaimText Raw] [Unicode] {settings : Settings} {clientId symbol fence : String}
  {orderIds : List String} {log : TaskLog Raw}

omit [ClaimText Raw] in
theorem uses_reconcileForBatch {allowed : Command Raw → Prop} (provider : allowed .provider)
    (rate : allowed .rateLimit) (permit : allowed .permit) (full : allowed .inflightFull)
    (orders : allowed (.getOrders symbol)) (positions : allowed .getPositions)
    (today : allowed .today) : (reconcileSymbolStateForBatch settings symbol).Uses allowed :=
  uses_executeAlpacaProviderCall provider rate permit (uses_reconcile full orders positions today)

theorem prepareGroup_session {session : Session} (held : session.fence = some (symbol, fence)) :
    Meets (sessionOf (.client clientId)) (fun _ last => last.fence = some (symbol, fence)) session
      (prepareGroup settings clientId symbol fence : Route Raw PyError String) := by
  have reconciled : (reconcileSymbolStateForBatch settings symbol).Uses
      (Routine (.client clientId) symbol fence : Command Raw → Prop) :=
    uses_reconcileForBatch trivial trivial trivial trivial rfl trivial trivial
  refine Meets.bind (routine_meets reconciled held) (fun brokerState _ held => ?_)
    fun _ _ held => held
  refine Meets.bind (authorizeSubmission_meets held) (fun _ _ authorized => ?_)
    fun _ _ authorized => authorized.1
  refine Meets.bind (renewFence_meets authorized.1 (authorized.2 rfl)) (fun _ _ renewed => ?_)
    fun _ _ renewed => renewed.1
  exact beginMutation_meets renewed.1 renewed.2

omit [Unicode] in
theorem beginMutation_marks {operation : String} :
    Meets (Contract.logged _)
    (fun outcome last => ∀ token, outcome = .ok token → MarkWritten symbol last)
      log (beginMutation symbol operation : Route Raw PyError String) := by
  refine ⟨trivial, fun uuid _ eq => ?_⟩
  subst eq
  refine ⟨trivial, fun reply _ eq => ?_⟩
  subst eq
  cases reply with
  | failed => rintro token ⟨⟩
  | cancelled => rintro token ⟨⟩
  | served started =>
      cases started with
      | true => exact fun _ _ => ⟨_, .head _⟩
      | false =>
          change Meets _ _ _ (Coroutine.bind (loadClaim symbol) _)
          refine Meets.bind meets_logged (fun claim _ _ => ?_) fun _ _ _ => by rintro token ⟨⟩
          cases claim <;> rintro token ⟨⟩

/-- A prepared group has set its marker. -/
theorem prepareGroup_marks :
    Meets (Contract.logged _)
    (fun outcome last => ∀ token, outcome = .ok token → MarkWritten symbol last)
      log (prepareGroup settings clientId symbol fence : Route Raw PyError String) := by
  refine Meets.bind meets_logged (fun _ _ _ => ?_) fun _ _ _ => by rintro token ⟨⟩
  refine Meets.bind meets_logged (fun _ _ _ => ?_) fun _ _ _ => by rintro token ⟨⟩
  refine Meets.bind meets_logged (fun _ _ _ => beginMutation_marks) fun _ _ _ => by rintro token ⟨⟩

theorem uses_prepareGroup :
    (prepareGroup settings clientId symbol fence).Uses (Command.Quiet : Command Raw → Prop) :=
  Uses.bind (uses_reconcileForBatch trivial trivial trivial trivial trivial trivial trivial)
    fun _ =>
    Uses.bind (uses_authorizeSubmission trivial trivial (fun _ => trivial) (fun _ => trivial)
      fun _ => trivial) fun _ =>
    Uses.bind (uses_renewFence trivial) fun _ => uses_beginMutation trivial trivial fun _ => trivial

/-- The steps up to the marker. -/
theorem prepareGroup_meets (taken : (Session.ofLog log).fence = some (symbol, fence)) :
    Meets (batchContract clientId symbol orderIds)
      (fun outcome last => (Session.ofLog last).fence = some (symbol, fence) ∧ Still log last ∧
        outcome ≠ .error .cancelled ∧ ∀ token, outcome = .ok token → MarkWritten symbol last) log
      (prepareGroup settings clientId symbol fence) := by
  have quiet : Meets (batchContract clientId symbol orderIds)
      (fun outcome last => ((Session.ofLog last).fence = some (symbol, fence) ∧ Still log last) ∧
        outcome ≠ .error .cancelled) log (prepareGroup settings clientId symbol fence) :=
    quiet_meets uses_prepareGroup (prepareGroup_session taken) uncancelled_prepareGroup
  refine (quiet.both (fun log => log) prepareGroup_marks fun _ _ _ _ moved => moved.1).mono ?_
  rintro outcome last ⟨⟨⟨held, still⟩, other⟩, marked⟩
  exact ⟨held, still, other, marked⟩

/-! ## The cancels -/

/-- What one cancel leaves: the order may have been handed over, and the call returned or not. -/
structure Attempted (symbol fence orderId : String) (before after : TaskLog Raw) (came : Bool) :
    Prop where
  held : Held symbol fence after
  submissions : ∀ id ∈ submissions after, id = orderId ∨ id ∈ submissions before
  returns : returns after = (if came then [orderId] else []) ++ returns before

omit [Unicode] in
/-- A cancel that ends before it hands anything over. -/
theorem Attempted.unsent {before : TaskLog Raw} (held : Held symbol fence log)
    (still : Still before log)
    (orderId : String) : Attempted symbol fence orderId before log false :=
  ⟨held, fun _ mem => .inr (still.submissions ▸ mem), still.returns⟩

/-- An exception that is not a cancellation, or the reply of a call that returned. -/
def Answered (symbol fence orderId : String) (before : TaskLog Raw)
    (outcome : Except PyError String) (after : TaskLog Raw) : Prop :=
  outcome ≠ .error .cancelled ∧
    Attempted symbol fence orderId before after (outcome.toOption.isSome)

omit [Unicode] in
/-- The call itself, directly after a confirmed renewal. -/
theorem dispatch_meets {before : TaskLog Raw} {orderId : String} (held : Held symbol fence log)
    (still : Still before log) (listed : orderId ∈ orderIds) (fresh : orderId ∉ submissions before)
    (renewed : log.find? (fun entry => entry.1.isStore) =
      some ⟨.store symbol (.renewFence fence), .served true⟩) :
    Meets (batchContract clientId symbol orderIds) (Answered symbol fence orderId before) log
      (runTradingProviderCall settings "cancel_all_orders.cancel" []
        (.suspend (.submit (cancelWrite symbol orderId)) fun _ =>
          .suspend (.awaitReply (cancelWrite symbol orderId)) fun reply =>
            .finish (.ok reply))) := by
  refine ⟨trivial, ?_⟩
  rintro full _ ⟨rfl, -⟩
  have asked := held.cons .inflightFull full (by rintro target token ⟨⟩)
  have quiet := still.cons .inflightFull full trivial
  cases full with
  | true => exact ⟨by rintro ⟨⟩, .unsent asked quiet orderId⟩
  | false =>
      refine ⟨⟨⟨orderId, listed, rfl, quiet.submissions ▸ fresh⟩,
        ⟨fence, acquired_of_fence asked.fence, renewed⟩, asked.marked⟩, ?_⟩
      rintro _ _ ⟨rfl, -⟩
      refine ⟨trivial, ?_⟩
      rintro reply _ ⟨rfl, completes⟩
      have after : Held symbol fence (⟨.awaitReply (cancelWrite symbol orderId), reply⟩ ::
          ⟨.submit (cancelWrite symbol orderId), ()⟩ :: ⟨.inflightFull, false⟩ :: log) :=
        (asked.cons _ _ (by rintro target token ⟨⟩)).cons _ _ (by rintro target token ⟨⟩)
      have sent : ∀ id ∈ submissions (⟨.awaitReply (cancelWrite symbol orderId), reply⟩ ::
          ⟨.submit (cancelWrite symbol orderId), ()⟩ :: ⟨.inflightFull, false⟩ :: log),
          id = orderId ∨ id ∈ submissions before := by
        intro id mem
        rw [← still.submissions]
        exact List.mem_cons.mp mem
      rcases reply with value | error | - | -
      · exact ⟨by rintro ⟨⟩, after, sent, congrArg _ still.returns⟩
      · cases error <;> exact ⟨by rintro ⟨⟩, after, sent, still.returns⟩
      · exact ⟨by rintro ⟨⟩, after, sent, still.returns⟩
      · exact absurd rfl completes

omit [Unicode] in
/-- The renewal and the call behind it. -/
theorem cancelFencedCall_meets {before : TaskLog Raw} {orderId : String}
    (held : Held symbol fence log) (still : Still before log) (listed : orderId ∈ orderIds)
    (fresh : orderId ∉ submissions before) :
    Meets (batchContract clientId symbol orderIds) (Answered symbol fence orderId before) log
      (cancelFencedCall settings symbol fence orderId) := by
  refine ⟨trivial, ?_⟩
  rintro reply _ ⟨rfl, completes⟩
  have asked := held.cons (.store symbol (.renewFence fence)) reply
    (by rintro target token ⟨⟩)
  have quiet := still.cons (.store symbol (.renewFence fence)) reply trivial
  cases reply with
  | served renewed =>
      cases renewed with
      | true => exact dispatch_meets asked quiet listed fresh rfl
      | false => exact ⟨by rintro ⟨⟩, .unsent asked quiet orderId⟩
  | failed => exact ⟨by rintro ⟨⟩, .unsent asked quiet orderId⟩
  | cancelled => exact absurd rfl completes

omit [Unicode] in
/-- One order of the group. -/
theorem cancelOneFencedOrder_meets {orderId : String} (held : Held symbol fence log)
    (listed : orderId ∈ orderIds) (fresh : orderId ∉ submissions log) :
    Meets (batchContract clientId symbol orderIds)
      (fun outcome last => ∃ result reason, outcome = .ok (result, reason) ∧
        result.orderId = some orderId ∧
        Attempted symbol fence orderId log last result.cancelled) log
      (cancelOneFencedOrder settings symbol fence orderId) := by
  have call : Meets (batchContract clientId symbol orderIds) (Answered symbol fence orderId log) log
      (executeAlpacaProviderCall (cancelFencedCall settings symbol fence orderId)) := by
    refine ⟨trivial, ?_⟩
    rintro found _ ⟨rfl, -⟩
    have asked := held.cons .provider found (by rintro target token ⟨⟩)
    have quiet : Still log (⟨.provider, found⟩ :: log) := Still.refl.cons _ _ trivial
    cases found with
    | false => exact ⟨by rintro ⟨⟩, .unsent asked quiet orderId⟩
    | true =>
        have admitted : Meets (batchContract clientId symbol orderIds)
            (fun outcome last =>
              (Held symbol fence last ∧ Still (⟨.provider, true⟩ :: log) last) ∧
              outcome ≠ .error .cancelled) (⟨.provider, true⟩ :: log) admission :=
          steady_meets (uses_admission ⟨trivial, trivial⟩ ⟨trivial, trivial⟩) asked
            uncancelled_admission
        refine Meets.catching (Meets.bind admitted (fun _ last kept => cancelFencedCall_meets
          kept.1.1 (quiet.trans kept.1.2) listed fresh) fun error last kept =>
          ⟨fun same => kept.2 (congrArg _ (Except.error.inj same)),
            .unsent kept.1.1 (quiet.trans kept.1.2) orderId⟩) (fun _ _ answered => answered) ?_
        exact fun error last answered => ⟨fun same => gateError_ne_cancelled
          (fun gate => answered.1 (congrArg _ gate)) (Except.error.inj same), answered.2⟩
  refine call.resolve fun outcome last answered => ?_
  cases outcome with
  | ok value => exact ⟨_, _, rfl, rfl, answered.2⟩
  | error error =>
      cases error with
      | cancelled => exact absurd rfl answered.1
      | _ => exact ⟨_, _, rfl, rfl, answered.2⟩

/-! ## The group -/

omit [Unicode] in
theorem uses_freezeSymbolForBatch {allowed : Command Raw → Prop} {reason : String}
    (read : allowed (.getClaim symbol)) (write : ∀ claim : Claim, allowed (.store symbol
      (.setClaim (ClaimText.dumps { claim with frozenReason := some reason })))) :
    (freezeSymbolForBatch symbol reason).Uses allowed := by
  refine Uses.resolve (uses_freezeBeforeFenceRelease read write) fun outcome => ?_
  cases outcome with
  | ok _ => trivial
  | error error => cases error <;> trivial

omit [ClaimText Raw] [Unicode] in
theorem cancelledIds_cons {result : OrderResult} {orderId : String}
    (named : result.orderId = some orderId) (results : List OrderResult) :
    cancelledIds (result :: results) =
      (if result.cancelled then [orderId] else []) ++ cancelledIds results := by
  unfold cancelledIds
  cases came : result.cancelled <;> simp [came, named]

omit [ClaimText Raw] [Unicode] in
/-- Orders that are reported with an error are not reported as cancelled. -/
theorem cancelledIds_failures (error : HttpError) (orderIds : List String) :
    cancelledIds (orderIds.map fun orderId => bulkCancelFailure (some orderId) symbol error) =
      [] := by
  simp [cancelledIds, bulkCancelFailure]

/-- What the loop over the rest of a group reports. -/
structure Progress (rest : List String) (before after : TaskLog Raw) (results : List OrderResult) :
    Prop where
  ids : results.map OrderResult.orderId = rest.map some
  cancelled : returns after = (cancelledIds results).reverse ++ returns before

omit [Unicode] in
/-- The loop over the group: the orders behind it have been attempted, the others are fresh. -/
theorem cancelEach_meets {done rest : List String} (once : (done ++ rest).Nodup)
    (listed : ∀ orderId ∈ rest, orderId ∈ orderIds) (held : Held symbol fence log)
    (sent : ∀ orderId ∈ submissions log, orderId ∈ done) :
    Meets (batchContract clientId symbol orderIds)
      (fun outcome last => ∃ results stopped, outcome = .ok (results, stopped) ∧
        Held symbol fence last ∧ Progress rest log last results) log
      (cancelEach settings symbol fence rest) := by
  induction rest generalizing done log with
  | nil => exact ⟨[], false, rfl, held, rfl, rfl⟩
  | cons orderId rest ih =>
      have fresh : orderId ∉ submissions log := fun mem =>
        (List.nodup_append.mp once).2.2 _ (sent orderId mem) _ (.head _) rfl
      refine Meets.bind (cancelOneFencedOrder_meets held (listed orderId (.head _)) fresh) ?_
        (by rintro error last ⟨_, _, ⟨⟩, -⟩)
      rintro _ last ⟨result, reason, same, named, attempted⟩
      obtain rfl := Except.ok.inj same
      cases reason with
      | none =>
          rw [List.append_cons] at once
          refine Meets.bind (ih once (fun id mem => listed id (.tail _ mem)) attempted.held
            fun id mem => ?_) ?_ (by rintro error last ⟨_, _, ⟨⟩, -⟩)
          · rcases attempted.submissions id mem with rfl | old
            · exact List.mem_append_right _ (.head _)
            · exact List.mem_append_left _ (sent id old)
          · rintro _ final ⟨results, stopped, same, still, progress⟩
            obtain rfl := Except.ok.inj same
            refine ⟨_, _, rfl, still, by simp [named, progress.ids], ?_⟩
            rw [progress.cancelled, attempted.returns, cancelledIds_cons named, List.reverse_append,
              List.append_assoc]
            cases result.cancelled <;> rfl
      | some reason =>
          have frozen : Meets (batchContract clientId symbol orderIds)
              (fun outcome after => (Held symbol fence after ∧ Still last after) ∧
                ∃ error, outcome = .ok error) last (freezeSymbolForBatch symbol reason) :=
            steady_meets (uses_freezeSymbolForBatch ⟨trivial, trivial⟩ fun _ =>
              ⟨trivial, trivial⟩)
              attempted.held freezeSymbolForBatch_answers
          refine Meets.bind frozen ?_ (by rintro error last ⟨-, _, ⟨⟩⟩)
          rintro freezeError final ⟨⟨still, quiet⟩, -⟩
          refine ⟨_, _, rfl, still, ?_, ?_⟩
          · simp [named, bulkCancelFailure, Function.comp_def]
          · rw [quiet.returns, attempted.returns, cancelledIds_cons named, cancelledIds_failures,
              List.append_nil]
            cases result.cancelled <;> rfl

/-- The group has been reported, and the task still holds its fence. -/
def GroupReported (symbol fence : String) (orderIds : List String)
    (outcome : Except WriteError GroupOutcome) (last : TaskLog Raw) : Prop :=
  ∃ results blocked, outcome = .ok (results, blocked) ∧
    (Session.ofLog last).fence = some (symbol, fence) ∧ Reported orderIds last results

omit [ClaimText Raw] [Unicode] in
/-- A group whose loop ran to its end is reported. -/
theorem Progress.reported {last after : TaskLog Raw} {results : List OrderResult}
    (progress : Progress orderIds log last results) (fresh : returns log = [])
    (still : Still last after) : Reported orderIds after results := by
  refine ⟨?_, fun result mem _ unnamed => ?_, ?_⟩
  · have ids := congrArg (List.filterMap id) progress.ids
    simpa [List.filterMap_map] using ids
  · have named : result.orderId ∈ orderIds.map some := progress.ids ▸ List.mem_map_of_mem mem
    rw [unnamed] at named
    simp at named
  · rw [still.returns, progress.cancelled, fresh, List.append_nil]

omit [ClaimText Raw] [Unicode] in
/-- A failure of the group as a whole adds a result without an order. -/
theorem Reported.unnamed {results : List OrderResult} (reported : Reported orderIds log results)
    (error : HttpError) :
    Reported orderIds log (results ++ [bulkCancelFailure none symbol error]) := by
  refine ⟨?_, fun result mem came => ?_, ?_⟩
  · simp [reported.ids, bulkCancelFailure]
  · rcases List.mem_append.mp mem with old | new
    · exact reported.named result old came
    · rw [List.mem_singleton.mp new] at came
      cases came
  · simpa [cancelledIds, bulkCancelFailure] using reported.cancelled

omit [ClaimText Raw] [Unicode] in
theorem Reported.still {before : TaskLog Raw} {results : List OrderResult}
    (reported : Reported orderIds before results) (still : Still before log) :
    Reported orderIds log results :=
  ⟨reported.ids, reported.named, still.returns.trans reported.cancelled⟩

omit [ClaimText Raw] [Unicode] in
/-- A group that was blocked before its first write is reported. -/
theorem blockedGroup_reported (fresh : returns log = []) (error : PyError) :
    Reported orderIds log (blockedGroup symbol orderIds error) := by
  refine ⟨?_, fun result mem came => ?_, ?_⟩
  · simp [blockedGroup, bulkCancelFailure, List.filterMap_map]
  · obtain ⟨orderId, -, rfl⟩ := List.mem_map.mp mem
    cases came
  · rw [fresh, blockedGroup, cancelledIds_failures, List.reverse_nil]

/-- The writes of the group, and what follows them. -/
theorem writeGroup_meets {mutation : String} (once : orderIds.Nodup) (held : Held symbol fence log)
    (unsent : submissions log = []) (fresh : returns log = []) :
    Meets (batchContract clientId symbol orderIds) (GroupReported symbol fence orderIds) log
      (writeGroup settings clientId symbol fence mutation orderIds) := by
  have loop : Meets (batchContract clientId symbol orderIds)
      (fun outcome last => ∃ results stopped, outcome = .ok (results, stopped) ∧
        Held symbol fence last ∧ Progress orderIds log last results) log
      (cancelEach settings symbol fence orderIds) :=
    cancelEach_meets (once : ([] ++ orderIds).Nodup) (fun _ mem => mem) held
      (by rw [unsent]; rintro orderId ⟨⟩)
  refine loop.resolve ?_
  rintro _ last ⟨results, stopped, rfl, still, progress⟩
  cases stopped with
  | true => exact ⟨results, true, rfl, still.fence, progress.reported fresh .refl⟩
  | false =>
      have confirmed : Meets (batchContract clientId symbol orderIds)
          (fun outcome after => (Held symbol fence after ∧ Still last after) ∧
            outcome ≠ .error .cancelled) last (confirmGroup settings clientId symbol mutation) := by
        refine steady_meets ?_ still uncancelled_confirmGroup
        exact Uses.bind (uses_reconcileForBatch ⟨trivial, trivial⟩ ⟨trivial, trivial⟩
          ⟨trivial, trivial⟩ ⟨trivial, trivial⟩ ⟨rfl, trivial⟩ ⟨trivial, trivial⟩
          ⟨trivial, trivial⟩) fun _ =>
          Uses.bind (uses_verifyReconciliation ⟨trivial, trivial⟩) fun _ =>
            uses_completeMutation ⟨trivial, trivial⟩
      refine confirmed.resolve ?_
      rintro outcome after ⟨⟨kept, quiet⟩, other⟩
      have failed : ∀ error, Meets (batchContract clientId symbol orderIds)
          (GroupReported symbol fence orderIds) after (afterFailedGroup symbol results error) := by
        intro error
        have frozen : ∀ reason, Meets (batchContract clientId symbol orderIds)
            (fun outcome final => (Held symbol fence final ∧ Still after final) ∧
              ∃ failure, outcome = .ok failure) after (freezeSymbolForBatch symbol reason) :=
          fun reason => steady_meets (uses_freezeSymbolForBatch ⟨trivial, trivial⟩ fun _ =>
            ⟨trivial, trivial⟩) kept freezeSymbolForBatch_answers
        have answered : ∀ reason, Meets (batchContract clientId symbol orderIds)
            (fun outcome final => (Held symbol fence final ∧ Still after final) ∧
              ∃ failure,
                outcome = .ok failure) after (tagged (freezeSymbolForBatch symbol reason)) :=
          fun reason => Meets.catching (frozen reason) (fun value _ kept => ⟨kept.1, value, rfl⟩)
            (by rintro error last ⟨-, _, ⟨⟩⟩)
        refine Meets.bind (answered _) ?_ (by rintro error last ⟨-, _, ⟨⟩⟩)
        rintro failure final ⟨⟨held, silent⟩, -⟩
        exact ⟨_, _, rfl, held.fence,
          (progress.reported fresh (quiet.trans silent)).unnamed _⟩
      cases outcome with
      | ok _ => exact ⟨results, false, rfl, kept.fence, progress.reported fresh quiet⟩
      | error error =>
          cases error with
          | cancelled => exact absurd rfl other
          | _ => exact failed _

/-- A task of a batch keeps its contract, and reports every order of its group. -/
theorem cancelOwnedOrdersForSymbol_meets (once : orderIds.Nodup) :
    Meets (batchContract clientId symbol orderIds)
      (fun outcome last => ∃ results, outcome = .ok results ∧ Reported orderIds last results) []
      (cancelOwnedOrdersForSymbol settings clientId symbol orderIds : Route Raw PyError _) := by
  have fenced : Meets (batchContract clientId symbol orderIds)
      (fun outcome (last : TaskLog Raw) => (Fencing symbol outcome (Session.ofLog last) ∧
        Still [] last) ∧ outcome ≠ .error .cancelled) [] (acquireFence symbol) :=
    quiet_meets (uses_acquireFence trivial fun _ => trivial) (acquireFence_meets rfl)
      uncancelled_acquireFence
  refine fenced.resolve ?_
  rintro outcome log ⟨⟨taken, quiet⟩, other⟩
  cases outcome with
  | error error =>
      cases error with
      | cancelled => exact absurd rfl other
      | _ => exact ⟨_, rfl, blockedGroup_reported quiet.returns _⟩
  | ok fence =>
      have group : Meets (batchContract clientId symbol orderIds)
          (GroupReported symbol fence orderIds) log
          (fencedGroup settings clientId symbol fence orderIds) := by
        refine (prepareGroup_meets (taken fence rfl)).resolve ?_
        rintro outcome last ⟨held, still, other, marked⟩
        cases outcome with
        | ok mutation =>
            exact writeGroup_meets once ⟨held, marked mutation rfl⟩
              (still.submissions.trans quiet.submissions) (still.returns.trans quiet.returns)
        | error error =>
            cases error with
            | cancelled => exact absurd rfl other
            | _ => exact ⟨_, false, rfl, held,
                blockedGroup_reported (still.returns.trans quiet.returns) _⟩
      refine group.resolve ?_
      rintro _ last ⟨results, blocked, rfl, held, reported⟩
      have released : Meets (batchContract clientId symbol orderIds)
          (fun outcome after => Still last after ∧ outcome = .ok ()) last
          (releaseUnlessBlocked symbol fence blocked) := by
        cases blocked with
        | true => exact ⟨.refl, rfl⟩
        | false =>
            have routine : (releaseFence symbol fence).Uses
                (Routine (.client clientId) symbol fence : Command Raw → Prop) :=
              uses_releaseFence ⟨rfl, rfl⟩
            exact (quiet_meets (uses_releaseFence trivial) (routine_meets routine held)
              releaseFence_answers).mono fun _ _ kept => ⟨kept.1.2, kept.2⟩
      exact released.bind (fun _ after kept => ⟨results, rfl, reported.still kept.1⟩)
        (by rintro error last ⟨-, ⟨⟩⟩)

end Programs

end Trading
end DataGateway
