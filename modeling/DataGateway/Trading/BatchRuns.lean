import DataGateway.Trading.BatchTasks
import DataGateway.Trading.OwnClaim

/-!
# Bulk cancels in every run

While no wait of its tasks is cancelled, a request to cancel all orders cancels the caller's
orders only, each at most once, under the fence of its symbol and after the marker, and it reports
each of them once.
-/

namespace DataGateway
namespace Trading

open Coroutine Machine

variable {ι Raw : Type}

/-! ## What the history holds of a task -/

/-- What a task has done. -/
def taskLog [DecidableEq ι] (task : ι) (history : List (Event ι Raw)) : TaskLog Raw :=
  (history.filter (·.actor = task)).map fun event => ⟨event.command, event.reply⟩

/-- The task is the request or one of its tasks. -/
def BulkTask.inBatch : BulkTask ι → Bool
  | .other _ => false
  | .handler | .group _ => true

/-- The order that the request handed to the executor. -/
def Event.bulkCancel (event : Event (BulkTask ι) Raw) : Option String :=
  if event.actor.inBatch then LogEntry.submitted ⟨event.command, event.reply⟩ else none

/-- The order of the request whose call returned. -/
def Event.bulkReturn (event : Event (BulkTask ι) Raw) : Option String :=
  if event.actor.inBatch then LogEntry.acknowledged ⟨event.command, event.reply⟩ else none

theorem loud_of_submitted {command : Command Raw} {reply : command.Reply} {orderId : String}
    (submitted : LogEntry.submitted ⟨command, reply⟩ = some orderId) : ¬command.Quiet := by
  cases command with
  | submit write => exact id
  | _ => cases submitted

theorem loud_of_acknowledged {command : Command Raw} {reply : command.Reply} {orderId : String}
    (acknowledged : LogEntry.acknowledged ⟨command, reply⟩ = some orderId) : ¬command.Quiet := by
  cases command with
  | awaitReply write => exact id
  | _ => cases acknowledged

section Logs

variable [DecidableEq ι] {task : ι} {event : Event ι Raw} {history : List (Event ι Raw)}

theorem taskLog_cons_self (actor : event.actor = task) :
    taskLog task (event :: history) = ⟨event.command, event.reply⟩ :: taskLog task history := by
  simp [taskLog, actor]

theorem taskLog_cons_of_ne (actor : event.actor ≠ task) :
    taskLog task (event :: history) = taskLog task history := by
  simp [taskLog, actor]

theorem mem_taskLog {entry : LogEntry Raw} : entry ∈ taskLog task history ↔
    ∃ event ∈ history, event.actor = task ∧ ⟨event.command, event.reply⟩ = entry := by
  simp [taskLog, and_assoc]

theorem mem_submissions {orderId : String} : orderId ∈ submissions (taskLog task history) ↔
    ∃ event ∈ history, event.actor = task ∧
      LogEntry.submitted ⟨event.command, event.reply⟩ = some orderId := by
  simp [submissions, taskLog, and_assoc]

theorem mem_returns {orderId : String} : orderId ∈ returns (taskLog task history) ↔
    ∃ event ∈ history, event.actor = task ∧
      LogEntry.acknowledged ⟨event.command, event.reply⟩ = some orderId := by
  simp [returns, taskLog, and_assoc]

end Logs

/-! ## Waits that are not cancelled -/

/-- The wait is cancelled. -/
def Command.cutShort : (command : Command Raw) → command.Outcome → Bool
  | .store _ _, .cancelled _ => true
  | .getClaim _, .cancelled _ => true
  | .rateLimit, .cancelled => true
  | .permit, .cancelled => true
  | .getOrders _, .cancelled => true
  | .getPositions, .cancelled => true
  | .getOrder _, .cancelled => true
  | .awaitReply _, .cancelled => true
  | _, _ => false

section Machine

variable [DecidableEq ι] [DecidableEq Raw] [ClaimText Raw]

theorem completes_of_performed {i : ι} {command : Command Raw} {outcome : command.Outcome}
    {reply : command.Reply} {world after : World ι Raw} (whole : command.cutShort outcome = false)
    (performed : performCommand i command outcome world = some (reply, after)) :
    command.Completes reply := by
  cases command with
  | store symbol op =>
      obtain ⟨rfl, -⟩ := Prod.mk.inj (Option.some.inj performed)
      change (performStore symbol op outcome world.cells).1 ≠ .cancelled
      cases outcome with
      | served =>
          unfold performStore
          cases op.apply (world.cells symbol) <;> rintro ⟨⟩
      | failed executed =>
          unfold performStore
          cases op.apply (world.cells symbol) <;> rintro ⟨⟩
      | cancelled executed => cases whole
  | getClaim symbol =>
      obtain ⟨rfl, -⟩ := Prod.mk.inj (Option.some.inj performed)
      cases outcome with
      | served => rintro ⟨⟩
      | failed executed => rintro ⟨⟩
      | cancelled executed => cases whole
  | rateLimit | permit | getOrders symbol | getPositions | getOrder orderId | awaitReply write =>
      obtain ⟨rfl, -⟩ := Prod.mk.inj (Option.some.inj performed)
      cases outcome with
      | cancelled => cases whole
      | _ => rintro ⟨⟩
  | uuid4 | utcnow | today | ownershipGuard | provider | inflightFull | submit write => trivial

/-- In the tasks of the batch no wait is cancelled, and a mutation begins only on a claim that has
not moved since its task looked at it. -/
def Undisturbed : BulkTask ι → (command : BulkCommand Raw) → command.Outcome →
    BulkWorld ι Raw → Prop
  | .group index, .route command, outcome, world => command.cutShort outcome = false ∧
      ∀ symbol ∈ command.begins, UnmovedSinceLook (.group index) symbol world.gateway.history
  | _, _, _, _ => True

instance Undisturbed.decide : (task : BulkTask ι) → (command : BulkCommand Raw) →
    (outcome : command.Outcome) → (world : BulkWorld ι Raw) →
    Decidable (Undisturbed task command outcome world)
  | .group _, .route _, _, _ => inferInstanceAs (Decidable (_ ∧ ∀ _ ∈ _, UnmovedSinceLook _ _ _))
  | .group _, .listOpenOrders, _, _ | .group _, .gather _, _, _ | .group _, .join, _, _
  | .group _, .begin _, _, _ | .group _, .settle _ _, _, _ | .handler, _, _,
      _ | .other _, _, _, _ =>
      inferInstanceAs (Decidable True)

/-- The policy of undisturbed batches. -/
def undisturbed :
    Policy (bulkGateway : Machine (BulkTask ι) (@BulkCommand.Reply Raw) (BulkWorld ι Raw)) where
  allows := Undisturbed
  permits _ _ := True

instance : (undisturbed :
    Policy (bulkGateway : Machine (BulkTask ι) (@BulkCommand.Reply Raw)
    (BulkWorld ι Raw))).Decides :=
  ⟨Undisturbed.decide, fun _ _ => inferInstanceAs (Decidable True)⟩

end Machine

/-! ## What the request has done at the broker -/

/-- The event marked the client's own unfrozen claim. -/
def Event.MarksOwn (clientId symbol : String) [ClaimText Raw] (event : Event ι Raw) : Prop :=
  (∃ token, (⟨event.command, event.reply⟩ : LogEntry Raw) =
    ⟨.store symbol (.beginMutation token), .served true⟩) ∧
  ∃ claim ∈ (event.before symbol).stored, claim.owner = clientId ∧ claim.frozenReason = none

section Cancels

variable [DecidableEq ι] [ClaimText Raw] [Unicode]

/-- The write cancels one of the client's orders, directly after a confirmed renewal of its symbol's
fence and after the task marked the client's claim. -/
def CancelsOwn (clientId : String) (orders : List OpenOrder) (task : BulkTask ι)
    (earlier : List (Event (BulkTask ι) Raw)) (write : BrokerWrite) : Prop :=
  ∃ order ∈ orders, order.ownedBy clientId = true ∧
    ∃ orderId symbol, order.truthyId = some (.hashable orderId) ∧ order.Resolves symbol ∧
      write = cancelWrite symbol orderId ∧ Renewed symbol (taskLog task earlier) ∧
      ∃ begun ∈ earlier, begun.actor = task ∧ begun.MarksOwn clientId symbol

/-- What the request hands to the executor. -/
structure CancelsExactly (clientId : String) (orders : List OpenOrder)
    (history : List (Event (BulkTask ι) Raw)) : Prop where
  /-- Every write is a cancel of an own order under its fence and marker. -/
  each : ∀ event earlier, event :: earlier <:+ history → event.actor.inBatch = true →
    ∀ write, event.command = .submit write → CancelsOwn clientId orders event.actor earlier write
  /-- No order is handed over twice. -/
  once : (history.filterMap Event.bulkCancel).Nodup

end Cancels

/-! ## What every step keeps of the history -/

section History

variable [DecidableEq ι] [DecidableEq Raw] [ClaimText Raw]

omit [DecidableEq Raw] in
/-- What the replies have told the tasks, after one more event. -/
theorem sessions_cons (event : Event ι Raw) (history : List (Event ι Raw)) :
    (fun task => Session.ofLog (taskLog task (event :: history))) =
      Function.update (fun task => Session.ofLog (taskLog task history)) event.actor
        ((Session.ofLog (taskLog event.actor history)).next event.command event.reply) := by
  funext task
  by_cases actor : event.actor = task
  · subst actor
    rw [Function.update_self, taskLog_cons_self rfl, Session.ofLog]
  · rw [Function.update_of_ne (Ne.symm actor), taskLog_cons_of_ne actor]

variable [Unicode]

/-- What the history says of the request and its tasks. -/
structure BatchHistory (clientId : String) (orders : List OpenOrder)
    (gateway : World (BulkTask ι) Raw) : Prop where
  sees : SeesStanding gateway fun task => Session.ofLog (taskLog task gateway.history)
  /-- The request itself hands nothing to the executor. -/
  silent : ∀ event ∈ gateway.history, event.actor = .handler → event.command.Quiet
  /-- Every mutation of a task began on the client's own unfrozen claim. -/
  marks : ∀ event ∈ gateway.history, event.actor.inBatch = true →
    ∀ symbol ∈ event.command.begins,
    ∃ claim ∈ (event.before symbol).stored, claim.owner = clientId ∧ claim.frozenReason = none
  cancels : CancelsExactly clientId orders gateway.history

variable {clientId : String} {orders : List OpenOrder} {gateway after : World (BulkTask ι) Raw}
  {task : BulkTask ι} {command : Command Raw} {outcome : command.Outcome} {reply : command.Reply}

/-- One command of a route. -/
theorem BatchHistory.step (kept : BatchHistory clientId orders gateway)
    (performed : performCommand task command outcome gateway = some (reply, after))
    (silent : task = .handler → command.Quiet)
    (marks : task.inBatch = true → ∀ symbol ∈ command.begins,
      ∃ claim ∈ (gateway.cells symbol).stored, claim.owner = clientId ∧ claim.frozenReason = none)
    (cancels : task.inBatch = true → ∀ write, command = .submit write →
      CancelsOwn clientId orders task gateway.history write)
    (once : ∀ orderId, Event.bulkCancel ⟨task, command, reply, gateway.cells, after.cells⟩ =
      some orderId → orderId ∉ gateway.history.filterMap Event.bulkCancel) :
    BatchHistory clientId orders after := by
  obtain ⟨recorded, -⟩ := performCommand_record performed
  constructor
  · rw [recorded, sessions_cons]
    exact kept.sees.step performed
  · rw [recorded]
    rintro event (_ | ⟨_, earlier⟩)
    · exact silent
    · exact kept.silent event earlier
  · rw [recorded]
    rintro event (_ | ⟨_, earlier⟩)
    · exact marks
    · exact kept.marks event earlier
  · constructor
    · rw [recorded]
      intro event earlier suffix
      rcases List.suffix_cons_iff.mp suffix with now | before
      · obtain ⟨rfl, rfl⟩ := List.cons.inj now
        exact cancels
      · exact kept.cancels.each event earlier before
    · rw [recorded]
      cases cancel : Event.bulkCancel ⟨task, command, reply, gateway.cells, after.cells⟩ with
      | none =>
          rw [List.filterMap_cons_none cancel]
          exact kept.cancels.once
      | some orderId =>
          rw [List.filterMap_cons_some cancel]
          exact List.nodup_cons.mpr ⟨once orderId cancel, kept.cancels.once⟩

end History

/-! ## Where the request and its tasks are -/

/-- Where the request is. -/
def HandlerAt (groups : Option (List SymbolGroup))
    (settled : List (Nat × Except PyError (List OrderResult))) :
    BatchStage Raw → Prop
  | .idle | .listed => groups = none
  | .gathered planned => groups = some planned
  | .joined planned grouped => groups = some planned ∧ grouped.length = planned.length ∧
      ∀ index results, grouped[index]? = some results → (index, .ok results) ∈ settled
  | .running _ _ | .settled _ _ => False

/-- How a task has ended. -/
def EndsWith (stage : BatchStage Raw) (outcome : Except PyError (List OrderResult)) : Prop :=
  ∃ group log results, stage = .settled group log ∧ outcome = .ok results ∧
    Reported group.2 log results

section Groups

variable [DecidableEq ι]

/-- Where the task of a group is. -/
def GroupAt (history : List (Event (BulkTask ι) Raw)) (groups : Option (List SymbolGroup))
    (index : Nat) :
    BatchStage Raw → Prop
  | .idle => taskLog (.group index) history = []
  | .running group log | .settled group log => taskLog (.group index) history = log ∧
      (∃ planned, groups = some planned ∧ planned[index]? = some group) ∧
        ∀ orderId ∈ submissions log, orderId ∈ group.2
  | .listed | .gathered _ | .joined _ _ => False

variable {history : List (Event (BulkTask ι) Raw)}
  {groups : Option (List SymbolGroup)} {index : Nat} {stage : BatchStage Raw}

/-- Events of other tasks do not move a task. -/
theorem GroupAt.cons (at_ : GroupAt history groups index stage) {event : Event (BulkTask ι) Raw}
    (other : event.actor ≠ .group index) : GroupAt (event :: history) groups index stage := by
  cases stage with
  | idle => exact (taskLog_cons_of_ne other).trans at_
  | running group log => exact ⟨(taskLog_cons_of_ne other).trans at_.1, at_.2⟩
  | settled group log => exact ⟨(taskLog_cons_of_ne other).trans at_.1, at_.2⟩
  | _ => exact at_.elim

/-- Before the groups are planned, their tasks have not begun. -/
theorem GroupAt.plan (at_ : GroupAt history none index stage) :
    GroupAt history groups index stage := by
  cases stage with
  | idle => exact at_
  | running group log => obtain ⟨-, ⟨_, ⟨⟩, -⟩, -⟩ := at_
  | settled group log => obtain ⟨-, ⟨_, ⟨⟩, -⟩, -⟩ := at_
  | _ => exact at_.elim

/-- A task that has done something has its group. -/
theorem GroupAt.of_entry (at_ : GroupAt history groups index stage)
    (acted : taskLog (.group index) history ≠ []) : ∃ planned group, groups = some planned ∧
      planned[index]? = some group ∧
      ∀ orderId ∈ submissions (taskLog (.group index) history), orderId ∈ group.2 := by
  cases stage with
  | idle => exact absurd at_ acted
  | running group log | settled group log =>
      obtain ⟨rfl, ⟨planned, same, here⟩, sent⟩ := at_
      exact ⟨planned, group, same, here, sent⟩
  | _ => exact at_.elim

end Groups

section Invariant

variable [DecidableEq ι] [DecidableEq Raw] [ClaimText Raw] [Unicode]

/-- The invariant of the request and its tasks. -/
structure BatchKept (clientId : String) (orders : List OpenOrder) (world : BulkWorld ι Raw)
    (stages : BulkTask ι → BatchStage Raw) : Prop where
  listing : world.listing = .ok (.orders orders)
  planned : ∀ groups, world.groups = some groups → Planned clientId orders groups
  handler : HandlerAt world.groups world.settled (stages .handler)
  groups : ∀ index, GroupAt world.gateway.history world.groups index (stages (.group index))
  settled : ∀ entry ∈ world.settled, EndsWith (stages (.group entry.1)) entry.2
  history : BatchHistory clientId orders world.gateway

variable {clientId : String} {orders : List OpenOrder} {world : BulkWorld ι Raw}
  {stages : BulkTask ι → BatchStage Raw} {index : Nat}

omit [DecidableEq Raw] in
/-- A task that handed something over, or waited for it, is the task of a group. -/
theorem BatchKept.acted (kept : BatchKept clientId orders world stages)
    {event : Event (BulkTask ι) Raw}
    (mem : event ∈ world.gateway.history) (batch : event.actor.inBatch = true)
    (loud : ¬event.command.Quiet) : ∃ index planned group, event.actor = .group index ∧
      world.groups = some planned ∧ planned[index]? = some group ∧
      ∀ orderId ∈ submissions (taskLog (.group index) world.gateway.history),
        orderId ∈ group.2 := by
  cases actor : event.actor with
  | other task =>
      rw [actor] at batch
      cases batch
  | handler => exact absurd (kept.history.silent event mem actor) loud
  | group index =>
      have entry : ⟨event.command, event.reply⟩ ∈ taskLog (.group index) world.gateway.history :=
        mem_taskLog.mpr ⟨event, mem, actor, rfl⟩
      obtain ⟨planned, group, same, here, listed⟩ :=
        (kept.groups index).of_entry (List.ne_nil_of_mem entry)
      exact ⟨index, planned, group, rfl, same, here, listed⟩

omit [DecidableEq Raw] in
/-- An order that was handed over belongs to the group of its task. -/
theorem BatchKept.sent (kept : BatchKept clientId orders world stages) {orderId : String}
    (sent : orderId ∈ world.gateway.history.filterMap Event.bulkCancel) : ∃ index planned group,
      world.groups = some planned ∧ planned[index]? = some group ∧ orderId ∈ group.2 ∧
      orderId ∈ submissions (taskLog (.group index) world.gateway.history) := by
  obtain ⟨event, mem, cancel⟩ := List.mem_filterMap.mp sent
  unfold Event.bulkCancel at cancel
  split_ifs at cancel with batch
  obtain ⟨index, planned, group, actor, same, here, listed⟩ :=
    kept.acted mem batch (loud_of_submitted cancel)
  have own := mem_submissions.mpr ⟨event, mem, actor, cancel⟩
  exact ⟨index, planned, group, same, here, listed orderId own, own⟩

omit [DecidableEq Raw] in
/-- The marker of a task is set on the client's own claim. -/
theorem BatchHistory.marked {gateway : World (BulkTask ι) Raw} {task : BulkTask ι}
    {symbol : String} (kept : BatchHistory clientId orders gateway) (batch : task.inBatch = true)
    (marked : MarkWritten symbol (taskLog task gateway.history)) :
    ∃ begun ∈ gateway.history, begun.actor = task ∧ begun.MarksOwn clientId symbol := by
  obtain ⟨token, mem⟩ := marked
  obtain ⟨begun, earlier, rfl, entry⟩ := mem_taskLog.mp mem
  refine ⟨begun, earlier, rfl, ⟨token, entry⟩, kept.marks begun earlier batch symbol ?_⟩
  rw [show begun.command = .store symbol (.beginMutation token) from congrArg Sigma.fst entry]
  rfl

/-- One command of the task of a group. -/
theorem BatchKept.groupRoute (kept : BatchKept clientId orders world stages) {command : Command Raw}
    {outcome : command.Outcome} {reply : command.Reply} {after : World (BulkTask ι) Raw}
    {group : SymbolGroup} {log : TaskLog Raw} (running : stages (.group index) = .running group log)
    (promised : (batchTerms clientId group.1 group.2).guarantee command log)
    (unmoved : ∀ symbol ∈ command.begins,
      UnmovedSinceLook (.group index) symbol world.gateway.history)
    (performed : performCommand (.group index) command outcome world.gateway =
      some (reply, after)) :
    BatchHistory clientId orders after := by
  have at_ := kept.groups index
  rw [running] at at_
  obtain ⟨rfl, ⟨planned, same, here⟩, sent⟩ := at_
  have plan := kept.planned planned same
  have mem : group ∈ planned := List.mem_of_getElem? here
  refine kept.history.step performed (by rintro ⟨⟩) (fun _ symbol begins => ?_)
    (fun _ write submits => ?_) fun orderId cancel earlier => ?_
  · obtain ⟨token, rfl⟩ := Command.eq_of_begins begins
    obtain ⟨-, client, role, owns⟩ := promised
    obtain rfl := Role.client.inj role
    exact kept.history.sees.owns owns (unmoved symbol begins)
  · subst submits
    obtain ⟨⟨orderId, listed, write, -⟩, renewed, marked⟩ := promised
    obtain ⟨order, own, owned, named, resolves⟩ := plan.owned group mem orderId listed
    exact ⟨order, own, owned, orderId, group.1, named, resolves, write, renewed,
      kept.history.marked rfl marked⟩
  · cases command with
    | submit write =>
        obtain ⟨⟨own, listed, rfl, fresh⟩, -, -⟩ := promised
        obtain rfl : own = orderId := Option.some.inj cancel
        obtain ⟨other, all, rival, same', there, listed', before⟩ := kept.sent earlier
        obtain rfl := Option.some.inj (same.symm.trans same')
        have symbol := plan.apart group mem rival (List.mem_of_getElem? there) own listed listed'
        obtain rfl : index = other := by
          have bound : index < (planned.map Prod.fst).length := by
            rw [List.length_map]
            exact (List.getElem?_eq_some_iff.mp here).1
          refine (List.getElem?_inj bound plan.symbols).mp ?_
          rw [List.getElem?_map, List.getElem?_map, here, there, Option.map_some, symbol]
          rfl
        exact fresh before
    | _ => cases cancel

omit [DecidableEq Raw] in
/-- A task moves on, and what is known of its group does not change. -/
theorem BatchKept.moved (kept : BatchKept clientId orders world stages)
    {gateway : World (BulkTask ι) Raw}
    {task : BulkTask ι} {next : BatchStage Raw} (history : BatchHistory clientId orders gateway)
    (handler : task = .handler → HandlerAt world.groups world.settled next)
    (mine : ∀ index, task = .group index → GroupAt gateway.history world.groups index next ∧
      ∀ outcome, ¬EndsWith (stages task) outcome)
    (others : ∀ index, task ≠ .group index →
      GroupAt gateway.history world.groups index (stages (.group index))) :
    BatchKept clientId orders { world with gateway := gateway }
    (Function.update stages task next) := by
  refine ⟨kept.listing, kept.planned, ?_, fun index => ?_, fun entry mem => ?_, history⟩
  · by_cases request : task = .handler
    · subst request
      rw [Function.update_self]
      exact handler rfl
    · rw [Function.update_of_ne (Ne.symm request)]
      exact kept.handler
  · by_cases own : task = .group index
    · subst own
      rw [Function.update_self]
      exact (mine index rfl).1
    · rw [Function.update_of_ne (Ne.symm own)]
      exact others index own
  · have ended := kept.settled entry mem
    by_cases own : task = .group entry.1
    · exact absurd (own ▸ ended) ((mine entry.1 own).2 entry.2)
    · rwa [Function.update_of_ne (Ne.symm own)]

omit [DecidableEq Raw] [ClaimText Raw] [Unicode] in
theorem not_endsWith_running {group : SymbolGroup} {log : TaskLog Raw}
    {outcome : Except PyError (List OrderResult)} : ¬EndsWith (.running group log) outcome := by
  rintro ⟨_, _, _, ⟨⟩, -⟩

end Invariant

/-! ## One command -/

/-- The results that a complete list of tasks has. -/
theorem getElem?_of_mapM {α β : Type} {f : α → Option β} {xs : List α} {ys : List β}
    (mapped : xs.mapM f = some ys) : ys.length = xs.length ∧
      ∀ (index : Nat) (y : β), ys[index]? = some y →
        ∃ x, xs[index]? = some x ∧ f x = some y := by
  induction xs generalizing ys with
  | nil =>
      obtain rfl := Option.some.inj mapped
      exact ⟨rfl, by rintro index y ⟨⟩⟩
  | cons x xs ih =>
      rw [List.mapM_cons] at mapped
      obtain ⟨y, first, mapped⟩ := Option.bind_eq_some_iff.mp mapped
      obtain ⟨rest, tail, same⟩ := Option.bind_eq_some_iff.mp mapped
      obtain rfl := Option.some.inj same
      obtain ⟨length, each⟩ := ih tail
      refine ⟨congrArg _ length, fun index value here => ?_⟩
      cases index with
      | zero =>
          obtain rfl := Option.some.inj here
          exact ⟨x, rfl, first⟩
      | succ index => exact each index value here

section Steps

variable [DecidableEq ι] [DecidableEq Raw] [ClaimText Raw] [Unicode] {clientId : String}
  {orders : List OpenOrder} {world after : BulkWorld ι Raw} {stages : BulkTask ι → BatchStage Raw}
  {index : Nat}

/-- The contracts of the request, of its tasks and of the other computations. -/
abbrev batchContracts (clientId : String) (orders : List OpenOrder) :
    BulkTask ι → Contract (@BulkCommand.Reply Raw) (BatchStage Raw)
  | .handler => handlerContract clientId orders
  | .group index => groupContract clientId orders index
  | .other _ => .tracking BatchStage.next
      ⟨fun command _ => ∃ route, command = .route route, fun _ _ _ => True⟩

omit [Unicode] in
/-- A command of a route is performed in the gateway. -/
theorem performBulk_route {task : BulkTask ι} {command : Command Raw} {outcome : command.Outcome}
    {reply : command.Reply}
    (performed : performBulk task (.route command) outcome world = some (reply, after)) :
    ∃ gateway, performCommand task command outcome world.gateway = some (reply, gateway) ∧
      after = { world with gateway := gateway } := by
  obtain ⟨⟨answer, gateway⟩, step, same⟩ := Option.map_eq_some_iff.mp performed
  obtain ⟨rfl, rfl⟩ := Prod.mk.inj same
  exact ⟨gateway, step, rfl⟩

/-- Commands of another computation. -/
theorem BatchKept.otherStep (kept : BatchKept clientId orders world stages) {task : ι}
    {command : Command Raw} {outcome : command.Outcome} {reply : command.Reply}
    (next : BatchStage Raw)
    (performed : performBulk (.other task) (.route command) outcome world = some (reply, after)) :
    BatchKept clientId orders after (Function.update stages (.other task) next) := by
  obtain ⟨gateway, step, rfl⟩ := performBulk_route performed
  have history : BatchHistory clientId orders gateway :=
    kept.history.step step (by rintro ⟨⟩) (by rintro ⟨⟩) (by rintro ⟨⟩) (by rintro _ ⟨⟩)
  refine kept.moved history (by rintro ⟨⟩) (by rintro _ ⟨⟩) fun index other => ?_
  rw [(performCommand_record step).1]
  exact (kept.groups index).cons other

/-- Commands of the request's routes. -/
theorem BatchKept.handlerRoute (kept : BatchKept clientId orders world stages)
    {command : Command Raw} {outcome : command.Outcome} {reply : command.Reply}
    (promised : command = .today ∨ command = .ownershipGuard)
    (performed : performBulk .handler (.route command) outcome world = some (reply, after)) :
    BatchKept clientId orders after
      (Function.update stages .handler ((stages .handler).next (.route command) reply)) := by
  obtain ⟨gateway, step, rfl⟩ := performBulk_route performed
  have history : BatchHistory clientId orders gateway := by
    refine kept.history.step step (fun _ => ?_) (fun _ symbol begins => ?_)
      (fun _ write submits => ?_) ?_
    · rcases promised with rfl | rfl <;> trivial
    · rcases promised with rfl | rfl <;> cases begins
    · rcases promised with rfl | rfl <;> cases submits
    · rcases promised with rfl | rfl <;> rintro orderId ⟨⟩
  refine kept.moved history (fun _ => ?_) (by rintro _ ⟨⟩) fun index other => ?_
  · have at_ := kept.handler
    revert at_
    cases stages .handler with
    | running group log => exact False.elim
    | settled group log => exact False.elim
    | _ => exact id
  · rw [(performCommand_record step).1]
    exact (kept.groups index).cons other

/-- Commands of the program of a group. -/
theorem BatchKept.groupStep (kept : BatchKept clientId orders world stages) {command : Command Raw}
    {outcome : command.Outcome} {reply : command.Reply}
    (promised : GroupPromise clientId index (stages (.group index)) (.route command))
    (allowed : Undisturbed (.group index) (.route command) outcome world)
    (performed : performBulk (.group index) (.route command) outcome world = some (reply, after)) :
    BatchKept clientId orders after
      (Function.update stages (.group index)
      ((stages (.group index)).next (.route command) reply)) := by
  obtain ⟨gateway, step, rfl⟩ := performBulk_route performed
  obtain ⟨group, log, running, promised⟩ := promised
  refine kept.moved (kept.groupRoute running promised allowed.2 step) (by rintro ⟨⟩) ?_ ?_
  · rintro _ ⟨⟩
    refine ⟨?_, by rw [running]; exact fun _ => not_endsWith_running⟩
    have at_ := kept.groups index
    rw [running] at at_ ⊢
    obtain ⟨same, here, sent⟩ := at_
    rw [(performCommand_record step).1]
    refine ⟨(taskLog_cons_self rfl).trans (congrArg _ same), here, fun orderId mem => ?_⟩
    cases command with
    | submit write =>
        obtain ⟨⟨own, listed, rfl, -⟩, -, -⟩ := promised
        rcases List.mem_cons.mp mem with rfl | old
        · exact listed
        · exact sent orderId old
    | _ => exact sent orderId mem
  · intro other apart
    rw [(performCommand_record step).1]
    exact (kept.groups other).cons apart

omit [DecidableEq Raw] in
/-- The task of a group begins. -/
theorem BatchKept.begins (kept : BatchKept clientId orders world stages) {group : SymbolGroup}
    (idle : stages (.group index) = .idle)
    (found : (world.groups.bind (·[index]?)) = some group) :
    group.2.Nodup ∧ BatchKept clientId orders world
      (Function.update stages (.group index) (.running group [])) := by
  obtain ⟨planned, same, here⟩ := Option.bind_eq_some_iff.mp found
  have unstarted := kept.groups index
  rw [idle] at unstarted
  refine ⟨(kept.planned planned same).once group (List.mem_of_getElem? here), ?_⟩
  refine kept.moved kept.history (by rintro ⟨⟩) ?_ fun other _ => kept.groups other
  rintro _ ⟨⟩
  refine ⟨⟨unstarted, ⟨planned, same, here⟩, by rintro orderId ⟨⟩⟩, ?_⟩
  rintro outcome ⟨_, _, _, settled, -⟩
  rw [idle] at settled
  cases settled

omit [DecidableEq Raw] in
/-- The task of a group ends. -/
theorem BatchKept.settles (kept : BatchKept clientId orders world stages) {group : SymbolGroup}
    {log : TaskLog Raw} {results : List OrderResult}
    (running : stages (.group index) = .running group log)
    (reported : Reported group.2 log results) :
    BatchKept clientId orders { world with settled := world.settled ++ [(index, .ok results)] }
      (Function.update stages (.group index) (.settled group log)) := by
  have at_ := kept.groups index
  rw [running] at at_
  have moved : BatchKept clientId orders world
      (Function.update stages (.group index) (.settled group log)) := by
    refine kept.moved kept.history (by rintro ⟨⟩) ?_ fun other _ => kept.groups other
    rintro _ ⟨⟩
    exact ⟨at_, by rw [running]; exact fun _ => not_endsWith_running⟩
  refine ⟨moved.listing, moved.planned, ?_, moved.groups, fun entry mem => ?_, moved.history⟩
  · have at_ := moved.handler
    revert at_
    cases Function.update stages (.group index) (.settled group log) .handler with
    | joined planned grouped =>
        rintro ⟨same, length, ended⟩
        exact ⟨same, length, fun index results here =>
          List.mem_append_left _ (ended index results here)⟩
    | _ => exact id
  · rcases List.mem_append.mp mem with old | new
    · exact moved.settled entry old
    · obtain rfl := List.mem_singleton.mp new
      exact ⟨group, log, results, Function.update_self .., rfl, reported⟩

omit [DecidableEq Raw] in
/-- The groups are planned. -/
theorem BatchKept.gathers (kept : BatchKept clientId orders world stages)
    {groups : List SymbolGroup}
    (listed : stages .handler = .listed) (planned : Planned clientId orders groups) :
    BatchKept clientId orders { world with groups := some groups }
      (Function.update stages .handler (.gathered groups)) := by
  have none := kept.handler
  rw [listed] at none
  have frame (index : Nat) : Function.update stages .handler (.gathered groups) (.group index) =
      stages (.group index) := Function.update_of_ne (by rintro ⟨⟩) _ _
  refine ⟨kept.listing, ?_, ?_, fun index => ?_, fun entry mem => ?_, kept.history⟩
  · rintro _ ⟨⟩
    exact planned
  · rw [Function.update_self]
    rfl
  · have at_ := kept.groups index
    rw [none] at at_
    rw [frame]
    exact at_.plan
  · rw [frame]
    exact kept.settled entry mem

omit [DecidableEq Raw] in
/-- The request has the results of all its tasks. -/
theorem BatchKept.joins (kept : BatchKept clientId orders world stages) {groups : List SymbolGroup}
    {reply : Except PyError (List (List OrderResult))}
    (gathered : stages .handler = .gathered groups)
    (joined : world.joined = some reply) : ∃ grouped, reply = .ok grouped ∧
      List.Forall₂ ResultsOf groups grouped ∧
      BatchKept clientId orders world
        (Function.update stages .handler (.joined groups grouped)) := by
  have same := kept.handler
  rw [gathered] at same
  unfold BulkWorld.joined at joined
  split at joined
  next error raised =>
    obtain ⟨⟨index, outcome⟩, mem, raised⟩ := List.exists_of_findSome?_eq_some raised
    obtain ⟨_, _, results, -, rfl, -⟩ := kept.settled _ mem
    cases raised
  obtain ⟨_, planned, joined⟩ := Option.bind_eq_some_iff.mp joined
  obtain rfl := Option.some.inj (planned.symm.trans same)
  obtain ⟨grouped, mapped, rfl⟩ := Option.map_eq_some_iff.mp joined
  obtain ⟨length, each⟩ := getElem?_of_mapM mapped
  rw [List.length_range] at length
  have ended : ∀ index results, grouped[index]? = some results →
      (index, .ok results) ∈ world.settled := by
    intro index results here
    obtain ⟨x, at_, found⟩ := each index results here
    obtain ⟨bound, rfl⟩ := List.getElem?_eq_some_iff.mp at_
    rw [List.getElem_range] at found
    obtain ⟨outcome, looked, value⟩ := Option.bind_eq_some_iff.mp found
    obtain ⟨before, later, eq, -⟩ := List.lookup_eq_some_iff.mp looked
    cases outcome with
    | error error => cases value
    | ok value' =>
        obtain rfl := Option.some.inj value
        rw [eq]
        exact List.mem_append_right _ (.head _)
  refine ⟨grouped, rfl, ?_, ?_⟩
  · refine List.forall₂_iff_get.mpr ⟨length.symm, fun index bound bound' => ?_⟩
    have settled := ended index _ (List.getElem?_eq_getElem bound')
    obtain ⟨group, log, results, stage, outcome, reported⟩ := kept.settled _ settled
    obtain rfl := Except.ok.inj outcome
    have at_ := kept.groups index
    rw [stage] at at_
    obtain ⟨-, ⟨planned', same', here⟩, -⟩ := at_
    obtain rfl := Option.some.inj (same.symm.trans same')
    rw [List.getElem?_eq_getElem bound] at here
    obtain rfl := Option.some.inj here
    exact ⟨reported.ids, reported.named⟩
  · exact kept.moved kept.history (fun _ => ⟨same, length, ended⟩) (by rintro _ ⟨⟩)
      fun index _ => kept.groups index

/-- One command of any task. -/
theorem BatchKept.act (kept : BatchKept clientId orders world stages) {task : BulkTask ι}
    {command : BulkCommand Raw} {outcome : command.Outcome} {reply : command.Reply}
    (promised : (batchContracts clientId orders task).may command (stages task))
    (allowed : Undisturbed task command outcome world)
    (performed : performBulk task command outcome world = some (reply, after)) :
    ∃ next, (batchContracts clientId orders task).after command (stages task) reply next ∧
      BatchKept clientId orders after (Function.update stages task next) := by
  cases task with
  | other task =>
      obtain ⟨route, rfl⟩ := promised
      exact ⟨_, ⟨rfl, trivial⟩, kept.otherStep _ performed⟩
  | handler =>
      cases command with
      | route command =>
          have completes : command.Completes reply := by
            rcases promised with rfl | rfl <;> trivial
          exact ⟨_, ⟨rfl, completes⟩, kept.handlerRoute promised performed⟩
      | listOpenOrders =>
          obtain ⟨rfl, rfl⟩ := Prod.mk.inj (Option.some.inj performed)
          have fresh := kept.handler
          rw [show stages .handler = .idle from promised] at fresh
          exact ⟨_, ⟨rfl, kept.listing⟩,
            kept.moved kept.history (fun _ => fresh) (by rintro _ ⟨⟩)
            fun index _ => kept.groups index⟩
      | gather groups =>
          obtain ⟨rfl, rfl⟩ := Prod.mk.inj (Option.some.inj performed)
          exact ⟨_, ⟨rfl, trivial⟩, kept.gathers promised.1 promised.2⟩
      | join =>
          obtain ⟨results, joined, same⟩ := Option.map_eq_some_iff.mp performed
          obtain ⟨rfl, rfl⟩ := Prod.mk.inj same
          obtain ⟨groups, gathered⟩ := promised
          obtain ⟨grouped, rfl, all, next⟩ := kept.joins gathered joined
          refine ⟨_, ⟨rfl, fun groups' same => ?_⟩, ?_⟩
          · obtain rfl := BatchStage.gathered.inj (gathered.symm.trans same)
            exact ⟨grouped, rfl, all⟩
          · rw [gathered]
            exact next
      | begin index => exact promised.elim
      | settle index outcome => exact promised.elim
  | group index =>
      cases command with
      | route command =>
          obtain ⟨gateway, step, -⟩ := performBulk_route performed
          exact ⟨_, ⟨rfl, completes_of_performed allowed.1 step⟩,
            kept.groupStep promised allowed performed⟩
      | begin begun =>
          obtain ⟨rfl, idle⟩ := promised
          obtain ⟨group, found, same⟩ := Option.map_eq_some_iff.mp performed
          obtain ⟨rfl, rfl⟩ := Prod.mk.inj same
          obtain ⟨once, next⟩ := kept.begins idle found
          exact ⟨_, ⟨rfl, once⟩, next⟩
      | settle ended outcome =>
          obtain ⟨rfl, group, log, results, running, rfl, reported⟩ := promised
          obtain ⟨rfl, rfl⟩ := Prod.mk.inj (Option.some.inj performed)
          refine ⟨_, ⟨rfl, trivial⟩, ?_⟩
          rw [running]
          exact kept.settles running reported
      | listOpenOrders => exact promised.elim
      | gather groups => exact promised.elim
      | join => exact promised.elim

omit [DecidableEq Raw] in
/-- The environment keeps what is known of the request. -/
theorem BatchKept.disturb (kept : BatchKept clientId orders world stages)
    {move : Disturbance (BulkTask ι)} : BatchKept clientId orders
      { world with gateway := Disturbance.apply move world.gateway } stages := by
  refine ⟨kept.listing, kept.planned, kept.handler, ?_, kept.settled, ?_, ?_, ?_, ?_⟩
  · rw [Disturbance.history]
    exact kept.groups
  · intro task symbol claim unmoved look
    rw [Disturbance.history] at unmoved look
    rw [← kept.history.sees task symbol claim unmoved look, Cell.standing, Cell.standing]
    exact congrArg _ (Cell.stored_congr Disturbance.claim)
  · rw [Disturbance.history]
    exact kept.history.silent
  · rw [Disturbance.history]
    exact kept.history.marks
  · rw [Disturbance.history]
    exact kept.history.cancels

omit [DecidableEq Raw] in
/-- Before the request runs. -/
theorem BatchKept.start {cells : String → Cell Raw} {issued : List Uuid} :
    BatchKept clientId orders (⟨⟨cells, issued, [], []⟩, .ok (.orders orders), none, []⟩ :
      BulkWorld ι Raw) fun _ => .idle := by
  refine ⟨rfl, by rintro groups ⟨⟩, rfl, fun _ => rfl, by
      rintro entry ⟨⟩, ?_, ?_, ?_, ?_, .nil⟩
  · rintro task symbol claim ⟨⟩
  · rintro event ⟨⟩
  · rintro event ⟨⟩
  · intro event earlier suffix
    exact absurd suffix (by simp)

end Steps

end Trading
end DataGateway
