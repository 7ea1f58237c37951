import DataGateway.Trading.BatchSession

/-!
# The request and its tasks

The contract of the request and of the tasks that it makes: the request plans its groups once, every
task reports its group once, and the answer of the request has every owned order once.
-/

namespace DataGateway
namespace Trading

open Coroutine

variable {ι Raw : Type}

/-- How far the request or a task of it has come. -/
inductive BatchStage (Raw : Type)
  | idle
  /-- The request has the open orders. -/
  | listed
  /-- The request waits for the tasks of these groups. -/
  | gathered (groups : List SymbolGroup)
  | joined (groups : List SymbolGroup) (grouped : List (List OrderResult))
  /-- The task of a group, with what it has done so far. -/
  | running (group : SymbolGroup) (log : TaskLog Raw)
  | settled (group : SymbolGroup) (log : TaskLog Raw)

/-- What the task of a group has done. -/
def BatchStage.log : BatchStage Raw → TaskLog Raw
  | .running _ log | .settled _ log => log
  | _ => []

/-- The stage after a command. -/
def BatchStage.next (stage : BatchStage Raw) : (command : BulkCommand Raw) → command.Reply →
    BatchStage Raw
  | .listOpenOrders, _ => .listed
  | .gather groups, _ => .gathered groups
  | .join, reply => match stage, reply with
      | .gathered groups, .ok grouped => .joined groups grouped
      | _, _ => stage
  | .begin _, group => .running group []
  | .route command, reply => match stage with
      | .running group log => .running group (⟨command, reply⟩ :: log)
      | _ => stage
  | .settle _ _, _ => match stage with
      | .running group log => .settled group log
      | _ => stage

/-- The group's results: each order of it has one, and a cancelled result names its order. -/
def ResultsOf (group : SymbolGroup) (results : List OrderResult) : Prop :=
  results.filterMap OrderResult.orderId = group.2 ∧
    ∀ result ∈ results, result.cancelled = true → result.orderId ≠ none

section Contracts

variable (clientId : String) (orders : List OpenOrder)

/-- What the request promises of its commands. -/
def HandlerPromise [Unicode] (stage : BatchStage Raw) : BulkCommand Raw → Prop
  | .route command => command = .today ∨ command = .ownershipGuard
  | .listOpenOrders => stage = .idle
  | .gather groups => stage = .listed ∧ Planned clientId orders groups
  | .join => ∃ groups, stage = .gathered groups
  | .begin _ | .settle _ _ => False

/-- What the task of a group promises of its commands. -/
def GroupPromise [ClaimText Raw] (index : Nat) (stage : BatchStage Raw) : BulkCommand Raw → Prop
  | .route command => ∃ group log, stage = .running group log ∧
      (batchTerms clientId group.1 group.2).guarantee command log
  | .begin begun => begun = index ∧ stage = .idle
  | .settle ended outcome => ended = index ∧ ∃ group log results, stage = .running group log ∧
      outcome = .ok results ∧ Reported group.2 log results
  | .listOpenOrders | .gather _ | .join => False

/-- What the request and its tasks are promised of the replies. -/
def BatchRelies (stage : BatchStage Raw) : (command : BulkCommand Raw) → command.Reply → Prop
  | .route command, reply => command.Completes reply
  | .listOpenOrders, reply => reply = .ok (.orders orders)
  | .begin _, group => group.2.Nodup
  | .join, reply => ∀ groups, stage = .gathered groups →
      ∃ grouped, reply = .ok grouped ∧ List.Forall₂ ResultsOf groups grouped
  | .gather _, _ | .settle _ _, _ => True

/-- The contract of the request. -/
abbrev handlerContract [Unicode] : Contract (@BulkCommand.Reply Raw) (BatchStage Raw) :=
  .tracking BatchStage.next ⟨fun command stage => HandlerPromise clientId orders stage command,
    fun command stage reply => BatchRelies orders stage command reply⟩

/-- The contract of the task of a group. -/
abbrev groupContract [ClaimText Raw] (index : Nat) : Contract (@BulkCommand.Reply Raw)
    (BatchStage Raw) :=
  .tracking BatchStage.next ⟨fun command stage => GroupPromise clientId index stage command,
    fun command stage reply => BatchRelies orders stage command reply⟩

end Contracts

variable {clientId : String} {orders : List OpenOrder} {settings : Settings} {index : Nat}

/-! ## The task of a group -/

section Groups

variable [ClaimText Raw]

/-- What a group's program keeps, the task of the group keeps. -/
theorem inBatch_meets {α : Type} {group : SymbolGroup} {log : TaskLog Raw}
    {body : Route Raw PyError α} {post : Except PyError α → TaskLog Raw → Prop}
    (meets : Meets (batchContract clientId group.1 group.2) post log body) :
    Meets (groupContract clientId orders index)
      (fun outcome last => ∃ later, last = .running group later ∧ post outcome later)
        (.running group log) (Route.inBatch body) := by
  induction body generalizing log with
  | finish outcome =>
      refine ⟨log, rfl, ?_⟩
      cases outcome <;> exact meets
  | suspend command resume ih =>
      refine ⟨⟨group, log, rfl, meets.1⟩, ?_⟩
      rintro reply _ ⟨rfl, completes⟩
      exact ih reply (meets.2 reply _ ⟨rfl, completes⟩)

/-- The task of a group reports it. -/
theorem groupTask_meets [Unicode] :
    Meets (groupContract clientId orders index) (fun _ _ => True) .idle
      (groupTask settings clientId index : BulkRoute Raw PyError Unit) := by
  refine ⟨⟨rfl, rfl⟩, ?_⟩
  rintro group _ ⟨rfl, once⟩
  refine (inBatch_meets (cancelOwnedOrdersForSymbol_meets once)).resolve ?_
  rintro _ last ⟨log, rfl, results, rfl, reported⟩
  exact ⟨⟨rfl, group, log, results, rfl, rfl, reported⟩, fun _ _ _ => trivial⟩

end Groups

/-! ## The answer -/

/-- The order that an entry of the answer is about; a failure of a group as a
whole is about none. -/
def OrderEntry.order : OrderEntry → Option (Option OrderId)
  | .missingId => some none
  | .unfenceable orderId _ => some (some orderId)
  | .fenced result => result.orderId.map fun text => some (.hashable text)

/-- The answer has every owned order once, and what it has under `data` was
reported by the tasks. -/
structure HandlerAnswer (owned : List OpenOrder) (stage : BatchStage Raw)
    (response : BatchResponse) :
    Prop where
  complete : ((response.data ++ response.errors).filterMap OrderEntry.order).Perm
    (owned.map OpenOrder.truthyId)
  data : (stage = .listed ∧ response.data = []) ∨
  ∃ groups grouped, stage = .joined groups grouped ∧
    response.data = (grouped.flatten.filter OrderResult.cancelled).map .fenced

theorem orders_unfenced {entries : List OrderEntry}
    (unfenced : ∀ entry ∈ entries, ∀ result, entry ≠ .fenced result) :
    entries.filterMap OrderEntry.order = entries.map OrderEntry.orderId ∧
      entries.filter OrderEntry.cancelled = [] := by
  induction entries with
  | nil => exact ⟨rfl, rfl⟩
  | cons entry entries ih =>
      obtain ⟨orders, none⟩ := ih fun other mem => unfenced other (.tail _ mem)
      cases entry with
      | missingId => exact ⟨congrArg _ orders, none⟩
      | unfenceable orderId symbol => exact ⟨congrArg _ orders, none⟩
      | fenced result => exact absurd rfl (unfenced _ (.head _) result)

theorem ids_of_results {groups : List SymbolGroup} {grouped : List (List OrderResult)}
    (results : List.Forall₂ ResultsOf groups grouped) :
    grouped.flatten.filterMap OrderResult.orderId = groups.flatMap Prod.snd := by
  induction results with
  | nil => rfl
  | cons head _ ih => rw [List.flatten_cons, List.filterMap_append, head.1, ih, List.flatMap_cons]

/-- The entries of an answer are its results, in two parts. -/
theorem perm_batchResponse (ownedCount : Nat) (results : List OrderEntry) :
    ((batchResponse ownedCount results).data ++ (batchResponse ownedCount results).errors).Perm
      results :=
  List.filter_append_perm _ _

section Request

variable [Unicode]

/-- The answer to a plan, with what its tasks report. -/
theorem answer_of_plan {owned : List OpenOrder} {scan : Scan} (covers : scan.Covers owned)
    {grouped : List (List OrderResult)}
    (results : List.Forall₂ ResultsOf scan.grouping.groups.items grouped) (ownedCount : Nat) :
    let response := batchResponse ownedCount
      (scan.grouping.unfenceable ++ grouped.flatten.map .fenced)
    ((response.data ++ response.errors).filterMap OrderEntry.order).Perm
      (owned.map OpenOrder.truthyId) ∧
      response.data = (grouped.flatten.filter OrderResult.cancelled).map .fenced := by
  have grouping := covers.grouping
  obtain ⟨orders, none⟩ := orders_unfenced grouping.unfenced
  constructor
  · refine ((perm_batchResponse _ _).filterMap _).trans ?_
    rw [List.filterMap_append, orders, List.filterMap_map]
    have fenced : grouped.flatten.filterMap (OrderEntry.order ∘ .fenced) =
        (scan.grouping.groups.items.flatMap Prod.snd).map fun text =>
          some (OrderId.hashable text) := by
      rw [← ids_of_results results, List.map_filterMap]
      rfl
    rw [fenced]
    exact grouping.ids.trans covers.ids
  · rw [batchResponse, List.filter_append, none, List.nil_append, List.filter_map]
    rfl

/-! ## The request -/

/-- What the loop over the owned orders leaves behind these orders. -/
def Scanned (seen : List OpenOrder) (outcome : Except PyError Scan)
    (last : BatchStage Raw) : Prop :=
  last = .listed ∧ ∃ scan, outcome = .ok scan ∧ scan.Covers seen

/-- One turn of the loop over the owned orders. -/
theorem resolveOrder_meets {scan : Scan} {seen : List OpenOrder} {order : OpenOrder}
    (covers : scan.Covers seen) (fresh : ∀ earlier ∈ seen, ¬earlier.Repeats order)
    (hashable : ∀ text symbol, order.truthyId = some (.unhashable text) → ¬order.Resolves symbol) :
    Meets (handlerContract clientId orders) (Scanned (seen ++ [order])) .listed
      (resolveOrder scan order : BulkRoute Raw PyError Scan) := by
  unfold resolveOrder
  cases named : order.truthyId with
  | none => exact ⟨rfl, _, rfl, covers.report named.symm (by rintro _ ⟨⟩)⟩
  | some orderId =>
      refine ⟨.inl rfl, ?_⟩
      rintro today _ ⟨rfl, -⟩
      have reported : (scan.report (.unfenceable orderId none)).Covers (seen ++ [order]) :=
        covers.report named.symm (by rintro _ ⟨⟩)
      dsimp only
      split
      next symbol text extracted =>
        exact ⟨rfl, _, rfl, covers.resolve named ⟨today, extracted⟩ fresh⟩
      next symbol text extracted => exact absurd ⟨today, extracted⟩ (hashable text symbol named)
      · exact ⟨rfl, _, rfl, reported⟩
      · exact ⟨rfl, _, rfl, reported⟩

/-- The loop over the rest of the owned orders. -/
theorem resolveAll_meets {scan : Scan} {seen left : List OpenOrder} (covers : scan.Covers seen)
    (distinct : Distinct (seen ++ left)) :
    Meets (handlerContract clientId orders) (Scanned (seen ++ left)) .listed
      (foldEach resolveOrder scan left : BulkRoute Raw PyError Scan) := by
  induction left generalizing scan seen with
  | nil => exact ⟨rfl, scan, rfl, (List.append_nil seen).symm ▸ covers⟩
  | cons order left ih =>
      have fresh : ∀ earlier ∈ seen, ¬earlier.Repeats order := fun earlier mem =>
        (List.pairwise_append.mp distinct.once).2.2 earlier mem order (.head _)
      have hashable := distinct.hashable order (List.mem_append_right _ (.head _))
      refine Meets.bind (resolveOrder_meets covers fresh hashable) ?_
        (by rintro _ _ ⟨-, _, ⟨⟩, -⟩)
      rintro _ _ ⟨rfl, next, same, covers⟩
      obtain rfl := Except.ok.inj same
      rw [List.append_cons] at distinct ⊢
      exact ih covers distinct

/-- The groups are planned, and the answer is made of what their tasks report. -/
theorem cancelGroups_meets {scan : Scan} {ownedCount : Nat}
    (covers : scan.Covers (orders.filter (·.ownedBy clientId))) :
    Meets (handlerContract clientId orders)
      (fun outcome (last : BatchStage Raw) => ∃ response, outcome = .ok response ∧
        HandlerAnswer (orders.filter (·.ownedBy clientId)) last response) .listed
      (cancelGroups ownedCount scan.grouping : BulkRoute Raw PyError BatchResponse) := by
  unfold cancelGroups
  split
  next empty =>
    have nothing : List.Forall₂ ResultsOf scan.grouping.groups.items [] := by
      rw [empty]
      exact .nil
    obtain ⟨complete, data⟩ := answer_of_plan covers nothing ownedCount
    rw [List.flatten_nil, List.map_nil, List.append_nil] at complete data
    exact ⟨_, rfl, complete, .inl ⟨rfl, data⟩⟩
  · refine ⟨⟨rfl, covers.planned⟩, ?_⟩
    rintro _ _ ⟨rfl, -⟩
    refine ⟨⟨_, rfl⟩, ?_⟩
    rintro reply _ ⟨rfl, relied⟩
    obtain ⟨grouped, rfl, results⟩ := relied _ rfl
    obtain ⟨complete, data⟩ := answer_of_plan covers results ownedCount
    exact ⟨_, rfl, complete, .inr ⟨_, _, rfl, data⟩⟩

/-- What the request ends in: its answer, or an error before any task was made. -/
def RequestEnds (clientId : String) (orders : List OpenOrder)
    (outcome : Except PyError BatchResponse) (last : BatchStage Raw) : Prop :=
  match outcome with
  | .ok response => HandlerAnswer (orders.filter (·.ownedBy clientId)) last response
  | .error _ => last = .listed

/-- The request answers. -/
theorem cancelAllOrders_meets (safe : clientIdSafe clientId = true)
    (distinct : Distinct (orders.filter (·.ownedBy clientId))) :
    Meets (handlerContract clientId orders) (RequestEnds clientId orders) .idle
      (cancelAllOrders clientId : BulkRoute Raw PyError BatchResponse) := by
  refine ⟨rfl, ?_⟩
  rintro _ _ ⟨rfl, rfl⟩
  dsimp only
  rw [ownedOrders_eq safe]
  generalize owned : orders.filter (·.ownedBy clientId) = listed at distinct
  refine ⟨.inr rfl, ?_⟩
  rintro configured _ ⟨rfl, -⟩
  cases configured with
  | false => exact (rfl : BatchStage.listed = .listed)
  | true =>
      have loop : Meets (handlerContract clientId orders) (Scanned ([] ++ listed)) .listed
          (foldEach resolveOrder Scan.start listed : BulkRoute Raw PyError Scan) :=
        resolveAll_meets .start distinct
      refine loop.bind ?_ (by rintro _ _ ⟨-, _, ⟨⟩, -⟩)
      rintro _ _ ⟨rfl, scan, same, covers⟩
      obtain rfl := Except.ok.inj same
      rw [List.nil_append, ← owned] at covers
      refine (cancelGroups_meets covers).mono ?_
      rintro _ last ⟨response, rfl, answer⟩
      exact answer

end Request

end Trading
end DataGateway
