import DataGateway.Trading.BatchRuns

/-!
# A bulk cancel is exact

In every run in which no wait of its tasks is cancelled and no claim moves between a task's
look at it and its marker, a request to cancel all orders hands each of the caller's orders to
the executor at most once, and its answer says of each whether its call returned.  It takes
that no order is listed twice under one symbol: only ids that are listed under two symbols are
taken out of the groups.
-/

namespace DataGateway
namespace Trading

open Coroutine Machine

section Exact

variable {ι Raw : Type} [DecidableEq ι] [ClaimText Raw] [Unicode] {clientId : String}
  {orders : List OpenOrder}

/-- The answer has every owned order once, under `data` exactly if its call returned.  An error
comes before anything is handed to the executor. -/
def AnswersExactly (clientId : String) (orders : List OpenOrder)
    (history : List (Event (BulkTask ι) Raw)) : Except PyError (Option BatchResponse) → Prop
  | .ok (some response) => ((response.data ++ response.errors).filterMap OrderEntry.order).Perm
        ((orders.filter (·.ownedBy clientId)).map OpenOrder.truthyId) ∧
      ∀ orderId, some (.hashable orderId) ∈ response.data.filterMap OrderEntry.order ↔
        orderId ∈ history.filterMap Event.bulkReturn
  | .ok none => False
  | .error _ => history.filterMap Event.bulkCancel = []

/-! ## What the request and its tasks end in -/

/-- How a task can end. -/
def TaskEnds (clientId : String) (orders : List OpenOrder) :
    BulkTask ι → Except PyError (Option BatchResponse) → BatchStage Raw → Prop
  | .handler, .ok (some response), last =>
      HandlerAnswer (orders.filter (·.ownedBy clientId)) last response
  | .handler, .ok none, _ => False
  | .handler, .error _, last => last = .listed
  | .group _, _, _ | .other _, _, _ => True

omit [DecidableEq ι] [ClaimText Raw] [Unicode] in
theorem uses_inBatch {α : Type} (body : Route Raw PyError α) :
    (Route.inBatch body).Uses fun command => ∃ route, command = .route route := by
  induction body with
  | finish outcome => trivial
  | suspend command resume ih => exact ⟨⟨command, rfl⟩, ih⟩

omit [DecidableEq ι] in
/-- Every task keeps its contract. -/
theorem bulkTasks_meets {settings : Settings} {others : ι → Route Raw PyError Unit}
    (safe : clientIdSafe clientId = true) (distinct : Distinct (orders.filter (·.ownedBy clientId)))
    (task : BulkTask ι) : Meets (batchContracts clientId orders task)
    (TaskEnds clientId orders task) .idle (bulkTasks settings clientId others task) := by
  cases task with
  | handler =>
      exact (cancelAllOrders_meets safe distinct).bind (fun _ _ answer => answer)
        fun _ _ listed => listed
  | group index => exact groupTask_meets.bind (fun _ _ _ => trivial) fun _ _ _ => trivial
  | other task =>
      have routed : Meets (batchContracts clientId orders (.other task)) (fun _ _ => True) .idle
          (Route.inBatch (others task)) :=
        (uses_inBatch (others task)).meets_inv (Q := fun _ => True) trivial
          fun command current route _ => ⟨route, fun _ _ _ => trivial⟩
      exact routed.bind (fun _ _ _ => trivial) fun _ _ _ => trivial

/-! ## Calls that returned -/

section Returns

variable {world : BulkWorld ι Raw} {stages : BulkTask ι → BatchStage Raw} {orderId : String}

/-- A call that returned was made by the task of a group. -/
theorem BatchKept.returned (kept : BatchKept clientId orders world stages)
    (returned : orderId ∈ world.gateway.history.filterMap Event.bulkReturn) :
    ∃ index planned group, world.groups = some planned ∧ planned[index]? = some group ∧
      orderId ∈ returns (taskLog (.group index) world.gateway.history) := by
  obtain ⟨event, mem, back⟩ := List.mem_filterMap.mp returned
  unfold Event.bulkReturn at back
  split_ifs at back with batch
  obtain ⟨index, planned, group, actor, same, here, -⟩ :=
    kept.acted mem batch (loud_of_acknowledged back)
  exact ⟨index, planned, group, same, here, mem_returns.mpr ⟨event, mem, actor, back⟩⟩

omit [ClaimText Raw] [Unicode] in
theorem returned_of_log {index : Nat} {history : List (Event (BulkTask ι) Raw)}
    (back : orderId ∈ returns (taskLog (.group index) history)) :
    orderId ∈ history.filterMap Event.bulkReturn := by
  obtain ⟨event, mem, actor, back⟩ := mem_returns.mp back
  refine List.mem_filterMap.mpr ⟨event, mem, ?_⟩
  rw [Event.bulkReturn, actor]
  exact back

/-- What a task reports as cancelled is what returned to it. -/
theorem BatchKept.cancelledIds (kept : BatchKept clientId orders world stages) {index : Nat}
    {results : List OrderResult} (settled : (index, .ok results) ∈ world.settled) :
    orderId ∈ cancelledIds results ↔
      orderId ∈ returns (taskLog (.group index) world.gateway.history) := by
  obtain ⟨group, log, same, stage, outcome, reported⟩ := kept.settled _ settled
  obtain rfl := Except.ok.inj outcome
  have at_ := kept.groups index
  rw [stage] at at_
  rw [at_.1, reported.cancelled, List.mem_reverse]

/-- The calls that returned are those that the answer's results name. -/
theorem BatchKept.returned_iff (kept : BatchKept clientId orders world stages)
    {groups : List SymbolGroup} {grouped : List (List OrderResult)}
    (joined : stages .handler = .joined groups grouped) :
    orderId ∈ world.gateway.history.filterMap Event.bulkReturn ↔
      ∃ results ∈ grouped, orderId ∈ Trading.cancelledIds results := by
  have at_ := kept.handler
  rw [joined] at at_
  obtain ⟨same, length, ended⟩ := at_
  constructor
  · intro returned
    obtain ⟨index, planned, group, same', here, back⟩ := kept.returned returned
    obtain rfl := Option.some.inj (same.symm.trans same')
    have bound : index < grouped.length := length ▸ (List.getElem?_eq_some_iff.mp here).1
    have settled := ended index _ (List.getElem?_eq_getElem bound)
    exact ⟨_, List.getElem_mem bound, (kept.cancelledIds settled).mpr back⟩
  · rintro ⟨results, mem, cancelled⟩
    obtain ⟨index, here⟩ := List.mem_iff_getElem?.mp mem
    exact returned_of_log ((kept.cancelledIds (ended index results here)).mp cancelled)

omit [DecidableEq ι] [ClaimText Raw] [Unicode] in
theorem mem_data {grouped : List (List OrderResult)} :
    some (.hashable orderId) ∈ ((grouped.flatten.filter OrderResult.cancelled).map
      OrderEntry.fenced).filterMap OrderEntry.order ↔
      ∃ results ∈ grouped, orderId ∈ Trading.cancelledIds results := by
  simp [Trading.cancelledIds, OrderEntry.order]

/-- An answer of the request is exact. -/
theorem BatchKept.answers (kept : BatchKept clientId orders world stages)
    {outcome : Except PyError (Option BatchResponse)}
    (ends : TaskEnds clientId orders (.handler : BulkTask ι) outcome (stages .handler)) :
    AnswersExactly clientId orders world.gateway.history outcome := by
  have unplanned (listed : stages .handler = .listed) : world.groups = none := by
    have at_ := kept.handler
    rwa [listed] at at_
  match outcome, ends with
  | .error error, listed =>
      refine List.eq_nil_iff_forall_not_mem.mpr fun orderId sent => ?_
      obtain ⟨_, _, _, planned, -⟩ := kept.sent sent
      rw [unplanned listed] at planned
      cases planned
  | .ok (some response), answer =>
      refine ⟨answer.complete, fun orderId => ?_⟩
      rcases answer.data with ⟨listed, data⟩ | ⟨groups, grouped, joined, data⟩
      · rw [data]
        refine ⟨by rintro ⟨⟩, fun returned => ?_⟩
        obtain ⟨_, _, _, planned, -⟩ := kept.returned returned
        rw [unplanned listed] at planned
        cases planned
      · rw [data, mem_data, kept.returned_iff joined]

end Returns

/-! ## Every run -/

variable [DecidableEq Raw]

/-- In every undisturbed run of the request among any other computations, what it hands to the
executor and what it answers is exact. -/
theorem cancels_exactly {settings : Settings} {others : ι → Route Raw PyError Unit}
    {cells : String → Cell Raw} {issued : List Uuid}
    {final : Config (BulkTask ι) (@BulkCommand.Reply Raw) PyError (Option BatchResponse)
      (BulkWorld ι Raw)} (safe : clientIdSafe clientId = true)
    (distinct : Distinct (orders.filter (·.ownedBy clientId)))
    (run : Reaches undisturbed
      (cancelling settings clientId others (.ok (.orders orders)) cells issued) final) :
    CancelsExactly clientId orders final.world.gateway.history ∧
      ∀ outcome, final.tasks .handler = .finish outcome →
        AnswersExactly clientId orders final.world.gateway.history outcome := by
  have start : BatchKept clientId orders (cancelling settings clientId others (.ok (.orders orders))
      cells issued).world fun _ => .idle :=
    .start
  obtain ⟨stages, kept, meets⟩ := run.invariant
    (fun _ _ _ _ _ _ _ kept promised allowed performed => kept.act promised allowed performed)
    (fun _ _ _ kept _ => kept.disturb) start (bulkTasks_meets safe distinct)
  refine ⟨kept.history.cancels, fun outcome finished => kept.answers ?_⟩
  have ends := meets .handler
  rwa [finished] at ends

end Exact

/-! ## Two orders, and one order that is listed twice -/

/-- Turns of a request that runs alone. -/
abbrev BatchTurn :=
  Turn (bulkGateway :
    Machine (BulkTask Empty) (@BulkCommand.Reply PlainText) (BulkWorld Empty PlainText))

/-- An open order of the client `atlas`. -/
def atlasListed (orderId : String) : OpenOrder :=
  ⟨some (.hashable orderId), ⟨some "AAPL", some "c-atlas-1"⟩⟩

/-- The client `atlas`, which owns the symbol, cancels its orders. -/
def atlasBatch (orderIds : List String) :
    Config (BulkTask Empty) (@BulkCommand.Reply PlainText) PyError (Option BatchResponse)
      (BulkWorld Empty PlainText) :=
  let _ := asciiUnicode
  cancelling ⟨100, ["atlas"]⟩ "atlas" Empty.elim (.ok (.orders (orderIds.map atlasListed)))
    (fun _ => ⟨some (.python ⟨"atlas", none, none, none⟩), none, ["atlas"]⟩) []

/-- Consecutive calm turns of one task, which draws one identifier. -/
def calmBatch (count : Nat) (task : BulkTask Empty) (digit : Char) : List BatchTurn :=
  List.replicate count (.run task fun
    | .route command => calmly (Uuid.repeating digit) atlasOrders command
    | .listOpenOrders | .gather _ | .join | .begin _ | .settle _ _ => ())

/-- The request plans one group for two orders; its task cancels both; the request answers. -/
def calmCancels : List BatchTurn :=
  calmBatch 5 .handler '0' ++ calmBatch 4 (.group 0) '1' ++ calmBatch 39 (.group 0) '2' ++
    calmBatch 1 .handler '0'

set_option maxRecDepth 8000 in
theorem cancels_both :
    ∃ final, (atlasBatch ["o-1", "o-2"]).play undisturbed calmCancels = some final ∧
      final.world.gateway.history.filterMap Event.bulkReturn = ["o-2", "o-1"] ∧
      @CancelsExactly Empty PlainText _ _ asciiUnicode "atlas" (["o-1", "o-2"].map atlasListed)
        final.world.gateway.history ∧
      ∀ outcome, final.tasks .handler = .finish outcome → AnswersExactly "atlas"
        (["o-1", "o-2"].map atlasListed) final.world.gateway.history outcome := by
  have played : ((atlasBatch ["o-1", "o-2"]).play undisturbed calmCancels).map (fun final =>
      final.world.gateway.history.filterMap Event.bulkReturn) = some ["o-2", "o-1"] := by decide
  obtain ⟨final, ran, returned⟩ := Option.map_eq_some_iff.mp played
  let _ := asciiUnicode
  have distinct : Distinct ((["o-1", "o-2"].map atlasListed).filter (·.ownedBy "atlas")) := by
    refine ⟨List.pairwise_pair.mpr ?_, fun order mem text symbol named => ?_⟩
    · rintro ⟨orderId, first, second, -⟩
      exact absurd (first.trans second.symm) (by decide)
    · rcases List.mem_pair.mp mem with rfl | rfl
      · exact absurd named (by simp [atlasListed, OpenOrder.truthyId])
      · exact absurd named (by simp [atlasListed, OpenOrder.truthyId])
  exact ⟨final, ran, returned, cancels_exactly (by decide) distinct (Config.play_reaches ran)⟩

set_option maxRecDepth 8000 in
/-- An order that is listed twice under its symbol is cancelled twice. -/
theorem cancels_twice : ∃ final, Reaches undisturbed (atlasBatch ["o-1", "o-1"]) final ∧
    final.world.gateway.history.filterMap Event.bulkCancel = ["o-1", "o-1"] := by
  have played : ((atlasBatch ["o-1", "o-1"]).play undisturbed calmCancels).map (fun final =>
      final.world.gateway.history.filterMap Event.bulkCancel) = some ["o-1", "o-1"] := by decide
  obtain ⟨final, ran, twice⟩ := Option.map_eq_some_iff.mp played
  exact ⟨final, Config.play_reaches ran, twice⟩

end Trading
end DataGateway
