import DataGateway.Outbox.Admission
import DataGateway.Outbox.Sink
import Mathlib.Data.List.Perm.Subperm

/-!
# The admission queue

Every pending future belongs to a request that is queued or in the group being committed, and a
queue with requests has its task.  Whoever empties the queue does it under the lock and answers
every request, so when the task has ended nobody is left waiting.
-/

namespace DataGateway
namespace Outbox

open Sink

variable {Dict : Type}

/-- The requests in the group being committed. -/
def AdmissionTask.group : AdmissionTask Dict → List (AdmissionRequest Dict)
  | .committing requests => requests
  | _ => []

/-- The futures of the requests that were given to `admit_many`. -/
def committedResults : List (SinkEvent Dict) → List Nat
  | [] => []
  | .committed results :: earlier => results ++ committedResults earlier
  | _ :: earlier => committedResults earlier

@[simp]
theorem committedResults_append (later earlier : List (SinkEvent Dict)) :
    committedResults (later ++ earlier) = committedResults later ++ committedResults earlier := by
  induction later with
  | nil => rfl
  | cons event rest ih => cases event <;> simp [committedResults, ih]

theorem committedResults_accepted {α : Type} (messages : List α) (read : α → Message Dict) :
    committedResults (messages.map fun message => .accepted (read message)) = [] := by
  induction messages with
  | nil => rfl
  | cons message rest ih => exact ih

/-- `close` has joined the admission task. -/
def Closer.joined : Closer → Bool
  | .guarding _ | .finishing | .raised => true
  | _ => false

/-- The part of the sink that admission is about. -/
structure QueueView (Dict : Type) where
  requests : List (AdmissionRequest Dict)
  queuedBytes : Int
  task : AdmissionTask Dict
  error : Option OutboxError
  closed : Bool
  futures : Nat → Future
  issued : Nat
  committed : List Nat

def Sink.queueView (sink : Sink Dict) : QueueView Dict where
  requests := sink.admissionRequests
  queuedBytes := sink.admissionQueuedBytes
  task := sink.admissionTask
  error := sink.admissionError
  closed := sink.closed
  futures := sink.futures
  issued := sink.issued
  committed := committedResults sink.log

/-- The requests whose callers still wait. -/
def QueueView.outstanding (view : QueueView Dict) : List (AdmissionRequest Dict) :=
  view.task.group ++ view.requests

/-- What holds between any two steps. -/
structure QueueView.Accounted (view : QueueView Dict) : Prop where
  bytes : view.queuedBytes = totalBytes view.requests
  sized : ∀ request ∈ view.requests, request.sizeBytes ≤ maxTransactionBytes
  served : view.requests ≠ [] → view.task ≠ .absent
  empty : view.closed ∨ view.error.isSome → view.requests = []
  held : ∀ result < view.issued, view.futures result = .pending →
    ∃ request ∈ view.outstanding, request.result = result
  fresh : ∀ result ∈ view.committed ++ view.outstanding.map AdmissionRequest.result,
    result < view.issued
  once : (view.committed ++ view.outstanding.map AdmissionRequest.result).Nodup

namespace QueueView

variable {view : QueueView Dict}

/-! ## What a step does to the queue -/

@[simp]
theorem totalBytes_append (first second : List (AdmissionRequest Dict)) :
    totalBytes (first ++ second) = totalBytes first + totalBytes second := by
  simp [totalBytes]

theorem resolve_pending {futures : Nat → Future} {requests : List (AdmissionRequest Dict)}
    {outcome : Future} {result : Nat} (answered : outcome ≠ .pending)
    (pending : Sink.resolve futures requests outcome result = .pending) :
    futures result = .pending ∧ ∀ request ∈ requests, request.result ≠ result := by
  unfold Sink.resolve at pending
  split at pending
  · exact absurd pending answered
  next other =>
    refine ⟨pending, fun request mem same => other ⟨pending, ?_⟩⟩
    exact List.any_eq_true.mpr ⟨request, mem, by simpa using same⟩

/-- A request joins the queue. -/
theorem Accounted.enqueue (accounted : view.Accounted) {topic : String} {data : EventData Dict}
    {sizeBytes : Nat} {task : AdmissionTask Dict} (fits : sizeBytes ≤ maxTransactionBytes)
    (accepting : view.closed = false ∧ view.error = none) (group : task.group = view.task.group)
    (serving : task ≠ .absent) :
    Accounted { view with
      requests := view.requests ++ [⟨topic, data, sizeBytes, view.issued⟩]
      queuedBytes := view.queuedBytes + sizeBytes
      task := task
      futures := Function.update view.futures view.issued .pending
      issued := view.issued + 1 } := by
  have fresh := accounted.fresh
  have once := accounted.once
  simp only [outstanding, List.map_append, ← List.append_assoc] at fresh once
  refine ⟨?_, ?_, fun _ => serving, ?_, ?_, ?_, ?_⟩
  · simp [accounted.bytes, totalBytes]
  · intro request mem
    rcases List.mem_append.mp mem with queued | new
    · exact accounted.sized request queued
    · obtain rfl := List.mem_singleton.mp new
      exact fits
  · simp [accepting.1, accepting.2]
  · intro result lt pending
    by_cases new : result = view.issued
    · exact ⟨⟨topic, data, sizeBytes, view.issued⟩, by simp [outstanding], new.symm⟩
    · dsimp only at lt pending
      rw [Function.update_of_ne new] at pending
      obtain ⟨request, mem, same⟩ := accounted.held result (by omega) pending
      refine ⟨request, ?_, same⟩
      simp only [outstanding, group] at mem ⊢
      rw [← List.append_assoc]
      exact List.mem_append_left _ mem
  · intro result mem
    simp only [outstanding, group, List.map_append, ← List.append_assoc] at mem
    rcases List.mem_append.mp mem with old | new
    · exact Nat.lt_succ_of_lt (fresh result old)
    · obtain rfl : result = view.issued := by simpa using new
      exact Nat.lt_succ_self _
  · simp only [outstanding, group, List.map_append, ← List.append_assoc]
    refine List.nodup_append.mpr ⟨once, by simp, fun result mem new isNew same => ?_⟩
    have lt := fresh result mem
    obtain rfl : new = view.issued := by simpa using isNew
    omega

/-- A caller gives up. -/
theorem Accounted.cancel (accounted : view.Accounted) (result : Nat) :
    Accounted { view with futures := Function.update view.futures result .cancelled } := by
  refine ⟨accounted.bytes, accounted.sized, accounted.served, accounted.empty, ?_,
    accounted.fresh, accounted.once⟩
  intro other lt pending
  by_cases same : other = result
  · subst same
    simp at pending
  · dsimp only at pending
    rw [Function.update_of_ne same] at pending
    exact accounted.held other lt pending

/-- Some requests are answered or change hands, and none is left behind. -/
theorem Accounted.answer (accounted : view.Accounted) {next : QueueView Dict}
    {A : List (AdmissionRequest Dict)} (issued : next.issued = view.issued)
    (futures : ∀ result, next.futures result = .pending → view.futures result = .pending ∧
      ∀ request ∈ A, request.result ≠ result)
    (bytes : next.queuedBytes = totalBytes next.requests)
    (sized : ∀ request ∈ next.requests, request ∈ view.requests)
    (served : next.requests ≠ [] → next.task ≠ .absent)
    (empty : next.closed ∨ next.error.isSome → next.requests = [])
    (covered : ∀ request ∈ view.outstanding, request ∈ A ∨ request ∈ next.outstanding)
    (ids : List.Subperm (next.committed ++ next.outstanding.map AdmissionRequest.result)
      (view.committed ++ view.outstanding.map AdmissionRequest.result)) : next.Accounted := by
  refine ⟨bytes, fun request mem => accounted.sized request (sized request mem), served, empty,
    fun result lt pending => ?_, fun result mem => ?_, ?_⟩
  · obtain ⟨was, others⟩ := futures result pending
    obtain ⟨request, mem, same⟩ := accounted.held result (issued ▸ lt) was
    rcases covered request mem with gone | still
    · exact absurd same (others request gone)
    · exact ⟨request, still, same⟩
  · rw [issued]
    exact accounted.fresh result (ids.subset mem)
  · obtain ⟨sub, perm, sublist⟩ := ids
    exact perm.nodup_iff.mp (accounted.once.sublist sublist)

theorem takeGroup_append (count bytes : Nat) (requests : List (AdmissionRequest Dict)) :
    (takeGroup count bytes requests).1 ++ (takeGroup count bytes requests).2 = requests := by
  induction requests generalizing count bytes with
  | nil => rfl
  | cons request rest ih =>
      rw [takeGroup]
      split
      · simp [ih]
      · rfl

/-- A queue whose first request fits a transaction gives a group that is not empty. -/
theorem takeGroup_ne_nil {requests : List (AdmissionRequest Dict)}
    (sized : ∀ request ∈ requests, request.sizeBytes ≤ maxTransactionBytes)
    (none : (takeGroup 0 0 requests).1 = []) : requests = [] := by
  cases requests with
  | nil => rfl
  | cons request rest =>
      have fits := sized request (.head _)
      simp [takeGroup, fits, maxTransactionEvents] at none

end QueueView

namespace Sink

open QueueView

variable {sink after : Sink Dict}

theorem publishError_none {sizeBytes : Nat} (accepted : sink.publishError sizeBytes = none) :
    sink.closed = false ∧ sink.admissionError = none := by
  unfold publishError at accepted
  split at accepted
  · cases accepted
  next opened =>
    split at accepted
    · cases accepted
    next healthy => exact ⟨by simpa using opened, healthy⟩

theorem groupBegins_accounted (stepped : sink.groupBegins = some after)
    (accounted : sink.queueView.Accounted) : after.queueView.Accounted := by
  unfold Sink.groupBegins at stepped
  split at stepped
  next waiting free =>
    have split := takeGroup_append 0 0 sink.admissionRequests
    have none : (takeGroup 0 0 sink.admissionRequests).1 = [] → sink.admissionRequests = [] :=
      takeGroup_ne_nil accounted.sized
    generalize takeGroup 0 0 sink.admissionRequests = taken at split none stepped
    obtain ⟨group, rest⟩ := taken
    dsimp only at split none stepped
    have outstanding : sink.queueView.outstanding = group ++ rest := by
      simp [QueueView.outstanding, queueView, waiting, AdmissionTask.group, split]
    have bytes : sink.admissionQueuedBytes - totalBytes group = totalBytes rest := by
      have total := accounted.bytes
      simp only [queueView, ← split, totalBytes_append] at total
      omega
    -- A queue with requests belongs to a sink that is neither closed nor poisoned.
    have accepting : group ≠ [] → ¬ (sink.closed ∨ sink.admissionError.isSome) := by
      intro some ended
      have all : sink.admissionRequests = [] := accounted.empty ended
      rw [← split] at all
      exact some (List.append_eq_nil_iff.mp all).1
    split at stepped
    next nothing =>
      obtain rfl : group = [] := by simpa using nothing
      obtain rfl : rest = [] := split.trans (none rfl)
      cases stepped
      refine accounted.answer (A := []) rfl (fun result pending => ⟨pending, nofun⟩) bytes
        nofun nofun (fun _ => rfl) (fun request mem => ?_) ?_
      · rw [outstanding] at mem
        cases mem
      · rw [outstanding]
        exact List.Subperm.refl _
    next something =>
      have alive := accepting (by simpa using something)
      split at stepped
      next closed => exact absurd (.inl closed) alive
      split at stepped
      next cause poisoned => exact absurd (.inr (by simp [poisoned])) alive
      cases stepped
      refine accounted.answer (A := []) rfl (fun result pending => ⟨pending, nofun⟩) bytes
        (fun request mem => ?_) nofun (fun ended => absurd ended alive)
        (fun request mem => .inr ?_) ?_
      · show request ∈ sink.admissionRequests
        rw [← split]
        exact List.mem_append_right _ mem
      · rw [outstanding] at mem
        exact mem
      · rw [outstanding]
        exact List.Subperm.refl _
  · cases stepped

/-- Queued requests are failed, and the queue is emptied for good. -/
theorem accounted_of_emptied {view next : QueueView Dict} (accounted : view.Accounted)
    {outcome : Future} (answered : outcome ≠ .pending) (issued : next.issued = view.issued)
    (futures : next.futures = resolve view.futures view.requests outcome)
    (requests : next.requests = []) (bytes : next.queuedBytes = 0)
    (group : next.task.group = view.task.group) (committed : next.committed = view.committed) :
    next.Accounted := by
  refine accounted.answer issued
    (fun result pending => resolve_pending answered (futures ▸ pending)) ?_ ?_ ?_
    (fun _ => requests) (fun request mem => ?_) ?_
  · rw [bytes, requests]
    rfl
  · simp [requests]
  · exact fun some => absurd requests some
  · rcases List.mem_append.mp mem with committing | queued
    · exact .inr (List.mem_append_left _ (group ▸ committing))
    · exact .inl queued
  · simp only [QueueView.outstanding, requests, group, committed, List.append_nil, List.map_append]
    exact (((List.sublist_append_left _ _).append_left _).subperm)

theorem closeLocks_accounted {i : Nat} (stepped : sink.closeLocks i = some after)
    (accounted : sink.queueView.Accounted) : after.queueView.Accounted := by
  unfold closeLocks at stepped
  split at stepped
  · cases stepped
    exact accounted_of_emptied accounted (nofun : Future.failed .closed ≠ .pending)
      rfl rfl rfl rfl rfl rfl
  · cases stepped

/-- A new process has no requests. -/
theorem restart_accounted {config : SinkConfig} (accounted : sink.queueView.Accounted) :
    (sink.restart config).queueView.Accounted := by
  refine ⟨rfl, nofun, nofun, fun _ => rfl, fun result _ pending => ?_, fun result mem => ?_, ?_⟩
  · have still : (if sink.futures result = .pending then Future.cancelled
        else sink.futures result) = .pending := pending
    split at still
    · cases still
    next other => exact absurd still other
  · refine accounted.fresh result (List.mem_append_left _ ?_)
    simpa [QueueView.outstanding, queueView, restart, new, AdmissionTask.group, committedResults]
      using mem
  · have once := (List.nodup_append.mp accounted.once).1
    simpa [QueueView.outstanding, queueView, restart, new, AdmissionTask.group, committedResults]
      using once

/-! ## The end of the admission task -/

/-- A `close` that is past the lock has closed the sink, and one that has joined the admission task
finds it ended from then on. -/
def Joined (sink : Sink Dict) : Prop :=
  ∀ i, (sink.closers i = .joining → sink.closed) ∧
    ((sink.closers i).joined → sink.closed ∧ sink.admissionTask = .absent)

theorem joined_of_kept (joined : sink.Joined) (closers : after.closers = sink.closers)
    (closed : sink.closed → after.closed)
    (task : sink.closed → sink.admissionTask = .absent → after.admissionTask = .absent) :
    after.Joined := by
  intro i
  obtain ⟨joining, ended⟩ := joined i
  rw [closers]
  exact ⟨fun here => closed (joining here),
    fun here => ⟨closed (ended here).1, task (ended here).1 (ended here).2⟩⟩

theorem joined_setCloser {i : Nat} {closer : Closer} (joined : sink.Joined)
    (joining : closer = .joining → sink.closed)
    (ended : closer.joined → sink.closed ∧ sink.admissionTask = .absent) :
    (sink.setCloser i closer).Joined := by
  intro j
  by_cases same : j = i
  · subst same
    simpa [setCloser] using ⟨joining, ended⟩
  · simpa [setCloser, Function.update_of_ne same] using joined j

/-! ## Steps of the queue -/

variable [Encoding Dict]

/-- A publish call is refused, or its request joins the queue. -/
theorem publish_cases {topic : String} {data : EventData Dict}
    (stepped : sink.publish topic data = some after) :
    (∃ error, after = sink.record [.refused error]) ∨
      ∃ sizeBytes, sizeBytes ≤ maxTransactionBytes ∧ sink.lock = none ∧
        sink.publishError sizeBytes = none ∧ after = { sink with
          admissionRequests := sink.admissionRequests ++ [⟨topic, data, sizeBytes, sink.issued⟩]
          admissionQueuedBytes := sink.admissionQueuedBytes + sizeBytes
          admissionTask := match sink.admissionTask with
            | .absent => .waiting
            | running => running
          futures := Function.update sink.futures sink.issued .pending
          issued := sink.issued + 1 } := by
  unfold Sink.publish at stepped
  split at stepped
  · cases stepped
    exact .inl ⟨_, rfl⟩
  next sizeBytes sized =>
    split at stepped
    · cases stepped
      exact .inl ⟨_, rfl⟩
    next fits =>
      split at stepped
      · cases stepped
      next free =>
        split at stepped
        · cases stepped
          exact .inl ⟨_, rfl⟩
        next accepted =>
          cases stepped
          exact .inr ⟨sizeBytes, Nat.not_lt.mp fits, by simpa using free, accepted, rfl⟩

theorem publish_accounted {topic : String} {data : EventData Dict}
    (stepped : sink.publish topic data = some after) (accounted : sink.queueView.Accounted) :
    after.queueView.Accounted := by
  rcases publish_cases stepped with ⟨error, rfl⟩ | ⟨sizeBytes, fits, _, accepted, rfl⟩
  · exact accounted
  · refine accounted.enqueue fits (publishError_none accepted) ?_ ?_
    · show (match sink.admissionTask with
        | .absent => AdmissionTask.waiting
        | running => running).group = sink.admissionTask.group
      cases sink.admissionTask <;> rfl
    · cases sink.admissionTask <;> nofun

/-- The requests of a group are answered once its transaction has ended. -/
theorem groupCommits_accounted {disk : Disk} (stepped : sink.groupCommits disk = some after)
    (accounted : sink.queueView.Accounted) : after.queueView.Accounted := by
  unfold Sink.groupCommits at stepped
  split at stepped
  next group committing =>
    have outstanding : sink.queueView.outstanding = group ++ sink.admissionRequests := by
      simp [QueueView.outstanding, queueView, committing, AdmissionTask.group]
    dsimp only at stepped
    split at stepped
    next error failed =>
      cases stepped
      refine accounted.answer rfl (A := group ++ sink.admissionRequests)
        (fun result pending => ?_) rfl (fun _ none => absurd none List.not_mem_nil)
        (fun some => absurd rfl some) (fun _ => rfl) (fun request mem => ?_) ?_
      · obtain ⟨poisoned, notGroup⟩ := resolve_pending
          (by simp : Future.failed (.outbox error) ≠ .pending) pending
        obtain ⟨was, notQueued⟩ := resolve_pending
          (by simp : Future.failed (.outbox error) ≠ .pending) poisoned
        refine ⟨was, fun request mem => ?_⟩
        exact (List.mem_append.mp mem).elim (notGroup request) (notQueued request)
      · exact .inl (outstanding ▸ mem)
      · rw [outstanding]
        show List.Subperm ((group.map AdmissionRequest.result ++ committedResults sink.log) ++ [])
          (committedResults sink.log ++
            (group ++ sink.admissionRequests).map AdmissionRequest.result)
        rw [List.append_nil, List.map_append, ← List.append_assoc]
        exact List.perm_append_comm.subperm.trans (List.sublist_append_left _ _).subperm
    next flags admitted =>
      cases stepped
      refine accounted.answer rfl (A := group) (fun result pending => ?_) accounted.bytes
        (fun _ mem => mem) (fun _ gone => by cases gone) accounted.empty (fun request mem => ?_) ?_
      · exact resolve_pending (by simp : Future.accepted ≠ .pending) pending
      · rw [outstanding] at mem
        exact (List.mem_append.mp mem).imp id fun queued => List.mem_append_right _ queued
      · rw [outstanding]
        have committed : committedResults ((group.filter fun request =>
              decide (sink.futures request.result = .pending)).map
                (fun request => SinkEvent.accepted request.message) ++
              (.committed (group.map AdmissionRequest.result) :: sink.log)) =
            group.map AdmissionRequest.result ++ committedResults sink.log := by
          rw [committedResults_append, committedResults_accepted]
          rfl
        show List.Subperm (committedResults _ ++ sink.admissionRequests.map AdmissionRequest.result)
          (committedResults sink.log ++
            (group ++ sink.admissionRequests).map AdmissionRequest.result)
        rw [List.map_append, ← List.append_assoc]
        refine (List.subperm_append_right _).mpr ?_
        exact (committed ▸ List.perm_append_comm.subperm :)
  · cases stepped

theorem batchBegins_queueView {messages : List (Message Dict)}
    (stepped : sink.batchBegins messages = some after) : after.queueView = sink.queueView := by
  unfold batchBegins at stepped
  repeat' split at stepped
  all_goals first
    | cases stepped; rfl
    | cases stepped

theorem batchCommits_accounted {disk : Disk} (stepped : sink.batchCommits disk = some after)
    (accounted : sink.queueView.Accounted) : after.queueView.Accounted := by
  unfold batchCommits at stepped
  split at stepped
  · dsimp only at stepped
    split at stepped
    next error failed =>
      cases stepped
      exact accounted_of_emptied accounted (nofun : Future.failed (.outbox error) ≠ .pending)
        rfl rfl rfl rfl rfl rfl
    next flags admitted =>
      cases stepped
      have committed : committedResults (sink.batch.map .accepted ++ sink.log) =
          committedResults sink.log := by
        have none : committedResults (sink.batch.map SinkEvent.accepted) = [] :=
          committedResults_accepted sink.batch id
        rw [committedResults_append, none, List.nil_append]
      refine accounted.answer rfl (A := []) (fun result pending => ⟨pending, nofun⟩)
        accounted.bytes (fun _ mem => mem) accounted.served accounted.empty
          (fun _ mem => .inr mem) ?_
      show List.Subperm (committedResults (sink.batch.map .accepted ++ sink.log) ++ _) _
      rw [committed]
      exact List.Subperm.refl _
  · cases stepped

/-- Steps that neither queue nor answer a request leave the queue alone. -/
theorem step_queueView {action : Action Dict} (stepped : sink.step action = some after) :
    match action with
    | .publish .. | .cancelCaller _ | .groupBegins | .groupCommits _ | .batchCommits _
    | .closeLocks _ | .restart _ => True
    | _ => after.queueView = sink.queueView := by
  cases action
  case publishBatchResults => exact batchBegins_queueView stepped
  case publishFlowWithWatchBatch => exact batchBegins_queueView stepped
  all_goals first
    | trivial
    | simp only [step, start, scheduleDrain, batchCancelled, threadRuns, drainLoops, drainLocks,
        drainReads, drainWakes, childStarts, waiterAcquires, publisherReturns, drainSettles,
        drainSettled, closeCalled, closeJoins, deadlinePasses, closeCancels,
        closeFinishes] at stepped
      repeat' split at stepped
      all_goals first
        | cases stepped; rfl
        | cases stepped

/-- Every step keeps the books. -/
theorem step_accounted {action : Action Dict} (stepped : sink.step action = some after)
    (accounted : sink.queueView.Accounted) : after.queueView.Accounted := by
  have quiet := step_queueView stepped
  cases action with
  | publish topic data => exact publish_accounted stepped accounted
  | cancelCaller result =>
      obtain ⟨_, cancelled⟩ := Option.ite_none_right_eq_some.mp stepped
      cases cancelled
      exact accounted.cancel result
  | groupBegins => exact groupBegins_accounted stepped accounted
  | groupCommits disk => exact groupCommits_accounted stepped accounted
  | batchCommits disk => exact batchCommits_accounted stepped accounted
  | closeLocks i => exact closeLocks_accounted stepped accounted
  | restart config =>
      cases stepped
      exact restart_accounted accounted
  | _ => exact quiet ▸ accounted

/-- Only `close` and a restart move the closers, and a closed sink starts no admission task. -/
theorem step_closers {action : Action Dict} (stepped : sink.step action = some after) :
    match action with
    | .closeCalled _ | .closeLocks _ | .closeJoins _ | .deadlinePasses _ | .closeCancels _
    | .closeFinishes _ | .restart _ => True
    | _ => after.closers = sink.closers ∧ after.closed = sink.closed ∧
        (sink.closed → sink.admissionTask = .absent → after.admissionTask = .absent) := by
  cases action
  case publish topic data =>
    rcases publish_cases stepped with ⟨error, rfl⟩ | ⟨sizeBytes, _, _, accepted, rfl⟩
    · exact ⟨rfl, rfl, fun _ absent => absent⟩
    · have accepting := (publishError_none accepted).1
      exact ⟨rfl, rfl, fun closed => absurd (accepting.symm.trans closed) nofun⟩
  case groupBegins =>
    simp only [step, Sink.groupBegins] at stepped
    split at stepped
    next waiting _ =>
      repeat' split at stepped
      all_goals
        cases stepped
        exact ⟨rfl, rfl, fun _ absent => absurd (waiting.symm.trans absent) nofun⟩
    · cases stepped
  case groupCommits disk =>
    simp only [step, Sink.groupCommits] at stepped
    split at stepped
    next group committing =>
      repeat' split at stepped
      all_goals
        cases stepped
        exact ⟨rfl, rfl, fun _ absent => absurd (committing.symm.trans absent) nofun⟩
    · cases stepped
  all_goals first
    | trivial
    | simp only [step, publishBatchResults, publishFlowWithWatchBatch, batchBegins, batchCommits,
        cancelCaller, start, scheduleDrain, batchCancelled, threadRuns, drainLoops, drainLocks,
        drainReads, drainWakes, childStarts, waiterAcquires, publisherReturns, drainSettles,
        drainSettled] at stepped
      repeat' split at stepped
      all_goals first
        | cases stepped; exact ⟨rfl, rfl, fun _ absent => absent⟩
        | cases stepped

theorem step_joined {action : Action Dict} (stepped : sink.step action = some after)
    (joined : sink.Joined) : after.Joined := by
  have kept := step_closers stepped
  cases action
  case closeCalled i =>
    obtain ⟨_, called⟩ := Option.ite_none_right_eq_some.mp stepped
    cases called
    refine joined_setCloser joined ?_ ?_ <;> split <;> nofun
  case closeLocks i =>
    obtain ⟨_, locked⟩ := Option.ite_none_right_eq_some.mp stepped
    cases locked
    refine joined_setCloser (joined_of_kept joined rfl (fun _ => rfl) fun _ absent => absent)
      (fun _ => rfl) nofun
  case closeJoins i =>
    simp only [step, closeJoins] at stepped
    split at stepped
    next joining absent =>
      cases stepped
      refine joined_setCloser (joined_of_kept joined rfl id fun _ absent => absent) ?_
        fun _ => ⟨(joined i).1 joining, absent⟩
      split <;> nofun
    · cases stepped
  case deadlinePasses i =>
    obtain ⟨guarding, passed⟩ := Option.ite_none_right_eq_some.mp stepped
    cases passed
    exact joined_setCloser joined nofun fun _ => (joined i).2 (by rw [guarding]; rfl)
  case closeCancels i =>
    simp only [step, closeCancels] at stepped
    split at stepped
    next elapsed guarding =>
      obtain ⟨_, cancelled⟩ := Option.ite_none_right_eq_some.mp stepped
      cases cancelled
      have ended := (joined i).2 (by rw [guarding]; rfl)
      refine fun j => joined_setCloser (joined_of_kept joined rfl id fun _ absent => absent) ?_
        (fun _ => ended) j
      split <;> nofun
    · cases stepped
  case closeFinishes i =>
    obtain ⟨finishing, finished⟩ := Option.ite_none_right_eq_some.mp stepped
    cases finished
    exact joined_setCloser (joined_of_kept joined rfl id fun _ absent => absent) nofun nofun
  case restart config =>
    cases stepped
    exact fun i => ⟨nofun, nofun⟩
  all_goals exact joined_of_kept joined kept.1 (fun closed => kept.2.1.symm ▸ closed) kept.2.2

end Sink

/-- In every run of a sink, whoever queues, commits, fails, gives up or closes in whatever order,
the byte counter is the sum of the queued sizes whenever the storage lock is free, no request is
given to `admit_many` twice, and no request is unanswered once the admission task has ended, which
it has when `close` is past its wait for it. -/
theorem admission_accounted [Encoding Dict] {config : SinkConfig} {final : Sink Dict}
    (run : Runs (Sink.initial config) final) :
    (final.lock = none →
      final.admissionQueuedBytes = totalBytes final.admissionRequests) ∧
    (committedResults final.log).Nodup ∧
    (final.admissionTask = .absent →
      ∀ result < final.issued, final.futures result ≠ .pending) ∧
    ∀ i, (final.closers i).joined → final.admissionTask = .absent := by
  have accounted : final.queueView.Accounted :=
    run.keeps (P := fun sink => sink.queueView.Accounted)
    (fun _ _ _ stepped kept => step_accounted stepped kept)
    ⟨rfl, nofun, nofun, fun _ => rfl, nofun, nofun, .nil⟩
  have joined : final.Joined := run.keeps (P := Sink.Joined)
    (fun _ _ _ stepped kept => step_joined stepped kept) fun i => ⟨nofun, nofun⟩
  refine ⟨fun _ => accounted.bytes, (List.nodup_append.mp accounted.once).1,
    fun absent result lt pending => ?_, fun i here => ((joined i).2 here).2⟩
  obtain ⟨request, mem, _⟩ := accounted.held result lt pending
  have none : final.admissionRequests = [] := by
    by_contra some
    exact accounted.served some absent
  simp [QueueView.outstanding, queueView, absent, none, AdmissionTask.group] at mem

/-- A group does not fit the outbox and its second caller has given up when that is found out; then
the sink is closed. -/
theorem admission_accounted_poisoned :
    ∃ final, (Sink.initial ⟨some 1024, 8192, 16777216⟩ : Sink EventOnly).play
        [.publish "heber:events" (.dict ⟨"evt-1"⟩), .publish "heber:events" (.dict ⟨"evt-2"⟩),
          .groupBegins, .cancelCaller 1, .groupCommits roomyDisk, .closeCalled 0, .closeLocks 0,
          .closeJoins 0] = some final ∧
      (final.issued = 2 ∧ final.futures 1 = .cancelled) ∧
      ∀ result < final.issued, final.futures result ≠ .pending := by
  have played : ((Sink.initial ⟨some 1024, 8192, 16777216⟩ : Sink EventOnly).play
        [.publish "heber:events" (.dict ⟨"evt-1"⟩), .publish "heber:events" (.dict ⟨"evt-2"⟩),
          .groupBegins, .cancelCaller 1, .groupCommits roomyDisk, .closeCalled 0, .closeLocks 0,
          .closeJoins 0]).map (fun final => (final.closers 0, final.issued, final.futures 1)) =
      some (.finishing, 2, .cancelled) := by decide +kernel
  obtain ⟨final, ran, reached⟩ := Option.map_eq_some_iff.mp played
  obtain ⟨closer, rest⟩ := Prod.mk.inj reached
  obtain ⟨_, _, answered, joined⟩ := admission_accounted (play_runs ran)
  exact ⟨final, ran, Prod.mk.inj rest, answered (joined 0 (by rw [closer]; rfl))⟩

end Outbox
end DataGateway
