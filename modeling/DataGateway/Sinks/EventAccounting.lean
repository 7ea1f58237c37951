import DataGateway.Coroutine.Interleaving
import DataGateway.Sinks.EventQueue
import DataGateway.Sinks.RedisPublish

/-!
# Accounting for events

Each task has at most one event in hand.  An event leaves a task's hand for the queue, the sink, the
retry buffer or a loss record, unless it is dropped: the generic handler of `_safe_publish` drops
the event of a failed publish, and the open-circuit check drops what the retry buffer declines.
-/

namespace DataGateway
namespace Sinks

open Coroutine Machine Breaker

variable {Time ι : Type}

/-! ## The event in hand -/

/-- The event that a task has to account for, and whether the task is a worker that still runs. -/
structure Hand (ι : Type) where
  event : Option ι
  alive : Bool

/-- The hand after a reply.  An event that the code drops leaves the hand like any other. -/
def Hand.after (i : ι) (hand : Hand ι) : (command : WorkCommand ι) → command.Reply Time → Hand ι
  | .start, some _ => { hand with event := some i }
  | .setNx, .ok (some false) | .setNx, .error .cancelled => { hand with event := none }
  | .precheck, .ok _ | .precheck, .error (.runtime _) => hand
  | .precheck, .error _ => { hand with event := none }
  | .bufferEvent .precheck _, .error .runtime => hand
  | .bufferEvent .precheck _, _ => { hand with event := none }
  | .bufferEvent .timeout _, .ok false => hand
  | .bufferEvent .timeout _, _ => { hand with event := none }
  | .bufferEvent .salvage _, .ok true => { hand with event := none }
  | .put _, .timedOut => hand
  | .put _, _ => { hand with event := none }
  | .recordTimeoutLoss _, _ | .recordInflightLost _, _ => { hand with event := none }
  | .get, some item => { hand with event := item }
  | .lookup, .error (.runtime _) | .lookup, .error (.raised _) => { hand with event := none }
  | .publish _, .ok _ | .publish _, .error (.runtime _) | .publish _, .error (.raised _) =>
      { hand with event := none }
  | .exit, _ | .pause, _ => { hand with alive := false }
  | _, _ => hand

/-- A task takes an event only with an empty hand, and passes on only the event in its hand. -/
def Hand.Permits (i : ι) (hand : Hand ι) : WorkCommand ι → Prop
  | .setNx => ∀ held ∈ hand.event, held = i
  | .start | .get | .taskDone | .exit => hand.event = none
  | .bufferEvent _ event | .put event | .recordTimeoutLoss event | .publish event
  | .recordInflightLost event => ∀ held ∈ hand.event, held = event
  | _ => True

/-- The contract of one task. -/
def handling (Time : Type) (i : ι) : Contract (WorkCommand.Reply Time ι) (Hand ι) where
  may command hand := hand.Permits i command
  after command hand reply next := next = hand.after i command reply

section Tasks

variable {i event : ι} {hand : Hand ι}

theorem salvage_meets (own : ∀ held ∈ hand.event, held = event) :
    Meets (handling Time i)
    (fun outcome last => outcome = .ok () ∧ last = { hand with event := none })
      hand (salvage event) := by
  refine ⟨own, ?_⟩
  rintro (failure | _ | _) _ rfl
  · exact ⟨own, by rintro _ _ rfl; exact ⟨rfl, rfl⟩⟩
  · exact ⟨own, by rintro _ _ rfl; exact ⟨rfl, rfl⟩⟩
  · exact ⟨rfl, rfl⟩

/-- The worker may still have the event in hand when it is cancelled or the circuit is open; a
publish that has ended in any other way has left nothing in hand. -/
structure Published (event : ι) (outcome : Except (WorkError Time) Unit)
    (last : Hand ι) : Prop where
  alive : last.alive
  own : ∀ held ∈ last.event, held = event
  done : outcome ≠ .error .cancelled →
  (∀ rejection, outcome ≠ .error (.circuitOpen rejection)) → last.event = none

theorem Published.cancelled {outcome : Except (WorkError Time) Unit} {last : Hand ι}
    (published : Published event outcome last) :
    Published event (.error .cancelled : Except (WorkError Time) Unit) last :=
  ⟨published.alive, published.own, fun other => absurd rfl other⟩

theorem callSink_meets :
    Meets (handling Time i) (Published event) ⟨some event, true⟩ (callSink event) := by
  have own : ∀ held ∈ some event, held = event := by simp
  refine ⟨own, ?_⟩
  rintro (error | _ | _) _ rfl
  · cases error with
    | circuitOpen rejection => exact ⟨rfl, own, fun _ other => absurd rfl (other rejection)⟩
    | cancelled => exact ⟨rfl, own, fun other => absurd rfl other⟩
    | _ => exact ⟨rfl, nofun, fun _ _ => rfl⟩
  · exact ⟨rfl, nofun, fun _ _ => rfl⟩
  · exact ⟨rfl, nofun, fun _ _ => rfl⟩

/-- A section of the breaker leaves the hand alone. -/
theorem section_meets {part : Section} {next : part.Reply Time → Work Time ι Unit}
    {last : Hand ι}
    (cancelled : Published event (.error .cancelled : Except (WorkError Time) Unit) last)
    (rest : ∀ reply, Meets (handling Time i) (Published event) last (next reply)) :
    Meets (handling Time i) (Published event) last ((runWorkSection part).bind next) := by
  refine ⟨trivial, ?_⟩
  rintro (_ | reply) _ moved
  · have same : _ = last := moved
    exact same ▸ cancelled
  · have same : _ = last := moved
    exact same ▸ rest reply

theorem breakerCall_meets :
    Meets (handling Time i) (Published event) ⟨some event, true⟩
      (Breaker.call runWorkSection .circuitOpen WorkError.isException (callSink event)) := by
  have own : ∀ held ∈ some event, held = event := by simp
  refine section_meets ⟨rfl, own, fun other => absurd rfl other⟩ ?_
  rintro (rejection | holdingHalfOpenSlot)
  · exact ⟨rfl, own, fun _ other => absurd rfl (other rejection)⟩
  · refine callSink_meets.resolve ?_
    rintro (error | _) last published
    · dsimp only
      split
      · exact section_meets published.cancelled fun _ => published
      · split
        · exact section_meets published.cancelled fun _ => published
        · exact published
    · exact section_meets published.cancelled fun _ => published

/-- After `_safe_publish` the event is out of the worker's hand, unless the worker was cancelled. -/
def SafelyPublished (event : ι) (outcome : Except (WorkError Time) Unit) (last : Hand ι) : Prop :=
  last.alive ∧ match outcome with
    | .ok _ => last.event = none
    | .error error => error = .cancelled ∧ ∀ held ∈ last.event, held = event

theorem safePublish_meets :
    Meets (handling Time i) (SafelyPublished event) ⟨some event, true⟩ (safePublish event) := by
  have own : ∀ held ∈ some event, held = event := by simp
  refine Meets.catching (?_ : Meets (handling Time i) (Published event) _ _)
    (fun _ last published => ?_) fun error last published => ?_
  · refine ⟨trivial, ?_⟩
    rintro (error | _) _ rfl
    · cases error with
      | circuitOpen rejection => exact ⟨rfl, own, fun _ other => absurd rfl (other rejection)⟩
      | cancelled => exact ⟨rfl, own, fun other => absurd rfl other⟩
      | _ => exact ⟨rfl, by simp [Hand.after], fun _ _ => rfl⟩
    · exact breakerCall_meets
  · exact ⟨published.alive, published.done (by simp) (by simp)⟩
  · cases error with
    | circuitOpen rejection =>
        refine (salvage_meets published.own).mono ?_
        rintro _ _ ⟨rfl, rfl⟩
        exact ⟨published.alive, rfl⟩
    | cancelled => exact ⟨published.alive, rfl, published.own⟩
    | _ => exact ⟨published.alive, published.done (by simp) (by simp)⟩

theorem workerTurn_meets :
    Meets (handling Time i) (fun _ last => last = ⟨none, true⟩) ⟨some event, true⟩
      (workerTurn event) := by
  refine safePublish_meets.resolve ?_
  rintro (error | _) ⟨held, _⟩ ⟨rfl, ended⟩
  · obtain ⟨rfl, own⟩ := ended
    refine (salvage_meets own).bind (fun _ last ended => ?_) fun _ _ ended => nomatch ended.1
    obtain ⟨-, rfl⟩ := ended
    exact ⟨rfl, fun _ _ moved => moved⟩
  · obtain rfl : held = none := ended
    exact ⟨rfl, fun _ _ moved => moved⟩

theorem sinkWorkerLoop_meets (turns : Nat) :
    Meets (handling Time i) (fun _ last => last = ⟨none, false⟩) ⟨none, true⟩
      (sinkWorkerLoop turns) := by
  induction turns with
  | zero => exact ⟨trivial, fun _ _ moved => moved⟩
  | succ turns ih =>
      refine ⟨rfl, ?_⟩
      rintro (_ | _ | event) _ rfl
      · exact ⟨rfl, fun _ _ moved => moved⟩
      · refine ⟨rfl, ?_⟩
        rintro _ _ rfl
        exact ⟨rfl, fun _ _ moved => moved⟩
      · refine workerTurn_meets.resolve ?_
        rintro (error | _) _ rfl
        · exact ⟨rfl, fun _ _ moved => moved⟩
        · exact ih

theorem enqueueForSink_meets :
    Meets (handling Time i) (fun _ last => last = ⟨none, false⟩) ⟨some event, false⟩
      (enqueueForSink event) := by
  have own : ∀ held ∈ some event, held = event := by simp
  refine ⟨own, ?_⟩
  rintro (_ | _ | _) _ rfl
  · rfl
  · refine ⟨own, ?_⟩
    rintro (failure | _ | _) _ rfl
    · rfl
    · exact ⟨own, fun _ _ moved => moved⟩
    · rfl
  · rfl

theorem publishToSink_meets :
    Meets (handling Time i) (fun _ last => last = ⟨none, false⟩) ⟨some event, false⟩
      (publishToSink event) := by
  have own : ∀ held ∈ some event, held = event := by simp
  refine ⟨trivial, ?_⟩
  rintro (error | _ | _) _ rfl
  · cases error with
    | runtime message => exact enqueueForSink_meets
    | _ => rfl
  · exact enqueueForSink_meets
  · refine ⟨own, ?_⟩
    rintro ((_ | _) | _) _ rfl
    · exact enqueueForSink_meets
    · rfl
    · rfl

theorem publishAll_meets :
    Meets (handling Time i) (fun _ last => last = ⟨none, false⟩) ⟨none, false⟩
      (publishAll i) := by
  refine ⟨rfl, ?_⟩
  rintro (_ | _ | _) _ rfl
  · rfl
  · exact publishToSink_meets
  · refine ⟨by simp [handling, Hand.Permits, Hand.after], ?_⟩
    rintro (error | _ | _ | _) _ rfl
    · cases error with
      | cancelled => rfl
      | _ => exact publishToSink_meets
    · exact publishToSink_meets
    · rfl
    · exact publishToSink_meets

/-- No task ends with an event in hand. -/
theorem role_meets (role : Role) :
    Meets (handling Time i) (fun _ last => last = ⟨none, false⟩) ⟨none, role ≠ .publisher⟩
      (role.run i) := by
  cases role with
  | publisher => exact publishAll_meets
  | worker turns => exact sinkWorkerLoop_meets turns

end Tasks

/-! ## What excludes a loss -/

/-- The step loses no event: the registry is enabled and publishers are not cancelled; the retry
buffer takes what the open circuit keeps out, and the timeout's `buffer_event` and the worker's
breaker lookup do not raise; a publish fails only after the sink has kept the event; and workers are
there as long as events are queued. -/
def QueueWorld.LosesNothing (world : QueueWorld ι) (i : ι) :
    (command : WorkCommand ι) → command.Outcome Time → Prop
  | .start, _ => world.enabled
  | .setNx, reply => reply ≠ .error .cancelled
  | .precheck, reply => match reply with
      | .ok _ | .error (.runtime _) => True
      | .error _ => False
  | .bufferEvent .precheck _, reply => reply = .ok true ∨ reply = .error .runtime
  | .bufferEvent .timeout _, reply => ∃ taken, reply = .ok taken
  | .put _, ended => ended ≠ .cancelled ∧ (ended = .queued → world.workers ≠ [])
  | .lookup, reply => match reply with
      | .error (.runtime _) | .error (.raised _) => False
      | _ => True
  | .publish event, ⟨reply, keeps⟩ => match reply with
      | .ok false | .error (.runtime _) | .error (.raised _) => keeps ∨ event ∈ world.buffered
      | _ => True
  | .exit, _ => (∃ j ∈ world.workers, j ≠ i) ∨ ∀ item ∈ world.queue, item = none
  | _, _ => True

variable [DecidableEq ι]

/-- Runs whose steps all lose nothing. -/
def keepsEvents (ι Time : Type) [DecidableEq ι] : (queueMachine ι Time).Policy where
  allows i command outcome world := world.LosesNothing i command outcome
  permits _ _ := True

namespace QueueWorld

variable {world after : QueueWorld ι} {event : ι}

/-- The event was skipped, published, buffered or recorded as lost. -/
def Settled (world : QueueWorld ι) (event : ι) : Prop :=
  event ∈ world.skipped ∨ event ∈ world.published ∨ event ∈ world.buffered ∨
    event ∈ world.lost

end QueueWorld

/-- What holds between any two commands. -/
structure Accounted (world : QueueWorld ι) (hands : ι → Hand ι) : Prop where
  accounted : ∀ event ∈ world.requested,
    world.Settled event ∨ some event ∈ world.queue ∨ ∃ i, (hands i).event = some event
  working : ∀ i event, (hands i).event = some event → world.working i = some event
  staffed : ∀ event, some event ∈ world.queue → world.workers ≠ []
  alive : ∀ i ∈ world.workers, (hands i).alive

section Step

variable {world after : QueueWorld ι} {hands : ι → Hand ι} {i : ι}

/-- A step of one task: its event is settled, queued or still in its hand. -/
theorem Accounted.change (accounted : Accounted world hands) {next : Hand ι}
    (requested : ∀ event ∈ after.requested, event ∈ world.requested ∨ next.event = some event)
    (settled : ∀ event, world.Settled event → after.Settled event)
    (queued : ∀ event, some event ∈ world.queue →
      some event ∈ after.queue ∨ next.event = some event)
    (own : ∀ event, (hands i).event = some event →
      after.Settled event ∨ some event ∈ after.queue ∨ next.event = some event)
    (others : ∀ j ≠ i, after.working j = world.working j)
    (working : ∀ event, next.event = some event → after.working i = some event)
    (staffed : ∀ event, some event ∈ after.queue → after.workers ≠ [])
    (workers : ∀ j ∈ after.workers, j ∈ world.workers)
    (alive : i ∈ after.workers → next.alive) : Accounted after (Function.update hands i next) := by
  have mine : ∀ event, next.event = some event →
      ∃ j, (Function.update hands i next j).event = some event := fun event here =>
    ⟨i, by simpa using here⟩
  refine ⟨fun event mem => ?_, fun j event here => ?_, staffed, fun j mem => ?_⟩
  · rcases requested event mem with old | new
    · rcases accounted.accounted event old with done | waiting | ⟨j, held⟩
      · exact .inl (settled event done)
      · exact .inr ((queued event waiting).imp_right (mine event))
      · by_cases same : j = i
        · subst same
          exact (own event held).imp_right (Or.imp_right (mine event))
        · exact .inr (.inr ⟨j, by simpa [Function.update_of_ne same] using held⟩)
    · exact .inr (.inr (mine event new))
  · by_cases same : j = i
    · subst same
      exact working event (by simpa using here)
    · rw [others j same]
      exact accounted.working j event (by simpa [Function.update_of_ne same] using here)
  · by_cases same : j = i
    · subst same
      simpa using alive mem
    · simpa [Function.update_of_ne same] using accounted.alive j (workers j mem)

/-- A step that leaves the queue alone: the task keeps its event, or the event is settled. -/
theorem Accounted.keep (accounted : Accounted world hands) {next : Hand ι}
    (requested : after.requested = world.requested) (queue : after.queue = world.queue)
    (workers : after.workers = world.workers) (working : after.working = world.working)
    (settled : ∀ event, world.Settled event → after.Settled event)
    (alive : next.alive = (hands i).alive)
    (event : next.event = (hands i).event ∨
      next.event = none ∧ ∀ event, (hands i).event = some event → after.Settled event) :
    Accounted after (Function.update hands i next) := by
  refine accounted.change (fun event mem => .inl (requested ▸ mem)) settled
    (fun event mem => .inl (queue ▸ mem)) (fun held here => ?_) (fun j _ => by rw [working])
    (fun held here => ?_) (fun event mem => workers ▸ accounted.staffed event (queue ▸ mem))
    (fun j mem => workers ▸ mem) (fun mem => alive ▸ accounted.alive i (workers ▸ mem))
  · rcases event with same | ⟨_, done⟩
    · exact .inr (.inr (same ▸ here))
    · exact .inl (done held here)
  · rcases event with same | ⟨none, _⟩
    · rw [working]
      exact accounted.working i held (same ▸ here)
    · rw [none] at here
      cases here

/-- A step that changes nothing that matters here. -/
theorem Accounted.idle (accounted : Accounted world hands) :
    Accounted world (Function.update hands i (hands i)) :=
  accounted.keep rfl rfl rfl rfl (fun _ => id) rfl (.inl rfl)

/-- `publish_all` takes an event. -/
theorem Accounted.start (accounted : Accounted world hands) (empty : (hands i).event = none) :
    Accounted { world with
      requested := i :: world.requested
      working := Function.update world.working i (some i) }
    (Function.update hands i { hands i with event := some i }) := by
  refine accounted.change (fun event mem => ?_) (fun _ => id) (fun event => .inl)
    (fun event here => ?_) (fun j other => Function.update_of_ne other ..) (fun event here => ?_)
    accounted.staffed (fun _ => id) (accounted.alive i)
  · rcases List.mem_cons.mp mem with rfl | old
    · exact .inr rfl
    · exact .inl old
  · rw [empty] at here
    cases here
  · exact (Function.update_self ..).trans here

/-- The event goes into the queue. -/
theorem Accounted.put (accounted : Accounted world hands) {event : ι}
    (own : ∀ held ∈ (hands i).event, held = event) (staffed : world.workers ≠ []) :
    Accounted { world with
      queue := world.queue ++ [some event]
      working := Function.update world.working i none }
    (Function.update hands i { hands i with event := none }) := by
  refine accounted.change (fun event => .inl) (fun _ => id)
    (fun event mem => .inl (List.mem_append_left _ mem)) (fun held here => .inr (.inl ?_))
    (fun j other => Function.update_of_ne other ..) nofun (fun _ _ => staffed) (fun _ => id)
    (accounted.alive i)
  obtain rfl := own held here
  simp

/-- The event is recorded as lost. -/
theorem Accounted.record (accounted : Accounted world hands) {event : ι}
    (own : ∀ held ∈ (hands i).event, held = event) :
    Accounted { world with lost := event :: world.lost }
      (Function.update hands i { hands i with event := none }) := by
  refine accounted.keep rfl rfl rfl rfl
    (fun _ => Or.imp_right (Or.imp_right (Or.imp_right (.tail _))))
    rfl (.inr ⟨rfl, fun held here => ?_⟩)
  obtain rfl := own held here
  exact .inr (.inr (.inr (.head _)))

/-- A worker takes the next item of the queue. -/
theorem Accounted.get (accounted : Accounted world hands) {item : Option ι} {rest : List (Option ι)}
    (queue : world.queue = item :: rest) (empty : (hands i).event = none) :
    Accounted { world with queue := rest, working := Function.update world.working i item }
    (Function.update hands i { hands i with event := item }) := by
  refine accounted.change (fun event => .inl) (fun _ => id) (fun event mem => ?_)
    (fun event here => ?_) (fun j other => Function.update_of_ne other ..) (fun event here => ?_)
    (fun event mem => accounted.staffed event (queue ▸ List.mem_cons_of_mem _ mem)) (fun _ => id)
    (accounted.alive i)
  · rw [queue] at mem
    exact (List.mem_cons.mp mem).symm.imp_right Eq.symm
  · rw [empty] at here
    cases here
  · exact (Function.update_self ..).trans here

/-- The task is done with its event. -/
theorem Accounted.taskDone (accounted : Accounted world hands) (empty : (hands i).event = none) :
    Accounted { world with working := Function.update world.working i none }
      (Function.update hands i (hands i)) := by
  refine accounted.change (fun event => .inl) (fun _ => id) (fun event => .inl)
    (fun event here => ?_) (fun j other => Function.update_of_ne other ..) (fun event here => ?_)
    accounted.staffed (fun _ => id) (accounted.alive i)
  all_goals
    rw [empty] at here
    cases here

/-- A worker's task is done. -/
theorem Accounted.exit (accounted : Accounted world hands) (empty : (hands i).event = none)
    (allowed : (∃ j ∈ world.workers, j ≠ i) ∨ ∀ item ∈ world.queue, item = none) :
    Accounted { world with workers := world.workers.filter (· ≠ i) }
      (Function.update hands i { hands i with alive := false }) := by
  refine accounted.change (fun event => .inl) (fun _ => id) (fun event => .inl)
    (fun event here => ?_) (fun _ _ => rfl) (fun event here => ?_) (fun event mem => ?_)
    (fun j mem => (List.mem_filter.mp mem).1) (fun mem => by simp at mem)
  · rw [empty] at here
    cases here
  · have held : (hands i).event = some event := here
    rw [empty] at held
    cases held
  · rcases allowed with ⟨j, other, different⟩ | none
    · exact List.ne_nil_of_mem (List.mem_filter.mpr ⟨other, by simpa using different⟩)
    · cases none _ mem

/-- `sink.publish` has ended: the event is published, kept by the sink or still
in the worker's hand. -/
theorem Accounted.publish (accounted : Accounted world hands) {event : ι}
    {outcome : PublishOutcome Time} (own : ∀ held ∈ (hands i).event, held = event)
    (allowed : world.LosesNothing i (.publish event) outcome) :
    Accounted (world.afterPublish event outcome)
      (Function.update hands i ((hands i).after i (.publish event) outcome.reply)) := by
  obtain ⟨reply, keeps⟩ := outcome
  have buffered : ∀ other ∈ world.buffered,
      other ∈ if keeps then event :: world.buffered else world.buffered := by
    intro other mem
    split
    · exact .tail _ mem
    · exact mem
  have kept (here : keeps ∨ event ∈ world.buffered) :
      event ∈ if keeps then event :: world.buffered else world.buffered := by
    rcases here with rfl | old
    · exact .head _
    · exact buffered event old
  rcases reply with error | _ | _
  · cases error with
    | circuitOpen rejection =>
        exact accounted.keep rfl rfl rfl rfl
          (fun _ => Or.imp_right (Or.imp_right (Or.imp_left (buffered _)))) rfl (.inl rfl)
    | cancelled =>
        exact accounted.keep rfl rfl rfl rfl
          (fun _ => Or.imp_right (Or.imp_right (Or.imp_left (buffered _)))) rfl (.inl rfl)
    | _ =>
        refine accounted.keep rfl rfl rfl rfl
          (fun _ => Or.imp_right (Or.imp_right (Or.imp_left (buffered _)))) rfl
          (.inr ⟨rfl, fun held here => ?_⟩)
        obtain rfl := own held here
        exact .inr (.inr (.inl (kept allowed)))
  · refine accounted.keep rfl rfl rfl rfl
      (fun _ => Or.imp_right (Or.imp_right (Or.imp_left (buffered _)))) rfl
      (.inr ⟨rfl, fun held here => ?_⟩)
    obtain rfl := own held here
    exact .inr (.inr (.inl (kept allowed)))
  · refine accounted.keep rfl rfl rfl rfl
      (fun _ => Or.imp_right (Or.imp (.tail _) (Or.imp_left (buffered _)))) rfl
      (.inr ⟨rfl, fun held here => ?_⟩)
    obtain rfl := own held here
    exact .inr (.inl (.head _))

omit [DecidableEq ι] in
/-- A shutdown sentinel is no event. -/
theorem Accounted.sentinel (accounted : Accounted world hands) :
    Accounted { world with queue := world.queue ++ [none] } hands := by
  have queued (event : ι) : some event ∈ world.queue ++ [none] ↔
      some event ∈ world.queue := by simp
  refine ⟨fun event mem => ?_, accounted.working, fun event mem => ?_, accounted.alive⟩
  · exact (accounted.accounted event mem).imp_right (Or.imp_left (queued event).mpr)
  · exact accounted.staffed event ((queued event).mp mem)

/-- One command of a task that keeps its contract. -/
theorem Accounted.step {command : WorkCommand ι} {outcome : command.Outcome Time}
    {reply : command.Reply Time} (accounted : Accounted world hands)
    (permitted : (hands i).Permits i command) (allowed : world.LosesNothing i command outcome)
    (performed : performWork i command outcome world = some (reply, after)) :
    Accounted after (Function.update hands i ((hands i).after i command reply)) := by
  cases command with
  | start =>
      have on : world.enabled = true := allowed
      rw [performWork, if_pos on] at performed
      cases performed
      exact accounted.start permitted
  | setNx =>
      cases performed
      rcases outcome with error | _ | _ | _
      · cases error with
        | cancelled => exact absurd rfl allowed
        | _ => exact accounted.idle
      · exact accounted.idle
      · refine accounted.keep rfl rfl rfl rfl (fun event => Or.imp_left (.tail _)) rfl
          (.inr ⟨rfl, fun held here => ?_⟩)
        obtain rfl := permitted held here
        exact .inl (.head _)
      · exact accounted.idle
  | precheck =>
      cases performed
      rcases outcome with error | skip
      · cases error with
        | runtime message => exact accounted.idle
        | _ => exact allowed.elim
      · exact accounted.idle
  | bufferEvent site event =>
      cases performed
      have took : Accounted { world with buffered := event :: world.buffered }
          (Function.update hands i { hands i with event := none }) := by
        refine accounted.keep rfl rfl rfl rfl
          (fun _ => Or.imp_right (Or.imp_right (Or.imp_left (.tail _))))
          rfl (.inr ⟨rfl, fun held here => ?_⟩)
        obtain rfl := permitted held here
        exact .inr (.inr (.inl (.head _)))
      cases site with
      | precheck =>
          rcases allowed with rfl | rfl
          · exact took
          · exact accounted.idle
      | timeout =>
          obtain ⟨taken, rfl⟩ := allowed
          cases taken with
          | true => exact took
          | false => exact accounted.idle
      | salvage =>
          rcases outcome with failure | _ | _
          · exact accounted.idle
          · exact accounted.idle
          · exact took
  | put event =>
      cases outcome with
      | queued =>
          obtain ⟨_, same⟩ := Option.ite_none_right_eq_some.mp performed
          cases same
          exact accounted.put permitted (allowed.2 rfl)
      | timedOut =>
          cases performed
          exact accounted.idle
      | cancelled => exact absurd rfl allowed.1
  | recordTimeoutLoss event =>
      cases performed
      exact accounted.record permitted
  | recordInflightLost event =>
      cases performed
      exact accounted.record permitted
  | get =>
      cases outcome with
      | true =>
          cases performed
          exact accounted.idle
      | false =>
          simp only [performWork] at performed
          split at performed
          · cases performed
          next item rest queue =>
            cases performed
            exact accounted.get queue permitted
  | lookup =>
      cases performed
      rcases outcome with error | _
      · cases error with
        | circuitOpen rejection => exact accounted.idle
        | cancelled => exact accounted.idle
        | _ => exact allowed.elim
      · exact accounted.idle
  | inside part =>
      cases performed
      exact accounted.idle
  | publish event =>
      cases performed
      exact accounted.publish permitted allowed
  | taskDone =>
      cases performed
      exact accounted.taskDone permitted
  | exit =>
      cases performed
      exact accounted.exit permitted allowed
  | pause => cases performed

end Step

/-! ## Runs -/

/-- The registry and its tasks. -/
abbrev QueueConfig (ι Time : Type) :=
  Config ι (WorkCommand.Reply Time ι) (WorkError Time) Unit (QueueWorld ι)

/-- A registry with an empty queue, its workers, and the publishers that will use it. -/
def newQueue (Time : Type) (queueSize : Nat) (workers : List ι) (roles : ι → Role) :
    QueueConfig ι Time :=
  ⟨⟨queueSize, [], true, workers, [], [], [], [], [], fun _ => none⟩, fun i => (roles i).run i⟩

/-- The task has not ended. -/
def Unfinished (config : QueueConfig ι Time) (i : ι) : Prop :=
  ∃ command resume, config.tasks i = .suspend command resume

/-- The event is queued while a worker runs, or a task is still working on it. -/
def Pending (config : QueueConfig ι Time) (event : ι) : Prop :=
  (some event ∈ config.world.queue ∧ ∃ i ∈ config.world.workers, Unfinished config i) ∨
    ∃ i, config.world.working i = some event ∧ Unfinished config i

/-- Every event that was given to `publish_all` is a duplicate, published, in the retry buffer,
recorded as lost, or still pending. -/
def EventsAccounted (config : QueueConfig ι Time) : Prop :=
  ∀ event ∈ config.world.requested, config.world.Settled event ∨ Pending config event

/-- Every event is accounted for in a run whose steps all lose nothing.  The Redis sink
itself keeps the event of every publish that it refuses while it is open, but of none that
ends in an exception. -/
theorem events_accounted {queueSize : Nat} {workers : List ι} {roles : ι → Role}
    {final : QueueConfig ι Time} (staffed : ∀ i ∈ workers, roles i ≠ .publisher)
    (reach : Reaches (keepsEvents ι Time) (newQueue Time queueSize workers roles) final) :
    EventsAccounted final ∧
      ∀ outcome log, Ends (Contract.logged _) [] redisPublish outcome log →
        PublishEnds outcome log := by
  have start : Accounted (newQueue Time queueSize workers roles).world
      fun i => ⟨none, decide (roles i ≠ .publisher)⟩ :=
    ⟨nofun, fun _ _ => nofun, fun _ => nofun, fun i mem => by simpa using staffed i mem⟩
  obtain ⟨hands, accounted, tasks⟩ := reach.invariant
    (fun world hands i command outcome reply after holds permitted allowed performed =>
      ⟨_, rfl, holds.step permitted allowed performed⟩)
    (fun world hands move holds _ => by
      cases move with
      | enabled value => exact ⟨holds.accounted, holds.working, holds.staffed, holds.alive⟩
      | sentinel =>
          simp only [queueMachine]
          split
          · exact holds.sentinel
          · exact holds)
    start (fun i => role_meets (roles i))
  have unfinished (i : ι) (busy : hands i ≠ ⟨none, false⟩) : Unfinished final i := by
    have task := tasks i
    cases left : final.tasks i with
    | finish outcome =>
        rw [left] at task
        exact absurd task busy
    | suspend command resume => exact ⟨command, resume, left⟩
  refine ⟨fun event mem => ?_, fun outcome log ends => ends.meets redisPublish_ends⟩
  refine (accounted.accounted event mem).imp_right ?_
  rintro (queued | ⟨i, held⟩)
  · obtain ⟨i, worker⟩ := List.exists_mem_of_ne_nil _ (accounted.staffed event queued)
    have alive := accounted.alive i worker
    exact .inl ⟨queued, i, worker, unfinished i fun same => by simp [same] at alive⟩
  · exact .inr ⟨i, accounted.working i event held, unfinished i fun same => by simp [same] at held⟩

/-! ## A publish that raises -/

section Raising

/-- The condition on a run can be evaluated. -/
def QueueWorld.decideLosesNothing (world : QueueWorld ι) (i : ι) :
    (command : WorkCommand ι) → (outcome : command.Outcome Time) →
      Decidable (world.LosesNothing i command outcome)
  | .start, _ => inferInstanceAs (Decidable (world.enabled = true))
  | .setNx, .error .cancelled => .isFalse fun other => other rfl
  | .setNx, .ok _ | .setNx, .error (.runtime _) | .setNx, .error (.raised _)
  | .setNx, .error (.circuitOpen _) => .isTrue nofun
  | .precheck, .ok _ | .precheck, .error (.runtime _) => .isTrue trivial
  | .precheck, .error (.circuitOpen _) | .precheck, .error (.raised _)
  | .precheck, .error .cancelled => .isFalse id
  | .bufferEvent .precheck _, .ok true => .isTrue (.inl rfl)
  | .bufferEvent .precheck _, .error .runtime => .isTrue (.inr rfl)
  | .bufferEvent .precheck _, .ok false | .bufferEvent .precheck _, .error .other =>
      .isFalse nofun
  | .bufferEvent .timeout _, .ok taken => .isTrue ⟨taken, rfl⟩
  | .bufferEvent .timeout _, .error _ => .isFalse nofun
  | .bufferEvent .salvage _, _ => .isTrue trivial
  | .put _, ended => inferInstanceAs (Decidable
      (ended ≠ .cancelled ∧ (ended = .queued → world.workers ≠ [])))
  | .lookup, .error (.runtime _) | .lookup, .error (.raised _) => .isFalse id
  | .lookup, .ok _ | .lookup, .error (.circuitOpen _) | .lookup, .error .cancelled =>
      .isTrue trivial
  | .publish event, ⟨.ok false, keeps⟩ | .publish event, ⟨.error (.runtime _), keeps⟩
  | .publish event, ⟨.error (.raised _), keeps⟩ =>
      inferInstanceAs (Decidable (keeps = true ∨ event ∈ world.buffered))
  | .publish _, ⟨.ok true, _⟩ | .publish _, ⟨.error (.circuitOpen _), _⟩
  | .publish _, ⟨.error .cancelled, _⟩ => .isTrue trivial
  | .exit, _ => inferInstanceAs (Decidable
      ((∃ j ∈ world.workers, j ≠ i) ∨ ∀ item ∈ world.queue, item = none))
  | .get, _ | .inside _, _ | .recordTimeoutLoss _, _ | .recordInflightLost _, _ | .taskDone, _
  | .pause, _ => .isTrue trivial

instance : (keepsEvents ι Time).Decides where
  act i command outcome world := world.decideLosesNothing i command outcome
  calm _ _ := .isTrue trivial

/-- One event and one worker. -/
def oneEvent : QueueConfig Bool Int :=
  newQueue Int 4 [true] fun
    | false => .publisher
    | true => .worker 1

/-- Let a task go on: the sink answers this way, the circuit is closed and
nothing else goes wrong. -/
def queueTurn (i : Bool) (outcome : PublishOutcome Int) : Turn (queueMachine Bool Int) :=
  .run i fun
    | .start => false
    | .setNx => .ok none
    | .precheck => .ok false
    | .bufferEvent _ _ => .ok true
    | .put _ => .queued
    | .get => false
    | .lookup => .ok ()
    | .inside .admission => some (.ok false)
    | .inside .onSuccess | .inside .onFailure | .inside .releaseSlot | .inside .reset => some ()
    | .publish _ => outcome
    | .recordTimeoutLoss _ | .recordInflightLost _ | .taskDone | .exit | .pause => ()

/-- The event is queued and the worker publishes it. -/
def publishOne (outcome : PublishOutcome Int) : List (Turn (queueMachine Bool Int)) :=
  List.replicate 3 (queueTurn false outcome) ++ List.replicate 6 (queueTurn true outcome)

/-- A sink that has kept the event of a publish that it refuses. -/
theorem events_accounted_kept :
    ∃ final, oneEvent.play (keepsEvents Bool Int) (publishOne ⟨.ok false, true⟩) = some final ∧
      final.world.buffered = [false] ∧ EventsAccounted final := by
  have played : (oneEvent.play (keepsEvents Bool Int) (publishOne ⟨.ok false, true⟩)).map
      (·.world.buffered) = some [false] := by decide
  obtain ⟨final, ran, buffered⟩ := Option.map_eq_some_iff.mp played
  exact ⟨final, ran, buffered, (events_accounted (by decide) (Config.play_reaches ran)).1⟩

/-- `sink.publish` raises, and the event has disappeared. -/
theorem raising_publish_drops_event :
    ∃ final, Reaches (Policy.free (queueMachine Bool Int)) oneEvent final ∧
      final.world.requested = [false] ∧ ¬ EventsAccounted final := by
  have played : (oneEvent.play (Policy.free (queueMachine Bool Int))
      (publishOne ⟨.error (.raised "not serializable"), false⟩)).map (fun final =>
        (final.world.requested, final.world.queue,
          final.world.skipped ++ final.world.published ++ final.world.buffered ++ final.world.lost,
          final.world.working false, final.world.working true)) =
      some ([false], [], [], none, none) := by decide
  obtain ⟨final, ran, reached⟩ := Option.map_eq_some_iff.mp played
  simp only [Prod.mk.injEq, List.append_eq_nil_iff] at reached
  obtain ⟨requested, queue, ⟨⟨⟨skipped, published⟩, buffered⟩, lost⟩, first, second⟩ :=
    reached
  refine ⟨final, Config.play_reaches ran, requested, fun accounted => ?_⟩
  rcases accounted false (by simp [requested]) with settled | ⟨queued, _⟩ | ⟨i, working, _⟩
  · simp [QueueWorld.Settled, skipped, published, buffered, lost] at settled
  · simp [queue] at queued
  · cases i
    · simp [first] at working
    · simp [second] at working

end Raising

end Sinks
end DataGateway
