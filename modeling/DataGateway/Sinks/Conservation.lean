import DataGateway.Sinks.FailedBuffer

/-!
# Conservation in the failed-event buffer

A drain empties the buffer before it publishes anything, so until it re-buffers it is the only place
where its events are.  A drain that ends by itself gives back what Redis has refused; a drain that
is broken off gives back nothing.
-/

namespace DataGateway
namespace Sinks

open Coroutine Machine Indexed

variable {ι Event : Type}

/-! ## What a drain still holds -/

/-- The part of a drain's events that it has to give back: nothing before its snapshot and after it
has re-buffered, and no event that Redis has confirmed. -/
def drainHolds : Contract (BufferCommand.Reply Event) (List (FailedEvent Event)) where
  may command held := match command with
    | .snapshot => held = []
    | .rebuffer events _ => ∀ event ∈ held, event ∈ events
    | _ => True
  after command held reply next := match command, reply with
    | .snapshot, some events => next = events
    | .execute _, .interrupted _ => next = []
    | .execute chunk, .replies answers _ => next = held.filter fun event =>
        event.id ∉ confirmed chunk answers
    | .rebuffer .., _ => next = []
    | _, _ => next = held

theorem refused_of_not_confirmed {chunk : List (FailedEvent Event)} {answers : List XaddReply}
    {event : FailedEvent Event} (full : answers.length = chunk.length) (mem : event ∈ chunk)
    (unconfirmed : event.id ∉ confirmed chunk answers) : event ∈ refused chunk answers := by
  obtain ⟨j, here⟩ := List.mem_iff_getElem?.mp mem
  obtain ⟨lt, -⟩ := List.getElem?_eq_some_iff.mp here
  have paired : (event, answers[j]) ∈ chunk.zip answers :=
    List.mem_iff_getElem?.mpr ⟨j, List.getElem?_zip_eq_some.mpr
      ⟨here, List.getElem?_eq_getElem (full ▸ lt)⟩⟩
  refine List.mem_map.mpr ⟨_, List.mem_filter.mpr ⟨paired, ?_⟩, rfl⟩
  by_contra accepted
  exact unconfirmed
    (List.mem_map.mpr ⟨_, List.mem_filter.mpr ⟨paired, by simpa using accepted⟩, rfl⟩)

/-- The loop keeps every event it holds in the list to re-buffer or in a chunk that
is still to come. -/
theorem drainChunks_meets {held : List (FailedEvent Event)} (all : List (List (FailedEvent Event)))
    (start : ∀ event ∈ held, event ∈ all.flatten) :
    Meets drainHolds (fun outcome held => match outcome with
      | .ok (reBuffer, _) => ∀ event ∈ held, event ∈ reBuffer
      | .error _ => held = []) held (foldEach drainChunk ([], 0) all) := by
  refine (Meets.foldEach (fun rest (state : List (FailedEvent Event) × Nat) held =>
    ∀ event ∈ held, event ∈ state.1 ∨ event ∈ rest.flatten) (fun _ held => held = [])
      (fun event mem =>
      .inr (start event mem)) ?_).mono ?_
  · rintro chunk rest ⟨reBuffer, drained⟩ held inside
    refine ⟨trivial, ?_⟩
    rintro (_ | how | ⟨answers, full⟩) _ rfl
    · intro event mem
      have place := inside event mem
      rw [List.flatten_cons, List.mem_append] at place
      rw [List.mem_append]
      tauto
    · rfl
    · intro event mem
      obtain ⟨mem, unconfirmed⟩ := List.mem_filter.mp mem
      have place := inside event mem
      have back : event ∈ chunk → event ∈ refused chunk answers := fun here =>
        refused_of_not_confirmed full here (by simpa using unconfirmed)
      rw [List.flatten_cons, List.mem_append] at place
      rw [List.mem_append]
      tauto
  · rintro (how | ⟨reBuffer, drained⟩) last holds
    · exact holds
    · exact fun event mem => (holds event mem).resolve_right (by simp)

/-- From the start the task keeps its contract, and it ends without holding any event. -/
abbrev Returns (body : BufferTask Event Unit) : Prop :=
  Meets drainHolds (fun _ held => held = []) [] body

theorem doDrain_returns : Returns (doDrain : BufferTask Event Unit) := by
  refine ⟨rfl, ?_⟩
  rintro (_ | events) _ rfl
  · rfl
  · refine (drainChunks_meets _ fun event mem => ?_).bind
      (fun (reBuffer, drained) held covers => ?_)
      fun _ _ ended => ended
    · rwa [flatten_chunks batchChunkSize_pos]
    · exact ⟨covers, fun _ _ moved => moved⟩

theorem drainBuffer_returns : Returns (drainBuffer : BufferTask Event Unit) := by
  refine ⟨trivial, ?_⟩
  rintro (_ | _) _ rfl
  · rfl
  · refine ⟨trivial, ?_⟩
    rintro (how | _) _ rfl
    · rfl
    · refine doDrain_returns.ensuring ?_
      rintro _ _ rfl
      exact ⟨trivial, fun _ _ moved => moved⟩

theorem finalDrain_returns : Returns (finalDrain : BufferTask Event Unit) := by
  refine ⟨trivial, ?_⟩
  rintro (_ | _) _ rfl
  · rfl
  · refine doDrain_returns.catching (fun _ _ ended => ended) ?_
    rintro (_ | _) _ ended <;> exact ended

theorem operation_returns (operation : BufferOperation Event) : Returns operation.run := by
  cases operation with
  | buffer event => exact ⟨trivial, fun _ _ moved => moved⟩
  | drain => exact drainBuffer_returns
  | schedule =>
      refine ⟨trivial, ?_⟩
      rintro (_ | _) _ rfl
      · rfl
      · exact drainBuffer_returns
  | close =>
      refine finalDrain_returns.bind ?_ fun _ _ ended => ended
      rintro _ _ rfl
      refine ⟨trivial, ?_⟩
      rintro _ _ rfl
      refine ⟨trivial, ?_⟩
      rintro (how | _) _ rfl
      · rfl
      · exact ⟨trivial, fun _ _ moved => moved⟩

/-! ## Where the events are -/

namespace BufferWorld

variable {world : BufferWorld ι Event} {event : FailedEvent Event} {id : Nat}

/-- Redis has the event, or the buffer has it, or it was counted as evicted. -/
def Keeps (world : BufferWorld ι Event) (id : Nat) : Prop :=
  id ∈ world.accepted ∨ (∃ event ∈ world.failedBuffer.items, event.id = id) ∨
    id ∈ world.evicted

/-- Appending an event keeps every other one: what the buffer drops is counted. -/
theorem Keeps.bufferFailedEvent (keeps : world.Keeps id) :
    (world.bufferFailedEvent event).Keeps id := by
  rcases keeps with accepted | ⟨old, mem, rfl⟩ | evicted
  · exact .inl accepted
  · rcases world.failedBuffer.mem_append mem with still | dropped
    · exact .inr (.inl ⟨old, still, rfl⟩)
    · exact .inr (.inr (by simp [BufferWorld.bufferFailedEvent, dropped]))
  · exact .inr (.inr (List.mem_append_right _ evicted))

theorem keeps_bufferFailedEvent : (world.bufferFailedEvent event).Keeps event.id :=
  .inr (.inl ⟨event, Deque.mem_append_self .., rfl⟩)

/-- Re-buffering keeps what was kept, and every event that it appends. -/
theorem keeps_rebuffered (events : List (FailedEvent Event))
    (place : world.Keeps id ∨ ∃ event ∈ events, event.id = id) :
    (events.foldl BufferWorld.bufferFailedEvent world).Keeps id := by
  induction events generalizing world with
  | nil => simpa using place
  | cons event rest ih =>
      refine ih ?_
      rcases place with keeps | ⟨other, mem, rfl⟩
      · exact .inl keeps.bufferFailedEvent
      · rcases List.mem_cons.mp mem with rfl | later
        · exact .inl keeps_bufferFailedEvent
        · exact .inr ⟨other, later, rfl⟩

/-- The counter is the number of events that were dropped. -/
def Counted (world : BufferWorld ι Event) : Prop := world.stats.evicted = world.evicted.length

theorem Counted.bufferFailedEvent (counted : world.Counted) (event : FailedEvent Event) :
    (world.bufferFailedEvent event).Counted := by
  have some := world.failedBuffer.dropped_isSome
  unfold Counted at counted ⊢
  cases dropped : world.failedBuffer.dropped with
  | none =>
      rw [dropped] at some
      simp [BufferWorld.bufferFailedEvent, dropped, ← some, counted]
  | some oldest =>
      rw [dropped] at some
      simp [BufferWorld.bufferFailedEvent, dropped, ← some, counted]

theorem rebuffered_rest (events : List (FailedEvent Event)) (world : BufferWorld ι Event) :
    (events.foldl BufferWorld.bufferFailedEvent world).appended = world.appended ∧
      (events.foldl BufferWorld.bufferFailedEvent world).reports = world.reports ∧
      (world.Counted → (events.foldl BufferWorld.bufferFailedEvent world).Counted) := by
  induction events generalizing world with
  | nil => exact ⟨rfl, rfl, id⟩
  | cons event rest ih =>
      obtain ⟨appended, reports, counted⟩ := ih (world.bufferFailedEvent event)
      exact ⟨appended, reports, fun before => counted (before.bufferFailedEvent event)⟩

end BufferWorld

/-! ## Runs -/

/-- A drain is broken off only when Redis has accepted its whole snapshot. -/
def BufferWorld.LosesNothing (world : BufferWorld ι Event) (i : ι) :
    (command : BufferCommand Event) → command.Outcome → Prop
  | .execute _, ⟨taken, .interrupted _⟩ =>
      ∀ event ∈ world.snapshots i, event.id ∈ taken ∨ event.id ∈ world.accepted
  | _, _ => True

variable [DecidableEq ι]

/-- Runs in which no drain is broken off while it has an event that Redis has not accepted. -/
def unbroken (ι Event : Type) [DecidableEq ι] : (bufferMachine ι Event).Policy where
  allows i command outcome world := world.LosesNothing i command outcome
  permits _ _ := True

/-- What holds between any two commands: every event is kept or still held by a drain. -/
structure Conserved (world : BufferWorld ι Event) (held : ι → List (FailedEvent Event)) : Prop where
  covered : ∀ id < world.appended,
    world.Keeps id ∨ ∃ i, ∃ event ∈ held i, event.id = id
  snapshot : ∀ i, ∀ event ∈ held i, event ∈ world.snapshots i
  counted : world.Counted

section Step

variable {world after : BufferWorld ι Event} {held : ι → List (FailedEvent Event)} {i : ι}

/-- A step after which the events of one task are kept or still held. -/
theorem Conserved.change (conserved : Conserved world held) {next : List (FailedEvent Event)}
    (fresh : ∀ id < after.appended, id < world.appended ∨ after.Keeps id)
    (keeps : ∀ id, world.Keeps id → after.Keeps id ∨ ∃ event ∈ next, event.id = id)
    (own : ∀ event ∈ held i, after.Keeps event.id ∨ event ∈ next)
    (snapshots : ∀ j ≠ i, after.snapshots j = world.snapshots j)
    (snapshot : ∀ event ∈ next, event ∈ after.snapshots i)
    (counted : after.Counted) : Conserved after (Function.update held i next) := by
  refine ⟨fun id lt => ?_, fun j event mem => ?_, counted⟩
  · rcases fresh id lt with old | kept
    · rcases conserved.covered id old with kept | ⟨j, event, mem, rfl⟩
      · refine (keeps id kept).imp_right fun ⟨event, mem, same⟩ => ⟨i, event, ?_, same⟩
        simpa using mem
      · by_cases same : j = i
        · subst same
          refine (own event mem).imp_right fun still => ⟨j, event, ?_, rfl⟩
          simpa using still
        · exact .inr ⟨j, event, by simpa [Function.update_of_ne same] using mem, rfl⟩
    · exact .inl kept
  · by_cases same : j = i
    · subst same
      exact snapshot event (by simpa using mem)
    · rw [snapshots j same]
      exact conserved.snapshot j event (by simpa [Function.update_of_ne same] using mem)

/-- A step that leaves the task's own events to it. -/
theorem Conserved.same (conserved : Conserved world held)
    (fresh : ∀ id < after.appended, id < world.appended ∨ after.Keeps id)
    (keeps : ∀ id, world.Keeps id → after.Keeps id) (snapshots : after.snapshots = world.snapshots)
    (counted : after.Counted) : Conserved after (Function.update held i (held i)) :=
  conserved.change fresh (fun id kept => .inl (keeps id kept)) (fun _ => .inr)
    (fun j _ => by rw [snapshots])
    (fun event mem => snapshots ▸ conserved.snapshot i event mem) counted

/-- A step that changes nothing that matters here. -/
theorem Conserved.idle (conserved : Conserved world held)
    (buffer : after.failedBuffer = world.failedBuffer)
    (stats : after.stats = world.stats) (appended : after.appended = world.appended)
    (accepted : after.accepted = world.accepted) (evicted : after.evicted = world.evicted)
    (snapshots : after.snapshots = world.snapshots) :
    Conserved after (Function.update held i (held i)) := by
  refine conserved.same (fun id lt => .inl (appended ▸ lt)) (fun id kept => ?_) snapshots ?_
  · simpa only [BufferWorld.Keeps, buffer, accepted, evicted] using kept
  · simpa only [BufferWorld.Counted, stats, evicted] using conserved.counted

/-- The snapshot of a drain. -/
theorem Conserved.take (conserved : Conserved world held) (none : held i = []) :
    Conserved { world with
      failedBuffer := world.failedBuffer.clear
      snapshots := Function.update world.snapshots i world.failedBuffer.items }
    (Function.update held i world.failedBuffer.items) := by
  refine conserved.change (fun id lt => .inl lt) ?_ (by simp [none]) (fun j other => ?_) (by simp)
    conserved.counted
  · rintro id (accepted | buffered | evicted)
    · exact .inl (.inl accepted)
    · exact .inr buffered
    · exact .inl (.inr (.inr evicted))
  · exact Function.update_of_ne other ..

/-- The end of a drain. -/
theorem Conserved.rebuffer (conserved : Conserved world held) {events : List (FailedEvent Event)}
    (drained : Nat) (covers : ∀ event ∈ held i, event ∈ events) :
    let rebuffered := events.foldl BufferWorld.bufferFailedEvent world
    Conserved { rebuffered with
      stats := { rebuffered.stats with drained := rebuffered.stats.drained + drained }
      snapshots := Function.update world.snapshots i [] } (Function.update held i []) := by
  intro rebuffered
  obtain ⟨appended, reports, counted⟩ := BufferWorld.rebuffered_rest events world
  refine conserved.change (fun id lt => .inl (appended ▸ lt)) (fun id kept => .inl ?_)
    (fun event mem => .inl ?_) (fun j other => Function.update_of_ne other ..) nofun
    (counted conserved.counted)
  · exact BufferWorld.keeps_rebuffered events (.inl kept)
  · exact BufferWorld.keeps_rebuffered events (.inr ⟨event, covers event mem, rfl⟩)

/-- Redis accepts events of a pipeline; the drain goes on with those that are not confirmed. -/
theorem Conserved.accept (conserved : Conserved world held) (taken confirmed : List Nat)
    (heard : ∀ id ∈ confirmed, id ∈ taken) :
    Conserved { world with accepted := taken ++ world.accepted }
      (Function.update held i ((held i).filter fun event => event.id ∉ confirmed)) := by
  refine conserved.change (fun id lt => .inl lt)
    (fun id kept => .inl (kept.imp_left (List.mem_append_right _))) (fun event mem => ?_)
    (fun _ _ => rfl) (fun event mem => conserved.snapshot i event (List.mem_filter.mp mem).1)
    conserved.counted
  by_cases accepted : event.id ∈ confirmed
  · exact .inl (.inl (List.mem_append_left _ (heard _ accepted)))
  · exact .inr (List.mem_filter.mpr ⟨mem, by simpa using accepted⟩)

/-- One command of a task that keeps the contract. -/
theorem Conserved.step {command : BufferCommand Event} {outcome : command.Outcome}
    {reply : command.Reply} (conserved : Conserved world held)
    (permitted : drainHolds.may command (held i)) (allowed : world.LosesNothing i command outcome)
    (performed : performBuffer i command outcome world = some (reply, after)) :
    ∃ next, drainHolds.after command (held i) reply next ∧
      Conserved after (Function.update held i next) := by
  cases command with
  | buffer event =>
      cases performed
      have counted := conserved.counted.bufferFailedEvent ⟨world.appended, event⟩
      refine ⟨held i, rfl,
        conserved.same (fun id lt => ?_) (fun id kept => kept.bufferFailedEvent) rfl
        counted⟩
      rcases Nat.lt_succ_iff_lt_or_eq.mp lt with old | rfl
      · exact .inl old
      · have new : (world.bufferFailedEvent ⟨world.appended, event⟩).Keeps world.appended :=
          BufferWorld.keeps_bufferFailedEvent
        exact .inr new
  | snapshot =>
      simp only [performBuffer] at performed
      split at performed
      · cases performed
        exact ⟨held i, rfl, conserved.idle rfl rfl rfl rfl rfl rfl⟩
      · cases performed
        exact ⟨_, rfl, conserved.take permitted⟩
  | execute chunk =>
      obtain ⟨taken, heard⟩ := outcome
      cases heard with
      | raised =>
          cases performed
          exact ⟨held i, rfl, conserved.same (fun id lt => .inl lt)
            (fun id kept => kept.imp_left (List.mem_append_right _)) rfl conserved.counted⟩
      | interrupted how =>
          cases performed
          refine ⟨[], rfl, conserved.change (fun id lt => .inl lt)
            (fun id kept => .inl (kept.imp_left (List.mem_append_right _)))
            (fun event mem => .inl ?_)
            (fun j other => Function.update_of_ne other ..) nofun conserved.counted⟩
          exact .inl (List.mem_append.mpr (allowed event (conserved.snapshot i event mem)))
      | replies answers full =>
          obtain ⟨taken_all, same⟩ := Option.ite_none_right_eq_some.mp performed
          cases same
          exact ⟨_, rfl, conserved.accept taken _ taken_all⟩
  | rebuffer events drained =>
      cases performed
      exact ⟨_, rfl, conserved.rebuffer drained permitted⟩
  | acquire =>
      cases outcome with
      | none =>
          obtain ⟨_, same⟩ := Option.ite_none_right_eq_some.mp performed
          cases same
          exact ⟨held i, rfl, conserved.idle rfl rfl rfl rfl rfl rfl⟩
      | some how =>
          cases performed
          exact ⟨held i, rfl, conserved.idle rfl rfl rfl rfl rfl rfl⟩
  | joinDrains =>
      cases outcome <;> cases performed <;>
        exact ⟨held i, rfl, conserved.idle rfl rfl rfl rfl rfl rfl⟩
  | _ =>
      cases performed
      exact ⟨held i, rfl, conserved.idle rfl rfl rfl rfl rfl rfl⟩

end Step

/-- The sink and its tasks. -/
abbrev BufferConfig (ι Event : Type) :=
  Config ι (BufferCommand.Reply Event) Interruption Unit (BufferWorld ι Event)

/-- A new sink with the tasks that will run on it. -/
def newBuffer (capacity : Nat) (positive : 0 < capacity) (operations : ι → BufferOperation Event) :
    BufferConfig ι Event :=
  ⟨.initial capacity positive, fun i => (operations i).run⟩

/-- The task is between the snapshot and the end of a drain. -/
def DrainRuns (config : BufferConfig ι Event) (i : ι) : Prop :=
  config.world.snapshots i ≠ [] ∧ ∃ command resume, config.tasks i = .suspend command resume

/-- Every event that was ever appended is accepted by Redis, in the buffer or counted as evicted,
unless it is in the snapshot of a drain that is running. -/
def EventsConserved (config : BufferConfig ι Event) : Prop :=
  ∀ id < config.world.appended, config.world.Keeps id ∨
    ∃ i, DrainRuns config i ∧ ∃ event ∈ config.world.snapshots i, event.id = id

/-- Nothing is lost in a run in which no drain is broken off before Redis has accepted its snapshot:
at every point the events are accounted for, the counter is the number of evictions, and `close`
reports as lost what is in the buffer. -/
theorem failed_events_conserved {capacity : Nat} {positive : 0 < capacity}
    {operations : ι → BufferOperation Event} {final : BufferConfig ι Event}
    (reach : Reaches (unbroken ι Event) (newBuffer capacity positive operations) final) :
    EventsConserved final ∧
      ((∀ i, ¬ DrainRuns final i) → ∀ id < final.world.appended, final.world.Keeps id) ∧
      final.world.stats.evicted = final.world.evicted.length ∧
      ∀ i after, performBuffer i .reportLost () final.world = some ((), after) →
        after.failedBuffer = final.world.failedBuffer ∧
          (after.failedBuffer.items ≠ [] →
            after.reports = after.failedBuffer.items.length :: final.world.reports) := by
  have start : Conserved (newBuffer capacity positive operations).world
      (fun _ : ι => ([] : List (FailedEvent Event))) := ⟨nofun, fun _ => nofun, rfl⟩
  obtain ⟨held, conserved, tasks⟩ := reach.invariant
    (fun world held i command outcome reply after holds permitted allowed performed =>
      holds.step permitted allowed performed)
    (fun world held move holds _ => ⟨holds.covered, holds.snapshot, holds.counted⟩) start
    (fun i => operation_returns (operations i))
  have events : EventsConserved final := fun id lt => by
    refine (conserved.covered id lt).imp_right fun ⟨i, event, mem, same⟩ => ?_
    have snapshot := conserved.snapshot i event mem
    refine ⟨i, ⟨List.ne_nil_of_mem snapshot, ?_⟩, event, snapshot, same⟩
    have task := tasks i
    cases left : final.tasks i with
    | finish outcome =>
        rw [left] at task
        have none : held i = [] := task
        rw [none] at mem
        cases mem
    | suspend command resume => exact ⟨command, resume, rfl⟩
  refine ⟨events, fun quiet id lt => ?_, conserved.counted, fun i after reported => ?_⟩
  · exact (events id lt).resolve_right fun ⟨i, runs, _⟩ => quiet i runs
  · cases reported
    refine ⟨rfl, fun some => ?_⟩
    have positive : 0 < final.world.failedBuffer.items.length := List.length_pos_of_ne_nil some
    simp [positive]

/-! ## A final drain that times out -/

section Timeout

/-- The condition on a run can be evaluated. -/
def BufferWorld.decideLosesNothing (world : BufferWorld ι Event) (i : ι) :
    (command : BufferCommand Event) → (outcome : command.Outcome) →
      Decidable (world.LosesNothing i command outcome)
  | .execute _, ⟨taken, .interrupted _⟩ => inferInstanceAs (Decidable
      (∀ event ∈ world.snapshots i, event.id ∈ taken ∨ event.id ∈ world.accepted))
  | .execute _, ⟨_, .raised⟩ | .execute _, ⟨_, .replies _ _⟩ => .isTrue trivial
  | .buffer _, _ | .pending, _ | .drainable, _ | .acquire, _ | .release, _ | .snapshot, _
  | .rebuffer _ _, _ | .reportLost, _ | .joinDrains, _ | .disconnect, _ => .isTrue trivial

instance : (unbroken ι Event).Decides where
  act i command outcome world := world.decideLosesNothing i command outcome
  calm _ _ := .isTrue trivial

/-- One event is buffered, and the sink is closed. -/
def bufferAndClose : BufferConfig Bool Unit :=
  newBuffer 2 (by decide) fun
    | false => .buffer ()
    | true => .close

/-- Let a task go on; a pipeline ends this way and Redis accepts nothing of it. -/
def bufferTurn (i : Bool) (ended : (queued : Nat) → DrainReply queued) :
    Turn (bufferMachine Bool Unit) :=
  .run i fun
    | .execute chunk => ⟨[], ended chunk.length⟩
    | .acquire => none
    | .joinDrains => none
    | .buffer _ | .pending | .drainable | .release | .snapshot | .rebuffer _ _ | .reportLost
    | .disconnect => ()

/-- A final drain whose pipeline fails: the event is back in the buffer, and `close` reports it. -/
theorem failed_events_conserved_refused :
    ∃ final, bufferAndClose.play (unbroken Bool Unit)
        (.disturb true :: bufferTurn false (fun _ => .raised) ::
          List.replicate 5 (bufferTurn true fun _ => .raised)) = some final ∧
      final.world.reports = [1] ∧ EventsConserved final := by
  have played : (bufferAndClose.play (unbroken Bool Unit)
      (.disturb true :: bufferTurn false (fun _ => .raised) ::
        List.replicate 5 (bufferTurn true fun _ => .raised))).map (·.world.reports) = some [1] := by
    decide
  obtain ⟨final, ran, reports⟩ := Option.map_eq_some_iff.mp played
  exact ⟨final, ran, reports, (failed_events_conserved (Config.play_reaches ran)).1⟩

/-- The final drain of `close` times out: the event is nowhere, and nothing is reported. -/
theorem timed_out_drain_loses_events :
    ∃ final, Reaches (Policy.free (bufferMachine Bool Unit)) bufferAndClose final ∧
      final.world.closed ∧ final.world.reports = [] ∧ ¬ EventsConserved final := by
  have played : (bufferAndClose.play (Policy.free (bufferMachine Bool Unit))
      (.disturb true :: bufferTurn false (fun _ => .raised) ::
        List.replicate 5 (bufferTurn true fun _ => .interrupted .timeout))).map (fun final =>
          (final.world.closed, final.world.appended,
            [final.world.reports, final.world.accepted, final.world.evicted,
              final.world.failedBuffer.items.map (·.id), (final.world.snapshots false).map (·.id),
              (final.world.snapshots true).map (·.id)])) =
      some (true, 1, [[], [], [], [], [], []]) := by decide
  obtain ⟨final, ran, reached⟩ := Option.map_eq_some_iff.mp played
  simp only [Prod.mk.injEq, List.cons.injEq, List.map_eq_nil_iff, and_true] at reached
  obtain ⟨closed, appended, reports, accepted, evicted, items, first, second⟩ := reached
  refine ⟨final, Config.play_reaches ran, closed, reports, fun conserved => ?_⟩
  rcases conserved 0 (by omega) with kept | ⟨i, runs, -⟩
  · simp [BufferWorld.Keeps, accepted, items, evicted] at kept
  · cases i
    · exact runs.1 first
    · exact runs.1 second

end Timeout

end Sinks
end DataGateway
