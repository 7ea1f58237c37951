import DataGateway.Outbox.Queue

/-!
# The storage lock

Whoever is in a call of the outbox holds the lock, and `close` marks the sink closed under it.  So
no admission is at work in a closed sink, and none of them starts a drain that `close` does not see.
-/

namespace DataGateway
namespace Outbox

variable {Dict : Type}

/-- The drain works with the lock. -/
def Drain.locked : Drain → Bool
  | .reading | .settling _ => true
  | _ => false

/-- The batch of a drain that publishes or settles. -/
def Drain.batch : Drain → Option Batch
  | .publishing batch | .settling batch => some batch
  | _ => none

namespace Sink

variable {sink after : Sink Dict}

/-! ## What a drain does with the lock -/

/-- A read ends without a batch, or with the pending entries of the lane. -/
theorem drainReads_cases {lane : Lane} {fails : Bool}
    (stepped : sink.drainReads lane fails = some after) :
    (sink.lanes lane).drain = .reading ∧ ∃ next,
      after = { sink with lock := none }.setDrain lane next ∧ next.locked = false ∧
      (next.batch = none ∨ ∃ entries,
        sink.table.pending maxTransactionEvents (some lane) = .ok entries ∧
        next = .publishing ⟨entries, entries, [], []⟩) := by
  obtain ⟨reading, read⟩ := Option.ite_none_right_eq_some.mp stepped
  refine ⟨reading, ?_⟩
  split at read
  · exact ⟨.crashed, (Option.some.inj read).symm, rfl, .inl rfl⟩
  split at read
  · exact ⟨.crashed, (Option.some.inj read).symm, rfl, .inl rfl⟩
  · refine ⟨_, (Option.some.inj read).symm, ?_, .inl ?_⟩ <;> split <;> rfl
  next entries _ pending =>
    exact ⟨_, (Option.some.inj read).symm, rfl, .inr ⟨entries, pending, rfl⟩⟩

/-- A settlement ends with the batch gone, whether it has changed the table or not. -/
theorem drainSettled_cases {lane : Lane} {fails : Bool}
    (stepped : sink.drainSettled lane fails = some after) :
    ∃ batch table next, (sink.lanes lane).drain = .settling batch ∧
      after = ({ sink with table := table, lock := none }.setLane lane
        { sink.lanes lane with drain := next, settleSafe := true }).record
          [.settled lane batch.acknowledgedSequences] ∧
      (table = sink.table ∨
        table =
          (sink.table.settlePublications fails batch.acknowledgedSequences batch.failures).2) ∧
      next.locked = false ∧ next.batch = none := by
  unfold drainSettled at stepped
  split at stepped
  next batch settling =>
    have written : ∀ settled, settled = (if sink.connected then
          sink.table.settlePublications fails batch.acknowledgedSequences batch.failures
        else (.error .closed, sink.table)) →
        settled.2 = sink.table ∨ settled.2 =
          (sink.table.settlePublications fails batch.acknowledgedSequences batch.failures).2 := by
      rintro _ rfl
      split
      · exact .inr rfl
      · exact .inl rfl
    refine ⟨batch, _, _, settling, (Option.some.inj stepped).symm, written _ rfl, ?_⟩
    split
    · exact ⟨rfl, rfl⟩
    · split <;> exact ⟨rfl, rfl⟩
  · cases stepped

/-! ## The holder -/

/-- Whoever works with the lock holds it, and no admission works on a closed sink. -/
structure Guarded (sink : Sink Dict) : Prop where
  admission : ∀ requests, sink.admissionTask = .committing requests → sink.lock = some .admission
  drains : ∀ lane, (sink.lanes lane).drain.locked → sink.lock = some (.drain lane)
  opened : sink.lock = some .admission ∨ sink.lock = some .batch → sink.closed = false

/-- A step that leaves the lock with its holder. -/
theorem Guarded.keep (guarded : sink.Guarded) (lock : after.lock = sink.lock)
    (closed : after.closed = sink.closed)
    (task : ∀ requests, after.admissionTask = .committing requests →
      sink.admissionTask = .committing requests)
    (drains : ∀ lane, (after.lanes lane).drain.locked → (sink.lanes lane).drain.locked) :
    after.Guarded where
  admission requests committing := lock ▸ guarded.admission requests (task requests committing)
  drains lane locked := lock ▸ guarded.drains lane (drains lane locked)
  opened held := closed ▸ guarded.opened (lock ▸ held)

/-- A step after which the lock is free. -/
theorem Guarded.free (lock : after.lock = none)
    (task : ∀ requests, after.admissionTask ≠ .committing requests)
    (drains : ∀ lane, (after.lanes lane).drain.locked = false) : after.Guarded where
  admission requests committing := absurd committing (task requests)
  drains lane locked := absurd locked (by simp [drains lane])
  opened held := by simp [lock] at held

/-- A drain takes or gives back the lock. -/
theorem Guarded.drain (guarded : sink.Guarded) (changed : Lane) {state : LaneState}
    (free : sink.lock = none ∨ sink.lock = some (.drain changed))
    (lanes : after.lanes = Function.update sink.lanes changed state)
    (task : after.admissionTask = sink.admissionTask)
    (lock : after.lock = if state.drain.locked then some (.drain changed) else none) :
    after.Guarded where
  admission requests committing := by
    have held := guarded.admission requests (task ▸ committing)
    rcases free with free | own
    · simp [free] at held
    · simp [own] at held
  drains lane locked := by
    by_cases same : lane = changed
    · subst same
      rw [lanes, Function.update_self] at locked
      rw [lock, if_pos locked]
    · rw [lanes, Function.update_of_ne same] at locked
      have held := guarded.drains lane locked
      rcases free with free | own
      · simp [free] at held
      · rw [own, Option.some.injEq, Holder.drain.injEq] at held
        exact absurd held.symm same
  opened held := by
    rw [lock] at held
    split at held <;> simp at held

theorem locked_setLane {changed : Lane} {state : LaneState}
    (same : state.drain.locked → (sink.lanes changed).drain.locked) (lane : Lane)
    (locked : ((sink.setLane changed state).lanes lane).drain.locked) :
    (sink.lanes lane).drain.locked := by
  by_cases here : lane = changed
  · subst here
    exact same (by simpa [setLane] using locked)
  · simpa [setLane, Function.update_of_ne here] using locked

theorem locked_startDrain {started : List Lane} (lane : Lane)
    (locked : ((sink.startDrain started).lanes lane).drain.locked) :
    (sink.lanes lane).drain.locked := by
  unfold startDrain at locked
  dsimp only at locked
  split at locked
  · dsimp only at locked
    split at locked
    · cases locked
    · exact locked
  · exact locked

/-- Nobody but the holder works with the lock. -/
theorem Guarded.idle (guarded : sink.Guarded) (lane : Lane)
    (other : sink.lock ≠ some (.drain lane)) : (sink.lanes lane).drain.locked = false :=
  Bool.eq_false_iff.mpr fun locked => other (guarded.drains lane locked)

theorem groupBegins_guarded (stepped : sink.groupBegins = some after) (guarded : sink.Guarded) :
    after.Guarded := by
  unfold Sink.groupBegins at stepped
  split at stepped
  next waiting free =>
    have idle := fun lane => guarded.idle lane (by simp [free])
    repeat' split at stepped
    all_goals
      cases stepped
      first
        | exact .free free nofun idle
        | skip
    next closed _ _ =>
      exact ⟨fun _ _ => rfl, fun lane locked => absurd locked (by simp [idle lane]),
        fun _ => by simpa using closed⟩
  · cases stepped

theorem scheduleDrain_guarded (stepped : sink.scheduleDrain = some after) (guarded : sink.Guarded) :
    after.Guarded := by
  unfold scheduleDrain at stepped
  split at stepped
  · cases stepped
    exact guarded.keep rfl rfl (fun _ same => same) fun _ same => same
  · cases stepped
    exact guarded.keep rfl rfl (fun _ same => same) locked_startDrain

variable [Encoding Dict]

theorem batchBegins_guarded {messages : List (Message Dict)}
    (stepped : sink.batchBegins messages = some after) (guarded : sink.Guarded) :
    after.Guarded := by
  unfold batchBegins at stepped
  repeat' split at stepped
  all_goals first
    | cases stepped; exact guarded.keep rfl rfl (fun _ same => same) fun _ same => same
    | cases stepped; done
    | skip
  next free closed _ _ =>
    cases stepped
    have free : sink.lock = none := by simpa using free
    refine ⟨fun requests committing => ?_, fun lane locked => ?_, fun _ => by simpa using closed⟩
    · exact absurd (guarded.admission requests committing) (by simp [free])
    · exact absurd (guarded.drains lane locked) (by simp [free])

theorem groupCommits_guarded {disk : Disk} (stepped : sink.groupCommits disk = some after)
    (guarded : sink.Guarded) : after.Guarded := by
  unfold Sink.groupCommits at stepped
  split at stepped
  next requests committing =>
    have idle := fun lane => guarded.idle lane (by simp [guarded.admission requests committing])
    dsimp only at stepped
    split at stepped
    · cases stepped
      exact .free rfl nofun idle
    · cases stepped
      refine .free rfl nofun fun lane => Bool.eq_false_iff.mpr fun locked => ?_
      exact absurd (locked_startDrain lane locked) (by simp [idle lane, record])
  · cases stepped

theorem batchCommits_guarded {disk : Disk} (stepped : sink.batchCommits disk = some after)
    (guarded : sink.Guarded) : after.Guarded := by
  unfold batchCommits at stepped
  split at stepped
  next held =>
    have idle := fun lane => guarded.idle lane (by simp [held])
    have task : ∀ requests, sink.admissionTask ≠ .committing requests :=
      fun requests committing => absurd (guarded.admission requests committing) (by simp [held])
    dsimp only at stepped
    split at stepped
    · cases stepped
      exact .free rfl task idle
    · cases stepped
      refine .free rfl task fun lane => Bool.eq_false_iff.mpr fun locked => ?_
      exact absurd (locked_startDrain lane locked) (by simp [idle lane])
  · cases stepped

theorem step_guarded {action : Action Dict} (stepped : sink.step action = some after)
    (guarded : sink.Guarded) : after.Guarded := by
  cases action with
  | publish topic data =>
      rcases publish_cases stepped with ⟨error, rfl⟩ | ⟨sizeBytes, _, _, _, rfl⟩
      · exact guarded.keep rfl rfl (fun _ same => same) fun _ same => same
      · refine guarded.keep rfl rfl (fun requests committing => ?_) fun _ same => same
        dsimp only at committing
        split at committing
        · cases committing
        · exact committing
  | groupBegins => exact groupBegins_guarded stepped guarded
  | groupCommits disk => exact groupCommits_guarded stepped guarded
  | batchCommits disk => exact batchCommits_guarded stepped guarded
  | publishBatchResults messages => exact batchBegins_guarded stepped guarded
  | publishFlowWithWatchBatch messages => exact batchBegins_guarded stepped guarded
  | batchCancelled =>
      obtain ⟨held, cancelled⟩ := Option.ite_none_right_eq_some.mp stepped
      cases cancelled
      exact .free rfl
        (fun requests committing => absurd (guarded.admission requests committing) (by simp [held]))
        fun lane => guarded.idle lane (by simp [held])
  | drainLocks lane =>
      obtain ⟨⟨_, free⟩, locked⟩ := Option.ite_none_right_eq_some.mp stepped
      cases locked
      exact guarded.drain lane (.inl free) rfl rfl rfl
  | drainReads lane fails =>
      obtain ⟨reading, next, rfl, free, _⟩ := drainReads_cases stepped
      have own := guarded.drains lane (by rw [reading]; rfl)
      exact guarded.drain lane (.inr own) rfl rfl (if_neg (by simp [free])).symm
  | drainSettles lane =>
      simp only [step, drainSettles] at stepped
      split at stepped
      · obtain ⟨⟨_, free⟩, settling⟩ := Option.ite_none_right_eq_some.mp stepped
        cases settling
        exact guarded.drain lane (.inl free) rfl rfl rfl
      · cases stepped
  | drainSettled lane fails =>
      obtain ⟨batch, table, next, settling, rfl, _, free, _⟩ := drainSettled_cases stepped
      have own := guarded.drains lane (by rw [settling]; rfl)
      exact guarded.drain lane (.inr own) rfl rfl (if_neg (by simp [free])).symm
  | closeLocks i =>
      obtain ⟨⟨_, free⟩, locked⟩ := Option.ite_none_right_eq_some.mp stepped
      cases locked
      exact .free free
        (fun requests committing => absurd (guarded.admission requests committing) (by simp [free]))
        fun lane => guarded.idle lane (by simp [free])
  | closeCancels i =>
      simp only [step, closeCancels] at stepped
      split at stepped
      · obtain ⟨_, cancelled⟩ := Option.ite_none_right_eq_some.mp stepped
        cases cancelled
        refine ⟨fun requests committing => ?_, fun lane locked => ?_, fun held => ?_⟩
        · simp [record, setCloser, guarded.admission requests committing]
        · have ended : (cancelDrain (sink.lanes lane).drain).locked := locked
          cases here : (sink.lanes lane).drain <;> simp [here, cancelDrain, Drain.locked] at ended
        · refine guarded.opened (held.imp ?_ ?_) <;> intro held <;>
            simp only [record, setCloser] at held <;> split at held <;> simp_all
      · cases stepped
  | restart config =>
      cases stepped
      exact .free rfl (fun _ committing => by cases committing) fun _ => rfl
  | start =>
      simp only [step, start] at stepped
      split at stepped
      · cases stepped
      · exact scheduleDrain_guarded stepped guarded
  | scheduleDrain => exact scheduleDrain_guarded stepped guarded
  | cancelCaller result =>
      obtain ⟨_, cancelled⟩ := Option.ite_none_right_eq_some.mp stepped
      cases cancelled
      exact guarded.keep rfl rfl (fun _ same => same) fun _ same => same
  | threadRuns position disk fails =>
      simp only [step, threadRuns] at stepped
      split at stepped
      all_goals
        cases stepped
        try exact guarded.keep rfl rfl (fun _ same => same) fun _ same => same
  | drainLoops lane =>
      obtain ⟨_, looped⟩ := Option.ite_none_right_eq_some.mp stepped
      cases looped
      exact guarded.keep rfl rfl (fun _ same => same) (locked_setLane fun locked => by cases locked)
  | drainWakes lane =>
      obtain ⟨_, woken⟩ := Option.ite_none_right_eq_some.mp stepped
      cases woken
      exact guarded.keep rfl rfl (fun _ same => same) (locked_setLane fun locked => by cases locked)
  | childStarts lane =>
      simp only [step, childStarts] at stepped
      repeat' split at stepped
      all_goals
        cases stepped
        try
          exact guarded.keep rfl rfl (fun _ same => same)
            (locked_setLane fun locked => by cases locked)
  | waiterAcquires =>
      simp only [step, waiterAcquires] at stepped
      repeat' split at stepped
      all_goals
        cases stepped
        try
          exact guarded.keep rfl rfl (fun _ same => same)
            (locked_setLane fun locked => by cases locked)
  | publisherReturns lane entry outcome =>
      simp only [step, publisherReturns] at stepped
      repeat' split at stepped
      all_goals
        cases stepped
        try
          exact guarded.keep rfl rfl (fun _ same => same)
            (locked_setLane fun locked => by cases locked)
  | closeCalled i =>
      obtain ⟨_, called⟩ := Option.ite_none_right_eq_some.mp stepped
      cases called
      exact guarded.keep rfl rfl (fun _ same => same) fun _ same => same
  | closeJoins i =>
      simp only [step, closeJoins] at stepped
      split at stepped
      · cases stepped
        exact guarded.keep rfl rfl (fun _ same => same) fun _ same => same
      · cases stepped
  | deadlinePasses i =>
      obtain ⟨_, passed⟩ := Option.ite_none_right_eq_some.mp stepped
      cases passed
      exact guarded.keep rfl rfl (fun _ same => same) fun _ same => same
  | closeFinishes i =>
      obtain ⟨_, finished⟩ := Option.ite_none_right_eq_some.mp stepped
      cases finished
      exact guarded.keep rfl rfl (fun _ same => same) fun _ same => same

end Sink

end Outbox
end DataGateway
