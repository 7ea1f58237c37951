import DataGateway.Outbox.Lock

/-!
# What a step does to rows and batches

The steps that move no batch are told apart from the few that do.  A row keeps its sequence and its
content until a settlement deletes it, and new rows get larger sequences than any row ever had.
-/

namespace DataGateway
namespace Outbox

variable {Dict : Type}

/-! ## How the table changes -/

namespace Table

/-- The rows move on: some of the given sequences may be deleted, and new rows come after all old
ones. -/
structure Evolves (before : Table) (deleted : List Nat) (after : Table) : Prop where
  counter : before.lastSequence ≤ after.lastSequence
  kept : ∀ row ∈ before.rows, row.sequence ∈ deleted ∨
    ∃ now ∈ after.rows, now.sequence = row.sequence ∧ now.message = row.message
  origin : ∀ now ∈ after.rows, before.lastSequence < now.sequence ∨
    ∃ row ∈ before.rows, row.sequence = now.sequence ∧ row.message = now.message

theorem Evolves.refl {table : Table} {deleted : List Nat} : table.Evolves deleted table :=
  ⟨Nat.le_refl _, fun row mem => .inr ⟨row, mem, rfl, rfl⟩,
    fun row mem => .inr ⟨row, mem, rfl, rfl⟩⟩

variable [Encoding Dict]

/-- The message is a row. -/
def Stores (table : Table) (message : Message Dict) : Prop :=
  ∃ prepared, prepare message none = .ok prepared ∧ ∃ row ∈ table.rows, row.message = prepared

theorem rows_append {disk : Disk} {table : Table} {messages : List Prepared} {row : OutboxEntry}
    (mem : row ∈ table.rows) : row ∈ (table.append Dict disk messages).rows :=
  List.mem_append_left _ mem

/-- Every message of an admission is a row after it, new or not. -/
theorem insertAll_stores {disk : Disk} {position : Nat} {messages : List Prepared}
    {table after : Table} {flags : List Bool}
    (inserted : insertAll Dict disk position messages table = .ok (flags, after)) :
    ∀ message ∈ messages, ∃ row ∈ after.rows, row.message = message := by
  induction messages generalizing position table flags after with
  | nil => exact nofun
  | cons first rest ih =>
      have rest_stored : ∀ {middle : Table} {flags after},
          insertAll Dict disk (position + 1) rest middle = .ok (flags, after) →
          (∃ row ∈ middle.rows, row.message = first) →
          ∀ message ∈ first :: rest, ∃ row ∈ after.rows, row.message = message := by
        rintro middle flags after remaining ⟨row, here, same⟩ message mem
        rcases List.mem_cons.mp mem with rfl | later
        · obtain ⟨_, rfl⟩ := insertAll_eq remaining
          exact ⟨row, rows_append here, same⟩
        · exact ih remaining message later
      rw [insertAll] at inserted
      split at inserted
      · cases inserted
      split at inserted
      next middle stored =>
        obtain ⟨_, rfl⟩ := insert_eq_some stored
        cases remaining : insertAll Dict disk (position + 1) rest
          (table.append Dict disk [first]) with
        | error error => simp [remaining, Except.map] at inserted
        | ok result =>
            obtain ⟨later, last⟩ := result
            simp only [remaining, Except.map, Except.ok.injEq, Prod.mk.injEq] at inserted
            obtain ⟨rfl, rfl⟩ := inserted
            exact rest_stored remaining ⟨_, List.mem_append_right _ (.head _), rfl⟩
      next refused =>
        split at inserted
        · cases inserted
        split at inserted
        next existing found =>
          split at inserted
          next same =>
            cases remaining : insertAll Dict disk (position + 1) rest table with
            | error error => simp [remaining, Except.map] at inserted
            | ok result =>
                obtain ⟨later, last⟩ := result
                simp only [remaining, Except.map, Except.ok.injEq, Prod.mk.injEq] at inserted
                obtain ⟨rfl, rfl⟩ := inserted
                obtain ⟨mem, key⟩ := lookup_eq_some found
                have payload : existing.payload = first.payload := by
                  simp only [sameContent, decide_eq_true_eq] at same
                  exact same.1
                refine rest_stored remaining ⟨existing, mem, ?_⟩
                obtain ⟨topic, identity⟩ := Prod.mk.inj key
                simp only [OutboxEntry.message, topic, identity, payload]
          · cases inserted
        · cases inserted

/-- An admission that does not raise stores its messages. -/
theorem admitMany_stores {maxBytes : Option Nat} {disk : Disk} {table after : Table}
    {messages : List (Message Dict)} {flags : List Bool}
    (admitted : table.admitMany maxBytes disk messages = (.ok flags, after)) :
    ∀ message ∈ messages, after.Stores message := by
  intro message mem
  unfold admitMany at admitted
  split at admitted
  · cases admitted
  next prepared ready =>
    obtain ⟨argument, own, ok⟩ := mapM_mem ready mem
    obtain ⟨row, stored, same⟩ := insertAll_stores (admitPrepared_committed admitted).1 argument own
    exact ⟨argument, ok, row, stored, same⟩

theorem evolves_append {disk : Disk} {table : Table} {messages : List Prepared} :
    table.Evolves [] (table.append Dict disk messages) := by
  refine ⟨Nat.le_add_right _ _, fun row mem => .inr ⟨row, List.mem_append_left _ mem, rfl, rfl⟩,
    fun now mem => ?_⟩
  rcases List.mem_append.mp mem with old | new
  · exact .inr ⟨now, old, rfl, rfl⟩
  · exact .inl (((newRows_sequences _ _ _ _).1 now new).1)

theorem evolves_admitMany {maxBytes : Option Nat} {disk : Disk} {table : Table}
    {messages : List (Message Dict)} :
    table.Evolves [] (table.admitMany maxBytes disk messages).2 := by
  unfold admitMany
  split
  · exact .refl
  next prepared _ =>
    cases admitted : admitPrepared Dict maxBytes disk table prepared with
    | mk result after =>
        cases result with
        | error error =>
            rw [admitPrepared_error admitted]
            exact .refl
        | ok flags =>
            obtain ⟨_, rfl, _⟩ := admitPrepared_ok admitted
            exact evolves_append

omit [Encoding Dict] in
theorem evolves_markFailed {table : Table} {sequence : Nat} {error : String} :
    table.Evolves [] (table.markFailed sequence error) := by
  refine ⟨Nat.le_refl _, fun row mem => .inr ⟨_, List.mem_map_of_mem mem, ?_, ?_⟩,
    fun now mem => ?_⟩
  · split <;> rfl
  · split <;> rfl
  · obtain ⟨row, stored, rfl⟩ := List.mem_map.mp mem
    refine .inr ⟨row, stored, ?_, ?_⟩ <;> split <;> rfl

theorem Evolves.trans {first second third : Table} {deleted : List Nat}
    (left : first.Evolves deleted second) (right : second.Evolves deleted third) :
    first.Evolves deleted third := by
  refine ⟨Nat.le_trans left.counter right.counter, fun row mem => ?_, fun now mem => ?_⟩
  · rcases left.kept row mem with gone | ⟨middle, stored, sequence, message⟩
    · exact .inl gone
    · rcases right.kept middle stored with gone | ⟨now, found, sequence', message'⟩
      · exact .inl (sequence ▸ gone)
      · exact .inr ⟨now, found, sequence'.trans sequence, message'.trans message⟩
  · rcases right.origin now mem with new | ⟨middle, stored, sequence, message⟩
    · exact .inl (Nat.lt_of_le_of_lt left.counter new)
    · rcases left.origin middle stored with new | ⟨row, found, sequence', message'⟩
      · exact .inl (sequence ▸ new)
      · exact .inr ⟨row, found, sequence'.trans sequence, message'.trans message⟩

theorem Evolves.mono {before after : Table} {deleted wider : List Nat}
    (evolves : before.Evolves deleted after) (sub : ∀ sequence ∈ deleted, sequence ∈ wider) :
    before.Evolves wider after :=
  ⟨evolves.counter, fun row mem => (evolves.kept row mem).imp_left (sub _), evolves.origin⟩

theorem evolves_settlePublications {fails : Bool} {table : Table} {acknowledged : List Nat}
    {failures : List (Nat × String)} :
    table.Evolves acknowledged (table.settlePublications fails acknowledged failures).2 := by
  refine settlePublications_preserves (P := table.Evolves acknowledged)
    (fun _ _ _ evolves => evolves.trans (evolves_markFailed.mono fun _ none => by cases none)) .refl
    ⟨Nat.le_refl _, fun row mem => ?_, fun now mem => ?_⟩
  · by_cases gone : row.sequence ∈ acknowledged
    · exact .inl gone
    · exact .inr ⟨row, List.mem_filter.mpr ⟨mem, decide_eq_true gone⟩, rfl, rfl⟩
  · exact .inr ⟨now, (List.mem_filter.mp mem).1, rfl, rfl⟩

end Table

/-! ## Steps that move no batch -/

/-- The event is not about a batch and not the end of the process; what was accepted is stored. -/
def SinkEvent.Plain [Encoding Dict] (table : Table) : SinkEvent Dict → Prop
  | .accepted message => table.Stores message
  | .refused _ | .committed _ => True
  | _ => False

namespace Sink

variable {sink after : Sink Dict}

/-- A batch stays where it is, no other comes up, and a closed sink revives no drain. -/
def KeepsBatches (sink after : Sink Dict) : Prop :=
  ∀ lane, ((after.lanes lane).drain = (sink.lanes lane).drain ∨
    (sink.lanes lane).drain.batch = none ∧ (after.lanes lane).drain.batch = none ∧
      (sink.closed → (sink.lanes lane).drain.done → (after.lanes lane).drain.done)) ∧
      (after.lanes lane).settleSafe = (sink.lanes lane).settleSafe

theorem keepsBatches_startDrain (started : List Lane) (opened : sink.closed = false)
    (lanes : after.lanes = (sink.startDrain started).lanes) : sink.KeepsBatches after := by
  intro lane
  rw [lanes]
  unfold startDrain
  dsimp only
  split
  · refine ⟨?_, rfl⟩
    cases (sink.lanes lane).drain <;> simp [Drain.done, Drain.batch, opened]
  · exact ⟨.inl rfl, rfl⟩

theorem keepsBatches_setLane {changed : Lane} {state : LaneState}
    (idle : (sink.lanes changed).drain.batch = none) (still : state.drain.batch = none)
    (alive : (sink.lanes changed).drain.done = false)
    (safe : state.settleSafe = (sink.lanes changed).settleSafe) :
    sink.KeepsBatches (sink.setLane changed state) := by
  intro lane
  by_cases same : lane = changed
  · subst same
    simp [setLane, idle, still, safe, alive]
  · simp [setLane, Function.update_of_ne same]

variable [Encoding Dict]

/-- A step that admits, waits, wakes or closes, but neither reads, publishes, settles nor cancels a
batch. -/
structure Quiet (sink after : Sink Dict) : Prop where
  batches : sink.KeepsBatches after
  waiters : after.pubackWaiters = sink.pubackWaiters
  table : sink.table.Evolves [] after.table
  wellFormed : sink.table.WellFormed Dict → after.table.WellFormed Dict
  log : ∃ events, after.log = events ++ sink.log ∧ ∀ event ∈ events, event.Plain after.table
  threads : ∀ job ∈ after.threads, job ∈ sink.threads ∨ ∃ messages, job = .admitMany messages
  closed : sink.closed → after.closed

/-- A step that changes at most the lanes without a batch, and writes nothing. -/
theorem quiet_of_batches (batches : sink.KeepsBatches after)
    (waiters : after.pubackWaiters = sink.pubackWaiters) (table : after.table = sink.table)
    (log : ∃ events, after.log = events ++ sink.log ∧ ∀ event ∈ events, event.Plain after.table)
    (threads : after.threads = sink.threads) (closed : sink.closed → after.closed) :
    sink.Quiet after where
  batches := batches
  waiters := waiters
  table := table ▸ .refl
  wellFormed := table ▸ id
  log := log
  threads _ mem := .inl (threads ▸ mem)
  closed := closed

/-- A step that leaves the lanes alone and writes nothing. -/
theorem quiet_of_lanes (lanes : after.lanes = sink.lanes)
    (waiters : after.pubackWaiters = sink.pubackWaiters) (table : after.table = sink.table)
    (log : ∃ events, after.log = events ++ sink.log ∧ ∀ event ∈ events, event.Plain after.table)
    (threads : after.threads = sink.threads) (closed : sink.closed → after.closed) :
    sink.Quiet after :=
  quiet_of_batches (fun lane => by simp [lanes]) waiters table log threads closed

theorem evolves_sinkAdmitMany (disk : Disk) (messages : List (Message Dict)) :
    sink.table.Evolves [] (sink.admitMany disk messages).2 := by
  unfold admitMany
  split
  · exact Table.evolves_admitMany
  · exact .refl

theorem stores_sinkAdmitMany (flags : List Bool) (disk : Disk) (messages : List (Message Dict))
    (admitted : (sink.admitMany disk messages).1 = .ok flags) :
    ∀ message ∈ messages, (sink.admitMany disk messages).2.Stores message := by
  unfold admitMany at admitted ⊢
  split at admitted
  next connected =>
    rw [if_pos connected]
    exact Table.admitMany_stores (Prod.ext admitted rfl)
  · cases admitted

theorem wellFormed_sinkAdmitMany (disk : Disk) (messages : List (Message Dict))
    (wellFormed : sink.table.WellFormed Dict) :
    (sink.admitMany disk messages).2.WellFormed Dict := by
  unfold admitMany
  split
  · exact wellFormed.apply (.admitMany sink.config.maxBytes disk messages)
  · exact wellFormed

/-- The actions after which `Quiet` does not hold of every step. -/
def Action.moves : Action Dict → Bool
  | .drainReads _ false | .childStarts _ | .waiterAcquires | .publisherReturns .. | .drainSettles _
  | .drainSettled .. | .threadRuns .. | .closeCancels _ | .restart _ => true
  | _ => false

theorem batchBegins_quiet {messages : List (Message Dict)}
    (stepped : sink.batchBegins messages = some after) : sink.Quiet after := by
  unfold batchBegins at stepped
  repeat' split at stepped
  all_goals first
    | cases stepped; exact quiet_of_lanes rfl rfl rfl ⟨[], rfl, nofun⟩ rfl id
    | cases stepped; exact quiet_of_lanes rfl rfl rfl ⟨[_], rfl, by simp [SinkEvent.Plain]⟩ rfl id
    | cases stepped

theorem scheduleDrain_quiet (stepped : sink.scheduleDrain = some after) : sink.Quiet after := by
  unfold scheduleDrain at stepped
  split at stepped
  · cases stepped
    exact quiet_of_lanes rfl rfl rfl ⟨[_], rfl, by simp [SinkEvent.Plain]⟩ rfl id
  next opened =>
    cases stepped
    exact quiet_of_batches (keepsBatches_startDrain _ (by simpa using opened) rfl) rfl rfl
      ⟨[], rfl, nofun⟩ rfl id

theorem groupCommits_quiet {disk : Disk} (guarded : sink.Guarded)
    (stepped : sink.groupCommits disk = some after) : sink.Quiet after := by
  unfold Sink.groupCommits at stepped
  split at stepped
  next requests committing =>
    have opened := guarded.opened (.inl (guarded.admission requests committing))
    have table := sink.evolves_sinkAdmitMany disk (requests.map AdmissionRequest.message)
    have wellFormed := sink.wellFormed_sinkAdmitMany disk (requests.map AdmissionRequest.message)
    have stores := fun flags => sink.stores_sinkAdmitMany flags disk
      (requests.map AdmissionRequest.message)
    dsimp only at stepped
    split at stepped
    · cases stepped
      exact ⟨fun _ => ⟨.inl rfl, rfl⟩, rfl, table, wellFormed,
        ⟨[_], rfl, by simp [SinkEvent.Plain]⟩, fun _ mem => .inl mem, id⟩
    next flags admitted =>
      cases stepped
      have started : sink.KeepsBatches (sink.startDrain
          (requests.map fun request => Lane.ofTopic request.topic)) :=
        keepsBatches_startDrain _ opened rfl
      refine ⟨started, rfl, table, wellFormed, ?_, fun _ mem => .inl mem, id⟩
      refine ⟨((requests.filter fun request => sink.futures request.result = .pending).map
        fun request => .accepted request.message) ++ [.committed (requests.map (·.result))],
        by simp [record, startDrain], fun event mem => ?_⟩
      rcases List.mem_append.mp mem with answer | group
      · obtain ⟨request, waiting, rfl⟩ := List.mem_map.mp answer
        exact stores flags admitted _ (List.mem_map_of_mem (List.mem_filter.mp waiting).1)
      · obtain rfl := List.mem_singleton.mp group
        trivial
  · cases stepped

theorem batchCommits_quiet {disk : Disk} (guarded : sink.Guarded)
    (stepped : sink.batchCommits disk = some after) : sink.Quiet after := by
  unfold batchCommits at stepped
  split at stepped
  next held =>
    have opened := guarded.opened (.inr held)
    have table := sink.evolves_sinkAdmitMany disk sink.batch
    have wellFormed := sink.wellFormed_sinkAdmitMany disk sink.batch
    have stores := fun flags =>
      sink.stores_sinkAdmitMany flags disk sink.batch
    dsimp only at stepped
    split at stepped
    · cases stepped
      exact ⟨fun _ => ⟨.inl rfl, rfl⟩, rfl, table, wellFormed,
        ⟨[_], rfl, by simp [SinkEvent.Plain]⟩, fun _ mem => .inl mem, id⟩
    next flags admitted =>
      cases stepped
      have started : sink.KeepsBatches (sink.startDrain
          (sink.batch.map fun message => Lane.ofTopic message.1)) :=
        keepsBatches_startDrain _ opened rfl
      refine ⟨started, rfl, table, wellFormed, ⟨_, rfl, fun event mem => ?_⟩,
        fun _ mem => .inl mem, id⟩
      obtain ⟨message, own, rfl⟩ := List.mem_map.mp mem
      exact stores flags admitted message own
  · cases stepped

theorem step_quiet {action : Action Dict} (guarded : sink.Guarded)
    (stepped : sink.step action = some after) (stays : action.moves = false) :
    sink.Quiet after := by
  cases action with
  | publish topic data =>
      rcases publish_cases stepped with ⟨error, rfl⟩ | ⟨sizeBytes, _, _, _, rfl⟩
      · exact quiet_of_lanes rfl rfl rfl ⟨[_], rfl, by simp [SinkEvent.Plain]⟩ rfl id
      · exact quiet_of_lanes rfl rfl rfl ⟨[], rfl, nofun⟩ rfl id
  | start =>
      simp only [step, start] at stepped
      split at stepped
      · cases stepped
      · exact scheduleDrain_quiet stepped
  | scheduleDrain => exact scheduleDrain_quiet stepped
  | groupCommits disk => exact groupCommits_quiet guarded stepped
  | batchCommits disk => exact batchCommits_quiet guarded stepped
  | publishBatchResults messages => exact batchBegins_quiet stepped
  | publishFlowWithWatchBatch messages => exact batchBegins_quiet stepped
  | cancelCaller result =>
      obtain ⟨_, cancelled⟩ := Option.ite_none_right_eq_some.mp stepped
      cases cancelled
      exact quiet_of_lanes rfl rfl rfl ⟨[], rfl, nofun⟩ rfl id
  | groupBegins =>
      simp only [step, Sink.groupBegins] at stepped
      repeat' split at stepped
      all_goals
        cases stepped
        try exact quiet_of_lanes rfl rfl rfl ⟨[], rfl, nofun⟩ rfl id
  | batchCancelled =>
      obtain ⟨_, cancelled⟩ := Option.ite_none_right_eq_some.mp stepped
      cases cancelled
      exact { (quiet_of_lanes rfl rfl rfl ⟨[], rfl, nofun⟩ rfl id : sink.Quiet sink) with
        threads := fun job mem => (List.mem_cons.mp mem).elim (fun new => .inr ⟨_, new⟩) .inl }
  | drainLoops lane =>
      obtain ⟨looping, looped⟩ := Option.ite_none_right_eq_some.mp stepped
      cases looped
      exact quiet_of_batches
        (keepsBatches_setLane (by rw [looping]; rfl) rfl (by rw [looping]; rfl) rfl)
        rfl rfl ⟨[], rfl, nofun⟩ rfl id
  | drainLocks lane =>
      obtain ⟨⟨locking, _⟩, locked⟩ := Option.ite_none_right_eq_some.mp stepped
      cases locked
      exact quiet_of_batches
        (keepsBatches_setLane (by rw [locking]; rfl) rfl (by rw [locking]; rfl) rfl)
        rfl rfl ⟨[], rfl, nofun⟩ rfl id
  | drainReads lane fails =>
      cases fails with
      | false => cases stays
      | true =>
          obtain ⟨reading, failed⟩ := Option.ite_none_right_eq_some.mp stepped
          obtain rfl := Option.some.inj failed
          exact quiet_of_batches
            (keepsBatches_setLane (by rw [reading]; rfl) rfl (by rw [reading]; rfl) rfl)
            rfl rfl ⟨[], rfl, nofun⟩ rfl id
  | drainWakes lane =>
      obtain ⟨waits, woken⟩ := Option.ite_none_right_eq_some.mp stepped
      cases woken
      refine quiet_of_batches (keepsBatches_setLane ?_ rfl ?_ rfl) rfl rfl ⟨[], rfl, nofun⟩ rfl id
      all_goals
        rcases waits with sleeping | ⟨parked, _⟩
        · rw [sleeping]; rfl
        · rw [parked]; rfl
  | closeCalled i =>
      obtain ⟨_, called⟩ := Option.ite_none_right_eq_some.mp stepped
      cases called
      exact quiet_of_lanes rfl rfl rfl ⟨[], rfl, nofun⟩ rfl id
  | closeLocks i =>
      obtain ⟨_, locked⟩ := Option.ite_none_right_eq_some.mp stepped
      cases locked
      exact quiet_of_lanes rfl rfl rfl ⟨[], rfl, nofun⟩ rfl fun _ => rfl
  | closeJoins i =>
      simp only [step, closeJoins] at stepped
      split at stepped
      · cases stepped
        exact quiet_of_batches (fun _ => ⟨.inl rfl, rfl⟩) rfl rfl ⟨[], rfl, nofun⟩ rfl id
      · cases stepped
  | deadlinePasses i =>
      obtain ⟨_, passed⟩ := Option.ite_none_right_eq_some.mp stepped
      cases passed
      exact quiet_of_lanes rfl rfl rfl ⟨[], rfl, nofun⟩ rfl id
  | closeFinishes i =>
      obtain ⟨_, finished⟩ := Option.ite_none_right_eq_some.mp stepped
      cases finished
      exact quiet_of_lanes rfl rfl rfl ⟨[], rfl, nofun⟩ rfl id
  | _ => cases stays

end Sink

end Outbox
end DataGateway
