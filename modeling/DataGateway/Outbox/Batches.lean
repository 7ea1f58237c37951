import DataGateway.Outbox.Dispatch

/-!
# Batches in flight

A batch is a stretch of its lane without gaps, and its children are called in the order of their
sequences, at once or through the queue of the semaphore.  What the publisher acknowledges stays in
the outcomes of the batch until an attempt to settle it has ended.
-/

namespace DataGateway
namespace Outbox

variable {Dict : Type}

/-- A property of every event of a log and of the events before it. -/
def Throughout {Event : Type} (P : Event → List Event → Prop) : List Event → Prop
  | [] => True
  | event :: earlier => P event earlier ∧ Throughout P earlier

theorem throughout_append {Event : Type} {P : Event → List Event → Prop} {events log : List Event}
    (holds : Throughout P log) (new : ∀ event ∈ events, ∀ earlier, P event earlier) :
    Throughout P (events ++ log) := by
  induction events with
  | nil => exact holds
  | cons event rest ih =>
      exact ⟨new event (.head _) _, ih fun later mem => new later (.tail _ mem)⟩

/-! ## What a log says -/

/-- The acknowledged entries of a lane for which no attempt to settle has ended. -/
def unsettled (lane : Lane) : List (SinkEvent Dict) → List OutboxEntry
  | [] => []
  | .acknowledged other entry :: earlier =>
      if other = lane then entry :: unsettled lane earlier else unsettled lane earlier
  | .settled other sequences :: earlier =>
      if other = lane then (unsettled lane earlier).filter (·.sequence ∉ sequences)
      else unsettled lane earlier
  | .restarted :: _ => []
  | _ :: earlier => unsettled lane earlier

/-- An entry is offered under its own lane, after every stored row of the lane with a smaller
sequence. -/
def InOrder : SinkEvent Dict → List (SinkEvent Dict) → Prop
  | .offered lane entry stored, earlier =>
      Lane.ofTopic entry.topic = lane ∧
      ∀ row ∈ stored, Lane.ofTopic row.topic = lane → row.sequence < entry.sequence →
        ∃ previous rows, .offered lane previous rows ∈ earlier ∧ previous.sequence = row.sequence
  | _, _ => True

/-- The drains are cancelled after the deadline, or when no lane has an unsettled entry. -/
def CancelsSafely : SinkEvent Dict → List (SinkEvent Dict) → Prop
  | .drainsCancelled elapsed, earlier => elapsed ∨ ∀ lane, unsettled lane earlier = []
  | _, _ => True

/-- The event changes what is unsettled in the lane. -/
def SinkEvent.touches (lane : Lane) : SinkEvent Dict → Bool
  | .acknowledged other _ | .settled other _ => other = lane
  | .restarted => true
  | _ => false

theorem SinkEvent.plain_touches [Encoding Dict] {table : Table} {event : SinkEvent Dict}
    (plain : event.Plain table) (lane : Lane) : event.touches lane = false := by
  cases event <;> first | rfl | cases plain

theorem unsettled_append {lane : Lane} {events log : List (SinkEvent Dict)}
    (others : ∀ event ∈ events, event.touches lane = false) :
    unsettled lane (events ++ log) = unsettled lane log := by
  induction events with
  | nil => rfl
  | cons event rest ih =>
      have still := ih fun later mem => others later (.tail _ mem)
      have other := others event (.head _)
      cases event <;> simp_all [SinkEvent.touches, unsettled]

/-! ## One batch -/

/-- No row takes the place of the entry's. -/
structure Table.Tracks (table : Table) (entry : OutboxEntry) : Prop where
  bounded : entry.sequence ≤ table.lastSequence
  same : ∀ row ∈ table.rows, row.sequence = entry.sequence → row.message = entry.message

theorem Table.WellFormed.sequence_inj [Encoding Dict] {table : Table}
    (wellFormed : table.WellFormed Dict) {first second : OutboxEntry} (here : first ∈ table.rows)
    (there : second ∈ table.rows) (same : first.sequence = second.sequence) : first = second :=
  List.inj_on_of_nodup_map (List.pairwise_map.mpr (wellFormed.ordered.imp Nat.ne_of_lt))
    here there same

theorem Table.Tracks.evolve {table after : Table} {deleted : List Nat} {entry : OutboxEntry}
    (tracks : table.Tracks entry) (evolves : table.Evolves deleted after) : after.Tracks entry := by
  refine ⟨Nat.le_trans tracks.bounded evolves.counter, fun row mem same => ?_⟩
  rcases evolves.origin row mem with new | ⟨old, stored, sequence, message⟩
  · have := tracks.bounded
    omega
  · exact message ▸ tracks.same old stored (sequence.trans same)

/-- The entries that the drain of a lane has in the queue of the semaphore. -/
def queued (waiters : List (Lane × OutboxEntry)) (lane : Lane) : List OutboxEntry :=
  (waiters.filter (·.1 = lane)).map (·.2)

theorem lookup_mem {α β : Type} [BEq α] [LawfulBEq α] {pairs : List (α × β)}
    {key : α} {value : β} (found : pairs.lookup key = some value) : (key, value) ∈ pairs := by
  obtain ⟨before, after, rfl, _⟩ := List.lookup_eq_some_iff.mp found
  simp

/-- Different keys are all found. -/
theorem lookup_eq_some {α β : Type} [BEq α] [LawfulBEq α] {pairs : List (α × β)}
    {key : α} {value : β} (distinct : (pairs.map (·.1)).Nodup) (mem : (key, value) ∈ pairs) :
    pairs.lookup key = some value := by
  obtain ⟨before, after, rfl⟩ := List.append_of_mem mem
  refine List.lookup_eq_some_iff.mpr ⟨before, after, rfl, fun pair earlier => ?_⟩
  rw [List.map_append, List.nodup_append] at distinct
  simpa using (distinct.2.2 pair.1 (List.mem_map_of_mem earlier) key (by simp)).symm

namespace Batch

/-- The batch of a lane, some of whose children wait for a slot. -/
structure Held (table : Table) (log : List (SinkEvent Dict)) (waiting : List OutboxEntry)
    (lane : Lane) (batch : Batch) : Prop where
  ordered : batch.entries.Pairwise (·.sequence < ·.sequence)
  inLane : ∀ entry ∈ batch.entries, Lane.ofTopic entry.topic = lane
  tracked : ∀ entry ∈ batch.entries, table.Tracks entry
  gapless : ∀ row ∈ table.rows, Lane.ofTopic row.topic = lane → ∀ entry ∈ batch.entries,
    row.sequence < entry.sequence → ∃ other ∈ batch.entries, other.sequence = row.sequence
  called : ∃ called, batch.entries = called ++ (waiting ++ batch.unstarted) ∧
    called.Perm (batch.inFlight ++ batch.outcomes.map (·.1)) ∧
    ∀ entry ∈ called, ∃ stored, .offered lane entry stored ∈ log
  acknowledged : ∀ entry, (entry, .acknowledged) ∈ batch.outcomes →
    .acknowledged lane entry ∈ log
  unsettled : ∀ entry ∈ unsettled lane log, (entry, .acknowledged) ∈ batch.outcomes

variable {table after : Table} {log log' : List (SinkEvent Dict)} {waiting : List OutboxEntry}
variable {lane : Lane} {batch : Batch}

/-- Other lanes, admissions and deletions leave a batch as it was. -/
theorem Held.carry (held : batch.Held table log waiting lane) {deleted : List Nat}
    (evolves : table.Evolves deleted after) (grows : ∃ events, log' = events ++ log ∧
      ∀ event ∈ events, event.touches lane = false) : batch.Held after log' waiting lane := by
  obtain ⟨events, rfl, others⟩ := grows
  obtain ⟨called, split, perm, offered⟩ := held.called
  refine ⟨held.ordered, held.inLane, fun entry mem => (held.tracked entry mem).evolve evolves,
    fun row mem inLane entry own less => ?_, ⟨called, split, perm, fun entry mem => ?_⟩,
    fun entry mem => List.mem_append_right _ (held.acknowledged entry mem), ?_⟩
  · rcases evolves.origin row mem with new | ⟨old, stored, sequence, message⟩
    · have := (held.tracked entry own).bounded
      omega
    · have topic : old.topic = row.topic := congrArg Prepared.topic message
      obtain ⟨other, found, same⟩ :=
        held.gapless old stored (topic ▸ inLane) entry own (sequence ▸ less)
      exact ⟨other, found, same.trans sequence⟩
  · obtain ⟨stored, mem⟩ := offered entry mem
    exact ⟨stored, List.mem_append_right _ mem⟩
  · rw [unsettled_append others]
    exact held.unsettled

/-- The children that were called, and their entries, are all different. -/
theorem Held.nodup (held : batch.Held table log waiting lane) :
    (batch.inFlight ++ batch.outcomes.map (·.1)).Nodup := by
  obtain ⟨called, split, perm, _⟩ := held.called
  have distinct : batch.entries.Nodup :=
    held.ordered.imp fun less same => by simp [same] at less
  rw [split] at distinct
  exact perm.nodup_iff.mp (List.nodup_append.mp distinct).1

theorem Held.mem_entries (held : batch.Held table log waiting lane) {entry : OutboxEntry}
    (mem : entry ∈ batch.inFlight ++ batch.outcomes.map (·.1)) : entry ∈ batch.entries := by
  obtain ⟨called, split, perm, _⟩ := held.called
  rw [split]
  exact List.mem_append_left _ (perm.mem_iff.mpr mem)

/-- A batch read from the table, when nothing of the lane is unsettled. -/
theorem held_read [Encoding Dict] (wellFormed : table.WellFormed Dict) {limit : Nat}
    {entries : List OutboxEntry} (read : table.pending limit (some lane) = .ok entries)
    (settled : Outbox.unsettled lane log = []) :
    Held table log [] lane ⟨entries, entries, [], []⟩ := by
  have positive : 1 ≤ limit := by
    by_contra zero
    rw [Table.pending, if_pos (by omega)] at read
    cases read
  rw [pending_lane table limit positive lane] at read
  obtain rfl := Except.ok.inj read
  have ordered : (table.rows.filter fun row => Lane.ofTopic row.topic = lane).Pairwise
      (·.sequence < ·.sequence) := wellFormed.ordered.filter _
  have stored : ∀ entry ∈ (table.rows.filter fun row => Lane.ofTopic row.topic = lane).take limit,
      entry ∈ table.rows ∧ Lane.ofTopic entry.topic = lane := fun entry mem => by
    simpa using List.mem_of_mem_take mem
  refine ⟨ordered.sublist (List.take_sublist _ _), fun entry mem => (stored entry mem).2,
    fun entry mem => ⟨wellFormed.bounded entry (stored entry mem).1, fun row found same => ?_⟩,
    fun row mem inLane entry own less => ⟨row, ?_, rfl⟩, ⟨[], rfl, .refl _, by simp⟩, by simp,
    by simp [settled]⟩
  · rw [wellFormed.sequence_inj found (stored entry mem).1 same]
  · have mem : row ∈ table.rows.filter fun row => Lane.ofTopic row.topic = lane :=
      List.mem_filter.mpr ⟨mem, decide_eq_true inLane⟩
    rw [← List.take_append_drop limit (table.rows.filter _)] at mem ordered
    rcases List.mem_append.mp mem with early | late
    · exact early
    · have := (List.pairwise_append.mp ordered).2.2 entry own row late
      omega

/-- A child starts and waits for a slot. -/
theorem Held.waits (held : batch.Held table log waiting lane) {entry : OutboxEntry}
    {rest : List OutboxEntry} (unstarted : batch.unstarted = entry :: rest) :
    Held table log (waiting ++ [entry]) lane { batch with unstarted := rest } := by
  obtain ⟨called, split, perm, offered⟩ := held.called
  exact ⟨held.ordered, held.inLane, held.tracked, held.gapless,
    ⟨called, by simp [split, unstarted], perm, offered⟩, held.acknowledged, held.unsettled⟩

/-- A child without an outcome is the next one to be called: what has a smaller sequence was. -/
theorem Held.offer (held : batch.Held table log waiting lane) {entry : OutboxEntry}
    {waiting' unstarted' : List OutboxEntry}
    (next : waiting ++ batch.unstarted = entry :: (waiting' ++ unstarted')) :
    InOrder (.offered lane entry table.rows) log ∧
      Held table (.offered lane entry table.rows :: log) waiting' lane
        { batch with unstarted := unstarted', inFlight := batch.inFlight ++ [entry] } := by
  obtain ⟨called, split, perm, offered⟩ := held.called
  rw [next] at split
  have own : entry ∈ batch.entries := by simp [split]
  refine ⟨⟨held.inLane entry own, fun row stored inLane less => ?_⟩, ?_⟩
  · obtain ⟨other, mem, same⟩ := held.gapless row stored inLane entry own less
    have ordered := split ▸ held.ordered
    rw [split] at mem
    rcases List.mem_append.mp mem with before | after
    · obtain ⟨rows, seen⟩ := offered other before
      exact ⟨other, rows, seen, same⟩
    · have later : entry.sequence ≤ other.sequence := by
        rcases List.mem_cons.mp after with rfl | after
        · exact Nat.le_refl _
        · exact Nat.le_of_lt
            ((List.pairwise_cons.mp (List.pairwise_append.mp ordered).2.1).1 other after)
      omega
  · refine ⟨held.ordered, held.inLane, held.tracked, held.gapless,
      ⟨called ++ [entry], by simp [split], ?_, fun child mem => ?_⟩,
      fun child mem => .tail _ (held.acknowledged child mem), held.unsettled⟩
    · refine ((perm.append_right [entry])).trans ?_
      simp only [List.append_assoc]
      exact List.perm_append_comm.append_left _
    · rcases List.mem_append.mp mem with before | new
      · obtain ⟨rows, seen⟩ := offered child before
        exact ⟨rows, .tail _ seen⟩
      · obtain rfl := List.mem_singleton.mp new
        exact ⟨_, .head _⟩

/-- The publisher ends for a child. -/
theorem Held.ended (held : batch.Held table log waiting lane) {entry : OutboxEntry}
    (mem : entry ∈ batch.inFlight) (outcome : PublishOutcome) :
    Held table
      (if outcome = .acknowledged then .acknowledged lane entry :: log else log) waiting lane
      { batch with
        inFlight := batch.inFlight.erase entry
        outcomes := (entry, outcome) :: batch.outcomes } := by
  obtain ⟨called, split, perm, offered⟩ := held.called
  have moved : called.Perm (batch.inFlight.erase entry ++ entry :: batch.outcomes.map (·.1)) :=
    perm.trans (((List.perm_cons_erase mem).append_right _).trans List.perm_middle.symm)
  by_cases good : outcome = .acknowledged
  · subst good
    rw [if_pos rfl]
    refine ⟨held.ordered, held.inLane, held.tracked, held.gapless,
      ⟨called, split, moved, fun child here => ?_⟩, fun child here => ?_, fun child here => ?_⟩
    · obtain ⟨rows, seen⟩ := offered child here
      exact ⟨rows, .tail _ seen⟩
    · rcases List.mem_cons.mp here with new | old
      · obtain rfl := (Prod.mk.inj new).1
        exact .head _
      · exact .tail _ (held.acknowledged child old)
    · rw [Outbox.unsettled, if_pos rfl] at here
      rcases List.mem_cons.mp here with rfl | old
      · exact .head _
      · exact .tail _ (held.unsettled child old)
  · rw [if_neg good]
    refine ⟨held.ordered, held.inLane, held.tracked, held.gapless, ⟨called, split, moved, offered⟩,
      fun child here => ?_, fun child here => .tail _ (held.unsettled child here)⟩
    rcases List.mem_cons.mp here with new | old
    · exact absurd (Prod.mk.inj new).2.symm good
    · exact held.acknowledged child old

/-- When every child has ended, none waits. -/
theorem Held.complete_waiting (held : batch.Held table log waiting lane)
    (complete : batch.complete) :
    waiting = [] := by
  obtain ⟨called, split, perm, _⟩ := held.called
  refine List.eq_nil_iff_forall_not_mem.mpr fun entry mem => ?_
  have own : entry ∈ batch.entries := by simp [split, mem]
  have ended := List.all_eq_true.mp complete entry own
  obtain ⟨outcome, found⟩ := Option.isSome_iff_exists.mp ended
  have called' : entry ∈ called := by
    refine perm.mem_iff.mpr (List.mem_append_right _ ?_)
    exact List.mem_map.mpr ⟨(entry, outcome), lookup_mem found, rfl⟩
  have ordered := split ▸ held.ordered
  have := (List.pairwise_append.mp ordered).2.2 entry called' entry (List.mem_append_left _ mem)
  omega

/-- What a batch settles as acknowledged was acknowledged. -/
theorem Held.acknowledged_of_mem (held : batch.Held table log waiting lane) {sequence : Nat}
    (mem : sequence ∈ batch.acknowledgedSequences) :
    ∃ entry, .acknowledged lane entry ∈ log ∧ entry.sequence = sequence := by
  obtain ⟨entry, chosen, rfl⟩ := List.mem_map.mp mem
  have found : batch.outcomes.lookup entry = some .acknowledged := by
    simpa using (List.mem_filter.mp chosen).2
  exact ⟨entry, held.acknowledged entry (lookup_mem found), rfl⟩

/-- A batch settles all that is unsettled in its lane. -/
theorem Held.settles (held : batch.Held table log waiting lane) {entry : OutboxEntry}
    (mem : entry ∈ Outbox.unsettled lane log) : entry.sequence ∈ batch.acknowledgedSequences := by
  have outcome := held.unsettled entry mem
  have once : (batch.outcomes.map (·.1)).Nodup := (List.nodup_append.mp held.nodup).2.1
  refine List.mem_map.mpr ⟨entry, List.mem_filter.mpr ⟨?_, ?_⟩, rfl⟩
  · exact held.mem_entries (List.mem_append_right _ (List.mem_map_of_mem outcome))
  · simpa using lookup_eq_some once outcome

end Batch

end Outbox
end DataGateway
