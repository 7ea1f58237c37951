import DataGateway.Outbox.Batches

/-!
# Lanes are offered in order

The invariant of a sink between steps, lane by lane, and what it says about the log of a
run: offers go by sequence, and drains are cancelled only when their lanes are settled or
the deadline has passed.
-/

namespace DataGateway
namespace Outbox

variable {Dict : Type}

/-! ## One lane -/

/-- What holds of a lane between two steps. -/
structure LaneState.Tended (table : Table) (log : List (SinkEvent Dict))
    (waiting : List OutboxEntry) (closed : Bool) (lane : Lane) (state : LaneState) : Prop where
  held : ∀ batch, state.drain.batch = some batch → batch.Held table log waiting lane
  queue : (∀ batch, state.drain ≠ .publishing batch) → waiting = []
  safe : state.settleSafe → unsettled lane log = []
  idle : state.drain.batch = none → unsettled lane log = [] ∨ closed ∧ state.drain.done

namespace LaneState

variable {table after : Table} {log log' : List (SinkEvent Dict)} {waiting : List OutboxEntry}
variable {closed closed' : Bool} {lane : Lane} {state state' : LaneState}

/-- What happens elsewhere leaves a lane tended. -/
theorem Tended.carry (tended : state.Tended table log waiting closed lane) {deleted : List Nat}
    (evolves : table.Evolves deleted after) (grows : ∃ events, log' = events ++ log ∧
      ∀ event ∈ events, event.touches lane = false) (closes : closed → closed')
    (kept : (state'.drain = state.drain ∨ state.drain.batch = none ∧ state'.drain.batch = none ∧
        (closed → state.drain.done → state'.drain.done)) ∧ state'.settleSafe = state.settleSafe) :
    state'.Tended after log' waiting closed' lane := by
  have same : unsettled lane log' = unsettled lane log := by
    obtain ⟨events, rfl, others⟩ := grows
    exact unsettled_append others
  obtain ⟨drain, safe⟩ := kept
  refine ⟨fun batch here => ?_, fun none => ?_, fun now => ?_, fun none => ?_⟩
  · rcases drain with kept | ⟨_, gone, _⟩
    · exact (tended.held batch (kept ▸ here)).carry evolves grows
    · exact absurd (here.symm.trans gone) nofun
  · refine tended.queue fun batch here => ?_
    rcases drain with kept | ⟨gone, _, _⟩
    · exact none batch (kept.trans here)
    · rw [here] at gone
      cases gone
  · exact same ▸ tended.safe (safe ▸ now)
  · rw [same]
    rcases drain with kept | ⟨gone, _, ends⟩
    · exact (tended.idle (kept ▸ none)).imp_right fun ended => ⟨closes ended.1, kept ▸ ended.2⟩
    · exact (tended.idle gone).imp_right fun ended => ⟨closes ended.1, ends ended.1 ended.2⟩

/-- A drain with a batch that its lane keeps unsettled. -/
theorem tended_of_held {batch : Batch} (drain : state.drain.batch = some batch)
    (held : batch.Held table log waiting lane)
    (queue : (∀ batch, state.drain ≠ .publishing batch) → waiting = [])
    (safe : state.settleSafe → unsettled lane log = []) :
    state.Tended table log waiting closed lane where
  held _ here := Option.some.inj (drain.symm.trans here) ▸ held
  queue := queue
  safe := safe
  idle none := absurd (drain.symm.trans none) nofun

/-- A drain without a batch, where nothing is unsettled. -/
theorem tended_of_settled (drain : state.drain.batch = none) (settled : unsettled lane log = []) :
    state.Tended table log [] closed lane where
  held _ here := absurd (drain.symm.trans here) nofun
  queue _ := rfl
  safe _ := settled
  idle _ := .inl settled

end LaneState

/-! ## The sink -/

@[simp]
theorem queued_append (first second : List (Lane × OutboxEntry)) (lane : Lane) :
    queued (first ++ second) lane = queued first lane ++ queued second lane := by
  simp [queued]

theorem queued_self (lane : Lane) (entry : OutboxEntry) (rest : List (Lane × OutboxEntry)) :
    queued ((lane, entry) :: rest) lane = entry :: queued rest lane := by
  simp [queued]

theorem queued_other {lane other : Lane} (different : other ≠ lane) (entry : OutboxEntry)
    (rest : List (Lane × OutboxEntry)) :
    queued ((other, entry) :: rest) lane = queued rest lane := by
  simp [queued, different]

namespace Sink

@[simp]
theorem setLane_self (sink : Sink Dict) (lane : Lane) (state : LaneState) :
    (sink.setLane lane state).lanes lane = state := Function.update_self ..

@[simp]
theorem setLane_other (sink : Sink Dict) {lane other : Lane} (different : other ≠ lane)
    (state : LaneState) : (sink.setLane lane state).lanes other = sink.lanes other :=
  Function.update_of_ne different ..

variable [Encoding Dict]

/-- What holds between any two steps. -/
structure Dispatched (sink : Sink Dict) : Prop where
  wellFormed : sink.table.WellFormed Dict
  lanes : ∀ lane, (sink.lanes lane).Tended sink.table sink.log (queued sink.pubackWaiters lane)
    sink.closed lane
  acknowledged : ∀ lane entry, .acknowledged lane entry ∈ sink.log → sink.table.Tracks entry
  jobs : ∀ acknowledged failures, .settle acknowledged failures ∈ sink.threads →
    ∀ sequence ∈ acknowledged, ∃ lane entry,
      .acknowledged lane entry ∈ sink.log ∧ entry.sequence = sequence
  offers : Throughout InOrder sink.log
  cancels : Throughout CancelsSafely sink.log

variable {sink after : Sink Dict}

theorem Quiet.dispatched (quiet : sink.Quiet after) (dispatched : sink.Dispatched) :
    after.Dispatched := by
  obtain ⟨events, grows, plain⟩ := quiet.log
  refine ⟨quiet.wellFormed dispatched.wellFormed, fun lane => ?_, fun lane entry mem => ?_,
    fun acknowledged failures mem sequence own => ?_, ?_, ?_⟩
  · rw [quiet.waiters]
    exact (dispatched.lanes lane).carry quiet.table
      ⟨events, grows, fun event mem => SinkEvent.plain_touches (plain event mem) lane⟩ quiet.closed
      (quiet.batches lane)
  · rw [grows] at mem
    rcases List.mem_append.mp mem with new | old
    · cases plain _ new
    · exact (dispatched.acknowledged lane entry old).evolve quiet.table
  · rcases quiet.threads _ mem with old | ⟨messages, new⟩
    · obtain ⟨lane, entry, seen, same⟩ := dispatched.jobs acknowledged failures old sequence own
      exact ⟨lane, entry, grows ▸ List.mem_append_right _ seen, same⟩
    · cases new
  · refine grows ▸ throughout_append dispatched.offers fun event mem earlier => ?_
    have := plain event mem
    cases event <;> trivial
  · refine grows ▸ throughout_append dispatched.cancels fun event mem earlier => ?_
    have := plain event mem
    cases event <;> trivial

/-- A step of one drain. -/
theorem Dispatched.change (dispatched : sink.Dispatched) (changed : Lane) (deleted : List Nat)
    (events : List (SinkEvent Dict)) (table : sink.table.Evolves deleted after.table)
    (wellFormed : after.table.WellFormed Dict) (log : after.log = events ++ sink.log)
    (threads : after.threads = sink.threads) (closed : after.closed = sink.closed)
    (others : ∀ lane ≠ changed, after.lanes lane = sink.lanes lane ∧
      queued after.pubackWaiters lane = queued sink.pubackWaiters lane ∧
      ∀ event ∈ events, event.touches lane = false)
    (own : (after.lanes changed).Tended after.table after.log (queued after.pubackWaiters changed)
      after.closed changed)
    (acknowledged : ∀ lane entry, .acknowledged lane entry ∈ events → sink.table.Tracks entry)
    (offers : Throughout InOrder after.log) (cancels : Throughout CancelsSafely after.log) :
    after.Dispatched := by
  refine ⟨wellFormed, fun lane => ?_, fun lane entry mem => ?_,
    fun acknowledged failures mem sequence own => ?_, offers, cancels⟩
  · by_cases same : lane = changed
    · exact same ▸ own
    · obtain ⟨state, waiters, untouched⟩ := others lane same
      rw [state, waiters]
      exact (dispatched.lanes lane).carry table ⟨events, log, untouched⟩ (closed ▸ id)
        ⟨.inl rfl, rfl⟩
  · rw [log] at mem
    rcases List.mem_append.mp mem with new | old
    · exact (acknowledged lane entry new).evolve table
    · exact (dispatched.acknowledged lane entry old).evolve table
  · obtain ⟨lane, entry, seen, same⟩ :=
      dispatched.jobs acknowledged failures (threads ▸ mem) sequence own
    exact ⟨lane, entry, log ▸ List.mem_append_right _ seen, same⟩

theorem drainReads_dispatched {lane : Lane} {fails : Bool}
    (stepped : sink.drainReads lane fails = some after) (dispatched : sink.Dispatched) :
    after.Dispatched := by
  obtain ⟨reading, next, rfl, _, outcome⟩ := drainReads_cases stepped
  have tended := dispatched.lanes lane
  have waiting : queued sink.pubackWaiters lane = [] := tended.queue (by simp [reading])
  have settled : unsettled lane sink.log = [] :=
    (tended.idle (by rw [reading]; rfl)).resolve_right fun ended => by
      simp [reading, Drain.done] at ended
  refine dispatched.change lane [] [] .refl dispatched.wellFormed rfl rfl
    rfl (fun other different => ⟨setLane_other _ different _, rfl, by simp⟩) ?_ (by simp)
    dispatched.offers dispatched.cancels
  show LaneState.Tended sink.table sink.log (queued sink.pubackWaiters lane) sink.closed lane
    ((({ sink with lock := none } : Sink Dict).setDrain lane next).lanes lane)
  rw [setDrain, setLane_self, waiting]
  rcases outcome with none | ⟨entries, read, rfl⟩
  · exact LaneState.tended_of_settled none settled
  · exact LaneState.tended_of_held rfl (Batch.held_read dispatched.wellFormed read settled)
      (fun _ => rfl) fun _ => settled

/-- The publisher is called for the next entry of a batch. -/
theorem offer_dispatched {lane : Lane} {batch : Batch} {entry : OutboxEntry}
    {waiters : List (Lane × OutboxEntry)} {unstarted : List OutboxEntry}
    (publishing : (sink.lanes lane).drain = .publishing batch)
    (others : ∀ other ≠ lane, queued waiters other = queued sink.pubackWaiters other)
    (next : queued sink.pubackWaiters lane ++ batch.unstarted =
      entry :: (queued waiters lane ++ unstarted)) (dispatched : sink.Dispatched) :
    (({ sink with pubackWaiters := waiters } : Sink Dict).offer lane
      { batch with unstarted := unstarted } entry).Dispatched := by
  have tended := dispatched.lanes lane
  obtain ⟨inOrder, held⟩ := (tended.held batch (by rw [publishing]; rfl)).offer next
  refine dispatched.change lane [] _ .refl dispatched.wellFormed rfl rfl rfl
    (fun other different => ⟨setLane_other _ different _, others other different, ?_⟩) ?_ ?_
    ⟨inOrder, dispatched.offers⟩ ⟨trivial, dispatched.cancels⟩
  · intro event mem
    obtain rfl := List.mem_singleton.mp mem
    rfl
  · rw [offer, record, setDrain, setLane_self]
    exact LaneState.tended_of_held rfl held (fun none => absurd rfl (none _)) tended.safe
  · intro other acknowledged mem
    cases List.mem_singleton.mp mem

theorem childStarts_dispatched {lane : Lane} (stepped : sink.childStarts lane = some after)
    (dispatched : sink.Dispatched) : after.Dispatched := by
  unfold childStarts at stepped
  split at stepped
  next batch publishing =>
    split at stepped
    · cases stepped
    next entry rest unstarted =>
      have tended := dispatched.lanes lane
      have held := tended.held batch (by rw [publishing]; rfl)
      dsimp only at stepped
      split at stepped
      · cases stepped
        refine dispatched.change lane [] [] .refl dispatched.wellFormed rfl
          rfl rfl (fun other different => ⟨setLane_other _ different _, ?_, nofun⟩) ?_ nofun
          dispatched.offers dispatched.cancels
        · rw [queued_append, queued_other different.symm]
          exact List.append_nil _
        · rw [queued_append, queued_self]
          show LaneState.Tended sink.table sink.log (queued sink.pubackWaiters lane ++ [entry])
            sink.closed lane ((sink.setDrain lane _).lanes lane)
          rw [setDrain, setLane_self]
          exact LaneState.tended_of_held rfl (held.waits unstarted)
            (fun none => absurd rfl (none _)) tended.safe
      next now =>
        cases stepped
        obtain ⟨_, none⟩ := not_or.mp now
        have none : sink.pubackWaiters = [] := not_not.mp none
        refine offer_dispatched publishing (fun _ _ => rfl) ?_ dispatched
        simp [none, queued, unstarted]
  · cases stepped

theorem waiterAcquires_dispatched (stepped : sink.waiterAcquires = some after)
    (dispatched : sink.Dispatched) : after.Dispatched := by
  unfold waiterAcquires at stepped
  split at stepped
  · cases stepped
  next lane entry rest waiters =>
    split at stepped
    next batch publishing =>
      split at stepped
      · cases stepped
      cases stepped
      refine offer_dispatched publishing (fun other different => ?_) ?_ dispatched
      · rw [waiters, queued_other different.symm]
      · rw [waiters, queued_self, List.cons_append]
    · cases stepped

theorem publisherReturns_dispatched {lane : Lane} {entry : OutboxEntry} {outcome : PublishOutcome}
    (stepped : sink.publisherReturns lane entry outcome = some after)
    (dispatched : sink.Dispatched) : after.Dispatched := by
  unfold publisherReturns at stepped
  split at stepped
  next batch publishing =>
    split at stepped
    next mem =>
      have tended := dispatched.lanes lane
      have held := tended.held batch (by rw [publishing]; rfl)
      have ended := held.ended mem outcome
      have tracks := held.tracked entry (held.mem_entries (List.mem_append_left _ mem))
      dsimp only at stepped
      split at stepped
      next good =>
        cases stepped
        rw [if_pos good] at ended
        refine dispatched.change lane [] _ .refl dispatched.wellFormed rfl rfl rfl
          (fun other different => ⟨setLane_other _ different _, rfl, ?_⟩) ?_ ?_
          ⟨trivial, dispatched.offers⟩ ⟨trivial, dispatched.cancels⟩
        · intro event here
          obtain rfl := List.mem_singleton.mp here
          exact decide_eq_false different.symm
        · rw [record, setLane_self]
          exact LaneState.tended_of_held rfl ended (fun none => absurd rfl (none _)) (by simp)
        · intro other acknowledged here
          cases List.mem_singleton.mp here
          exact tracks
      next bad =>
        cases stepped
        rw [if_neg bad] at ended
        refine dispatched.change lane [] [] .refl dispatched.wellFormed rfl
          rfl rfl (fun other different => ⟨setLane_other _ different _, rfl, by simp⟩) ?_ (by simp)
          dispatched.offers dispatched.cancels
        rw [setLane_self]
        exact LaneState.tended_of_held rfl ended (fun none => absurd rfl (none _)) tended.safe
    · cases stepped
  · cases stepped

theorem drainSettles_dispatched {lane : Lane} (stepped : sink.drainSettles lane = some after)
    (dispatched : sink.Dispatched) : after.Dispatched := by
  unfold drainSettles at stepped
  split at stepped
  next batch publishing =>
    obtain ⟨⟨complete, _⟩, settling⟩ := Option.ite_none_right_eq_some.mp stepped
    cases settling
    have tended := dispatched.lanes lane
    have held := tended.held batch (by rw [publishing]; rfl)
    refine dispatched.change lane [] [] .refl dispatched.wellFormed rfl
      rfl rfl (fun other different => ⟨setLane_other _ different _, rfl, nofun⟩) ?_ nofun
      dispatched.offers dispatched.cancels
    show LaneState.Tended sink.table sink.log (queued sink.pubackWaiters lane) sink.closed lane
      ((sink.setDrain lane (.settling batch)).lanes lane)
    rw [setDrain, setLane_self]
    exact LaneState.tended_of_held rfl held (fun _ => held.complete_waiting complete) tended.safe
  · cases stepped

theorem drainSettled_dispatched {lane : Lane} {fails : Bool}
    (stepped : sink.drainSettled lane fails = some after) (dispatched : sink.Dispatched) :
    after.Dispatched := by
  obtain ⟨batch, table, next, settling, rfl, written, _, none⟩ := drainSettled_cases stepped
  have tended := dispatched.lanes lane
  have held := tended.held batch (by rw [settling]; rfl)
  have waiting : queued sink.pubackWaiters lane = [] := tended.queue (by simp [settling])
  have evolves : sink.table.Evolves batch.acknowledgedSequences table := by
    rcases written with rfl | rfl
    · exact .refl
    · exact Table.evolves_settlePublications
  have wellFormed : table.WellFormed Dict := by
    rcases written with rfl | rfl
    · exact dispatched.wellFormed
    · exact dispatched.wellFormed.settlePublications _ _ _
  refine dispatched.change lane _ _ evolves wellFormed rfl rfl rfl
    (fun other different => ⟨setLane_other _ different _, rfl, ?_⟩) ?_ ?_
    ⟨trivial, dispatched.offers⟩ ⟨trivial, dispatched.cancels⟩
  · intro event here
    obtain rfl := List.mem_singleton.mp here
    exact decide_eq_false different.symm
  · rw [record, setLane_self]
    show LaneState.Tended table _ (queued sink.pubackWaiters lane) sink.closed lane _
    rw [waiting]
    refine LaneState.tended_of_settled none ?_
    show unsettled lane (.settled lane batch.acknowledgedSequences :: sink.log) = []
    rw [unsettled, if_pos rfl]
    exact List.filter_eq_nil_iff.mpr fun entry mem => by simpa using held.settles mem
  · intro other acknowledged here
    cases List.mem_singleton.mp here

/-- A thread without a caller deletes at most what was acknowledged. -/
theorem threadRuns_evolves {position : Nat} {disk : Disk} {fails : Bool}
    (stepped : sink.threadRuns position disk fails = some after) :
    ∃ deleted, sink.table.Evolves deleted after.table ∧
      (deleted = [] ∨ ∃ failures, .settle deleted failures ∈ sink.threads) ∧
      (sink.table.WellFormed Dict → after.table.WellFormed Dict) ∧
      after = { sink with table := after.table, threads := sink.threads.eraseIdx position } := by
  unfold threadRuns at stepped
  split at stepped
  · cases stepped
  next messages _ =>
    cases stepped
    exact ⟨[], evolves_sinkAdmitMany disk messages, .inl rfl,
      wellFormed_sinkAdmitMany disk messages, rfl⟩
  next acknowledged failures here =>
    cases stepped
    refine ⟨acknowledged, ?_, .inr ⟨failures, List.mem_of_getElem? here⟩, ?_, rfl⟩
    · dsimp only
      split
      · exact Table.evolves_settlePublications
      · exact .refl
    · intro wellFormed
      dsimp only
      split
      · exact wellFormed.settlePublications _ _ _
      · exact wellFormed

theorem threadRuns_dispatched {position : Nat} {disk : Disk} {fails : Bool}
    (stepped : sink.threadRuns position disk fails = some after) (dispatched : sink.Dispatched) :
    after.Dispatched := by
  obtain ⟨deleted, evolves, _, wellFormed, same⟩ := threadRuns_evolves stepped
  rw [same] at evolves wellFormed ⊢
  exact ⟨wellFormed dispatched.wellFormed,
    fun lane => (dispatched.lanes lane).carry evolves ⟨[], rfl, nofun⟩ id ⟨.inl rfl, rfl⟩,
    fun lane entry mem => (dispatched.acknowledged lane entry mem).evolve evolves,
    fun acknowledged failures mem =>
      dispatched.jobs acknowledged failures (List.mem_of_mem_eraseIdx mem),
    dispatched.offers, dispatched.cancels⟩

theorem cancelDrain_batch (drain : Drain) : (cancelDrain drain).batch = none := by
  cases drain <;> rfl

theorem cancelDrain_done (drain : Drain) : (cancelDrain drain).done := by
  cases drain <;> rfl

/-- The drains are cancelled when their lanes are safe, or late. -/
theorem closeCancels_dispatched {i : Nat} (stepped : sink.closeCancels i = some after)
    (joined : sink.Joined) (dispatched : sink.Dispatched) : after.Dispatched := by
  unfold closeCancels at stepped
  split at stepped
  next elapsed guarding =>
    obtain ⟨allowed, cancelled⟩ := Option.ite_none_right_eq_some.mp stepped
    cases cancelled
    have closed : sink.closed := ((joined i).2 (by rw [guarding]; rfl)).1
    refine ⟨dispatched.wellFormed, fun lane => ⟨fun batch here => ?_, fun _ => rfl,
      (dispatched.lanes lane).safe, fun _ => .inr ⟨closed, cancelDrain_done _⟩⟩,
      fun lane entry mem => ?_, fun acknowledged failures mem sequence own => ?_,
      ⟨trivial, dispatched.offers⟩, ⟨?_, dispatched.cancels⟩⟩
    · exact absurd ((cancelDrain_batch _).symm.trans here) nofun
    · rcases List.mem_cons.mp mem with new | old
      · cases new
      · exact dispatched.acknowledged lane entry old
    · rcases List.mem_append.mp mem with new | old
      · obtain ⟨lane, _, left⟩ := List.mem_flatMap.mp new
        cases settling : (sink.lanes lane).drain with
        | settling batch =>
            rw [settling] at left
            cases List.mem_singleton.mp left
            obtain ⟨entry, seen, same⟩ := ((dispatched.lanes lane).held batch
              (by rw [settling]; rfl)).acknowledged_of_mem own
            exact ⟨lane, entry, .tail _ seen, same⟩
        | _ => simp [settling, leftBehind] at left
      · obtain ⟨lane, entry, seen, same⟩ := dispatched.jobs acknowledged failures old sequence own
        exact ⟨lane, entry, .tail _ seen, same⟩
    · refine allowed.symm.imp_right fun safe lane => (dispatched.lanes lane).safe ?_
      exact List.all_eq_true.mp safe lane (by cases lane <;> simp [Lane.all])
  · cases stepped

theorem restart_dispatched (config : SinkConfig) (dispatched : sink.Dispatched) :
    (sink.restart config).Dispatched := by
  refine ⟨dispatched.wellFormed, fun lane => LaneState.tended_of_settled rfl rfl,
    fun lane entry mem => ?_, nofun, ⟨trivial, dispatched.offers⟩,
    ⟨trivial, dispatched.cancels⟩⟩
  rcases List.mem_cons.mp mem with new | old
  · cases new
  · exact dispatched.acknowledged lane entry old

theorem step_dispatched {action : Action Dict} (stepped : sink.step action = some after)
    (guarded : sink.Guarded) (joined : sink.Joined) (dispatched : sink.Dispatched) :
    after.Dispatched := by
  cases moves : action.moves with
  | false => exact (step_quiet guarded stepped moves).dispatched dispatched
  | true =>
      cases action with
      | drainReads lane fails => exact drainReads_dispatched stepped dispatched
      | childStarts lane => exact childStarts_dispatched stepped dispatched
      | waiterAcquires => exact waiterAcquires_dispatched stepped dispatched
      | publisherReturns lane entry outcome => exact publisherReturns_dispatched stepped dispatched
      | drainSettles lane => exact drainSettles_dispatched stepped dispatched
      | drainSettled lane fails => exact drainSettled_dispatched stepped dispatched
      | threadRuns position disk fails => exact threadRuns_dispatched stepped dispatched
      | closeCancels i => exact closeCancels_dispatched stepped joined dispatched
      | restart config =>
          cases stepped
          exact restart_dispatched config dispatched
      | _ => cases moves

/-- What holds between the steps of every run. -/
structure Sound (sink : Sink Dict) : Prop where
  guarded : sink.Guarded
  joined : sink.Joined
  dispatched : sink.Dispatched

theorem sound_initial (config : SinkConfig) : (initial config : Sink Dict).Sound :=
  ⟨.free rfl nofun fun _ => rfl, fun _ => ⟨nofun, nofun⟩,
    .empty, fun _ => LaneState.tended_of_settled rfl rfl, nofun, nofun, trivial, trivial⟩

theorem step_sound {action : Action Dict} (stepped : sink.step action = some after)
    (sound : sink.Sound) : after.Sound :=
  ⟨step_guarded stepped sound.guarded, step_joined stepped sound.joined,
    step_dispatched stepped sound.guarded sound.joined sound.dispatched⟩

theorem Runs.sound {config : SinkConfig} {final : Sink Dict} (run : Runs (initial config) final) :
    final.Sound :=
  run.keeps (fun _ _ _ stepped sound => step_sound stepped sound) (sound_initial config)

end Sink

/-- Of the three filters of `pending` exactly one selects a topic; the drain, the summaries and the
stream of the publisher name the same lane.  And in every run of a sink a lane's entry is offered
only after every stored row of the lane with a smaller sequence was. -/
theorem lanes_partition_in_order [Encoding Dict] {config : SinkConfig} {final : Sink Dict}
    (run : Sink.Runs (Sink.initial config) final) :
    (∀ topic,
      (∀ lane, Table.pendingFilter (some lane) topic = true ↔ lane = Lane.ofTopic topic) ∧
      (∀ (readFeed : Bytes → Except OutboxError (Option String)) entry feed, entry.topic = topic →
        readFeed entry.payload = .ok feed → subjectForEntry readFeed entry =
          .ok ((Lane.ofTopic topic).stream.1 ++ subjectToken feed,
            (Lane.ofTopic topic).stream.2))) ∧
    (∀ (table : Table) lane, (table.laneSummaries lane).pendingCount =
        table.rows.countP fun row => Lane.ofTopic row.topic = lane) ∧
    (∀ (table : Table) limit lane, 1 ≤ limit → table.pending limit (some lane) =
      .ok ((table.rows.filter fun row => Lane.ofTopic row.topic = lane).take limit)) ∧
    Throughout InOrder final.log := by
  refine ⟨fun topic => ⟨fun lane => pendingFilter_some, fun readFeed entry feed same reads => ?_⟩,
    laneSummaries_pendingCount, fun table limit lane positive =>
      pending_lane table limit positive lane, run.sound.dispatched.offers⟩
  rw [← same]
  exact subjectForEntry_ok reads

/-- The sequences of the entries that were offered, the newest first. -/
def offeredSequences (log : List (SinkEvent Dict)) : List Nat :=
  log.filterMap fun event => match event with
    | .offered _ entry _ => some entry.sequence
    | _ => none

/-- Two live events are admitted, the second is rejected once and offered again with a third. -/
def retriedActions : List (Sink.Action EventOnly) :=
  [.publish "heber:events" (.dict ⟨"evt-1"⟩), .publish "heber:events" (.dict ⟨"evt-2"⟩),
    .groupBegins, .groupCommits roomyDisk, .drainLoops .live, .drainLocks .live,
    .drainReads .live false, .childStarts .live, .childStarts .live,
    .publisherReturns .live ⟨1, "heber:events", "evt-1",
      "\x7b\"event_id\":\"evt-1\"\x7d".toUTF8.toList,
      "44fbde8d9ef83ba70136d677c10b1579fa6b7014c8e68fa9f7167a3397a95f51", 0, none,
      "2026-08-05T00:00:00.000Z"⟩ .acknowledged,
    .publisherReturns .live ⟨2, "heber:events", "evt-2",
      "\x7b\"event_id\":\"evt-2\"\x7d".toUTF8.toList,
      "acf6f2ea37ca723cba3d07a0f28fc8c12fe320374027e4b93472f0142535fc03", 0, none,
      "2026-08-05T00:00:00.000Z"⟩ .rejected,
    .publish "heber:events" (.dict ⟨"evt-3"⟩), .groupBegins, .groupCommits roomyDisk,
    .drainSettles .live, .drainSettled .live false, .drainWakes .live, .drainLoops .live,
    .drainLocks .live, .drainReads .live false, .childStarts .live, .childStarts .live]

/-- The first event goes, and the second goes again before the third. -/
theorem lanes_partition_in_order_retried :
    ∃ final, (Sink.initial ⟨none, 8192, 16777216⟩).play retriedActions = some final ∧
      offeredSequences final.log = [3, 2, 2, 1] ∧ Throughout InOrder final.log := by
  have played : ((Sink.initial ⟨none, 8192, 16777216⟩).play retriedActions).map
      (fun final => offeredSequences final.log) = some [3, 2, 2, 1] := by decide +kernel
  obtain ⟨final, ran, offered⟩ := Option.map_eq_some_iff.mp played
  obtain ⟨_, _, _, inOrder⟩ := lanes_partition_in_order (Sink.play_runs ran)
  exact ⟨final, ran, offered, inOrder⟩

end Outbox
end DataGateway
