import DataGateway.Outbox.Order

/-!
# Accepted events are delivered or stored

What an event whose publish call was answered leaves behind: a row, until a settlement deletes it,
and then an acknowledgement of that row.
-/

namespace DataGateway
namespace Outbox

variable {Dict : Type} [Encoding Dict]

namespace Sink

/-- What a step adds to the log and takes from the table: new acceptances are stored, and only
acknowledged sequences are deleted. -/
structure Conserves (sink after : Sink Dict) (deleted : List Nat) : Prop where
  table : sink.table.Evolves deleted after.table
  accepts : ∀ message, .accepted message ∈ after.log →
    .accepted message ∈ sink.log ∨ after.table.Stores message
  remembers : ∀ lane entry, .acknowledged lane entry ∈ sink.log →
    .acknowledged lane entry ∈ after.log
  deletes : ∀ sequence ∈ deleted, ∃ lane entry,
    .acknowledged lane entry ∈ sink.log ∧ entry.sequence = sequence

variable {sink after : Sink Dict}

/-- A step that writes nothing and accepts nothing. -/
theorem conserves_of_log (table : after.table = sink.table) (events : List (SinkEvent Dict))
    (log : after.log = events ++ sink.log) (none : ∀ message, .accepted message ∉ events) :
    sink.Conserves after [] where
  table := table ▸ .refl
  accepts message mem := .inl
    ((List.mem_append.mp (log ▸ mem)).resolve_left (none message))
  remembers _ _ mem := log ▸ List.mem_append_right _ mem
  deletes := nofun

theorem Quiet.conserves (quiet : sink.Quiet after) : sink.Conserves after [] := by
  obtain ⟨events, log, plain⟩ := quiet.log
  refine ⟨quiet.table, fun message mem => ?_,
    fun _ _ mem => log ▸ List.mem_append_right _ mem, nofun⟩
  rcases List.mem_append.mp (log ▸ mem) with new | old
  · exact .inr (plain _ new)
  · exact .inl old

/-- The action ends a settlement, of a drain or of a thread that its drain has left. -/
def Action.settles : Action Dict → Bool
  | .drainSettled .. | .threadRuns .. => true
  | _ => false

/-- Only a settlement deletes. -/
theorem step_conserves {action : Action Dict} (stepped : sink.step action = some after)
    (sound : sink.Sound) :
    ∃ deleted, sink.Conserves after deleted ∧ (action.settles = false → deleted = []) := by
  cases moves : action.moves with
  | false => exact ⟨[], (step_quiet sound.guarded stepped moves).conserves, fun _ => rfl⟩
  | true =>
      cases action with
      | drainReads lane fails =>
          obtain ⟨_, next, rfl, _⟩ := drainReads_cases stepped
          exact ⟨[], conserves_of_log rfl [] rfl (by simp), fun _ => rfl⟩
      | childStarts lane =>
          simp only [step, childStarts] at stepped
          repeat' split at stepped
          all_goals cases stepped
          · exact ⟨[], conserves_of_log rfl [] rfl (by simp), fun _ => rfl⟩
          · exact ⟨[], conserves_of_log rfl [_] rfl (by simp), fun _ => rfl⟩
      | waiterAcquires =>
          simp only [step, waiterAcquires] at stepped
          repeat' split at stepped
          all_goals cases stepped
          exact ⟨[], conserves_of_log rfl [_] rfl (by simp), fun _ => rfl⟩
      | publisherReturns lane entry outcome =>
          simp only [step, publisherReturns] at stepped
          repeat' split at stepped
          all_goals cases stepped
          · exact ⟨[], conserves_of_log rfl [_] rfl (by simp), fun _ => rfl⟩
          · exact ⟨[], conserves_of_log rfl [] rfl (by simp), fun _ => rfl⟩
      | drainSettles lane =>
          simp only [step, drainSettles] at stepped
          split at stepped
          · obtain ⟨_, settling⟩ := Option.ite_none_right_eq_some.mp stepped
            cases settling
            exact ⟨[], conserves_of_log rfl [] rfl (by simp), fun _ => rfl⟩
          · cases stepped
      | drainSettled lane fails =>
          obtain ⟨batch, table, next, settling, rfl, written, _⟩ := drainSettled_cases stepped
          have held := (sound.dispatched.lanes lane).held batch (by rw [settling]; rfl)
          refine ⟨batch.acknowledgedSequences, ⟨?_, fun message mem => .inl ?_,
            fun _ _ mem => .tail _ mem, fun sequence own => ⟨lane, held.acknowledged_of_mem own⟩⟩,
            fun none => by cases none⟩
          · rcases written with rfl | rfl
            · exact .refl
            · exact Table.evolves_settlePublications
          · rcases List.mem_cons.mp mem with new | old
            · cases new
            · exact old
      | threadRuns position disk fails =>
          obtain ⟨deleted, evolves, cause, _, same⟩ := threadRuns_evolves stepped
          have log : after.log = sink.log := by rw [same]
          refine ⟨deleted,
            ⟨evolves, fun message mem => .inl (log ▸ mem), fun _ _ mem => log ▸ mem,
            fun sequence own => ?_⟩, fun none => by cases none⟩
          rcases cause with rfl | ⟨failures, job⟩
          · cases own
          · exact sound.dispatched.jobs deleted failures job sequence own
      | closeCancels i =>
          simp only [step, closeCancels] at stepped
          split at stepped
          · obtain ⟨_, cancelled⟩ := Option.ite_none_right_eq_some.mp stepped
            cases cancelled
            exact ⟨[], conserves_of_log rfl [_] rfl (by simp), fun _ => rfl⟩
          · cases stepped
      | restart config =>
          cases stepped
          exact ⟨[], conserves_of_log rfl [_] rfl (by simp), fun _ => rfl⟩
      | _ => cases moves

/-- An accepted event is a row, or its row was acknowledged. -/
def Delivers (sink : Sink Dict) : Prop :=
  ∀ message, .accepted message ∈ sink.log → ∃ prepared, prepare message none = .ok prepared ∧
    ((∃ row ∈ sink.table.rows, row.message = prepared) ∨
      ∃ lane entry, .acknowledged lane entry ∈ sink.log ∧ entry.key = prepared.key)

/-- A row goes only if its sequence was acknowledged, and for that row. -/
theorem Conserves.row {deleted : List Nat} (conserves : sink.Conserves after deleted)
    (dispatched : sink.Dispatched) {row : OutboxEntry} (stored : row ∈ sink.table.rows) :
    (row.sequence ∈ deleted ∧ ∃ lane entry, .acknowledged lane entry ∈ sink.log ∧
      entry.sequence = row.sequence ∧ entry.key = row.key) ∨
    ∃ now ∈ after.table.rows, now.sequence = row.sequence ∧ now.message = row.message := by
  refine (conserves.table.kept row stored).imp_left fun gone => ⟨gone, ?_⟩
  obtain ⟨lane, entry, seen, same⟩ := conserves.deletes row.sequence gone
  have message := (dispatched.acknowledged lane entry seen).same row stored same.symm
  exact ⟨lane, entry, seen, same, congrArg Prepared.key message.symm⟩

theorem step_delivers {action : Action Dict} (stepped : sink.step action = some after)
    (sound : sink.Sound) (delivers : sink.Delivers) : after.Delivers := by
  obtain ⟨deleted, conserves, _⟩ := step_conserves stepped sound
  intro message mem
  rcases conserves.accepts message mem with old | ⟨prepared, ready, stored⟩
  · obtain ⟨prepared, ready, ⟨row, stored, same⟩ | ⟨lane, entry, seen, key⟩⟩ :=
      delivers message old
    · refine ⟨prepared, ready, ?_⟩
      rcases conserves.row sound.dispatched stored with ⟨_, lane, entry, seen, _, key⟩ | kept
      · refine .inr ⟨lane, entry, conserves.remembers lane entry seen, key.trans ?_⟩
        exact congrArg Prepared.key same
      · obtain ⟨now, found, _, message⟩ := kept
        exact .inl ⟨now, found, message.trans same⟩
    · exact ⟨prepared, ready, .inr ⟨lane, entry, conserves.remembers lane entry seen, key⟩⟩
  · exact ⟨prepared, ready, .inl stored⟩

end Sink

/-- In every run of a sink, over any number of restarts, every event whose publish call reported
acceptance is a row of the table with its content, unless the publisher acknowledged a row with that
topic and event id; and the next step deletes a row only as a settlement, of a row with a sequence
that the publisher acknowledged. -/
theorem accepted_events_survive {config : SinkConfig} {final : Sink Dict}
    (run : Sink.Runs (Sink.initial config) final) :
    final.Delivers ∧
    ∀ action after, final.step action = some after → ∀ row ∈ final.table.rows,
      (∀ now ∈ after.table.rows, now.sequence ≠ row.sequence) →
      action.settles ∧ ∃ lane entry, .acknowledged lane entry ∈ final.log ∧
        entry.sequence = row.sequence ∧ entry.key = row.key := by
  have both : final.Sound ∧ final.Delivers :=
    run.keeps (P := fun sink => sink.Sound ∧ sink.Delivers)
      (fun _ _ _ stepped holds =>
        ⟨Sink.step_sound stepped holds.1, Sink.step_delivers stepped holds.1 holds.2⟩)
      ⟨Sink.sound_initial config, nofun⟩
  refine ⟨both.2, fun action after stepped row stored gone => ?_⟩
  obtain ⟨deleted, conserves, other⟩ := Sink.step_conserves stepped both.1
  rcases conserves.row both.1.dispatched stored with ⟨own, acknowledged⟩ | ⟨now, found, same, _⟩
  · refine ⟨?_, acknowledged⟩
    by_contra settles
    rw [other (by simpa using settles)] at own
    cases own
  · exact absurd same (gone now found)

/-- The event ids that callers were told were accepted, the newest group first. -/
def acceptedIds (log : List (SinkEvent EventOnly)) : List String :=
  log.filterMap fun event => match event with
    | .accepted (_, .dict data) => some data.eventId
    | _ => none

/-- Three events are accepted, one is acknowledged, and the process ends in the middle of a batch:
the other two are rows of the next process. -/
theorem accepted_events_survive_restart :
    ∃ final, (Sink.initial ⟨none, 8192, 16777216⟩).play
        (retriedActions ++ [.restart ⟨none, 8192, 16777216⟩]) = some final ∧
      acceptedIds final.log = ["evt-3", "evt-1", "evt-2"] ∧
      final.table.rows.map (·.sequence) = [2, 3] ∧ final.Delivers := by
  have played : ((Sink.initial ⟨none, 8192, 16777216⟩).play
      (retriedActions ++ [.restart ⟨none, 8192, 16777216⟩])).map (fun final =>
        (acceptedIds final.log, final.table.rows.map (·.sequence))) =
      some (["evt-3", "evt-1", "evt-2"], [2, 3]) := by decide +kernel
  obtain ⟨final, ran, read⟩ := Option.map_eq_some_iff.mp played
  obtain ⟨accepted, rows⟩ := Prod.mk.inj read
  exact ⟨final, ran, accepted, rows, (accepted_events_survive (Sink.play_runs ran)).1⟩

end Outbox
end DataGateway
