import DataGateway.Outbox.Order

/-!
# Shutdown waits for acknowledgements

`close` cancels the drains in the step in which it sees every lane safe, or after its deadline.  A
lane that is safe has nothing unsettled.
-/

namespace DataGateway
namespace Outbox

variable {Dict : Type}

/-- Whenever a `close` cancels the drains, its deadline has passed, or no lane has an entry that the
publisher has acknowledged and that no attempt to settle has been made for. -/
theorem shutdown_settles [Encoding Dict] {config : SinkConfig} {final : Sink Dict}
    (run : Sink.Runs (Sink.initial config) final) : Throughout CancelsSafely final.log :=
  run.sound.dispatched.cancels

/-- The cancellations of drains in a log and whether they were late, the newest first. -/
def cancellations (log : List (SinkEvent Dict)) : List Bool :=
  log.filterMap fun event => match event with
    | .drainsCancelled elapsed => some elapsed
    | _ => none

/-- An acknowledged entry as its drain reads it. -/
def acknowledgedEntry : OutboxEntry where
  sequence := 1
  topic := "heber:events"
  eventId := "evt-1"
  payload := "\x7b\"event_id\":\"evt-1\"\x7d".toUTF8.toList
  payloadDigest := "44fbde8d9ef83ba70136d677c10b1579fa6b7014c8e68fa9f7167a3397a95f51"
  attempts := 0
  lastError := none
  createdAt := "2026-08-05T00:00:00.000Z"

/-- A sink is closed while an entry is acknowledged but not settled. -/
def acknowledgedAtClose : List (Sink.Action EventOnly) :=
  [.publish "heber:events" (.dict ⟨"evt-1"⟩), .groupBegins, .groupCommits roomyDisk, .groupBegins,
    .drainLoops .live, .drainLocks .live, .drainReads .live false, .childStarts .live,
    .publisherReturns .live acknowledgedEntry .acknowledged, .closeCalled 0, .closeLocks 0,
    .closeJoins 0]

/-- There `close` cannot cancel before the settlement, and does not need its deadline. -/
theorem shutdown_settles_acknowledged :
    (Sink.initial ⟨none, 8192, 16777216⟩).play (acknowledgedAtClose ++ [.closeCancels 0]) = none ∧
    ∃ final, (Sink.initial ⟨none, 8192, 16777216⟩).play (acknowledgedAtClose ++
        [.drainSettles .live, .drainSettled .live false, .closeCancels 0]) = some final ∧
      cancellations final.log = [false] ∧ Throughout CancelsSafely final.log := by
  have refused : ((Sink.initial ⟨none, 8192, 16777216⟩).play
      (acknowledgedAtClose ++ [.closeCancels 0])).isSome = false := by decide +kernel
  have played : ((Sink.initial ⟨none, 8192, 16777216⟩).play (acknowledgedAtClose ++
      [.drainSettles .live, .drainSettled .live false, .closeCancels 0])).map
        (fun final => cancellations final.log) = some [false] := by decide +kernel
  obtain ⟨final, ran, cancelled⟩ := Option.map_eq_some_iff.mp played
  exact ⟨by simpa using refused, final, ran, cancelled, shutdown_settles (Sink.play_runs ran)⟩

end Outbox
end DataGateway
