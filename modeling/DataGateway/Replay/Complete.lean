import DataGateway.Replay.Survey

/-!
# Complete reads

A read is one inspection of the stream and one request for a range, and the stream may be trimmed in
between.  What was trimmed before the inspection is noticed; what is trimmed after it is left out.
-/

namespace DataGateway
namespace Replay

open Coroutine Machine
open RedisFlowReplayStore

variable {Job Client Envelope Text : Type}

/-- The entry is an event whose append succeeded. -/
def Appended (entry : Entry Text) : Prop :=
  entry.fields.replayGap = false ∧ entry.answered = true

instance (entry : Entry Text) : Decidable (Appended entry) := inferInstanceAs (Decidable (_ ∧ _))

/-- The newest cursor, and then the range up to it. -/
def resumeRead (format : EnvelopeFormat Envelope Text) (maxReplayEvents : Nat)
    (after : Option Cursor) :
    ReplayProgram Client Envelope Text (Cursor × List (ReplayEntry Envelope)) :=
  highWatermark.bind fun through =>
    (read format maxReplayEvents after through).bind fun entries => .finish (.ok (through, entries))

/-- The end of a resumption that returns. -/
theorem resumeRead_surveyed {counts : Entry Text → Prop} {bounded : Prop}
    {format : EnvelopeFormat Envelope Text} {maxReplayEvents : Nat} {state : Survey Text}
    {after : Option Cursor} :
    Meets (surveying counts bounded)
      (fun outcome last => ∀ through entries, outcome = .ok (through, entries) →
        last.reached = through ∧ last.Holds counts format after through entries) state
      (resumeRead format maxReplayEvents after :
        ReplayProgram Client Envelope Text (Cursor × List (ReplayEntry Envelope))) := by
  refine highWatermark_surveyed.bind (fun through next reached => ?_) (fun _ _ _ => nofun)
  refine read_surveyed.bind (fun entries last surveyed => ?_) (fun _ _ _ => nofun)
  rintro _ _ returned
  cases returned
  exact (surveyed entries rfl).imp_left (· (.inl (reached through rfl)))

section Machine

variable [DecidableEq Job] [DecidableEq Client] [Unicode]

/-- Reads are complete in the runs under a policy: a list that a resumption returns is in the order
of the cursors, and holds every event in its range whose append succeeded. -/
def ReadsAreComplete (format : EnvelopeFormat Envelope Text)
    (policy : Policy (flowReplay Job Client format)) : Prop :=
  ∀ (initial final : Config (Nat × Job) (@ReplayCommand.Reply Client Envelope Text) ReplayError
      (Cursor × List (ReplayEntry Envelope)) (ReplayWorld (Nat × Job) Client Envelope Text))
    (task : Nat × Job) (maxReplayEvents : Nat) (after : Option Cursor) (through : Cursor)
    (entries : List (ReplayEntry Envelope)),
    Reaches policy initial final →
    initial.tasks task = resumeRead format maxReplayEvents after →
    final.tasks task = .finish (.ok (through, entries)) →
    (entries.map ReplayEntry.cursor).Pairwise (· < ·) ∧
      ∀ lower, after = some lower → ∀ entry ∈ final.world.redis.log,
        Wanted Appended lower through entry → ∃ replayed ∈ entries, Replays format entry replayed

/-- A range is asked for only while nothing that it is wanted for was trimmed since the stream was
inspected. -/
def keepingWanted (format : EnvelopeFormat Envelope Text) :
    Policy (flowReplay Job Client format) where
  allows task command _ world := KeepsWanted Appended world task command
  permits _ _ := True

instance (format : EnvelopeFormat Envelope Text) :
    (keepingWanted format : Policy (flowReplay Job Client format)).Decides :=
  ⟨fun task command _ world =>
    inferInstanceAs (Decidable (KeepsWanted Appended world task command)),
    fun _ _ => inferInstanceAs (Decidable True)⟩

/-- A read is complete unless an event of its range is trimmed between its two commands. -/
theorem reads_are_complete (format : EnvelopeFormat Envelope Text) :
    ReadsAreComplete format (keepingWanted format : Policy (flowReplay Job Client format)) := by
  intro initial final task maxReplayEvents after through entries run reads returned
  obtain ⟨last, holds, met⟩ := run.task (R := fun world state => state.True task world)
    (fun _ _ _ _ _ _ related _ allowed performed => related.own allowed False.elim performed)
    (fun _ _ _ _ _ _ _ apart related _ performed => related.other apart performed)
    (fun _ _ move related _ => related.disturb move) (.start _ _)
    (reads ▸ resumeRead_surveyed)
  rw [returned] at met
  obtain ⟨reached, list⟩ := met through entries rfl
  exact ⟨list.ascending, fun lower same entry mem wanted =>
    (list.complete lower same entry (holds.reached entry mem (reached ▸ wanted.below)) wanted).2⟩

end Machine

/-! ## A read while the stream is trimmed -/

/-- Three appends, and a resumption after the first one. -/
def appending : Config (Nat × Nat) (@ReplayCommand.Reply Unit String String) ReplayError
    (Cursor × List (ReplayEntry String)) (ReplayWorld (Nat × Nat) Unit String String) where
  world := connected
  tasks task :=
    if task.2 < 3 then
      (append plainFormat (toString task.2)).bind fun cursor => .finish (.ok (cursor, []))
    else resumeRead plainFormat 100 (some (.mk 1 0))

/-- Two events are appended, and a third one while the stream has been inspected. -/
def trimmedBetween (trim : Nat) : List (Turn asciiReplay) :=
  turns (0, 0) 4 (succeeding (.mk 1 0) 0) ++ turns (0, 1) 4 (succeeding (.mk 2 0) 0) ++
    turns (0, 3) 6 (succeeding .origin 0) ++ turns (0, 2) 4 (succeeding (.mk 3 0) trim) ++
    turns (0, 3) 1 (succeeding .origin 0)

/-- A read returns without an event that was appended before it. -/
theorem trimmed_read_is_incomplete :
    ¬@ReadsAreComplete Nat Unit String String _ _ asciiUnicode plainFormat
      (Policy.free asciiReplay) := by
  intro complete
  have played :
      ∃ final entry, appending.play (Policy.free asciiReplay) (trimmedBetween 2) = some final ∧
      final.tasks (0, 3) = .finish (.ok (.mk 2 0, [])) ∧ entry ∈ final.world.redis.log ∧
      entry = ⟨.mk 2 0, ⟨false, some "1"⟩, true⟩ :=
    ⟨_, _, rfl, rfl, .tail _ (.head _), rfl⟩
  obtain ⟨final, entry, ran, returned, stored, rfl⟩ := played
  obtain ⟨_, missing, _⟩ := (complete appending final (0, 3) 100 (some (.mk 1 0)) _ _
    (Config.play_reaches ran) rfl returned).2 _ rfl _ stored ⟨⟨rfl, rfl⟩, by decide, le_rfl⟩
  cases missing

/-- Without the trimming, the read returns the event. -/
theorem untrimmed_read_is_complete :
    ∃ final : Config (Nat × Nat) (@ReplayCommand.Reply Unit String String) ReplayError
        (Cursor × List (ReplayEntry String)) (ReplayWorld (Nat × Nat) Unit String String),
      ⟨.mk 2 0, ⟨false, some "1"⟩, true⟩ ∈ final.world.redis.log ∧
      ∃ entries, final.tasks (0, 3) = .finish (.ok (.mk 2 0, entries)) ∧
        ∃ replayed ∈ entries, Replays plainFormat ⟨.mk 2 0, ⟨false, some "1"⟩, true⟩
          replayed := by
  let _ := asciiUnicode
  have played : ∃ final entries entry,
      appending.play (keepingWanted plainFormat : Policy asciiReplay)
      (trimmedBetween 0) = some final ∧
      final.tasks (0, 3) = .finish (.ok (.mk 2 0, entries)) ∧ entry ∈ final.world.redis.log ∧
      entry = ⟨.mk 2 0, ⟨false, some "1"⟩, true⟩ :=
    ⟨_, _, _, rfl, rfl, .tail _ (.head _), rfl⟩
  obtain ⟨final, entries, entry, ran, returned, stored, rfl⟩ := played
  exact ⟨final, stored, entries, returned,
    (reads_are_complete plainFormat appending final (0, 3) 100
    (some (.mk 1 0)) _ _ (Config.play_reaches ran) rfl returned).2 _ rfl _ stored
    ⟨⟨rfl, rfl⟩, by decide, le_rfl⟩⟩

end Replay
end DataGateway
