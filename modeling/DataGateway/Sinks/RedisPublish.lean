import DataGateway.Coroutine.Contract

/-!
# One publish of the Redis sink

`RedisStreamsSink.publish` with its retries.  It answers `False` in two cases only: the sink is
closed, or all attempts have failed and the event is in the failed-event buffer.  An exception
leaves it without buffering anything.
-/

namespace DataGateway
namespace Sinks

open Coroutine

/-- What leaves `publish`, an `Exception` or a `CancelledError`. -/
inductive PublishError
  | raised (message : String)
  | cancelled
  deriving DecidableEq, Repr

/-- What `publish` asks of the sink and of Redis. -/
inductive PublishCommand
  /-- `self._closed`. -/
  | closed
  /-- `orjson.dumps`. -/
  | encode
  /-- `_ensure_connected`. -/
  | ensureConnected
  /-- `self._redis is not None`. -/
  | client
  | xadd
  /-- `_reset_connection`. -/
  | resetConnection
  /-- The back-off between two attempts. -/
  | sleep
  /-- `_buffer_failed_event`. -/
  | bufferFailedEvent
  deriving DecidableEq, Repr

/-- The answers. -/
abbrev PublishCommand.Reply : PublishCommand → Type
  | .closed | .client => Bool
  | .bufferFailedEvent => Unit
  | _ => Except PublishError Unit

/-- A part of a publish. -/
abbrev RedisPublish := Coroutine PublishCommand.Reply PublishError Bool

/-- Do something that may raise. -/
def attempt (command : PublishCommand) (raises : command.Reply → Except PublishError Unit)
    (rest : RedisPublish) : RedisPublish :=
  .suspend command fun reply => match raises reply with
    | .ok _ => rest
    | .error error => raise error

/-- The attempts that are left, and what follows the last one. -/
def publishAttempts : Nat → RedisPublish
  | 0 => .suspend .bufferFailedEvent fun _ => .finish (.ok false)
  | remaining + 1 =>
      let backOff := if 0 < remaining then attempt .sleep id (publishAttempts remaining)
        else publishAttempts remaining
      attempt .ensureConnected id <| .suspend .client fun
        | false => backOff
        | true => .suspend .xadd fun
            | .ok _ => .finish (.ok true)
            | .error .cancelled => raise .cancelled
            | .error (.raised _) => attempt .resetConnection id backOff

/-- `PUBLISH_RETRY_ATTEMPTS`. -/
def publishRetryAttempts : Nat := 3

/-- `RedisStreamsSink.publish`. -/
def redisPublish : RedisPublish :=
  .suspend .closed fun
    | true => .finish (.ok false)
    | false => attempt .encode id (publishAttempts publishRetryAttempts)

/-- What the end of a publish says about the event. -/
structure PublishEnds (outcome : Except PublishError Bool)
    (log : List ((command : PublishCommand) × command.Reply)) : Prop where
  accepted : outcome = .ok true → ⟨.xadd, .ok ()⟩ ∈ log
  refused : outcome = .ok false → ⟨.closed, true⟩ ∈ log ∨ ⟨.bufferFailedEvent, ()⟩ ∈ log
  raised : ∀ error, outcome = .error error → ⟨.bufferFailedEvent, ()⟩ ∉ log

variable {log : List ((command : PublishCommand) × command.Reply)}

theorem attempt_ends {command : PublishCommand} {raises : command.Reply → Except PublishError Unit}
    {rest : RedisPublish} (quiet : ⟨.bufferFailedEvent, ()⟩ ∉ log)
    (other : command ≠ .bufferFailedEvent)
    (ends : ∀ reply, Meets (Contract.logged _) PublishEnds (⟨command, reply⟩ :: log) rest) :
    Meets (Contract.logged _) PublishEnds log (attempt command raises rest) := by
  rw [attempt, meets_logged_suspend]
  intro reply
  split
  · exact ends reply
  · refine ⟨nofun, nofun, fun _ _ mem => ?_⟩
    rcases List.mem_cons.mp mem with same | old
    · exact other (congrArg Sigma.fst same).symm
    · exact quiet old

theorem publishAttempts_ends (remaining : Nat) (quiet : ⟨.bufferFailedEvent, ()⟩ ∉ log) :
    Meets (Contract.logged _) PublishEnds log (publishAttempts remaining) := by
  induction remaining generalizing log with
  | zero =>
      rw [publishAttempts, meets_logged_suspend]
      exact fun _ => ⟨nofun, fun _ => .inr (.head _), nofun⟩
  | succ remaining ih =>
      have backOff (log : List ((command : PublishCommand) × command.Reply))
          (quiet : ⟨.bufferFailedEvent, ()⟩ ∉ log) : Meets (Contract.logged _) PublishEnds log
            (if 0 < remaining then attempt .sleep id (publishAttempts remaining)
              else publishAttempts remaining) := by
        split
        · exact attempt_ends quiet nofun fun reply => ih (by simpa using quiet)
        · exact ih quiet
      refine attempt_ends quiet nofun fun connected => ?_
      rw [meets_logged_suspend]
      rintro (_ | _)
      · exact backOff _ (by simpa using quiet)
      · rw [meets_logged_suspend]
        rintro ((message | _) | _)
        · exact attempt_ends (by simpa using quiet) nofun fun reply =>
            backOff _ (by simpa using quiet)
        · exact ⟨nofun, nofun, fun _ _ => by simpa using quiet⟩
        · exact ⟨fun _ => .head _, nofun, nofun⟩

/-- A publish that is not `True` was refused by a closed sink, has put the event in the failed-event
buffer, or was broken off by an exception without doing so. -/
theorem redisPublish_ends : Meets (Contract.logged _) PublishEnds [] redisPublish := by
  rw [redisPublish, meets_logged_suspend]
  rintro (_ | _)
  · exact attempt_ends (by simp) nofun fun reply => publishAttempts_ends _ (by simp)
  · exact ⟨nofun, fun _ => .inl (.head _), nofun⟩

end Sinks
end DataGateway
