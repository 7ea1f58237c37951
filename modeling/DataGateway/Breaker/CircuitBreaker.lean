import DataGateway.Coroutine.Interleaving
import Mathlib.Algebra.Ring.Int.Defs
import Mathlib.Algebra.Ring.Nat

/-!
# The circuit breaker

`CircuitBreaker` and its sections under the lock, and `call` around an arbitrary function.  No
section waits for anything while it holds the lock, so each one is a single step.  Times only have
to be subtracted and compared.
-/

namespace DataGateway
namespace Breaker

open Coroutine

/-- `CircuitState`. -/
inductive CircuitState
  /-- `CLOSED`: every call passes. -/
  | closed
  /-- `OPEN`: calls are rejected. -/
  | opened
  /-- `HALF_OPEN`: one call at a time probes the recovery. -/
  | halfOpen
  deriving DecidableEq, Repr

/-- `CircuitBreakerConfig`. -/
structure CircuitBreakerConfig (Time : Type) where
  failureThreshold : Int
  recoveryTimeout : Time
  successThreshold : Int
  deriving DecidableEq, Repr

/-- `CircuitOpenError`, less the name of the breaker. -/
structure CircuitOpenError (Time : Type) where
  retryAfter : Time
  deriving DecidableEq, Repr

/-- `CircuitBreaker`, less its name and its lock. -/
structure CircuitBreaker (Time : Type) where
  config : CircuitBreakerConfig Time
  state : CircuitState
  failureCount : Int
  successCount : Int
  lastFailureTime : Option Time
  halfOpenInProgress : Bool
  deriving DecidableEq, Repr

/-- A breaker as it is constructed. -/
def CircuitBreaker.initial {Time : Type} (config : CircuitBreakerConfig Time) :
    CircuitBreaker Time := ⟨config, .closed, 0, 0, none, false⟩

variable {Time : Type}

namespace CircuitBreaker

/-- `_on_success`. -/
def onSuccess (breaker : CircuitBreaker Time) : CircuitBreaker Time :=
  if breaker.state = .halfOpen then
    let successCount := breaker.successCount + 1
    { breaker with
      state := if breaker.config.successThreshold ≤ successCount then .closed else .halfOpen
      successCount := successCount
      halfOpenInProgress := false
      failureCount := 0 }
  else { breaker with failureCount := 0 }

/-- `_on_failure`. -/
def onFailure (breaker : CircuitBreaker Time) (now : Time) : CircuitBreaker Time :=
  let failed := { breaker with
    failureCount := breaker.failureCount + 1
    lastFailureTime := some now }
  if breaker.state = .halfOpen then { failed with state := .opened, halfOpenInProgress := false }
  else if breaker.config.failureThreshold ≤ failed.failureCount then
    { failed with state := .opened }
  else failed

/-- What the cancellation handler of `call` does under the lock. -/
def releaseSlot (breaker : CircuitBreaker Time) : CircuitBreaker Time :=
  if breaker.state = .halfOpen then { breaker with halfOpenInProgress := false } else breaker

/-- `reset`. -/
def reset (breaker : CircuitBreaker Time) : CircuitBreaker Time :=
  { breaker with
    state := .closed
    failureCount := 0
    successCount := 0
    lastFailureTime := none
    halfOpenInProgress := false }

section Clock

variable [Sub Time] [Zero Time] [LE Time] [DecidableLE Time]

/-- `time.time() - (self.last_failure_time or 0)`. -/
def elapsed (breaker : CircuitBreaker Time) (now : Time) : Time :=
  now - breaker.lastFailureTime.getD 0

/-- `probe_due`. -/
def probeDue (breaker : CircuitBreaker Time) (now : Time) : Bool :=
  if breaker.state ≠ .opened then true
  else if breaker.halfOpenInProgress then false
  else breaker.config.recoveryTimeout ≤ breaker.elapsed now

/-- `_check_state`. -/
def checkState (breaker : CircuitBreaker Time) (now : Time) :
    Except (CircuitOpenError Time) (CircuitBreaker Time) :=
  match breaker.state with
  | .opened =>
      if breaker.config.recoveryTimeout ≤ breaker.elapsed now then
        if breaker.halfOpenInProgress then .error ⟨breaker.config.recoveryTimeout⟩
        else .ok { breaker with state := .halfOpen, successCount := 0, halfOpenInProgress := true }
      else .error ⟨breaker.config.recoveryTimeout - breaker.elapsed now⟩
  | .halfOpen =>
      if breaker.halfOpenInProgress then .error ⟨breaker.config.recoveryTimeout⟩
      else .ok { breaker with halfOpenInProgress := true }
  | .closed => .ok breaker

end Clock

end CircuitBreaker

/-! ## Sections and calls -/

/-- The code between taking and giving up the lock. -/
inductive Section
  /-- The start of `call`. -/
  | admission
  /-- `_on_success`. -/
  | onSuccess
  /-- `_on_failure`. -/
  | onFailure
  /-- The cancellation handler of `call`. -/
  | releaseSlot
  /-- `reset`. -/
  | reset
  deriving DecidableEq, Repr

/-- What a section returns: an admission is rejected, or tells whether the call holds the half-open
slot. -/
abbrev Section.Reply (Time : Type) : Section → Type
  | .admission => Except (CircuitOpenError Time) Bool
  | _ => Unit

/-- Run a section at a time. -/
def Section.perform [Sub Time] [Zero Time] [LE Time] [DecidableLE Time] (now : Time) :
    (part : Section) → CircuitBreaker Time →
    part.Reply Time × CircuitBreaker Time
  | .admission, breaker =>
      match breaker.checkState now with
      | .error rejection => (.error rejection, breaker)
      | .ok admitted => (.ok (admitted.state = .halfOpen), admitted)
  | .onSuccess, breaker => ((), breaker.onSuccess)
  | .onFailure, breaker => ((), breaker.onFailure now)
  | .releaseSlot, breaker => ((), breaker.releaseSlot)
  | .reset, breaker => ((), breaker.reset)

section Call

variable {Cmd : Type} {Reply : Cmd → Type} {ε α : Type}

/-- `call`, for any way to run a section and any function. -/
def call (run : (part : Section) → Coroutine Reply ε (part.Reply Time))
    (circuitOpen : CircuitOpenError Time → ε) (isException : ε → Bool)
    (func : Coroutine Reply ε α) : Coroutine Reply ε α :=
  (run .admission).bind fun
    | .error rejection => raise (circuitOpen rejection)
    | .ok holdingHalfOpenSlot =>
        func.resolve fun
          | .ok result => (run .onSuccess).bind fun _ => .finish (.ok result)
          | .error error =>
              if isException error then (run .onFailure).bind fun _ => raise error
              else if holdingHalfOpenSlot then (run .releaseSlot).bind fun _ => raise error
              else raise error

end Call

/-! ## Many calls on one breaker -/

/-- What a call waits for. -/
inductive CallCommand
  /-- A section of the breaker. -/
  | inside (part : Section)
  /-- The function that the breaker protects. -/
  | func
  deriving DecidableEq, Repr

/-- How the function ends. -/
inductive FuncEnd
  | returned
  | raised
  | cancelled
  deriving DecidableEq, Repr

/-- The exceptions that leave a call. -/
inductive CallError (Time : Type)
  | circuitOpen (rejection : CircuitOpenError Time)
  | raised
  | cancelled
  deriving DecidableEq, Repr

/-- `isinstance(error, Exception)`. -/
def CallError.isException : CallError Time → Bool
  | .cancelled => false
  | _ => true

/-- The replies to a call. -/
abbrev CallCommand.Reply (Time : Type) : CallCommand → Type
  | .inside part => part.Reply Time
  | .func => FuncEnd

/-- One section as a computation. -/
def runSection (part : Section) :
    Coroutine (CallCommand.Reply Time) (CallError Time) (part.Reply Time) :=
  .suspend (.inside part) fun reply => .finish (.ok reply)

/-- The protected function. -/
def runFunc : Coroutine (CallCommand.Reply Time) (CallError Time) Unit :=
  .suspend .func fun
    | .returned => .finish (.ok ())
    | .raised => raise .raised
    | .cancelled => raise .cancelled

/-- What a task does with the breaker. -/
inductive Operation
  /-- `call`. -/
  | call
  /-- `reset`. -/
  | reset
  deriving DecidableEq, Repr

/-- The computation of a task. -/
def Operation.run : Operation → Coroutine (CallCommand.Reply Time) (CallError Time) Unit
  | .call => Breaker.call runSection .circuitOpen CallError.isException runFunc
  | .reset => runSection .reset

/-- One performed command, with the breaker around it. -/
structure CallEvent (ι Time : Type) where
  actor : ι
  command : CallCommand
  reply : command.Reply Time
  before : CircuitBreaker Time
  after : CircuitBreaker Time

/-- The shared state: the breaker and everything performed on it, the newest first. -/
structure BreakerWorld (ι Time : Type) where
  breaker : CircuitBreaker Time
  history : List (CallEvent ι Time)

/-- What is left open when a command is performed: the clock, or how the function ends. -/
abbrev CallCommand.Outcome (Time : Type) : CallCommand → Type
  | .inside _ => Time
  | .func => FuncEnd

/-- Perform one command. -/
def performCall [Sub Time] [Zero Time] [LE Time] [DecidableLE Time] {ι : Type} (i : ι) :
    (command : CallCommand) → command.Outcome Time →
    BreakerWorld ι Time → Option (command.Reply Time × BreakerWorld ι Time)
  | .inside part, now, world =>
      let (reply, after) := part.perform now world.breaker
      some (reply, ⟨after, ⟨i, .inside part, reply, world.breaker, after⟩ :: world.history⟩)
  | .func, ended, world =>
      some (ended, ⟨world.breaker,
        ⟨i, .func, ended, world.breaker, world.breaker⟩ :: world.history⟩)

/-- The machine that runs calls and resets on one breaker at arbitrary times. -/
def breakerMachine (ι Time : Type) [Sub Time] [Zero Time] [LE Time] [DecidableLE Time] :
    Machine ι (CallCommand.Reply Time) (BreakerWorld ι Time) where
  Outcome := CallCommand.Outcome Time
  perform := performCall
  Disturbance := Empty
  disturb := nofun

end Breaker
end DataGateway
