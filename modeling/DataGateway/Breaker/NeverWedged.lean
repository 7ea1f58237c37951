import DataGateway.Breaker.HalfOpen

/-!
# The breaker never wedges

Whatever calls and resets interleave, the slot is only ever taken in `HALF_OPEN` and only while a
call that took it is in flight.  So a breaker without calls in flight admits the next one as soon as
its recovery timeout is over, and `probe_due` agrees with the admission in `OPEN`.
-/

namespace DataGateway
namespace Breaker

open Coroutine Machine

variable {ι Time : Type}

/-- The task has performed a command and has not ended. -/
def InFlight (config : Config ι (CallCommand.Reply Time)
    (CallError Time) Unit (BreakerWorld ι Time)) (i : ι) : Prop :=
  (∃ event ∈ config.world.history, event.actor = i) ∧
    ∀ outcome, config.tasks i ≠ .finish outcome

/-- The call was admitted in `HALF_OPEN`. -/
def AdmittedHalfOpen (history : List (CallEvent ι Time)) (i : ι) : Prop :=
  ∃ event ∈ history, event.actor = i ∧ event.takesSlot ∧ event.after.state = .halfOpen

section Invariant

variable {history : List (CallEvent ι Time)} {locals : ι → Phase} {i : ι}
  {before after : CircuitBreaker Time}

/-- What holds between any two commands, whoever completes when. -/
structure NeverWedged [DecidableEq ι] (world : BreakerWorld ι Time)
    (locals : ι → Phase) : Prop where
  tracked : Tracked world.history locals
  admitted : ∀ i ∈ holders world.history, AdmittedHalfOpen world.history i
  idle : world.breaker.state ≠ .halfOpen → world.breaker.halfOpenInProgress = false
  held : world.breaker.halfOpenInProgress = true → ∃ i, i ∈ holders world.history

theorem AdmittedHalfOpen.cons {event : CallEvent ι Time} (admitted : AdmittedHalfOpen history i) :
    AdmittedHalfOpen (event :: history) i := by
  obtain ⟨earlier, mem, rest⟩ := admitted
  exact ⟨earlier, .tail _ mem, rest⟩

/-- An admission that takes the slot takes it in `HALF_OPEN`. -/
theorem Performed.takesSlot {command : CallCommand} {reply : command.Reply Time}
    (performed : Performed before command reply after)
    (takes : CallEvent.takesSlot (⟨i, command, reply, before, after⟩ : CallEvent ι Time)) :
    after.state = .halfOpen := by
  cases performed with
  | recovered => rfl
  | probed halfOpen => exact halfOpen
  | _ => simp at takes

/-- The last section of a call leaves nobody holding the slot, as far as the breaker knows. -/
theorem Performed.settles {command : CallCommand} {reply : command.Reply Time}
    (performed : Performed before command reply after)
    (idle : before.state ≠ .halfOpen → before.halfOpenInProgress = false)
    (settles : CallEvent.settles (⟨i, command, reply, before, after⟩ : CallEvent ι Time)) :
    after.halfOpenInProgress = false := by
  by_cases halfOpen : before.state = .halfOpen
  · cases performed <;> simp_all [CircuitBreaker.onSuccess, CircuitBreaker.onFailure,
      CircuitBreaker.releaseSlot]
  · have free := idle halfOpen
    cases performed with
    | failed now =>
        by_cases tripped : before.config.failureThreshold ≤ before.failureCount + 1 <;>
          simp [CircuitBreaker.onFailure, halfOpen, tripped, free]
    | _ => simp_all [CircuitBreaker.onSuccess, CircuitBreaker.releaseSlot]

/-- The slot is only taken in `HALF_OPEN`. -/
theorem Performed.idle {command : CallCommand} {reply : command.Reply Time}
    (performed : Performed before command reply after)
    (idle : before.state ≠ .halfOpen → before.halfOpenInProgress = false)
    (notHalf : after.state ≠ .halfOpen) : after.halfOpenInProgress = false := by
  have settled := performed.settles (i := ()) idle
  cases performed with
  | recovered => exact absurd rfl notHalf
  | probed halfOpen => exact absurd halfOpen notHalf
  | reset => rfl
  | succeeded => exact settled rfl
  | failed now => exact settled rfl
  | released => exact settled rfl
  | _ => exact idle notHalf

/-- A command that neither takes nor returns the slot leaves it, or is a reset. -/
theorem Performed.keeps {command : CallCommand} {reply : command.Reply Time}
    (performed : Performed before command reply after)
    (leaves : CallEvent.takesSlot (⟨i, command, reply, before, after⟩ : CallEvent ι Time) = false)
    (stays : CallEvent.settles (⟨i, command, reply, before, after⟩ : CallEvent ι Time) = false)
    (taken : after.halfOpenInProgress = true) : before.halfOpenInProgress = true := by
  cases performed with
  | recovered => simp at leaves
  | probed => simp at leaves
  | succeeded => simp at stays
  | failed => simp at stays
  | released => simp at stays
  | reset => simp [CircuitBreaker.reset] at taken
  | _ => exact taken

variable [DecidableEq ι]

/-- One command keeps the invariant. -/
theorem NeverWedged.step {command : CallCommand} {reply : command.Reply Time}
    (kept : NeverWedged ⟨before, history⟩ locals) (permitted : Permitted command (locals i))
    (performed : Performed before command reply after) :
    NeverWedged ⟨after, ⟨i, command, reply, before, after⟩ :: history⟩
      (Function.update locals i ((locals i).after command reply)) := by
  refine ⟨kept.tracked.step _ _ _ permitted, fun j mem => ?_, performed.idle kept.idle,
    fun taken => ?_⟩
  · rw [holders] at mem
    split at mem
    next takes =>
      rcases List.mem_cons.mp mem with rfl | earlier
      · exact ⟨_, .head _, rfl, takes, performed.takesSlot takes⟩
      · exact (kept.admitted j earlier).cons
    next =>
      split at mem
      · exact (kept.admitted j (List.mem_filter.mp mem).1).cons
      · exact (kept.admitted j mem).cons
  · rw [holders]
    split
    next takes => exact ⟨i, .head _⟩
    next leaves =>
      split
      next settles => exact absurd taken (by simp [performed.settles kept.idle settles])
      next stays =>
        exact kept.held (performed.keeps (Bool.not_eq_true _ ▸ leaves)
          (Bool.not_eq_true _ ▸ stays) taken)

end Invariant

/-! ## Admission -/

theorem operation_meets (operation : Operation) :
    Meets (phases Time True) (fun _ phase => phase = .ended) .waiting operation.run := by
  cases operation with
  | call => exact call_meets
  | reset => exact ⟨⟨.reset, fun _ => trivial⟩, fun _ _ moved => moved⟩

section Runs

variable [Sub Time] [Zero Time] [LE Time] [DecidableLE Time]

/-- A call made now is admitted. -/
def Admits (breaker : CircuitBreaker Time) (now : Time) : Prop :=
  ∃ admitted, breaker.checkState now = .ok admitted

/-- A free slot and a timeout that is over admit the next call. -/
theorem admits_of_free {breaker : CircuitBreaker Time} {now : Time}
    (free : breaker.halfOpenInProgress = false)
    (elapsed : breaker.state = .opened → breaker.config.recoveryTimeout ≤ breaker.elapsed now) :
    Admits breaker now := by
  unfold Admits CircuitBreaker.checkState
  cases state : breaker.state with
  | closed => exact ⟨_, rfl⟩
  | opened => simp [elapsed state, free]
  | halfOpen => simp [free]

/-- In `OPEN` with a free slot a probe is due exactly when a call is admitted. -/
theorem probeDue_iff {breaker : CircuitBreaker Time} {now : Time} (opened : breaker.state = .opened)
    (free : breaker.halfOpenInProgress = false) : breaker.probeDue now ↔ Admits breaker now := by
  unfold Admits CircuitBreaker.checkState CircuitBreaker.probeDue
  by_cases elapsed : breaker.config.recoveryTimeout ≤
    breaker.elapsed now <;> simp [opened, free, elapsed]

variable [DecidableEq ι]

/-- Any number of calls and resets on a new breaker. -/
def manyOperations (config : CircuitBreakerConfig Time) (operations : ι → Operation) :
    Config ι (CallCommand.Reply Time) (CallError Time) Unit (BreakerWorld ι Time) :=
  ⟨⟨.initial config, []⟩, fun i => (operations i).run⟩

/-- In every interleaving of calls and resets the slot is free outside of `HALF_OPEN` and only taken
while a call admitted in `HALF_OPEN` is in flight.  Without a call in flight the next call is
admitted once the recovery timeout is over, and in `OPEN` a probe is due exactly when it is. -/
theorem breaker_never_wedges {config : CircuitBreakerConfig Time} {operations : ι → Operation}
    {final : Config ι (CallCommand.Reply Time) (CallError Time) Unit (BreakerWorld ι Time)}
    (run : Reaches (Policy.free (breakerMachine ι Time)) (manyOperations config operations) final) :
    (final.world.breaker.state ≠ .halfOpen → final.world.breaker.halfOpenInProgress = false) ∧
    (final.world.breaker.halfOpenInProgress = true →
      ∃ i, InFlight final i ∧ AdmittedHalfOpen final.world.history i) ∧
    ((∀ i, ¬ InFlight final i) → ∀ now,
      final.world.breaker.config.recoveryTimeout ≤ final.world.breaker.elapsed now →
      Admits final.world.breaker now) ∧
    (final.world.breaker.state = .opened → ∀ now,
      final.world.breaker.probeDue now ↔ Admits final.world.breaker now) := by
  have act : ∀ (world : BreakerWorld ι Time) (locals : ι → Phase) i command outcome reply after,
      NeverWedged world locals → (phases Time True).may command (locals i) →
      (Policy.free (breakerMachine ι Time)).allows i command outcome world →
      performCall i command outcome world = some (reply, after) →
      ∃ next, (phases Time True).after command (locals i) reply next ∧
        NeverWedged after (Function.update locals i next) := by
    intro world locals i command outcome reply after kept permitted _ performed
    obtain ⟨effect, recorded⟩ := performCall_performed performed
    have step := kept.step permitted.1 effect
    rw [← recorded] at step
    exact ⟨_, rfl, step⟩
  have start : NeverWedged (manyOperations config operations).world fun _ => .waiting :=
    ⟨by simp [Tracked, manyOperations], by simp [manyOperations, CircuitBreaker.initial],
      fun _ => rfl, by simp [manyOperations, CircuitBreaker.initial]⟩
  obtain ⟨locals, kept, meets⟩ := run.invariant act (fun _ _ move => by cases move) start
    fun i => operation_meets (operations i)
  have flying : final.world.breaker.halfOpenInProgress = true →
      ∃ i, InFlight final i ∧ AdmittedHalfOpen final.world.history i := by
    intro taken
    obtain ⟨i, holds⟩ := kept.held taken
    have admitted := kept.admitted i holds
    obtain ⟨event, mem, actor, _⟩ := admitted
    refine ⟨i, ⟨⟨event, mem, actor⟩, fun outcome finished => ?_⟩, kept.admitted i holds⟩
    have ended := meets i
    rw [finished, meets_finish] at ended
    have holding := (kept.tracked i).mp holds
    rw [ended] at holding
    exact absurd holding (by simp)
  refine ⟨kept.idle, flying, fun none now due => admits_of_free ?_ fun _ => due,
    fun opened now => probeDue_iff opened (kept.idle (by simp [opened]))⟩
  by_contra taken
  obtain ⟨i, inFlight, _⟩ := flying (by simpa using taken)
  exact none i inFlight

/-- A failure opens the breaker, and ten seconds later a probe is due and admitted. -/
theorem breaker_never_wedges_opened :
    ∃ final, (manyOperations ⟨1, 10, 2⟩ fun i : Fin 4 => if i = 3 then .reset else .call).play
        (Policy.free (breakerMachine (Fin 4) Int))
        [callTurn 3 0 .returned, callTurn 0 0 .raised, callTurn 0 0 .raised,
          callTurn 0 0 .raised] = some final ∧
      final.world.breaker.state = .opened ∧
      (final.world.breaker.probeDue 10 ↔ Admits final.world.breaker 10) := by
  have played : ((manyOperations ⟨1, 10, 2⟩ fun i : Fin 4 => if i = 3 then .reset else .call).play
      (Policy.free (breakerMachine (Fin 4) Int))
      [callTurn 3 0 .returned, callTurn 0 0 .raised, callTurn 0 0 .raised,
        callTurn 0 0 .raised]).map (·.world.breaker.state) = some .opened := by decide
  obtain ⟨final, ran, opened⟩ := Option.map_eq_some_iff.mp played
  have holds := breaker_never_wedges (Config.play_reaches ran)
  exact ⟨final, ran, opened, holds.2.2.2 opened 10⟩

end Runs

end Breaker
end DataGateway
