import DataGateway.Breaker.CircuitBreaker

/-!
# The half-open slot

The half-open flag is a single slot, but every completion in `HALF_OPEN` frees it and every success
counts, whoever completes.  A call that was admitted before the last recovery therefore frees a slot
that another call holds.  Without such stragglers one call at a time probes, and only probes count.
-/

namespace DataGateway
namespace Breaker

open Coroutine Machine

variable {ι Time : Type}

/-! ## What the history says -/

namespace CallEvent

/-- A call passes the breaker. -/
@[simp]
def admits (event : CallEvent ι Time) : Bool :=
  match event.command, event.reply with
  | .inside .admission, .ok _ => true
  | _, _ => false

/-- An admission that takes the half-open slot. -/
@[simp]
def takesSlot (event : CallEvent ι Time) : Bool :=
  match event.command, event.reply with
  | .inside .admission, .ok true => true
  | _, _ => false

/-- The last section of an admitted call. -/
@[simp]
def settles (event : CallEvent ι Time) : Bool :=
  match event.command with
  | .inside .onSuccess | .inside .onFailure | .inside .releaseSlot => true
  | _ => false

/-- The function of a call has ended. -/
@[simp]
def functionEnds (event : CallEvent ι Time) : Bool := event.command = .func

/-- A success that the breaker counts. -/
@[simp]
def counts (event : CallEvent ι Time) : Bool :=
  event.command = .inside .onSuccess ∧ event.before.state = .halfOpen

/-- The transition from `OPEN` to `HALF_OPEN`. -/
@[simp]
def recovers (event : CallEvent ι Time) : Bool :=
  event.before.state = .opened ∧ event.after.state = .halfOpen

/-- The transition from `HALF_OPEN` to `CLOSED`. -/
@[simp]
def closes (event : CallEvent ι Time) : Bool :=
  event.before.state = .halfOpen ∧ event.after.state = .closed

end CallEvent

/-- The calls that were admitted since the last recovery, that of the recovery included. -/
@[simp]
def admittedSince : List (CallEvent ι Time) → List ι
  | [] => []
  | event :: earlier =>
      if event.recovers then [event.actor]
      else if event.admits then event.actor :: admittedSince earlier
      else admittedSince earlier

section Tracking

variable [DecidableEq ι]

/-- The calls that took the slot and have not run their last section. -/
@[simp]
def holders : List (CallEvent ι Time) → List ι
  | [] => []
  | event :: earlier =>
      if event.takesSlot then event.actor :: holders earlier
      else if event.settles then (holders earlier).filter (· ≠ event.actor)
      else holders earlier

/-- The calls that took the slot and are still running their function. -/
@[simp]
def probing : List (CallEvent ι Time) → List ι
  | [] => []
  | event :: earlier =>
      if event.takesSlot then event.actor :: probing earlier
      else if event.functionEnds then (probing earlier).filter (· ≠ event.actor)
      else probing earlier

/-- How many successes were counted since the last recovery for calls admitted since then. -/
@[simp]
def ownSuccesses : List (CallEvent ι Time) → Nat
  | [] => 0
  | event :: earlier =>
      if event.recovers then 0
      else if event.counts ∧ event.actor ∈ admittedSince earlier then ownSuccesses earlier + 1
      else ownSuccesses earlier

/-- Every closing event was reached by counting the successes of calls admitted since the last
recovery, and nothing else. -/
@[simp]
def ClosesOnOwnSuccesses : List (CallEvent ι Time) → Prop
  | [] => True
  | event :: earlier =>
      (event.closes → event.after.successCount = ownSuccesses (event :: earlier)) ∧
        ClosesOnOwnSuccesses earlier

/-! ## The phases of a call -/

/-- Where a task is. -/
inductive Phase
  /-- It has not been admitted yet. -/
  | waiting
  /-- Its function is running; it may have taken the slot. -/
  | running (slot : Bool)
  /-- Its function has ended and its last section is due. -/
  | settling (slot : Bool)
  /-- Nothing is left to do. -/
  | ended
  deriving DecidableEq

/-- The task took the slot and still has to give it back. -/
@[simp]
def Phase.holds : Phase → Bool
  | .running slot | .settling slot => slot
  | _ => false

/-- The task is not in the middle of a call that was admitted without the slot. -/
def Phase.Slotted (phase : Phase) : Prop := phase ≠ .running false ∧ phase ≠ .settling false

/-- What a task may do in a phase. -/
inductive Permitted : CallCommand → Phase → Prop
  | admission : Permitted (.inside .admission) .waiting
  | reset : Permitted (.inside .reset) .waiting
  | func (slot : Bool) : Permitted .func (.running slot)
  | onSuccess (slot : Bool) : Permitted (.inside .onSuccess) (.settling slot)
  | onFailure (slot : Bool) : Permitted (.inside .onFailure) (.settling slot)
  | releaseSlot : Permitted (.inside .releaseSlot) (.settling true)

/-- The phase after a reply; a cancelled function without the slot has no last section. -/
@[simp]
def Phase.after : (command : CallCommand) → Phase → command.Reply Time → Phase
  | .inside .admission, _, .ok slot => .running slot
  | .func, .running true, _ => .settling true
  | .func, .running false, .returned => .settling false
  | .func, .running false, .raised => .settling false
  | _, _, _ => .ended

variable (Time) in
/-- The contract of one task, which may be a reset or not. -/
def phases (resets : Prop) : Contract (CallCommand.Reply Time) Phase where
  may command phase := Permitted command phase ∧ (command = .inside .reset → resets)
  after command phase reply next := next = phase.after command reply

omit [DecidableEq ι] in
/-- A call keeps its phases and ends in the last one. -/
theorem call_meets {resets : Prop} :
    Meets (phases Time resets) (fun _ phase => phase = .ended) .waiting
      Operation.call.run := by
  refine ⟨⟨.admission, nofun⟩, ?_⟩
  rintro (rejection | slot) _ rfl
  · rfl
  · refine ⟨⟨.func slot, nofun⟩, ?_⟩
    rintro (_ | _ | _) _ rfl
    · cases slot <;> exact ⟨⟨.onSuccess _, nofun⟩, fun _ _ moved => moved⟩
    · cases slot <;> exact ⟨⟨.onFailure _, nofun⟩, fun _ _ moved => moved⟩
    · cases slot with
      | true => exact ⟨⟨.releaseSlot, nofun⟩, fun _ _ moved => moved⟩
      | false => rfl

end Tracking

/-! ## What one command can do -/

section Commands

variable [Sub Time] [Zero Time] [LE Time] [DecidableLE Time]

/-- The effects of one command on the breaker, with the reply it gives. -/
inductive Performed (before : CircuitBreaker Time) :
    (command : CallCommand) → command.Reply Time → CircuitBreaker Time → Prop
  | rejected (rejection : CircuitOpenError Time) :
      Performed before (.inside .admission) (.error rejection) before
  | passed (closed : before.state = .closed) :
      Performed before (.inside .admission) (.ok false) before
  | recovered (opened : before.state = .opened) (vacant : before.halfOpenInProgress = false) :
      Performed before (.inside .admission) (.ok true)
        { before with state := .halfOpen, successCount := 0, halfOpenInProgress := true }
  | probed (halfOpen : before.state = .halfOpen) (vacant : before.halfOpenInProgress = false) :
      Performed before (.inside .admission) (.ok true) { before with halfOpenInProgress := true }
  | ended (how : FuncEnd) : Performed before .func how before
  | succeeded : Performed before (.inside .onSuccess) () before.onSuccess
  | failed (now : Time) : Performed before (.inside .onFailure) () (before.onFailure now)
  | released : Performed before (.inside .releaseSlot) () before.releaseSlot
  | reset : Performed before (.inside .reset) () before.reset

/-- The ways to be admitted. -/
theorem checkState_ok {before admitted : CircuitBreaker Time} {now : Time}
    (checked : before.checkState now = .ok admitted) :
    before.state = .closed ∧ admitted = before ∨
      before.state = .opened ∧ before.halfOpenInProgress = false ∧ admitted =
        { before with state := .halfOpen, successCount := 0, halfOpenInProgress := true } ∨
      before.state = .halfOpen ∧ before.halfOpenInProgress = false ∧
        admitted = { before with halfOpenInProgress := true } := by
  unfold CircuitBreaker.checkState at checked
  cases state : before.state <;> cases vacant : before.halfOpenInProgress <;>
    simp only [state, vacant] at checked <;> grind

theorem performed_admit (now : Time) (before : CircuitBreaker Time) :
    Performed before (.inside .admission) (Section.admission.perform now before).1
      (Section.admission.perform now before).2 := by
  cases checked : before.checkState now with
  | error rejection =>
      have rejected : Section.admission.perform now before = (.error rejection, before) := by
        simp [Section.perform, checked]
      rw [rejected]
      exact .rejected rejection
  | ok admitted =>
      have passes : Section.admission.perform now before =
          (.ok (admitted.state = .halfOpen), admitted) := by simp [Section.perform, checked]
      rw [passes]
      rcases checkState_ok checked with ⟨closed, rfl⟩ | ⟨opened, vacant, rfl⟩ |
        ⟨halfOpen, vacant, rfl⟩
      · simpa [closed] using Performed.passed closed
      · exact .recovered opened vacant
      · simpa [halfOpen] using Performed.probed halfOpen vacant

/-- Every command has one of these effects, and is recorded. -/
theorem performCall_performed {i : ι} {command : CallCommand} {outcome : command.Outcome Time}
    {world after : BreakerWorld ι Time} {reply : command.Reply Time}
    (performed : performCall i command outcome world = some (reply, after)) :
    Performed world.breaker command reply after.breaker ∧
      after.history = ⟨i, command, reply, world.breaker, after.breaker⟩ :: world.history := by
  cases command with
  | func =>
      cases performed
      exact ⟨.ended _, rfl⟩
  | inside part =>
      cases performed
      refine ⟨?_, rfl⟩
      cases part with
      | admission => exact performed_admit _ _
      | onSuccess => exact .succeeded
      | onFailure => exact .failed _
      | releaseSlot => exact .released
      | reset => exact .reset

end Commands

/-! ## Holders -/

section Invariant

variable [DecidableEq ι] {world after : BreakerWorld ι Time} {locals : ι → Phase} {i : ι}
  {command : CallCommand} {reply : command.Reply Time}

/-- The holders of the history are the tasks in a holding phase. -/
def Tracked (history : List (CallEvent ι Time)) (locals : ι → Phase) : Prop :=
  ∀ i, i ∈ holders history ↔ (locals i).holds

theorem Tracked.step {history : List (CallEvent ι Time)} (before after : CircuitBreaker Time)
    (reply : command.Reply Time) (tracked : Tracked history locals)
    (permitted : Permitted command (locals i)) :
    Tracked (⟨i, command, reply, before, after⟩ :: history)
      (Function.update locals i ((locals i).after command reply)) := by
  intro j
  have known := tracked j
  generalize phase : locals i = current at permitted ⊢
  by_cases same : j = i
  · subst same
    cases permitted with
    | admission =>
        rcases reply with rejection | (_ | _) <;>
          simp_all
    | func slot =>
        cases slot <;> cases reply <;>
          simp_all
    | _ => simp_all
  · rw [Function.update_of_ne same]
    cases permitted with
    | admission =>
        rcases reply with rejection | (_ | _) <;>
          simp_all
    | _ => simp_all

/-- What holds between any two commands when no straggler interferes. -/
structure OneProbe (world : BreakerWorld ι Time) (locals : ι → Phase) : Prop where
  tracked : Tracked world.history locals
  running : ∀ i ∈ probing world.history, locals i = .running true
  probes : (probing world.history).Sublist (holders world.history)
  idle : world.breaker.state ≠ .halfOpen → holders world.history = []
  vacant : world.breaker.halfOpenInProgress = false → holders world.history = []
  single : (holders world.history).length ≤ 1
  slotted : world.breaker.state = .halfOpen →
    ∀ i ∈ admittedSince world.history, (locals i).Slotted
  counted : world.breaker.state = .halfOpen →
    world.breaker.successCount = ownSuccesses world.history
  closes : ClosesOnOwnSuccesses world.history

end Invariant

section Policy

variable [DecidableEq ι] [Sub Time] [Zero Time] [LE Time] [DecidableLE Time]

/-- No call that was admitted before the last recovery succeeds in `HALF_OPEN`, nor fails in
`HALF_OPEN` while a probe holds the slot. -/
def noStragglers : Policy (breakerMachine ι Time) where
  allows i command _ world :=
    world.breaker.state = .halfOpen →
      command = .inside .onSuccess ∨
        command = .inside .onFailure ∧ world.breaker.halfOpenInProgress = true →
      i ∈ admittedSince world.history
  permits _ _ := True

instance : (noStragglers : Policy (breakerMachine ι Time)).Decides :=
  ⟨fun _ _ _ _ => inferInstanceAs (Decidable (_ → _ ∨ _ ∧ _ → _)),
    fun _ _ => inferInstanceAs (Decidable True)⟩

end Policy

section Step

variable [DecidableEq ι] {history : List (CallEvent ι Time)} {locals : ι → Phase} {i : ι}
  {before after : CircuitBreaker Time}

/-- Nobody holds the slot once its only holder has given it back. -/
theorem holders_filter_of_single (single : (holders history).length ≤ 1)
    (holds : i ∈ holders history) : (holders history).filter (· ≠ i) = [] := by
  match list : holders history, single, holds with
  | [], _, mem => cases mem
  | [holder], _, mem => simp_all
  | _ :: _ :: _, long, _ => simp at long

/-- A property of some tasks' phases after one task has moved. -/
theorem forall_update {P : Phase → Prop} {phase : Phase} {calls : List ι}
    (others : ∀ j ∈ calls, j ≠ i → P (locals j)) (own : i ∈ calls → P phase) :
    ∀ j ∈ calls, P (Function.update locals i phase j) := by
  intro j mem
  by_cases same : j = i
  · subst same
    rw [Function.update_self]
    exact own mem
  · rw [Function.update_of_ne same]
    exact others j mem same

omit [DecidableEq ι] in
@[simp]
theorem not_opened_and_halfOpen (state : CircuitState) :
    ¬ (state = .opened ∧ state = .halfOpen) := by
  rintro ⟨rfl, again⟩
  cases again

/-- A command that leaves the breaker alone closes nothing. -/
theorem closes_idle {command : CallCommand} {reply : command.Reply Time}
    (closes : ClosesOnOwnSuccesses history) :
    ClosesOnOwnSuccesses (⟨i, command, reply, before, before⟩ :: history) := by
  refine ⟨fun closing => ?_, closes⟩
  obtain ⟨halfOpen, closed⟩ := of_decide_eq_true closing
  exact absurd (halfOpen.symm.trans closed) nofun

/-- The end of the function keeps the invariant. -/
theorem OneProbe.func {reply : CallCommand.Reply Time .func}
    (kept : OneProbe ⟨before, history⟩ locals) {slot : Bool} (phase : locals i = .running slot) :
    OneProbe ⟨before, ⟨i, .func, reply, before, before⟩ :: history⟩
      (Function.update locals i (Phase.after .func (locals i) reply)) := by
  have permitted : Permitted .func (locals i) := phase ▸ .func slot
  refine ⟨kept.tracked.step _ _ _ permitted, ?_, ?_, kept.idle, kept.vacant, kept.single, ?_, ?_,
    closes_idle kept.closes⟩
  · exact forall_update (P := (· = .running true))
      (fun j mem _ => kept.running j (List.mem_filter.mp mem).1) fun mem => absurd mem (by simp)
  · exact List.filter_sublist.trans kept.probes
  · intro halfOpen
    have slotted := kept.slotted halfOpen
    refine forall_update (by simpa using fun j mem _ => slotted j mem) fun mem => ?_
    have notRunning := (slotted i (by simpa using mem)).1
    rw [phase] at notRunning ⊢
    cases slot <;> simp_all [Phase.Slotted]
  · intro halfOpen
    simpa using kept.counted halfOpen

/-- An admission keeps the invariant. -/
theorem OneProbe.admission {reply : CallCommand.Reply Time (.inside .admission)}
    (kept : OneProbe ⟨before, history⟩ locals) (phase : locals i = .waiting)
    (performed : Performed before (.inside .admission) reply after) :
    OneProbe ⟨after, ⟨i, .inside .admission, reply, before, after⟩ :: history⟩
      (Function.update locals i (Phase.after (.inside .admission) (locals i) reply)) := by
  have permitted : Permitted (.inside .admission) (locals i) := phase ▸ .admission
  have notProbing : i ∉ probing history := fun mem => by simp [kept.running i mem] at phase
  have tracked := kept.tracked.step before after reply permitted
  obtain ⟨_, running, probes, idle, vacant, single, slotted, counted, closes⟩ := kept
  dsimp only at *
  cases performed with
  | rejected rejection =>
      refine ⟨tracked, ?_, probes, idle, vacant, single, fun halfOpen => ?_, fun halfOpen => ?_,
        closes_idle closes⟩
      · exact forall_update (P := (· = .running true)) (fun j mem _ => running j mem)
          fun mem => absurd mem notProbing
      · exact forall_update (by simpa using fun j mem _ => slotted halfOpen j mem)
          fun _ => ⟨nofun, nofun⟩
      · simpa using counted halfOpen
  | passed closed =>
      refine ⟨tracked, ?_, probes, idle, vacant, single,
        fun halfOpen => absurd (closed.symm.trans halfOpen) nofun,
        fun halfOpen => absurd (closed.symm.trans halfOpen) nofun, closes_idle closes⟩
      exact forall_update (P := (· = .running true)) (fun j mem _ => running j mem)
          fun mem => absurd mem notProbing
  | recovered opened free =>
      refine ⟨tracked, ?_, probes.cons_cons i, nofun, nofun, by simp [vacant free], fun _ => ?_,
        fun _ => ?_, ?_, closes⟩
      · refine forall_update (P := (· = .running true)) (fun j mem other => running j ?_)
          fun _ => rfl
        exact (List.mem_cons.mp mem).resolve_left other
      · refine forall_update (fun j mem other => ?_) fun _ => ⟨nofun, nofun⟩
        exact absurd (by simpa [opened] using mem) other
      · simp [opened]
      · simp
  | probed halfOpen free =>
      refine ⟨tracked, ?_, probes.cons_cons i, fun idle => absurd halfOpen idle, nofun,
        by simp [vacant free], fun _ => ?_, fun _ => ?_, ?_, closes⟩
      · refine forall_update (P := (· = .running true)) (fun j mem other => running j ?_)
          fun _ => rfl
        exact (List.mem_cons.mp mem).resolve_left other
      · refine forall_update (fun j mem other => slotted halfOpen j ?_) fun _ => ⟨nofun, nofun⟩
        simpa [halfOpen, other] using mem
      · simpa [halfOpen] using counted halfOpen
      · simp [halfOpen]

/-- The last section of a call keeps the invariant if the breaker agrees that the slot is free. -/
theorem OneProbe.settle {part : Section} {reply : CallCommand.Reply Time (.inside part)}
    (kept : OneProbe ⟨before, history⟩ locals) {slot : Bool} (phase : locals i = .settling slot)
    (permitted : Permitted (.inside part) (locals i))
    (idle : after.state ≠ .halfOpen → (holders history).filter (· ≠ i) = [])
    (vacant : after.halfOpenInProgress = false → (holders history).filter (· ≠ i) = [])
    (stays : after.state = .halfOpen → before.state = .halfOpen)
    (counted : after.state = .halfOpen → after.successCount =
      ownSuccesses (⟨i, .inside part, reply, before, after⟩ :: history))
    (closes : before.state = .halfOpen → after.state = .closed → after.successCount =
      ownSuccesses (⟨i, .inside part, reply, before, after⟩ :: history)) :
    OneProbe ⟨after, ⟨i, .inside part, reply, before, after⟩ :: history⟩
      (Function.update locals i (Phase.after (.inside part) (locals i) reply)) := by
  have notProbing : i ∉ probing history := fun mem => by simp [kept.running i mem] at phase
  have tracked := kept.tracked.step before after reply permitted
  have left : (probing history).Sublist ((holders history).filter (· ≠ i)) := by
    have kept := kept.probes.filter (· ≠ i)
    have unchanged : (probing history).filter (· ≠ i) = probing history :=
      List.filter_eq_self.mpr fun j mem =>
        decide_eq_true fun same : j = i => notProbing (same ▸ mem)
    rwa [unchanged] at kept
  have fewer : ((holders history).filter (· ≠ i)).length ≤ 1 :=
    Nat.le_trans (List.length_filter_le _ _) kept.single
  have running : ∀ j ∈ probing history,
      Function.update locals i .ended j = .running true :=
    forall_update (P := (· = .running true)) (fun j mem _ => kept.running j mem)
      fun mem => absurd mem notProbing
  have slotted : after.state = .halfOpen → ∀ j ∈ admittedSince history,
      (Function.update locals i .ended j).Slotted := fun halfOpen =>
    forall_update (fun j mem _ => kept.slotted (stays halfOpen) j mem) fun _ => ⟨nofun, nofun⟩
  have unrecovered : ¬ (before.state = .opened ∧ after.state = .halfOpen) := fun recovers =>
    absurd (recovers.1.symm.trans (stays recovers.2)) nofun
  rw [phase] at permitted tracked ⊢
  cases permitted <;>
    exact ⟨tracked, running, left, idle, vacant, fewer, by simpa [unrecovered] using slotted,
      counted, fun closing => closes (of_decide_eq_true closing).1 (of_decide_eq_true closing).2,
      kept.closes⟩

/-- One command keeps the invariant, unless it is a straggler's. -/
theorem OneProbe.step {command : CallCommand} {reply : command.Reply Time}
    (kept : OneProbe ⟨before, history⟩ locals) (permitted : Permitted command (locals i))
    (fair : before.state = .halfOpen → command = .inside .onSuccess ∨
      command = .inside .onFailure ∧ before.halfOpenInProgress = true → i ∈ admittedSince history)
    (performed : Performed before command reply after) (notReset : command ≠ .inside .reset) :
    OneProbe ⟨after, ⟨i, command, reply, before, after⟩ :: history⟩
      (Function.update locals i ((locals i).after command reply)) := by
  have given := permitted
  -- In `HALF_OPEN` a call of the current recovery gives its slot back, so nobody holds it any more.
  have returned : before.state = .halfOpen → i ∈ admittedSince history →
      ∀ slot, locals i = .settling slot → (holders history).filter (· ≠ i) = [] :=
    fun halfOpen mem slot phase => by
      have slotted := (kept.slotted halfOpen i mem).2
      refine holders_filter_of_single kept.single ((kept.tracked i).mpr ?_)
      rw [phase] at slotted ⊢
      cases slot
      · exact absurd rfl slotted
      · rfl
  have unheld : holders history = [] → (holders history).filter (· ≠ i) = [] := fun none => by
    rw [none, List.filter_nil]
  obtain ⟨current, phase⟩ : ∃ current, locals i = current := ⟨_, rfl⟩
  rw [phase] at permitted
  cases permitted with
  | reset => exact absurd rfl notReset
  | func slot =>
      cases performed
      exact kept.func phase
  | admission => exact kept.admission phase performed
  | onSuccess slot =>
      cases performed
      by_cases halfOpen : before.state = .halfOpen
      · have mem := fair halfOpen (.inl rfl)
        have counted := kept.counted halfOpen
        have none := returned halfOpen mem slot phase
        refine kept.settle phase given (fun _ => none) (fun _ => none) (fun _ => halfOpen) ?_ ?_ <;>
          simp_all [CircuitBreaker.onSuccess]
      · have same : before.onSuccess.state = before.state := by
          simp [CircuitBreaker.onSuccess, halfOpen]
        have none := unheld (kept.idle halfOpen)
        refine kept.settle phase given (fun _ => none) (fun _ => none) (by simp [same]) ?_ ?_ <;>
          simp_all
  | onFailure slot =>
      cases performed with
      | failed now =>
          have neverHalf : (before.onFailure now).state ≠ .halfOpen := by
            by_cases halfOpen : before.state = .halfOpen <;>
              by_cases tripped : before.config.failureThreshold ≤ before.failureCount + 1 <;>
                simp [CircuitBreaker.onFailure, halfOpen, tripped]
          have neverCloses : before.state = .halfOpen → (before.onFailure now).state ≠ .closed := by
            intro halfOpen
            simp [CircuitBreaker.onFailure, halfOpen]
          have none : (holders history).filter (· ≠ i) = [] := by
            by_cases halfOpen : before.state = .halfOpen
            · cases taken : before.halfOpenInProgress with
              | false => exact unheld (kept.vacant taken)
              | true => exact returned halfOpen (fair halfOpen (.inr ⟨rfl, taken⟩)) slot phase
            · exact unheld (kept.idle halfOpen)
          exact kept.settle phase given (fun _ => none) (fun _ => none)
            (fun half => absurd half neverHalf) (fun half => absurd half neverHalf)
            fun halfOpen closed => absurd closed (neverCloses halfOpen)
  | releaseSlot =>
      cases performed
      have mem : i ∈ holders history := (kept.tracked i).mpr (by rw [phase]; rfl)
      have halfOpen : before.state = .halfOpen := by
        by_contra other
        exact absurd mem (by simp [show holders history = [] from kept.idle other])
      have none := holders_filter_of_single kept.single mem
      have counted := kept.counted halfOpen
      refine kept.settle phase given (fun _ => none) (fun _ => none) (fun _ => halfOpen) ?_ ?_ <;>
        simp_all [CircuitBreaker.releaseSlot]

end Step

/-! ## Runs of calls -/

section Runs

variable [DecidableEq ι] [Sub Time] [Zero Time] [LE Time] [DecidableLE Time]

/-- In `HALF_OPEN` at most one call that took the slot is running its function, and the circuit has
only closed by counting the successes of calls admitted since the last recovery. -/
def HalfOpenIsExclusive (world : BreakerWorld ι Time) : Prop :=
  (world.breaker.state = .halfOpen → (probing world.history).length ≤ 1) ∧
    ClosesOnOwnSuccesses world.history

/-- Any number of calls on a new breaker. -/
def manyCalls (config : CircuitBreakerConfig Time) :
    Config ι (CallCommand.Reply Time) (CallError Time) Unit (BreakerWorld ι Time) :=
  ⟨⟨.initial config, []⟩, fun _ => Operation.call.run⟩

/-- In every interleaving of any number of calls without a straggler, one call at a time probes and
only probes close the circuit. -/
theorem half_open_is_exclusive {config : CircuitBreakerConfig Time}
    {final : Config ι (CallCommand.Reply Time) (CallError Time) Unit (BreakerWorld ι Time)}
    (run : Reaches noStragglers (manyCalls config) final) : HalfOpenIsExclusive final.world := by
  have act : ∀ (world : BreakerWorld ι Time) (locals : ι → Phase) i command outcome reply after,
      OneProbe world locals → (phases Time False).may command (locals i) →
      noStragglers.allows i command outcome world →
      performCall i command outcome world = some (reply, after) →
      ∃ next, (phases Time False).after command (locals i) reply next ∧
        OneProbe after (Function.update locals i next) := by
    intro world locals i command outcome reply after kept permitted fair performed
    obtain ⟨effect, recorded⟩ := performCall_performed performed
    have step := kept.step permitted.1 fair effect permitted.2
    rw [← recorded] at step
    exact ⟨_, rfl, step⟩
  have start : OneProbe (manyCalls (ι := ι) config).world fun _ => .waiting :=
    ⟨by simp [Tracked, manyCalls], nofun, .slnil, fun _ => rfl, fun _ => rfl, by simp [manyCalls],
      nofun, nofun, trivial⟩
  obtain ⟨locals, kept, _⟩ := run.invariant act (fun _ _ move => nomatch move) start
    fun _ => call_meets
  exact ⟨fun _ => Nat.le_trans kept.probes.length_le kept.single, kept.closes⟩

end Runs

/-! ## A straggler -/

section Straggler

/-- Four calls on a breaker that opens at the first failure, recovers after ten seconds and closes
after two successes. -/
def fourCalls : Config (Fin 4) (CallCommand.Reply Int) (CallError Int) Unit
    (BreakerWorld (Fin 4) Int) := manyCalls ⟨1, 10, 2⟩

/-- One turn of a call at a time; its function, if it is running, ends as given. -/
def callTurn (i : Fin 4) (now : Int) (how : FuncEnd) : Turn (breakerMachine (Fin 4) Int) :=
  .run i fun
    | .inside _ => now
    | .func => how

/-- A call fails, and the two that probe afterwards close the circuit one after the other. -/
theorem half_open_is_exclusive_sequential :
    ∃ final, fourCalls.play noStragglers
        [callTurn 0 0 .raised, callTurn 0 0 .raised, callTurn 0 0 .raised,
          callTurn 1 10 .returned, callTurn 2 11 .returned, callTurn 1 12 .returned,
          callTurn 1 12 .returned, callTurn 3 13 .returned, callTurn 3 14 .returned,
          callTurn 3 14 .returned] = some final ∧
      final.world.breaker.state = .closed ∧ HalfOpenIsExclusive final.world := by
  have played : (fourCalls.play noStragglers
      [callTurn 0 0 .raised, callTurn 0 0 .raised, callTurn 0 0 .raised,
        callTurn 1 10 .returned, callTurn 2 11 .returned, callTurn 1 12 .returned,
        callTurn 1 12 .returned, callTurn 3 13 .returned, callTurn 3 14 .returned,
        callTurn 3 14 .returned]).map (·.world.breaker.state) = some .closed := by decide
  obtain ⟨final, ran, closed⟩ := Option.map_eq_some_iff.mp played
  have run : Reaches noStragglers (manyCalls ⟨1, 10, 2⟩) final := Config.play_reaches ran
  exact ⟨final, ran, closed, half_open_is_exclusive run⟩

/-- The first call is still running when the second fails and the third probes.  Its success frees
the third call's slot, and the fourth is admitted beside it. -/
theorem straggler_frees_slot :
    ∃ final, Reaches (Policy.free (breakerMachine (Fin 4) Int)) fourCalls final ∧
      ¬ HalfOpenIsExclusive final.world := by
  have played : (fourCalls.play (Policy.free (breakerMachine (Fin 4) Int))
      [callTurn 0 0 .returned, callTurn 1 0 .raised, callTurn 1 0 .raised, callTurn 1 0 .raised,
        callTurn 2 10 .returned, callTurn 0 11 .returned, callTurn 0 11 .returned,
        callTurn 3 12 .returned]).map (fun final =>
          (final.world.breaker.state, probing final.world.history)) =
      some (.halfOpen, [3, 2]) := by decide
  obtain ⟨final, ran, reached⟩ := Option.map_eq_some_iff.mp played
  refine ⟨final, Config.play_reaches ran, fun exclusive => ?_⟩
  obtain ⟨halfOpen, probes⟩ := Prod.mk.inj reached
  have few := exclusive.1 halfOpen
  rw [probes] at few
  exact absurd few (by decide)

end Straggler

end Breaker
end DataGateway
