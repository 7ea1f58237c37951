import DataGateway.Coroutine.Contract
import Mathlib.Logic.Relation

/-!
# Interleaved coroutines over a shared world

A machine performs one command at a time for one of its tasks; between two commands the environment
may disturb the world.  Any family of tasks, indexed by an arbitrary type, interleaves at command
granularity.  A policy restricts the steps of a run by a condition on the state before each step.

The invariant rule reduces a property of every interleaving to one obligation for each command: the
tasks keep a contract, and a command the contract permits preserves the invariant.
-/

/-- A shared world on which the commands of many tasks are performed atomically. -/
structure Machine (ι : Type) {Cmd : Type} (Reply : Cmd → Type) (σ : Type) where
  /-- Choices left open when a command is performed. -/
  Outcome : Cmd → Type
  /-- Perform one command of one task; `none` when the choice is not possible here. -/
  perform : ι → (command : Cmd) → Outcome command → σ → Option (Reply command × σ)
  /-- Moves of the environment. -/
  Disturbance : Type
  /-- The effect of an environment move. -/
  disturb : Disturbance → σ → σ

namespace Machine

variable {ι Cmd σ ε α γ : Type} {Reply : Cmd → Type} (M : Machine ι Reply σ)

/-- A condition on every step of a run, read in the state before the step. -/
structure Policy where
  /-- The task may perform the command with this choice here. -/
  allows : ι → (command : Cmd) → M.Outcome command → σ → Prop
  /-- The environment may make this move here. -/
  permits : M.Disturbance → σ → Prop

/-- The policy that excludes nothing. -/
def Policy.free : Policy M := ⟨fun _ _ _ _ => True, fun _ _ => True⟩

/-- The world together with what is left of every task. -/
structure Config (ι : Type) {Cmd : Type} (Reply : Cmd → Type) (ε α σ : Type) where
  /-- The shared world. -/
  world : σ
  /-- The remaining computation of each task. -/
  tasks : ι → Coroutine Reply ε α

variable [DecidableEq ι] {M} {P : Policy M}

/-- One command of one task, or one environment move. -/
inductive Step (P : Policy M) : Config ι Reply ε α σ → Config ι Reply ε α σ → Prop
  /-- A suspended task performs its command and resumes on the reply. -/
  | act {world after tasks i command resume outcome reply}
      (suspended : tasks i = .suspend command resume)
      (performed : M.perform i command outcome world = some (reply, after))
      (allowed : P.allows i command outcome world) :
      Step P ⟨world, tasks⟩ ⟨after, Function.update tasks i (resume reply)⟩
  /-- The environment moves. -/
  | calm {world tasks move} (permitted : P.permits move world) :
      Step P ⟨world, tasks⟩ ⟨M.disturb move world, tasks⟩

/-- Configurations related by a run of any length. -/
def Reaches (P : Policy M) : Config ι Reply ε α σ → Config ι Reply ε α σ → Prop :=
  Relation.ReflTransGen (Step P)

/-- An invariant that every permitted command preserves holds along every interleaving, and what is
left of each task still keeps the contract. -/
theorem Reaches.invariant {K : ι → Contract Reply γ} {Inv : σ → (ι → γ) → Prop}
    {post : ι → Except ε α → γ → Prop} {initial final : Config ι Reply ε α σ}
    {locals : ι → γ} (act : ∀ world locals i command outcome reply after, Inv world locals →
      (K i).may command (locals i) → P.allows i command outcome world →
      M.perform i command outcome world = some (reply, after) →
      ∃ next, (K i).after command (locals i) reply next ∧ Inv after (Function.update locals i next))
    (calm : ∀ world locals move, Inv world locals → P.permits move world →
      Inv (M.disturb move world) locals)
    (start : Inv initial.world locals)
    (meets : ∀ i, Coroutine.Meets (K i) (post i) (locals i) (initial.tasks i))
    (reach : Reaches P initial final) :
    ∃ locals, Inv final.world locals ∧
      ∀ i, Coroutine.Meets (K i) (post i) (locals i) (final.tasks i) := by
  induction reach with
  | refl => exact ⟨locals, start, meets⟩
  | tail _ step ih =>
      obtain ⟨locals, holds, kept⟩ := ih
      cases step with
      | @act world after tasks i command resume outcome reply suspended performed allowed =>
          have task := kept i
          simp only [suspended] at task
          obtain ⟨permitted, resumes⟩ := task
          obtain ⟨next, moved, still⟩ :=
            act world locals i command outcome reply after holds permitted allowed performed
          refine ⟨Function.update locals i next, still, fun j => ?_⟩
          by_cases same : j = i
          · subst same
            simpa using resumes reply next moved
          · simpa [Function.update_of_ne same] using kept j
      | @calm world tasks move permitted =>
          exact ⟨locals, calm world locals move holds permitted, kept⟩

/-- The rule for properties of the world alone: it is enough that every command the tasks can issue
preserves the invariant. -/
theorem Reaches.world {allowed : Cmd → Prop} {Inv : σ → Prop}
    {initial final : Config ι Reply ε α σ}
    (act : ∀ world i command outcome reply after, Inv world → allowed command →
      P.allows i command outcome world → M.perform i command outcome world = some (reply, after) →
      Inv after)
    (calm : ∀ world move, Inv world → P.permits move world → Inv (M.disturb move world))
    (start : Inv initial.world) (uses : ∀ i, (initial.tasks i).Uses allowed)
    (reach : Reaches P initial final) : Inv final.world := by
  let K : ι → Contract Reply Unit :=
    fun _ => ⟨fun command _ => allowed command, fun _ _ _ _ => True⟩
  let Kept : σ → (ι → Unit) → Prop := fun world _ => Inv world
  have keeps : ∀ world locals i command outcome reply after, Kept world locals →
      (K i).may command (locals i) → P.allows i command outcome world →
      M.perform i command outcome world = some (reply, after) →
      ∃ next, (K i).after command (locals i) reply next ∧
        Kept after (Function.update locals i next) :=
    fun world _ i command outcome reply after holds permitted allowed performed =>
      ⟨(), trivial, act world i command outcome reply after holds permitted allowed performed⟩
  have meets : ∀ i, Coroutine.Meets (K i) (fun _ _ => True) () (initial.tasks i) := fun i =>
    (uses i).meets_inv (Q := fun _ => True) trivial fun _ _ permitted _ =>
      ⟨permitted, fun _ _ _ => trivial⟩
  obtain ⟨_, holds, _⟩ := reach.invariant keeps
    (fun world _ move holds permitted => calm world move holds permitted) start meets
  exact holds

/-- The rule for one task among any others: a relation between the world and its local state that
its own commands carry along, and that no other task breaks. -/
theorem Reaches.task {K : Contract Reply γ} {R : σ → γ → Prop} {i : ι}
    {post : Except ε α → γ → Prop}
    {initial final : Config ι Reply ε α σ} {local_ : γ} (reach : Reaches P initial final)
    (own : ∀ world state command outcome reply after, R world state → K.may command state →
      P.allows i command outcome world → M.perform i command outcome world = some (reply, after) →
      ∃ next, K.after command state reply next ∧ R after next)
    (others : ∀ j world state command outcome reply after, j ≠ i → R world state →
      P.allows j command outcome world → M.perform j command outcome world = some (reply, after) →
      R after state)
    (calm : ∀ world state move, R world state → P.permits move world →
      R (M.disturb move world) state)
    (start : R initial.world local_) (meets : Coroutine.Meets K post local_ (initial.tasks i)) :
    ∃ state, R final.world state ∧ Coroutine.Meets K post state (final.tasks i) := by
  induction reach with
  | refl => exact ⟨local_, start, meets⟩
  | tail _ step ih =>
      obtain ⟨state, related, kept⟩ := ih
      cases step with
      | @act world after tasks j command resume outcome reply suspended performed allowed =>
          by_cases here : j = i
          · subst here
            simp only [suspended] at kept
            obtain ⟨next, moved, still⟩ :=
              own world state command outcome reply after related kept.1 allowed performed
            exact ⟨next, still, by simpa using kept.2 reply next moved⟩
          · exact ⟨state, others j world state command outcome reply after here related allowed
              performed, by simpa [Function.update_of_ne (Ne.symm here)] using kept⟩
      | @calm world tasks move permitted =>
          exact ⟨state, calm world state move related permitted, kept⟩

/-- A part of the world that only the commands of one task change is what its program makes of it,
and what the commands it promises preserve holds. -/
theorem Reaches.tracked {next : γ → (command : Cmd) → Reply command → γ} {terms : Terms Reply γ}
    {view : σ → γ} {A : σ → Prop} {initial final : Config ι Reply ε α σ} {i : ι}
    {post : Except ε α → γ → Prop} (reach : Reaches P initial final)
    (own : ∀ command outcome reply world after, P.allows i command outcome world →
      M.perform i command outcome world = some (reply, after) →
      view after = next (view world) command reply ∧ terms.rely command (view world) reply)
    (others : ∀ j command outcome reply world after, j ≠ i →
      M.perform j command outcome world = some (reply, after) → view after = view world)
    (disturbed : ∀ move world, P.permits move world → view (M.disturb move world) = view world)
    (keeps : ∀ j command outcome reply world after, A world →
      (j = i → terms.guarantee command (view world)) →
      M.perform j command outcome world = some (reply, after) → A after)
    (calm : ∀ move world, A world → A (M.disturb move world)) (start : A initial.world)
    (meets : Coroutine.Meets (.tracking next terms) post (view initial.world) (initial.tasks i)) :
    A final.world ∧
      Coroutine.Meets (.tracking next terms) post (view final.world) (final.tasks i) := by
  let Tracked : σ → γ → Prop := fun world state => state = view world ∧ A world
  have act : ∀ world state command outcome reply after, Tracked world state →
      (Contract.tracking next terms).may command state → P.allows i command outcome world →
      M.perform i command outcome world = some (reply, after) →
      ∃ state', (Contract.tracking next terms).after command state reply state' ∧
        Tracked after state' := by
    rintro world _ command outcome reply after ⟨rfl, holds⟩ promised allowed performed
    exact ⟨view after, own command outcome reply world after allowed performed, rfl,
      keeps i command outcome reply world after holds (fun _ => promised) performed⟩
  have apart : ∀ j world state command outcome reply after, j ≠ i → Tracked world state →
      P.allows j command outcome world → M.perform j command outcome world = some (reply, after) →
      Tracked after state := by
    rintro j world _ command outcome reply after other ⟨rfl, holds⟩ _ performed
    exact ⟨(others j command outcome reply world after other performed).symm,
      keeps j command outcome reply world after holds (fun same => absurd same other) performed⟩
  have still : ∀ world state move, Tracked world state → P.permits move world →
      Tracked (M.disturb move world) state := by
    rintro world _ move ⟨rfl, holds⟩ permitted
    exact ⟨(disturbed move world permitted).symm, calm move world holds⟩
  have tracked : Tracked initial.world (view initial.world) := ⟨rfl, start⟩
  obtain ⟨_, ⟨rfl, holds⟩, kept⟩ := reach.task act apart still tracked meets
  exact ⟨holds, kept⟩

/-! ## One task alone -/

/-- Worlds the environment can make of a world without any task moving. -/
def Drifts (P : Policy M) : σ → σ → Prop :=
  Relation.ReflTransGen fun before after => ∃ move, P.permits move before ∧
    after = M.disturb move before

/-- The machine itself as a contract: every reply it can give, after any environment moves. -/
def solo (P : Policy M) (i : ι) : Contract Reply σ where
  may _ _ := True
  after command world reply after :=
    ∃ drifted outcome, Drifts P world drifted ∧ P.allows i command outcome drifted ∧
      M.perform i command outcome drifted = some (reply, after)

/-- A task whose commands can all be performed, as its contract has it, can be run to its end. -/
theorem Reaches.exists_finish {K : Contract Reply γ} {R : σ → γ → Prop} {i : ι}
    {post : Except ε α → γ → Prop}
    (acts : ∀ world state command, R world state → K.may command state →
      ∃ outcome reply after next, P.allows i command outcome world ∧
        M.perform i command outcome world = some (reply, after) ∧
        K.after command state reply next ∧ R after next)
    {initial : Config ι Reply ε α σ} {state : γ} (start : R initial.world state)
    (meets : Coroutine.Meets K post state (initial.tasks i)) :
    ∃ final outcome, Reaches P initial final ∧ final.tasks i = .finish outcome := by
  obtain ⟨world, tasks⟩ := initial
  change Coroutine.Meets K post state (tasks i) at meets
  generalize rest : tasks i = body at meets
  induction body generalizing world tasks state with
  | finish outcome => exact ⟨⟨world, tasks⟩, outcome, .refl, rest⟩
  | suspend command resume ih =>
      obtain ⟨outcome, reply, after, next, allowed, performed, moved, related⟩ :=
        acts world state command start meets.1
      obtain ⟨final, ended, reach, finished⟩ := ih reply after
        (Function.update tasks i (resume reply)) related (Function.update_self ..)
        (meets.2 reply next moved)
      exact ⟨final, ended, reach.head (.act rest performed allowed), finished⟩

/-! ## Executable schedules -/

/-- A policy whose conditions can be evaluated. -/
class Policy.Decides (P : Policy M) where
  /-- The condition on a task. -/
  act : ∀ i command outcome world, Decidable (P.allows i command outcome world)
  /-- The condition on the environment. -/
  calm : ∀ move world, Decidable (P.permits move world)

instance [P.Decides] (i : ι) (command : Cmd) (outcome : M.Outcome command) (world : σ) :
    Decidable (P.allows i command outcome world) := Policy.Decides.act i command outcome world

instance [P.Decides] (move : M.Disturbance) (world : σ) : Decidable (P.permits move world) :=
  Policy.Decides.calm move world

instance : (Policy.free M).Decides :=
  ⟨fun _ _ _ _ => inferInstanceAs (Decidable True), fun _ _ => inferInstanceAs (Decidable True)⟩

/-- One entry of a schedule: a task with an answer for whichever command it is at, or a move. -/
inductive Turn (M : Machine ι Reply σ)
  /-- Let one task perform its command. -/
  | run (i : ι) (choose : (command : Cmd) → M.Outcome command)
  /-- Let the environment move. -/
  | disturb (move : M.Disturbance)

section Schedules

variable (P) [P.Decides]

/-- Perform one entry of a schedule, if the policy allows it. -/
def Config.turn (config : Config ι Reply ε α σ) : Turn M → Option (Config ι Reply ε α σ)
  | .run i choose =>
      match config.tasks i with
      | .finish _ => none
      | .suspend command resume =>
          if P.allows i command (choose command) config.world then
            (M.perform i command (choose command) config.world).map fun (reply, after) =>
              ⟨after, Function.update config.tasks i (resume reply)⟩
          else none
  | .disturb move =>
      if P.permits move config.world then some ⟨M.disturb move config.world, config.tasks⟩ else none

/-- Perform a schedule from left to right. -/
def Config.play : List (Turn M) → Config ι Reply ε α σ → Option (Config ι Reply ε α σ)
  | [], config => some config
  | entry :: rest, config => (config.turn P entry).bind (Config.play rest)

variable {P}

theorem Config.turn_step {entry : Turn M} {config next : Config ι Reply ε α σ}
    (turned : config.turn P entry = some next) : Step P config next := by
  obtain ⟨world, tasks⟩ := config
  cases entry with
  | disturb move =>
      obtain ⟨permitted, eq⟩ := Option.ite_none_right_eq_some.mp turned
      obtain rfl := Option.some.inj eq
      exact .calm permitted
  | run i choose =>
      simp only [Config.turn] at turned
      split at turned
      · simp at turned
      · rename_i command resume suspended
        obtain ⟨allowed, mapped⟩ := Option.ite_none_right_eq_some.mp turned
        obtain ⟨⟨reply, after⟩, performed, rfl⟩ := Option.map_eq_some_iff.mp mapped
        exact .act suspended performed allowed

/-- A schedule that plays to its end is a run of the machine under the policy. -/
theorem Config.play_reaches {schedule : List (Turn M)} {initial final : Config ι Reply ε α σ}
    (played : initial.play P schedule = some final) : Reaches P initial final := by
  induction schedule generalizing initial with
  | nil =>
      obtain rfl := Option.some.inj played
      exact .refl
  | cons entry rest ih =>
      obtain ⟨next, turned, remaining⟩ := Option.bind_eq_some_iff.mp played
      exact .head (Config.turn_step turned) (ih remaining)

/-- Run one task alone on a list of choices, without any environment move. -/
def playAlone (P : Policy M) [P.Decides] (i : ι) : List ((command : Cmd) → M.Outcome command) →
    Coroutine Reply ε α → σ → Option (Except ε α × σ)
  | _, .finish outcome, world => some (outcome, world)
  | [], .suspend _ _, _ => none
  | choose :: rest, .suspend command resume, world =>
      if P.allows i command (choose command) world then
        (M.perform i command (choose command) world).bind fun (reply, after) =>
          playAlone P i rest (resume reply) after
      else none

omit [DecidableEq ι] in
/-- A task that is played to its end has run alone. -/
theorem playAlone_ends {i : ι} {choices : List ((command : Cmd) → M.Outcome command)}
    {body : Coroutine Reply ε α} {world last : σ} {outcome : Except ε α}
    (played : playAlone P i choices body world = some (outcome, last)) :
    Coroutine.Ends (solo P i) world body outcome last := by
  induction choices generalizing body world with
  | nil =>
      cases body with
      | finish ended =>
          obtain ⟨rfl, rfl⟩ := Prod.mk.inj (Option.some.inj played)
          exact .finish
      | suspend command resume => cases played
  | cons choose rest ih =>
      cases body with
      | finish ended =>
          obtain ⟨rfl, rfl⟩ := Prod.mk.inj (Option.some.inj played)
          exact .finish
      | suspend command resume =>
          obtain ⟨allowed, performed⟩ := Option.ite_none_right_eq_some.mp played
          obtain ⟨⟨reply, after⟩, performed, remaining⟩ := Option.bind_eq_some_iff.mp performed
          exact .suspend reply after ⟨world, choose command, .refl, allowed, performed⟩
            (ih remaining)

end Schedules

end Machine
