import DataGateway.Coroutine.Interleaving

/-!
# Fair executions

An unending execution of a machine is fair when a task whose command can be performed from some
moment on does perform it.  Which choices count is left open: a choice of the environment, such as
the end of an outside request or a cancellation, is not owed to a task.
-/

namespace Machine

variable {ι Cmd σ ε α : Type} {Reply : Cmd → Type} {M : Machine ι Reply σ} [DecidableEq ι]

section

variable (P : Policy M)

/-- The task performs its command here. -/
def Acts (i : ι) (config later : Config ι Reply ε α σ) : Prop :=
  ∃ command resume outcome reply, config.tasks i = .suspend command resume ∧
    M.perform i command outcome config.world = some (reply, later.world) ∧
    P.allows i command outcome config.world ∧
    later.tasks = Function.update config.tasks i (resume reply)

omit [DecidableEq ι] in
/-- The task can perform its command with a choice that is owed to it. -/
def Ready (owed : (command : Cmd) → M.Outcome command → Prop) (config : Config ι Reply ε α σ)
    (i : ι) : Prop :=
  ∃ command resume outcome reply after, config.tasks i = .suspend command resume ∧
    owed command outcome ∧ P.allows i command outcome config.world ∧
    M.perform i command outcome config.world = some (reply, after)

/-- An unending execution, which may rest, in which no task is ready for ever without acting. -/
structure FairRun (owed : (command : Cmd) → M.Outcome command → Prop)
    (initial : Config ι Reply ε α σ) where
  config : Nat → Config ι Reply ε α σ
  start : config 0 = initial
  next : ∀ n, config (n + 1) = config n ∨ Step P (config n) (config (n + 1))
  fair : ∀ i n, (∀ m, n ≤ m → Ready P owed (config m) i) →
    ∃ m, n ≤ m ∧ Acts P i (config m) (config (m + 1))

end

variable {P : Policy M} {owed : (command : Cmd) → M.Outcome command → Prop}
variable {initial : Config ι Reply ε α σ}

/-- A task that does not act is where it was. -/
theorem Step.kept {i : ι} {config later : Config ι Reply ε α σ} (step : Step P config later)
    (rests : ¬Acts P i config later) : later.tasks i = config.tasks i := by
  cases step with
  | @act world after tasks j command resume outcome reply suspended performed allowed =>
      have apart : i ≠ j := by
        rintro rfl
        exact rests ⟨command, resume, outcome, reply, suspended, performed, allowed, rfl⟩
      exact Function.update_of_ne apart _ _
  | calm permitted => rfl

namespace FairRun

variable (run : FairRun P owed initial)

/-- A later configuration is reached from an earlier one. -/
theorem reaches_between {n m : Nat} (later : n ≤ m) : Reaches P (run.config n) (run.config m) := by
  induction later with
  | refl => exact .refl
  | @step m later ih =>
      rcases run.next m with rests | step
      · rwa [rests]
      · exact ih.tail step

/-- Every configuration is reached. -/
theorem reaches (n : Nat) : Reaches P initial (run.config n) := by
  have reached := run.reaches_between n.zero_le
  rwa [run.start] at reached

/-- A task that is ready until it acts does act. -/
theorem acts {i : ι} {n : Nat} (ready : ∀ m, n ≤ m →
      (run.config m).tasks i = (run.config n).tasks i → Ready P owed (run.config m) i) :
    ∃ m, n ≤ m ∧ (run.config m).tasks i = (run.config n).tasks i ∧
      Acts P i (run.config m) (run.config (m + 1)) := by
  by_contra never
  have waits (m : Nat) (later : n ≤ m) : (run.config m).tasks i = (run.config n).tasks i := by
    induction later with
    | refl => rfl
    | @step m later ih =>
        rcases run.next m with rests | step
        · rwa [rests]
        · exact (step.kept fun acts => never ⟨m, later, ih, acts⟩).trans ih
  obtain ⟨m, later, acts⟩ := run.fair i n fun m later => ready m later (waits m later)
  exact never ⟨m, later, waits m later, acts⟩

/-- An execution whose tasks have all ended may rest there. -/
def ended (last : ∀ i, ∃ outcome, initial.tasks i = .finish outcome) : FairRun P owed initial where
  config _ := initial
  start := rfl
  next _ := .inl rfl
  fair i n ready := by
    obtain ⟨_, _, _, _, _, suspended, -⟩ := ready n (Nat.le_refl n)
    obtain ⟨_, finished⟩ := last i
    rw [finished] at suspended
    cases suspended

/-- One more step before an execution. -/
def cons {middle : Config ι Reply ε α σ} (step : Step P initial middle)
    (rest : FairRun P owed middle) : FairRun P owed initial where
  config n := n.casesOn initial rest.config
  start := rfl
  next n := by
    cases n with
    | zero =>
        refine .inr ?_
        change Step P initial (rest.config 0)
        rwa [rest.start]
    | succ n => exact rest.next n
  fair i n ready := by
    obtain ⟨m, later, acts⟩ := rest.fair i n fun m later => ready (m + 1) (by omega)
    exact ⟨m + 1, by omega, acts⟩

/-- A run to a state where all tasks have ended is part of a fair execution. -/
theorem exists_of_reaches {final : Config ι Reply ε α σ} (reach : Reaches P initial final)
    (last : ∀ i, ∃ outcome, final.tasks i = .finish outcome) :
    ∃ (run : FairRun P owed initial) (n : Nat), run.config n = final := by
  induction reach using Relation.ReflTransGen.head_induction_on with
  | refl => exact ⟨ended last, 0, rfl⟩
  | head step _ ih =>
      obtain ⟨run, n, reached⟩ := ih
      exact ⟨run.cons step, n + 1, reached⟩

end FairRun

end Machine
