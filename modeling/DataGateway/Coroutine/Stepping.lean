import Mathlib.Logic.Relation

/-!
# Runs of a step function

A system whose steps are named by actions and that may refuse an action.  Some runs are restricted
by a condition on each action and the state in which it is taken.
-/

namespace Stepping

variable {σ α : Type} {step : σ → α → Option σ} {allowed : σ → α → Prop} {first last : σ}

/-- States that are related by a run whose actions are allowed where they are taken. -/
def Runs (step : σ → α → Option σ) (allowed : σ → α → Prop) : σ → σ → Prop :=
  Relation.ReflTransGen fun before after =>
    ∃ action, allowed before action ∧ step before action = some after

/-- Every run. -/
abbrev Free (step : σ → α → Option σ) : σ → σ → Prop := Runs step fun _ _ => True

/-- What every step keeps holds at the end of a run. -/
theorem Runs.keeps {P : σ → Prop} (run : Runs step allowed first last)
    (keep : ∀ state action after, allowed state action →
      step state action = some after → P state → P after) (start : P first) : P last := by
  induction run with
  | refl => exact start
  | tail _ stepped ih =>
      obtain ⟨action, permitted, stepped⟩ := stepped
      exact keep _ action _ permitted stepped ih

/-- Take actions one after the other. -/
def play (step : σ → α → Option σ) : σ → List α → Option σ
  | state, [] => some state
  | state, action :: rest => (step state action).bind fun after => play step after rest

/-- Actions that are all allowed, whatever the state, make a run. -/
theorem play_runs {actions : List α} (played : play step first actions = some last)
    (permitted : ∀ action ∈ actions, ∀ state, allowed state action) :
    Runs step allowed first last := by
  induction actions generalizing first with
  | nil =>
      obtain rfl := Option.some.inj played
      exact .refl
  | cons action rest ih =>
      obtain ⟨after, stepped, remaining⟩ := Option.bind_eq_some_iff.mp played
      exact .head ⟨action, permitted action (.head _) first, stepped⟩
        (ih remaining fun other mem => permitted other (.tail _ mem))

end Stepping
