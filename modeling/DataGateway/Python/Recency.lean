import Mathlib.Data.Finset.Card

/-!
# Keys by their last use

A history is the list of the keys that were used, the latest use first.  A store that makes room at
the least recently used end holds a front part of the keys by their last use.
-/

namespace DataGateway
namespace Recency

variable {κ : Type} [DecidableEq κ]

/-- The keys of a history by their last use, the latest first. -/
def lastUses : List κ → List κ
  | [] => []
  | key :: history => key :: (lastUses history).filter (· ≠ key)

/-- The so many most recently used keys. -/
def recent (cap : Nat) (history : List κ) : List κ := (lastUses history).take cap

@[simp]
theorem mem_lastUses {key : κ} {history : List κ} : key ∈ lastUses history ↔ key ∈ history := by
  induction history with
  | nil => simp [lastUses]
  | cons used history ih =>
      by_cases same : key = used
      · simp [lastUses, same]
      · simp [lastUses, same, ih]

theorem nodup_lastUses (history : List κ) : (lastUses history).Nodup := by
  induction history with
  | nil => exact List.nodup_nil
  | cons used history ih =>
      rw [lastUses, List.nodup_cons]
      constructor
      · simp
      · exact ih.filter _

/-- There are as many of them as distinct keys. -/
theorem length_lastUses (history : List κ) :
    (lastUses history).length = history.toFinset.card := by
  have same : (lastUses history).toFinset = history.toFinset := by
    ext key
    simp
  rw [← same, List.toFinset_card_of_nodup (nodup_lastUses history)]

/-- Of an older part only the keys without a later use are left, behind the later ones. -/
theorem lastUses_append (later earlier : List κ) :
    lastUses (later ++ earlier) =
      lastUses later ++ (lastUses earlier).filter (· ∉ later) := by
  induction later with
  | nil => simp [lastUses]
  | cons used later ih =>
      rw [List.cons_append, lastUses, ih, List.filter_append, List.filter_filter, lastUses,
        List.cons_append]
      congr 2
      apply List.filter_congr
      intro key _
      simp

theorem length_recent_le (cap : Nat) (history : List κ) : (recent cap history).length ≤ cap :=
  List.length_take_le _ _

/-- Leaving out one key of distinct ones moves the others up by one place at most. -/
theorem take_filter_ne {keys : List κ} (nodup : keys.Nodup) (key : κ) (n : Nat) :
    ((keys.take (n + 1)).filter (· ≠ key)).take n = (keys.filter (· ≠ key)).take n := by
  induction keys generalizing n with
  | nil => simp
  | cons first rest ih =>
      obtain ⟨absent, others⟩ := List.nodup_cons.mp nodup
      by_cases same : first = key
      · subst same
        have kept : ∀ part : List κ, part ⊆ rest → part.filter (· ≠ first) = part := by
          intro part inside
          apply List.filter_eq_self.mpr
          intro other mem
          have apart : other ≠ first := fun same => absent (same ▸ inside mem)
          simpa using apart
        have dropped : ∀ part : List κ, (first :: part).filter (· ≠ first) =
            part.filter (· ≠ first) :=
          fun part => List.filter_cons_of_neg (by simp)
        rw [List.take_succ_cons, dropped, dropped, kept _ (List.take_subset n rest),
          kept rest (List.Subset.refl rest), List.take_take, Nat.min_self]
      · cases n with
        | zero => simp
        | succ n =>
            simp only [List.take_succ_cons, List.filter_cons, same, ne_eq, not_false_eq_true,
              decide_true, if_true]
            simpa using ih others n

/-- One more use. -/
theorem recent_cons (cap : Nat) (key : κ) (history : List κ) :
    recent cap (key :: history) = (key :: (recent cap history).filter (· ≠ key)).take cap := by
  cases cap with
  | zero => simp [recent]
  | succ n =>
      rw [recent, recent, lastUses, List.take_succ_cons, List.take_succ_cons,
        take_filter_ne (nodup_lastUses history)]

/-- A key is among the most recently used ones when there are not too many other keys since its last
use. -/
theorem mem_recent_iff {cap : Nat} {key : κ} {later earlier : List κ} (last : key ∉ later) :
    key ∈ recent cap (later ++ key :: earlier) ↔ later.toFinset.card < cap := by
  have parts : lastUses (later ++ key :: earlier) = lastUses later ++
      key :: ((lastUses earlier).filter (· ≠ key)).filter (· ∉ later) := by
    rw [lastUses_append, lastUses, List.filter_cons_of_pos (by simpa using last)]
  have front : key ∉ lastUses later := by simpa using last
  rw [recent, parts, ← length_lastUses]
  constructor
  · intro mem
    by_contra! full
    rw [List.take_append_of_le_length full] at mem
    exact front (List.mem_of_mem_take mem)
  · intro room
    obtain ⟨n, rfl⟩ : ∃ n, cap = (lastUses later).length + (n + 1) :=
      ⟨cap - (lastUses later).length - 1, by omega⟩
    rw [List.take_length_add_append, List.take_succ_cons]
    simp

/-- A key that was used is used last in one place of the history. -/
theorem exists_last_use {key : κ} {history : List κ} (used : key ∈ history) :
    ∃ later earlier, history = later ++ key :: earlier ∧ key ∉ later := by
  induction history with
  | nil => simp at used
  | cons first history ih =>
      by_cases same : first = key
      · subst same
        exact ⟨[], history, rfl, by simp⟩
      · have behind : key ∈ history := by
          rcases List.mem_cons.mp used with here | behind
          · exact absurd here.symm same
          · exact behind
        obtain ⟨later, earlier, split, last⟩ := ih behind
        refine ⟨first :: later, earlier, by rw [split, List.cons_append], ?_⟩
        simp [last, Ne.symm same]

end Recency
end DataGateway
