import Mathlib.Data.List.Sort

/-!
# Sorting by a key

`sorted(items, key=...)` and its form with `reverse=True`.  Both are stable: items with equal
keys keep their order.
-/

namespace DataGateway

variable {α κ : Type} [LinearOrder κ]

/-- `sorted(items, key=key)`. -/
def sortedBy (key : α → κ) (items : List α) : List α :=
  items.insertionSort fun a b => key a ≤ key b

/-- `sorted(items, key=key, reverse=True)`. -/
def sortedByDescending (key : α → κ) (items : List α) : List α :=
  items.insertionSort fun a b => key b ≤ key a

theorem sortedBy_perm (key : α → κ) (items : List α) : (sortedBy key items).Perm items :=
  List.perm_insertionSort _ items

theorem pairwise_sortedBy (key : α → κ) (items : List α) :
    (sortedBy key items).Pairwise fun a b => key a ≤ key b :=
  haveI : Std.Total fun a b : α => key a ≤ key b := ⟨fun a b => le_total (key a) (key b)⟩
  haveI : IsTrans α fun a b => key a ≤ key b := ⟨fun _ _ _ => le_trans⟩
  List.pairwise_insertionSort _ items

theorem sortedByDescending_perm (key : α → κ) (items : List α) :
    (sortedByDescending key items).Perm items :=
  List.perm_insertionSort _ items

theorem pairwise_sortedByDescending (key : α → κ) (items : List α) :
    (sortedByDescending key items).Pairwise fun a b => key b ≤ key a :=
  haveI : Std.Total fun a b : α => key b ≤ key a := ⟨fun a b => le_total (key b) (key a)⟩
  haveI : IsTrans α fun a b => key b ≤ key a := ⟨fun _ _ _ first second => le_trans second first⟩
  List.pairwise_insertionSort _ items

/-- A sort keeps the order of items that it may leave in either order. -/
theorem filter_insertionSort (r : α → α → Prop) [DecidableRel r]
    (p : α → Bool) (tied : ∀ a b, p a → p b → r a b) (items : List α) :
    (items.insertionSort r).filter p = items.filter p := by
  have pairwise : (items.filter p).Pairwise r := by
    refine List.pairwise_of_forall_mem_list fun a left b right => ?_
    exact tied a b (List.mem_filter.mp left).2 (List.mem_filter.mp right).2
  have kept : (items.filter p).Sublist (items.insertionSort r) :=
    List.sublist_insertionSort pairwise List.filter_sublist
  have sub : (items.filter p).Sublist ((items.insertionSort r).filter p) := by
    simpa using kept.filter p
  have length := ((List.perm_insertionSort r items).filter p).length_eq
  exact (sub.eq_of_length length.symm).symm

/-- Items with one key keep their order. -/
theorem filter_sortedBy (key : α → κ) (value : κ) (items : List α) :
    (sortedBy key items).filter (key · = value) = items.filter (key · = value) :=
  filter_insertionSort _ _ (by simp +contextual) items

theorem filter_sortedByDescending (key : α → κ) (value : κ) (items : List α) :
    (sortedByDescending key items).filter (key · = value) = items.filter (key · = value) :=
  filter_insertionSort _ _ (by simp +contextual) items

/-- In a list with descending keys the first item up to a bound is the first one with
the greatest such key. -/
theorem find?_descending (key : α → κ) {bound last : κ} (le : last ≤ bound) :
    ∀ {items : List α}, items.Pairwise (fun a b => key b ≤ key a) →
      (∀ item ∈ items, key item ≤ bound → key item ≤ last) →
        (∃ item ∈ items, key item = last) → items.find? (key · ≤ bound) = items.find? (key · = last)
  | [], _, _, ⟨_, mem, _⟩ => absurd mem List.not_mem_nil
  | head :: rest, sorted_, most, ⟨item, mem, eq⟩ => by
      obtain ⟨above, sorted_⟩ := List.pairwise_cons.mp sorted_
      by_cases hit : key head ≤ bound
      · have reached : key head = last := by
          refine le_antisymm (most head (.head _) hit) ?_
          rcases List.mem_cons.mp mem with rfl | mem
          · exact eq.ge
          · exact eq ▸ above item mem
        simp [reached, le]
      · have later : item ∈ rest := by
          rcases List.mem_cons.mp mem with rfl | mem
          · exact absurd (eq ▸ le) hit
          · exact mem
        have other : key head ≠ last := fun same => hit (same ▸ le)
        simp only [List.find?_cons, hit, other, decide_false]
        exact find?_descending key le sorted_ (fun item mem => most item (.tail _ mem))
          ⟨item, later, eq⟩

/-- The first item up to a bound, from the greatest key down: the first one of the list with
the greatest such key. -/
theorem find?_sortedByDescending (key : α → κ) {bound last : κ} {items : List α}
    (le : last ≤ bound) (most : ∀ item ∈ items, key item ≤ bound → key item ≤ last)
    (reached : ∃ item ∈ items, key item = last) :
    (sortedByDescending key items).find? (key · ≤ bound) = items.find? (key · = last) := by
  have perm := sortedByDescending_perm key items
  obtain ⟨item, mem, eq⟩ := reached
  rw [find?_descending key le (pairwise_sortedByDescending key items)
    (fun item mem => most item (perm.mem_iff.mp mem)) ⟨item, perm.mem_iff.mpr mem, eq⟩,
    ← List.head?_filter, filter_sortedByDescending, List.head?_filter]

end DataGateway
