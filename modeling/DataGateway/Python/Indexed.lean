import Mathlib.Data.List.Basic
import Mathlib.Data.List.Nodup
import Mathlib.Data.List.Range

/-!
# Lists by index

What `[(i, x) for i, x in enumerate(xs) if p(x)]` selects, how results of the selected elements find
their way back to the indices they came from, and where an element is in a list that was cut into
blocks.
-/

namespace DataGateway
namespace Indexed

variable {α β : Type}

/-- `[(i, x) for i, x in enumerate(xs) if p(x)]`, with the components the other way round. -/
def enumerateWhere (p : α → Bool) (xs : List α) : List (α × Nat) :=
  xs.zipIdx.filter fun (x, _) => p x

/-- How many selected elements come before an index. -/
def rank (p : α → Bool) (xs : List α) (i : Nat) : Nat := ((xs.take i).filter p).length

/-- `for (_, i), y in zip(selected, ys): results[i] = y`. -/
def assign (results : List β) (selected : List (α × Nat)) (values : List β) : List β :=
  (selected.zip values).foldl (fun current ((_, i), value) => current.set i value) results

/-! ## Selected elements -/

@[simp]
theorem enumerateWhere_values (p : α → Bool) (xs : List α) :
    (enumerateWhere p xs).map (·.1) = xs.filter p := by
  have : (fun pair : α × Nat => p pair.1) = p ∘ Prod.fst := rfl
  rw [enumerateWhere, this, ← List.filter_map, List.zipIdx_map_fst]

@[simp]
theorem enumerateWhere_length (p : α → Bool) (xs : List α) :
    (enumerateWhere p xs).length = (xs.filter p).length := by
  rw [← enumerateWhere_values, List.length_map]

@[simp]
theorem mem_enumerateWhere {p : α → Bool} {xs : List α} {x : α} {i : Nat} :
    (x, i) ∈ enumerateWhere p xs ↔ xs[i]? = some x ∧ p x := by
  simp [enumerateWhere, List.mk_mem_zipIdx_iff_getElem?]

theorem enumerateWhere_nodup (p : α → Bool) (xs : List α) :
    ((enumerateWhere p xs).map (·.2)).Nodup := by
  refine List.Nodup.sublist (List.filter_sublist.map _) ?_
  rw [List.zipIdx_map_snd]
  exact List.nodup_range'

/-- A selected element is at its rank among the selected. -/
theorem enumerateWhere_rank {p : α → Bool} {xs : List α} {x : α} {i : Nat} (here : xs[i]? = some x)
    (selected : p x) : (enumerateWhere p xs)[rank p xs i]? = some (x, i) := by
  have shifted : ∀ (xs : List α) (start i : Nat), xs[i]? = some x →
      ((xs.zipIdx start).filter fun (x, _) => p x)[rank p xs i]? = some (x, start + i) := by
    intro xs
    induction xs with
    | nil => simp
    | cons y rest ih =>
        intro start i here
        cases i with
        | zero =>
            obtain rfl : y = x := by simpa using here
            simp [rank, selected]
        | succ i =>
            have later := ih (start + 1) i (by simpa using here)
            rw [Nat.add_assoc, Nat.add_comm 1] at later
            by_cases chosen : p y
            · simpa [rank, chosen] using later
            · simpa [rank, chosen] using later
  have found := shifted xs 0 i here
  rwa [Nat.zero_add] at found

theorem filter_rank {p : α → Bool} {xs : List α} {x : α} {i : Nat} (here : xs[i]? = some x)
    (selected : p x) : (xs.filter p)[rank p xs i]? = some x := by
  rw [← enumerateWhere_values, List.getElem?_map, enumerateWhere_rank here selected]
  rfl

/-- A place among the selected elements is the rank of the element there. -/
theorem enumerateWhere_place {p : α → Bool} {xs : List α} {x : α} {i j : Nat}
    (here : (enumerateWhere p xs)[j]? = some (x, i)) :
    xs[i]? = some x ∧ p x ∧ j = rank p xs i := by
  obtain ⟨there, selected⟩ := mem_enumerateWhere.mp (List.mem_of_getElem? here)
  refine ⟨there, selected, ?_⟩
  have ranked := enumerateWhere_rank there selected
  have own :
      ((enumerateWhere p xs).map (·.2))[j]? = ((enumerateWhere p xs).map (·.2))[rank p xs i]? := by
    rw [List.getElem?_map, List.getElem?_map, here, ranked]
  refine (List.getElem?_inj ?_ (enumerateWhere_nodup p xs)).mp own
  rw [List.length_map]
  exact (List.getElem?_eq_some_iff.mp here).1

theorem take_rank (p : α → Bool) (xs : List α) (i : Nat) :
    (xs.filter p).take (rank p xs i) = (xs.take i).filter p := by
  have split : xs.filter p = (xs.take i).filter p ++ (xs.drop i).filter p := by
    rw [← List.filter_append, List.take_append_drop]
  rw [split, rank, List.take_left]

/-- The element of an index is chosen, and its place among the chosen. -/
def Picks (picked xs : List α) (place i : Nat) : Prop :=
  ∃ keep, picked = xs.filter keep ∧ (∃ x, xs[i]? = some x ∧ keep x) ∧ place = rank keep xs i

theorem picks_filter {keep : α → Bool} {xs : List α} {x : α} {i : Nat} (here : xs[i]? = some x)
    (kept : keep x) : Picks (xs.filter keep) xs (rank keep xs i) i :=
  ⟨keep, rfl, ⟨x, here, kept⟩, rfl⟩

theorem picks_self {xs : List α} {x : α} {i : Nat} (here : xs[i]? = some x) : Picks xs xs i i := by
  have lt : i < xs.length := (List.getElem?_eq_some_iff.mp here).1
  refine ⟨fun _ => true, by simp, ⟨x, here, rfl⟩, ?_⟩
  simp [rank, Nat.min_eq_left (Nat.le_of_lt lt)]

/-- The place of an element has that element. -/
theorem Picks.getElem {picked xs : List α} {place i : Nat} (picks : Picks picked xs place i) :
    picked[place]? = xs[i]? := by
  obtain ⟨keep, rfl, ⟨x, here, kept⟩, rfl⟩ := picks
  rw [filter_rank here kept, here]

/-- A choice among the chosen is a choice. -/
theorem Picks.trans {first second xs : List α} {place middle i : Nat}
    (inner : Picks second first place middle) (outer : Picks first xs middle i) :
    Picks second xs place i := by
  obtain ⟨q, rfl, ⟨y, there, also⟩, rfl⟩ := inner
  have same := outer.getElem
  obtain ⟨p, rfl, ⟨x, here, kept⟩, rfl⟩ := outer
  obtain rfl : y = x := Option.some.inj ((there.symm.trans same).trans here)
  refine ⟨fun x => p x && q x, ?_, ⟨y, here, by simp [kept, also]⟩, ?_⟩
  · rw [List.filter_filter]
    exact List.filter_congr fun x _ => Bool.and_comm _ _
  · rw [rank, take_rank, List.filter_filter, rank]
    congr 1
    exact List.filter_congr fun x _ => Bool.and_comm _ _

/-! ## Results for selected elements -/

theorem assign_cons (results : List β) (pair : α × Nat) (rest : List (α × Nat)) (value : β)
    (values : List β) :
    assign results (pair :: rest) (value :: values) =
      assign (results.set pair.2 value) rest values :=
  rfl

@[simp]
theorem assign_length (results : List β) (selected : List (α × Nat)) (values : List β) :
    (assign results selected values).length = results.length := by
  unfold assign
  induction selected.zip values generalizing results with
  | nil => rfl
  | cons pair rest ih => simp [ih]

/-- An index that was not selected keeps its result. -/
theorem assign_other {results : List β} {selected : List (α × Nat)} {values : List β} {i : Nat}
    (other : i ∉ selected.map (·.2)) : (assign results selected values)[i]? = results[i]? := by
  induction selected generalizing results values with
  | nil => rfl
  | cons pair rest ih =>
      cases values with
      | nil => rfl
      | cons value values =>
          simp only [List.map_cons, List.mem_cons, not_or] at other
          rw [assign_cons, ih other.2]
          exact List.getElem?_set_ne (Ne.symm other.1)

/-- A selected index gets the result at its place among the selected. -/
theorem assign_own {results : List β} {selected : List (α × Nat)} {values : List β} {i j : Nat}
    {x : α} {value : β} (distinct : (selected.map (·.2)).Nodup) (here : selected[j]? = some (x, i))
    (given : values[j]? = some value) (lt : i < results.length) :
    (assign results selected values)[i]? = some value := by
  induction selected generalizing results values j with
  | nil => simp at here
  | cons pair rest ih =>
      cases values with
      | nil => simp at given
      | cons first values =>
          rw [List.map_cons, List.nodup_cons] at distinct
          cases j with
          | zero =>
              obtain rfl : pair = (x, i) := by simpa using here
              obtain rfl : first = value := by simpa using given
              rw [assign_cons, assign_other distinct.1]
              simp [lt]
          | succ j =>
              rw [assign_cons]
              exact ih distinct.2 (by simpa using here) (by simpa using given) (by simpa using lt)

/-- Results for the selected elements: at its rank for a selected element, unchanged for another. -/
theorem assign_enumerateWhere {p : α → Bool} {xs : List α} {results values : List β}
    {x : α} {i : Nat} (here : xs[i]? = some x) (sized : results.length = xs.length)
    (full : values.length = (xs.filter p).length) :
    (assign results (enumerateWhere p xs) values)[i]? =
      if p x then values[rank p xs i]? else results[i]? := by
  split
  next selected =>
    have own := enumerateWhere_rank here selected
    have lt : rank p xs i < values.length := by
      rw [full, ← enumerateWhere_length]
      exact (List.getElem?_eq_some_iff.mp own).1
    rw [List.getElem?_eq_getElem lt]
    exact assign_own (enumerateWhere_nodup p xs) own (List.getElem?_eq_getElem lt)
      (sized ▸ (List.getElem?_eq_some_iff.mp here).1)
  next skipped =>
    refine assign_other fun mem => skipped ?_
    obtain ⟨⟨y, _⟩, selected, rfl⟩ := List.mem_map.mp mem
    obtain ⟨there, kept⟩ := mem_enumerateWhere.mp selected
    obtain rfl : y = x := Option.some.inj (there.symm.trans here)
    exact kept

/-! ## Blocks -/

/-- The place of an element of a block in the whole list. -/
theorem flatten_getElem {blocks : List (List α)} {k j : Nat} {block : List α}
    (here : blocks[k]? = some block) (lt : j < block.length) :
    blocks.flatten[(blocks.take k).flatten.length + j]? = block[j]? := by
  induction blocks generalizing k with
  | nil => simp at here
  | cons first rest ih =>
      cases k with
      | zero =>
          obtain rfl : first = block := by simpa using here
          simp [List.getElem?_append_left lt]
      | succ k =>
          rw [List.take_succ_cons, List.flatten_cons, List.flatten_cons, List.length_append,
            Nat.add_assoc, List.getElem?_append_right (Nat.le_add_right _ _),
            Nat.add_sub_cancel_left]
          exact ih (by simpa using here)

/-- Every place of the whole list is in a block. -/
theorem exists_block {blocks : List (List α)} {i : Nat} (lt : i < blocks.flatten.length) :
    ∃ k block j, blocks[k]? = some block ∧ j < block.length ∧
      i = (blocks.take k).flatten.length + j := by
  induction blocks generalizing i with
  | nil => simp at lt
  | cons first rest ih =>
      by_cases early : i < first.length
      · exact ⟨0, first, i, rfl, early, by simp⟩
      · rw [List.flatten_cons, List.length_append] at lt
        obtain ⟨k, block, j, here, own, place⟩ := ih (i := i - first.length) (by omega)
        refine ⟨k + 1, block, j, here, own, ?_⟩
        rw [List.take_succ_cons, List.flatten_cons, List.length_append]
        omega

/-- `[xs[i : i + size] for i in range(0, len(xs), size)]`. -/
def chunks (size : Nat) (xs : List α) : List (List α) :=
  (List.range ((xs.length + size - 1) / size)).map fun k => (xs.drop (k * size)).take size

theorem chunks_getElem {size i : Nat} {xs : List α} (positive : 0 < size) (lt : i < xs.length) :
    (chunks size xs)[i / size]? = some ((xs.drop (i / size * size)).take size) := by
  have below : i / size < (xs.length + size - 1) / size := by
    rw [Nat.lt_div_iff_mul_lt positive]
    have := Nat.div_mul_le_self i size
    omega
  simp [chunks, List.getElem?_range below]

theorem chunk_eq {size k : Nat} {xs chunk : List α} (here : (chunks size xs)[k]? = some chunk) :
    chunk = (xs.drop (k * size)).take size := by
  rw [chunks, List.getElem?_map, Option.map_eq_some_iff] at here
  obtain ⟨_, at_, rfl⟩ := here
  obtain ⟨_, rfl⟩ := List.getElem?_eq_some_iff.mp at_
  rw [List.getElem_range]

theorem chunk_getElem {size i : Nat} {xs : List α} (positive : 0 < size) :
    ((xs.drop (i / size * size)).take size)[i % size]? = xs[i]? := by
  rw [List.getElem?_take_of_lt (Nat.mod_lt i positive), List.getElem?_drop, Nat.div_add_mod']

/-- The first chunks together are a beginning of the list. -/
theorem take_chunks {size : Nat} (positive : 0 < size) (xs : List α) (k : Nat) :
    ((chunks size xs).take k).flatten = xs.take (k * size) := by
  induction k with
  | zero => simp
  | succ k ih =>
      rw [List.take_add_one, List.flatten_append, ih, Nat.succ_mul]
      by_cases below : k < (xs.length + size - 1) / size
      · have here : (chunks size xs)[k]? = some ((xs.drop (k * size)).take size) := by
          simp [chunks, List.getElem?_range below]
        rw [here, List.take_add]
        simp
      · have none : (chunks size xs)[k]? = none := by simpa [chunks] using below
        have all : xs.length ≤ k * size := by
          rw [Nat.lt_div_iff_mul_lt positive] at below
          omega
        rw [none, List.take_of_length_le all, List.take_of_length_le (Nat.le_add_right_of_le all)]
        simp

theorem flatten_chunks {size : Nat} (positive : 0 < size) (xs : List α) :
    (chunks size xs).flatten = xs := by
  have count : (chunks size xs).length ≤ (chunks size xs).length + xs.length := Nat.le_add_right ..
  have whole := take_chunks positive xs ((chunks size xs).length + xs.length)
  rwa [List.take_of_length_le count, List.take_of_length_le] at whole
  exact (Nat.le_add_left ..).trans (Nat.le_mul_of_pos_right _ positive)

section Blocks

variable {size : Nat} {xs : List α} {blocks : List (List β)}

theorem length_take_flatten (sized : blocks.map List.length = (chunks size xs).map List.length)
    (positive : 0 < size) (k : Nat) :
    (blocks.take k).flatten.length = (xs.take (k * size)).length := by
  rw [← take_chunks positive, List.length_flatten, List.length_flatten, List.map_take,
    List.map_take, sized]

/-- Blocks as long as the chunks have together as many elements as the list. -/
theorem length_blocks (sized : blocks.map List.length = (chunks size xs).map List.length)
    (positive : 0 < size) : blocks.flatten.length = xs.length := by
  rw [List.length_flatten, sized, ← List.length_flatten, flatten_chunks positive]

/-- Blocks as long as the chunks hold the result of an index at its place in its chunk. -/
theorem blocks_getElem {i : Nat} (sized : blocks.map List.length = (chunks size xs).map List.length)
    (positive : 0 < size) (lt : i < xs.length) :
    ∃ block, blocks[i / size]? = some block ∧ blocks.flatten[i]? = block[i % size]? := by
  have lengths : (blocks.map List.length)[i / size]? =
      some ((xs.drop (i / size * size)).take size).length := by
    rw [sized, List.getElem?_map, chunks_getElem positive lt]
    rfl
  rw [List.getElem?_map, Option.map_eq_some_iff] at lengths
  obtain ⟨block, here, length⟩ := lengths
  refine ⟨block, here, ?_⟩
  have below : i % size < block.length := by
    rw [length]
    have own : ((xs.drop (i / size * size)).take size)[i % size]? = xs[i]? := chunk_getElem positive
    rw [List.getElem?_eq_getElem lt] at own
    exact (List.getElem?_eq_some_iff.mp own).1
  rw [← flatten_getElem here below, length_take_flatten sized positive, List.length_take_of_le,
    Nat.div_add_mod']
  exact (Nat.div_mul_le_self i size).trans lt.le

end Blocks

end Indexed
end DataGateway
