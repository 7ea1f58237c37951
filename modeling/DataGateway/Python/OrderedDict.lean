import Mathlib.Algebra.Order.BigOperators.Group.List
import Mathlib.Algebra.Ring.Int.Defs
import Mathlib.Data.List.Nodup
import Mathlib.Logic.Function.Iterate

/-!
# Ordered dictionaries

`collections.OrderedDict`: keys with values, in an order that an assignment to an old key keeps and
`move_to_end` changes.
-/

namespace DataGateway

/-- A dictionary that remembers an order of its keys. -/
structure OrderedDict (κ α : Type) where
  items : List (κ × α)
  nodup : (items.map Prod.fst).Nodup

namespace OrderedDict

variable {κ α : Type}

/-- The empty dictionary. -/
def empty : OrderedDict κ α := ⟨[], .nil⟩

theorem nodup_items (dict : OrderedDict κ α) : dict.items.Nodup := .of_map _ dict.nodup

/-- `len`. -/
def size (dict : OrderedDict κ α) : Nat := dict.items.length

/-- `popitem(last=False)`, which needs an item. -/
def popFirst (dict : OrderedDict κ α) : OrderedDict κ α where
  items := dict.items.tail
  nodup := by
    rw [List.map_tail]
    exact dict.nodup.sublist (List.tail_sublist _)

/-- Keep the items that pass a test. -/
def filter (keep : κ → α → Bool) (dict : OrderedDict κ α) : OrderedDict κ α where
  items := dict.items.filter fun item => keep item.1 item.2
  nodup := dict.nodup.sublist (List.filter_sublist.map _)

@[simp]
theorem mem_filter {keep : κ → α → Bool} {dict : OrderedDict κ α} {item : κ × α} :
    item ∈ (dict.filter keep).items ↔ item ∈ dict.items ∧ keep item.1 item.2 = true :=
  List.mem_filter

theorem size_filter_le (keep : κ → α → Bool) (dict : OrderedDict κ α) :
    (dict.filter keep).size ≤ dict.size :=
  List.length_filter_le _ _

@[simp]
theorem size_popFirst (dict : OrderedDict κ α) : dict.popFirst.size = dict.size - 1 :=
  List.length_tail

theorem mem_of_mem_popFirst {dict : OrderedDict κ α} {item : κ × α}
    (mem : item ∈ dict.popFirst.items) : item ∈ dict.items :=
  List.mem_of_mem_tail mem

/-- `popitem(last=False)` a number of times. -/
theorem size_iterate_popFirst (count : Nat) (dict : OrderedDict κ α) :
    (popFirst^[count] dict).size = dict.size - count := by
  induction count generalizing dict with
  | zero => rfl
  | succ count ih =>
      rw [Function.iterate_succ_apply, ih, size_popFirst]
      omega

/-- `popitem(last=False)` a number of times leaves the items behind. -/
theorem items_iterate_popFirst (count : Nat) (dict : OrderedDict κ α) :
    (popFirst^[count] dict).items = dict.items.drop count := by
  induction count generalizing dict with
  | zero => rfl
  | succ count ih =>
      rw [Function.iterate_succ_apply, ih, popFirst, List.drop_tail]

theorem mem_of_mem_iterate_popFirst {count : Nat} {dict : OrderedDict κ α} {item : κ × α}
    (mem : item ∈ (popFirst^[count] dict).items) : item ∈ dict.items := by
  induction count generalizing dict with
  | zero => exact mem
  | succ count ih => exact mem_of_mem_popFirst (ih mem)

variable [DecidableEq κ]

/-- `get`. -/
def get? (dict : OrderedDict κ α) (key : κ) : Option α :=
  (dict.items.find? fun item => item.1 = key).map Prod.snd

/-- `key in dict`. -/
def contains (dict : OrderedDict κ α) (key : κ) : Bool := (dict.get? key).isSome

/-- `del dict[key]`, or `pop(key, None)`. -/
def erase (dict : OrderedDict κ α) (key : κ) : OrderedDict κ α :=
  dict.filter fun other _ => other ≠ key

/-- A key has one value. -/
theorem get?_eq_some {dict : OrderedDict κ α} {key : κ} {value : α} :
    dict.get? key = some value ↔ (key, value) ∈ dict.items := by
  have unique : ∀ item ∈ dict.items, item.1 = key → (key, value) ∈ dict.items →
      item.2 = value :=
    fun item mem same here => congrArg Prod.snd
      (List.inj_on_of_nodup_map dict.nodup mem here same)
  rw [get?, Option.map_eq_some_iff]
  constructor
  · rintro ⟨⟨found, _⟩, some, rfl⟩
    obtain rfl : found = key := by simpa using List.find?_some some
    exact List.mem_of_find?_eq_some some
  · intro mem
    have held : (dict.items.find? fun item => item.1 = key).isSome :=
      List.find?_isSome.mpr ⟨(key, value), mem, by simp⟩
    obtain ⟨item, found⟩ := Option.isSome_iff_exists.mp held
    have same : item.1 = key := by simpa using List.find?_some found
    exact ⟨item, found, unique item (List.mem_of_find?_eq_some found) same mem⟩

theorem get?_eq_none {dict : OrderedDict κ α} {key : κ} :
    dict.get? key = none ↔ ∀ value, (key, value) ∉ dict.items := by
  rw [Option.eq_none_iff_forall_not_mem]
  exact forall_congr' fun value => not_congr get?_eq_some

/-- `dict[key] = value`: an old key keeps its place. -/
def set (dict : OrderedDict κ α) (key : κ) (value : α) : OrderedDict κ α :=
  if held : dict.contains key then
    { items := dict.items.map fun item => if item.1 = key then (key, value) else item
      nodup := by
        have same : ((dict.items.map fun item => if item.1 = key then (key, value) else item).map
            Prod.fst) = dict.items.map Prod.fst := by
          rw [List.map_map]
          refine List.map_congr_left fun item _ => ?_
          by_cases here : item.1 = key <;> simp [here]
        exact same ▸ dict.nodup }
  else
    { items := dict.items ++ [(key, value)]
      nodup := by
        have absent := get?_eq_none.mp (Option.not_isSome_iff_eq_none.mp held)
        have apart : ∀ other value, (other, value) ∈ dict.items → other ≠ key :=
          fun other value mem same => absent value (same ▸ mem)
        simpa [List.nodup_append] using And.intro dict.nodup apart }

/-- `move_to_end`, for a key that is present. -/
def moveToEnd (dict : OrderedDict κ α) (key : κ) : OrderedDict κ α :=
  match dict.get? key with
  | none => dict
  | some value => (dict.erase key).set key value

@[simp]
theorem mem_erase {dict : OrderedDict κ α} {key : κ} {item : κ × α} :
    item ∈ (dict.erase key).items ↔ item ∈ dict.items ∧ item.1 ≠ key := by
  simp [erase]

@[simp]
theorem mem_set {dict : OrderedDict κ α} {key : κ} {value : α} {item : κ × α} :
    item ∈ (dict.set key value).items ↔
      item = (key, value) ∨ item ∈ dict.items ∧ item.1 ≠ key := by
  unfold set
  split
  next held =>
    obtain ⟨old, found⟩ := Option.isSome_iff_exists.mp held
    have mem := get?_eq_some.mp found
    simp only [List.mem_map]
    constructor
    · rintro ⟨other, here, rfl⟩
      by_cases same : other.1 = key
      · exact .inl (if_pos same)
      · rw [if_neg same]
        exact .inr ⟨here, same⟩
    · rintro (rfl | ⟨here, other⟩)
      · exact ⟨(key, old), mem, if_pos rfl⟩
      · exact ⟨item, here, if_neg other⟩
  next absent =>
    have none := get?_eq_none.mp (Option.not_isSome_iff_eq_none.mp absent)
    simp only [List.mem_append, List.mem_singleton]
    constructor
    · rintro (here | same)
      · exact .inr ⟨here, fun same => none item.2 (same ▸ here)⟩
      · exact .inl same
    · rintro (same | ⟨here, _⟩)
      · exact .inr same
      · exact .inl here

/-- Reading after a deletion. -/
theorem get?_erase (dict : OrderedDict κ α) (key other : κ) :
    (dict.erase key).get? other = if other = key then none else dict.get? other := by
  refine Option.ext fun value => ?_
  rw [get?_eq_some, mem_erase]
  split
  next same => simp [same]
  next apart => simp [apart, get?_eq_some]

/-- Reading after an assignment. -/
theorem get?_set (dict : OrderedDict κ α) (key other : κ) (value : α) :
    (dict.set key value).get? other = if other = key then some value else dict.get? other := by
  refine Option.ext fun found => ?_
  rw [get?_eq_some, mem_set, Prod.mk.injEq]
  split
  next same => simp [same, eq_comm]
  next apart => simp [apart, get?_eq_some]

@[simp]
theorem mem_moveToEnd {dict : OrderedDict κ α} {key : κ} {item : κ × α} :
    item ∈ (dict.moveToEnd key).items ↔ item ∈ dict.items := by
  unfold moveToEnd
  split
  · rfl
  next value found =>
    have mem := get?_eq_some.mp found
    rw [mem_set, mem_erase]
    constructor
    · rintro (rfl | ⟨⟨here, _⟩, _⟩)
      · exact mem
      · exact here
    · intro here
      by_cases same : item.1 = key
      · have one := get?_eq_some.mpr (same ▸ here : (key, item.2) ∈ dict.items)
        exact .inl (Prod.ext same (Option.some.inj (one.symm.trans found)))
      · exact .inr ⟨⟨here, same⟩, same⟩

/-- The size after an assignment. -/
theorem size_set (dict : OrderedDict κ α) (key : κ) (value : α) :
    (dict.set key value).size = if dict.contains key then dict.size else dict.size + 1 := by
  unfold set size
  split <;> simp

theorem size_set_le (dict : OrderedDict κ α) (key : κ) (value : α) :
    (dict.set key value).size ≤ dict.size + 1 := by
  rw [size_set]
  split <;> omega

@[simp]
theorem size_moveToEnd (dict : OrderedDict κ α) (key : κ) :
    (dict.moveToEnd key).size = dict.size := by
  have same : (dict.moveToEnd key).items.Perm dict.items :=
    (List.perm_ext_iff_of_nodup (nodup_items _) (nodup_items _)).mpr fun _ => mem_moveToEnd
  exact same.length_eq

/-! ## Values in place -/

/-- Change the value of a key, if it has one. -/
def modify (dict : OrderedDict κ α) (key : κ) (change : α → α) : OrderedDict κ α where
  items := dict.items.map fun item => if item.1 = key then (item.1, change item.2) else item
  nodup := by
    have same :
        ((dict.items.map fun item => if item.1 = key then (item.1, change item.2) else item).map
        Prod.fst) = dict.items.map Prod.fst := by
      rw [List.map_map]
      refine List.map_congr_left fun item _ => ?_
      by_cases here : item.1 = key <;> simp [here]
    exact same ▸ dict.nodup

/-- Change every value. -/
def mapValues {β : Type} (dict : OrderedDict κ α) (change : α → β) : OrderedDict κ β where
  items := dict.items.map fun item => (item.1, change item.2)
  nodup := by
    rw [List.map_map]
    exact dict.nodup

theorem get?_modify (dict : OrderedDict κ α) (key other : κ) (change : α → α) :
    (dict.modify key change).get? other =
      if other = key then (dict.get? key).map change else dict.get? other := by
  have find : ∀ items : List (κ × α),
      ((items.map fun item => if item.1 = key then (item.1, change item.2) else item).find?
        fun item => item.1 = other).map Prod.snd =
        if other = key then ((items.find? fun item => item.1 = key).map Prod.snd).map change
        else (items.find? fun item => item.1 = other).map Prod.snd := by
    intro items
    induction items with
    | nil => simp
    | cons item items ih =>
        by_cases same : other = key
        · subst same
          by_cases here : item.1 = other
          · simp [here]
          · simpa [here] using ih
        · by_cases here : item.1 = other
          · have apart : item.1 ≠ key := fun eq => same (here.symm.trans eq)
            simp [here, same]
          · by_cases there : item.1 = key
            · have apart : key ≠ other := fun eq => here (there.trans eq)
              simpa [there, same, apart] using ih
            · simpa [here, there, same] using ih
  exact find dict.items

theorem get?_mapValues {β : Type} (dict : OrderedDict κ α) (key : κ) (change : α → β) :
    (dict.mapValues change).get? key = (dict.get? key).map change := by
  have find : ∀ items : List (κ × α),
      ((items.map fun item => (item.1, change item.2)).find? fun item => item.1 = key).map
        Prod.snd =
        ((items.find? fun item => item.1 = key).map Prod.snd).map change := by
    intro items
    induction items with
    | nil => rfl
    | cons item items ih =>
        by_cases here : item.1 = key
        · simp [here]
        · simpa [here] using ih
  exact find dict.items

/-- The sum of a number that every value has. -/
def total (dict : OrderedDict κ α) (number : α → Int) : Int :=
  (dict.items.map fun item => number item.2).sum

theorem total_modify {dict : OrderedDict κ α} {key : κ} {value : α}
    (held : dict.get? key = some value) (change : α → α) (number : α → Int) :
    (dict.modify key change).total number = dict.total number +
      (number (change value) - number value) := by
  have sum : ∀ items : List (κ × α), (items.map Prod.fst).Nodup → (key, value) ∈ items →
      ((items.map fun item => if item.1 = key then (item.1, change item.2) else item).map
        fun item => number item.2).sum =
      (items.map fun item => number item.2).sum + (number (change value) - number value) := by
    intro items apart mem
    induction items with
    | nil => cases mem
    | cons item items ih =>
        simp only [List.map_cons, List.nodup_cons] at apart
        rcases List.mem_cons.mp mem with rfl | later
        · have others :
              ∀ other ∈ items, (if other.1 = key then (other.1, change other.2) else other) =
              other := by
            intro other mem
            rw [if_neg]
            rintro same
            have here : other.1 ∈ items.map Prod.fst := List.mem_map_of_mem mem
            rw [same] at here
            exact apart.1 here
          have same :
              (items.map fun item => if item.1 = key then (item.1, change item.2) else item) =
              items := (List.map_congr_left others).trans (List.map_id _)
          simp only [List.map_cons, List.sum_cons, same, if_true]
          omega
        · have ne : item.1 ≠ key := by
            rintro same
            exact apart.1 (same ▸ List.mem_map_of_mem (f := Prod.fst) later)
          have rest := ih apart.2 later
          simp only [List.map_cons, List.sum_cons, if_neg ne, rest]
          omega
  exact sum dict.items dict.nodup (get?_eq_some.mp held)

section Maps

variable {β : Type}

omit [DecidableEq κ] in
theorem ext_items {dict other : OrderedDict κ α} (same : dict.items = other.items) :
    dict = other := by
  cases dict
  cases other
  cases same
  rfl

omit [DecidableEq κ] in
theorem mapValues_mapValues {γ : Type} (dict : OrderedDict κ α) (first : α → β)
    (second : β → γ) : (dict.mapValues first).mapValues second = dict.mapValues (second ∘ first) :=
  ext_items (by simp [mapValues])

theorem contains_iff {dict : OrderedDict κ α} {key : κ} :
    dict.contains key = true ↔ ∃ value, dict.get? key = some value := Option.isSome_iff_exists

@[simp]
theorem contains_mapValues (dict : OrderedDict κ α) (key : κ) (change : α → β) :
    (dict.mapValues change).contains key = dict.contains key := by
  rw [contains, contains, get?_mapValues, Option.isSome_map]

@[simp]
theorem contains_modify (dict : OrderedDict κ α) (key other : κ) (change : α → α) :
    (dict.modify key change).contains other = dict.contains other := by
  rw [contains, contains, get?_modify]
  split
  next same => rw [same, Option.isSome_map]
  · rfl

theorem contains_set (dict : OrderedDict κ α) (key other : κ) (value : α) :
    (dict.set key value).contains other = (decide (other = key) || dict.contains other) := by
  rw [contains, contains, get?_set]
  split
  next same => simp [same]
  next apart => simp [apart]

/-- A change in place is seen in what is read off the values. -/
theorem mapValues_modify (dict : OrderedDict κ α) (key : κ) {change : α → α} {view : α → β}
    {seen : β → β} (natural : ∀ value, view (change value) = seen (view value)) :
    (dict.modify key change).mapValues view = (dict.mapValues view).modify key seen := by
  refine ext_items ?_
  simp only [mapValues, modify, List.map_map]
  refine List.map_congr_left fun item _ => ?_
  by_cases here : item.1 = key <;> simp [here, natural]

theorem modify_id (dict : OrderedDict κ α) (key : κ) : dict.modify key id = dict := by
  refine ext_items ?_
  simp [modify]

/-- A change that changes nothing that is read off the values. -/
theorem mapValues_modify_same (dict : OrderedDict κ α) (key : κ) {change : α → α}
    {view : α → β} (same : ∀ value, view (change value) = view value) :
    (dict.modify key change).mapValues view = dict.mapValues view := by
  have natural : ∀ value, view (change value) = id (view value) := same
  rw [dict.mapValues_modify key natural, modify_id]

/-- A change that does not change the value that is there. -/
theorem modify_held {dict : OrderedDict κ α} {key : κ} {value : α} {change : α → α}
    (held : dict.get? key = some value) (same : change value = value) :
    dict.modify key change = dict := by
  refine ext_items ((List.map_congr_left fun item mem => ?_).trans (List.map_id _))
  split
  next here =>
    have stored := get?_eq_some.mpr (here ▸ mem : (key, item.2) ∈ dict.items)
    obtain rfl := Option.some.inj (stored.symm.trans held)
    rw [same]
    rfl
  · rfl

theorem items_set (dict : OrderedDict κ α) (key : κ) (value : α) :
    (dict.set key value).items =
      if dict.contains key then dict.items.map fun item => if item.1 = key then
        (key, value) else item
      else dict.items ++ [(key, value)] := by
  unfold set
  split <;> rfl

/-- Erasing a key that is not there. -/
theorem erase_of_not_contains {dict : OrderedDict κ α} {key : κ}
    (absent : dict.contains key = false) :
    dict.erase key = dict := by
  have none := get?_eq_none.mp (Option.not_isSome_iff_eq_none.mp (Bool.not_eq_true _ ▸ absent))
  apply ext_items
  apply List.filter_eq_self.mpr
  intro item mem
  have apart : item.1 ≠ key := fun same => none item.2 (same ▸ mem)
  simpa using apart

/-- An item that goes may as well have another value. -/
theorem erase_set (dict : OrderedDict κ α) (key : κ) (value : α) :
    (dict.set key value).erase key = dict.erase key := by
  apply ext_items
  change (dict.set key value).items.filter (fun item => item.1 ≠ key) =
    dict.items.filter fun item => item.1 ≠ key
  rw [items_set]
  split
  · rw [List.filter_map]
    have same : ((fun item : κ × α => decide (item.1 ≠ key)) ∘
        fun item => if item.1 = key then (key, value) else item) =
          fun item : κ × α => decide (item.1 ≠ key) := by
      funext item
      by_cases here : item.1 = key <;> simp [here]
    rw [same]
    refine (List.map_congr_left fun item mem => if_neg ?_).trans (List.map_id _)
    simpa using (List.mem_filter.mp mem).2
  · simp

/-- After `move_to_end` the item comes last. -/
theorem items_moveToEnd {dict : OrderedDict κ α} {key : κ} {value : α}
    (held : dict.get? key = some value) :
    (dict.moveToEnd key).items = (dict.erase key).items ++ [(key, value)] := by
  have absent : (dict.erase key).contains key = false := by
    simp [contains, get?_erase]
  rw [moveToEnd, held]
  simp [items_set, absent]

omit [DecidableEq κ] in
@[simp]
theorem total_mapValues (dict : OrderedDict κ α) (view : α → β) (number : β → Int) :
    (dict.mapValues view).total number = dict.total (number ∘ view) := by
  simp [total, mapValues, Function.comp_def]

omit [DecidableEq κ] in
theorem total_eq_zero {dict : OrderedDict κ α} {number : α → Int}
    (zero : ∀ item ∈ dict.items, number item.2 = 0) : dict.total number = 0 := by
  rw [total, List.map_congr_left zero]
  simp

omit [DecidableEq κ] in
theorem total_le {dict : OrderedDict κ α} {number other : α → Int}
    (le : ∀ item ∈ dict.items, number item.2 ≤ other item.2) :
      dict.total number ≤ dict.total other :=
  List.sum_le_sum le

end Maps

/-- Extending the list under a key adds the new items to all the lists together. -/
theorem perm_set_append {β : Type} (dict : OrderedDict κ (List β)) (key : κ) (added : List β) :
    ((dict.set key ((dict.get? key).getD [] ++ added)).items.flatMap Prod.snd).Perm
      (dict.items.flatMap Prod.snd ++ added) := by
  rw [items_set]
  split
  next held =>
    obtain ⟨old, found⟩ := Option.isSome_iff_exists.mp held
    obtain ⟨front, back, split⟩ := List.append_of_mem (get?_eq_some.mp found)
    have apart := dict.nodup
    rw [split, List.map_append, List.map_cons, List.nodup_append, List.nodup_cons] at apart
    have keep : ∀ items : List (κ × List β), key ∉ items.map Prod.fst →
        (items.map fun entry => if entry.1 = key then (key, old ++ added) else entry) = items := by
      intro items absent
      refine (List.map_congr_left fun entry mem => if_neg ?_).trans (List.map_id _)
      rintro rfl
      exact absent (List.mem_map_of_mem mem)
    have before : key ∉ front.map Prod.fst :=
      fun mem => apart.2.2 key mem key List.mem_cons_self rfl
    rw [found, Option.getD_some, split, List.map_append, List.map_cons, if_pos rfl,
      keep front before, keep back apart.2.1.1]
    simp only [List.flatMap_append, List.flatMap_cons, List.append_assoc]
    exact (List.perm_append_comm.append_left old).append_left _
  next absent =>
    have none := Option.not_isSome_iff_eq_none.mp absent
    simp [none]

end OrderedDict
end DataGateway
