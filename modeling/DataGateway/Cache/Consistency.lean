import DataGateway.Cache.InMemory
import Mathlib.Order.Nat

/-!
# Two stores that act as one

What a `get` returns was put there by the last operation that replaced the key.  Every operation
says where the contents of the two stores come from; the rest is induction on the history.
-/

namespace DataGateway
namespace Cache

variable {Key Value Time : Type} [LinearOrder Time] [Add Time] {maxSize : Nat} {defaultTtl : Time}

/-- A call of the cache. -/
inductive Operation (Key Value Time : Type)
  | get (key : Key)
  | set (key : Key) (value : Value) (ttl : Option Time)
  | delete (key : Key)
  | invalidateMatching (keyPredicate : Key → Bool)
  | exists_ (key : Key)
  | clear

/-- What the operation does to the key ends an earlier value. -/
def Operation.replaces (key : Key) : Operation Key Value Time → Prop
  | .get _ | .exists_ _ => False
  | .set other _ _ | .delete other => other = key
  | .invalidateMatching keyPredicate => keyPredicate key = true
  | .clear => True

/-- Operations with their times, the newest first. -/
abbrev History (Key Value Time : Type) := List (Time × Operation Key Value Time)

/-- The last operation that replaced the key set this value, which expires then. -/
inductive LastSet (defaultTtl : Time) : History Key Value Time → Key → Value → Time → Prop
  | here {history time key value ttl} :
      LastSet defaultTtl ((time, .set key value ttl) :: history) key value
        (time + ttl.getD defaultTtl)
  | earlier {history time operation key value expires} (kept : ¬ operation.replaces key)
      (last : LastSet defaultTtl history key value expires) :
      LastSet defaultTtl ((time, operation) :: history) key value expires

namespace InMemoryCache

variable {T : TTLCache Key Value Time maxSize defaultTtl} {before middle after : InMemoryCache T}
variable {time now : Time} {key : Key} {value : Value}

/-- From this time on the cache holds nothing that the other one does not hold. -/
structure Within (time : Time) (before after : InMemoryCache T) : Prop where
  default : ∀ {now key value}, time ≤ now → T.get? after.cache now key = some value →
    T.get? before.cache now key = some value
  custom : ∀ item ∈ after.customCache.items, item ∈ before.customCache.items

theorem Within.refl : Within time before before := ⟨fun _ => id, fun _ => id⟩

theorem Within.trans (first : Within time before middle) (second : Within time middle after) :
    Within time before after :=
  ⟨fun le held => first.default le (second.default le held),
    fun item mem => first.custom item (second.custom item mem)⟩

theorem within_pruneCustomExpired : Within time before (before.pruneCustomExpired time) :=
  ⟨fun _ => id, fun _ mem => (OrderedDict.mem_filter.mp mem).1⟩

theorem popDefault_get? {count : Nat} {cache : T.State} (le : time ≤ now)
    (held : T.get? (popDefault T time count cache).2 now key = some value) :
    T.get? cache now key = some value := by
  induction count generalizing cache with
  | zero => exact held
  | succ count ih =>
      rw [popDefault] at held
      split at held
      · exact held
      · exact T.get?_popitem le (ih held)

theorem length_popDefault (count : Nat) (cache : T.State) :
    (T.keys (popDefault T now count cache).2 now).length = (T.keys cache now).length - count := by
  induction count generalizing cache with
  | zero => rfl
  | succ count ih =>
      rw [popDefault]
      split
      next none => simp [none]
      · have one := T.length_popitem cache now
        have rest := ih (T.popitem cache now)
        show (T.keys (popDefault T now count (T.popitem cache now)).2 now).length = _
        omega

theorem within_enforceMaxSize : Within time before (before.enforceMaxSize time) :=
  ⟨popDefault_get?, fun _ => OrderedDict.mem_of_mem_iterate_popFirst⟩

/-- Enforcing the size makes the two stores small enough together. -/
theorem stored_enforceMaxSize (cache : InMemoryCache T) :
    (cache.enforceMaxSize now).stored now ≤ maxSize := by
  unfold enforceMaxSize
  simp only [stored, length_popDefault, OrderedDict.size_iterate_popFirst]
  omega

theorem within_dropDefault : Within time before (before.dropDefault time key) := by
  unfold dropDefault
  split
  · exact ⟨fun le held => (T.get?_delete le held).2, fun _ => id⟩
  · exact .refl

theorem within_measured (now : Time) : Within time before (before.measured now) :=
  ⟨fun _ => id, fun _ => id⟩

/-- After `dropDefault` the default store does not hold the key any more. -/
theorem dropDefault_other {other : Key} (le : time ≤ now)
    (held : T.get? (before.dropDefault time key).cache now other = some value) : other ≠ key := by
  unfold dropDefault at held
  split at held
  · exact (T.get?_delete le held).1
  next absent =>
    rintro rfl
    exact absent (by rw [T.get?_later le held]; rfl)

@[simp]
theorem dropDefault_customCache :
    (before.dropDefault time key).customCache = before.customCache := by
  unfold dropDefault
  split <;> rfl

/-! ## Where the contents come from -/

/-- What an operation leaves in either store it has just put there, or it was there before. -/
structure Evolves (time : Time) (operation : Operation Key Value Time)
    (before after : InMemoryCache T) : Prop where
  default : ∀ {now key value}, time ≤ now → T.get? after.cache now key = some value →
    (∃ ttl, operation = .set key value ttl ∧ ttl.getD defaultTtl = defaultTtl ∧
      now < time + defaultTtl) ∨
    ¬ operation.replaces key ∧ T.get? before.cache now key = some value
  custom : ∀ {key entry}, (key, entry) ∈ after.customCache.items →
    (∃ ttl, operation = .set key entry.value (some ttl) ∧ ttl ≠ defaultTtl ∧
      entry.expiresAt = time + ttl) ∨
    ¬ operation.replaces key ∧ (key, entry) ∈ before.customCache.items

theorem Evolves.within {operation : Operation Key Value Time}
    (evolves : Evolves time operation before middle) (within : Within time middle after) :
    Evolves time operation before after :=
  ⟨fun le held => evolves.default le (within.default le held),
    fun mem => evolves.custom (within.custom _ mem)⟩

theorem Within.evolves {operation : Operation Key Value Time} (within : Within time before after)
    (keeps : ∀ key, ¬ operation.replaces key) : Evolves time operation before after :=
  ⟨fun le held => .inr ⟨keeps _, within.default le held⟩,
    fun mem => .inr ⟨keeps _, within.custom _ mem⟩⟩

/-- A `TTLCache` that has no place for a value holds none. -/
theorem get?_of_set_none {cache : T.State} (failed : T.set cache time key value = none)
    (other : Key) : T.get? cache now other = none := by
  have room := T.set_isSome cache time key value
  have most := T.length_keys cache now
  rw [failed] at room
  have none : T.keys cache now = [] := List.eq_nil_of_length_eq_zero (by simp at room; omega)
  rw [← Option.not_isSome_iff_eq_none, ← T.mem_keys, none]
  exact List.not_mem_nil

/-- Deleting a list of keys one by one. -/
theorem get?_foldl_delete {keys : List Key} {cache : T.State} (le : time ≤ now)
    (held : T.get? (keys.foldl (fun cache key => T.delete cache time key) cache) now key =
      some value) : key ∉ keys ∧ T.get? cache now key = some value := by
  induction keys generalizing cache with
  | nil => exact ⟨List.not_mem_nil, held⟩
  | cons first rest ih =>
      obtain ⟨later, held⟩ := ih held
      obtain ⟨other, held⟩ := T.get?_delete le held
      exact ⟨fun mem => (List.mem_cons.mp mem).elim other later, held⟩

theorem evolves_invalidateMatching {keyPredicate : Key → Bool} :
    Evolves time (.invalidateMatching keyPredicate) before
      (before.invalidateMatching time keyPredicate).2 := by
  have left : Evolves time (.invalidateMatching keyPredicate) before
      { before with
        cache := ((T.keys before.cache time).filter keyPredicate).foldl
          (fun cache key => T.delete cache time key) before.cache
        customCache := before.customCache.filter fun key _ => !keyPredicate key } := by
    refine ⟨fun {now key value} le held => .inr ?_, fun {key entry} mem => .inr ?_⟩
    · obtain ⟨others, held⟩ := get?_foldl_delete le held
      refine ⟨fun matching => others (List.mem_filter.mpr ⟨?_, matching⟩), held⟩
      rw [T.mem_keys, T.get?_later le held]
      rfl
    · obtain ⟨mem, others⟩ := OrderedDict.mem_filter.mp mem
      exact ⟨by simpa [Operation.replaces] using others, mem⟩
  unfold invalidateMatching
  dsimp only
  split
  · exact left.within (within_measured _)
  · exact left

variable [DecidableEq Key]

theorem within_get : Within time before (before.get time key).2 := by
  unfold get
  dsimp only
  split
  · exact ⟨T.get?_touch, fun _ => id⟩
  · split
    · split
      · exact ⟨T.get?_touch, fun _ mem => (OrderedDict.mem_erase.mp mem).1⟩
      · exact ⟨T.get?_touch, fun _ mem => OrderedDict.mem_moveToEnd.mp mem⟩
    · exact ⟨T.get?_touch, fun _ => id⟩

theorem within_exists_ : Within time before (before.exists_ time key).2 := by
  unfold exists_
  split
  · exact .refl
  · split
    · exact .refl
    · split
      · exact ⟨fun _ => id, fun _ mem => (OrderedDict.mem_erase.mp mem).1⟩
      · exact .refl

/-- Perform one operation. -/
def apply (cache : InMemoryCache T) (now : Time) : Operation Key Value Time → InMemoryCache T
  | .get key => (cache.get now key).2
  | .set key value ttl => (cache.set now key value ttl).2
  | .delete key => (cache.delete now key).2
  | .invalidateMatching keyPredicate => (cache.invalidateMatching now keyPredicate).2
  | .exists_ key => (cache.exists_ now key).2
  | .clear => cache.clear now

theorem evolves_setCustom {ttl : Time} (own : ttl ≠ defaultTtl) :
    Evolves time (.set key value (some ttl)) before (before.setCustom time key value ttl) := by
  have added : Evolves time (.set key value (some ttl)) before
      (({ before with customCache := (before.customCache.set key ⟨value, time + ttl⟩).moveToEnd key
          } : InMemoryCache T).dropDefault time key) := by
    refine ⟨fun le held => .inr ⟨(dropDefault_other le held).symm, ?_⟩, fun mem => ?_⟩
    · have kept := within_dropDefault.default le held
      exact kept
    rw [dropDefault_customCache, OrderedDict.mem_moveToEnd, OrderedDict.mem_set] at mem
    rcases mem with same | ⟨old, other⟩
    · obtain ⟨rfl, rfl⟩ := Prod.mk.inj same
      exact .inl ⟨ttl, rfl, own, rfl⟩
    · exact .inr ⟨Ne.symm other, old⟩
  refine added.within ?_
  unfold setCustom
  refine Within.trans ?_ (within_enforceMaxSize.trans (within_measured _))
  dsimp only
  split
  · exact ⟨fun _ => id, within_pruneCustomExpired.custom⟩
  · exact ⟨fun _ => id, fun _ => id⟩

theorem evolves_setDefault {ttl : Option Time} (default : ttl.getD defaultTtl = defaultTtl) :
    Evolves time (.set key value ttl) before (before.setDefault time key value).2 := by
  have cleaned {other : Key} {entry} (mem : (other, entry) ∈ (before.customCache.erase key).items) :
      ¬ (Operation.set key value ttl).replaces other ∧ (other, entry) ∈ before.customCache.items :=
    (OrderedDict.mem_erase.mp mem).symm.imp_left Ne.symm
  unfold setDefault
  dsimp only
  split
  next failed =>
    refine ⟨fun le held => ?_, fun mem => .inr (cleaned mem)⟩
    rw [get?_of_set_none failed] at held
    cases held
  next stored done =>
    have counted : Evolves time (.set key value ttl) before
        { before with
          cache := stored
          customCache := before.customCache.erase key
          stats := { before.stats with sets := before.stats.sets + 1 } } := by
      refine ⟨fun le held => ?_, fun mem => .inr (cleaned mem)⟩
      rcases T.get?_set done le held with ⟨rfl, rfl, fresh⟩ | ⟨other, old⟩
      · exact .inl ⟨ttl, rfl, default, fresh⟩
      · exact .inr ⟨Ne.symm other, old⟩
    have final := counted.within (within_enforceMaxSize.trans (within_measured time))
    split
    · exact ⟨final.default, final.custom⟩
    · exact final

theorem evolves_delete : Evolves time (.delete key) before (before.delete time key).2 := by
  have rest : Evolves time (.delete key) before
      { before.dropDefault time key with customCache := before.customCache.erase key } :=
    ⟨fun le held => .inr ⟨(dropDefault_other le held).symm, within_dropDefault.default le held⟩,
      fun mem => .inr ((OrderedDict.mem_erase.mp mem).symm.imp_left Ne.symm)⟩
  unfold delete
  dsimp only
  split
  · exact rest.within (within_measured _)
  · exact rest

/-- Every operation says where the contents of the two stores come from. -/
theorem evolves_apply (operation : Operation Key Value Time) :
    Evolves time operation before (before.apply time operation) := by
  cases operation with
  | get key => exact within_get.evolves fun _ => id
  | exists_ key => exact within_exists_.evolves fun _ => id
  | set key value ttl =>
      cases ttl with
      | none => exact evolves_setDefault rfl
      | some ttl =>
          by_cases own : ttl = defaultTtl
          · subst own
            simp only [apply, set, ne_eq, not_true, if_false]
            exact evolves_setDefault rfl
          · simp only [apply, set, if_pos own]
            exact evolves_setCustom own
  | delete key => exact evolves_delete
  | invalidateMatching keyPredicate => exact evolves_invalidateMatching
  | clear =>
      refine ⟨fun le held => ?_, fun mem => absurd mem List.not_mem_nil⟩
      rw [apply, clear, T.get?_clear le] at held
      cases held

/-! ## Runs -/

/-- The cache after a history. -/
def cacheAfter (T : TTLCache Key Value Time maxSize defaultTtl) : History Key Value Time →
    InMemoryCache T
  | [] => new T
  | (time, operation) :: earlier => (cacheAfter T earlier).apply time operation

/-- What both stores hold was put there by the last operation that replaced its key. -/
structure Consistent (history : History Key Value Time) (cache : InMemoryCache T) : Prop where
  default : ∀ {now key value}, (∀ event ∈ history, event.1 ≤ now) →
    T.get? cache.cache now key = some value →
    ∃ expires, LastSet defaultTtl history key value expires ∧ now < expires
  custom : ∀ {key entry}, (key, entry) ∈ cache.customCache.items →
    LastSet defaultTtl history key entry.value entry.expiresAt
  apart : ∀ {now key value entry}, (∀ event ∈ history, event.1 ≤ now) →
    T.get? cache.cache now key = some value → (key, entry) ∉ cache.customCache.items

theorem Consistent.apply {history : History Key Value Time} (consistent : Consistent history before)
    (operation : Operation Key Value Time) :
    Consistent ((time, operation) :: history) (before.apply time operation) := by
  have evolves : Evolves time operation before (before.apply time operation) :=
    evolves_apply operation
  refine ⟨fun since held => ?_, fun mem => ?_, fun since held mem => ?_⟩
  · obtain ⟨le, since⟩ := List.forall_mem_cons.mp since
    rcases evolves.default le held with ⟨ttl, rfl, default, fresh⟩ | ⟨kept, old⟩
    · exact ⟨_, .here, by rwa [default]⟩
    · obtain ⟨expires, last, fresh⟩ := consistent.default since old
      exact ⟨expires, .earlier kept last, fresh⟩
  · rcases evolves.custom mem with ⟨ttl, rfl, _, expires⟩ | ⟨kept, old⟩
    · rw [expires]
      exact (.here : LastSet defaultTtl ((time, .set _ _ (some ttl)) :: history) _ _ _)
    · exact .earlier kept (consistent.custom old)
  · obtain ⟨le, since⟩ := List.forall_mem_cons.mp since
    rcases evolves.default le held with ⟨ttl, rfl, default, _⟩ | ⟨kept, old⟩
    · rcases evolves.custom mem with ⟨other, same, own, _⟩ | ⟨kept, _⟩
      · cases same
        exact own default
      · exact kept rfl
    · rcases evolves.custom mem with ⟨_, rfl, _⟩ | ⟨_, there⟩
      · exact kept rfl
      · exact consistent.apart since old there

theorem consistent_after (history : History Key Value Time) :
    Consistent history (cacheAfter T history) := by
  induction history with
  | nil =>
      have empty {item} : item ∉ (cacheAfter T []).customCache.items := List.not_mem_nil
      refine ⟨fun _ held => ?_, fun mem => absurd mem empty, fun _ _ mem => absurd mem empty⟩
      rw [cacheAfter, new, T.get?_new] at held
      cases held
  | cons event earlier ih => exact ih.apply event.2

/-- A `get` returns what either store holds. -/
theorem held_of_get (found : (before.get now key).1 = some value) :
    T.get? before.cache now key = some value ∨
      ∃ entry, (key, entry) ∈ before.customCache.items ∧ entry.value = value ∧
        now < entry.expiresAt := by
  unfold get at found
  dsimp only at found
  split at found
  next held =>
    exact .inl (held.trans found)
  · split at found
    next entry custom =>
      split at found
      · cases found
      next fresh =>
        exact .inr ⟨entry, OrderedDict.get?_eq_some.mp custom, Option.some.inj found,
          not_le.mp fresh⟩
    · cases found

/-- After a `set` the two stores are small enough together, and the statistics know their size. -/
theorem stored_set {ttl : Option Time} (done : (before.set now key value ttl).1 = true) :
    (before.set now key value ttl).2.stored now ≤ maxSize ∧
      (before.set now key value ttl).2.stats.size =
        (before.set now key value ttl).2.stored now := by
  have custom (ttl : Time) : (before.setCustom now key value ttl).stored now ≤ maxSize ∧
      (before.setCustom now key value ttl).stats.size =
        (before.setCustom now key value ttl).stored now :=
    ⟨stored_enforceMaxSize _, rfl⟩
  have default (done : (before.setDefault now key value).1 = true) :
      (before.setDefault now key value).2.stored now ≤ maxSize ∧
        (before.setDefault now key value).2.stats.size =
          (before.setDefault now key value).2.stored now := by
    revert done
    unfold setDefault
    dsimp only
    split
    · exact fun failed => by cases failed
    · intro _
      split <;> exact ⟨stored_enforceMaxSize _, rfl⟩
  cases ttl with
  | none => exact default done
  | some ttl =>
      by_cases own : ttl = defaultTtl
      · rw [set, if_neg (not_not.mpr own)] at done ⊢
        exact default done
      · rw [set, if_pos own]
        exact custom ttl

/-- After any calls, at any time that is not before one of them: a `set` that returns leaves
at most `max_size` entries; no key is in both stores; a `get` returns the value of the last
operation that replaced the key, which is not older than its time to live; and `stats`
counts the stored entries. -/
theorem cache_stays_consistent (T : TTLCache Key Value Time maxSize defaultTtl)
    (history : History Key Value Time) (now : Time) (since : ∀ event ∈ history, event.1 ≤ now) :
    (∀ key value ttl, ((cacheAfter T history).set now key value ttl).1 = true →
      ((cacheAfter T history).set now key value ttl).2.stored now ≤ maxSize ∧
      ((cacheAfter T history).set now key value ttl).2.stats.size =
        ((cacheAfter T history).set now key value ttl).2.stored now) ∧
    (∀ key, (T.get? (cacheAfter T history).cache now key).isSome →
      (cacheAfter T history).customCache.contains key = false) ∧
    (∀ key value, ((cacheAfter T history).get now key).1 = some value →
      ∃ expires, LastSet defaultTtl history key value expires ∧ now < expires) ∧
    ((cacheAfter T history).measured now).stats.size = (cacheAfter T history).stored now := by
  have consistent : Consistent history (cacheAfter T history) := consistent_after history
  refine ⟨fun key value ttl => stored_set, fun key live => ?_, fun key value found => ?_, rfl⟩
  · obtain ⟨value, held⟩ := Option.isSome_iff_exists.mp live
    rw [← Bool.not_eq_true]
    intro both
    obtain ⟨entry, custom⟩ := Option.isSome_iff_exists.mp both
    exact consistent.apart since held (OrderedDict.get?_eq_some.mp custom)
  · rcases held_of_get found with held | ⟨entry, custom, rfl, fresh⟩
    · exact consistent.default since held
    · exact ⟨entry.expiresAt, consistent.custom custom, fresh⟩

/-- Two entries, one in each store. -/
theorem both_stores_answer :
    let cache := cacheAfter (dictTTLCache Bool Nat Nat 2 10)
      [(5, .set true 8 none), (3, .set false 7 (some 4)), (1, .set true 6 (some 4))]
    ((cache.get 6 true).1 = some 8 ∧ (cache.get 6 false).1 = some 7) ∧
      cache.customCache.contains true = false ∧ (cache.measured 6).stats.size = 2 := by
  obtain ⟨_, apart, _, counted⟩ := cache_stays_consistent (dictTTLCache Bool Nat Nat 2 10)
    [(5, .set true 8 none), (3, .set false 7 (some 4)), (1, .set true 6 (some 4))] 6 (by simp)
  exact ⟨⟨rfl, rfl⟩, apart true rfl, counted.trans rfl⟩

end InMemoryCache

end Cache
end DataGateway
