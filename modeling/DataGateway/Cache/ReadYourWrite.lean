import DataGateway.Cache.Consistency

/-!
# Reading what was just set

A value with the default time to live is there after its `set`.  A value with a time to live of its
own is the first to go when the default store is full.
-/

namespace DataGateway

namespace Cache

/-- The package keeps an entry that was just inserted until it expires. -/
def TTLCache.KeepsInserted {Key Value Time : Type} [LinearOrder Time] [Add Time] {maxsize : Nat}
    {ttl : Time} (T : TTLCache Key Value Time maxsize ttl) : Prop :=
  ∀ {cache time key value after now}, T.set cache time key value = some after → time ≤ now →
    now < time + ttl → T.get? after now key = some value

variable {Key Value Time : Type} [LinearOrder Time] [Add Time] [DecidableEq Key] {maxSize : Nat}
  {defaultTtl : Time}

theorem keepsInserted_dictTTLCache :
    (dictTTLCache Key Value Time maxSize defaultTtl).KeepsInserted := by
  intro cache time key value after now done le fresh
  simp only [dictTTLCache] at done ⊢
  split at done
  · obtain rfl := Option.some.inj done
    exact liveValue_eq_some.mpr ⟨_, OrderedDict.mem_set.mpr (.inl rfl), fresh⟩
  · cases done

namespace InMemoryCache

variable {T : TTLCache Key Value Time maxSize defaultTtl} {cache : InMemoryCache T}
variable {now later : Time} {key : Key} {value : Value}

omit [DecidableEq Key] in
/-- The custom store pays first, and it can pay for everything: the default
store gives up nothing. -/
theorem cache_enforceMaxSize : (cache.enforceMaxSize now).cache = cache.cache := by
  have most := T.length_keys cache.cache now
  have none_ :
      cache.stored now - maxSize - min (cache.stored now - maxSize) cache.customCache.size = 0 := by
    unfold stored
    omega
  unfold enforceMaxSize
  dsimp only
  rw [none_]
  rfl

/-- A value with the default time to live is read back. -/
theorem get_after_setDefault (keeps : T.KeepsInserted) (room : 1 ≤ maxSize) (le : now ≤ later)
    (fresh : later < now + defaultTtl) :
    (((cache.setDefault now key value).2.get later key).1) = some value := by
  obtain ⟨after, done⟩ :=
    Option.isSome_iff_exists.mp ((T.set_isSome cache.cache now key value).mpr room)
  have held := keeps done le fresh
  have kept : (cache.setDefault now key value).2.cache = after := by
    unfold setDefault
    dsimp only
    rw [done]
    dsimp only
    split <;> exact cache_enforceMaxSize
  unfold get
  rw [kept, held]

/-- The custom store between the insertion and the eviction: the new entry comes last. -/
theorem items_before_eviction (cache : InMemoryCache T) (key : Key) (value : Value) {ttl : Time}
    (fresh : now < now + ttl) (prune : Bool) :
    ∃ front, (if prune then
        ((cache.customCache.set key ⟨value, now + ttl⟩).moveToEnd key).filter
          fun _ entry => !decide (entry.expiresAt ≤ now)
      else (cache.customCache.set key ⟨value, now + ttl⟩).moveToEnd key).items =
      front ++ [(key, ⟨value, now + ttl⟩)] := by
  have held : (cache.customCache.set key ⟨value, now + ttl⟩).get? key =
      some ⟨value, now + ttl⟩ := by
    rw [OrderedDict.get?_set, if_pos rfl]
  have last := OrderedDict.items_moveToEnd held
  cases prune with
  | false => exact ⟨_, last⟩
  | true =>
      simp only [if_true, OrderedDict.filter, last, List.filter_append]
      exact ⟨_, congrArg _ (by simpa using fresh)⟩

/-- An eviction that meets the key at the end of the custom store drops it only when the default
store takes the whole space. -/
theorem get_after_eviction (front : List (Key × CustomCacheEntry Value Time))
    (entry : CustomCacheEntry Value Time)
    (items : cache.customCache.items = front ++ [(key, entry)])
    (dropped : T.get? cache.cache later key = none) (fresh : later < entry.expiresAt) :
    (((cache.enforceMaxSize now).measured now).get later key).1 =
      if (T.keys cache.cache now).length < maxSize then some entry.value else none := by
  have size : cache.customCache.size = front.length + 1 := by
    rw [OrderedDict.size, items, List.length_append, List.length_singleton]
  have left : ((cache.enforceMaxSize now).measured now).customCache.items =
      (front ++ [(key, entry)]).drop (min (cache.stored now - maxSize) (front.length + 1)) := by
    rw [← items, ← size, ← OrderedDict.items_iterate_popFirst]
    rfl
  have absent : T.get? ((cache.enforceMaxSize now).measured now).cache later key = none :=
    (congrArg (T.get? · later key) cache_enforceMaxSize).trans dropped
  have stored_ : cache.stored now = (T.keys cache.cache now).length + (front.length + 1) := by
    rw [stored, size]
  split
  next room =>
    have held : ((cache.enforceMaxSize now).measured now).customCache.get? key = some entry := by
      rw [OrderedDict.get?_eq_some, left, List.drop_append_of_le_length (by omega)]
      exact List.mem_append_right _ (.head _)
    unfold get
    rw [absent, held]
    simp [not_le.mpr fresh]
  next full =>
    have gone : ((cache.enforceMaxSize now).measured now).customCache.get? key = none := by
      refine OrderedDict.get?_eq_none.mpr fun value => ?_
      rw [left, List.drop_of_length_le (by simp; omega)]
      exact List.not_mem_nil
    unfold get
    rw [absent, gone]

/-- A value with a time to live of its own is read back unless the other values of the default
store fill the cache. -/
theorem get_after_setCustom (cache : InMemoryCache T) (key : Key) (value : Value) {ttl : Time}
    (le : now ≤ later) (fresh : later < now + ttl) :
    ((cache.setCustom now key value ttl).get later key).1 =
      if (T.keys (cache.dropDefault now key).cache now).length < maxSize then some value
        else none := by
  have drops : (({ cache with customCache :=
      (cache.customCache.set key ⟨value, now + ttl⟩).moveToEnd key }).dropDefault now key).cache =
        (cache.dropDefault now key).cache := by
    unfold dropDefault
    split <;> rfl
  have dropped : T.get? (cache.dropDefault now key).cache later key = none := by
    by_contra some_
    obtain ⟨found, held⟩ := Option.ne_none_iff_exists'.mp some_
    exact dropDefault_other le held rfl
  rw [← drops] at dropped ⊢
  unfold setCustom
  dsimp only
  split
  · obtain ⟨front, items⟩ := items_before_eviction cache key value (lt_of_le_of_lt le fresh) true
    refine get_after_eviction front ⟨value, now + ttl⟩ ?_ dropped fresh
    simpa [pruneCustomExpired] using items
  · obtain ⟨front, items⟩ := items_before_eviction cache key value (lt_of_le_of_lt le fresh) false
    refine get_after_eviction front ⟨value, now + ttl⟩ ?_ dropped fresh
    simpa using items

/-- A `get` that comes before the expiry returns what was just set if and only if the time to live
is the default one or the other values of the default store do not fill the cache. -/
theorem get_after_set_iff (T : TTLCache Key Value Time maxSize defaultTtl) (keeps : T.KeepsInserted)
    (room : 1 ≤ maxSize) (cache : InMemoryCache T) (now later : Time) (key : Key) (value : Value)
    (ttl : Option Time) (le : now ≤ later) (fresh : later < now + ttl.getD defaultTtl) :
    ((cache.set now key value ttl).2.get later key).1 = some value ↔
      ttl.getD defaultTtl = defaultTtl ∨
        (T.keys (cache.dropDefault now key).cache now).length < maxSize := by
  cases ttl with
  | none => simp [set, get_after_setDefault keeps room le fresh]
  | some ttl =>
      by_cases own : ttl = defaultTtl
      · subst own
        simp [set, get_after_setDefault keeps room le fresh]
      · have read := get_after_setCustom cache key value le fresh
        simp only [set, Option.getD_some, own, false_or, ne_eq, not_false_eq_true,
          if_true] at read ⊢
        rw [read]
        split <;> simp_all

/-- A value in a cache with room for it. -/
theorem custom_value_is_read_back :
    let cache := cacheAfter (dictTTLCache Bool Nat Nat 2 10) [(1, .set false 8 none)]
    ((cache.set 2 true 7 (some 4)).2.get 2 true).1 = some 7 :=
  (get_after_set_iff (dictTTLCache Bool Nat Nat 2 10) keepsInserted_dictTTLCache (by decide)
    (cacheAfter (dictTTLCache Bool Nat Nat 2 10) [(1, .set false 8 none)]) 2 2 true 7 (some 4)
    (by decide) (by decide)).mpr (.inr (by decide))

/-- A value in a cache that another one fills: it is evicted by its own `set`. -/
theorem custom_value_is_evicted_at_once :
    let cache := cacheAfter (dictTTLCache Bool Nat Nat 1 10) [(1, .set false 8 none)]
    ((cache.set 2 true 7 (some 4)).2.get 2 true).1 ≠ some 7 := by
  decide

end InMemoryCache

end Cache
end DataGateway
