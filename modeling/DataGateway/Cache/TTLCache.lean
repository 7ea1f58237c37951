import DataGateway.Python.OrderedDict
import Mathlib.Order.Lattice

/-!
# Caches that forget

The `TTLCache` comes from a package.  What the gateway counts on is written down in `TTLCache`, over
one clock; a dictionary whose entries expire keeps to it.
-/

namespace DataGateway
namespace Cache

/-- `TTLCache(maxsize, ttl)`: its operations at a time, and that it honours its size and its time to
live as time goes on. -/
structure TTLCache (Key Value Time : Type) [LinearOrder Time] [Add Time] (maxsize : Nat)
    (ttl : Time) where
  State : Type
  new : State
  /-- `cache[key]`, or `None` for a `KeyError`. -/
  get? : State → Time → Key → Option Value
  /-- What `cache[key]` does to the order in which entries are evicted. -/
  touch : State → Time → Key → State
  /-- `cache.keys()`. -/
  keys : State → Time → List Key
  /-- `cache[key] = value`, or `None` for a `ValueError`. -/
  set : State → Time → Key → Value → Option State
  /-- `del cache[key]` for a key in the cache. -/
  delete : State → Time → Key → State
  /-- `popitem()` on a cache that is not empty. -/
  popitem : State → Time → State
  clear : State → Time → State
  nodup_keys : ∀ cache now, (keys cache now).Nodup
  mem_keys : ∀ {cache now key}, key ∈ keys cache now ↔ (get? cache now key).isSome
  get?_new : ∀ now key, get? new now key = none
  /-- Time only takes entries away. -/
  get?_later : ∀ {cache now later key value}, now ≤ later →
    get? cache later key = some value → get? cache now key = some value
  get?_touch : ∀ {cache time key now other found}, time ≤ now →
    get? (touch cache time key) now other = some found → get? cache now other = some found
  set_isSome : ∀ cache now key value, (set cache now key value).isSome ↔ 0 < maxsize
  length_keys : ∀ cache now, (keys cache now).length ≤ maxsize
  get?_set : ∀ {cache time key value after now other found}, set cache time key value = some after →
    time ≤ now → get? after now other = some found →
    other = key ∧ found = value ∧ now < time + ttl ∨
    other ≠ key ∧ get? cache now other = some found
  get?_delete : ∀ {cache time key now other found}, time ≤ now →
    get? (delete cache time key) now other = some found →
    other ≠ key ∧ get? cache now other = some found
  get?_popitem : ∀ {cache time now key value}, time ≤ now →
    get? (popitem cache time) now key = some value → get? cache now key = some value
  length_popitem : ∀ cache now, (keys (popitem cache now) now).length = (keys cache now).length - 1
  get?_clear : ∀ {cache time now key}, time ≤ now → get? (clear cache time) now key = none

/-- `_CustomCacheEntry`. -/
structure CustomCacheEntry (Value Time : Type) where
  value : Value
  expiresAt : Time
  deriving DecidableEq, Repr

/-! ## A dictionary that forgets -/

variable {Key Value Time : Type} [LinearOrder Time]

/-- The entries of a dictionary that are still live. -/
def live (dict : OrderedDict Key (CustomCacheEntry Value Time)) (now : Time) :
    OrderedDict Key (CustomCacheEntry Value Time) :=
  dict.filter fun _ entry => decide (now < entry.expiresAt)

theorem mem_live {dict : OrderedDict Key (CustomCacheEntry Value Time)} {now : Time}
    {item : Key × CustomCacheEntry Value Time} :
    item ∈ (live dict now).items ↔ item ∈ dict.items ∧ now < item.2.expiresAt := by
  simp [live]

/-- `live` does not add entries. -/
theorem size_live_le (dict : OrderedDict Key (CustomCacheEntry Value Time)) (now : Time) :
    (live dict now).size ≤ dict.size :=
  OrderedDict.size_filter_le _ _

variable [DecidableEq Key]

/-- The value of a live entry. -/
def liveValue (dict : OrderedDict Key (CustomCacheEntry Value Time)) (now : Time) (key : Key) :
    Option Value :=
  ((live dict now).get? key).map (·.value)

theorem liveValue_eq_some {dict : OrderedDict Key (CustomCacheEntry Value Time)} {now : Time}
    {key : Key} {value : Value} :
    liveValue dict now key = some value ↔
      ∃ expires, (key, ⟨value, expires⟩) ∈ dict.items ∧ now < expires := by
  rw [liveValue, Option.map_eq_some_iff]
  constructor
  · rintro ⟨entry, found, rfl⟩
    obtain ⟨mem, fresh⟩ := mem_live.mp (OrderedDict.get?_eq_some.mp found)
    exact ⟨entry.expiresAt, mem, fresh⟩
  · rintro ⟨expires, mem, fresh⟩
    exact ⟨⟨value, expires⟩, OrderedDict.get?_eq_some.mpr (mem_live.mpr ⟨mem, fresh⟩), rfl⟩

/-- Entries that were there before have their value. -/
theorem liveValue_of_subset {before after : OrderedDict Key (CustomCacheEntry Value Time)}
    {now : Time} {key : Key} {value : Value} (subset : ∀ item ∈ after.items, item ∈ before.items)
    (found : liveValue after now key = some value) : liveValue before now key = some value := by
  obtain ⟨expires, mem, fresh⟩ := liveValue_eq_some.mp found
  exact liveValue_eq_some.mpr ⟨expires, subset _ mem, fresh⟩

/-- The entries that stay when `key` is set: of a full cache the least recently used one goes. -/
def makeRoom (maxsize : Nat) (dict : OrderedDict Key (CustomCacheEntry Value Time)) (now : Time)
    (key : Key) : OrderedDict Key (CustomCacheEntry Value Time) :=
  let others := (live dict now).erase key
  if others.size < maxsize then others else others.popFirst

theorem size_makeRoom {maxsize : Nat} {dict : OrderedDict Key (CustomCacheEntry Value Time)}
    {now : Time} {key : Key} (room : 0 < maxsize) (small : dict.size ≤ maxsize) :
    (makeRoom maxsize dict now key).size < maxsize := by
  have erased : ((live dict now).erase key).size ≤ (live dict now).size :=
    OrderedDict.size_filter_le _ _
  have most := size_live_le dict now
  unfold makeRoom
  dsimp only
  split
  next enough => exact enough
  · rw [OrderedDict.size_popFirst]
    omega

theorem mem_makeRoom {maxsize : Nat} {dict : OrderedDict Key (CustomCacheEntry Value Time)}
    {now : Time} {key : Key} {item : Key × CustomCacheEntry Value Time}
    (mem : item ∈ (makeRoom maxsize dict now key).items) : item ∈ dict.items := by
  have others : item ∈ ((live dict now).erase key).items := by
    unfold makeRoom at mem
    dsimp only at mem
    split at mem
    · exact mem
    · exact OrderedDict.mem_of_mem_popFirst mem
  exact (mem_live.mp (OrderedDict.mem_erase.mp others).1).1

/-- A `TTLCache` as the package makes it: a dictionary of values that expire, which gives up the
least recently used one when it is full. -/
def dictTTLCache (Key Value Time : Type) [LinearOrder Time] [Add Time] [DecidableEq Key]
    (maxsize : Nat) (ttl : Time) : TTLCache Key Value Time maxsize ttl where
  State := { dict : OrderedDict Key (CustomCacheEntry Value Time) // dict.size ≤ maxsize }
  new := ⟨.empty, Nat.zero_le _⟩
  get? cache now key := liveValue cache.val now key
  touch cache _ key :=
    ⟨cache.val.moveToEnd key, Nat.le_trans (Nat.le_of_eq (OrderedDict.size_moveToEnd _ _)) cache.2⟩
  keys cache now := (live cache.val now).items.map Prod.fst
  set cache now key value :=
    if room : 0 < maxsize then
      some ⟨(makeRoom maxsize cache.val now key).set key ⟨value, now + ttl⟩,
        Nat.le_trans (OrderedDict.size_set_le _ _ _) (size_makeRoom room cache.2)⟩
    else none
  delete cache _ key :=
    ⟨cache.val.erase key, Nat.le_trans (OrderedDict.size_filter_le _ _) cache.2⟩
  popitem cache now := ⟨(live cache.val now).popFirst, by
    have most := size_live_le cache.val now
    have small := cache.2
    rw [OrderedDict.size_popFirst]
    omega⟩
  clear _ _ := ⟨.empty, Nat.zero_le _⟩
  nodup_keys cache now := (live cache.val now).nodup
  mem_keys {cache now key} := by
    rw [Option.isSome_iff_exists]
    simp only [liveValue_eq_some, List.mem_map, mem_live]
    constructor
    · rintro ⟨⟨_, entry⟩, ⟨mem, fresh⟩, rfl⟩
      exact ⟨entry.value, entry.expiresAt, mem, fresh⟩
    · rintro ⟨value, expires, mem, fresh⟩
      exact ⟨_, ⟨mem, fresh⟩, rfl⟩
  get?_new _ _ := rfl
  get?_later {cache now later key value} le found := by
    obtain ⟨expires, mem, fresh⟩ := liveValue_eq_some.mp found
    exact liveValue_eq_some.mpr ⟨expires, mem, lt_of_le_of_lt le fresh⟩
  get?_touch {cache time key now other found} _ held :=
    liveValue_of_subset (fun _ => OrderedDict.mem_moveToEnd.mp) held
  set_isSome cache now key value := by
    split <;> simp_all
  length_keys cache now := by
    rw [List.length_map]
    exact Nat.le_trans (size_live_le cache.val now) cache.2
  get?_set {cache time key value now other found after} done le held := by
    split at done
    · cases done
      obtain ⟨expires, mem, fresh⟩ := liveValue_eq_some.mp held
      rcases OrderedDict.mem_set.mp mem with same | ⟨old, apart⟩
      · cases same
        exact .inl ⟨rfl, rfl, fresh⟩
      · exact .inr ⟨apart, liveValue_eq_some.mpr ⟨expires, mem_makeRoom old, fresh⟩⟩
    · cases done
  get?_delete {cache time key now other found} _ held := by
    obtain ⟨expires, mem, fresh⟩ := liveValue_eq_some.mp held
    obtain ⟨old, apart⟩ := OrderedDict.mem_erase.mp mem
    exact ⟨apart, liveValue_eq_some.mpr ⟨expires, old, fresh⟩⟩
  get?_popitem {cache time now key value} _ held :=
    liveValue_of_subset
      (fun _ mem => (mem_live.mp (OrderedDict.mem_of_mem_popFirst mem)).1) held
  length_popitem cache now := by
    have all : live (live cache.val now).popFirst now = (live cache.val now).popFirst := by
      have items : (live (live cache.val now).popFirst now).items =
          (live cache.val now).popFirst.items := by
        refine List.filter_eq_self.mpr fun item mem => ?_
        exact decide_eq_true (mem_live.mp (OrderedDict.mem_of_mem_popFirst mem)).2
      revert items
      cases live (live cache.val now).popFirst now
      cases (live cache.val now).popFirst
      rintro rfl
      rfl
    rw [List.length_map, List.length_map, all]
    exact OrderedDict.size_popFirst _
  get?_clear _ := rfl

end Cache
end DataGateway
