import DataGateway.Cache.TTLCache

/-!
# The in-memory cache

`InMemoryCache`: a `TTLCache` for values with the default time to live and an ordered dictionary for
all others.  No method waits, so each one is a function of the cache and the time.
-/

namespace DataGateway
namespace Cache

/-- `CacheStats`. -/
structure CacheStats where
  hits : Nat
  misses : Nat
  sets : Nat
  evictions : Nat
  size : Nat
  maxSize : Nat
  deriving DecidableEq, Repr

/-- `InMemoryCache.CUSTOM_PRUNE_SET_INTERVAL`. -/
def customPruneSetInterval : Nat := 64

variable {Key Value Time : Type} [LinearOrder Time] [Add Time] {maxSize : Nat} {defaultTtl : Time}

/-- `InMemoryCache`, for a size, a default time to live and a `TTLCache`. -/
structure InMemoryCache (T : TTLCache Key Value Time maxSize defaultTtl) where
  cache : T.State
  customCache : OrderedDict Key (CustomCacheEntry Value Time)
  customSetsSincePrune : Nat
  stats : CacheStats

namespace InMemoryCache

variable {T : TTLCache Key Value Time maxSize defaultTtl}

/-- `InMemoryCache(max_size, default_ttl)`. -/
def new (T : TTLCache Key Value Time maxSize defaultTtl) : InMemoryCache T :=
  ⟨T.new, .empty, 0, ⟨0, 0, 0, 0, 0, maxSize⟩⟩

/-- `len(self._cache) + len(self._custom_cache)`. -/
def stored (cache : InMemoryCache T) (now : Time) : Nat :=
  (T.keys cache.cache now).length + cache.customCache.size

/-- `self._stats.size = len(self._cache) + len(self._custom_cache)`. -/
def measured (cache : InMemoryCache T) (now : Time) : InMemoryCache T :=
  { cache with stats := { cache.stats with size := cache.stored now } }

/-- `_prune_custom_expired`. -/
def pruneCustomExpired (cache : InMemoryCache T) (now : Time) : InMemoryCache T :=
  { cache with customCache :=
    cache.customCache.filter fun _ entry => !decide (entry.expiresAt ≤ now) }

/-- The loop over `self._cache.popitem()`, which stops when the cache is empty; with the number of
evictions. -/
def popDefault (T : TTLCache Key Value Time maxSize defaultTtl) (now : Time) :
    Nat → T.State → Nat × T.State
  | 0, cache => (0, cache)
  | count + 1, cache =>
      if T.keys cache now = [] then (0, cache)
      else
        let (evicted, rest) := popDefault T now count (T.popitem cache now)
        (evicted + 1, rest)

/-- `_enforce_max_size`. -/
def enforceMaxSize (cache : InMemoryCache T) (now : Time) : InMemoryCache T :=
  let overflow := cache.stored now - maxSize
  let customEvictions := min overflow cache.customCache.size
  let (defaultEvictions, rest) := popDefault T now (overflow - customEvictions) cache.cache
  { cache with
    cache := rest
    customCache := OrderedDict.popFirst^[customEvictions] cache.customCache
    stats := { cache.stats with
      evictions := cache.stats.evictions + customEvictions + defaultEvictions } }

variable [DecidableEq Key]

/-- `get`. -/
def get (cache : InMemoryCache T) (now : Time) (key : Key) : Option Value × InMemoryCache T :=
  let hit := { cache.stats with hits := cache.stats.hits + 1 }
  let missed := { cache.stats with misses := cache.stats.misses + 1 }
  let touched := { cache with cache := T.touch cache.cache now key }
  match T.get? cache.cache now key with
  | some value => (some value, { touched with stats := hit })
  | none => match cache.customCache.get? key with
    | some entry =>
        if entry.expiresAt ≤ now then
          (none, { touched with customCache := cache.customCache.erase key, stats := missed })
        else (some entry.value,
          { touched with customCache := cache.customCache.moveToEnd key, stats := hit })
    | none => (none, { touched with stats := missed })

/-- `if key in self._cache: del self._cache[key]`. -/
def dropDefault (cache : InMemoryCache T) (now : Time) (key : Key) : InMemoryCache T :=
  if (T.get? cache.cache now key).isSome then { cache with cache := T.delete cache.cache now key }
  else cache

/-- `set` with a time to live of its own. -/
def setCustom (cache : InMemoryCache T) (now : Time) (key : Key) (value : Value) (ttl : Time) :
    InMemoryCache T :=
  let custom := (cache.customCache.set key ⟨value, now + ttl⟩).moveToEnd key
  let added := ({ cache with customCache := custom }).dropDefault now key
  let counted := { added with
    stats := { added.stats with sets := added.stats.sets + 1 }
    customSetsSincePrune := added.customSetsSincePrune + 1 }
  let pruned :=
    if customPruneSetInterval ≤ counted.customSetsSincePrune ∨
      maxSize < counted.customCache.size then
      { counted.pruneCustomExpired now with customSetsSincePrune := 0 }
    else counted
  (pruned.enforceMaxSize now).measured now

/-- `set` with the default time to live; false for a `ValueError`. -/
def setDefault (cache : InMemoryCache T) (now : Time) (key : Key) (value : Value) :
    Bool × InMemoryCache T :=
  let prevSize := (T.keys cache.cache now).length
  let cleaned := { cache with customCache := cache.customCache.erase key }
  match T.set cleaned.cache now key value with
  | none => (false, cleaned)
  | some after =>
      let counted := { cleaned with
        cache := after, stats := { cleaned.stats with sets := cleaned.stats.sets + 1 } }
      let final := (counted.enforceMaxSize now).measured now
      (true, if (T.keys final.cache now).length ≤ prevSize ∧ maxSize ≤ prevSize then
        { final with stats := { final.stats with evictions := final.stats.evictions + 1 } }
      else final)

/-- `set`; false for a `ValueError`. -/
def set (cache : InMemoryCache T) (now : Time) (key : Key) (value : Value) :
    Option Time → Bool × InMemoryCache T
  | some ttl =>
      if ttl ≠ defaultTtl then (true, cache.setCustom now key value ttl)
      else cache.setDefault now key value
  | none => cache.setDefault now key value

/-- `delete`. -/
def delete (cache : InMemoryCache T) (now : Time) (key : Key) : Bool × InMemoryCache T :=
  let deleted := (T.get? cache.cache now key).isSome || cache.customCache.contains key
  let rest := { cache.dropDefault now key with customCache := cache.customCache.erase key }
  (deleted, if deleted then rest.measured now else rest)

/-- `clear`. -/
def clear (cache : InMemoryCache T) (now : Time) : InMemoryCache T :=
  ⟨T.clear cache.cache now, .empty, 0, { cache.stats with size := 0 }⟩

/-- `invalidate_matching`, with the number of entries removed. -/
def invalidateMatching (cache : InMemoryCache T) (now : Time) (keyPredicate : Key → Bool) :
    Nat × InMemoryCache T :=
  let matching := (T.keys cache.cache now).filter keyPredicate
  let rest := cache.customCache.filter fun key _ => !keyPredicate key
  let removed := matching.length + (cache.customCache.size - rest.size)
  let left := { cache with
    cache := matching.foldl (fun cache key => T.delete cache now key) cache.cache
    customCache := rest }
  (removed, if removed ≠ 0 then left.measured now else left)

/-- `exists`. -/
def exists_ (cache : InMemoryCache T) (now : Time) (key : Key) : Bool × InMemoryCache T :=
  if (T.get? cache.cache now key).isSome then (true, cache)
  else match cache.customCache.get? key with
    | none => (false, cache)
    | some entry =>
        if entry.expiresAt ≤ now then
          (false, { cache with customCache := cache.customCache.erase key })
        else (true, cache)

end InMemoryCache

end Cache
end DataGateway
