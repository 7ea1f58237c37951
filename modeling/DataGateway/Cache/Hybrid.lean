import DataGateway.Cache.Consistency
import Mathlib.Algebra.Ring.Nat

/-!
# Two tiers

`HybridCache`: an `InMemoryCache` in front of Redis.  An answer from Redis is copied to the
memory with the default time to live, whatever is left of its own.  Values are JSON data, so
their text gives them back.
-/

namespace DataGateway
namespace Cache

variable {Key Value Time : Type} [LinearOrder Time] [Add Time] [Zero Time] [DecidableEq Key]
  {maxSize : Nat} {defaultTtl : Time}

/-- What becomes of a command to Redis. -/
inductive RedisReply
  /-- It is performed. -/
  | done
  /-- It raises and does nothing. -/
  | failed
  /-- It is performed, and its answer is lost. -/
  | lost
  deriving DecidableEq, Repr

/-- The keys of `RedisCache` with their values and the times at which they expire; `none` is JSON's
`null`. -/
structure RedisCache (Key Value Time : Type) where
  entries : Key → Option (Option Value × Time)

namespace RedisCache

/-- `get`; an exception is a miss. -/
def get (redis : RedisCache Key Value Time) (now : Time) (key : Key) (reply : RedisReply) :
    Option Value :=
  match reply, redis.entries key with
  | .done, some (value, expiresAt) => if now < expiresAt then value else none
  | _, _ => none

/-- `SETEX`, which refuses a time to live that is not positive. -/
def setex (redis : RedisCache Key Value Time) (now : Time) (key : Key) (ttl : Time)
    (value : Option Value) : RedisCache Key Value Time :=
  if 0 < ttl then ⟨Function.update redis.entries key (some (value, now + ttl))⟩ else redis

/-- `ttl or self.default_ttl`. -/
def effectiveTtl (defaultTtl : Time) (ttl : Option Time) : Time :=
  match ttl with
  | some ttl => if ttl = 0 then defaultTtl else ttl
  | none => defaultTtl

/-- `set`. -/
def set (redis : RedisCache Key Value Time) (now : Time) (key : Key) (value : Option Value)
    (defaultTtl : Time) (ttl : Option Time) (reply : RedisReply) : RedisCache Key Value Time :=
  match reply with
  | .failed => redis
  | _ => redis.setex now key (effectiveTtl defaultTtl ttl) value

/-- `delete`. -/
def delete (redis : RedisCache Key Value Time) (now : Time) (key : Key) (reply : RedisReply) :
    Bool × RedisCache Key Value Time :=
  let there := match redis.entries key with
    | some (_, expiresAt) => decide (now < expiresAt)
    | none => false
  match reply with
  | .failed => (false, redis)
  | .done => (there, ⟨Function.update redis.entries key none⟩)
  | .lost => (false, ⟨Function.update redis.entries key none⟩)

end RedisCache

/-- `HybridCache`. -/
structure HybridCache (T : TTLCache Key (Option Value) Time maxSize defaultTtl) where
  l1 : InMemoryCache T
  l2 : RedisCache Key Value Time

namespace HybridCache

variable {T : TTLCache Key (Option Value) Time maxSize defaultTtl}

/-- `HybridCache(...)` with an empty Redis. -/
def new (T : TTLCache Key (Option Value) Time maxSize defaultTtl) : HybridCache T :=
  ⟨.new T, ⟨fun _ => none⟩⟩

/-- The part of `get` that asks Redis and copies its answer to the memory; `none` is a `ValueError`
of the memory, which has no place for a value. -/
def getFromRedis (cache : HybridCache T) (now : Time) (key : Key) (reply : RedisReply) :
    Option (Option Value) × HybridCache T :=
  match cache.l2.get now key reply with
  | some value =>
      let (stored, l1) := cache.l1.set now key (some value) none
      (if stored then some (some value) else none, { cache with l1 })
  | none => (some none, cache)

/-- `get`. -/
def get (cache : HybridCache T) (now : Time) (key : Key) (reply : RedisReply) :
    Option (Option Value) × HybridCache T :=
  match cache.l1.get now key with
  | (some (some value), l1) => (some (some value), { cache with l1 })
  | (_, l1) => getFromRedis { cache with l1 } now key reply

/-- `set`; false is a `ValueError` of the memory. -/
def set (cache : HybridCache T) (now : Time) (key : Key) (value : Option Value) (ttl : Option Time)
    (reply : RedisReply) : Bool × HybridCache T :=
  match cache.l1.set now key value ttl with
  | (true, l1) => (true, ⟨l1, cache.l2.set now key value defaultTtl ttl reply⟩)
  | (false, l1) => (false, { cache with l1 })

/-- `delete`. -/
def delete (cache : HybridCache T) (now : Time) (key : Key) (reply : RedisReply) :
    Bool × HybridCache T :=
  let (l1Deleted, l1) := cache.l1.delete now key
  let (l2Deleted, l2) := cache.l2.delete now key reply
  (l1Deleted || l2Deleted, ⟨l1, l2⟩)

/-! ## Runs -/

/-- A call of the cache, with what becomes of its command to Redis. -/
inductive Call (Key Value Time : Type)
  | get (key : Key) (reply : RedisReply)
  | set (key : Key) (value : Option Value) (ttl : Option Time) (reply : RedisReply)
  | delete (key : Key) (reply : RedisReply)

/-- Calls with their times, the newest first. -/
abbrev Calls (Key Value Time : Type) := List (Time × Call Key Value Time)

/-- Perform one call. -/
def apply (cache : HybridCache T) (now : Time) : Call Key Value Time → HybridCache T
  | .get key reply => (cache.get now key reply).2
  | .set key value ttl reply => (cache.set now key value ttl reply).2
  | .delete key reply => (cache.delete now key reply).2

/-- The cache after some calls. -/
def after (T : TTLCache Key (Option Value) Time maxSize defaultTtl) :
    Calls Key Value Time → HybridCache T
  | [] => new T
  | (time, call) :: earlier => (after T earlier).apply time call

/-- A call set this value of the key to expire at this time. -/
def StoredBy (defaultTtl : Time) (calls : Calls Key Value Time) (key : Key) (value : Value)
    (expires : Time) : Prop :=
  ∃ time ttl reply, (time, Call.set key (some value) ttl reply) ∈ calls ∧
    expires = time + ttl.getD defaultTtl

/-- What either tier holds was set for at least as long. -/
structure Aged (calls : Calls Key Value Time) (cache : HybridCache T) : Prop where
  default : ∀ {now key value}, (∀ call ∈ calls, call.1 ≤ now) →
    T.get? cache.l1.cache now key = some (some value) →
    ∃ expires, StoredBy defaultTtl calls key value expires ∧ now < expires
  custom : ∀ {key value expiresAt}, (key, ⟨some value, expiresAt⟩) ∈
    cache.l1.customCache.items →
    ∃ expires, StoredBy defaultTtl calls key value expires ∧ expiresAt ≤ expires
  redis : ∀ {key value expires}, cache.l2.entries key = some (some value, expires) →
    StoredBy defaultTtl calls key value expires

/-- The call gives no value more time than it has: a time to live is not zero, and what is copied
from Redis still has the default time to live before it. -/
def Call.honours (cache : HybridCache T) (now : Time) : Call Key Value Time → Prop
  | .get key _ => (cache.l1.get now key).1.join = none →
      ∀ value expires, cache.l2.entries key = some (some value, expires) → now < expires →
        now + defaultTtl ≤ expires
  | .set _ _ ttl _ => ttl ≠ some 0
  | .delete _ _ => True

/-- Every call of the run gave no value more time than it had. -/
def Honoured (T : TTLCache Key (Option Value) Time maxSize defaultTtl) : Calls Key Value Time → Prop
  | [] => True
  | (time, call) :: earlier => Honoured T earlier ∧ call.honours (after T earlier) time

variable {calls : Calls Key Value Time} {cache : HybridCache T} {time now : Time} {key : Key}
  {value : Value} {expires : Time} {call : Call Key Value Time}

omit [LinearOrder Time] [Zero Time] [DecidableEq Key] in
theorem StoredBy.earlier (stored : StoredBy defaultTtl calls key value expires) :
    StoredBy defaultTtl ((time, call) :: calls) key value expires := by
  obtain ⟨time, ttl, reply, mem, same⟩ := stored
  exact ⟨time, ttl, reply, .tail _ mem, same⟩

omit [Zero Time] [DecidableEq Key] in
/-- A memory that evolves by an operation stays as old when what the operation sets does. -/
theorem Aged.evolves {operation : Operation Key (Option Value) Time} {l1 : InMemoryCache T}
    {l2 : RedisCache Key Value Time} (aged : Aged calls cache)
    (evolves : InMemoryCache.Evolves time operation cache.l1 l1)
    (sets : ∀ key value ttl, operation = .set key (some value) ttl →
      ∃ expires, StoredBy defaultTtl ((time, call) :: calls) key value expires ∧
        time + ttl.getD defaultTtl ≤ expires)
    (redis : ∀ key value expires, l2.entries key = some (some value, expires) →
      StoredBy defaultTtl ((time, call) :: calls) key value expires) :
    Aged ((time, call) :: calls) (⟨l1, l2⟩ : HybridCache T) := by
  refine ⟨fun since held => ?_, fun mem => ?_, fun held => redis _ _ _ held⟩
  · obtain ⟨le, since⟩ := List.forall_mem_cons.mp since
    rcases evolves.default le held with ⟨ttl, same, own, fresh⟩ | ⟨-, old⟩
    · obtain ⟨expires, stored, upTo⟩ := sets _ _ ttl same
      exact ⟨expires, stored, fresh.trans_le (own ▸ upTo)⟩
    · obtain ⟨expires, stored, fresh⟩ := aged.default since old
      exact ⟨expires, stored.earlier, fresh⟩
  · rcases evolves.custom mem with ⟨ttl, same, -, expiresAt⟩ | ⟨-, old⟩
    · obtain ⟨expires, stored, upTo⟩ := sets _ _ (some ttl) same
      exact ⟨expires, stored, expiresAt.trans_le upTo⟩
    · obtain ⟨expires, stored, upTo⟩ := aged.custom old
      exact ⟨expires, stored.earlier, upTo⟩

omit [Zero Time] [DecidableEq Key] in
/-- An operation on a memory that holds no more than the one before. -/
theorem evolves_of_within {before middle after : InMemoryCache T}
    {operation : Operation Key (Option Value) Time}
    (within : InMemoryCache.Within time before middle)
    (evolves : InMemoryCache.Evolves time operation middle after) :
    InMemoryCache.Evolves time operation before after :=
  ⟨fun le held => (evolves.default le held).imp_right (And.imp_right (within.default le)),
    fun mem => (evolves.custom mem).imp_right (And.imp_right (within.custom _))⟩

omit [Add Time] [Zero Time] [DecidableEq Key] in
/-- Redis answers with a value that has not expired. -/
theorem redis_get {redis : RedisCache Key Value Time} {reply : RedisReply}
    (found : redis.get now key reply = some value) :
    ∃ expires, redis.entries key = some (some value, expires) ∧ now < expires := by
  unfold RedisCache.get at found
  split at found
  next held =>
    split at found
    next fresh =>
      subst found
      exact ⟨_, held, fresh⟩
    · cases found
  · cases found

/-- A get copies nothing that may become too old. -/
theorem Aged.get (aged : Aged calls cache) {reply : RedisReply}
    (honours : Call.honours cache time (.get key reply)) :
    Aged ((time, .get key reply) :: calls) (cache.get time key reply).2 := by
  have looked : InMemoryCache.Within time cache.l1 (cache.l1.get time key).2 :=
    InMemoryCache.within_get
  have quiet : InMemoryCache.Evolves time (.get key) cache.l1 (cache.l1.get time key).2 :=
    looked.evolves fun _ => id
  have missed : Aged ((time, .get key reply) :: calls)
      (⟨(cache.l1.get time key).2, cache.l2⟩ : HybridCache T) :=
    aged.evolves quiet (fun _ _ _ same => by cases same) fun _ _ _ held => (aged.redis held).earlier
  have asked (miss : (cache.l1.get time key).1.join = none) : Aged ((time, .get key reply) :: calls)
      (getFromRedis { cache with l1 := (cache.l1.get time key).2 } time key reply).2 := by
    unfold getFromRedis
    dsimp only
    split
    next value found =>
      obtain ⟨expires, held, fresh⟩ := redis_get found
      refine aged.evolves (evolves_of_within looked
        (InMemoryCache.evolves_apply (.set key (some value) none))) (fun _ _ _ same => ?_)
        fun _ _ _ held => (aged.redis held).earlier
      cases same
      exact ⟨expires, (aged.redis held).earlier, honours miss value expires held fresh⟩
    · exact missed
  unfold HybridCache.get
  rcases look : cache.l1.get time key with ⟨found, l1⟩
  rw [look] at missed asked
  rcases found with - | - | value
  · exact asked rfl
  · exact asked rfl
  · exact missed

/-- A set stores nothing for longer than it says. -/
theorem Aged.set (aged : Aged calls cache) {value : Option Value} {ttl : Option Time}
    {reply : RedisReply} (nonzero : ttl ≠ some 0) :
    Aged ((time, .set key value ttl reply) :: calls) (cache.set time key value ttl reply).2 := by
  have here (found : Value) (same : value = some found) : StoredBy defaultTtl
      ((time, .set key value ttl reply) :: calls) key found (time + ttl.getD defaultTtl) :=
    ⟨time, ttl, reply, same ▸ .head _, rfl⟩
  have memory (l2 : RedisCache Key Value Time)
      (redis : ∀ other found expires, l2.entries other = some (some found, expires) →
        StoredBy defaultTtl ((time, .set key value ttl reply) :: calls) other found expires) :
      Aged ((time, .set key value ttl reply) :: calls)
        (⟨(cache.l1.set time key value ttl).2, l2⟩ : HybridCache T) := by
    refine aged.evolves (InMemoryCache.evolves_apply (.set key value ttl))
      (fun _ found _ same => ?_) redis
    cases same
    exact ⟨_, here found rfl, le_rfl⟩
  have kept : ∀ other found expires, cache.l2.entries other = some (some found, expires) →
      StoredBy defaultTtl ((time, .set key value ttl reply) :: calls) other found expires :=
    fun _ _ _ held => (aged.redis held).earlier
  have effective : RedisCache.effectiveTtl defaultTtl ttl = ttl.getD defaultTtl := by
    cases ttl with
    | none => rfl
    | some ttl => exact if_neg fun zero => nonzero (congrArg some zero)
  have stored : ∀ other found expires,
      (cache.l2.setex time key (RedisCache.effectiveTtl defaultTtl ttl) value).entries other =
        some (some found, expires) →
      StoredBy defaultTtl ((time, .set key value ttl reply) :: calls) other found expires := by
    intro other found expires held
    rw [effective] at held
    unfold RedisCache.setex at held
    split at held
    · dsimp only at held
      rcases eq_or_ne other key with rfl | apart
      · rw [Function.update_self] at held
        obtain ⟨same, rfl⟩ := Prod.mk.inj (Option.some.inj held)
        exact here found same
      · rw [Function.update_of_ne apart] at held
        exact kept other found expires held
    · exact kept other found expires held
  unfold HybridCache.set RedisCache.set
  rcases written : cache.l1.set time key value ttl with ⟨done, l1⟩
  rw [written] at memory
  cases done with
  | false => exact memory _ kept
  | true => cases reply with
    | failed => exact memory _ kept
    | done => exact memory _ stored
    | lost => exact memory _ stored

omit [Zero Time] in
/-- A delete makes nothing older. -/
theorem Aged.delete (aged : Aged calls cache) {reply : RedisReply} :
    Aged ((time, .delete key reply) :: calls) (cache.delete time key reply).2 := by
  have memory (l2 : RedisCache Key Value Time)
      (redis : ∀ other found expires, l2.entries other = some (some found, expires) →
        cache.l2.entries other = some (some found, expires)) :
      Aged ((time, .delete key reply) :: calls)
        (⟨(cache.l1.delete time key).2, l2⟩ : HybridCache T) :=
    aged.evolves InMemoryCache.evolves_delete (fun _ _ _ same => by cases same)
      fun _ _ _ held => (aged.redis (redis _ _ _ held)).earlier
  have removed : ∀ other found expires, Function.update cache.l2.entries key none other =
      some (some found, expires) → cache.l2.entries other = some (some found, expires) := by
    intro other found expires held
    rcases eq_or_ne other key with rfl | apart
    · rw [Function.update_self] at held
      cases held
    · rwa [Function.update_of_ne apart] at held
  unfold HybridCache.delete RedisCache.delete
  cases reply with
  | failed => exact memory _ fun _ _ _ held => held
  | done => exact memory _ removed
  | lost => exact memory _ removed

/-- One call that honours the times to live. -/
theorem Aged.apply (aged : Aged calls cache) (honours : call.honours cache time) :
    Aged ((time, call) :: calls) (cache.apply time call) := by
  cases call with
  | get key reply => exact aged.get honours
  | set key value ttl reply => exact aged.set honours
  | delete key reply => exact aged.delete

theorem aged_after (calls : Calls Key Value Time) (honoured : Honoured T calls) :
    Aged calls (after T calls) := by
  induction calls with
  | nil =>
      refine ⟨fun _ held => ?_, fun mem => absurd mem List.not_mem_nil, fun held => by cases held⟩
      rw [after, new, InMemoryCache.new, T.get?_new] at held
      cases held
  | cons call earlier ih => exact (ih honoured.1).apply honoured.2

omit [Zero Time] in
/-- What a get returns is held by the memory or by Redis. -/
theorem held_of_get {reply : RedisReply} (found : (cache.get now key reply).1 = some (some value)) :
    (cache.l1.get now key).1 = some (some value) ∨
      ∃ expires, cache.l2.entries key = some (some value, expires) ∧ now < expires := by
  have asked (l1 : InMemoryCache T)
      (found : (getFromRedis { cache with l1 } now key reply).1 = some (some value)) :
      ∃ expires, cache.l2.entries key = some (some value, expires) ∧ now < expires := by
    unfold getFromRedis at found
    dsimp only at found
    split at found
    next answered =>
      split at found
      · cases found
        exact redis_get answered
      · cases found
    · cases found
  unfold HybridCache.get at found
  rcases look : cache.l1.get now key with ⟨first, l1⟩
  rw [look] at found
  rcases first with - | - | first
  · exact .inr (asked l1 found)
  · exact .inr (asked l1 found)
  · exact .inl found

/-- After a run whose calls honour the times to live, a get returns no value later than the time to
live of a call that set it. -/
theorem get_honours_ttl (T : TTLCache Key (Option Value) Time maxSize defaultTtl)
    (calls : Calls Key Value Time) (honoured : Honoured T calls) (now : Time)
    (since : ∀ call ∈ calls, call.1 ≤ now) (key : Key) (reply : RedisReply) (value : Value)
    (found : ((after T calls).get now key reply).1 = some (some value)) :
    ∃ time ttl reply, (time, Call.set key (some value) ttl reply) ∈ calls ∧
      now ≤ time + ttl.getD defaultTtl := by
  have aged := aged_after calls honoured
  obtain ⟨expires, ⟨time, ttl, reply, mem, rfl⟩, fresh⟩ : ∃ expires,
      StoredBy defaultTtl calls key value expires ∧ now < expires := by
    rcases held_of_get found with memory | ⟨expires, held, fresh⟩
    · rcases InMemoryCache.held_of_get memory with held | ⟨⟨_, expiresAt⟩, held, rfl, fresh⟩
      · exact aged.default since held
      · obtain ⟨expires, stored, upTo⟩ := aged.custom held
        exact ⟨expires, stored, fresh.trans_le upTo⟩
    · exact ⟨expires, aged.redis held, fresh⟩
  exact ⟨time, ttl, reply, mem, fresh.le⟩

/-- A value that still has time when it is copied from Redis, with another one that takes its place
in the memory before. -/
def copiedInTime : Calls Bool Nat Nat :=
  [(5, .get true .done), (1, .set false (some 8) none .done),
    (0, .set true (some 7) (some 20) .done)]

theorem honoured_copiedInTime :
    Honoured (dictTTLCache Bool (Option Nat) Nat 1 10) copiedInTime := by
  have own : some 20 ≠ some 0 := by decide
  have default : none ≠ some 0 := by decide
  refine ⟨⟨⟨trivial, own⟩, default⟩, fun _ value expires held _ => ?_⟩
  have redis : (after (dictTTLCache Bool (Option Nat) Nat 1 10) copiedInTime.tail).l2.entries true =
      some (some 7, 20) := rfl
  obtain ⟨-, rfl⟩ := Prod.mk.inj (Option.some.inj (redis.symm.trans held))
  decide

/-- The copy is read in time. -/
theorem copy_is_read_in_time : ∃ time ttl reply,
    (time, Call.set true (some 7) ttl reply) ∈ copiedInTime ∧ 12 ≤ time + ttl.getD 10 :=
  get_honours_ttl (dictTTLCache Bool (Option Nat) Nat 1 10) copiedInTime honoured_copiedInTime 12
    (by decide) true .done 7 (by decide)

/-- A value with four seconds to live is copied from Redis after three and read
eight seconds too late. -/
theorem copy_outlives_its_value :
    let calls : Calls Bool Nat Nat := [(3, .get true .done), (1, .set false (some 8) none .done),
      (0, .set true (some 7) (some 4) .done)]
    ((after (dictTTLCache Bool (Option Nat) Nat 1 10) calls).get 12 true .done).1 = some (some 7) ∧
      ∀ call ∈ calls, ∀ ttl reply, call.2 = .set true (some 7) ttl reply →
        call.1 + ttl.getD 10 < 12 := by
  refine ⟨by decide, fun call mem ttl reply same => ?_⟩
  rcases List.mem_cons.mp mem with rfl | mem
  · cases same
  rcases List.mem_cons.mp mem with rfl | mem
  · cases same
  obtain rfl := List.mem_singleton.mp mem
  cases same
  decide

end HybridCache

end Cache
end DataGateway
