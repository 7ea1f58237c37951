import DataGateway.RateLimit.Bounds

/-!
# How long to wait

What a limiter advertises when it refuses, and whether an acquisition after that wait is let
through.
-/

namespace DataGateway
namespace RateLimit

open SlidingWindow

/-- From some time on there is room in a window. -/
def RoomFrom (limit : Nat) (window moment : ℚ) (stamps : List ℚ) : Prop :=
  ∀ later, moment ≤ later → (expire window later stamps).length < limit

theorem roomFrom_iff {limit : Nat} {window moment : ℚ} {stamps : List ℚ} (positive : 0 < limit) :
    RoomFrom limit window moment stamps ↔
      ∀ stamp ∈ stamps.take (stamps.length + 1 - limit), stamp + window ≤ moment := by
  constructor
  · intro room stamp mem
    exact le_sub_iff_add_le.mp ((length_expire_lt_iff positive).mp (room moment le_rfl) stamp mem)
  · intro old later passed
    refine (length_expire_lt_iff positive).mpr fun stamp mem => ?_
    exact le_sub_iff_add_le.mpr ((old stamp mem).trans passed)

/-- What holds on one side of related lists holds on the other. -/
theorem forall_mem_of_forall₂ {α β : Type} {related : α → β → Prop} {left : α → Prop}
    {right : β → Prop} (carries : ∀ a b, related a b → left a → right b)
      {as : List α} {bs : List β}
    (each : List.Forall₂ related as bs) (all : ∀ a ∈ as, left a) : ∀ b ∈ bs, right b := by
  induction each with
  | nil => exact fun _ mem => nomatch mem
  | cons here rest ih =>
      obtain ⟨first, others⟩ := List.forall_mem_cons.mp all
      exact List.forall_mem_cons.mpr ⟨carries _ _ here first, ih others⟩

theorem untilReset_nonneg (window reading : ℚ) (stamps : List ℚ) :
    0 ≤ untilReset window reading stamps := by
  cases stamps with
  | nil => exact le_rfl
  | cons => exact le_max_left _ _

/-! ## Providers -/

namespace ProviderRateLimiter

variable {limiter : ProviderRateLimiter} {now reading : ℚ}

/-- The buckets, in the order in which they are checked, with the least times to wait for them. -/
def waits (limiter : ProviderRateLimiter) : List (RateLimitBucket × ℤ) :=
  limiter.perSecond.toList.map (·, 1) ++ [(limiter.perMinute, 1)] ++
    limiter.perDay.toList.map (·, 60)

theorem map_waits (limiter : ProviderRateLimiter) : limiter.waits.map Prod.fst =
    limiter.buckets := by
  simp [waits, buckets, Function.comp_def]

/-- The first bucket that is full, with the least time to wait for it. -/
def firstFull (limiter : ProviderRateLimiter) (now : ℚ) : Option (RateLimitBucket × ℤ) :=
  limiter.waits.find? fun (bucket, _) => (bucket.cleanup now).full

/-- A call is refused by the first bucket that is full. -/
theorem tryAcquire_answer (limiter : ProviderRateLimiter) (now reading : ℚ) :
    (limiter.tryAcquire now reading).1 =
      match limiter.firstFull now with
      | some (bucket, least) => (false, (bucket.cleanup now).retryAfter reading least)
      | none => (true, 0) := by
  obtain ⟨perSecond, perMinute, perDay, totalRequests⟩ := limiter
  unfold tryAcquire firstFull waits
  cases perSecond with
  | none =>
      cases minute : (perMinute.cleanup now).full with
      | true => simp [minute]
      | false =>
          cases perDay with
          | none => simp [minute]
          | some day => cases full : (day.cleanup now).full <;> simp [minute, full, Option.filter]
  | some second =>
      cases full : (second.cleanup now).full with
      | true => simp [full, Option.filter]
      | false =>
          cases minute : (perMinute.cleanup now).full with
          | true => simp [full, minute, Option.filter]
          | false =>
              cases perDay with
              | none => simp [full, minute, Option.filter]
              | some day =>
                  cases last : (day.cleanup now).full <;>
                    simp [full, minute, last, Option.filter]

/-- A call is let through exactly when no bucket is full. -/
theorem tryAcquire_passes : (limiter.tryAcquire now reading).1.1 = true ↔
    ∀ bucket ∈ limiter.buckets, (bucket.cleanup now).full = false := by
  have none_ : limiter.firstFull now = none ↔
      ∀ bucket ∈ limiter.buckets, (bucket.cleanup now).full = false := by
    rw [firstFull, List.find?_eq_none, ← map_waits]
    simp
  rw [← none_, tryAcquire_answer]
  cases limiter.firstFull now <;> simp

/-- Every bucket is for one request at least, and holds no more requests than it is for. -/
def Bounded (limiter : ProviderRateLimiter) : Prop :=
  ∀ bucket ∈ limiter.buckets, 0 < bucket.limit ∧ bucket.timestamps.length ≤ bucket.limit

theorem Bounded.tryAcquire (bounded : limiter.Bounded) (now reading : ℚ) :
    (limiter.tryAcquire now reading).2.Bounded := by
  rcases limiter.tryAcquire_cases now reading with ⟨-, cleaned⟩ | ⟨-, recorded, room⟩
  · refine forall_mem_of_forall₂ (fun before after kept => ?_) cleaned bounded
    rintro ⟨positive, few⟩
    have fewer := kept.suffix.length_le
    rcases kept with rfl | rfl
    · exact ⟨positive, few⟩
    · exact ⟨positive, fewer.trans few⟩
  · intro after mem
    rw [recorded] at mem
    obtain ⟨bucket, own, rfl⟩ := List.mem_map.mp mem
    have free : (bucket.cleanup now).timestamps.length < bucket.limit :=
      Nat.lt_of_not_le (of_decide_eq_false (room bucket own))
    refine ⟨(bounded bucket own).1, ?_⟩
    rw [RateLimitBucket.record, List.length_append]
    exact free

theorem Bounded.run (bounded : limiter.Bounded) (calls : List (ℚ × ℚ)) :
    (limiter.run calls).2.Bounded := by
  induction calls generalizing limiter with
  | nil => exact bounded
  | cons call rest ih => exact ih (bounded.tryAcquire call.1 call.2)

/-- After the wait that a refusal advertises, calls are let through. -/
def WaitSuffices (limiter : ProviderRateLimiter) (now reading : ℚ) : Prop :=
  ∀ later again, reading + (limiter.tryAcquire now reading).1.2 ≤ later →
    ((limiter.tryAcquire now reading).2.tryAcquire later again).1.1 = true

/-- Every full bucket loses its oldest time before the wait for the first one is over. -/
def FullBucketsFree (limiter : ProviderRateLimiter) (now reading : ℚ) : Prop :=
  ∀ first least, limiter.firstFull now = some (first, least) →
    ∀ other ∈ limiter.buckets, (other.cleanup now).full = true →
      ∀ oldest ∈ (other.cleanup now).timestamps.head?,
        oldest + other.windowSeconds ≤ reading + (first.cleanup now).retryAfter reading least

/-- The buckets that a refusal leaves are full when those before it are. -/
theorem full_after_refusal (refused : (limiter.tryAcquire now reading).1.1 = false) {later : ℚ}
    (passes : now ≤ later) :
    (∀ bucket ∈ (limiter.tryAcquire now reading).2.buckets, (bucket.cleanup later).full = false) ↔
      ∀ bucket ∈ limiter.buckets, (bucket.cleanup later).full = false := by
  have same (before after : RateLimitBucket) (kept : Cleaned now before after) :
      (after.cleanup later).full = (before.cleanup later).full := by
    rcases kept with rfl | rfl
    · rfl
    · have stamps : ((before.cleanup now).cleanup later).timestamps =
          (before.cleanup later).timestamps := expire_expire passes _
      unfold RateLimitBucket.full
      rw [stamps]
      rfl
  rcases limiter.tryAcquire_cases now reading with ⟨-, cleaned⟩ | ⟨passed, -, -⟩
  · constructor
    · exact forall_mem_of_forall₂ (fun after before kept room => same before after kept ▸ room)
        cleaned.flip
    · exact forall_mem_of_forall₂ (fun before after kept room => (same before after kept).trans
      room)
        cleaned
  · rw [passed] at refused
    cases refused

/-- A bucket has room from some time on exactly when it has room now, or its oldest time is
forgotten by then. -/
theorem room_iff {bucket : RateLimitBucket} (positive : 0 < bucket.limit)
    (few : bucket.timestamps.length ≤ bucket.limit) {moment : ℚ} (passes : now ≤ moment) :
    (∀ later, moment ≤ later → (bucket.cleanup later).full = false) ↔
      ((bucket.cleanup now).full = true → ∀ oldest ∈ (bucket.cleanup now).timestamps.head?,
        oldest + bucket.windowSeconds ≤ moment) := by
  have room : (∀ later, moment ≤ later → (bucket.cleanup later).full = false) ↔
      RoomFrom bucket.limit bucket.windowSeconds moment (bucket.cleanup now).timestamps := by
    refine forall₂_congr fun later passed => ?_
    rw [RateLimitBucket.full, decide_eq_false_iff_not, Nat.not_le]
    simp only [RateLimitBucket.cleanup, expire_expire (passes.trans passed)]
  rw [room, roomFrom_iff positive]
  have most : (bucket.cleanup now).timestamps.length ≤ bucket.limit :=
    (expire_suffix _ _ _).length_le.trans few
  cases full : (bucket.cleanup now).full with
  | false =>
      have free : (bucket.cleanup now).timestamps.length < bucket.limit :=
        Nat.lt_of_not_le (of_decide_eq_false full)
      have none_ : (bucket.cleanup now).timestamps.length + 1 - bucket.limit = 0 := by omega
      simp [none_]
  | true =>
      have least : bucket.limit ≤ (bucket.cleanup now).timestamps.length := of_decide_eq_true full
      have one : (bucket.cleanup now).timestamps.length + 1 - bucket.limit = 1 := by omega
      rw [one]
      cases (bucket.cleanup now).timestamps <;> simp

/-- A wait suffices exactly when every full bucket has room again. -/
theorem waitSuffices_iff (bounded : limiter.Bounded) (passes : now ≤ reading)
    (refused : (limiter.tryAcquire now reading).1.1 = false) :
    limiter.WaitSuffices now reading ↔ limiter.FullBucketsFree now reading := by
  have answer := limiter.tryAcquire_answer now reading
  unfold WaitSuffices FullBucketsFree
  cases found : limiter.firstFull now with
  | none =>
      rw [found] at answer
      rw [answer] at refused
      cases refused
  | some first =>
      obtain ⟨first, least⟩ := first
      rw [found] at answer
      have wait : 0 ≤ (first.cleanup now).retryAfter reading least := by
        refine le_max_of_le_right (le_add_of_nonneg_of_le (Int.floor_nonneg.mpr ?_) Int.one_nonneg)
        exact untilReset_nonneg _ _ _
      have later : now ≤ reading + (first.cleanup now).retryAfter reading least :=
        le_add_of_le_of_nonneg passes (Int.cast_nonneg wait)
      simp only [tryAcquire_passes, answer, Option.some.injEq, Prod.mk.injEq]
      constructor
      · rintro suffices_ first least ⟨rfl, rfl⟩ other own
        refine (room_iff (bounded other own).1 (bounded other own).2 later).mp fun moment passed =>
          ?_
        have room := suffices_ moment moment passed
        exact (full_after_refusal refused (later.trans passed)).mp room other own
      · intro free moment again passed
        refine (full_after_refusal refused (later.trans passed)).mpr fun other own => ?_
        have room := (room_iff (bounded other own).1 (bounded other own).2 later).mpr
          (free first least ⟨rfl, rfl⟩ other own)
        exact room moment passed

end ProviderRateLimiter

/-! ## Clients -/

namespace PerClient

namespace RateLimitMiddleware

variable {middleware : RateLimitMiddleware} {now : ℚ} {request : Request} {readings : Readings}

/-- The times of every client are in order, and past. -/
def Ordered (middleware : RateLimitMiddleware) (now : ℚ) : Prop :=
  ∀ client, (middleware.timestamps client).Pairwise (· ≤ ·) ∧
    ∀ stamp ∈ middleware.timestamps client, stamp ≤ now

/-- The times that the bucket of a request keeps. -/
def kept (middleware : RateLimitMiddleware) (request : Request) (readings : Readings) : List ℚ :=
  expire window readings.consumed (middleware.current request readings).timestamps

theorem Ordered.wait (ordered : middleware.Ordered now) {later : ℚ} (passes : now ≤ later) :
    middleware.Ordered later :=
  fun client => ⟨(ordered client).1, fun stamp mem => ((ordered client).2 stamp mem).trans passes⟩

/-- The times that are kept are in order, and past. -/
theorem Ordered.kept (ordered : middleware.Ordered now) (request : Request) (readings : Readings) :
    (middleware.kept request readings).Pairwise (· ≤ ·) ∧
      ∀ stamp ∈ middleware.kept request readings, stamp ≤ now := by
  have suffix : middleware.kept request readings <:+
      middleware.timestamps (middleware.getClientInfo request).1 := by
    refine (expire_suffix _ _ _).trans ?_
    rw [current_eq.2]
    exact middleware.timestamps_pruneBuckets _ _
  obtain ⟨sorted, past⟩ := ordered (middleware.getClientInfo request).1
  exact ⟨sorted.sublist suffix.sublist, fun stamp mem => past stamp (suffix.subset mem)⟩

/-- The step: a request adds the present time to those of its client at most. -/
theorem Ordered.call (ordered : middleware.Ordered now) (passes : now ≤ readings.consumed) :
    (middleware.call request readings).2.Ordered readings.consumed := by
  intro client
  rw [timestamps_call]
  split
  next own =>
    obtain ⟨sorted, past⟩ := ordered.kept request readings
    obtain ⟨-, -, ⟨-, -, recorded⟩ | ⟨-, cleaned⟩⟩ :=
      consume_cases (middleware.current request readings) readings.consumed
    · rw [recorded]
      constructor
      · refine List.pairwise_append.mpr ⟨sorted, List.pairwise_singleton _ _, fun stamp mem last
        here => ?_⟩
        rw [List.mem_singleton.mp here]
        exact (past stamp mem).trans passes
      · intro stamp mem
        rcases List.mem_append.mp mem with mem | mem
        · exact (past stamp mem).trans passes
        · exact (List.mem_singleton.mp mem).le
    · rw [cleaned]
      exact ⟨sorted, fun stamp mem => (past stamp mem).trans passes⟩
  next other =>
    have suffix := middleware.timestamps_pruneBuckets readings.started client
    obtain ⟨sorted, past⟩ := ordered client
    exact ⟨sorted.sublist suffix.sublist,
      fun stamp mem => (past stamp (suffix.subset mem)).trans passes⟩

/-- The run: the times are in order, and not after the last reading. -/
theorem Ordered.run {client : String} {calls : List (Request × Readings)} {last : ℚ}
    (ordered : middleware.Ordered now) (clocks : (now :: clock calls).Pairwise (· ≤ ·))
    (before : ∀ time ∈ now :: clock calls, time ≤ last) :
    (RateLimitMiddleware.run client middleware calls).2.Ordered last := by
  induction calls generalizing middleware now with
  | nil => exact ordered.wait (before now (.head _))
  | cons call rest ih =>
      obtain ⟨request, readings⟩ := call
      simp only [clock, List.flatMap_cons, List.cons_append, List.nil_append,
        List.pairwise_cons] at clocks
      obtain ⟨passes, -, -, consumed, -, rested⟩ := clocks
      refine ih (ordered.call (passes readings.consumed (by simp))) ?_ ?_
      · exact List.pairwise_cons.mpr ⟨fun time mem => consumed time (.tail _ mem), rested⟩
      · intro time mem
        refine before time ?_
        simp only [clock, List.flatMap_cons, List.cons_append, List.nil_append]
        rcases List.mem_cons.mp mem with rfl | mem
        · simp
        · simp [clock] at mem
          simp [mem]

/-- A request is let through exactly when its bucket has room. -/
theorem forwards_iff : (middleware.call request readings).1.forwards = true ↔
    (middleware.kept request readings).length < (middleware.getClientInfo request).2 := by
  rw [(call_eq middleware request readings).1, ← current_eq.1]
  unfold RateLimitBucket.consume kept
  dsimp only
  split
  next room => exact iff_of_true rfl room
  next full => exact iff_of_false nofun full

/-- A refusal advertises the whole seconds until the oldest time is forgotten. -/
theorem call_limited {headers : RateLimitHeaders} {retryAfter : ℤ}
    (limited : (middleware.call request readings).1 = .limited headers retryAfter) :
    retryAfter =
      max 0 ⌊untilReset window readings.answered (middleware.kept request readings)⌋ := by
  have refused : (middleware.call request readings).1.forwards = false := by
    rw [limited]
    rfl
  obtain ⟨-, -, ⟨passed, -⟩ | ⟨-, cleaned⟩⟩ :=
    consume_cases (middleware.current request readings) readings.consumed
  · rw [(call_eq middleware request readings).1, passed] at refused
    cases refused
  · have answer : (middleware.call request readings).1 = .limited
        (rateLimitHeaders ((middleware.current request readings).consume readings.consumed).2
          readings.answered)
        (((middleware.current request readings).consume readings.consumed).2.resetAfter
          readings.answered) := by
      rw [(call_eq middleware request readings).1] at refused
      unfold RateLimitMiddleware.call
      exact if_neg (by simpa [current] using refused)
    rw [answer] at limited
    obtain ⟨-, rfl⟩ := Answer.limited.inj limited
    rw [RateLimitBucket.resetAfter, cleaned]
    rfl

theorem exists_limited (refused : (middleware.call request readings).1.forwards = false) :
    ∃ headers retryAfter, (middleware.call request readings).1 = .limited headers retryAfter := by
  cases answer : (middleware.call request readings).1 with
  | limited headers retryAfter => exact ⟨headers, retryAfter, rfl⟩
  | forwarded headers =>
      rw [answer] at refused
      cases refused

/-- After the wait that a refusal advertises, requests of the client are let through. -/
def WaitSuffices (middleware : RateLimitMiddleware) (request : Request) (readings : Readings) :
    Prop :=
  ∀ headers retryAfter, (middleware.call request readings).1 = .limited headers retryAfter →
    ∀ again next, middleware.getClientInfo again = middleware.getClientInfo request →
      [readings.answered, next.started, next.made, next.consumed].Pairwise (· ≤ ·) →
      readings.answered + retryAfter ≤ next.consumed →
        ((middleware.call request readings).2.call again next).1.forwards = true

/-- The times that have to be forgotten are a window old, or the oldest one will be after whole
seconds. -/
def WholeSeconds (middleware : RateLimitMiddleware) (request : Request) (readings : Readings) :
    Prop :=
  ∀ stamp ∈ (middleware.kept request readings).take
      ((middleware.kept request readings).length + 1 - (middleware.getClientInfo request).2),
    stamp + window ≤ readings.answered ∨
      stamp ∈ (middleware.kept request readings).head? ∧
        ∃ seconds : ℤ, stamp + window - readings.answered = seconds

/-- A time is forgotten after the whole seconds until the oldest one is. -/
theorem forgotten_iff {stamps : List ℚ} (sorted : stamps.Pairwise (· ≤ ·)) {answered stamp : ℚ}
    (mem : stamp ∈ stamps) :
    stamp + window ≤ answered + ((max 0 ⌊untilReset window answered stamps⌋ : ℤ) : ℚ) ↔
      stamp + window ≤ answered ∨
        stamp ∈ stamps.head? ∧ ∃ seconds : ℤ, stamp + window - answered = seconds := by
  cases stamps with
  | nil => cases mem
  | cons oldest rest =>
      have first : oldest ≤ stamp := by
        rcases List.mem_cons.mp mem with rfl | later
        · exact le_rfl
        · exact List.rel_of_pairwise_cons sorted later
      rw [untilReset, List.head?_cons, Option.mem_some_iff]
      rcases le_or_gt (oldest + window) answered with passed | open_
      · have none_ : max 0 (oldest + window - answered) = 0 := max_eq_left (by linarith)
        rw [none_, Int.floor_zero, max_self, Int.cast_zero, add_zero]
        refine ⟨.inl, ?_⟩
        rintro (old | ⟨rfl, -⟩)
        · exact old
        · exact passed
      · have left : max 0 (oldest + window - answered) = oldest + window - answered :=
          max_eq_right (by linarith)
        have nonneg : 0 ≤ ⌊oldest + window - answered⌋ := Int.floor_nonneg.mpr (by linarith)
        rw [left, max_eq_right nonneg]
        have below := Int.floor_le (oldest + window - answered)
        constructor
        · intro forgotten
          have same : oldest = stamp := le_antisymm first (by linarith)
          subst same
          exact .inr ⟨rfl, ⌊oldest + window - answered⌋, le_antisymm (by linarith) below⟩
        · rintro (old | ⟨rfl, seconds, whole⟩)
          · exact absurd (first.trans (le_sub_iff_add_le.mpr old)) (by linarith)
          · rw [whole, Int.floor_intCast]
            linarith

/-- After a refusal the bucket of the client holds what was kept, until the client is pruned. -/
theorem timestamps_after_refusal (refused : (middleware.call request readings).1.forwards = false)
    (started : ℚ) :
    (((middleware.call request readings).2.pruneBuckets started).timestamps
          (middleware.getClientInfo request).1 = middleware.kept request readings) ∨
      ((middleware.call request readings).2.pruneBuckets started).timestamps
          (middleware.getClientInfo request).1 = [] ∧ readings.consumed < started - 120 := by
  obtain ⟨-, buckets⟩ := call_eq middleware request readings
  obtain ⟨-, seen, ⟨passed, -⟩ | ⟨-, cleaned⟩⟩ :=
    consume_cases (middleware.current request readings) readings.consumed
  · rw [(call_eq middleware request readings).1, passed] at refused
    cases refused
  have own : (middleware.call request readings).2.buckets (middleware.getClientInfo request).1 =
      some ((middleware.current request readings).consume readings.consumed).2 := by
    rw [buckets, Function.update_self]
  rcases (middleware.call request readings).2.pruneBuckets_cases started
      (middleware.getClientInfo request).1 with same | ⟨gone, bucket, found, idle⟩
  · refine .inl ?_
    rw [timestamps, same, own]
    exact cleaned
  · refine .inr ⟨?_, ?_⟩
    · rw [timestamps, gone]
      rfl
    · obtain rfl := Option.some.inj (own.symm.trans found)
      exact seen ▸ idle

/-- A wait suffices exactly when the times that have to go do so after whole seconds. -/
theorem waitSuffices_iff (ordered : middleware.Ordered readings.consumed)
    (positive : 0 < (middleware.getClientInfo request).2)
    (refused : (middleware.call request readings).1.forwards = false) :
    middleware.WaitSuffices request readings ↔ middleware.WholeSeconds request readings := by
  obtain ⟨sorted, past⟩ := ordered.kept request readings
  have sameClient (again : Request) :
      (middleware.call request readings).2.getClientInfo again = middleware.getClientInfo again :=
    (getClientInfo_pruneBuckets : (middleware.pruneBuckets readings.started).getClientInfo again =
      _)
  -- the condition says when there is room among what was kept
  have room : middleware.WholeSeconds request readings ↔
      RoomFrom (middleware.getClientInfo request).2 window
        (readings.answered + ((max 0 ⌊untilReset window readings.answered
          (middleware.kept request readings)⌋ : ℤ) : ℚ)) (middleware.kept request readings) := by
    rw [roomFrom_iff positive]
    exact forall₂_congr fun stamp mem => (forgotten_iff sorted (List.mem_of_mem_take mem)).symm
  obtain ⟨headers, retryAfter, limited⟩ := exists_limited refused
  have advertised := call_limited limited
  have next (again : Request) (readings' : Readings)
      (own : middleware.getClientInfo again = middleware.getClientInfo request) :
      ((middleware.call request readings).2.call again readings').1.forwards = true ↔
        (expire window readings'.consumed
          (((middleware.call request readings).2.pruneBuckets readings'.started).timestamps
            (middleware.getClientInfo request).1)).length <
              (middleware.getClientInfo request).2 := by
    rw [forwards_iff, RateLimitMiddleware.kept, current_eq.2, sameClient, own]
  rw [room]
  constructor
  · intro suffices_ later passed
    have nonneg : (0 : ℚ) ≤ retryAfter := by
      rw [advertised]
      exact Int.cast_nonneg (le_max_left _ _)
    rw [← advertised] at passed
    have waited : readings.answered ≤ later := (le_add_of_nonneg_right nonneg).trans passed
    have forwards := suffices_ headers retryAfter limited request ⟨later, later, later, later⟩ rfl
      (by simp [waited]) passed
    rw [next request _ rfl] at forwards
    rcases timestamps_after_refusal refused later with same | ⟨-, idle⟩
    · rwa [same] at forwards
    · refine (length_expire_lt_iff positive).mpr fun stamp mem => ?_
      have old := past stamp (List.mem_of_mem_take mem)
      simp only [window]
      linarith
  · intro free headers' retryAfter' limited' again readings' own clocks passed
    rw [next again readings' own]
    rcases timestamps_after_refusal refused readings'.started with same | ⟨gone, -⟩
    · rw [same]
      refine free _ ?_
      rw [← call_limited limited']
      exact passed
    · rw [gone]
      exact positive

end RateLimitMiddleware

end PerClient

/-! ## Groups of endpoints -/

namespace EndpointRateLimiter

variable {limiter : EndpointRateLimiter} {endpoint client : String} {now : ℚ}

/-- No client holds more times than the limit of a group. -/
def Bounded (limiter : EndpointRateLimiter) : Prop :=
  ∀ endpoint client config limit, limiter.configs endpoint = some config →
    config.requestsPerWindow = some limit →
      (limiter.clientBuckets endpoint client).length ≤ limit

theorem bounded_new (configs : String → Option EndpointRateLimitConfig) : (new configs).Bounded :=
  fun _ _ _ _ _ _ => Nat.zero_le _

theorem Bounded.acquire (bounded : limiter.Bounded) (group caller : String) (now : ℚ) :
    (limiter.acquire group caller now).2.Bounded := by
  obtain ⟨configs, outcome⟩ := acquire_cases limiter group caller now
  intro endpoint client config limit found asked
  rw [configs] at found
  have before := bounded endpoint client config limit found asked
  rcases outcome with ⟨-, same, -⟩ | ⟨own, most, ownFound, ownAsked, ⟨-, cleaned⟩ |
    ⟨-, room, recorded⟩⟩
  · rw [same]
    exact before
  · rw [cleaned, clientBuckets_setBucket]
    split
    next here =>
      obtain ⟨rfl, rfl⟩ := here
      exact (expire_suffix _ _ _).length_le.trans before
    · exact before
  · rw [recorded, clientBuckets_setBucket]
    split
    next here =>
      obtain ⟨rfl, rfl⟩ := here
      obtain rfl := Option.some.inj (found.symm.trans ownFound)
      obtain rfl := Option.some.inj (asked.symm.trans ownAsked)
      rw [List.length_append]
      exact room
    · exact before

theorem Bounded.run (bounded : limiter.Bounded) (endpoint client : String)
    (calls : List (String × String × ℚ)) :
    (EndpointRateLimiter.run endpoint client limiter calls).2.Bounded := by
  induction calls generalizing limiter with
  | nil => exact bounded
  | cons call rest ih => exact ih (bounded.acquire call.1 call.2.1 call.2.2)

theorem configs_run (limiter : EndpointRateLimiter) (endpoint client : String)
    (calls : List (String × String × ℚ)) :
    (EndpointRateLimiter.run endpoint client limiter calls).2.configs = limiter.configs := by
  induction calls generalizing limiter with
  | nil => rfl
  | cons call rest ih =>
      exact (ih _).trans (acquire_cases limiter call.1 call.2.1 call.2.2).1

/-- After the wait that a refusal tells, the client is let through. -/
def WaitSuffices (limiter : EndpointRateLimiter) (endpoint client : String) (now : ℚ) : Prop :=
  ∀ group retryAfter used limit windowSeconds,
    (limiter.acquire endpoint client now).1 =
        .error (.exceeded group retryAfter used limit windowSeconds) →
      ∀ later, now + retryAfter ≤ later →
        ((limiter.acquire endpoint client now).2.acquire endpoint client later).1.isOk = true

/-- A client is let through exactly when its window has room. -/
theorem acquire_passes {config : EndpointRateLimitConfig} {limit : Nat}
    (found : limiter.configs endpoint = some config)
    (asked : config.requestsPerWindow = some limit) :
    (limiter.acquire endpoint client now).1.isOk = true ↔
      (expire config.windowSeconds now (limiter.clientBuckets endpoint client)).length < limit := by
  unfold acquire
  simp only [found, asked]
  split
  next full =>
    refine iff_of_false ?_ (Nat.not_lt.mpr full)
    split <;> nofun
  next room => exact iff_of_true rfl (Nat.not_le.mp room)

/-- A refusal tells how long the oldest time stays in the window, and at least a tenth of a second.
-/
theorem acquire_exceeded {group : String} {retryAfter windowSeconds : ℚ} {used limit : Nat}
    (refused : (limiter.acquire endpoint client now).1 =
      .error (.exceeded group retryAfter used limit windowSeconds)) :
    ∃ config oldest rest, limiter.configs endpoint = some config ∧
      config.requestsPerWindow = some limit ∧ limit ≤ (oldest :: rest).length ∧
      expire config.windowSeconds now (limiter.clientBuckets endpoint client) = oldest :: rest ∧
      retryAfter = max (oldest + config.windowSeconds - now) (1 / 10) ∧
      (limiter.acquire endpoint client now).2 =
        limiter.setBucket endpoint client (oldest :: rest) := by
  unfold acquire at refused ⊢
  cases found : limiter.configs endpoint with
  | none => simp [found] at refused
  | some config =>
      cases asked : config.requestsPerWindow with
      | none => simp [found, asked] at refused
      | some limit =>
          simp only [found, asked] at refused ⊢
          split at refused
          next full =>
            rw [if_pos full]
            cases kept : expire config.windowSeconds now (limiter.clientBuckets endpoint client)
              with
            | nil =>
                rw [kept] at refused
                cases refused
            | cons oldest rest =>
                rw [kept] at refused full
                obtain ⟨-, rfl, -, rfl, -⟩ := AcquireError.exceeded.inj (Except.error.inj refused)
                exact ⟨config, oldest, rest, rfl, asked, full, kept, rfl, rfl⟩
          next room => cases refused

/-- The wait of a limiter for groups always suffices. -/
theorem waitSuffices (bounded : limiter.Bounded)
    (positive : ∀ config, limiter.configs endpoint = some config →
      config.requestsPerWindow ≠ some 0) : limiter.WaitSuffices endpoint client now := by
  intro group retryAfter used limit windowSeconds refused later waited
  obtain ⟨config, oldest, rest, found, asked, full, kept, advertised, after⟩ :=
    acquire_exceeded refused
  have few : (oldest :: rest).length ≤ limit := by
    rw [← kept]
    exact (expire_suffix _ _ _).length_le.trans (bounded endpoint client config limit found asked)
  have least : 0 < limit := by
    refine Nat.pos_of_ne_zero ?_
    rintro rfl
    exact positive config found asked
  have room : RoomFrom limit config.windowSeconds (now + retryAfter) (oldest :: rest) := by
    have one : (oldest :: rest).length + 1 - limit = 1 := by omega
    refine (roomFrom_iff least).mpr fun stamp mem => ?_
    rw [one, List.take_succ_cons, List.take_zero] at mem
    rw [List.mem_singleton.mp mem, advertised]
    have most := le_max_left (oldest + config.windowSeconds - now) (1 / 10)
    linarith
  have same : (limiter.setBucket endpoint client (oldest :: rest)).configs endpoint = some config :=
    found
  rw [after, acquire_passes same asked, clientBuckets_setBucket, if_pos ⟨rfl, rfl⟩]
  exact room later waited

end EndpointRateLimiter

/-! ## All limiters -/

theorem ProviderRateLimiter.bounded_new {requestsPerSecond requestsPerDay : Option Nat}
    {requestsPerMinute : Nat} (positive : ∀ bucket ∈
      (new requestsPerSecond requestsPerMinute requestsPerDay).buckets, 0 < bucket.limit) :
    (new requestsPerSecond requestsPerMinute requestsPerDay).Bounded := by
  intro bucket mem
  refine ⟨positive bucket mem, ?_⟩
  simp only [buckets, new, List.append_assoc, List.singleton_append, List.mem_append, List.mem_cons,
    Option.mem_toList, Option.map_eq_some_iff] at mem
  rcases mem with ⟨limit, -, rfl⟩ | rfl | ⟨limit, -, rfl⟩ <;> exact Nat.zero_le _

open PerClient in
/-- **The advertised waits**, in every state that a limiter comes to: that of a provider suffices
exactly when every full bucket has lost its oldest time by then, that of a client exactly when the
times that have to go do so after whole seconds, and that of a group of endpoints always. -/
theorem waits_suffice_iff (requestsPerSecond : Option Nat) (requestsPerMinute : Nat)
    (requestsPerDay : Option Nat) (defaultLimit : Nat)
    (clientForKey : String → Option (String × Nat)) (made : ℚ)
    (configs : String → Option EndpointRateLimitConfig) :
    (∀ (calls : List (ℚ × ℚ)) (now reading : ℚ),
      let fresh := ProviderRateLimiter.new requestsPerSecond requestsPerMinute requestsPerDay
      (∀ bucket ∈ fresh.buckets, 0 < bucket.limit) → now ≤ reading →
        ((fresh.run calls).2.tryAcquire now reading).1.1 = false →
          ((fresh.run calls).2.WaitSuffices now reading ↔
            (fresh.run calls).2.FullBucketsFree now reading)) ∧
      (∀ (client : String) (calls : List (Request × Readings)) (request : Request)
        (readings : Readings),
        let middleware := (RateLimitMiddleware.run client (.new defaultLimit clientForKey made)
          calls).2
        (made :: RateLimitMiddleware.clock (calls ++ [(request, readings)])).Pairwise (· ≤ ·) →
          0 < (middleware.getClientInfo request).2 →
          (middleware.call request readings).1.forwards = false →
            (middleware.WaitSuffices request readings ↔ middleware.WholeSeconds request readings)) ∧
      ∀ (endpoint client group caller : String) (calls : List (String × String × ℚ)) (now : ℚ),
        (∀ config, configs group = some config → config.requestsPerWindow ≠ some 0) →
          (EndpointRateLimiter.run endpoint client (.new configs) calls).2.WaitSuffices group caller
            now := by
  refine ⟨?_, ?_, ?_⟩
  · intro calls now reading fresh positive passes refused
    have bounded := (ProviderRateLimiter.bounded_new positive).run calls
    exact ProviderRateLimiter.waitSuffices_iff bounded passes refused
  · intro client calls request readings middleware clocks positive refused
    have fresh : (RateLimitMiddleware.new defaultLimit clientForKey made).Ordered made :=
      fun _ => ⟨.nil, fun _ mem => nomatch mem⟩
    rw [RateLimitMiddleware.clock, List.flatMap_append, ← List.cons_append] at clocks
    obtain ⟨earlier, -, before⟩ := List.pairwise_append.mp clocks
    have ordered : middleware.Ordered readings.consumed :=
      fresh.run earlier fun time mem => before time mem readings.consumed (by simp)
    exact RateLimitMiddleware.waitSuffices_iff ordered positive refused
  · intro endpoint client group caller calls now positive
    have bounded := (EndpointRateLimiter.bounded_new configs).run endpoint client calls
    refine EndpointRateLimiter.waitSuffices bounded fun config found => positive config ?_
    rwa [EndpointRateLimiter.configs_run] at found

open PerClient in
/-- A second call within a second is told to wait for a second, a second request within a minute for
the rest of the minute, and both waits suffice. -/
theorem second_call_waits :
    (oneCall.run [(0, 0)]).2.WaitSuffices (1 / 2) (1 / 2) ∧
      (RateLimitMiddleware.run "" (.new 1 (fun _ => none) 0)
        [(⟨none, "", none⟩, ⟨0, 0, 0, 0⟩)]).2.WaitSuffices ⟨none, "",
        none⟩ ⟨1, 1, 1, 1⟩ ∧
      (EndpointRateLimiter.run "bulk" "a" (.new hourly) [("bulk", "a", 0)]).2.WaitSuffices
        "bulk" "a" 1 := by
  obtain ⟨provider, client, endpoint⟩ :=
    waits_suffice_iff (some 1) 60 none 1 (fun _ => none) 0 hourly
  refine ⟨?_, ?_, ?_⟩
  · refine (provider [(0, 0)] (1 / 2) (1 / 2) (by decide) le_rfl
      (by decide +kernel)).mpr ?_
    intro first least (found : (oneCall.run [(0, 0)]).2.firstFull (1 / 2) = _)
    have second : ((oneCall.run [(0, 0)]).2.firstFull (1 / 2)).map (fun (first, least) =>
        (first.limit, first.windowSeconds, first.timestamps, least)) = some (1, 1, [0], 1) := by
      decide +kernel
    obtain ⟨limit, windowSeconds, timestamps⟩ := first
    simp only [found, Option.map_some, Option.some.injEq, Prod.mk.injEq] at second
    obtain ⟨rfl, rfl, rfl, rfl⟩ := second
    decide +kernel
  · refine (client "" [(⟨none, "", none⟩, ⟨0, 0, 0, 0⟩)] ⟨none, "", none⟩
      ⟨1, 1, 1, 1⟩ (by decide +kernel) (by decide +kernel) (by decide +kernel)).mpr ?_
    have whole : (RateLimitMiddleware.run "" (.new 1 (fun _ => none) 0)
        [(⟨none, "", none⟩, ⟨0, 0, 0, 0⟩)]).2.kept ⟨none, "", none⟩
          ⟨1, 1, 1, 1⟩ = [0] := by
      decide +kernel
    unfold RateLimitMiddleware.WholeSeconds
    rw [whole]
    intro stamp mem
    obtain rfl := List.mem_singleton.mp (List.mem_of_mem_take mem)
    exact .inr ⟨rfl, 59, by decide +kernel⟩
  · exact endpoint "bulk" "a" "bulk" "a" [("bulk", "a", 0)] 1 (by
      rintro _ ⟨⟩
      nofun)

open PerClient in
/-- The wait for the first full bucket is too short when another is full for longer, and the rest of
a second is cut off the wait of a client. -/
theorem waits_are_too_short :
    (((ProviderRateLimiter.new (some 1) 1 none).run [(0, 0)]).2.tryAcquire (1 / 2) (1 / 2)).1 =
        (false, 1) ∧
      ¬((ProviderRateLimiter.new (some 1) 1 none).run [(0, 0)]).2.WaitSuffices (1 / 2) (1 / 2) ∧
      ¬(RateLimitMiddleware.run "" (.new 1 (fun _ => none) 0)
        [(⟨none, "", none⟩, ⟨0, 0, 0, 0⟩)]).2.WaitSuffices ⟨none, "", none⟩
          ⟨1 / 2, 1 / 2, 1 / 2, 1 / 2⟩ := by
  refine ⟨by decide +kernel, fun suffices_ => ?_, fun suffices_ => ?_⟩
  · exact absurd (suffices_ (3 / 2) (3 / 2) (by decide +kernel)) (by decide +kernel)
  · obtain ⟨headers, retryAfter, limited⟩ := RateLimitMiddleware.exists_limited
      (by decide +kernel : ((RateLimitMiddleware.run "" (.new 1 (fun _ => none) 0)
        [(⟨none, "", none⟩, ⟨0, 0, 0, 0⟩)]).2.call ⟨none, "", none⟩
          ⟨1 / 2, 1 / 2, 1 / 2, 1 / 2⟩).1.forwards = false)
    have advertised : retryAfter = 59 :=
      (RateLimitMiddleware.call_limited limited).trans (by decide +kernel)
    have passed := suffices_ headers retryAfter limited ⟨none, "", none⟩
      ⟨119 / 2, 119 / 2, 119 / 2, 119 / 2⟩ rfl (by decide +kernel)
      (by rw [advertised]; decide +kernel)
    exact absurd passed (by decide +kernel)

end RateLimit
end DataGateway
