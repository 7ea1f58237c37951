import DataGateway.RateLimit.Limiters
import Mathlib.Tactic.Linarith

/-!
# What the rate limiters let through

Each limiter keeps, for every window it counts in, the accepted times that the window can still
hold.  A client whose bucket is pruned was idle for longer than a window, so its next bucket has
lost nothing.
-/

namespace DataGateway
namespace RateLimit

open SlidingWindow

/-! ## Providers -/

namespace ProviderRateLimiter

variable {limiter : ProviderRateLimiter} {now reading : ℚ} {accepted : List ℚ}

/-- The buckets after a refusal: some are cleaned. -/
def Cleaned (now : ℚ) (before after : RateLimitBucket) : Prop :=
  after = before ∨ after = before.cleanup now

theorem Cleaned.suffix {before after : RateLimitBucket} (cleaned : Cleaned now before after) :
    after.timestamps <:+ before.timestamps := by
  rcases cleaned with rfl | rfl
  · exact List.suffix_rfl
  · exact expire_suffix _ _ _

/-- Either some buckets are cleaned, or each of them is cleaned, has room, and records. -/
theorem tryAcquire_cases (limiter : ProviderRateLimiter) (now reading : ℚ) :
    (limiter.tryAcquire now reading).1.1 = false ∧
        List.Forall₂ (Cleaned now) limiter.buckets (limiter.tryAcquire now reading).2.buckets ∨
      (limiter.tryAcquire now reading).1.1 = true ∧
        (limiter.tryAcquire now reading).2.buckets =
          limiter.buckets.map (fun bucket => (bucket.cleanup now).record now) ∧
        ∀ bucket ∈ limiter.buckets, (bucket.cleanup now).full = false := by
  obtain ⟨perSecond, perMinute, perDay, totalRequests⟩ := limiter
  have same (bucket : RateLimitBucket) : Cleaned now bucket bucket := .inl rfl
  have clean (bucket : RateLimitBucket) : Cleaned now bucket (bucket.cleanup now) := .inr rfl
  have roomy {bucket : Option RateLimitBucket} (none : bucket.filter RateLimitBucket.full = none) :
      ∀ kept ∈ bucket, kept.full = false := by
    rintro kept rfl
    simpa [Option.filter] using none
  simp only [tryAcquire, buckets]
  split
  · refine .inl ⟨rfl, ?_⟩
    cases perSecond <;> cases perDay <;> simp [same, clean]
  next secondRoom =>
    split
    · refine .inl ⟨rfl, ?_⟩
      cases perSecond <;> cases perDay <;> simp [same, clean]
    next minuteRoom =>
      split
      · refine .inl ⟨rfl, ?_⟩
        cases perSecond <;> cases perDay <;> simp [clean]
      next dayRoom =>
        refine .inr ⟨rfl, ?_, ?_⟩
        · cases perSecond <;> cases perDay <;> rfl
        · have second := roomy secondRoom
          have day := roomy dayRoom
          have minute : (perMinute.cleanup now).full = false := by simpa using minuteRoom
          intro bucket mem
          simp only [List.append_assoc, List.singleton_append, List.mem_append, List.mem_cons,
            Option.mem_toList] at mem
          rcases mem with rfl | rfl | rfl
          · exact second _ rfl
          · exact minute
          · exact day _ rfl

/-- Every bucket keeps what its window can hold of the accepted times. -/
def Tracked (limiter : ProviderRateLimiter) (now : ℚ) (accepted : List ℚ) : Prop :=
  ∀ bucket ∈ limiter.buckets,
    Tracks bucket.limit bucket.windowSeconds now accepted bucket.timestamps

theorem tracks_cleanup {bucket : RateLimitBucket}
    (tracks : Tracks bucket.limit bucket.windowSeconds now accepted bucket.timestamps) :
    Tracks bucket.limit bucket.windowSeconds now accepted (bucket.cleanup now).timestamps :=
  tracks.expire

/-- The step: with the call's time if it is let through, the buckets go on tracking. -/
theorem Tracked.tryAcquire (tracked : limiter.Tracked now accepted) (reading : ℚ) :
    (limiter.tryAcquire now reading).2.Tracked now
        (accepted ++ if (limiter.tryAcquire now reading).1.1 then [now] else []) ∧
      ∀ bucket ∈ limiter.buckets, ∃ next ∈ (limiter.tryAcquire now reading).2.buckets,
        next.limit = bucket.limit ∧ next.windowSeconds = bucket.windowSeconds := by
  rcases tryAcquire_cases limiter now reading with ⟨refused, cleaned⟩ | ⟨passed, recorded, room⟩
  · rw [refused, if_neg (by simp), List.append_nil]
    obtain ⟨length, each⟩ := List.forall₂_iff_get.mp cleaned
    refine ⟨fun next mem => ?_, fun bucket mem => ?_⟩
    · obtain ⟨place, bound, rfl⟩ := List.mem_iff_getElem.mp mem
      have before := List.getElem_mem (length.symm ▸ bound : place < limiter.buckets.length)
      have kept := each place (length.symm ▸ bound) bound
      simp only [List.get_eq_getElem] at kept
      rcases kept with same | cleaned
      · rw [same]
        exact tracked _ before
      · rw [cleaned]
        exact tracks_cleanup (tracked _ before)
    · obtain ⟨place, bound, rfl⟩ := List.mem_iff_getElem.mp mem
      have kept := each place bound (length ▸ bound)
      simp only [List.get_eq_getElem] at kept
      refine ⟨_, List.getElem_mem (length ▸ bound), ?_⟩
      rcases kept with same | cleaned
      · rw [same]
        exact ⟨rfl, rfl⟩
      · rw [cleaned]
        exact ⟨rfl, rfl⟩
  · rw [passed, if_pos rfl]
    refine ⟨fun next mem => ?_, fun bucket mem => ?_⟩
    · rw [recorded] at mem
      obtain ⟨bucket, before, rfl⟩ := List.mem_map.mp mem
      exact (tracks_cleanup (tracked bucket before)).accept
        (Nat.lt_of_not_le (of_decide_eq_false (room bucket before)))
    · rw [recorded]
      exact ⟨_, List.mem_map_of_mem mem, rfl, rfl⟩

/-- The run: whatever was accepted before, no window of any bucket is exceeded. -/
theorem Tracked.run {calls : List (ℚ × ℚ)} (tracked : limiter.Tracked now accepted)
    (ordered : (now :: calls.map Prod.fst).Pairwise (· ≤ ·)) :
    ∀ bucket ∈ limiter.buckets,
      AtMost bucket.limit bucket.windowSeconds (accepted ++ (limiter.run calls).1) := by
  induction calls generalizing limiter now accepted with
  | nil =>
      intro bucket mem
      simpa [ProviderRateLimiter.run] using (tracked bucket mem).atMost
  | cons call rest ih =>
      obtain ⟨time, reading⟩ := call
      intro bucket mem
      obtain ⟨passes, later⟩ := List.pairwise_cons.mp ordered
      have waited : limiter.Tracked time accepted := fun kept here =>
        (tracked kept here).wait (passes time (.head _))
      obtain ⟨next, sameBuckets⟩ := waited.tryAcquire reading
      obtain ⟨after, there, limit, window⟩ := sameBuckets bucket mem
      have bounded := ih next later after there
      rw [limit, window, List.append_assoc] at bounded
      rw [ProviderRateLimiter.run]
      split
      next passed => simpa [passed] using bounded
      next refused => simpa [refused] using bounded

/-- No window of a limiter that starts without requests is ever exceeded. -/
theorem run_atMost {calls : List (ℚ × ℚ)}
    (fresh : ∀ bucket ∈ limiter.buckets, bucket.timestamps = [])
    (ordered : (calls.map Prod.fst).Pairwise (· ≤ ·)) :
    ∀ bucket ∈ limiter.buckets, AtMost bucket.limit bucket.windowSeconds (limiter.run calls).1 := by
  cases calls with
  | nil => exact fun bucket _ => (Tracks.nil bucket.limit bucket.windowSeconds 0).atMost
  | cons call rest =>
      have tracked : limiter.Tracked call.1 [] := fun bucket mem => by
        rw [fresh bucket mem]
        exact .nil _ _ _
      have first : ∀ time ∈ (call :: rest).map Prod.fst, call.1 ≤ time := fun time mem => by
        rcases List.mem_cons.mp mem with rfl | later
        · exact le_rfl
        · exact List.rel_of_pairwise_cons ordered later
      simpa using tracked.run (List.pairwise_cons.mpr ⟨first, ordered⟩)

end ProviderRateLimiter

/-! ## Clients -/

namespace PerClient

namespace RateLimitMiddleware

variable {middleware : RateLimitMiddleware} {client : String} {limit : Nat} {now : ℚ}
  {accepted : List ℚ} {request : Request} {readings : Readings}

/-- The times in the bucket of a client. -/
def timestamps (middleware : RateLimitMiddleware) (client : String) : List ℚ :=
  ((middleware.buckets client).map RateLimitBucket.timestamps).getD []

/-- What the clock reads while requests are handled. -/
def clock (calls : List (Request × Readings)) : List ℚ :=
  calls.flatMap fun call => [call.2.started, call.2.made, call.2.consumed, call.2.answered]

/-- The bucket of a client keeps what a window can hold of the accepted times, and knows when the
client was last seen. -/
structure Tracked (middleware : RateLimitMiddleware) (client : String) (limit : Nat) (now : ℚ)
    (accepted : List ℚ) : Prop where
  tracks : Tracks limit window now accepted (middleware.timestamps client)
  bucket : ∀ bucket, middleware.buckets client = some bucket →
    bucket.limit = limit ∧ ∀ time ∈ bucket.timestamps, time ≤ bucket.lastSeen

theorem Tracked.wait {later : ℚ} (tracked : middleware.Tracked client limit now accepted)
    (passes : now ≤ later) : middleware.Tracked client limit later accepted :=
  ⟨tracked.tracks.wait passes, tracked.bucket⟩

theorem pruneBuckets_cases (middleware : RateLimitMiddleware) (now : ℚ) (client : String) :
    (middleware.pruneBuckets now).buckets client = middleware.buckets client ∨
      (middleware.pruneBuckets now).buckets client = none ∧
        ∃ bucket, middleware.buckets client = some bucket ∧ bucket.lastSeen < now - 120 := by
  unfold pruneBuckets
  split
  · exact .inl rfl
  · cases found : middleware.buckets client with
    | none => simp [found]
    | some bucket =>
        by_cases idle : bucket.lastSeen < now - 120
        · exact .inr ⟨by simp [found, Option.filter, idle], bucket, rfl, idle⟩
        · exact .inl (by simp [found, Option.filter, idle])

/-- A client that is pruned was idle for more than a window. -/
theorem Tracked.pruneBuckets (tracked : middleware.Tracked client limit now accepted) :
    (middleware.pruneBuckets now).Tracked client limit now accepted := by
  rcases pruneBuckets_cases middleware now client with same | ⟨gone, bucket, found, idle⟩
  · exact ⟨by rw [timestamps, same]; exact tracked.tracks, same ▸ tracked.bucket⟩
  · refine ⟨?_, fun bucket found => by simp [gone] at found⟩
    rw [timestamps, gone]
    refine tracked.tracks.forget fun time mem => ?_
    simp only [timestamps, found, Option.map_some, Option.getD_some] at mem
    have seen := (tracked.bucket bucket found).2 time mem
    simp only [window]
    linarith

theorem consume_cases (bucket : RateLimitBucket) (now : ℚ) :
    (bucket.consume now).2.limit = bucket.limit ∧ (bucket.consume now).2.lastSeen = now ∧
      ((bucket.consume now).1 = true ∧
          (expire window now bucket.timestamps).length < bucket.limit ∧
          (bucket.consume now).2.timestamps = expire window now bucket.timestamps ++ [now] ∨
        (bucket.consume now).1 = false ∧
          (bucket.consume now).2.timestamps = expire window now bucket.timestamps) := by
  unfold RateLimitBucket.consume
  dsimp only
  split
  next room => exact ⟨rfl, rfl, .inl ⟨rfl, room, rfl⟩⟩
  · exact ⟨rfl, rfl, .inr ⟨rfl, rfl⟩⟩

theorem setLimit_timestamps (bucket : RateLimitBucket) (limit : Nat) :
    (bucket.setLimit limit).timestamps = bucket.timestamps ∧ (bucket.setLimit limit).limit =
      limit := by
  unfold RateLimitBucket.setLimit
  split
  next same => exact ⟨rfl, same⟩
  · exact ⟨rfl, rfl⟩

/-- The bucket that a request is counted in. -/
def current (middleware : RateLimitMiddleware) (request : Request) (readings : Readings) :
    RateLimitBucket :=
  let pruned := middleware.pruneBuckets readings.started
  let (client, limit) := pruned.getClientInfo request
  ((pruned.buckets client).getD (.new limit readings.made)).setLimit limit

theorem getClientInfo_pruneBuckets :
    (middleware.pruneBuckets now).getClientInfo request = middleware.getClientInfo request := by
  unfold pruneBuckets
  split <;> rfl

theorem call_eq (middleware : RateLimitMiddleware) (request : Request) (readings : Readings) :
    (middleware.call request readings).1.forwards =
        ((middleware.current request readings).consume readings.consumed).1 ∧
      (middleware.call request readings).2.buckets =
        Function.update (middleware.pruneBuckets readings.started).buckets
          (middleware.getClientInfo request).1
          (some ((middleware.current request readings).consume readings.consumed).2) := by
  have same : (middleware.pruneBuckets readings.started).getClientInfo request =
      middleware.getClientInfo request := getClientInfo_pruneBuckets
  refine ⟨?_, ?_⟩
  · unfold call current
    dsimp only
    split
    next passed => exact passed.symm
    next refused => exact (Bool.eq_false_iff.mpr refused).symm
  · rw [← same]
    rfl

theorem current_eq :
    (middleware.current request readings).limit = (middleware.getClientInfo request).2 ∧
      (middleware.current request readings).timestamps =
        (middleware.pruneBuckets readings.started).timestamps
          (middleware.getClientInfo request).1 := by
  have same : (middleware.pruneBuckets readings.started).getClientInfo request =
      middleware.getClientInfo request := getClientInfo_pruneBuckets
  unfold current
  dsimp only
  rw [same]
  refine ⟨(setLimit_timestamps _ _).2, (setLimit_timestamps _ _).1.trans ?_⟩
  unfold timestamps
  cases (middleware.pruneBuckets readings.started).buckets (middleware.getClientInfo request).1 <;>
    rfl

/-- The step: with its time if it is let through, the bucket of the client goes on tracking. -/
theorem Tracked.call (tracked : middleware.Tracked client limit now accepted)
    (passes : now ≤ readings.started) (order : readings.started ≤ readings.consumed)
    (constant : (middleware.getClientInfo request).1 = client →
      (middleware.getClientInfo request).2 = limit) :
    (middleware.call request readings).2.Tracked client limit readings.consumed
      (accepted ++ if (middleware.call request readings).1.forwards ∧
        (middleware.getClientInfo request).1 = client then [readings.consumed] else []) := by
  obtain ⟨answer, buckets⟩ := call_eq middleware request readings
  have pruned := (tracked.wait passes).pruneBuckets.wait order
  by_cases own : (middleware.getClientInfo request).1 = client
  · have found : (middleware.call request readings).2.buckets client =
        some ((middleware.current request readings).consume readings.consumed).2 := by
      rw [buckets, own, Function.update_self]
    have bucketLimit : (middleware.current request readings).limit = limit :=
      current_eq.1.trans (constant own)
    have before : Tracks limit window readings.consumed accepted
        (middleware.current request readings).timestamps := by
      rw [current_eq.2, own]
      exact pruned.tracks
    obtain ⟨kept, seen, outcome⟩ :=
      consume_cases (middleware.current request readings) readings.consumed
    have tracks : Tracks limit window readings.consumed
        (accepted ++ if (middleware.call request readings).1.forwards ∧
          (middleware.getClientInfo request).1 = client then [readings.consumed] else [])
        ((middleware.current request readings).consume readings.consumed).2.timestamps := by
      rw [answer]
      rcases outcome with ⟨passed, room, recorded⟩ | ⟨refused, cleaned⟩
      · rw [if_pos ⟨passed, own⟩, recorded]
        exact before.expire.accept (bucketLimit ▸ room)
      · rw [if_neg (by simp [refused]), List.append_nil, cleaned]
        exact before.expire
    refine ⟨by simpa [timestamps, found] using tracks, fun bucket there => ?_⟩
    obtain rfl := Option.some.inj (found.symm.trans there)
    refine ⟨kept.trans bucketLimit, fun time mem => ?_⟩
    rw [seen]
    exact tracks.stamps_past time mem
  · rw [if_neg fun both => own both.2, List.append_nil]
    have same : (middleware.call request readings).2.buckets client =
        (middleware.pruneBuckets readings.started).buckets client := by
      rw [buckets, Function.update_of_ne (Ne.symm own)]
    exact ⟨by rw [timestamps, same]; exact pruned.tracks, same ▸ pruned.bucket⟩

/-- The run: whatever was accepted before, the window of the client is not exceeded. -/
theorem Tracked.run {calls : List (Request × Readings)}
    (tracked : middleware.Tracked client limit now accepted)
    (ordered : (now :: clock calls).Pairwise (· ≤ ·))
    (constant : ∀ call ∈ calls, (middleware.getClientInfo call.1).1 = client →
      (middleware.getClientInfo call.1).2 = limit) :
    AtMost limit window (accepted ++ (RateLimitMiddleware.run client middleware calls).1) := by
  induction calls generalizing middleware now accepted with
  | nil => simpa [RateLimitMiddleware.run] using tracked.tracks.atMost
  | cons call rest ih =>
      obtain ⟨request, readings⟩ := call
      simp only [clock, List.flatMap_cons, List.cons_append, List.nil_append,
        List.pairwise_cons] at ordered
      obtain ⟨passes, started, -, consumed, -, rested⟩ := ordered
      have same (other : Request) : (middleware.call request readings).2.getClientInfo other =
          middleware.getClientInfo other := by
        have pruned : (middleware.pruneBuckets readings.started).getClientInfo other =
            middleware.getClientInfo other := getClientInfo_pruneBuckets
        exact pruned
      have next := tracked.call (passes readings.started (.head _))
        (started readings.consumed (.tail _ (.head _))) (constant (request, readings) (.head _))
      have bounded := ih next
        (List.pairwise_cons.mpr ⟨fun time mem => consumed time (.tail _ mem), rested⟩)
        fun call mem own => by
          rw [same] at own ⊢
          exact constant call (.tail _ mem) own
      rw [List.append_assoc] at bounded
      rw [RateLimitMiddleware.run]
      dsimp only
      split
      next passed => simpa [passed] using bounded
      next refused => rwa [if_neg refused, List.nil_append] at bounded

/-- A client whose limit stays the same never gets more than its limit through in a window. -/
theorem run_atMost {defaultLimit : Nat} {clientForKey : String → Option (String × Nat)} {made : ℚ}
    {calls : List (Request × Readings)} (ordered : (made :: clock calls).Pairwise (· ≤ ·))
    (constant : ∀ call ∈ calls, ((new defaultLimit clientForKey made).getClientInfo call.1).1 =
      client →
      ((new defaultLimit clientForKey made).getClientInfo call.1).2 = limit) :
    AtMost limit window
      (RateLimitMiddleware.run client (new defaultLimit clientForKey made) calls).1 := by
  have tracked : (new defaultLimit clientForKey made).Tracked client limit made [] :=
    ⟨.nil _ _ _, fun _ found => by cases found⟩
  simpa using tracked.run ordered constant

/-- Pruning leaves no time in a bucket that was not there. -/
theorem timestamps_pruneBuckets (middleware : RateLimitMiddleware) (now : ℚ) (client : String) :
    (middleware.pruneBuckets now).timestamps client <:+ middleware.timestamps client := by
  unfold timestamps
  rcases pruneBuckets_cases middleware now client with same | ⟨gone, -⟩
  · simp only [same, List.suffix_rfl]
  · rw [gone]
    exact List.nil_suffix

/-- A request changes the times of its own client only. -/
theorem timestamps_call (middleware : RateLimitMiddleware) (request : Request) (readings : Readings)
    (client : String) :
    (middleware.call request readings).2.timestamps client =
      if (middleware.getClientInfo request).1 = client then
        ((middleware.current request readings).consume readings.consumed).2.timestamps
      else (middleware.pruneBuckets readings.started).timestamps client := by
  obtain ⟨-, buckets⟩ := call_eq middleware request readings
  rw [timestamps, buckets]
  split
  next own =>
    rw [own, Function.update_self]
    rfl
  next other =>
    rw [Function.update_of_ne (Ne.symm other)]
    rfl

/-- A request that is refused leaves no time in any bucket. -/
theorem call_refused (refused : (middleware.call request readings).1.forwards = false)
    (client : String) :
    (middleware.call request readings).2.timestamps client <:+ middleware.timestamps client := by
  have answer := (call_eq middleware request readings).1
  have pruned := middleware.timestamps_pruneBuckets readings.started client
  rw [timestamps_call]
  split
  next own =>
    obtain ⟨-, -, ⟨passed, -⟩ | ⟨-, cleaned⟩⟩ :=
      consume_cases (middleware.current request readings) readings.consumed
    · rw [answer, passed] at refused
      cases refused
    · rw [cleaned, current_eq.2, own]
      exact (expire_suffix _ _ _).trans pruned
  next other => exact pruned

end RateLimitMiddleware

end PerClient

/-! ## Groups of endpoints -/

namespace EndpointRateLimiter

variable {limiter : EndpointRateLimiter} {endpoint client group caller : String} {limit : Nat}
  {windowSeconds now : ℚ} {accepted : List ℚ}

/-- An acquisition either leaves all times alone, or cleans those of its caller and may add to them.
-/
theorem acquire_cases (limiter : EndpointRateLimiter) (group caller : String) (now : ℚ) :
    (limiter.acquire group caller now).2.configs = limiter.configs ∧
      ((limiter.acquire group caller now).1.isOk = true ∧
          (limiter.acquire group caller now).2 = limiter ∧
          (limiter.configs group).bind EndpointRateLimitConfig.requestsPerWindow = none ∨
        ∃ config limit, limiter.configs group = some config ∧ config.requestsPerWindow =
          some limit ∧
          let kept := expire config.windowSeconds now (limiter.clientBuckets group caller)
          ((limiter.acquire group caller now).1.isOk = false ∧
              (limiter.acquire group caller now).2 = limiter.setBucket group caller kept ∨
            (limiter.acquire group caller now).1.isOk = true ∧ kept.length < limit ∧
              (limiter.acquire group caller now).2 =
                limiter.setBucket group caller (kept ++ [now]))) := by
  unfold acquire
  split
  next found => exact ⟨rfl, .inl ⟨rfl, rfl, by simp [found]⟩⟩
  next config found =>
    split
    next asked => exact ⟨rfl, .inl ⟨rfl, rfl, by simp [found, asked]⟩⟩
    next limit asked =>
      dsimp only
      split
      · refine ⟨rfl, .inr ⟨config, limit, found, asked, .inl ⟨?_, rfl⟩⟩⟩
        split <;> rfl
      next room =>
        exact ⟨rfl,
          .inr ⟨config, limit, found, asked, .inr ⟨rfl, Nat.lt_of_not_le room, rfl⟩⟩⟩

theorem clientBuckets_setBucket (timestamps : List ℚ) :
    (limiter.setBucket group caller timestamps).clientBuckets endpoint client =
      if group = endpoint ∧ caller = client then timestamps
      else limiter.clientBuckets endpoint client := by
  unfold setBucket
  by_cases here : group = endpoint
  · subst here
    by_cases own : caller = client
    · subst own
      simp
    · simp [own, Function.update_of_ne (Ne.symm own)]
  · simp [here, Function.update_of_ne (Ne.symm here)]

/-- The step: with its time if it is let through, the bucket of the client goes on tracking. -/
theorem tracks_acquire
    (configured : limiter.configs endpoint = some ⟨some limit, windowSeconds⟩)
    (tracks : Tracks limit windowSeconds now accepted (limiter.clientBuckets endpoint client)) :
    Tracks limit windowSeconds now
      (accepted ++ if (limiter.acquire group caller now).1.isOk ∧ group = endpoint ∧ caller = client
        then [now] else [])
      ((limiter.acquire group caller now).2.clientBuckets endpoint client) := by
  obtain ⟨-, ⟨passed, same, free⟩ | ⟨config, bound, found, asked, outcome⟩⟩ :=
    acquire_cases limiter group caller now
  · have apart : group ≠ endpoint := by
      rintro rfl
      simp [configured] at free
    rw [if_neg fun both => apart both.2.1, same, List.append_nil]
    exact tracks
  · by_cases own : group = endpoint ∧ caller = client
    · obtain ⟨rfl, rfl⟩ := own
      obtain rfl := Option.some.inj (configured.symm.trans found)
      obtain rfl := Option.some.inj asked
      rcases outcome with ⟨refused, cleaned⟩ | ⟨passed, room, recorded⟩
      · rw [if_neg (by simp [refused]), List.append_nil, cleaned, clientBuckets_setBucket,
          if_pos ⟨rfl, rfl⟩]
        exact tracks.expire
      · rw [if_pos ⟨passed, rfl, rfl⟩, recorded, clientBuckets_setBucket, if_pos ⟨rfl, rfl⟩]
        exact tracks.expire.accept room
    · rw [if_neg fun both => own both.2, List.append_nil]
      rcases outcome with ⟨-, cleaned⟩ | ⟨-, -, recorded⟩
      · rw [cleaned, clientBuckets_setBucket, if_neg own]
        exact tracks
      · rw [recorded, clientBuckets_setBucket, if_neg own]
        exact tracks

/-- The run: whatever was accepted before, the window of the client is not exceeded. -/
theorem tracks_run {calls : List (String × String × ℚ)}
    (configured : limiter.configs endpoint = some ⟨some limit, windowSeconds⟩)
    (tracks : Tracks limit windowSeconds now accepted (limiter.clientBuckets endpoint client))
    (ordered : (now :: calls.map fun call => call.2.2).Pairwise (· ≤ ·)) :
    AtMost limit windowSeconds
      (accepted ++ (EndpointRateLimiter.run endpoint client limiter calls).1) := by
  induction calls generalizing limiter now accepted with
  | nil => simpa [EndpointRateLimiter.run] using tracks.atMost
  | cons call rest ih =>
      obtain ⟨group, caller, time⟩ := call
      obtain ⟨passes, later⟩ := List.pairwise_cons.mp ordered
      have waited := tracks.wait (passes time (.head _))
      have configs := (acquire_cases limiter group caller time).1
      have bounded := ih (configs ▸ configured) (tracks_acquire configured waited) later
      rw [List.append_assoc] at bounded
      rw [EndpointRateLimiter.run]
      dsimp only
      split
      next passed => rwa [if_pos passed, List.singleton_append] at bounded
      next refused => rwa [if_neg refused, List.nil_append] at bounded

/-- A client never gets more than the limit of a group through in a window. -/
theorem run_atMost {configs : String → Option EndpointRateLimitConfig}
    {calls : List (String × String × ℚ)}
    (configured : configs endpoint = some ⟨some limit, windowSeconds⟩)
    (ordered : (calls.map fun call => call.2.2).Pairwise (· ≤ ·)) :
    AtMost limit windowSeconds (EndpointRateLimiter.run endpoint client (new configs) calls).1 := by
  cases calls with
  | nil => exact (Tracks.nil limit windowSeconds 0).atMost
  | cons call rest =>
      have first : ∀ time ∈ (call :: rest).map (fun call => call.2.2), call.2.2 ≤ time :=
        fun time mem => by
          rcases List.mem_cons.mp mem with rfl | later
          · exact le_rfl
          · exact List.rel_of_pairwise_cons ordered later
      have tracks : Tracks limit windowSeconds call.2.2 []
          ((new configs).clientBuckets endpoint client) := .nil _ _ _
      simpa using tracks_run configured tracks (List.pairwise_cons.mpr ⟨first, ordered⟩)

/-- An acquisition that is refused leaves no time in any bucket. -/
theorem acquire_refused (refused : (limiter.acquire group caller now).1.isOk = false)
    (endpoint client : String) :
    (limiter.acquire group caller now).2.clientBuckets endpoint client <:+
      limiter.clientBuckets endpoint client := by
  obtain ⟨-, ⟨passed, -⟩ | ⟨config, bound, -, -, ⟨-, cleaned⟩ | ⟨passed, -⟩⟩⟩ :=
    acquire_cases limiter group caller now
  · rw [passed] at refused
    cases refused
  · rw [cleaned, clientBuckets_setBucket]
    split
    next own =>
      obtain ⟨rfl, rfl⟩ := own
      exact expire_suffix _ _ _
    · exact List.suffix_rfl
  · rw [passed] at refused
    cases refused

end EndpointRateLimiter

/-! ## All limiters -/

open PerClient in
/-- No limiter exceeds a window while the clock does not go back, and what it refuses it does not
record. -/
theorem windows_are_never_exceeded :
    (∀ (limiter : ProviderRateLimiter) (calls : List (ℚ × ℚ)),
      (∀ bucket ∈ limiter.buckets, bucket.timestamps = []) →
        (calls.map Prod.fst).Pairwise (· ≤ ·) →
          ∀ bucket ∈ limiter.buckets,
            AtMost bucket.limit bucket.windowSeconds (limiter.run calls).1) ∧
      (∀ (limiter : ProviderRateLimiter) (now reading : ℚ),
        (limiter.tryAcquire now reading).1.1 = false →
          List.Forall₂ (fun before after : RateLimitBucket => after.timestamps <:+
            before.timestamps)
            limiter.buckets (limiter.tryAcquire now reading).2.buckets) ∧
      (∀ (defaultLimit limit : Nat) (clientForKey : String → Option (String × Nat)) (made : ℚ)
        (client : String) (calls : List (Request × Readings)),
        (made :: RateLimitMiddleware.clock calls).Pairwise (· ≤ ·) →
          (∀ call ∈ calls,
            ((RateLimitMiddleware.new defaultLimit clientForKey made).getClientInfo call.1).1 =
              client →
              ((RateLimitMiddleware.new defaultLimit clientForKey made).getClientInfo call.1).2 =
                limit) →
            AtMost limit window (RateLimitMiddleware.run client
              (RateLimitMiddleware.new defaultLimit clientForKey made) calls).1) ∧
      (∀ (middleware : RateLimitMiddleware) (request : Request) (readings : Readings),
        (middleware.call request readings).1.forwards = false →
          ∀ client,
            (middleware.call request readings).2.timestamps client <:+ middleware.timestamps
              client) ∧
      (∀ (configs : String → Option EndpointRateLimitConfig) (endpoint client : String)
        (limit : Nat)
        (windowSeconds : ℚ) (calls : List (String × String × ℚ)),
        configs endpoint = some ⟨some limit, windowSeconds⟩ →
          (calls.map fun call => call.2.2).Pairwise (· ≤ ·) →
            AtMost limit windowSeconds
              (EndpointRateLimiter.run endpoint client (EndpointRateLimiter.new configs) calls).1) ∧
      ∀ (limiter : EndpointRateLimiter) (group caller : String) (now : ℚ),
        (limiter.acquire group caller now).1.isOk = false →
          ∀ endpoint client,
            (limiter.acquire group caller now).2.clientBuckets endpoint client <:+
              limiter.clientBuckets endpoint client := by
  refine ⟨fun limiter calls fresh ordered => ProviderRateLimiter.run_atMost fresh ordered,
    fun limiter now reading refused => ?_,
    fun defaultLimit limit clientForKey made client calls ordered constant =>
      RateLimitMiddleware.run_atMost ordered constant,
    fun middleware request readings refused client => RateLimitMiddleware.call_refused refused
      client,
    fun configs endpoint client limit windowSeconds calls configured ordered =>
      EndpointRateLimiter.run_atMost configured ordered,
    fun limiter group caller now refused endpoint client =>
      EndpointRateLimiter.acquire_refused refused endpoint client⟩
  rcases ProviderRateLimiter.tryAcquire_cases limiter now reading with ⟨-, cleaned⟩ | ⟨passed, -⟩
  · exact cleaned.imp fun _ _ kept => kept.suffix
  · rw [passed] at refused
    cases refused

/-! ## Two calls within a second -/

/-- A limiter for one call in a second. -/
def oneCall : ProviderRateLimiter := .new (some 1) 60 none

/-- The limiter after a call at the start of the second. -/
def calledOnce : ProviderRateLimiter := (oneCall.tryAcquire 0 0).2

/-- A group of endpoints that is called once in an hour. -/
def hourly (endpoint : String) : Option EndpointRateLimitConfig :=
  if endpoint = "bulk" then some ⟨some 1, 3600⟩ else none

open PerClient in
/-- Two requests of one address, half a second apart. -/
def twoRequests : List (Request × Readings) :=
  [(⟨none, "", none⟩, ⟨0, 0, 0, 0⟩), (⟨none, "", none⟩, ⟨1 / 2, 1 / 2, 1 / 2, 1 / 2⟩)]

open PerClient in
/-- Of two calls within a window that is for one, the second is refused. -/
theorem second_call_is_refused :
    AtMost 1 1 (oneCall.run [(0, 0), (1 / 2, 1 / 2)]).1 ∧
      (oneCall.run [(0, 0), (1 / 2, 1 / 2)]).1 = [0] ∧
      List.Forall₂ (fun before after : RateLimitBucket => after.timestamps <:+ before.timestamps)
        calledOnce.buckets (calledOnce.tryAcquire (1 / 2) (1 / 2)).2.buckets ∧
      AtMost 1 window (RateLimitMiddleware.run "ip:unknown"
        (.new 1 (fun _ => none) 0) twoRequests).1 ∧
      ((RateLimitMiddleware.new 0 (fun _ => none) 0).call ⟨none, "", none⟩
        ⟨0, 0, 0, 0⟩).2.timestamps
        "ip:unknown" <:+ [] ∧
      AtMost 1 3600 (EndpointRateLimiter.run "bulk" "a" (.new hourly)
        [("bulk", "a", 0), ("bulk", "a", 1 / 2)]).1 ∧
      ((EndpointRateLimiter.mk hourly fun _ _ => [0]).acquire "bulk" "a" 1).2.clientBuckets
        "bulk" "a" <:+ [0] := by
  obtain ⟨provider, providerRefused, client, clientRefused, endpoint, endpointRefused⟩ :=
    windows_are_never_exceeded
  exact ⟨provider oneCall _ (by decide) (by decide +kernel) (.new 1 1) (.head _), by decide +kernel,
    providerRefused calledOnce _ _ (by decide +kernel),
    client 1 1 _ 0 _ _ (by decide +kernel) (by decide +kernel),
    clientRefused _ _ _ (by decide +kernel) _,
    endpoint hourly "bulk" "a" 1 3600 _ rfl (by decide +kernel),
    endpointRefused _ _ _ _ (by decide +kernel) _ _⟩

end RateLimit
end DataGateway
