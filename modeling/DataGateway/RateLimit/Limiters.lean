import DataGateway.RateLimit.Window
import Mathlib.Algebra.Order.Floor.Ring
import Mathlib.Algebra.Order.Ring.Unbundled.Rat
import Mathlib.Data.Rat.Floor

/-!
# Rate limiters

Calls to a provider are limited by the second, the minute and the day at once, requests of a client
by the minute, and the calls of a client to a group of endpoints by a window of its own.  Times are
what the clock read.
-/

namespace DataGateway
namespace RateLimit

open SlidingWindow

/-- What `reset_after` computes: how long the oldest of the times stays in its window. -/
def untilReset (window reading : ℚ) : List ℚ → ℚ
  | [] => 0
  | oldest :: _ => max 0 (oldest + window - reading)

/-! ## Providers -/

/-- `RateLimitBucket` of the providers. -/
structure RateLimitBucket where
  limit : Nat
  windowSeconds : ℚ
  timestamps : List ℚ

namespace RateLimitBucket

/-- A bucket before its first request. -/
def new (limit : Nat) (windowSeconds : ℚ) : RateLimitBucket := ⟨limit, windowSeconds, []⟩

/-- `_cleanup`. -/
def cleanup (now : ℚ) (bucket : RateLimitBucket) : RateLimitBucket :=
  { bucket with timestamps := expire bucket.windowSeconds now bucket.timestamps }

/-- `len(timestamps) >= limit`. -/
def full (bucket : RateLimitBucket) : Bool := bucket.limit ≤ bucket.timestamps.length

/-- `timestamps.append`. -/
def record (now : ℚ) (bucket : RateLimitBucket) : RateLimitBucket :=
  { bucket with timestamps := bucket.timestamps ++ [now] }

/-- `max(least, int(reset_after) + 1)`, with a second reading of the clock. -/
def retryAfter (bucket : RateLimitBucket) (reading : ℚ) (least : ℤ) : ℤ :=
  max least (⌊untilReset bucket.windowSeconds reading bucket.timestamps⌋ + 1)

end RateLimitBucket

/-- `ProviderRateLimiter`. -/
structure ProviderRateLimiter where
  perSecond : Option RateLimitBucket
  perMinute : RateLimitBucket
  perDay : Option RateLimitBucket
  totalRequests : Nat

namespace ProviderRateLimiter

/-- The limiter that is made for the limits of a provider. -/
def new (requestsPerSecond : Option Nat) (requestsPerMinute : Nat) (requestsPerDay : Option Nat) :
    ProviderRateLimiter where
  perSecond := requestsPerSecond.map fun limit => .new limit 1
  perMinute := .new requestsPerMinute 60
  perDay := requestsPerDay.map fun limit => .new limit 86400
  totalRequests := 0

/-- The buckets that a limiter has. -/
def buckets (limiter : ProviderRateLimiter) : List RateLimitBucket :=
  limiter.perSecond.toList ++ [limiter.perMinute] ++ limiter.perDay.toList

/-- `try_acquire`: every bucket is checked before any records. -/
def tryAcquire (limiter : ProviderRateLimiter) (now reading : ℚ) :
    (Bool × ℤ) × ProviderRateLimiter :=
  let perSecond := limiter.perSecond.map (RateLimitBucket.cleanup now)
  match perSecond.filter RateLimitBucket.full with
  | some bucket => ((false, bucket.retryAfter reading 1), { limiter with perSecond := perSecond })
  | none =>
      let perMinute := limiter.perMinute.cleanup now
      if perMinute.full then
        ((false, perMinute.retryAfter reading 1),
          { limiter with perSecond := perSecond, perMinute := perMinute })
      else
        let perDay := limiter.perDay.map (RateLimitBucket.cleanup now)
        match perDay.filter RateLimitBucket.full with
        | some bucket =>
            ((false, bucket.retryAfter reading 60),
              { limiter with perSecond := perSecond, perMinute := perMinute, perDay := perDay })
        | none =>
            ((true, 0),
              { perSecond := perSecond.map (RateLimitBucket.record now)
                perMinute := perMinute.record now
                perDay := perDay.map (RateLimitBucket.record now)
                totalRequests := limiter.totalRequests + 1 })

/-- The times at which a sequence of calls is let through, with the limiter after them; each call
reads the clock once, and again for the time to wait. -/
def run (limiter : ProviderRateLimiter) : List (ℚ × ℚ) → List ℚ × ProviderRateLimiter
  | [] => ([], limiter)
  | (now, reading) :: rest =>
      let acquired := limiter.tryAcquire now reading
      let later := acquired.2.run rest
      (if acquired.1.1 then now :: later.1 else later.1, later.2)

end ProviderRateLimiter

/-! ## Clients -/

namespace PerClient

/-- `RateLimitBucket` of the clients. -/
structure RateLimitBucket where
  limit : Nat
  remaining : Nat
  resetAt : ℚ
  lastSeen : ℚ
  timestamps : List ℚ

/-- `_window`. -/
def window : ℚ := 60

namespace RateLimitBucket

/-- A bucket of a client that comes for the first time, or again after it was pruned. -/
def new (limit : Nat) (made : ℚ) : RateLimitBucket := ⟨limit, limit, made + 60, made, []⟩

/-- A client with another limit than before. -/
def setLimit (bucket : RateLimitBucket) (limit : Nat) : RateLimitBucket :=
  if bucket.limit = limit then bucket
  else { bucket with limit := limit, remaining := min bucket.remaining limit }

/-- `reset_at` for the times in the window. -/
def resets (now : ℚ) (timestamps : List ℚ) : ℚ := timestamps.headD now + window

/-- `consume`. -/
def consume (bucket : RateLimitBucket) (now : ℚ) : Bool × RateLimitBucket :=
  let timestamps := expire window now bucket.timestamps
  if timestamps.length < bucket.limit then
    (true,
      { bucket with
        lastSeen := now
        timestamps := timestamps ++ [now]
        remaining := bucket.limit - (timestamps ++ [now]).length
        resetAt := resets now (timestamps ++ [now]) })
  else
    (false,
      { bucket with
        lastSeen := now
        timestamps := timestamps
        remaining := 0
        resetAt := resets now timestamps })

/-- `reset_after`. -/
def resetAfter (bucket : RateLimitBucket) (reading : ℚ) : ℤ :=
  max 0 ⌊untilReset window reading bucket.timestamps⌋

end RateLimitBucket

/-- The headers about the limit. -/
structure RateLimitHeaders where
  limit : Nat
  remaining : Nat
  reset : ℤ
  resetAfter : ℤ

/-- `_rate_limit_headers`. -/
def rateLimitHeaders (bucket : RateLimitBucket) (reading : ℚ) : RateLimitHeaders :=
  ⟨bucket.limit, bucket.remaining, ⌊bucket.resetAt⌋, bucket.resetAfter reading⟩

/-- What is read of a request. -/
structure Request where
  /-- `request.state.client`, with its id and its limit. -/
  client : Option (String × Nat)
  gatewayKey : String
  host : Option String

/-- How a request is answered. -/
inductive Answer
  /-- 429 with `GW-E4001`. -/
  | limited (headers : RateLimitHeaders) (retryAfter : ℤ)
  | forwarded (headers : RateLimitHeaders)

/-- The request goes on to the application. -/
def Answer.forwards : Answer → Bool
  | .limited _ _ => false
  | .forwarded _ => true

/-- What the clock reads while a request is handled. -/
structure Readings where
  started : ℚ
  made : ℚ
  consumed : ℚ
  answered : ℚ

/-- `RateLimitMiddleware`, with the authenticator's `client_for_key`. -/
structure RateLimitMiddleware where
  defaultLimit : Nat
  clientForKey : String → Option (String × Nat)
  buckets : String → Option RateLimitBucket
  lastPrune : ℚ

namespace RateLimitMiddleware

/-- A middleware before its first request. -/
def new (defaultLimit : Nat) (clientForKey : String → Option (String × Nat)) (made : ℚ) :
    RateLimitMiddleware := ⟨defaultLimit, clientForKey, fun _ => none, made⟩

/-- `_prune_buckets`. -/
def pruneBuckets (middleware : RateLimitMiddleware) (now : ℚ) : RateLimitMiddleware :=
  if now - middleware.lastPrune < 60 then middleware
  else
    { middleware with
      buckets := fun client =>
        (middleware.buckets client).filter fun bucket => !decide (bucket.lastSeen < now - 120)
      lastPrune := now }

/-- `_get_client_info`. -/
def getClientInfo (middleware : RateLimitMiddleware) (request : Request) : String × Nat :=
  match request.client with
  | some client => client
  | none =>
      if request.gatewayKey = "" then
        ("ip:" ++ request.host.getD "unknown", middleware.defaultLimit)
      else
        match middleware.clientForKey request.gatewayKey with
        | some client => client
        | none =>
            ("key:" ++ String.ofList (request.gatewayKey.toList.take 16), middleware.defaultLimit)

/-- `__call__`, up to the application. -/
def call (middleware : RateLimitMiddleware) (request : Request) (readings : Readings) :
    Answer × RateLimitMiddleware :=
  let pruned := middleware.pruneBuckets readings.started
  let (client, limit) := pruned.getClientInfo request
  let bucket := (pruned.buckets client).getD (.new limit readings.made)
  let consumed := (bucket.setLimit limit).consume readings.consumed
  let headers := rateLimitHeaders consumed.2 readings.answered
  (if consumed.1 then .forwarded headers
    else .limited headers (consumed.2.resetAfter readings.answered),
    { pruned with buckets := Function.update pruned.buckets client (some consumed.2) })

/-- The times at which requests of one client are let through, with the middleware after them. -/
def run (client : String) (middleware : RateLimitMiddleware) :
    List (Request × Readings) → List ℚ × RateLimitMiddleware
  | [] => ([], middleware)
  | (request, readings) :: rest =>
      let called := middleware.call request readings
      let later := run client called.2 rest
      (if called.1.forwards ∧ (middleware.getClientInfo request).1 = client then
          readings.consumed :: later.1
        else later.1,
        later.2)

end RateLimitMiddleware

end PerClient

/-! ## Groups of endpoints -/

/-- `EndpointRateLimitConfig`, without its limit on sessions. -/
structure EndpointRateLimitConfig where
  requestsPerWindow : Option Nat
  windowSeconds : ℚ

/-- What `acquire` raises. -/
inductive AcquireError
  /-- `EndpointRateLimitExceeded`, with the numbers of its message. -/
  | exceeded (endpoint : String) (retryAfter : ℚ) (used limit : Nat) (windowSeconds : ℚ)
  /-- `IndexError`: a limit of zero leaves no oldest time. -/
  | indexError

/-- `EndpointRateLimiter`, with the windows of its clients. -/
structure EndpointRateLimiter where
  configs : String → Option EndpointRateLimitConfig
  clientBuckets : String → String → List ℚ

namespace EndpointRateLimiter

/-- A configured limiter before its first request. -/
def new (configs : String → Option EndpointRateLimitConfig) : EndpointRateLimiter :=
  ⟨configs, fun _ _ => []⟩

/-- Put the times of a client in place. -/
def setBucket (limiter : EndpointRateLimiter) (endpoint client : String) (timestamps : List ℚ) :
    EndpointRateLimiter :=
  { limiter with
    clientBuckets := Function.update limiter.clientBuckets endpoint
      (Function.update (limiter.clientBuckets endpoint) client timestamps) }

/-- `acquire`. -/
def acquire (limiter : EndpointRateLimiter) (endpoint client : String) (now : ℚ) :
    Except AcquireError Unit × EndpointRateLimiter :=
  match limiter.configs endpoint with
  | none => (.ok (), limiter)
  | some config =>
      match config.requestsPerWindow with
      | none => (.ok (), limiter)
      | some limit =>
          let timestamps := expire config.windowSeconds now (limiter.clientBuckets endpoint client)
          if limit ≤ timestamps.length then
            (match timestamps with
              | [] => .error .indexError
              | oldest :: _ =>
                  .error (.exceeded endpoint (max (oldest + config.windowSeconds - now) (1 / 10))
                    timestamps.length limit config.windowSeconds),
              limiter.setBucket endpoint client timestamps)
          else (.ok (), limiter.setBucket endpoint client (timestamps ++ [now]))

/-- The times at which one client is let through to one group, with the limiter after all calls. -/
def run (endpoint client : String) (limiter : EndpointRateLimiter) :
    List (String × String × ℚ) → List ℚ × EndpointRateLimiter
  | [] => ([], limiter)
  | (group, caller, now) :: rest =>
      let acquired := limiter.acquire group caller now
      let later := run endpoint client acquired.2 rest
      (if acquired.1.isOk ∧ group = endpoint ∧ caller = client then now :: later.1 else later.1,
        later.2)

end EndpointRateLimiter

end RateLimit
end DataGateway
