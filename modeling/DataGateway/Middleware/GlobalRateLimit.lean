import DataGateway.Middleware.ClientIp
import DataGateway.RateLimit.Window
import Mathlib.Algebra.Order.Floor.Ring
import Mathlib.Algebra.Order.Ring.Unbundled.Rat
import Mathlib.Data.Finset.Basic
import Mathlib.Data.Rat.Floor

/-!
# The limits of the gateway and of an address

`GlobalRateLimitMiddleware` counts all requests since the start of a window, and those of an address
since its first one.  Addresses are blocked by their count or by an administrator, in a set and in
the same counters.  Times are what the clock read.
-/

namespace DataGateway
namespace Middleware

/-- `IPConnectionTracker`. -/
structure IPConnectionTracker where
  requests : Nat
  firstRequest : ℚ
  blockedUntil : ℚ
  lastSeen : ℚ

/-- `IPConnectionTracker(requests=1, first_request=now, last_seen=now)`. -/
def IPConnectionTracker.first (now : ℚ) : IPConnectionTracker := ⟨1, now, 0, now⟩

/-- What the middleware reads of an ASGI scope. -/
structure Scope extends ClientScope where
  type : String
  path : String

/-- `_HEALTH_PATHS`. -/
def healthPaths : List String := ["/health", "/health/ready"]

/-- The request is counted. -/
def Scope.counts (scope : Scope) : Bool := scope.type = "http" && scope.path ∉ healthPaths

/-- The body of a refusal, which has the status 429. -/
structure Refusal where
  code : String
  message : String
  retryAfter : ℤ
  deriving DecidableEq

/-- How the middleware answers. -/
inductive GlobalAnswer
  | forwarded
  | refused (refusal : Refusal)
  /-- A `UnicodeDecodeError` of `_get_client_ip`. -/
  | raised
  deriving DecidableEq

/-- What the clock reads while a request is handled. -/
structure GlobalReadings where
  pruned : ℚ
  reset : ℚ
  checked : ℚ
  answered : ℚ

/-- `GlobalRateLimitMiddleware`. -/
structure GlobalRateLimitMiddleware where
  globalLimit : Nat
  perIpLimit : Nat
  windowSeconds : Nat
  trustProxyHeaders : Bool
  trustedProxies : List IpNetwork
  globalRequests : Nat
  globalWindowStart : ℚ
  ipTrackers : String → Option IPConnectionTracker
  blockedIps : Finset String
  lastPrune : ℚ

namespace GlobalRateLimitMiddleware

/-- A middleware before its first request. -/
def new (globalLimit perIpLimit windowSeconds : Nat) (trustProxyHeaders : Bool)
    (trustedProxies : List IpNetwork) (started pruned : ℚ) : GlobalRateLimitMiddleware :=
  ⟨globalLimit, perIpLimit, windowSeconds, trustProxyHeaders, trustedProxies, 0, started,
    fun _ => none, ∅, pruned⟩

variable (middleware : GlobalRateLimitMiddleware)

/-- Put the tracker of an address in place. -/
def setTracker (ip : String) (tracker : IPConnectionTracker) : GlobalRateLimitMiddleware :=
  { middleware with ipTrackers := Function.update middleware.ipTrackers ip (some tracker) }

/-- `_reset_window_if_needed`. -/
def resetWindowIfNeeded (now : ℚ) : GlobalRateLimitMiddleware :=
  if middleware.windowSeconds ≤ now - middleware.globalWindowStart then
    { middleware with globalRequests := 0, globalWindowStart := now }
  else middleware

/-- The address is in the set, and its block has not run out. -/
def blocked (ip : String) (now : ℚ) : Bool :=
  ip ∈ middleware.blockedIps &&
    (middleware.ipTrackers ip).any fun tracker => now < tracker.blockedUntil

/-- `_check_ip_limit`. -/
def checkIpLimit (ip : String) (now : ℚ) : Bool × GlobalRateLimitMiddleware :=
  if middleware.blocked ip now then (false, middleware)
  else
    let unblocked := { middleware with blockedIps := middleware.blockedIps.erase ip }
    match middleware.ipTrackers ip with
    | none => (true, unblocked.setTracker ip (.first now))
    | some tracker =>
        if middleware.windowSeconds ≤ now - tracker.firstRequest then
          (true, unblocked.setTracker ip (.first now))
        else
          let counted := { tracker with requests := tracker.requests + 1, lastSeen := now }
          if middleware.perIpLimit < counted.requests then
            let full :=
              { counted with blockedUntil := tracker.firstRequest + middleware.windowSeconds }
            (false, { unblocked.setTracker ip full with
              blockedIps := insert ip unblocked.blockedIps })
          else (true, unblocked.setTracker ip counted)

/-- `_prune_ip_trackers`. -/
def pruneIpTrackers (now : ℚ) : GlobalRateLimitMiddleware :=
  if now - middleware.lastPrune < 60 then middleware
  else
    let cutoff := now - middleware.windowSeconds * 2
    let ipTrackers := fun ip => (middleware.ipTrackers ip).filter fun tracker =>
      now < tracker.blockedUntil || !decide (tracker.lastSeen < cutoff)
    { middleware with
      ipTrackers := ipTrackers
      -- an address without a tracker goes in the first loop or in the second
      blockedIps := middleware.blockedIps.filter fun ip =>
        (ipTrackers ip).any fun tracker => now < tracker.blockedUntil
      lastPrune := now }

/-- `max(1, int(start + self.window_seconds - time.time()))`. -/
def retryAfter (start now : ℚ) : ℤ := max 1 ⌊start + middleware.windowSeconds - now⌋

/-- `__call__`, up to the application. -/
def call (scope : Scope) (readings : GlobalReadings) : GlobalAnswer × GlobalRateLimitMiddleware :=
  if scope.type ≠ "http" then (.forwarded, middleware)
  else
    let pruned := middleware.pruneIpTrackers readings.pruned
    if scope.path ∈ healthPaths then (.forwarded, pruned)
    else
      let started := pruned.resetWindowIfNeeded readings.reset
      if started.globalLimit ≤ started.globalRequests then
        (.refused ⟨"GW-E4029", "Global rate limit exceeded",
          started.retryAfter started.globalWindowStart readings.answered⟩, started)
      else
        match getClientIp started.trustProxyHeaders started.trustedProxies scope.toClientScope with
        | none => (.raised, started)
        | some ip =>
            let checked := started.checkIpLimit ip readings.checked
            if checked.1 then
              (.forwarded, { checked.2 with globalRequests := checked.2.globalRequests + 1 })
            else
              (.refused ⟨"GW-E4029", "IP rate limit exceeded",
                match checked.2.ipTrackers ip with
                | some tracker => checked.2.retryAfter tracker.firstRequest readings.answered
                | none => 60⟩, checked.2)

/-- `block_ip`; a new tracker reads the clock twice. -/
def blockIp (ip : String) (duration : ℤ) (first seen now : ℚ) : GlobalRateLimitMiddleware :=
  let tracker := (middleware.ipTrackers ip).getD ⟨0, first, 0, seen⟩
  { middleware.setTracker ip { tracker with blockedUntil := now + duration } with
    blockedIps := insert ip middleware.blockedIps }

/-- `unblock_ip`. -/
def unblockIp (ip : String) : GlobalRateLimitMiddleware :=
  { middleware with
    blockedIps := middleware.blockedIps.erase ip
    ipTrackers := Function.update middleware.ipTrackers ip
      ((middleware.ipTrackers ip).map fun tracker => { tracker with blockedUntil := 0 }) }

/-- `get_blocked_ips`. -/
def getBlockedIps : Finset String := middleware.blockedIps

/-! ## Runs -/

/-- What is asked of the middleware, with what the clock reads meanwhile. -/
inductive Call
  | request (scope : Scope) (readings : GlobalReadings)
  | blockIp (ip : String) (duration : ℤ) (first seen now : ℚ)
  | unblockIp (ip : String) (now : ℚ)
  | getBlockedIps (now : ℚ)

/-- The readings of a call. -/
def Call.clock : Call → List ℚ
  | .request _ readings => [readings.pruned, readings.reset, readings.checked, readings.answered]
  | .blockIp _ _ first seen now => [first, seen, now]
  | .unblockIp _ now => [now]
  | .getBlockedIps now => [now]

/-- The middleware after a call. -/
def after : Call → GlobalRateLimitMiddleware
  | .request scope readings => (middleware.call scope readings).2
  | .blockIp ip duration first seen now => middleware.blockIp ip duration first seen now
  | .unblockIp ip _ => middleware.unblockIp ip
  | .getBlockedIps _ => middleware

/-- The middleware when the limits are checked. -/
def atCheck (readings : GlobalReadings) : GlobalRateLimitMiddleware :=
  (middleware.pruneIpTrackers readings.pruned).resetWindowIfNeeded readings.reset

/-- The address whose limit is checked. -/
def checkedIp (scope : Scope) (readings : GlobalReadings) : Option String :=
  if scope.counts ∧ (middleware.atCheck readings).globalRequests < middleware.globalLimit then
    getClientIp middleware.trustProxyHeaders middleware.trustedProxies scope.toClientScope
  else none

/-- The check of an address, as a request makes it. -/
def check (ip : String) (readings : GlobalReadings) : Bool × GlobalRateLimitMiddleware :=
  (middleware.atCheck readings).checkIpLimit ip readings.checked

/-- What is remembered of a call. -/
inductive Deed
  | checked (ip : String) (time : ℚ) (forwarded : Bool)
  | blocked (ip : String) (until_ : ℚ)
  | unblocked (ip : String)

/-- What a call does. -/
def deeds : Call → List Deed
  | .request scope readings =>
      match middleware.checkedIp scope readings with
      | some ip => [.checked ip readings.checked (middleware.check ip readings).1]
      | none => []
  | .blockIp ip duration _ _ now => [.blocked ip (now + duration)]
  | .unblockIp ip _ => [.unblocked ip]
  | .getBlockedIps _ => []

/-- The middleware is reached from a new one by calls that all meet a rule, while the clock does not
go back. -/
inductive Reached (rule : GlobalRateLimitMiddleware → List Deed → Call → Prop)
    (fresh : GlobalRateLimitMiddleware) (made : ℚ) :
    ℚ → List Deed → GlobalRateLimitMiddleware → Prop
  | start : Reached rule fresh made made [] fresh
  | step {now : ℚ} {history : List Deed} {middleware : GlobalRateLimitMiddleware}
      (reached : Reached rule fresh made now history middleware) (call : Call)
      (ordered : (now :: call.clock).Pairwise (· ≤ ·)) (meets : rule middleware history call) :
      Reached rule fresh made ((now :: call.clock).getLast (List.cons_ne_nil _ _))
        (history ++ middleware.deeds call) (middleware.after call)

/-! ## What a call does -/

variable {middleware : GlobalRateLimitMiddleware} {scope : Scope} {readings : GlobalReadings}

/-- Pruning changes the trackers and the set only. -/
theorem pruneIpTrackers_frame (middleware : GlobalRateLimitMiddleware) (now : ℚ) :
    ∃ ipTrackers blockedIps lastPrune, middleware.pruneIpTrackers now =
      { middleware with
        ipTrackers := ipTrackers, blockedIps := blockedIps, lastPrune := lastPrune } := by
  unfold pruneIpTrackers
  split
  · exact ⟨_, _, _, rfl⟩
  · exact ⟨_, _, _, rfl⟩

/-- Before the check of an address the settings and the trackers that were kept stay as they are. -/
theorem atCheck_frame (middleware : GlobalRateLimitMiddleware) (readings : GlobalReadings) :
    ∃ globalRequests globalWindowStart, middleware.atCheck readings =
      { middleware.pruneIpTrackers readings.pruned with
        globalRequests := globalRequests, globalWindowStart := globalWindowStart } := by
  unfold atCheck resetWindowIfNeeded
  split
  · exact ⟨_, _, rfl⟩
  · exact ⟨_, _, rfl⟩

/-- The settings are those of the middleware. -/
structure SameSettings (first second : GlobalRateLimitMiddleware) : Prop where
  globalLimit : first.globalLimit = second.globalLimit
  perIpLimit : first.perIpLimit = second.perIpLimit
  windowSeconds : first.windowSeconds = second.windowSeconds
  trustProxyHeaders : first.trustProxyHeaders = second.trustProxyHeaders
  trustedProxies : first.trustedProxies = second.trustedProxies

theorem pruneIpTrackers_settings (middleware : GlobalRateLimitMiddleware) (now : ℚ) :
    (middleware.pruneIpTrackers now).SameSettings middleware := by
  obtain ⟨ipTrackers, blockedIps, lastPrune, same⟩ := middleware.pruneIpTrackers_frame now
  rw [same]
  exact ⟨rfl, rfl, rfl, rfl, rfl⟩

theorem atCheck_settings (middleware : GlobalRateLimitMiddleware) (readings : GlobalReadings) :
    (middleware.atCheck readings).SameSettings middleware := by
  obtain ⟨globalRequests, globalWindowStart, same⟩ := middleware.atCheck_frame readings
  have pruned := middleware.pruneIpTrackers_settings readings.pruned
  rw [same]
  exact ⟨pruned.globalLimit, pruned.perIpLimit, pruned.windowSeconds, pruned.trustProxyHeaders,
    pruned.trustedProxies⟩

/-- An address is blocked, or its window begins, or its request is the next one of the window, which
may be one too many. -/
theorem checkIpLimit_cases (middleware : GlobalRateLimitMiddleware) (ip : String) (now : ℚ) :
    middleware.blocked ip now = true ∧ middleware.checkIpLimit ip now = (false, middleware) ∨
      middleware.blocked ip now = false ∧
        ((∀ tracker ∈ middleware.ipTrackers ip,
              middleware.windowSeconds ≤ now - tracker.firstRequest) ∧
            middleware.checkIpLimit ip now = (true, { middleware.setTracker ip (.first now) with
              blockedIps := middleware.blockedIps.erase ip }) ∨
          ∃ tracker, middleware.ipTrackers ip = some tracker ∧
            now - tracker.firstRequest < middleware.windowSeconds ∧
            (middleware.perIpLimit ≤ tracker.requests ∧
                middleware.checkIpLimit ip now = (false, { middleware.setTracker ip
                  ⟨tracker.requests + 1, tracker.firstRequest,
                    tracker.firstRequest + middleware.windowSeconds, now⟩ with
                  blockedIps := insert ip (middleware.blockedIps.erase ip) }) ∨
              tracker.requests < middleware.perIpLimit ∧
                middleware.checkIpLimit ip now = (true, { middleware.setTracker ip
                  ⟨tracker.requests + 1, tracker.firstRequest, tracker.blockedUntil, now⟩ with
                  blockedIps := middleware.blockedIps.erase ip }))) := by
  unfold checkIpLimit
  split
  next blocked => exact .inl ⟨blocked, rfl⟩
  next opened =>
    refine .inr ⟨by simpa using opened, ?_⟩
    cases found : middleware.ipTrackers ip with
    | none => exact .inl ⟨nofun, rfl⟩
    | some tracker =>
        dsimp only
        split
        next ends =>
          refine .inl ⟨?_, rfl⟩
          rintro _ ⟨⟩
          exact ends
        next runs =>
          refine .inr ⟨tracker, rfl, not_le.mp runs, ?_⟩
          split
          next full => exact .inl ⟨Nat.lt_succ_iff.mp full, rfl⟩
          next room => exact .inr ⟨Nat.lt_of_succ_le (Nat.not_lt.mp room), rfl⟩

/-- The check of an address changes the trackers and the set only. -/
theorem checkIpLimit_frame (middleware : GlobalRateLimitMiddleware) (ip : String) (now : ℚ) :
    ∃ ipTrackers blockedIps, (middleware.checkIpLimit ip now).2 =
      { middleware with ipTrackers := ipTrackers, blockedIps := blockedIps } := by
  rcases middleware.checkIpLimit_cases ip now with ⟨-, same⟩ |
    ⟨-, ⟨-, same⟩ | ⟨tracker, -, -, ⟨-, same⟩ | ⟨-, same⟩⟩⟩ <;>
      (rw [same]; exact ⟨_, _, rfl⟩)

/-- A request is not counted, or it is refused or raises before the check of its address, or its
address is checked. -/
theorem call_cases (middleware : GlobalRateLimitMiddleware) (scope : Scope)
    (readings : GlobalReadings) :
    middleware.checkedIp scope readings = none ∧
        ((middleware.call scope readings).2 = middleware ∨
          (middleware.call scope readings).2 = middleware.pruneIpTrackers readings.pruned ∨
          scope.counts = true ∧ (middleware.call scope readings).1 ≠ .forwarded ∧
            (middleware.call scope readings).2 = middleware.atCheck readings) ∨
      ∃ ip, middleware.checkedIp scope readings = some ip ∧ scope.counts = true ∧
        (middleware.atCheck readings).globalRequests < middleware.globalLimit ∧
        ((middleware.check ip readings).1 = true ∧
            (middleware.call scope readings).1 = .forwarded ∧
            (middleware.call scope readings).2 =
              { (middleware.check ip readings).2 with
                globalRequests := (middleware.check ip readings).2.globalRequests + 1 } ∨
          (middleware.check ip readings).1 = false ∧
            (middleware.call scope readings).1 ≠ .forwarded ∧
            (middleware.call scope readings).2 = (middleware.check ip readings).2) := by
  have settings := middleware.atCheck_settings readings
  unfold call checkedIp
  by_cases http : scope.type = "http"
  case neg => simp [http, Scope.counts]
  by_cases health : scope.path ∈ healthPaths
  case pos => simp [http, health, Scope.counts]
  have counts : scope.counts = true := by simp [Scope.counts, http, health]
  rw [if_neg (not_not_intro http), if_neg health]
  dsimp only
  rw [show (middleware.pruneIpTrackers readings.pruned).resetWindowIfNeeded readings.reset =
    middleware.atCheck readings from rfl, settings.globalLimit,
    settings.trustProxyHeaders, settings.trustedProxies]
  by_cases room : (middleware.atCheck readings).globalRequests < middleware.globalLimit
  case neg =>
    rw [if_pos (Nat.not_lt.mp room), if_neg fun both => room both.2]
    exact .inl ⟨rfl, .inr (.inr ⟨counts, nofun, rfl⟩)⟩
  rw [if_neg (Nat.not_le.mpr room), if_pos ⟨counts, room⟩]
  cases found : getClientIp middleware.trustProxyHeaders middleware.trustedProxies
      scope.toClientScope with
  | none => exact .inl ⟨rfl, .inr (.inr ⟨counts, nofun, rfl⟩)⟩
  | some ip =>
      refine .inr ⟨ip, rfl, counts, room, ?_⟩
      dsimp only
      cases passed : (middleware.check ip readings).1 with
      | true =>
          refine .inl ⟨rfl, ?_⟩
          unfold check at passed ⊢
          rw [if_pos passed]
          exact ⟨rfl, rfl⟩
      | false =>
          refine .inr ⟨rfl, ?_⟩
          unfold check at passed ⊢
          rw [if_neg (by simp [passed])]
          exact ⟨nofun, rfl⟩

theorem after_settings (middleware : GlobalRateLimitMiddleware) (call : Call) :
    (middleware.after call).SameSettings middleware := by
  cases call with
  | request scope readings =>
      have settings := middleware.atCheck_settings readings
      rw [after]
      rcases middleware.call_cases scope readings with
        ⟨-, same | same | ⟨-, -, same⟩⟩ | ⟨ip, -, -, -, outcome⟩
      · rw [same]
        exact ⟨rfl, rfl, rfl, rfl, rfl⟩
      · rw [same]
        exact middleware.pruneIpTrackers_settings readings.pruned
      · rw [same]
        exact settings
      · obtain ⟨ipTrackers, blockedIps, frame⟩ :=
          (middleware.atCheck readings).checkIpLimit_frame ip readings.checked
        rcases outcome with ⟨-, -, same⟩ | ⟨-, -, same⟩
        · rw [same, check, frame]
          exact ⟨settings.globalLimit, settings.perIpLimit, settings.windowSeconds,
            settings.trustProxyHeaders, settings.trustedProxies⟩
        · rw [same, check, frame]
          exact ⟨settings.globalLimit, settings.perIpLimit, settings.windowSeconds,
            settings.trustProxyHeaders, settings.trustedProxies⟩
  | blockIp ip duration first seen now => exact ⟨rfl, rfl, rfl, rfl, rfl⟩
  | unblockIp ip now => exact ⟨rfl, rfl, rfl, rfl, rfl⟩
  | getBlockedIps now => exact ⟨rfl, rfl, rfl, rfl, rfl⟩

/-- A run leaves the settings alone. -/
theorem Reached.settings {rule : GlobalRateLimitMiddleware → List Deed → Call → Prop}
    {fresh : GlobalRateLimitMiddleware} {made now : ℚ} {history : List Deed}
    (reached : Reached rule fresh made now history middleware) : middleware.SameSettings fresh := by
  induction reached with
  | start => exact ⟨rfl, rfl, rfl, rfl, rfl⟩
  | @step now history middleware reached call ordered meets ih =>
      have step := middleware.after_settings call
      exact ⟨step.globalLimit.trans ih.globalLimit, step.perIpLimit.trans ih.perIpLimit,
        step.windowSeconds.trans ih.windowSeconds,
        step.trustProxyHeaders.trans ih.trustProxyHeaders,
        step.trustedProxies.trans ih.trustedProxies⟩

/-- What a request of one address asks of the middleware. -/
def plainScope : Scope := ⟨⟨[], some "10.0.0.1"⟩, "http", "/quotes"⟩

/-- A request of one address, while the clock stands still. -/
def requestAt (time : ℚ) : Call := .request plainScope ⟨time, time, time, time⟩

end GlobalRateLimitMiddleware

end Middleware
end DataGateway
