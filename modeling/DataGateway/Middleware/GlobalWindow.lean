import DataGateway.Middleware.GlobalRateLimit

/-!
# How many requests a window lets through

A count is started anew when its window is over.  While all that it counted is a window old then, no
window holds more requests than the limits allow.
-/

namespace DataGateway
namespace Middleware
namespace GlobalRateLimitMiddleware

open SlidingWindow

variable {middleware : GlobalRateLimitMiddleware} {now : ℚ} {history : List Deed}

/-- When requests went on to the application. -/
def forwardTimes (history : List Deed) : List ℚ :=
  history.filterMap fun deed =>
    match deed with
    | .checked _ time true => some time
    | _ => none

/-- When requests of an address went on to the application. -/
def forwardTimesOf (ip : String) (history : List Deed) : List ℚ :=
  history.filterMap fun deed =>
    match deed with
    | .checked checked time true => if checked = ip then some time else none
    | _ => none

/-- What is counted of the times that were let through, as far as the window can hold it. -/
structure Counts (limit : Nat) (window now : ℚ) (times counted : List ℚ) (count : Nat) : Prop where
  few : counted.length ≤ count
  tracks : Tracks limit window now times counted

/-- The count of an address holds what the window can hold of its requests, up to its last one. -/
def TrackerCounts (limit : Nat) (window now : ℚ) (times : List ℚ)
    (tracker : Option IPConnectionTracker) : Prop :=
  ∃ counted, Counts limit window now times counted (tracker.elim 0 IPConnectionTracker.requests) ∧
    ∀ found ∈ tracker, ∀ time ∈ counted, time ≤ found.lastSeen

/-- The counts hold what their windows can hold. -/
structure Counted (middleware : GlobalRateLimitMiddleware) (now : ℚ) (history : List Deed) :
    Prop where
  all : ∃ counted, Counts middleware.globalLimit middleware.windowSeconds now (forwardTimes history)
    counted middleware.globalRequests
  perIp : ∀ ip, TrackerCounts middleware.perIpLimit middleware.windowSeconds now
    (forwardTimesOf ip history) (middleware.ipTrackers ip)

/-- Whenever a count starts anew, all it counted is a window old. -/
def CountsRunOut (middleware : GlobalRateLimitMiddleware) (history : List Deed) : Call → Prop
  | .request scope readings =>
      (scope.counts = true →
        middleware.windowSeconds ≤ readings.reset - middleware.globalWindowStart →
          ∀ time ∈ forwardTimes history, time ≤ readings.reset - middleware.windowSeconds) ∧
        ∀ ip tracker, middleware.checkedIp scope readings = some ip →
          (middleware.atCheck readings).blocked ip readings.checked = false →
          (middleware.atCheck readings).ipTrackers ip = some tracker →
          middleware.windowSeconds ≤ readings.checked - tracker.firstRequest →
            ∀ time ∈ forwardTimesOf ip history, time ≤ readings.checked - middleware.windowSeconds
  | _ => True

/-! ## Counts -/

section
variable {limit count : Nat} {window later : ℚ} {times counted : List ℚ}

theorem Counts.wait (counts : Counts limit window now times counted count) (passes : now ≤ later) :
    Counts limit window later times counted count :=
  ⟨counts.few, counts.tracks.wait passes⟩

/-- A count starts anew once all it counted is a window old. -/
theorem Counts.forget (counts : Counts limit window now times counted count)
    (old : ∀ time ∈ counted, time ≤ now - window) : Counts limit window now times [] 0 :=
  ⟨le_rfl, counts.tracks.forget old⟩

/-- What is counted was let through. -/
theorem Counts.mem_times (counts : Counts limit window now times counted count) {time : ℚ}
    (mem : time ∈ counted) : time ∈ times := by
  obtain ⟨old, split, -⟩ := counts.tracks.kept
  exact split ▸ List.mem_append_right old mem

/-- One more request is let through. -/
theorem Counts.accept (counts : Counts limit window now times counted count)
    (room : count < limit) :
    Counts limit window now (times ++ [now]) (counted ++ [now]) (count + 1) := by
  refine ⟨?_, counts.tracks.accept (Nat.lt_of_le_of_lt counts.few room)⟩
  rw [List.length_append]
  exact Nat.add_le_add_right counts.few 1

end

@[simp]
theorem forwardTimes_append (first second : List Deed) :
    forwardTimes (first ++ second) = forwardTimes first ++ forwardTimes second :=
  List.filterMap_append

@[simp]
theorem forwardTimesOf_append (ip : String) (first second : List Deed) :
    forwardTimesOf ip (first ++ second) = forwardTimesOf ip first ++ forwardTimesOf ip second :=
  List.filterMap_append

/-! ## The step -/

theorem Counted.wait (counted : middleware.Counted now history) {later : ℚ} (passes : now ≤ later) :
    middleware.Counted later history := by
  obtain ⟨⟨times, counts⟩, perIp⟩ := counted
  refine ⟨⟨times, counts.wait passes⟩, fun ip => ?_⟩
  obtain ⟨own, ownCounts, last⟩ := perIp ip
  exact ⟨own, ownCounts.wait passes, last⟩

/-- A tracker that is pruned has counted nothing for two windows. -/
theorem Counted.pruneIpTrackers (counted : middleware.Counted now history) :
    (middleware.pruneIpTrackers now).Counted now history := by
  unfold GlobalRateLimitMiddleware.pruneIpTrackers
  split
  · exact counted
  refine ⟨counted.all, fun ip => ?_⟩
  obtain ⟨own, counts, last⟩ := counted.perIp ip
  dsimp only
  cases found : middleware.ipTrackers ip with
  | none =>
      rw [found] at counts
      exact ⟨own, counts, nofun⟩
  | some tracker =>
      rw [found] at counts last
      rw [Option.filter_some]
      split
      · exact ⟨own, counts, last⟩
      next idle =>
        have old : tracker.lastSeen < now - middleware.windowSeconds * 2 := by
          simp only [Bool.or_eq_true, Bool.not_eq_true', decide_eq_true_eq, decide_eq_false_iff_not,
            not_or, not_not] at idle
          exact idle.2
        refine ⟨[], counts.forget fun time mem => ?_, nofun⟩
        have seen := last tracker rfl time mem
        have window : (0 : ℚ) ≤ middleware.windowSeconds := Nat.cast_nonneg _
        linarith

theorem Counted.resetWindowIfNeeded (counted : middleware.Counted now history)
    (old : middleware.windowSeconds ≤ now - middleware.globalWindowStart →
      ∀ time ∈ forwardTimes history, time ≤ now - middleware.windowSeconds) :
    (middleware.resetWindowIfNeeded now).Counted now history := by
  unfold GlobalRateLimitMiddleware.resetWindowIfNeeded
  split
  next ends =>
    obtain ⟨times, counts⟩ := counted.all
    exact ⟨⟨[], counts.forget fun time mem => old ends time (counts.mem_times mem)⟩,
      counted.perIp⟩
  · exact counted

/-- The tracker of one address is put in place. -/
theorem Counted.setTracker (counted : middleware.Counted now history) {ip : String}
    {tracker : IPConnectionTracker} {deeds : List Deed} {blockedIps : Finset String}
    {globalRequests : Nat}
    (others : ∀ other, other ≠ ip → forwardTimesOf other deeds = [])
    (all : ∃ times, Counts middleware.globalLimit middleware.windowSeconds now
      (forwardTimes (history ++ deeds)) times globalRequests)
    (own : TrackerCounts middleware.perIpLimit middleware.windowSeconds now
      (forwardTimesOf ip (history ++ deeds)) (some tracker)) :
    ({ middleware.setTracker ip tracker with
      blockedIps := blockedIps, globalRequests := globalRequests } :
        GlobalRateLimitMiddleware).Counted now (history ++ deeds) := by
  refine ⟨all, fun other => ?_⟩
  unfold GlobalRateLimitMiddleware.setTracker
  dsimp only
  by_cases same : other = ip
  · subst same
    rw [Function.update_self]
    exact own
  · rw [Function.update_of_ne same, forwardTimesOf_append, others other same, List.append_nil]
    exact counted.perIp other

/-- An address is checked: its count goes on, or starts anew. -/
theorem Counted.check (counted : middleware.Counted now history) {ip : String}
    (positive : 0 < middleware.perIpLimit)
    (room : middleware.globalRequests < middleware.globalLimit)
    (old : ∀ tracker, middleware.blocked ip now = false → middleware.ipTrackers ip = some tracker →
      middleware.windowSeconds ≤ now - tracker.firstRequest →
        ∀ time ∈ forwardTimesOf ip history, time ≤ now - middleware.windowSeconds) :
    ({ (middleware.checkIpLimit ip now).2 with
      globalRequests := middleware.globalRequests +
        if (middleware.checkIpLimit ip now).1 then 1 else 0 } :
        GlobalRateLimitMiddleware).Counted now
      (history ++ [.checked ip now (middleware.checkIpLimit ip now).1]) := by
  obtain ⟨times, counts⟩ := counted.all
  obtain ⟨own, ownCounts, last⟩ := counted.perIp ip
  have others (passed : Bool) (other : String) (apart : other ≠ ip) :
      forwardTimesOf other [.checked ip now passed] = [] := by
    cases passed <;> simp [forwardTimesOf, apart.symm]
  have passedAll : ∃ times, Counts middleware.globalLimit middleware.windowSeconds now
      (forwardTimes (history ++ [.checked ip now true])) times (middleware.globalRequests + 1) :=
    ⟨_, by simpa [forwardTimes] using counts.accept room⟩
  have passedOwn {own : List ℚ} {tracker : IPConnectionTracker} {requests : Nat}
      (counts : Counts middleware.perIpLimit middleware.windowSeconds now
        (forwardTimesOf ip history) own requests) (room : requests < middleware.perIpLimit)
      (next : tracker.requests = requests + 1) (seen : tracker.lastSeen = now) :
      TrackerCounts middleware.perIpLimit middleware.windowSeconds now
        (forwardTimesOf ip (history ++ [.checked ip now true])) (some tracker) := by
    refine ⟨own ++ [now], ?_, ?_⟩
    · rw [Option.elim_some, next]
      simpa [forwardTimesOf] using counts.accept room
    · rintro _ ⟨⟩ time mem
      rw [seen]
      rcases List.mem_append.mp mem with mem | mem
      · exact counts.tracks.stamps_past time mem
      · exact (List.mem_singleton.mp mem).le
  rcases middleware.checkIpLimit_cases ip now with ⟨-, same⟩ |
    ⟨opened, ⟨ends, same⟩ | ⟨tracker, found, runs, ⟨full, same⟩ | ⟨free, same⟩⟩⟩
  · rw [same]
    refine ⟨⟨times, by simpa [forwardTimes] using counts⟩, fun other => ?_⟩
    simpa [forwardTimesOf] using counted.perIp other
  · rw [same]
    refine counted.setTracker (others true) passedAll ?_
    cases found : middleware.ipTrackers ip with
    | none =>
        rw [found] at ownCounts
        exact passedOwn ownCounts positive rfl rfl
    | some tracker =>
        have idle := old tracker opened found (ends tracker found)
        have begun := ownCounts.forget fun time mem => idle time (ownCounts.mem_times mem)
        exact passedOwn begun positive rfl rfl
  · rw [same]
    rw [found] at ownCounts last
    refine counted.setTracker (others false) ⟨times, by simpa [forwardTimes] using counts⟩
      ⟨own, ⟨Nat.le_succ_of_le ownCounts.few, ?_⟩, ?_⟩
    · simpa [forwardTimesOf] using ownCounts.tracks
    · rintro _ ⟨⟩ time mem
      exact ownCounts.tracks.stamps_past time mem
  · rw [same]
    rw [found] at ownCounts
    exact counted.setTracker (others true) passedAll (passedOwn ownCounts free rfl rfl)

/-- Only a check of an address lets a request through. -/
theorem Counted.forwardsNothing (counted : middleware.Counted now history) {deeds : List Deed}
    (all : forwardTimes deeds = []) (own : ∀ ip, forwardTimesOf ip deeds = []) :
    middleware.Counted now (history ++ deeds) := by
  refine ⟨by simpa [all] using counted.all, fun ip => ?_⟩
  simpa [own ip] using counted.perIp ip

/-- What was counted of an address that is blocked stays. -/
theorem Counted.blockIp (counted : middleware.Counted now history) (ip : String) (duration : ℤ)
    (first seen until_ : ℚ) :
    (middleware.blockIp ip duration first seen until_).Counted now history := by
  refine ⟨counted.all, fun other => ?_⟩
  unfold GlobalRateLimitMiddleware.blockIp GlobalRateLimitMiddleware.setTracker
  dsimp only
  by_cases same : other = ip
  · subst same
    rw [Function.update_self]
    obtain ⟨own, counts, last⟩ := counted.perIp other
    cases found : middleware.ipTrackers other with
    | none =>
        rw [found] at counts
        obtain rfl := List.length_eq_zero_iff.mp (Nat.le_zero.mp counts.few)
        exact ⟨[], counts, fun _ _ _ mem => nomatch mem⟩
    | some tracker =>
        rw [found] at counts last
        refine ⟨own, counts, ?_⟩
        rintro _ ⟨⟩
        exact last tracker rfl
  · rw [Function.update_of_ne same]
    exact counted.perIp other

/-- What was counted of an address that is unblocked stays. -/
theorem Counted.unblockIp (counted : middleware.Counted now history) (ip : String) :
    (middleware.unblockIp ip).Counted now history := by
  refine ⟨counted.all, fun other => ?_⟩
  unfold GlobalRateLimitMiddleware.unblockIp
  dsimp only
  by_cases same : other = ip
  · subst same
    rw [Function.update_self]
    obtain ⟨own, counts, last⟩ := counted.perIp other
    cases found : middleware.ipTrackers other with
    | none =>
        rw [found] at counts last
        exact ⟨own, counts, last⟩
    | some tracker =>
        rw [found] at counts last
        refine ⟨own, counts, ?_⟩
        rintro _ ⟨⟩
        exact last tracker rfl
  · rw [Function.update_of_ne same]
    exact counted.perIp other

/-- The step: a call that gives up no count too early keeps the counts. -/
theorem Counted.after (counted : middleware.Counted now history) {call : Call}
    (positive : 0 < middleware.perIpLimit) (ordered : (now :: call.clock).Pairwise (· ≤ ·))
    (runsOut : middleware.CountsRunOut history call) :
    (middleware.after call).Counted ((now :: call.clock).getLast (List.cons_ne_nil _ _))
      (history ++ middleware.deeds call) := by
  cases call with
  | request scope readings =>
      simp only [Call.clock, List.pairwise_cons, List.mem_cons, List.not_mem_nil, or_false,
        forall_eq_or_imp, forall_eq] at ordered
      obtain ⟨⟨toPruned, -, -, toEnd⟩, ⟨toReset, -, prunedToEnd⟩, ⟨toChecked, resetToEnd⟩,
        checkedToEnd, -⟩ := ordered
      obtain ⟨allRunOut, ownRunOut⟩ := runsOut
      have pruned := (counted.wait toPruned).pruneIpTrackers
      have settings := middleware.atCheck_settings readings
      have atReset (counts : scope.counts = true) :
          (middleware.atCheck readings).Counted readings.reset history := by
        refine (pruned.wait toReset).resetWindowIfNeeded fun ends => ?_
        obtain ⟨ipTrackers, blockedIps, lastPrune, same⟩ :=
          middleware.pruneIpTrackers_frame readings.pruned
        rw [same] at ends ⊢
        exact allRunOut counts ends
      rcases middleware.call_cases scope readings with
        ⟨unchecked, outcome⟩ | ⟨ip, checked, counts, room, outcome⟩
      · have nothing : middleware.deeds (.request scope readings) = [] := by
          rw [deeds, unchecked]
        rw [nothing, List.append_nil, GlobalRateLimitMiddleware.after]
        rcases outcome with same | same | ⟨counts, -, same⟩
        · rw [same]
          exact counted.wait toEnd
        · rw [same]
          exact pruned.wait prunedToEnd
        · rw [same]
          exact (atReset counts).wait resetToEnd
      · have deed : middleware.deeds (.request scope readings) =
            [.checked ip readings.checked (middleware.check ip readings).1] := by
          rw [deeds, checked]
        have atCheck := ((atReset counts).wait toChecked).check (settings.perIpLimit ▸ positive)
          (settings.globalLimit ▸ room) fun tracker opened found ends => by
            rw [settings.windowSeconds] at ends ⊢
            exact ownRunOut ip tracker checked opened found ends
        obtain ⟨ipTrackers, blockedIps, frame⟩ :=
          (middleware.atCheck readings).checkIpLimit_frame ip readings.checked
        rw [deed, GlobalRateLimitMiddleware.after]
        unfold GlobalRateLimitMiddleware.check at outcome ⊢
        rw [frame] at atCheck outcome
        rcases outcome with ⟨passed, -, same⟩ | ⟨refused, -, same⟩
        · rw [passed, if_pos rfl] at atCheck
          rw [same, passed]
          exact atCheck.wait checkedToEnd
        · rw [refused] at atCheck
          rw [same, refused]
          exact atCheck.wait checkedToEnd
  | blockIp ip duration first seen until_ =>
      have passes : now ≤ until_ := List.rel_of_pairwise_cons ordered (by simp [Call.clock])
      exact ((counted.wait passes).blockIp ip duration first seen until_).forwardsNothing rfl
        fun _ => rfl
  | unblockIp ip time =>
      have passes : now ≤ time := List.rel_of_pairwise_cons ordered (by simp [Call.clock])
      exact ((counted.wait passes).unblockIp ip).forwardsNothing rfl fun _ => rfl
  | getBlockedIps time =>
      have passes : now ≤ time := List.rel_of_pairwise_cons ordered (by simp [Call.clock])
      exact (counted.wait passes).forwardsNothing rfl fun _ => rfl

/-! ## Runs -/

theorem counted_new (globalLimit perIpLimit windowSeconds : Nat) (trustProxyHeaders : Bool)
    (trustedProxies : List IpNetwork) (started made : ℚ) :
    (new globalLimit perIpLimit windowSeconds trustProxyHeaders trustedProxies started made).Counted
      made [] :=
  ⟨⟨[], le_rfl, .nil _ _ _⟩, fun _ => ⟨[], ⟨le_rfl, .nil _ _ _⟩, nofun⟩⟩

/-- The run: the counts hold what their windows can hold. -/
theorem Reached.counted {globalLimit perIpLimit windowSeconds : Nat} {trustProxyHeaders : Bool}
    {trustedProxies : List IpNetwork} {started made : ℚ} (positive : 0 < perIpLimit)
    (reached : Reached CountsRunOut (new globalLimit perIpLimit windowSeconds trustProxyHeaders
      trustedProxies started made) made now history middleware) :
    middleware.Counted now history := by
  induction reached with
  | start => exact counted_new _ _ _ _ _ _ _
  | step reached call ordered meets ih =>
      exact ih.after (reached.settings.perIpLimit ▸ positive) ordered meets

/-- **The limits hold over every window** in a run in which a count starts anew only when all it
counted is a window old. -/
theorem windows_hold {globalLimit perIpLimit windowSeconds : Nat} {trustProxyHeaders : Bool}
    {trustedProxies : List IpNetwork} {started made : ℚ} (positive : 0 < perIpLimit)
    (reached : Reached CountsRunOut (new globalLimit perIpLimit windowSeconds trustProxyHeaders
      trustedProxies started made) made now history middleware) :
    AtMost globalLimit (windowSeconds : ℚ) (forwardTimes history) ∧
      ∀ ip, AtMost perIpLimit (windowSeconds : ℚ) (forwardTimesOf ip history) := by
  have settings := reached.settings
  obtain ⟨⟨times, counts⟩, perIp⟩ := reached.counted positive
  rw [settings.globalLimit, settings.windowSeconds] at counts
  refine ⟨counts.tracks.atMost, fun ip => ?_⟩
  obtain ⟨own, counts, -⟩ := perIp ip
  rw [settings.perIpLimit, settings.windowSeconds] at counts
  exact counts.tracks.atMost

theorem mem_forwardTimes {ip : String} {time : ℚ} (mem : time ∈ forwardTimesOf ip history) :
    time ∈ forwardTimes history := by
  obtain ⟨deed, inHistory, same⟩ := List.mem_filterMap.mp mem
  refine List.mem_filterMap.mpr ⟨deed, inHistory, ?_⟩
  cases deed with
  | checked checked at_ passed =>
      cases passed with
      | true => exact (Option.ite_none_right_eq_some.mp same).2
      | false => cases same
  | blocked => cases same
  | unblocked => cases same

/-- Two requests that are more than a window apart. -/
theorem distant_requests_are_counted : ∃ now history middleware,
    Reached CountsRunOut (new 1 1 60 false [] 0 0) 0 now history middleware ∧
      forwardTimes history = [0, 100] ∧
      AtMost 1 ((60 : Nat) : ℚ) (forwardTimes history) ∧
      ∀ ip, AtMost 1 ((60 : Nat) : ℚ) (forwardTimesOf ip history) := by
  have first : Reached CountsRunOut (new 1 1 60 false [] 0 0) 0 _ _ _ :=
    Reached.start.step (requestAt 0) (by decide +kernel)
      ⟨fun _ _ _ mem => (nomatch mem), fun _ _ _ _ _ _ _ mem => (nomatch mem)⟩
  have old : ∀ time ∈ forwardTimes ([] ++ (new 1 1 60 false [] 0 0).deeds (requestAt 0)),
      time ≤ 100 - ((new 1 1 60 false [] 0 0).after (requestAt 0)).windowSeconds := by
    rw [first.settings.windowSeconds]
    decide +kernel
  have reached := first.step (requestAt 100) (by decide +kernel)
    ⟨fun _ _ => old, fun _ _ _ _ _ _ time mem => old time (mem_forwardTimes mem)⟩
  exact ⟨_, _, _, reached, by decide +kernel, windows_hold Nat.one_pos reached⟩

/-- Two requests before a count starts anew and two after it are three within a window. -/
theorem straddling_requests_exceed : ∃ now history middleware,
    Reached (fun _ _ _ => True) (new 2 2 60 false [] 0 0) 0 now history middleware ∧
      ¬AtMost 2 (60 : ℚ) (forwardTimes history) ∧
      ¬AtMost 2 (60 : ℚ) (forwardTimesOf "10.0.0.1" history) := by
  refine ⟨_, _, _, ((((Reached.start).step (requestAt 0) (by decide +kernel) trivial).step
    (requestAt 59) (by decide +kernel) trivial).step (requestAt 60) (by decide +kernel)
      trivial).step
    (requestAt 61) (by decide +kernel) trivial, fun most => ?_, fun most => ?_⟩
  · exact absurd (most 59).1 (by decide +kernel)
  · exact absurd (most 59).1 (by decide +kernel)

end GlobalRateLimitMiddleware
end Middleware
end DataGateway
