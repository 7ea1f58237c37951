import DataGateway.Middleware.GlobalRateLimit

/-!
# Blocked addresses

A block that was set and not lifted is in the set and in the tracker of its address until it runs
out. An address whose block was lifted is in the set again only after its next check.
-/

namespace DataGateway
namespace Middleware

/-- A mark was made, and nothing has ended it since. -/
def Since {α : Type} (mark : α) (ends : α → Prop) (history : List α) : Prop :=
  ∃ earlier later, history = earlier ++ mark :: later ∧ ∀ deed ∈ later, ¬ends deed

theorem Since.snoc {α : Type} {mark last : α} {ends : α → Prop} {history : List α}
    (since : Since mark ends (history ++ [last])) :
    last = mark ∨ Since mark ends history ∧ ¬ends last := by
  obtain ⟨earlier, later, split, lasts⟩ := since
  rcases List.eq_nil_or_concat later with rfl | ⟨later, newest, rfl⟩
  · exact .inl (List.singleton_inj.mp (List.append_inj' split rfl).2)
  · rw [List.concat_eq_append, ← List.cons_append, ← List.append_assoc] at split
    obtain ⟨same, lastSame⟩ := List.append_inj' split rfl
    obtain rfl := List.singleton_inj.mp lastSame
    refine .inr ⟨⟨earlier, later, same, fun deed mem => ?_⟩, lasts last (by simp)⟩
    exact lasts deed (by simp [mem])

theorem not_since_nil {α : Type} {mark : α} {ends : α → Prop} : ¬Since mark ends [] := by
  rintro ⟨earlier, later, none_, -⟩
  simp at none_

namespace GlobalRateLimitMiddleware

variable {middleware : GlobalRateLimitMiddleware} {now : ℚ} {history : List Deed}

/-- The address that a deed is about. -/
def Deed.ip : Deed → String
  | .checked ip _ _ => ip
  | .blocked ip _ => ip
  | .unblocked ip => ip

/-- The address was blocked until some time, and the block was not lifted. -/
def Promised (history : List Deed) (ip : String) (until_ : ℚ) : Prop :=
  Since (.blocked ip until_) (· = .unblocked ip) history

/-- The address was unblocked, and neither checked nor blocked since. -/
def Freed (history : List Deed) (ip : String) : Prop :=
  Since (.unblocked ip) (fun deed => deed.ip = ip) history

/-- An address is listed whose block has run out. -/
def ListsExpired (middleware : GlobalRateLimitMiddleware) (now : ℚ) : Prop :=
  ∃ ip ∈ middleware.blockedIps, ∃ tracker, middleware.ipTrackers ip = some tracker ∧
    tracker.blockedUntil ≤ now

/-- No block is cut short, an address that was unblocked has room when it is checked next, and
addresses are listed only while no block of theirs has run out. -/
def BlocksKept (middleware : GlobalRateLimitMiddleware) (history : List Deed) : Call → Prop
  | .request scope readings => ∀ ip, middleware.checkedIp scope readings = some ip →
      Freed history ip → ∀ tracker, (middleware.atCheck readings).ipTrackers ip = some tracker →
        readings.checked - tracker.firstRequest < middleware.windowSeconds →
          tracker.requests < middleware.perIpLimit
  | .blockIp ip duration _ _ now => ∀ until_, Promised history ip until_ → now < until_ →
      until_ ≤ now + duration
  | .unblockIp _ _ => True
  | .getBlockedIps now => ¬middleware.ListsExpired now

/-- A block is enforced until it runs out or is lifted, an address whose block was lifted is
admitted next, and those that are listed are those that a block refuses. -/
def BlocksExactly (middleware : GlobalRateLimitMiddleware) (history : List Deed) : Call → Prop
  | .request scope readings => ∀ ip, middleware.checkedIp scope readings = some ip →
      (∀ until_, Promised history ip until_ → readings.checked < until_ →
        (middleware.check ip readings).1 = false) ∧
      (Freed history ip → (middleware.check ip readings).1 = true)
  | .getBlockedIps now => ∀ ip, ip ∈ middleware.getBlockedIps ↔
      (middleware.pruneIpTrackers now).blocked ip now = true
  | _ => True

/-- The set and the trackers hold the blocks that were set, and no address that was unblocked; an
address of the set has a tracker. -/
structure Holds (middleware : GlobalRateLimitMiddleware) (now : ℚ) (history : List Deed) :
    Prop where
  promised : ∀ ip until_, Promised history ip until_ → now < until_ →
    ip ∈ middleware.blockedIps ∧
      ∃ tracker, middleware.ipTrackers ip = some tracker ∧ until_ ≤ tracker.blockedUntil
  freed : ∀ ip, Freed history ip → ip ∉ middleware.blockedIps
  tracked : ∀ ip ∈ middleware.blockedIps, ∃ tracker, middleware.ipTrackers ip = some tracker

theorem blocked_iff {ip : String} : middleware.blocked ip now = true ↔ ip ∈ middleware.blockedIps ∧
    ∃ tracker, middleware.ipTrackers ip = some tracker ∧ now < tracker.blockedUntil := by
  cases found : middleware.ipTrackers ip <;> simp [blocked, found]

/-! ## The step -/

theorem Holds.wait (holds : middleware.Holds now history) {later : ℚ} (passes : now ≤ later) :
    middleware.Holds later history :=
  ⟨fun ip until_ promised runs => holds.promised ip until_ promised (passes.trans_lt runs),
    holds.freed, holds.tracked⟩

theorem Holds.blocked (holds : middleware.Holds now history) {ip : String} {until_ : ℚ}
    (promised : Promised history ip until_) (runs : now < until_) :
    middleware.blocked ip now = true := by
  obtain ⟨listed, tracker, found, least⟩ := holds.promised ip until_ promised runs
  exact blocked_iff.mpr ⟨listed, tracker, found, runs.trans_le least⟩

theorem Holds.not_blocked (holds : middleware.Holds now history) {ip : String}
    (freed : Freed history ip) (time : ℚ) : middleware.blocked ip time = false := by
  refine Bool.eq_false_iff.mpr fun blocked => ?_
  exact holds.freed ip freed (blocked_iff.mp blocked).1

/-- Pruning lets blocks go only when they have run out. -/
theorem blocked_pruneIpTrackers {ip : String} :
    (middleware.pruneIpTrackers now).blocked ip now = middleware.blocked ip now := by
  rw [Bool.eq_iff_iff, blocked_iff, blocked_iff]
  unfold pruneIpTrackers
  split
  · rfl
  simp only [Finset.mem_filter, Option.any_eq_true, Option.filter_eq_some_iff, Bool.or_eq_true,
    decide_eq_true_eq]
  constructor
  · rintro ⟨⟨listed, -⟩, tracker, ⟨found, -⟩, runs⟩
    exact ⟨listed, tracker, found, runs⟩
  · rintro ⟨listed, tracker, found, runs⟩
    exact ⟨⟨listed, tracker, ⟨found, .inl runs⟩, runs⟩, tracker,
      ⟨found, .inl runs⟩, runs⟩

theorem Holds.pruneIpTrackers (holds : middleware.Holds now history) :
    (middleware.pruneIpTrackers now).Holds now history := by
  constructor
  · intro ip until_ promised runs
    obtain ⟨listed, tracker, found, least⟩ := holds.promised ip until_ promised runs
    have blocked : middleware.blocked ip now = true := holds.blocked promised runs
    rw [← blocked_pruneIpTrackers, blocked_iff] at blocked
    obtain ⟨listed, kept, keptFound, -⟩ := blocked
    refine ⟨listed, kept, keptFound, ?_⟩
    unfold GlobalRateLimitMiddleware.pruneIpTrackers at keptFound
    split at keptFound
    · rw [found] at keptFound
      exact Option.some.inj keptFound ▸ least
    · have same := (Option.filter_eq_some_iff.mp keptFound).1
      rw [found] at same
      exact Option.some.inj same ▸ least
  · intro ip freed listed
    refine holds.freed ip freed ?_
    unfold GlobalRateLimitMiddleware.pruneIpTrackers at listed
    split at listed
    · exact listed
    · exact (Finset.mem_filter.mp listed).1
  · intro ip listed
    unfold GlobalRateLimitMiddleware.pruneIpTrackers at listed ⊢
    split at listed
    · rw [if_pos ‹_›]
      exact holds.tracked ip listed
    · rw [if_neg ‹_›]
      obtain ⟨tracker, kept, -⟩ := Option.any_eq_true _ _ |>.mp (Finset.mem_filter.mp listed).2
      exact ⟨tracker, kept⟩

theorem Holds.atCheck (holds : middleware.Holds now history) {readings : GlobalReadings}
    (toPruned : now ≤ readings.pruned) (toReset : readings.pruned ≤ readings.reset) :
    (middleware.atCheck readings).Holds readings.reset history := by
  obtain ⟨globalRequests, globalWindowStart, same⟩ := middleware.atCheck_frame readings
  have pruned := (holds.wait toPruned).pruneIpTrackers.wait toReset
  rw [same]
  exact ⟨pruned.promised, pruned.freed, pruned.tracked⟩

/-- What is known of an address stays when nothing of it changes. -/
theorem Holds.others {after : GlobalRateLimitMiddleware} {deed : Deed}
    (holds : middleware.Holds now history) (ip : String) (about : deed.ip = ip)
    (trackers : ∀ other, other ≠ ip → after.ipTrackers other = middleware.ipTrackers other)
    (listed : ∀ other, other ≠ ip →
      (other ∈ after.blockedIps ↔ other ∈ middleware.blockedIps))
    (own : ∀ until_, Promised (history ++ [deed]) ip until_ → now < until_ →
      ip ∈ after.blockedIps ∧
        ∃ tracker, after.ipTrackers ip = some tracker ∧ until_ ≤ tracker.blockedUntil)
    (ownFreed : Freed (history ++ [deed]) ip → ip ∉ after.blockedIps)
    (ownTracked : ip ∈ after.blockedIps → ∃ tracker, after.ipTrackers ip = some tracker) :
    after.Holds now (history ++ [deed]) := by
  constructor
  · intro other until_ promised runs
    by_cases same : other = ip
    · subst same
      exact own until_ promised runs
    · rw [trackers other same, listed other same]
      rcases promised.snoc with rfl | ⟨promised, -⟩
      · exact absurd about same
      · exact holds.promised other until_ promised runs
  · intro other freed
    by_cases same : other = ip
    · subst same
      exact ownFreed freed
    · rw [listed other same]
      rcases freed.snoc with rfl | ⟨freed, -⟩
      · exact absurd about same
      · exact holds.freed other freed
  · intro other mem
    by_cases same : other = ip
    · subst same
      exact ownTracked mem
    · rw [trackers other same]
      exact holds.tracked other ((listed other same).mp mem)

/-- An address is checked: its blocks that run refuse it, and it is no longer one that was only just
unblocked. -/
theorem Holds.checkIpLimit (holds : middleware.Holds now history) (ip : String) :
    (middleware.checkIpLimit ip now).2.Holds now
      (history ++ [.checked ip now (middleware.checkIpLimit ip now).1]) := by
  have notFreed (passed : Bool) : ¬Freed (history ++ [.checked ip now passed]) ip := by
    intro freed
    rcases freed.snoc with same | ⟨-, other⟩
    · cases same
    · exact other rfl
  have earlier {passed : Bool} {until_ : ℚ}
      (promised : Promised (history ++ [.checked ip now passed]) ip until_) :
      Promised history ip until_ := by
    rcases promised.snoc with same | ⟨promised, -⟩
    · cases same
    · exact promised
  rcases middleware.checkIpLimit_cases ip now with ⟨-, same⟩ | ⟨opened, outcome⟩
  · rw [same]
    exact holds.others ip rfl (fun _ _ => rfl) (fun _ _ => .rfl)
      (fun until_ promised runs => holds.promised ip until_ (earlier promised) runs)
      (fun freed => absurd freed (notFreed false)) (holds.tracked ip)
  · have none_ (passed : Bool) (until_ : ℚ)
        (promised : Promised (history ++ [.checked ip now passed]) ip until_) : ¬now < until_ := by
      intro runs
      have blocked := holds.blocked (earlier promised) runs
      rw [opened] at blocked
      cases blocked
    rcases outcome with ⟨-, same⟩ | ⟨tracker, -, -, ⟨-, same⟩ | ⟨-, same⟩⟩
    · rw [same]
      exact holds.others ip rfl (fun _ apart => Function.update_of_ne apart _ _)
        (fun _ apart => by simp [apart])
        (fun until_ promised runs => absurd runs (none_ true until_ promised))
        (fun freed => absurd freed (notFreed true)) fun _ => ⟨_, Function.update_self _ _ _⟩
    · rw [same]
      exact holds.others ip rfl (fun _ apart => Function.update_of_ne apart _ _)
        (fun _ apart => by simp [apart])
        (fun until_ promised runs => absurd runs (none_ false until_ promised))
        (fun freed => absurd freed (notFreed false)) fun _ => ⟨_, Function.update_self _ _ _⟩
    · rw [same]
      exact holds.others ip rfl (fun _ apart => Function.update_of_ne apart _ _)
        (fun _ apart => by simp [apart])
        (fun until_ promised runs => absurd runs (none_ true until_ promised))
        (fun freed => absurd freed (notFreed true)) fun _ => ⟨_, Function.update_self _ _ _⟩

/-- An address is blocked, for no shorter than it was before. -/
theorem Holds.blockIp (holds : middleware.Holds now history) {ip : String} {duration : ℤ}
    {first seen : ℚ}
    (longer : ∀ until_, Promised history ip until_ → now < until_ → until_ ≤ now + duration) :
    (middleware.blockIp ip duration first seen now).Holds now
      (history ++ [.blocked ip (now + duration)]) := by
  refine holds.others ip rfl (fun _ apart => Function.update_of_ne apart _ _)
    (fun _ apart => by simp [GlobalRateLimitMiddleware.blockIp, apart])
    (fun until_ promised runs => ?_) (fun freed => ?_) fun _ => ⟨_, Function.update_self _ _ _⟩
  · refine ⟨Finset.mem_insert_self _ _, _, Function.update_self _ _ _, ?_⟩
    rcases promised.snoc with same | ⟨promised, -⟩
    · exact (Deed.blocked.inj same).2.ge
    · exact longer until_ promised runs
  · rcases freed.snoc with same | ⟨-, other⟩
    · cases same
    · exact absurd rfl other

theorem Holds.unblockIp (holds : middleware.Holds now history) (ip : String) :
    (middleware.unblockIp ip).Holds now (history ++ [.unblocked ip]) := by
  refine holds.others ip rfl (fun _ apart => Function.update_of_ne apart _ _)
    (fun _ apart => by simp [GlobalRateLimitMiddleware.unblockIp, apart])
    (fun until_ promised runs => ?_) (fun _ => Finset.notMem_erase _ _)
    fun mem => absurd mem (Finset.notMem_erase _ _)
  rcases promised.snoc with same | ⟨-, lifted⟩
  · cases same
  · exact absurd rfl lifted

/-- The step: a call that meets the rule keeps what the set and the trackers hold. -/
theorem Holds.after (holds : middleware.Holds now history) {call : Call}
    (ordered : (now :: call.clock).Pairwise (· ≤ ·)) (kept : middleware.BlocksKept history call) :
    (middleware.after call).Holds ((now :: call.clock).getLast (List.cons_ne_nil _ _))
      (history ++ middleware.deeds call) := by
  cases call with
  | request scope readings =>
      simp only [Call.clock, List.pairwise_cons, List.mem_cons, List.not_mem_nil, or_false,
        forall_eq_or_imp, forall_eq] at ordered
      obtain ⟨⟨toPruned, -, -, toEnd⟩, ⟨toReset, -, prunedToEnd⟩, ⟨toChecked, resetToEnd⟩,
        checkedToEnd, -⟩ := ordered
      have atCheck := holds.atCheck toPruned toReset
      rcases middleware.call_cases scope readings with
        ⟨unchecked, outcome⟩ | ⟨ip, checked, -, -, outcome⟩
      · have nothing : middleware.deeds (.request scope readings) = [] := by
          rw [deeds, unchecked]
        rw [nothing, List.append_nil, GlobalRateLimitMiddleware.after]
        rcases outcome with same | same | ⟨-, -, same⟩
        · rw [same]
          exact holds.wait toEnd
        · rw [same]
          exact (holds.wait toPruned).pruneIpTrackers.wait prunedToEnd
        · rw [same]
          exact atCheck.wait resetToEnd
      · have deed : middleware.deeds (.request scope readings) =
            [.checked ip readings.checked (middleware.check ip readings).1] := by
          rw [deeds, checked]
        have after := ((atCheck.wait toChecked).checkIpLimit ip).wait checkedToEnd
        rw [deed, GlobalRateLimitMiddleware.after]
        rcases outcome with ⟨-, -, same⟩ | ⟨-, -, same⟩
        · rw [same]
          exact ⟨after.promised, after.freed, after.tracked⟩
        · rw [same]
          exact after
  | blockIp ip duration first seen until_ =>
      have passes : now ≤ until_ := List.rel_of_pairwise_cons ordered (by simp [Call.clock])
      exact (holds.wait passes).blockIp kept
  | unblockIp ip time =>
      have passes : now ≤ time := List.rel_of_pairwise_cons ordered (by simp [Call.clock])
      exact (holds.wait passes).unblockIp ip
  | getBlockedIps time =>
      have passes : now ≤ time := List.rel_of_pairwise_cons ordered (by simp [Call.clock])
      rw [deeds, List.append_nil]
      exact holds.wait passes

/-! ## Runs -/

theorem holds_new (globalLimit perIpLimit windowSeconds : Nat) (trustProxyHeaders : Bool)
    (trustedProxies : List IpNetwork) (started made : ℚ) :
    (new globalLimit perIpLimit windowSeconds trustProxyHeaders trustedProxies started made).Holds
      made [] :=
  ⟨fun _ _ promised => absurd promised not_since_nil, fun _ freed => absurd freed not_since_nil,
    fun _ mem => absurd mem (Finset.notMem_empty _)⟩

/-- The run: the set and the trackers hold the blocks. -/
theorem Reached.holds {globalLimit perIpLimit windowSeconds : Nat} {trustProxyHeaders : Bool}
    {trustedProxies : List IpNetwork} {started made : ℚ}
    (reached : Reached BlocksKept (new globalLimit perIpLimit windowSeconds trustProxyHeaders
      trustedProxies started made) made now history middleware) : middleware.Holds now history := by
  induction reached with
  | start => exact holds_new _ _ _ _ _ _ _
  | step reached call ordered meets ih => exact ih.after ordered meets

/-- **Blocks are enforced and lifted exactly** in a run that cuts no block short, frees an address
only when it has room, and lists blocks only while they run. -/
theorem blocks_exactly {globalLimit perIpLimit windowSeconds : Nat} {trustProxyHeaders : Bool}
    {trustedProxies : List IpNetwork} {started made : ℚ} {call : Call}
    (reached : Reached BlocksKept (new globalLimit perIpLimit windowSeconds trustProxyHeaders
      trustedProxies started made) made now history middleware)
    (ordered : (now :: call.clock).Pairwise (· ≤ ·)) (kept : middleware.BlocksKept history call) :
    middleware.BlocksExactly history call := by
  have holds := reached.holds
  cases call with
  | request scope readings =>
      simp only [Call.clock, List.pairwise_cons, List.mem_cons, List.not_mem_nil, or_false,
        forall_eq_or_imp, forall_eq] at ordered
      obtain ⟨⟨toPruned, -⟩, ⟨toReset, -⟩, ⟨toChecked, -⟩, -⟩ := ordered
      have atCheck := (holds.atCheck toPruned toReset).wait toChecked
      have settings := middleware.atCheck_settings readings
      intro ip checked
      unfold check
      constructor
      · intro until_ promised runs
        rcases (middleware.atCheck readings).checkIpLimit_cases ip readings.checked with
          ⟨-, same⟩ | ⟨opened, -⟩
        · rw [same]
        · rw [atCheck.blocked promised runs] at opened
          cases opened
      · intro freed
        rcases (middleware.atCheck readings).checkIpLimit_cases ip readings.checked with
          ⟨blocked, -⟩ |
            ⟨-, ⟨-, same⟩ | ⟨tracker, found, runs, ⟨full, -⟩ | ⟨-, same⟩⟩⟩
        · rw [atCheck.not_blocked freed] at blocked
          cases blocked
        · rw [same]
        · have room := kept ip checked freed tracker found (settings.windowSeconds ▸ runs)
          rw [settings.perIpLimit] at full
          exact absurd full (Nat.not_le.mpr room)
        · rw [same]
  | getBlockedIps time =>
      intro ip
      rw [blocked_pruneIpTrackers, blocked_iff]
      refine ⟨fun listed => ⟨listed, ?_⟩, fun blocked => blocked.1⟩
      obtain ⟨tracker, found⟩ := holds.tracked ip listed
      exact ⟨tracker, found, not_le.mp fun ended => kept ⟨ip, listed, tracker, found, ended⟩⟩
  | blockIp ip duration first seen until_ => exact trivial
  | unblockIp ip time => exact trivial

/-- A block of an hour refuses a request of the first minute, and the address is listed; when the
block is lifted, its next request is admitted. -/
theorem blocked_for_an_hour :
    let rule := Reached BlocksKept (new 10 2 60 false [] 0 0) 0
    (∃ now history middleware, rule now history middleware ∧
      Promised history "10.0.0.1" (0 + 3600) ∧
      (middleware.check "10.0.0.1" ⟨10, 10, 10, 10⟩).1 = false) ∧
    (∃ now history middleware, rule now history middleware ∧
      middleware.getBlockedIps = {"10.0.0.1"} ∧
      ∀ ip, ip ∈ middleware.getBlockedIps ↔
        (middleware.pruneIpTrackers 15).blocked ip 15 = true) ∧
    ∃ now history middleware, rule now history middleware ∧ Freed history "10.0.0.1" ∧
      (middleware.check "10.0.0.1" ⟨30, 30, 30, 30⟩).1 = true := by
  let fresh := new 10 2 60 false [] 0 0
  let blocked := fresh.after (.blockIp "10.0.0.1" 3600 0 0 0)
  let refused := blocked.after (requestAt 10)
  let lifted := refused.after (.unblockIp "10.0.0.1" 20)
  have toBlocked : Reached BlocksKept fresh 0 0 [.blocked "10.0.0.1" (0 + 3600)] blocked :=
    Reached.start.step (.blockIp "10.0.0.1" 3600 0 0 0) (by decide +kernel)
      fun _ promised => absurd promised not_since_nil
  have promised : Promised [.blocked "10.0.0.1" (0 + 3600)] "10.0.0.1" (0 + 3600) :=
    ⟨[], [], rfl, fun _ mem => nomatch mem⟩
  have unfreed : blocked.BlocksKept [.blocked "10.0.0.1" (0 + 3600)] (requestAt 10) := by
    intro ip _ freed
    have freed : Freed ([] ++ [.blocked "10.0.0.1" (0 + 3600)]) ip := freed
    rcases freed.snoc with same | ⟨freed, -⟩
    · cases same
    · exact absurd freed not_since_nil
  have toRefused := toBlocked.step (requestAt 10) (by decide +kernel) unfreed
  have listed : refused.getBlockedIps = {"10.0.0.1"} := by decide +kernel
  have runs : refused.BlocksKept ([.blocked "10.0.0.1" (0 + 3600)] ++ blocked.deeds (requestAt 10))
      (.getBlockedIps 15) := by
    rintro ⟨ip, mem, tracker, found, ended⟩
    obtain rfl := Finset.mem_singleton.mp ((Finset.ext_iff.mp listed ip).mp mem)
    have until_ : (refused.ipTrackers "10.0.0.1").map IPConnectionTracker.blockedUntil =
        some 3600 := by decide +kernel
    rw [found] at until_
    exact absurd (Option.some.inj until_ ▸ ended) (by decide +kernel)
  have toLifted := toRefused.step (.unblockIp "10.0.0.1" 20) (by decide +kernel) trivial
  have freed : Freed ([.blocked "10.0.0.1" (0 + 3600)] ++ blocked.deeds (requestAt 10) ++
      [.unblocked "10.0.0.1"]) "10.0.0.1" := ⟨_, [], rfl, fun _ mem => nomatch mem⟩
  have checked : lifted.checkedIp plainScope ⟨30, 30, 30, 30⟩ = some "10.0.0.1" := by
    decide +kernel
  have room : lifted.BlocksKept ([.blocked "10.0.0.1" (0 + 3600)] ++
      blocked.deeds (requestAt 10) ++ [.unblocked "10.0.0.1"]) (requestAt 30) := by
    intro ip same _ tracker found _
    obtain rfl := Option.some.inj (checked.symm.trans same)
    have none_ : ((lifted.atCheck ⟨30, 30, 30, 30⟩).ipTrackers "10.0.0.1").map
        IPConnectionTracker.requests = some 0 := by decide +kernel
    rw [found] at none_
    rw [Option.some.inj none_]
    decide +kernel
  have refuses : blocked.BlocksExactly _ (requestAt 10) :=
    blocks_exactly toBlocked (by decide +kernel) unfreed
  have lists : refused.BlocksExactly _ (.getBlockedIps 15) :=
    blocks_exactly toRefused (by decide +kernel) runs
  have admits : lifted.BlocksExactly _ (requestAt 30) :=
    blocks_exactly toLifted (by decide +kernel) room
  refine ⟨⟨_, _, _, toBlocked, promised, ?_⟩, ⟨_, _, _, toRefused, listed, lists⟩,
    _, _, _, toLifted, freed, (admits "10.0.0.1" checked).2 freed⟩
  exact (refuses "10.0.0.1" (by decide +kernel)).1 _ promised (by decide +kernel)

/-- An address that its count blocked is refused again right after its block was lifted. -/
theorem unblocked_address_is_refused : ∃ now history middleware,
    Reached (fun _ _ _ => True) (new 10 1 60 false [] 0 0) 0 now history middleware ∧
      (now :: (requestAt 3).clock).Pairwise (· ≤ ·) ∧
      ¬middleware.BlocksExactly history (requestAt 3) := by
  refine ⟨_, _, _, ((Reached.start.step (requestAt 0) (by decide +kernel) trivial).step
    (requestAt 1) (by decide +kernel) trivial).step (.unblockIp "10.0.0.1" 2) (by decide +kernel)
    trivial, by decide +kernel, fun exactly_ => ?_⟩
  have admitted := (exactly_ "10.0.0.1" (by decide +kernel)).2
    ⟨_, [], rfl, fun _ mem => nomatch mem⟩
  exact absurd admitted (by decide +kernel)

end GlobalRateLimitMiddleware
end Middleware
end DataGateway
