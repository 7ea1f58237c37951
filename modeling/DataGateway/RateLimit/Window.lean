import Mathlib.Algebra.Order.Group.Defs
import Mathlib.Algebra.Order.Sub.Basic
import Mathlib.Data.List.Count
import Mathlib.Data.List.TakeWhile

/-!
# Sliding windows

A log of accepted times is kept only as far back as one window.  When a time is accepted only while
fewer than `limit` are kept, no stretch of time shorter than the window holds more than `limit` of
all that were ever accepted, whatever was forgotten.
-/

namespace SlidingWindow

variable {T : Type} [AddCommGroup T] [LinearOrder T]

/-- Times less than a window apart from each other. -/
def Narrow (window : T) (stretch : T → Bool) : Prop :=
  ∀ first second, stretch first = true → stretch second = true → second < first + window

/-- No half-open interval of the length of a window holds more than `limit` of the times. -/
def AtMost (limit : Nat) (window : T) (times : List T) : Prop :=
  ∀ start,
    times.countP (fun time => decide (start ≤ time ∧ time < start + window)) ≤ limit ∧
      times.countP (fun time => decide (start < time ∧ time ≤ start + window)) ≤ limit

/-- Forget the oldest times that are a window old. -/
def expire (window now : T) (stamps : List T) : List T :=
  stamps.dropWhile fun time => decide (time ≤ now - window)

/-- What is kept of the accepted times, as far as it is known at some time. -/
structure Tracks (limit : Nat) (window now : T) (accepted stamps : List T) : Prop where
  past : ∀ time ∈ accepted, time ≤ now
  kept : ∃ old, accepted = old ++ stamps ∧ ∀ time ∈ old, time ≤ now - window
  bounded : ∀ stretch, Narrow window stretch → accepted.countP stretch ≤ limit

variable {limit : Nat} {window now later : T} {accepted stamps : List T}

theorem expire_suffix (window now : T) (stamps : List T) : expire window now stamps <:+ stamps :=
  List.dropWhile_suffix _

/-- What is forgotten later is forgotten anyway. -/
theorem expire_expire [IsOrderedAddMonoid T] (passes : now ≤ later) (stamps : List T) :
    expire window later (expire window now stamps) = expire window later stamps := by
  unfold expire
  induction stamps with
  | nil => rfl
  | cons stamp rest ih =>
      by_cases old : stamp ≤ now - window
      · have older : stamp ≤ later - window := old.trans (sub_le_sub_right passes window)
        rw [List.dropWhile_cons_of_pos (by simpa using old),
          List.dropWhile_cons_of_pos (by simpa using older)]
        exact ih
      · rw [List.dropWhile_cons_of_neg (by simpa using old)]

/-- There is room once the oldest times are forgotten that are too many. -/
theorem length_expire_lt_iff (positive : 0 < limit) : (expire window now stamps).length < limit ↔
    ∀ stamp ∈ stamps.take (stamps.length + 1 - limit), stamp ≤ now - window := by
  unfold expire
  induction stamps with
  | nil => simpa using positive
  | cons stamp rest ih =>
      by_cases old : stamp ≤ now - window
      · rw [List.dropWhile_cons_of_pos (by simpa using old), ih]
        by_cases room : rest.length + 1 < limit
        · have none_ : rest.length + 1 - limit = 0 := by omega
          have none' : rest.length + 1 + 1 - limit = 0 := by omega
          simp [none_, none']
        · have more : (stamp :: rest).length + 1 - limit = rest.length + 1 - limit + 1 := by
            rw [List.length_cons]
            omega
          rw [more, List.take_succ_cons]
          simp [old]
      · rw [List.dropWhile_cons_of_neg (by simpa using old), List.length_cons]
        constructor
        · intro room
          have none_ : rest.length + 1 + 1 - limit = 0 := by omega
          simp [none_]
        · intro all
          by_contra full
          have more : rest.length + 1 + 1 - limit = rest.length + 1 - limit + 1 := by omega
          rw [more, List.take_succ_cons] at all
          exact old (all stamp List.mem_cons_self)

namespace Tracks

theorem nil (limit : Nat) (window now : T) : Tracks limit window now [] [] :=
  ⟨by simp, ⟨[], rfl, by simp⟩, by simp⟩

/-- What is kept was accepted. -/
theorem stamps_past (tracks : Tracks limit window now accepted stamps) :
    ∀ time ∈ stamps, time ≤ now := by
  obtain ⟨old, split, _⟩ := tracks.kept
  intro time mem
  exact tracks.past time (split ▸ List.mem_append_right old mem)

/-- Everything may be forgotten once it is all a window old. -/
theorem forget (tracks : Tracks limit window now accepted stamps)
    (idle : ∀ time ∈ stamps, time ≤ now - window) : Tracks limit window now accepted [] := by
  obtain ⟨old, split, forgotten⟩ := tracks.kept
  refine ⟨tracks.past, ⟨accepted, (List.append_nil _).symm, ?_⟩, tracks.bounded⟩
  intro time mem
  rw [split] at mem
  rcases List.mem_append.mp mem with earlier | kept
  · exact forgotten time earlier
  · exact idle time kept

/-- What is a window old is forgotten. -/
theorem expire (tracks : Tracks limit window now accepted stamps) :
    Tracks limit window now accepted (SlidingWindow.expire window now stamps) := by
  obtain ⟨old, split, forgotten⟩ := tracks.kept
  let expired := stamps.takeWhile fun time => decide (time ≤ now - window)
  refine ⟨tracks.past, ⟨old ++ expired, ?_, ?_⟩, tracks.bounded⟩
  · rw [List.append_assoc, SlidingWindow.expire, List.takeWhile_append_dropWhile, split]
  · intro time mem
    rcases List.mem_append.mp mem with earlier | recent
    · exact forgotten time earlier
    · have old := List.mem_takeWhile_imp recent
      simpa using old

variable [IsOrderedAddMonoid T]

/-- Time passes. -/
theorem wait (tracks : Tracks limit window now accepted stamps) (passes : now ≤ later) :
    Tracks limit window later accepted stamps := by
  obtain ⟨old, split, forgotten⟩ := tracks.kept
  refine ⟨fun time mem => (tracks.past time mem).trans passes, ⟨old, split, ?_⟩, tracks.bounded⟩
  intro time mem
  exact (forgotten time mem).trans (sub_le_sub_right passes window)

/-- The present is accepted while fewer than `limit` times are kept: those of a narrow stretch
around it are all among them. -/
theorem accept (tracks : Tracks limit window now accepted stamps) (room : stamps.length < limit) :
    Tracks limit window now (accepted ++ [now]) (stamps ++ [now]) := by
  obtain ⟨old, split, forgotten⟩ := tracks.kept
  refine ⟨?_, ⟨old, by rw [split, List.append_assoc], forgotten⟩, ?_⟩
  · intro time mem
    rcases List.mem_append.mp mem with earlier | present
    · exact tracks.past time earlier
    · exact (List.mem_singleton.mp present).le
  · intro stretch narrow
    rw [List.countP_append, List.countP_singleton]
    by_cases present : stretch now = true
    · have none : old.countP stretch = 0 := by
        refine List.countP_eq_zero.mpr fun time mem inside => ?_
        have near : now < time + window := narrow time now inside present
        exact absurd (add_le_of_le_sub_right (forgotten time mem)) near.not_ge
      have few : stamps.countP stretch ≤ stamps.length := List.countP_le_length
      rw [split, List.countP_append, none, if_pos present]
      omega
    · rw [if_neg present]
      exact tracks.bounded stretch narrow

theorem narrow_closed_open (start : T) :
    Narrow window fun time => decide (start ≤ time ∧ time < start + window) := by
  intro first second inFirst inSecond
  have first := of_decide_eq_true inFirst
  have second := of_decide_eq_true inSecond
  exact second.2.trans_le (add_le_add_left first.1 window)

theorem narrow_open_closed (start : T) :
    Narrow window fun time => decide (start < time ∧ time ≤ start + window) := by
  intro first second inFirst inSecond
  have first := of_decide_eq_true inFirst
  have second := of_decide_eq_true inSecond
  exact second.2.trans_lt (add_lt_add_left first.1 window)

theorem atMost (tracks : Tracks limit window now accepted stamps) : AtMost limit window accepted :=
  fun start => ⟨tracks.bounded _ (narrow_closed_open start), tracks.bounded _
    (narrow_open_closed start)⟩

end Tracks

end SlidingWindow
