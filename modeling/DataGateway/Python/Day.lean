import DataGateway.Python.Number
import Mathlib.Algebra.Order.Ring.Int
import Mathlib.Order.Lattice

/-!
# The number of a day

`datetime.date` by the number of its day, from 0001-01-01 to 9999-12-31.
-/

namespace DataGateway

/-- `date.max.toordinal()`. -/
def maxOrdinal : Int := 3652059

/-- `datetime.date`, by its `toordinal()`. -/
structure Day where
  ordinal : Int
  valid : 1 ≤ ordinal ∧ ordinal ≤ maxOrdinal
  deriving DecidableEq

namespace Day

@[ext]
theorem ext {first second : Day} (same : first.ordinal = second.ordinal) : first = second := by
  cases first
  cases second
  cases same
  rfl

instance : LinearOrder Day := LinearOrder.lift' ordinal fun _ _ => ext

theorem le_iff {first second : Day} : first ≤ second ↔ first.ordinal ≤ second.ordinal := Iff.rfl

theorem lt_iff {first second : Day} : first < second ↔ first.ordinal < second.ordinal := Iff.rfl

theorem ordinal_min (first second : Day) :
    (min first second).ordinal = min first.ordinal second.ordinal := by
  rcases le_total first second with below | below
  · rw [min_eq_left below, min_eq_left (le_iff.mp below)]
  · rw [min_eq_right below, min_eq_right (le_iff.mp below)]

/-- `date.fromordinal`. -/
def ofOrdinal (ordinal : Int) : Option Day :=
  if valid : 1 ≤ ordinal ∧ ordinal ≤ maxOrdinal then some ⟨ordinal, valid⟩ else none

/-- `self + timedelta(days=days)`; `none` is an `OverflowError`. -/
def addDays (date : Day) (days : Int) : Option Day := ofOrdinal (date.ordinal + days)

/-- `date.weekday()`: Monday is 0. -/
def weekday (date : Day) : Int := (date.ordinal + 6) % 7

/-- The days before a year. -/
def daysBeforeYear (year : Nat) : Nat :=
  (year - 1) * 365 + (year - 1) / 4 - (year - 1) / 100 + (year - 1) / 400

/-- The number of the day of a year, a month and a day. -/
def ordinalOf (year month day : Nat) : Nat :=
  daysBeforeYear year +
    ((List.range (month - 1)).map fun before => daysInMonth year (before + 1)).sum + day

theorem ofOrdinal_eq_some {ordinal : Int} {date : Day} :
    ofOrdinal ordinal = some date ↔ date.ordinal = ordinal := by
  unfold ofOrdinal
  split
  next valid =>
    rw [Option.some.injEq]
    constructor
    · rintro rfl
      rfl
    · intro same
      exact ext same.symm
  next invalid =>
    refine iff_of_false nofun fun same => invalid ?_
    exact same ▸ date.valid

theorem ofOrdinal_eq_none {ordinal : Int} :
    ofOrdinal ordinal = none ↔ ordinal < 1 ∨ maxOrdinal < ordinal := by
  unfold ofOrdinal
  split
  next valid => exact iff_of_false nofun (by omega)
  next invalid => exact iff_of_true rfl (by omega)

theorem addDays_eq_some {date next : Day} {days : Int} :
    date.addDays days = some next ↔ next.ordinal = date.ordinal + days := ofOrdinal_eq_some

theorem addDays_eq_none {date : Day} {days : Int} : date.addDays days = none ↔
    date.ordinal + days < 1 ∨ maxOrdinal < date.ordinal + days := ofOrdinal_eq_none

/-- So many days from a day on. -/
def daysFrom (date : Day) : Nat → List Day
  | 0 => []
  | count + 1 => date :: match date.addDays 1 with
    | none => []
    | some next => daysFrom next count

/-- The days of `[start, end]`, in order. -/
def days (start end_ : Day) : List Day := start.daysFrom (end_.ordinal - start.ordinal + 1).toNat

theorem daysFrom_succ {date next : Day} {count : Nat} (follows : date.addDays 1 = some next) :
    date.daysFrom (count + 1) = date :: next.daysFrom count := by
  rw [daysFrom, follows]

theorem mem_daysFrom {date day : Day} {count : Nat} :
    day ∈ date.daysFrom count ↔
      date.ordinal ≤ day.ordinal ∧ day.ordinal < date.ordinal + count := by
  induction count generalizing date with
  | zero => simp [daysFrom]
  | succ count ih =>
      have first : day = date ↔ day.ordinal = date.ordinal := ⟨congrArg ordinal, ext⟩
      rw [daysFrom, List.mem_cons, first]
      cases follows : date.addDays 1 with
      | none =>
          have last := addDays_eq_none.mp follows
          have inside := day.valid
          have here := date.valid
          simp only [List.not_mem_nil, or_false]
          push_cast
          omega
      | some next =>
          have after := addDays_eq_some.mp follows
          simp only [ih]
          push_cast
          omega

theorem mem_days {start end_ day : Day} : day ∈ days start end_ ↔
    start ≤ day ∧ day ≤ end_ := by
  rw [days, mem_daysFrom, le_iff, le_iff]
  omega

theorem daysFrom_sorted (date : Day) (count : Nat) : (date.daysFrom count).Pairwise (· < ·) := by
  induction count generalizing date with
  | zero => exact .nil
  | succ count ih =>
      rw [daysFrom]
      cases follows : date.addDays 1 with
      | none => exact List.pairwise_singleton _ _
      | some next =>
          have after := addDays_eq_some.mp follows
          refine List.pairwise_cons.mpr ⟨fun day mem => ?_, ih next⟩
          rw [lt_iff]
          have later := (mem_daysFrom.mp mem).1
          omega

theorem days_sorted (start end_ : Day) : (days start end_).Pairwise (· < ·) :=
  daysFrom_sorted start _

example : (ofOrdinal (ordinalOf 2024 7 4)).map weekday = some 3 := by decide

end Day

end DataGateway
