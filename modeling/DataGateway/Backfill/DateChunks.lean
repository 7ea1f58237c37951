import DataGateway.Backfill.Manifest

/-!
# The chunks of a range of dates

The chunks of a range are disjoint and cover its days.  Each ends with the first microsecond of the
last second of its last day, and what falls after that belongs to none.
-/

namespace DataGateway
namespace Backfill

/-- The chunks of a loop whose days do not run out. -/
def dateChunksFrom (cursor end_ : Int) (chunkDays : Nat) : Nat → List DateRange
  | 0 => []
  | turns + 1 =>
      if cursor ≤ end_ then
        let chunkEnd := min (cursor + (chunkDays - 1)) end_
        ⟨cursor, chunkEnd⟩ :: dateChunksFrom (chunkEnd + 1) end_ chunkDays turns
      else []

/-- `timestamp < chunk_start or timestamp > chunk_end`, for an instant in microseconds. -/
def outOfRange (chunkStart chunkEnd : DateTime) (instant : Int) : Bool :=
  instant < chunkStart.micros || chunkEnd.micros < instant

/-- The range check accepts an instant for a chunk. -/
def DateRange.accepts (range : DateRange) (instant : Int) : Bool :=
  !outOfRange range.start range.end_ instant

/-! ## The loop -/

/-- A range is cut at a day: one chunk after the other, up to its end. -/
inductive Cuts (chunkDays : Nat) (end_ : Int) : Int → List DateRange → Prop
  | done {cursor : Int} (past : end_ < cursor) : Cuts chunkDays end_ cursor []
  | cut {cursor last : Int} {chunks : List DateRange} (left : cursor ≤ last) (inside : last ≤ end_)
      (ends : last = end_ ∨ last + 1 = cursor + chunkDays) (short : last < cursor + chunkDays)
      (rest : Cuts chunkDays end_ (last + 1) chunks) :
      Cuts chunkDays end_ cursor (⟨cursor, last⟩ :: chunks)

theorem cuts_dateChunksFrom {chunkDays fuel : Nat} {cursor end_ : Int} (positive : 1 ≤ chunkDays)
    (enough : end_ < cursor + fuel) : Cuts chunkDays end_ cursor
      (dateChunksFrom cursor end_ chunkDays fuel) := by
  induction fuel generalizing cursor with
  | zero => exact .done (by simpa using enough)
  | succ fuel ih =>
      rw [dateChunksFrom]
      split
      next inside =>
        refine .cut ?_ (min_le_right _ _) ?_ ?_ (ih ?_) <;> push_cast at enough <;> omega
      next past => exact .done (by omega)

/-- The days after a day and before the next chunk that is cut whole. -/
theorem emod_of_cut {chunkDays : Nat} {cursor last end_ : Int}
    (ends : last = end_ ∨ last + 1 = cursor + chunkDays) (left : last + 1 ≤ end_) :
    (end_ - (last + 1)) % chunkDays = (end_ - cursor) % (chunkDays : Int) := by
  have whole : end_ - (last + 1) = end_ - cursor - chunkDays := by omega
  rw [whole, Int.sub_emod_right]

/-- No day is missing: the day after the end, and the days that the last chunk is asked for. -/
def DaysSuffice (start end_ : Day) (chunkDays : Nat) : Prop :=
  end_.ordinal < maxOrdinal ∧
    end_.ordinal - (end_.ordinal - start.ordinal) % chunkDays + (chunkDays - 1) ≤ maxOrdinal

/-- The loop cuts the range, or the days run out. -/
theorem dateChunksOfFrom_cases {end_ cursor : Day} {chunkDays turns : Nat}
    (positive : 1 ≤ chunkDays)
    (begun : cursor ≤ end_) (enough : end_.ordinal < cursor.ordinal + turns) :
    DaysSuffice cursor end_ chunkDays ∧ dateChunksOfFrom end_ chunkDays turns cursor =
        some (dateChunksFrom cursor.ordinal end_.ordinal chunkDays turns) ∨
      ¬DaysSuffice cursor end_ chunkDays ∧ dateChunksOfFrom end_ chunkDays turns cursor = none := by
  induction turns generalizing cursor with
  | zero =>
      rw [Day.le_iff] at begun
      exact absurd enough (by simpa using begun)
  | succ turns ih =>
      have inside := Day.le_iff.mp begun
      have last := end_.valid
      have first := cursor.valid
      -- a chunk that is not cut whole is the last one
      have short (less : end_.ordinal < cursor.ordinal + chunkDays) :
          (end_.ordinal - cursor.ordinal) % (chunkDays : Int) = end_.ordinal - cursor.ordinal :=
        Int.emod_eq_of_lt (by omega) (by omega)
      rw [dateChunksOfFrom, if_pos begun, dateChunksFrom, if_pos inside]
      cases found : cursor.addDays (chunkDays - 1) with
      | none =>
          have overflow := Day.addDays_eq_none.mp found
          refine .inr ⟨fun suffices_ => ?_, rfl⟩
          have most := suffices_.2
          rw [short (by omega)] at most
          omega
      | some whole =>
          have whole_ := Day.addDays_eq_some.mp found
          have most := whole.valid
          have cutAt := Day.ordinal_min whole end_
          dsimp only
          cases follows : (min whole end_).addDays 1 with
          | none =>
              have overflow := Day.addDays_eq_none.mp follows
              refine .inr ⟨fun suffices_ => ?_, rfl⟩
              have before := suffices_.1
              omega
          | some next =>
              have after := Day.addDays_eq_some.mp follows
              have room := next.valid
              have same : cursor.ordinal + ((chunkDays : Int) - 1) = whole.ordinal := whole_.symm
              dsimp only
              rw [same, ← cutAt, ← after]
              by_cases more : next ≤ end_
              · have left := Day.le_iff.mp more
                have remainder : (end_.ordinal - ((min whole end_).ordinal + 1)) %
                  (chunkDays : Int) =
                    (end_.ordinal - cursor.ordinal) % chunkDays :=
                  emod_of_cut (by omega) (by omega)
                have kept : DaysSuffice cursor end_ chunkDays ↔ DaysSuffice next end_
                  chunkDays := by
                  unfold DaysSuffice
                  rw [after, remainder]
                rcases ih more (by push_cast at enough; omega) with ⟨suffices_, cut⟩ |
                  ⟨lacks, failed⟩
                · exact .inl ⟨kept.mpr suffices_, by rw [cut]; rfl⟩
                · exact .inr ⟨fun suffices_ => lacks (kept.mp suffices_), by rw [failed]; rfl⟩
              · have past : end_.ordinal < next.ordinal := lt_of_not_ge more
                refine .inl ⟨⟨by omega, ?_⟩, ?_⟩
                · rw [short (by omega)]
                  omega
                · cases turns with
                  | zero => rfl
                  | succ turns =>
                      rw [dateChunksOfFrom, if_neg more, dateChunksFrom, if_neg (not_le.mpr past)]
                      rfl

/-! ## What a cut covers -/

variable {chunkDays : Nat} {cursor end_ : Int} {chunks : List DateRange}

/-- The chunks are in order and disjoint, none is too long, and their days are those of a range. -/
structure Partitions (start end_ : Int) (chunkDays : Nat) (chunks : List DateRange) : Prop where
  ordered : chunks.Pairwise fun earlier later => earlier.last < later.first
  sized : ∀ chunk ∈ chunks, chunk.first ≤ chunk.last ∧ chunk.last < chunk.first + chunkDays
  days : ∀ day, (∃ chunk ∈ chunks, chunk.first ≤ day ∧ day ≤ chunk.last) ↔
    start ≤ day ∧ day ≤ end_

theorem Cuts.partitions (cuts : Cuts chunkDays end_ cursor chunks) :
    Partitions cursor end_ chunkDays chunks := by
  induction cuts with
  | done past =>
      refine ⟨.nil, fun _ mem => (nomatch mem), fun day => ?_⟩
      simp only [List.not_mem_nil, false_and, exists_false, false_iff]
      omega
  | @cut cursor last chunks left inside ends short rest ih =>
      have later (chunk : DateRange) (mem : chunk ∈ chunks) : last < chunk.first := by
        have own := (ih.days chunk.first).mp ⟨chunk, mem, le_rfl, (ih.sized chunk mem).1⟩
        omega
      refine ⟨List.pairwise_cons.mpr ⟨later, ih.ordered⟩, ?_, fun day => ?_⟩
      · exact List.forall_mem_cons.mpr ⟨⟨left, short⟩, ih.sized⟩
      · have others := ih.days day
        simp only [List.mem_cons, exists_eq_or_imp, others]
        omega

/-- A day is the last one of its chunk when it is the last one, or whole chunks come before the day
after it. -/
theorem Cuts.last_iff (cuts : Cuts chunkDays end_ cursor chunks) {chunk : DateRange}
    (mem : chunk ∈ chunks) {day : Int} (inside : chunk.first ≤ day ∧ day ≤ chunk.last) :
    day = chunk.last ↔ day = end_ ∨ (day + 1 - cursor) % (chunkDays : Int) = 0 := by
  induction cuts with
  | done past => cases mem
  | @cut cursor last chunks left within ends short rest ih =>
      rcases List.mem_cons.mp mem with rfl | later
      · dsimp only at inside ⊢
        by_cases whole : day + 1 = cursor + chunkDays
        · have divided : (day + 1 - cursor) % (chunkDays : Int) = 0 := by
            rw [show day + 1 - cursor = chunkDays by omega, Int.emod_self]
          exact iff_of_true (by omega) (.inr divided)
        · have remainder : (day + 1 - cursor) % (chunkDays : Int) = day + 1 - cursor :=
            Int.emod_eq_of_lt (by omega) (by omega)
          rw [remainder]
          omega
      · have own := (rest.partitions.days chunk.first).mp ⟨chunk, later, le_rfl,
          (rest.partitions.sized chunk later).1⟩
        have whole : day + 1 - (last + 1) = day + 1 - cursor - chunkDays := by omega
        rw [ih later, whole, Int.sub_emod_right]

/-- The number of chunks for which the range check accepts an instant. -/
def acceptances (chunks : List DateRange) (instant : Int) : Nat :=
  chunks.countP fun chunk => chunk.accepts instant

theorem accepts_iff {chunk : DateRange} {instant : Int} : chunk.accepts instant = true ↔
    chunk.first * dayMicros ≤ instant ∧ instant ≤ chunk.last * dayMicros + 86399000000 := by
  simp only [DateRange.accepts, outOfRange, Bool.not_eq_true', Bool.or_eq_false_iff,
    decide_eq_false_iff_not, not_lt]
  rfl

/-- A chunk that accepts an instant has its day. -/
theorem day_of_accepts {chunk : DateRange} {instant : Int} (accepts : chunk.accepts instant =
    true) :
    chunk.first ≤ instant / dayMicros ∧ instant / dayMicros ≤ chunk.last := by
  obtain ⟨begun, before⟩ := accepts_iff.mp accepts
  unfold dayMicros at *
  omega

/-- An instant of the range is accepted for the chunk of its day, or for none: that is when it is
after the first microsecond of the last second of the chunk. -/
theorem Partitions.acceptances_eq_one_iff {start : Int}
    (partitions : Partitions start end_ chunkDays chunks) {chunk : DateRange} (mem : chunk ∈ chunks)
    {instant : Int} (inside : chunk.first ≤ instant / dayMicros ∧ instant / dayMicros ≤
      chunk.last) :
    acceptances chunks instant = 1 ↔
      (instant / dayMicros = chunk.last → instant % dayMicros ≤ 86399000000) := by
  obtain ⟨front, back, rfl⟩ := List.append_of_mem mem
  obtain ⟨-, later, before⟩ := List.pairwise_append.mp partitions.ordered
  have after := (List.pairwise_cons.mp later).1
  have none_ {others : List DateRange} (apart : ∀ other ∈ others,
      other.last < chunk.first ∨ chunk.last < other.first) : acceptances others instant = 0 := by
    refine List.countP_eq_zero.mpr fun other own accepts => ?_
    have day := day_of_accepts accepts
    rcases apart other own with earlier | later <;> omega
  have frontNone : acceptances front instant = 0 :=
    none_ fun other own => .inl (before other own chunk List.mem_cons_self)
  have backNone : acceptances back instant = 0 := none_ fun other own => .inr (after other own)
  unfold acceptances at *
  rw [List.countP_append, List.countP_cons, frontNone, backNone]
  have own : chunk.accepts instant = true ↔
      (instant / dayMicros = chunk.last → instant % dayMicros ≤ 86399000000) := by
    rw [accepts_iff]
    unfold dayMicros at *
    omega
  rw [← own]
  cases chunk.accepts instant <;> simp

/-! ## Ranges of days -/

/-- The chunks of a range partition its days, and an instant is accepted for exactly one of them. -/
def Covered (start end_ : Day) (chunkDays : Nat) (instant : Int) : Prop :=
  ∃ chunks, dateChunksOf start end_ chunkDays = some chunks ∧
    Partitions start.ordinal end_.ordinal chunkDays chunks ∧ acceptances chunks instant = 1

/-- The instant falls after the first microsecond of the last second of a day that ends a chunk. -/
def InGap (start end_ : Day) (chunkDays : Nat) (instant : Int) : Prop :=
  86399000000 < instant % dayMicros ∧
    (instant / dayMicros = end_.ordinal ∨
      (instant / dayMicros + 1 - start.ordinal) % (chunkDays : Int) = 0)

/-- **The chunks of a range.**  They partition its days and accept an instant of it for exactly one
of them if and only if the days suffice and the instant is not in the gap after a chunk. -/
theorem covered_iff {start end_ : Day} {chunkDays : Nat} {instant : Int} (ordered : start ≤ end_)
    (positive : 1 ≤ chunkDays) (begun : start.ordinal * dayMicros ≤ instant)
    (before : instant < (end_.ordinal + 1) * dayMicros) :
    Covered start end_ chunkDays instant ↔
      DaysSuffice start end_ chunkDays ∧ ¬InGap start end_ chunkDays instant := by
  have first := Day.le_iff.mp ordered
  have enough : end_.ordinal < start.ordinal + (end_.ordinal - start.ordinal + 1).toNat := by omega
  rcases dateChunksOfFrom_cases positive ordered enough with ⟨suffices_, cut⟩ | ⟨lacks, failed⟩
  · have cuts : Cuts chunkDays end_.ordinal start.ordinal _ := cuts_dateChunksFrom positive enough
    have partitions := cuts.partitions
    have day : start.ordinal ≤ instant / dayMicros ∧ instant / dayMicros ≤ end_.ordinal := by
      unfold dayMicros at *
      omega
    obtain ⟨chunk, mem, inside⟩ := (partitions.days _).mpr day
    have one := partitions.acceptances_eq_one_iff mem inside
    rw [cuts.last_iff mem inside] at one
    have covered : Covered start end_ chunkDays instant ↔ acceptances (dateChunksFrom start.ordinal
        end_.ordinal chunkDays (end_.ordinal - start.ordinal + 1).toNat) instant = 1 := by
      unfold Covered dateChunksOf
      rw [cut]
      constructor
      · rintro ⟨_, ⟨⟩, -, one⟩
        exact one
      · exact fun one => ⟨_, rfl, partitions, one⟩
    rw [covered, one]
    unfold InGap
    constructor
    · intro early
      exact ⟨suffices_, fun gap => absurd (early gap.2) (not_le.mpr gap.1)⟩
    · rintro ⟨-, noGap⟩ last
      by_contra late
      exact noGap ⟨not_le.mp late, last⟩
  · refine iff_of_false ?_ fun both => lacks both.1
    rintro ⟨_, same, -⟩
    unfold dateChunksOf at same
    rw [failed] at same
    cases same

/-- At noon of the second of three days there is one chunk of two days. -/
theorem noon_is_covered :
    Covered ⟨739216, by decide⟩ ⟨739218, by decide⟩ 2 (739217 * dayMicros + 43200000000) := by
  refine (covered_iff (by decide) (by decide) (by decide) (by decide)).mpr ?_
  unfold DaysSuffice InGap
  decide

/-- The last microsecond of the first of two chunks is accepted for neither. -/
theorem last_microsecond_is_lost :
    ¬Covered ⟨739216, by decide⟩ ⟨739218, by decide⟩ 2 (739218 * dayMicros - 1) := by
  rintro ⟨chunks, same, -, one⟩
  obtain rfl : [⟨739216, 739217⟩, ⟨739218, 739218⟩] = chunks := Option.some.inj same
  cases one

end Backfill
end DataGateway
