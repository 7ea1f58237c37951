import DataGateway.Calendar.Sessions

/-!
# The trading days of a range

The loop of `get_trading_days` stops once it has more than a thousand trading days.  The range is
reported in full exactly when no weekday of it is left then, and there is a day after its end.
-/

namespace DataGateway
namespace Calendar
namespace TradingCalendar

variable {calendar : TradingCalendar}

/-! ## What is noted -/

/-- The day is a weekday with a holiday. -/
def isWeekdayHoliday (calendar : TradingCalendar) (day : Day) : Bool :=
  day.weekday < 5 && (calendar.isHoliday day).1

/-- The day is a trading day that closes early. -/
def closesEarly (calendar : TradingCalendar) (day : Day) : Bool :=
  calendar.isTradingDay day && (calendar.isEarlyClose day).1

theorem weekday_cases (calendar : TradingCalendar) {day : Day} (weekday : day.weekday < 5) :
    calendar.isTradingDay day = true ∨ calendar.isWeekdayHoliday day = true := by
  unfold isTradingDay isWeekdayHoliday
  rw [if_neg (by omega)]
  cases (calendar.isHoliday day).1 <;> simp [weekday]

theorem weekday_of_isTradingDay {day : Day} (trading : calendar.isTradingDay day = true) :
    day.weekday < 5 := by
  by_contra weekend
  have closed := not_isTradingDay.mpr (.inl (not_lt.mp weekend) : _ ∨ (calendar.isHoliday day).1 =
    true)
  rw [trading] at closed
  cases closed

/-- What is found, as far as days go. -/
structure Reports (calendar : TradingCalendar) (days : List Day) (found : TradingDays) : Prop where
  tradingDays : found.tradingDays = days.filter calendar.isTradingDay
  holidays : found.holidays.map Holiday.date = days.filter calendar.isWeekdayHoliday
  earlyCloses : found.earlyCloses.map EarlyClose.date = days.filter calendar.closesEarly

theorem reports_nil : calendar.Reports [] ⟨[], [], []⟩ := ⟨rfl, rfl, rfl⟩

/-- One more day is noted. -/
theorem Reports.noteDay {days : List Day} {found : TradingDays} (reports : calendar.Reports days
    found)
    (day : Day) : calendar.Reports (days ++ [day]) (calendar.noteDay day found) := by
  have trading : calendar.isTradingDay day = (day.weekday < 5 && !(calendar.isHoliday day).1) := by
    unfold isTradingDay
    split
    next weekend => simp [not_lt.mpr weekend]
    next weekday => simp [not_le.mp weekday]
  unfold TradingCalendar.noteDay
  split
  next weekday =>
    split
    next holiday =>
      refine ⟨?_, ?_, ?_⟩
      · simp [reports.tradingDays, trading, holiday]
      · simp [reports.holidays, isWeekdayHoliday, weekday, holiday]
      · simp [reports.earlyCloses, closesEarly, trading, holiday]
    next opened =>
      have open_ : (calendar.isHoliday day).1 = false := by simpa using opened
      refine ⟨?_, ?_, ?_⟩
      · simp [reports.tradingDays, trading, weekday, open_]
      · simp [reports.holidays, isWeekdayHoliday, open_]
      · cases early : (calendar.isEarlyClose day).1 <;>
          simp [reports.earlyCloses, closesEarly, trading, weekday, open_, early]
  next weekend =>
    refine ⟨?_, ?_, ?_⟩
    · simp [reports.tradingDays, trading, weekend]
    · simp [reports.holidays, isWeekdayHoliday, weekend]
    · simp [reports.earlyCloses, closesEarly, trading, weekend]

/-! ## Where the loop stops -/

/-- The trading days among some days that come before a day. -/
def tradingBefore (calendar : TradingCalendar) (days : List Day) (day : Day) : List Day :=
  days.filter fun other => calendar.isTradingDay other && decide (other < day)

/-- The loop goes over the days from the first on, and leaves out those that have more than a
thousand trading days before them. -/
structure Scans (calendar : TradingCalendar) (days scanned left : List Day) : Prop where
  split : days = scanned ++ left
  early : ∀ day ∈ scanned, (calendar.tradingBefore days day).length ≤ 1000
  late : ∀ day ∈ left, 1000 < (calendar.tradingBefore days day).length

/-- The trading days before a day of a sorted list are those that stand before it. -/
theorem tradingBefore_middle (calendar : TradingCalendar) {front rest : List Day} {day : Day}
    (sorted : (front ++ day :: rest).Pairwise (· < ·)) :
    calendar.tradingBefore (front ++ day :: rest) day = front.filter calendar.isTradingDay := by
  obtain ⟨-, sortedRest, before⟩ := List.pairwise_append.mp sorted
  have after := (List.pairwise_cons.mp sortedRest).1
  have kept : front.filter (fun other => calendar.isTradingDay other && decide (other < day)) =
      front.filter calendar.isTradingDay :=
    List.filter_congr fun other mem => by simp [before other mem day List.mem_cons_self]
  have gone : (day :: rest).filter
      (fun other => calendar.isTradingDay other && decide (other < day)) = [] := by
    refine List.filter_eq_nil_iff.mpr fun other mem => ?_
    have notBefore : ¬other < day := by
      rcases List.mem_cons.mp mem with rfl | mem
      · exact lt_irrefl other
      · exact lt_asymm (after other mem)
    simp [notBefore]
  rw [tradingBefore, List.filter_append, kept, gone, List.append_nil]

/-- The trading days that stand before a day of a sorted list come before it. -/
theorem length_le_tradingBefore (calendar : TradingCalendar) {front rest : List Day} {day : Day}
    (sorted : (front ++ rest).Pairwise (· < ·)) (mem : day ∈ rest) :
    (front.filter calendar.isTradingDay).length ≤
      (calendar.tradingBefore (front ++ rest) day).length := by
  obtain ⟨middle, later, rfl⟩ := List.append_of_mem mem
  rw [← List.append_assoc] at sorted ⊢
  rw [calendar.tradingBefore_middle sorted, List.filter_append, List.length_append]
  exact Nat.le_add_right _ _

/-- The loop ends with what it has noted, or fails on the last day there is. -/
theorem tradingDaysFrom_cases {end_ current : Day} {turns : Nat} {done : List Day}
    {found : TradingDays} (last : current.ordinal + turns = end_.ordinal + 1)
    (sorted : (done ++ current.daysFrom turns).Pairwise (· < ·))
    (reports : calendar.Reports done found) (room : found.tradingDays.length ≤ 1000)
    (early : ∀ day ∈ done,
      (calendar.tradingBefore (done ++ current.daysFrom turns) day).length ≤ 1000) :
    (calendar.tradingDaysFrom end_ turns current found = .error .overflowError ∧
        end_.ordinal = maxOrdinal) ∨
      ∃ scanned left final, calendar.tradingDaysFrom end_ turns current found = .ok final ∧
        calendar.Reports scanned final ∧
        calendar.Scans (done ++ current.daysFrom turns) scanned left ∧
        (left = [] → turns = 0 ∨ end_.ordinal < maxOrdinal) := by
  induction turns generalizing current done found with
  | zero =>
      exact .inr ⟨done, [], found, rfl, reports, ⟨rfl, early, fun _ mem => nomatch mem⟩,
        fun _ => .inl rfl⟩
  | succ turns ih =>
      have inside : current ≤ end_ := by
        rw [Day.le_iff]
        omega
      have noted := reports.noteDay current
      rw [tradingDaysFrom, if_pos inside]
      cases follows : current.addDays 1 with
      | none =>
          have overflow := Day.addDays_eq_none.mp follows
          have first := current.valid
          have most := end_.valid
          rw [Day.le_iff] at inside
          exact .inl ⟨rfl, by omega⟩
      | some next =>
          have after := Day.addDays_eq_some.mp follows
          rw [Day.daysFrom_succ follows] at sorted early ⊢
          have here := calendar.tradingBefore_middle sorted
          rw [List.append_cons] at sorted early here ⊢
          have earlyHere : ∀ day ∈ done ++ [current], (calendar.tradingBefore
              (done ++ [current] ++ next.daysFrom turns) day).length ≤ 1000 := by
            intro day mem
            rcases List.mem_append.mp mem with mem | mem
            · exact early day mem
            · obtain rfl := List.mem_singleton.mp mem
              rw [here, ← reports.tradingDays]
              exact room
          dsimp only
          split
          next full =>
            refine .inr ⟨done ++ [current], next.daysFrom turns, _, rfl, noted,
              ⟨rfl, earlyHere, fun day mem => ?_⟩, fun none_ => .inr ?_⟩
            · have more := calendar.length_le_tradingBefore sorted mem
              rw [← noted.tradingDays] at more
              exact Nat.lt_of_lt_of_le full more
            · cases turns with
              | zero =>
                  have most := next.valid
                  push_cast at last
                  omega
              | succ turns => cases none_
          next room' =>
            rcases ih (by push_cast at last; omega) sorted noted (Nat.not_lt.mp room') earlyHere
              with
              failed | ⟨scanned, left, final, ended, reported, scans, whole⟩
            · exact .inl failed
            · refine .inr ⟨scanned, left, final, ended, reported, scans, fun none_ => ?_⟩
              rcases whole none_ with rfl | more
              · have most := next.valid
                push_cast at last
                exact .inr (by omega)
              · exact .inr more

/-! ## Complete ranges -/

/-- The days of the range for which `is_trading_day` holds are returned, in order, and every weekday
holiday and every early close of the range is reported. -/
def Complete (calendar : TradingCalendar) (start end_ : Day) : Prop :=
  ∃ found, calendar.getTradingDays start end_ = .ok found ∧
    calendar.Reports (Day.days start end_) found

/-- Days that are left out are on weekends exactly when nothing is missing. -/
theorem Scans.reports_iff {days scanned left : List Day} {found : TradingDays}
    (scans : calendar.Scans days scanned left) (reports : calendar.Reports scanned found) :
    calendar.Reports days found ↔ ∀ day ∈ left, 5 ≤ day.weekday := by
  constructor
  · intro whole day mem
    by_contra weekday
    have inDays : day ∈ days := scans.split ▸ List.mem_append_right scanned mem
    have found_ : day ∈ scanned := by
      rcases calendar.weekday_cases (not_le.mp weekday) with trading | holiday
      · have mem := List.mem_filter.mpr ⟨inDays, trading⟩
        rw [← whole.tradingDays, reports.tradingDays] at mem
        exact (List.mem_filter.mp mem).1
      · have mem := List.mem_filter.mpr ⟨inDays, holiday⟩
        rw [← whole.holidays, reports.holidays] at mem
        exact (List.mem_filter.mp mem).1
    exact absurd (scans.late day mem) (Nat.not_lt.mpr (scans.early day found_))
  · intro weekends
    have none_ {keep : Day → Bool} (weekday : ∀ day, keep day = true → day.weekday < 5) :
        days.filter keep = scanned.filter keep := by
      have gone : left.filter keep = [] := List.filter_eq_nil_iff.mpr fun day mem kept =>
        absurd (weekday day kept) (not_lt.mpr (weekends day mem))
      rw [scans.split, List.filter_append, gone, List.append_nil]
    refine ⟨?_, ?_, ?_⟩
    · exact reports.tradingDays.trans (none_ fun _ => weekday_of_isTradingDay).symm
    · exact reports.holidays.trans
        (none_ fun day kept => of_decide_eq_true (Bool.and_eq_true_iff.mp kept).1).symm
    · exact reports.earlyCloses.trans
        (none_ fun day kept => weekday_of_isTradingDay (Bool.and_eq_true_iff.mp kept).1).symm

/-- An admitted range is left to the loop. -/
theorem getTradingDays_admitted (calendar : TradingCalendar) {start end_ : Day}
    (ordered : start ≤ end_) (admitted : end_.ordinal - start.ordinal ≤ maxTradingRangeDays) :
    calendar.getTradingDays start end_ = calendar.tradingDaysFrom end_
      (end_.ordinal - start.ordinal + 1).toNat start ⟨[], [], []⟩ := by
  unfold getTradingDays
  rw [if_neg (not_lt.mpr ordered), if_neg (not_lt.mpr admitted)]

/-- **The days of a range.**  An admitted range is reported in full exactly when there is a day
after its end, and every weekday of it has at most a thousand of its trading days before it. -/
theorem trading_days_complete_iff (calendar : TradingCalendar) {start end_ : Day}
    (ordered : start ≤ end_) (admitted : end_.ordinal - start.ordinal ≤ maxTradingRangeDays) :
    calendar.Complete start end_ ↔ end_.ordinal < maxOrdinal ∧
      ∀ day ∈ Day.days start end_, day.weekday < 5 →
        (calendar.tradingBefore (Day.days start end_) day).length ≤ 1000 := by
  have first : start.ordinal ≤ end_.ordinal := ordered
  have turns : start.ordinal + ((end_.ordinal - start.ordinal + 1).toNat : Int) =
      end_.ordinal + 1 := by omega
  rw [Complete, calendar.getTradingDays_admitted ordered admitted]
  rcases tradingDaysFrom_cases turns (Day.days_sorted start end_) calendar.reports_nil
      (Nat.zero_le _) (fun _ mem => nomatch mem) with
    ⟨failed, most⟩ | ⟨scanned, left, final, ended, reports, scans, whole⟩
  · rw [failed]
    refine iff_of_false ?_ fun follows => absurd follows.1 (by omega)
    rintro ⟨_, same, -⟩
    cases same
  · have split : Day.days start end_ = scanned ++ left := scans.split
    have scans : calendar.Scans (Day.days start end_) scanned left := scans
    rw [ended]
    have complete : (∃ found, Except.ok final = (.ok found : Except RangeError TradingDays) ∧
        calendar.Reports (Day.days start end_) found) ↔ ∀ day ∈ left, 5 ≤ day.weekday := by
      refine Iff.trans ⟨?_, fun reported => ⟨final, rfl, reported⟩⟩ (scans.reports_iff reports)
      rintro ⟨found, same, reported⟩
      exact Except.ok.inj same ▸ reported
    rw [complete]
    -- the last day there is is a Friday, so it is not among days that are left out on weekends
    have followed (weekends : ∀ day ∈ left, 5 ≤ day.weekday) : end_.ordinal < maxOrdinal := by
      cases left with
      | nil => exact (whole rfl).resolve_left fun none_ => by omega
      | cons day left =>
          have sorted := Day.days_sorted start end_
          have lastDay : end_ ∈ scanned ++ day :: left :=
            split ▸ Day.mem_days.mpr ⟨ordered, le_rfl⟩
          have within := Day.mem_days.mp (split ▸ List.mem_append_right scanned
            List.mem_cons_self : day ∈ Day.days start end_)
          have left_ : end_ ∈ day :: left := by
            rcases List.mem_append.mp lastDay with mem | mem
            · have before := (List.pairwise_append.mp (split ▸ sorted)).2.2 end_ mem day
                List.mem_cons_self
              exact absurd within.2 (not_le.mpr before)
            · exact mem
          have weekend := weekends end_ left_
          have most := end_.valid
          unfold Day.weekday at weekend
          unfold maxOrdinal at most ⊢
          omega
    constructor
    · intro weekends
      refine ⟨followed weekends, fun day mem weekday => ?_⟩
      have mem : day ∈ scanned ++ left := split ▸ mem
      rcases List.mem_append.mp mem with mem | mem
      · exact scans.early day mem
      · exact absurd (weekends day mem) (not_le.mpr weekday)
    · rintro ⟨-, few⟩ day mem
      by_contra weekday
      have inDays : day ∈ Day.days start end_ :=
        split ▸ List.mem_append_right scanned mem
      exact absurd (scans.late day mem) (Nat.not_lt.mpr (few day inDays (not_le.mp weekday)))

theorem thanksgiving_week_is_complete :
    (TradingCalendar.new none).Complete ⟨739216, by decide⟩ ⟨739222, by decide⟩ :=
  ((TradingCalendar.new none).trading_days_complete_iff (by decide) (by decide)).mpr
    (by decide +kernel)

/-- The loop ends once it has more than a thousand trading days. -/
theorem tradingDaysFrom_length {end_ current : Day} {turns : Nat} {found final : TradingDays}
    (room : found.tradingDays.length ≤ 1000)
    (ended : calendar.tradingDaysFrom end_ turns current found = .ok final) :
    final.tradingDays.length ≤ 1001 := by
  have one (day : Day) (found : TradingDays) :
      (calendar.noteDay day found).tradingDays.length ≤ found.tradingDays.length + 1 := by
    unfold TradingCalendar.noteDay
    split
    · split <;> simp
    · exact Nat.le_succ _
  induction turns generalizing current found with
  | zero =>
      cases ended
      omega
  | succ turns ih =>
      have noted := one current found
      rw [tradingDaysFrom] at ended
      split at ended
      · dsimp only at ended
        split at ended
        · cases ended
        · split at ended
          · cases ended
            omega
          next more => exact ih (Nat.not_lt.mp more) ended
      · cases ended
        omega

/-- A calendar of the exchange without holidays, for the days around a range. -/
def weekdaySessions : ExchangeCalendar where
  firstSession := ⟨735000, by decide⟩
  lastSession := ⟨745000, by decide⟩
  isSession day := day.weekday < 5
  closeHour _ := 16
  holidayName _ := "Market Holiday"

/-- In a range of four years the days after the first thousand trading days are missing. -/
theorem four_years_are_cut :
    ¬(TradingCalendar.new (some weekdaySessions)).Complete ⟨737425, by decide⟩
      ⟨738885, by decide⟩ := by
  rintro ⟨found, ended, reports⟩
  rw [getTradingDays_admitted _ (by decide) (by decide)] at ended
  have most := tradingDaysFrom_length (Nat.zero_le _) ended
  rw [reports.tradingDays] at most
  exact absurd most (by decide +kernel)

end TradingCalendar
end Calendar
end DataGateway
