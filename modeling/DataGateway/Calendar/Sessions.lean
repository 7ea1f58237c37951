import DataGateway.Calendar.TradingCalendar

/-!
# The sessions of a day

What the calendar says of a day, of its hours and of an instant is one and the same.
-/

namespace DataGateway
namespace Calendar

/-- The market trades in the session at a time of the day. -/
def MarketSession.Holds (session : MarketSession) (time : Nat) : Prop :=
  session.start ≤ time ∧ time < session.end_

/-- Three sessions, one right after the other. -/
structure Tiled (premarket regular afterhours : MarketSession) : Prop where
  premarketRuns : premarket.start < premarket.end_
  opens : premarket.end_ = regular.start
  regularRuns : regular.start < regular.end_
  closes : regular.end_ = afterhours.start
  afterhoursRuns : afterhours.start < afterhours.end_

namespace TradingCalendar

variable {calendar : TradingCalendar} {day : Day}

/-- The end of the regular session, where the next one begins. -/
theorem end_eq (early : Bool) : (if early then regularEarlyEnd else regularEnd) =
    if early then regularEarlyEnd else afterhoursStart := rfl

/-- A day without trade is on a weekend or a holiday. -/
theorem not_isTradingDay : calendar.isTradingDay day = false ↔
    5 ≤ day.weekday ∨ (calendar.isHoliday day).1 = true := by
  unfold isTradingDay
  split
  next weekend => simp [weekend]
  next weekday => simp [weekday]

theorem getMarketHours_closed (closed : calendar.isTradingDay day = false) :
    ∃ isHoliday name, calendar.getMarketHours day = calendar.closedHours day isHoliday name := by
  unfold getMarketHours
  split
  · exact ⟨_, _, rfl⟩
  next weekday =>
    rw [if_pos ((not_isTradingDay.mp closed).resolve_left weekday)]
    exact ⟨_, _, rfl⟩

/-- The hours of a trading day. -/
theorem getMarketHours_open (trading : calendar.isTradingDay day = true) :
    calendar.getMarketHours day =
      { date := day
        market := calendar.market
        status := if (calendar.isEarlyClose day).1 then .earlyClose else .open
        premarket := some ⟨premarketStart, premarketEnd⟩
        regular := some ⟨regularStart,
          if (calendar.isEarlyClose day).1 then regularEarlyEnd else regularEnd⟩
        afterhours := some ⟨if (calendar.isEarlyClose day).1 then regularEarlyEnd
          else afterhoursStart, afterhoursEnd⟩
        timezone := calendar.timezone
        isHoliday := false
        isEarlyClose := (calendar.isEarlyClose day).1
        holidayName := none } := by
  have opened := mt not_isTradingDay.mpr (ne_true_of_eq_false · trading)
  obtain ⟨weekday, noHoliday⟩ := not_or.mp opened
  unfold getMarketHours
  rw [if_neg weekday, if_neg noHoliday]

/-- A day is a trading day exactly when its hours are not those of a closed market. -/
theorem isTradingDay_iff : calendar.isTradingDay day = true ↔
    (calendar.getMarketHours day).status ≠ .closed := by
  cases trading : calendar.isTradingDay day with
  | false =>
      obtain ⟨isHoliday, name, hours⟩ := getMarketHours_closed trading
      rw [hours]
      exact iff_of_false nofun (not_not_intro rfl)
  | true =>
      rw [getMarketHours_open trading]
      refine iff_of_true rfl ?_
      dsimp only
      split <;> nofun

/-- The market is open at the times of the regular session. -/
theorem isMarketOpen_iff {astimezone : LocalTime} {now : Moment} {dt : Option Moment} :
    calendar.isMarketOpen astimezone now dt = true ↔ ∃ session,
      (calendar.getMarketHours (astimezone (dt.getD now).instant).1).regular = some session ∧
        session.Holds (astimezone (dt.getD now).instant).2 := by
  unfold isMarketOpen
  generalize astimezone (dt.getD now).instant = localTime
  dsimp only
  cases trading : calendar.isTradingDay localTime.1 with
  | false =>
      obtain ⟨isHoliday, name, hours⟩ := getMarketHours_closed trading
      rw [hours, if_pos rfl]
      refine iff_of_false nofun ?_
      rintro ⟨session, none_, -⟩
      cases none_
  | true =>
      rw [getMarketHours_open trading, if_neg nofun]
      simp only [Option.some.injEq, exists_eq_left', MarketSession.Holds]
      split <;> simp

/-- The sessions of a trading day follow each other; other days have none. -/
theorem sessions_iff : calendar.isTradingDay day = true ↔ ∃ premarket regular afterhours,
    (calendar.getMarketHours day).premarket = some premarket ∧
      (calendar.getMarketHours day).regular = some regular ∧
      (calendar.getMarketHours day).afterhours = some afterhours ∧
      Tiled premarket regular afterhours := by
  cases trading : calendar.isTradingDay day with
  | false =>
      obtain ⟨isHoliday, name, hours⟩ := getMarketHours_closed trading
      rw [hours]
      refine iff_of_false nofun ?_
      rintro ⟨premarket, regular, afterhours, none_, -⟩
      cases none_
  | true =>
      rw [getMarketHours_open trading]
      refine iff_of_true rfl ⟨_, _, _, rfl, rfl, rfl, by decide, rfl, ?_, end_eq _, ?_⟩
      · dsimp only
        split <;> decide
      · dsimp only
        split <;> decide

/-- **The answers of the calendar agree**, whichever of its two sources they come from. -/
theorem calendar_agrees (calendar : TradingCalendar) :
    (∀ day, calendar.isTradingDay day = true ↔ (calendar.getMarketHours day).status ≠ .closed) ∧
      (∀ astimezone now dt, calendar.isMarketOpen astimezone now dt = true ↔ ∃ session,
        (calendar.getMarketHours (astimezone (dt.getD now).instant).1).regular = some session ∧
          session.Holds (astimezone (dt.getD now).instant).2) ∧
      ∀ day, calendar.isTradingDay day = true ↔ ∃ premarket regular afterhours,
        (calendar.getMarketHours day).premarket = some premarket ∧
          (calendar.getMarketHours day).regular = some regular ∧
          (calendar.getMarketHours day).afterhours = some afterhours ∧
          Tiled premarket regular afterhours :=
  ⟨fun _ => isTradingDay_iff, fun _ _ _ => isMarketOpen_iff, fun _ => sessions_iff⟩

end TradingCalendar

end Calendar
end DataGateway
