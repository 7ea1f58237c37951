import DataGateway.Python.Day

/-!
# The trading calendar

Whether a day is a holiday or closes early is looked up in the exchange's calendar, and in two
tables where that has no answer.
-/

namespace DataGateway
namespace Calendar

/-! ## The exchange's calendar -/

/-- What is asked of the NYSE calendar of `exchange_calendars`. -/
structure ExchangeCalendar where
  firstSession : Day
  lastSession : Day
  isSession : Day → Bool
  /-- The hour of `session_close` in New York. -/
  closeHour : Day → Nat
  /-- `_resolve_holiday_name`. -/
  holidayName : Day → String

/-- The calendar knows the day. -/
def ExchangeCalendar.covers (calendar : ExchangeCalendar) (day : Day) : Bool :=
  calendar.firstSession ≤ day && day ≤ calendar.lastSession

/-- `_xcals_is_holiday`. -/
def xcalsIsHoliday (nyse : Option ExchangeCalendar) (day : Day) : Bool × Option String :=
  match nyse with
  | none => (false, none)
  | some calendar =>
      if calendar.covers day = false then (false, none)
      else if calendar.isSession day then (false, none)
      else (true, some (calendar.holidayName day))

/-- `_xcals_is_early_close`. -/
def xcalsIsEarlyClose (nyse : Option ExchangeCalendar) (day : Day) : Bool × Option String :=
  match nyse with
  | none => (false, none)
  | some calendar =>
      if calendar.covers day = false then (false, none)
      else if calendar.isSession day = false then (false, none)
      else if calendar.closeHour day < 16 then (true, some "Early Close")
      else (false, none)

/-- `_xcals_is_session`. -/
def xcalsIsSession (nyse : Option ExchangeCalendar) (day : Day) : Option Bool :=
  match nyse with
  | none => none
  | some calendar => if calendar.covers day = false then none else some (calendar.isSession day)

/-! ## The tables -/

/-- A table of days. -/
abbrev DayTable := List ((Nat × Nat × Nat) × String)

/-- The entry of a day. -/
def DayTable.get (table : DayTable) (day : Day) : Option String :=
  (table.find? fun ((year, month, number), _) => Day.ordinalOf year month number = day.ordinal).map
    Prod.snd

/-- `US_HOLIDAYS`. -/
def usHolidays : DayTable :=
  [((2024, 1, 1), "New Year's Day"), ((2024, 1, 15), "Martin Luther King Jr. Day"),
    ((2024, 2, 19), "Presidents' Day"), ((2024, 3, 29), "Good Friday"),
    ((2024, 5, 27), "Memorial Day"), ((2024, 6, 19), "Juneteenth"),
    ((2024, 7, 4), "Independence Day"), ((2024, 9, 2), "Labor Day"),
    ((2024, 11, 28), "Thanksgiving Day"), ((2024, 12, 25), "Christmas Day"),
    ((2025, 1, 1), "New Year's Day"), ((2025, 1, 20), "Martin Luther King Jr. Day"),
    ((2025, 2, 17), "Presidents' Day"), ((2025, 4, 18), "Good Friday"),
    ((2025, 5, 26), "Memorial Day"), ((2025, 6, 19), "Juneteenth"),
    ((2025, 7, 4), "Independence Day"), ((2025, 9, 1), "Labor Day"),
    ((2025, 11, 27), "Thanksgiving Day"), ((2025, 12, 25), "Christmas Day"),
    ((2026, 1, 1), "New Year's Day"), ((2026, 1, 19), "Martin Luther King Jr. Day"),
    ((2026, 2, 16), "Presidents' Day"), ((2026, 4, 3), "Good Friday"),
    ((2026, 5, 25), "Memorial Day"), ((2026, 6, 19), "Juneteenth"),
    ((2026, 7, 3), "Independence Day (observed)"), ((2026, 9, 7), "Labor Day"),
    ((2026, 11, 26), "Thanksgiving Day"), ((2026, 12, 25), "Christmas Day")]

/-- `US_EARLY_CLOSES`. -/
def usEarlyCloses : DayTable :=
  [((2024, 7, 3), "Independence Day Eve"), ((2024, 11, 29), "Day After Thanksgiving"),
    ((2024, 12, 24), "Christmas Eve"), ((2025, 7, 3), "Independence Day Eve"),
    ((2025, 11, 28), "Day After Thanksgiving"), ((2025, 12, 24), "Christmas Eve"),
    ((2026, 11, 27), "Day After Thanksgiving"), ((2026, 12, 24), "Christmas Eve")]

/-! ## The calendar -/

/-- `time(hour, minute)`, in microseconds of the day. -/
def clock (hour minute : Nat) : Nat := (hour * 60 + minute) * 60000000

/-- `MarketStatus`. -/
inductive MarketStatus
  | open
  | closed
  | earlyClose
  deriving DecidableEq

/-- `MarketSession`. -/
structure MarketSession where
  start : Nat
  end_ : Nat
  deriving DecidableEq

/-- `MarketHours`. -/
structure MarketHours where
  date : Day
  market : String
  status : MarketStatus
  premarket : Option MarketSession
  regular : Option MarketSession
  afterhours : Option MarketSession
  timezone : String
  isHoliday : Bool
  isEarlyClose : Bool
  holidayName : Option String
  deriving DecidableEq

/-- `Holiday`. -/
structure Holiday where
  date : Day
  name : String
  deriving DecidableEq

/-- `EarlyClose`. -/
structure EarlyClose where
  date : Day
  closeTime : Nat
  reason : String
  deriving DecidableEq

/-- `TradingCalendar`, with the calendar of the exchange, if it is there, and the tables. -/
structure TradingCalendar where
  market : String
  timezone : String
  nyse : Option ExchangeCalendar
  holidays : DayTable
  earlyCloses : DayTable

/-- The calendar that the gateway makes. -/
def TradingCalendar.new (nyse : Option ExchangeCalendar) : TradingCalendar :=
  ⟨"NYSE", "America/New_York", nyse, usHolidays, usEarlyCloses⟩

/-- `PREMARKET_START`. -/
def premarketStart : Nat := clock 4 0

/-- `PREMARKET_END`. -/
def premarketEnd : Nat := clock 9 30

/-- `REGULAR_START`. -/
def regularStart : Nat := clock 9 30

/-- `REGULAR_END`. -/
def regularEnd : Nat := clock 16 0

/-- `REGULAR_EARLY_END`. -/
def regularEarlyEnd : Nat := clock 13 0

/-- `AFTERHOURS_START`. -/
def afterhoursStart : Nat := clock 16 0

/-- `AFTERHOURS_END`. -/
def afterhoursEnd : Nat := clock 20 0

/-- `MAX_TRADING_RANGE_DAYS`. -/
def maxTradingRangeDays : Int := 3660

namespace TradingCalendar

variable (calendar : TradingCalendar)

/-- `_is_holiday`. -/
def isHoliday (day : Day) : Bool × Option String :=
  if (xcalsIsHoliday calendar.nyse day).1 then (true, (xcalsIsHoliday calendar.nyse day).2)
  else if (xcalsIsSession calendar.nyse day).isSome then (false, none)
  else
    match calendar.holidays.get day with
    | some name => (true, some name)
    | none => (false, none)

/-- `_is_early_close`. -/
def isEarlyClose (day : Day) : Bool × Option String :=
  if (xcalsIsEarlyClose calendar.nyse day).1 then (true, (xcalsIsEarlyClose calendar.nyse day).2)
  else if (xcalsIsSession calendar.nyse day).isSome then (false, none)
  else
    match calendar.earlyCloses.get day with
    | some reason => (true, some reason)
    | none => (false, none)

/-- `get_market_hours` of a day without trade. -/
def closedHours (day : Day) (isHoliday : Bool) (holidayName : Option String) : MarketHours :=
  ⟨day, calendar.market, .closed, none, none, none, calendar.timezone, isHoliday, false,
    holidayName⟩

/-- `get_market_hours`. -/
def getMarketHours (day : Day) : MarketHours :=
  if 5 ≤ day.weekday then calendar.closedHours day false none
  else if (calendar.isHoliday day).1 then
    calendar.closedHours day true (calendar.isHoliday day).2
  else
    let isEarly := (calendar.isEarlyClose day).1
    { date := day
      market := calendar.market
      status := if isEarly then .earlyClose else .open
      premarket := some ⟨premarketStart, premarketEnd⟩
      regular := some ⟨regularStart, if isEarly then regularEarlyEnd else regularEnd⟩
      afterhours := some ⟨if isEarly then regularEarlyEnd else afterhoursStart, afterhoursEnd⟩
      timezone := calendar.timezone
      isHoliday := false
      isEarlyClose := isEarly
      holidayName := none }

/-- `is_trading_day`. -/
def isTradingDay (day : Day) : Bool :=
  if 5 ≤ day.weekday then false else !(calendar.isHoliday day).1

end TradingCalendar

/-- `datetime`: what its clock shows, in microseconds, and the offset of its zone, if it has one. -/
structure Moment where
  wall : Int
  offset : Option Int

/-- The instant; without a zone the clock shows UTC. -/
def Moment.instant (moment : Moment) : Int := moment.wall - moment.offset.getD 0

/-- `astimezone(self._tz)`: the date and the time of an instant in New York. -/
abbrev LocalTime := Int → Day × Nat

/-- What `get_trading_days` collects. -/
structure TradingDays where
  tradingDays : List Day
  holidays : List Holiday
  earlyCloses : List EarlyClose
  deriving DecidableEq

/-- What `get_trading_days` raises. -/
inductive RangeError
  | valueError (message : String)
  /-- The day after the last one there is. -/
  | overflowError
  deriving DecidableEq

namespace TradingCalendar

variable (calendar : TradingCalendar)

/-- `is_market_open`, with `datetime.now(UTC)`. -/
def isMarketOpen (astimezone : LocalTime) (now : Moment) (dt : Option Moment) : Bool :=
  let localTime := astimezone (dt.getD now).instant
  if calendar.isTradingDay localTime.1 = false then false
  else if (calendar.isEarlyClose localTime.1).1 then
    regularStart ≤ localTime.2 && localTime.2 < regularEarlyEnd
  else regularStart ≤ localTime.2 && localTime.2 < regularEnd

/-- What the loop of `get_trading_days` notes of one day. -/
def noteDay (day : Day) (found : TradingDays) : TradingDays :=
  if day.weekday < 5 then
    if (calendar.isHoliday day).1 then
      { found with
        holidays := found.holidays ++
          [⟨day, ((calendar.isHoliday day).2.filter (· ≠ "")).getD "Market Holiday"⟩] }
    else
      { found with
        tradingDays := found.tradingDays ++ [day]
        earlyCloses := found.earlyCloses ++
          if (calendar.isEarlyClose day).1 then
            [⟨day, regularEarlyEnd,
              ((calendar.isEarlyClose day).2.filter (· ≠ "")).getD "Early Close"⟩]
          else [] }
  else found

/-- The loop of `get_trading_days`, which makes at most one turn for every day. -/
def tradingDaysFrom (end_ : Day) : Nat → Day → TradingDays → Except RangeError TradingDays
  | 0, _, found => .ok found
  | turns + 1, current, found =>
      if current ≤ end_ then
        let noted := calendar.noteDay current found
        match current.addDays 1 with
        | none => .error .overflowError
        | some next =>
            if 1000 < noted.tradingDays.length then .ok noted
            else tradingDaysFrom end_ turns next noted
      else .ok found

/-- `get_trading_days`. -/
def getTradingDays (start end_ : Day) : Except RangeError TradingDays :=
  if end_ < start then .ok ⟨[], [], []⟩
  else if maxTradingRangeDays < end_.ordinal - start.ordinal then
    .error (.valueError ("Date range cannot exceed " ++ toString maxTradingRangeDays ++ " days"))
  else
    calendar.tradingDaysFrom end_ (end_.ordinal - start.ordinal + 1).toNat start ⟨[], [], []⟩

end TradingCalendar

end Calendar
end DataGateway
