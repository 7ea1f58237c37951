import DataGateway.Python.Sorting
import Mathlib.Algebra.Order.Field.Rat
import Mathlib.Algebra.BigOperators.Group.List.Basic

/-!
# Adjustment factors

`AdjustmentService`: a running factor from corporate actions, looked up by date.  A `Decimal` is a
rational number, which leaves out the rounding of its arithmetic to 28 digits; a date is an element
of a linear order.
-/

namespace DataGateway
namespace Adjustments

/-- `ActionType`. -/
inductive ActionType
  | split
  | dividend
  | merger
  | spinoff
  | nameChange
  | rightsIssue
  deriving DecidableEq, Repr

/-- `CorporateAction`, with what the factors are computed from. -/
structure CorporateAction (Date : Type) where
  type : ActionType
  exDate : Date
  ratio : Option ℚ
  description : Option String
  amount : Option ℚ
  deriving DecidableEq

/-- What the text of an event is formatted from. -/
inductive Event
  | described (description : String)
  | splitOf (ratio : ℚ)
  | dividendOf (amount : ℚ)
  deriving DecidableEq

/-- `AdjustmentFactor`. -/
structure AdjustmentFactor (Date : Type) where
  date : Date
  cumulativeFactor : ℚ
  splitFactor : ℚ
  dividendFactor : ℚ
  event : Option Event
  deriving DecidableEq

/-- A number that is there and not zero. -/
def truthy (number : Option ℚ) : Option ℚ := number.filter (· ≠ 0)

variable {Date : Type}

namespace CorporateAction

/-- `action.type == ActionType.SPLIT and action.ratio`. -/
def splitRatio (action : CorporateAction Date) : Option ℚ :=
  if action.type = .split then truthy action.ratio else none

/-- `action.type == ActionType.DIVIDEND and action.amount`. -/
def dividendAmount (action : CorporateAction Date) : Option ℚ :=
  if action.type = .dividend then truthy action.amount else none

/-- `action.description or f"{action.ratio}:1 split"`. -/
def splitEvent (action : CorporateAction Date) (ratio : ℚ) : Event :=
  match action.description.filter (· ≠ "") with
  | some description => .described description
  | none => .splitOf ratio

end CorporateAction

variable [LinearOrder Date]

/-- The loop over the sorted actions, with `cumulative_split` and `cumulative_dividend`. -/
def factorsFrom (start end_ : Date) (cumulativeSplit cumulativeDividend : ℚ) :
    List (CorporateAction Date) → List (AdjustmentFactor Date)
  | [] => []
  | action :: rest =>
      if action.exDate < start ∨ end_ < action.exDate then
        factorsFrom start end_ cumulativeSplit cumulativeDividend rest
      else
        match action.splitRatio with
        | some ratio =>
            let cumulativeSplit := cumulativeSplit * (1 / ratio)
            ⟨action.exDate, cumulativeSplit * cumulativeDividend, cumulativeSplit,
              cumulativeDividend, some (action.splitEvent ratio)⟩ ::
              factorsFrom start end_ cumulativeSplit cumulativeDividend rest
        | none =>
            match action.dividendAmount with
            | some amount =>
                ⟨action.exDate, cumulativeSplit * cumulativeDividend, cumulativeSplit,
                  cumulativeDividend, some (.dividendOf amount)⟩ ::
                  factorsFrom start end_ cumulativeSplit cumulativeDividend rest
            | none => factorsFrom start end_ cumulativeSplit cumulativeDividend rest

/-- `compute_factors_from_actions`. -/
def computeFactorsFromActions (actions : List (CorporateAction Date)) (start end_ : Date) :
    List (AdjustmentFactor Date) :=
  ⟨start, 1, 1, 1, none⟩ :: factorsFrom start end_ 1 1 (sortedBy (·.exDate) actions)

/-- `_get_factor_for_date`. -/
def getFactorForDate (targetDate : Date) (factors : List (AdjustmentFactor Date)) : ℚ :=
  match (sortedByDescending (·.date) factors).find? (·.date ≤ targetDate) with
  | some factor => factor.cumulativeFactor
  | none => 1

/-- `apply_adjustment`; its loop is the one of `_get_factor_for_date`. -/
def applyAdjustment (price : ℚ) (asOfDate : Date) (factors : List (AdjustmentFactor Date)) : ℚ :=
  price * getFactorForDate asOfDate factors

/-- A bar of `adjust_bars`; `date` is the date that its `timestamp` names. -/
structure Bar (Date : Type) where
  date : Date
  openPrice : Option ℚ
  high : Option ℚ
  low : Option ℚ
  close : Option ℚ
  volume : Option ℚ
  deriving DecidableEq

/-- A bar with the keys that `adjust_bars` adds. -/
structure AdjustedBar (Date : Type) extends Bar Date where
  adjusted : Bool
  adjustmentFactor : ℚ
  deriving DecidableEq

/-- `int` of a number, which drops its fraction. -/
def truncated (number : ℚ) : ℚ := (number.num.tdiv number.den : Int)

/-- The body of the loop of `adjust_bars`. -/
def adjustBar (bar : Bar Date) (factors : List (AdjustmentFactor Date)) : AdjustedBar Date :=
  let factor := getFactorForDate bar.date factors
  { date := bar.date
    openPrice := bar.openPrice.map (· * factor)
    high := bar.high.map (· * factor)
    low := bar.low.map (· * factor)
    close := bar.close.map (· * factor)
    volume := if factor ≠ 1 then bar.volume.map fun volume => truncated (volume / factor)
      else bar.volume
    adjusted := true
    adjustmentFactor := factor }

/-- `adjust_bars`. -/
def adjustBars (bars : List (Bar Date)) (factors : List (AdjustmentFactor Date)) :
    List (AdjustedBar Date) :=
  bars.map (adjustBar · factors)

end Adjustments
end DataGateway
