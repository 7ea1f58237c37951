import DataGateway.Adjustments.Factors
import Mathlib.Order.Cover
import Mathlib.Tactic.FieldSimp
import Mathlib.Tactic.Ring

/-!
# The factor of a date

Every factor is a partial product of the splits, and a lookup takes the first factor of the last
date it may use.
-/

namespace DataGateway
namespace Adjustments

variable {Date : Type}

namespace CorporateAction

/-- The action adds a factor to the list. -/
def emits (action : CorporateAction Date) : Bool :=
  action.splitRatio.isSome || action.dividendAmount.isSome

/-- What a split multiplies prices by; one for every other action. -/
def ownFactor (action : CorporateAction Date) : ℚ :=
  match action.splitRatio with
  | some ratio => 1 / ratio
  | none => 1

theorem ownFactor_ne_zero (action : CorporateAction Date) : action.ownFactor ≠ 0 := by
  unfold ownFactor splitRatio truthy
  split
  next ratio held =>
    split at held
    · exact one_div_ne_zero (by simpa using (Option.filter_eq_some_iff.mp held).2)
    · cases held
  · exact one_ne_zero

end CorporateAction

/-- The product of `1/ratio` over the splits of a list. -/
def splitProduct (actions : List (CorporateAction Date)) : ℚ :=
  (actions.map CorporateAction.ownFactor).prod

@[simp]
theorem splitProduct_nil : splitProduct ([] : List (CorporateAction Date)) = 1 := rfl

@[simp]
theorem splitProduct_cons (action : CorporateAction Date) (rest : List (CorporateAction Date)) :
    splitProduct (action :: rest) = action.ownFactor * splitProduct rest := rfl

theorem splitProduct_ne_zero (actions : List (CorporateAction Date)) :
    splitProduct actions ≠ 0 := by
  induction actions with
  | nil => exact one_ne_zero
  | cons action rest ih => exact mul_ne_zero action.ownFactor_ne_zero ih

theorem splitProduct_perm {actions others : List (CorporateAction Date)}
    (perm : actions.Perm others) :
    splitProduct actions = splitProduct others :=
  (perm.map _).prod_eq

/-- A product over a list is the product over two parts of it. -/
theorem splitProduct_filter_mul (p : CorporateAction Date → Bool)
    (actions : List (CorporateAction Date)) :
    splitProduct (actions.filter p) * splitProduct (actions.filter fun action => !p action) =
      splitProduct actions := by
  induction actions with
  | nil => simp
  | cons action rest ih =>
      rw [splitProduct_cons, ← ih]
      cases hit : p action <;> simp [hit] <;> ring

/-- Actions with the factor one do not count. -/
theorem splitProduct_filter {p : CorporateAction Date → Bool}
    {actions : List (CorporateAction Date)}
    (rest : ∀ action, p action = false → action.ownFactor = 1) :
    splitProduct (actions.filter p) = splitProduct actions := by
  have one : splitProduct (actions.filter fun action => !p action) = 1 := by
    refine List.prod_eq_one fun factor mem => ?_
    obtain ⟨action, kept, rfl⟩ := List.mem_map.mp mem
    exact rest action (by simpa using (List.mem_filter.mp kept).2)
  rw [← splitProduct_filter_mul p actions, one, mul_one]

theorem CorporateAction.ownFactor_eq_one {action : CorporateAction Date}
    (none_ : action.splitRatio = none) : action.ownFactor = 1 := by
  rw [ownFactor, none_]

variable [LinearOrder Date] {actions : List (CorporateAction Date)} {start end_ asOf last : Date}

/-- The actions that add a factor with a date from `start` up to `asOf`. -/
def emittedUpTo (actions : List (CorporateAction Date)) (start asOf : Date) :
    List (CorporateAction Date) :=
  actions.filter fun action =>
    decide (start ≤ action.exDate ∧ action.exDate ≤ asOf) && action.emits

/-- The last date that a lookup may use. -/
def lastDate (actions : List (CorporateAction Date)) (start asOf : Date) : Date :=
  ((emittedUpTo actions start asOf).map (·.exDate)).foldl max start

/-- The actions on the last date whose factor a lookup does not see: all but the first one, and on
the start date all. -/
def overlooked (actions : List (CorporateAction Date)) (start asOf : Date) :
    List (CorporateAction Date) :=
  let onLast := (emittedUpTo actions start asOf).filter (·.exDate = lastDate actions start asOf)
  if lastDate actions start asOf = start then onLast else onLast.tail

/-- The splits with `start <= ex_date <= asOf`. -/
def splitsUpTo (actions : List (CorporateAction Date)) (start asOf : Date) :
    List (CorporateAction Date) :=
  actions.filter fun action => action.type = .split ∧ start ≤ action.exDate ∧
    action.exDate ≤ asOf

/-- `foldl max` is an upper bound that the list or its start reaches. -/
theorem foldl_max_spec (dates : List Date) (start : Date) :
    start ≤ dates.foldl max start ∧ (∀ date ∈ dates, date ≤ dates.foldl max start) ∧
      (dates.foldl max start = start ∨ dates.foldl max start ∈ dates) := by
  induction dates generalizing start with
  | nil => simp
  | cons date rest ih =>
      obtain ⟨above, most, reached⟩ := ih (max start date)
      refine ⟨(le_max_left _ _).trans above, ?_, ?_⟩
      · intro other mem
        rcases List.mem_cons.mp mem with rfl | mem
        · exact (le_max_right _ _).trans above
        · exact most other mem
      · rw [List.foldl_cons]
        rcases reached with eq | mem
        · rcases max_choice start date with left | right
          · exact .inl (eq.trans left)
          · exact .inr (List.mem_cons.mpr (.inl (eq.trans right)))
        · exact .inr (.tail _ mem)

theorem mem_emittedUpTo {action : CorporateAction Date} :
    action ∈ emittedUpTo actions start asOf ↔
      action ∈ actions ∧ (start ≤ action.exDate ∧ action.exDate ≤ asOf) ∧ action.emits := by
  simp [emittedUpTo]

theorem start_le_lastDate : start ≤ lastDate actions start asOf := (foldl_max_spec _ _).1

theorem exDate_le_lastDate {action : CorporateAction Date}
    (mem : action ∈ emittedUpTo actions start asOf) :
    action.exDate ≤ lastDate actions start asOf :=
  (foldl_max_spec _ _).2.1 _ (List.mem_map_of_mem mem)

theorem lastDate_reached (actions : List (CorporateAction Date)) (start asOf : Date) :
    lastDate actions start asOf = start ∨
    ∃ action ∈ emittedUpTo actions start asOf, action.exDate = lastDate actions start asOf := by
  rcases (foldl_max_spec ((emittedUpTo actions start asOf).map (·.exDate)) start).2.2 with eq | mem
  · exact .inl eq
  · exact .inr (List.mem_map.mp mem)

theorem lastDate_le (le : start ≤ asOf) : lastDate actions start asOf ≤ asOf := by
  rcases lastDate_reached actions start asOf with eq | ⟨action, mem, eq⟩
  · exact eq.trans_le le
  · exact eq.ge.trans (mem_emittedUpTo.mp mem).2.1.2

/-- The splits up to a date and the emitted actions have one product. -/
theorem splitProduct_splitsUpTo :
    splitProduct (splitsUpTo actions start asOf) =
      splitProduct (emittedUpTo actions start asOf) := by
  have splits : splitsUpTo actions start asOf =
      (actions.filter fun action => start ≤ action.exDate ∧ action.exDate ≤ asOf).filter
        (·.type = .split) := by
    simp [splitsUpTo, List.filter_filter]
  have emitted : emittedUpTo actions start asOf =
      (actions.filter fun action => start ≤ action.exDate ∧ action.exDate ≤ asOf).filter
        CorporateAction.emits := by
    simp [emittedUpTo, List.filter_filter, Bool.and_comm]
  rw [splits, emitted]
  refine (splitProduct_filter fun action other => ?_).trans
    (splitProduct_filter fun action silent => ?_).symm
  · exact CorporateAction.ownFactor_eq_one (if_neg (of_decide_eq_false other))
  · exact CorporateAction.ownFactor_eq_one (by simp_all [CorporateAction.emits])

theorem emittedUpTo_cons_of_emits {action : CorporateAction Date} (from_ : start ≤ action.exDate)
    (upTo : action.exDate ≤ asOf) (emits : action.emits) :
    emittedUpTo (action :: actions) start asOf = action :: emittedUpTo actions start asOf := by
  simp [emittedUpTo, from_, upTo, emits]

/-- The partial products of a list of actions, each with its date. -/
def partialProducts (product : ℚ) : List (CorporateAction Date) → List (Date × ℚ)
  | [] => []
  | action :: rest =>
      (action.exDate, product * action.ownFactor) ::
        partialProducts (product * action.ownFactor) rest

/-- The loop keeps a partial product for each action that adds a factor. -/
theorem map_factorsFrom (split : ℚ) (actions : List (CorporateAction Date)) :
    (factorsFrom start end_ split 1 actions).map
      (fun factor => (factor.date, factor.cumulativeFactor)) =
      partialProducts split (emittedUpTo actions start end_) := by
  induction actions generalizing split with
  | nil => rfl
  | cons action rest ih =>
      unfold factorsFrom
      split
      next outside =>
        have skipped : emittedUpTo (action :: rest) start end_ = emittedUpTo rest start end_ := by
          refine List.filter_cons_of_neg ?_
          simpa [← not_and_or, not_lt] using fun le le' => absurd outside (by simp [le, le'])
        rw [skipped]
        exact ih split
      next inside =>
        rw [not_or, not_lt, not_lt] at inside
        obtain ⟨from_, upTo⟩ := inside
        cases ratio : action.splitRatio with
        | some value =>
            have own : action.ownFactor = 1 / value := by rw [CorporateAction.ownFactor, ratio]
            rw [emittedUpTo_cons_of_emits from_ upTo (by simp [CorporateAction.emits, ratio])]
            simp [partialProducts, own, ih]
        | none =>
            have own := CorporateAction.ownFactor_eq_one ratio
            cases amount : action.dividendAmount with
            | some value =>
                rw [emittedUpTo_cons_of_emits from_ upTo (by simp [CorporateAction.emits, amount])]
                simp [partialProducts, own, ih]
            | none =>
                simp [emittedUpTo, CorporateAction.emits, ratio, amount, ih]

/-- The partial product of the first action on a date. -/
theorem find?_partialProducts (last : Date) (product : ℚ) {items : List (CorporateAction Date)}
    (sorted_ : items.Pairwise fun a b => a.exDate ≤ b.exDate) :
    (partialProducts product items).find? (·.1 = last) =
      (items.find? (·.exDate = last)).map fun action =>
        (last, product * splitProduct (items.filter (·.exDate < last)) * action.ownFactor) := by
  induction items generalizing product with
  | nil => rfl
  | cons action rest ih =>
      obtain ⟨above, sorted_⟩ := List.pairwise_cons.mp sorted_
      by_cases hit : action.exDate = last
      · have earlier : rest.filter (·.exDate < last) = [] := by
          refine List.filter_eq_nil_iff.mpr fun other mem => ?_
          simpa using hit ▸ above other mem
        simp [partialProducts, hit, earlier]
      · rw [partialProducts, List.find?_cons_of_neg (by simpa using hit),
          List.find?_cons_of_neg (by simpa using hit), ih _ sorted_]
        rcases lt_or_gt_of_ne hit with before | after
        · simp [before, mul_assoc]
        · have none_ : rest.find? (·.exDate = last) = none := by
            refine List.find?_eq_none.mpr fun other mem => ?_
            simpa using (after.trans_le (above other mem)).ne'
          rw [none_]
          rfl

/-- The dates of the factors are the ones of the emitted actions. -/
theorem map_date_factorsFrom (start end_ : Date) (actions : List (CorporateAction Date)) :
    (factorsFrom start end_ 1 1 actions).map (·.date) =
      (emittedUpTo actions start end_).map (·.exDate) := by
  have firsts : ∀ (product : ℚ) (items : List (CorporateAction Date)),
      (partialProducts product items).map (·.1) = items.map (·.exDate) := by
    intro product items
    induction items generalizing product with
    | nil => rfl
    | cons action rest ih => simp [partialProducts, ih]
  rw [← firsts 1, ← map_factorsFrom, List.map_map]
  rfl

/-- Up to the last date nothing depends on the end of the range. -/
theorem filter_emittedUpTo (p : CorporateAction Date → Bool) (le : last ≤ asOf) (le' : asOf ≤ end_)
    (upTo : ∀ action, p action → action.exDate ≤ last) (actions : List (CorporateAction Date)) :
    (emittedUpTo actions start end_).filter p = (emittedUpTo actions start asOf).filter p := by
  simp only [emittedUpTo, List.filter_filter]
  refine List.filter_congr fun action _ => ?_
  cases hit : p action with
  | false => rfl
  | true =>
      have upTo := (upTo action hit).trans le
      simp [upTo, upTo.trans le']

/-- The first action on the last date is the first of the sorted list. -/
theorem find?_emittedUpTo (le : last ≤ asOf) (le' : asOf ≤ end_)
    (actions : List (CorporateAction Date)) :
    (emittedUpTo (sortedBy (·.exDate) actions) start end_).find? (·.exDate = last) =
      (emittedUpTo actions start asOf).find? (·.exDate = last) := by
  rw [← List.head?_filter, ← List.head?_filter, filter_emittedUpTo _ le le' (by simp +contextual)]
  unfold emittedUpTo
  rw [List.filter_comm, filter_sortedBy, List.filter_comm]

/-- The splits before the last date are those of the sorted list. -/
theorem splitProduct_before (le : last ≤ asOf) (le' : asOf ≤ end_)
    (actions : List (CorporateAction Date)) :
    splitProduct ((emittedUpTo (sortedBy (·.exDate) actions) start end_).filter (·.exDate < last)) =
      splitProduct ((emittedUpTo actions start asOf).filter (·.exDate < last)) := by
  rw [filter_emittedUpTo _ le le' (fun action hit => (of_decide_eq_true hit).le)]
  exact splitProduct_perm (((sortedBy_perm _ actions).filter _).filter _)

/-- The lookup takes the first factor of the last date. -/
theorem find?_computeFactors (le : start ≤ asOf) (le' : asOf ≤ end_) :
    (sortedByDescending (·.date) (computeFactorsFromActions actions start end_)).find?
      (·.date ≤ asOf) = (computeFactorsFromActions actions start end_).find?
        (·.date = lastDate actions start asOf) := by
  have dates := map_date_factorsFrom start end_ (sortedBy (·.exDate) actions)
  have sorted_ {action} : action ∈ sortedBy (·.exDate) actions ↔ action ∈ actions :=
    (sortedBy_perm _ actions).mem_iff
  refine find?_sortedByDescending _ (lastDate_le le) (fun factor mem upTo => ?_) ?_
  · rcases List.mem_cons.mp mem with rfl | mem
    · exact start_le_lastDate
    · have held := List.mem_map_of_mem (f := AdjustmentFactor.date) mem
      rw [dates] at held
      obtain ⟨action, emitted, same⟩ := List.mem_map.mp held
      obtain ⟨mem, ⟨from_, -⟩, emits⟩ := mem_emittedUpTo.mp emitted
      rw [← same] at upTo ⊢
      exact exDate_le_lastDate (mem_emittedUpTo.mpr ⟨sorted_.mp mem, ⟨from_, upTo⟩, emits⟩)
  · rcases lastDate_reached actions start asOf with eq | ⟨action, mem, eq⟩
    · exact ⟨_, .head _, eq.symm⟩
    · obtain ⟨mem, ⟨from_, upTo⟩, emits⟩ := mem_emittedUpTo.mp mem
      have emitted : action ∈ emittedUpTo (sortedBy (·.exDate) actions) start end_ :=
        mem_emittedUpTo.mpr ⟨sorted_.mpr mem, ⟨from_, upTo.trans le'⟩, emits⟩
      have held := List.mem_map_of_mem (f := CorporateAction.exDate) emitted
      rw [← dates] at held
      obtain ⟨factor, held, same⟩ := List.mem_map.mp held
      exact ⟨factor, .tail _ held, same.trans eq⟩

/-- What the lookup finds: the partial product of the first emitted action on the last date, or the
initial factor. -/
theorem getFactorForDate_compute (le : start ≤ asOf) (le' : asOf ≤ end_) :
    getFactorForDate asOf (computeFactorsFromActions actions start end_) =
      if lastDate actions start asOf = start then 1
      else
        match (emittedUpTo actions start asOf).find? (·.exDate = lastDate actions start asOf) with
        | some action =>
            splitProduct ((emittedUpTo actions start asOf).filter
              (·.exDate < lastDate actions start asOf)) * action.ownFactor
        | none => 1 := by
  unfold getFactorForDate
  rw [find?_computeFactors le le', computeFactorsFromActions]
  by_cases atStart : lastDate actions start asOf = start
  · rw [List.find?_cons_of_pos (by simpa using atStart.symm), if_pos atStart]
  · rw [List.find?_cons_of_neg (by simpa using Ne.symm atStart), if_neg atStart]
    have found := find?_partialProducts (lastDate actions start asOf) 1
      ((pairwise_sortedBy (·.exDate) actions).filter _ :
        (emittedUpTo (sortedBy (·.exDate) actions) start end_).Pairwise _)
    rw [← map_factorsFrom, List.find?_map, find?_emittedUpTo (lastDate_le le) le',
      splitProduct_before (lastDate_le le) le', Function.comp_def] at found
    cases first : (emittedUpTo actions start asOf).find?
        (·.exDate = lastDate actions start asOf) with
    | none =>
        rw [first, Option.map_none, Option.map_eq_none_iff] at found
        rw [found]
    | some action =>
        rw [first, Option.map_some] at found
        obtain ⟨factor, held, same⟩ := Option.map_eq_some_iff.mp found
        rw [held]
        simpa using congrArg Prod.snd same

/-- The factor of a date lacks the splits it overlooks. -/
theorem getFactorForDate_mul_overlooked (actions : List (CorporateAction Date)) (le : start ≤ asOf)
    (le' : asOf ≤ end_) :
    getFactorForDate asOf (computeFactorsFromActions actions start end_) *
        splitProduct (overlooked actions start asOf) =
      splitProduct (splitsUpTo actions start asOf) := by
  have parts : splitProduct ((emittedUpTo actions start asOf).filter
        (·.exDate < lastDate actions start asOf)) *
      splitProduct ((emittedUpTo actions start asOf).filter
        (·.exDate = lastDate actions start asOf)) =
          splitProduct (emittedUpTo actions start asOf) := by
    have later : (emittedUpTo actions start asOf).filter
          (fun action => !decide (action.exDate < lastDate actions start asOf)) =
        (emittedUpTo actions start asOf).filter (·.exDate = lastDate actions start asOf) := by
      refine List.filter_congr fun action mem => ?_
      have most := exDate_le_lastDate mem
      rw [Bool.eq_iff_iff]
      simpa using ⟨fun ge => le_antisymm most ge, fun eq => eq.ge⟩
    rw [← later, splitProduct_filter_mul]
  rw [getFactorForDate_compute le le', splitProduct_splitsUpTo, ← parts]
  unfold overlooked
  by_cases atStart : lastDate actions start asOf = start
  · have none_ : (emittedUpTo actions start asOf).filter (·.exDate < start) = [] := by
      refine List.filter_eq_nil_iff.mpr fun action mem => ?_
      simpa using (mem_emittedUpTo.mp mem).2.1.1
    simp [atStart, none_]
  · have reached := (lastDate_reached actions start asOf).resolve_left atStart
    rw [if_neg atStart, if_neg atStart, ← List.head?_filter]
    cases onLast : (emittedUpTo actions start asOf).filter
      (·.exDate = lastDate actions start asOf) with
    | nil =>
        obtain ⟨action, mem, eq⟩ := reached
        exact absurd eq (by simpa using List.filter_eq_nil_iff.mp onLast action mem)
    | cons action rest => simp [mul_assoc]

theorem applyAdjustment_eq_iff (product : ℚ) (asOf : Date)
    (factors : List (AdjustmentFactor Date)) :
    (∀ price, applyAdjustment price asOf factors = price * product) ↔
      getFactorForDate asOf factors = product :=
  ⟨fun all => by simpa [applyAdjustment] using all 1, fun same price => by
    rw [applyAdjustment, same]⟩

theorem adjustmentFactor_of_mem {bars : List (Bar Date)} {factors : List (AdjustmentFactor Date)}
    {bar : AdjustedBar Date} (mem : bar ∈ adjustBars bars factors) :
    bar.adjustmentFactor = getFactorForDate bar.date factors := by
  obtain ⟨raw, -, rfl⟩ := List.mem_map.mp mem
  rfl

/-- The factor of a date is the product over the splits up to it if and only if the splits that
share the last date with an earlier factor have the product one. -/
theorem factor_as_of_iff (actions : List (CorporateAction Date)) (start end_ asOf : Date)
    (le : start ≤ asOf) (le' : asOf ≤ end_) :
    ((∀ price, applyAdjustment price asOf (computeFactorsFromActions actions start end_) =
        price * splitProduct (splitsUpTo actions start asOf)) ∧
      ∀ bars, ∀ bar ∈ adjustBars bars (computeFactorsFromActions actions start end_),
        bar.date = asOf → bar.adjustmentFactor = splitProduct (splitsUpTo actions start asOf)) ↔
      splitProduct (overlooked actions start asOf) = 1 := by
  have product := getFactorForDate_mul_overlooked actions le le'
  have nonzero := splitProduct_ne_zero (splitsUpTo actions start asOf)
  rw [applyAdjustment_eq_iff]
  constructor
  · rintro ⟨same, -⟩
    rw [same] at product
    exact mul_left_cancel₀ nonzero (product.trans (mul_one _).symm)
  · intro one
    rw [one, mul_one] at product
    exact ⟨product, fun bars bar mem date => by rw [adjustmentFactor_of_mem mem, date, product]⟩

/-- A split before the date and a dividend and a split on two others. -/
theorem factor_after_one_split_a_day :
    let actions : List (CorporateAction Nat) :=
      [⟨.dividend, 9, none, none, some 1⟩, ⟨.split, 7, some 2, none, none⟩,
        ⟨.split, 5, some 4, none, none⟩]
    (∀ price, applyAdjustment price 8 (computeFactorsFromActions actions 1 20) =
        price * splitProduct (splitsUpTo actions 1 8)) ∧
      ∀ bars, ∀ bar ∈ adjustBars bars (computeFactorsFromActions actions 1 20),
        bar.date = 8 → bar.adjustmentFactor = splitProduct (splitsUpTo actions 1 8) :=
  (factor_as_of_iff
    [⟨.dividend, 9, none, none, some 1⟩, ⟨.split, 7, some 2, none, none⟩,
      ⟨.split, 5, some 4, none, none⟩]
    1 20 8 (by decide) (by decide)).mpr (by decide +kernel)

/-- A dividend listed before a split of its date hides the split, and so does the start date. -/
theorem split_hidden_by_its_date :
    let actions : List (CorporateAction Nat) :=
      [⟨.dividend, 5, none, none, some 1⟩, ⟨.split, 5, some 4, none, none⟩]
    (applyAdjustment 100 8 (computeFactorsFromActions actions 1 20) ≠
        100 * splitProduct (splitsUpTo actions 1 8)) ∧
      applyAdjustment 100 8 (computeFactorsFromActions actions 5 20) ≠
        100 * splitProduct (splitsUpTo actions 5 8) := by
  decide +kernel

/-- One split a day, none of them on the start date: nothing is overlooked. -/
theorem overlooked_eq_nil (later : ∀ action ∈ actions, start < action.exDate)
    (distinct : (actions.map (·.exDate)).Nodup) : overlooked actions start asOf = [] := by
  have sub : ((emittedUpTo actions start asOf).filter
      (·.exDate = lastDate actions start asOf)).Sublist actions :=
    List.filter_sublist.trans List.filter_sublist
  unfold overlooked
  cases onLast : (emittedUpTo actions start asOf).filter
      (·.exDate = lastDate actions start asOf) with
  | nil => simp
  | cons action rest =>
      have same : ∀ other ∈ action :: rest, other.exDate = lastDate actions start asOf :=
        fun other mem => by
          rw [← onLast] at mem
          exact of_decide_eq_true (List.mem_filter.mp mem).2
      have after := same action (.head _) ▸ later action (sub.subset (onLast ▸ .head _))
      have single : rest = [] := by
        have nodup := distinct.sublist (sub.map (·.exDate))
        rw [onLast, List.map_cons, List.nodup_cons] at nodup
        refine List.eq_nil_iff_forall_not_mem.mpr fun other mem => nodup.1 ?_
        exact List.mem_map.mpr
          ⟨other, mem, (same other (.tail _ mem)).trans (same action (.head _)).symm⟩
      simp [after.ne', single]

/-- With distinct dates a filter by the date of an action leaves only the action. -/
theorem filter_exDate_eq {action : CorporateAction Date} (mem : action ∈ actions)
    (distinct : (actions.map (·.exDate)).Nodup) :
    actions.filter (·.exDate = action.exDate) = [action] := by
  obtain ⟨front, rest, rfl⟩ := List.append_of_mem mem
  simp only [List.map_append, List.map_cons, List.nodup_append, List.nodup_cons, List.mem_map,
    List.mem_cons] at distinct
  obtain ⟨-, ⟨notLater, -⟩, apart⟩ := distinct
  have front_ : front.filter (·.exDate = action.exDate) = [] :=
    List.filter_eq_nil_iff.mpr fun other mem => by
      simpa using apart other.exDate ⟨other, mem, rfl⟩ action.exDate (.inl rfl)
  have rest_ : rest.filter (·.exDate = action.exDate) = [] :=
    List.filter_eq_nil_iff.mpr fun other mem => by
      simpa using fun same => notLater ⟨other, mem, same⟩
  simp [front_, rest_]

/-- A split counts from its date on. -/
theorem splitProduct_at_split {action : CorporateAction Date} {ratio : ℚ} {before : Date}
    (mem : action ∈ actions) (distinct : (actions.map (·.exDate)).Nodup)
    (type : action.type = .split)
    (held : action.ratio = some ratio) (nonzero : ratio ≠ 0) (from_ : start < action.exDate)
    (dayBefore : before ⋖ action.exDate) :
    splitProduct (splitsUpTo actions start action.exDate) =
      splitProduct (splitsUpTo actions start before) * (1 / ratio) := by
  have on : (splitsUpTo actions start action.exDate).filter (·.exDate = action.exDate) =
      [action] := by
    rw [splitsUpTo, List.filter_comm, filter_exDate_eq mem distinct]
    simp [type, from_.le]
  have earlier : (splitsUpTo actions start action.exDate).filter
      (fun other => !decide (other.exDate = action.exDate)) = splitsUpTo actions start before := by
    rw [splitsUpTo, List.filter_filter, splitsUpTo]
    refine List.filter_congr fun other _ => ?_
    have upTo : other.exDate ≤ before ↔
        other.exDate ≤ action.exDate ∧ other.exDate ≠ action.exDate :=
      ⟨fun le => ⟨le.trans dayBefore.le, (le.trans_lt dayBefore.lt).ne⟩,
        fun ⟨le, ne⟩ => not_lt.mp fun after => dayBefore.2 after (le.lt_of_ne ne)⟩
    rw [Bool.eq_iff_iff]
    simp only [upTo, Bool.and_eq_true, Bool.not_eq_true', decide_eq_false_iff_not,
      decide_eq_true_eq]
    tauto
  have own : action.ownFactor = 1 / ratio := by
    simp [CorporateAction.ownFactor, CorporateAction.splitRatio, type, held, truthy, Option.filter,
      nonzero]
  rw [← splitProduct_filter_mul (·.exDate = action.exDate), on, earlier, splitProduct_cons,
    splitProduct_nil, own, mul_one, mul_comm]

/-- Prices on both sides of a split are adjusted to one price only when there is nothing to adjust:
the factor multiplies the price that has the split in it already. -/
theorem adjusted_prices_agree_iff (splits : List (CorporateAction Date)) (start end_ : Date)
    (areSplits : ∀ action ∈ splits, action.type = .split ∧
      ∃ ratio, action.ratio = some ratio ∧ 0 < ratio)
    (distinct : (splits.map (·.exDate)).Nodup)
    (inside : ∀ action ∈ splits, start < action.exDate ∧ action.exDate ≤ end_)
    (split : CorporateAction Date) (mem : split ∈ splits) (ratio : ℚ)
    (held : split.ratio = some ratio)
    (before : Date) (dayBefore : before ⋖ split.exDate) (price : ℚ) :
    applyAdjustment price before (computeFactorsFromActions splits start end_) =
        applyAdjustment (price / ratio) split.exDate (computeFactorsFromActions splits start end_) ↔
      price = 0 ∨ ratio = 1 := by
  obtain ⟨type, value, held', positive⟩ := areSplits split mem
  obtain rfl : ratio = value := Option.some.inj (held.symm.trans held')
  obtain ⟨from_, upTo⟩ := inside split mem
  have exact_ : ∀ asOf, start ≤ asOf → asOf ≤ end_ →
      getFactorForDate asOf (computeFactorsFromActions splits start end_) =
        splitProduct (splitsUpTo splits start asOf) := by
    intro asOf le le'
    have product := getFactorForDate_mul_overlooked splits le le'
    rwa [overlooked_eq_nil (fun action mem => (inside action mem).1) distinct, splitProduct_nil,
      mul_one] at product
  have nonzero := splitProduct_ne_zero (splitsUpTo splits start before)
  rw [applyAdjustment, applyAdjustment,
    exact_ before (dayBefore.le_of_lt from_) (dayBefore.lt.le.trans upTo),
    exact_ split.exDate from_.le upTo,
    splitProduct_at_split mem distinct type held positive.ne' from_ dayBefore]
  have regrouped : price / ratio * (splitProduct (splitsUpTo splits start before) * (1 / ratio)) =
      price * splitProduct (splitsUpTo splits start before) / (ratio * ratio) := by
    field_simp
  rw [regrouped, eq_div_iff (mul_self_ne_zero.mpr positive.ne')]
  constructor
  · intro same
    refine or_iff_not_imp_left.mpr fun some_ => ?_
    have one := (mul_eq_left₀ (mul_ne_zero some_ nonzero)).mp same
    exact (mul_self_eq_one_iff.mp one).resolve_right fun eq =>
      absurd positive (by rw [eq]; decide +kernel)
  · rintro (rfl | rfl) <;> simp

/-- A price of nothing on both sides of a split, after an earlier one. -/
theorem nothing_is_adjusted_to_nothing :
    let splits : List (CorporateAction ℤ) :=
      [⟨.split, 9, some 4, none, none⟩, ⟨.split, 5, some 2, none, none⟩]
    applyAdjustment 0 8 (computeFactorsFromActions splits 1 20) =
      applyAdjustment (0 / 4) 9 (computeFactorsFromActions splits 1 20) :=
  (adjusted_prices_agree_iff
    [⟨.split, (9 : ℤ), some 4, none, none⟩, ⟨.split, 5, some 2, none, none⟩] 1 20
    (by simp) (by decide) (by simp) ⟨.split, 9, some 4, none, none⟩ (by simp) 4 rfl 8
    ⟨by decide, fun _ after => Int.not_lt.mpr (Int.add_one_le_of_lt after)⟩ 0).mpr (.inl rfl)

/-- A four for one split: 400 on the day before it stays 400, and 100 on its date becomes 25. -/
theorem split_is_applied_twice :
    let splits : List (CorporateAction ℤ) := [⟨.split, 5, some 4, none, none⟩]
    applyAdjustment 400 4 (computeFactorsFromActions splits 1 20) ≠
      applyAdjustment (400 / 4) 5 (computeFactorsFromActions splits 1 20) := by
  decide +kernel

end Adjustments
end DataGateway
