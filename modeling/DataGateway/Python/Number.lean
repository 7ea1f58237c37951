import DataGateway.Python.Unicode
import Mathlib.Algebra.Order.Field.Rat
import Mathlib.Data.List.Induction
import Mathlib.Data.List.TakeWhile
import Mathlib.Data.Rat.Cast.Order
import Mathlib.Tactic.FieldSimp
import Mathlib.Tactic.Ring

/-!
# Dates, decimals and numerals

The calendar of `datetime.date`, the decimal arithmetic of the default context (28 significant
digits, ties to even) and the zero-padded numerals that contract symbols are built from.
-/

namespace DataGateway

/-! ## Dates -/

/-- Whether a year of the proleptic Gregorian calendar has 366 days. -/
def isLeapYear (year : Nat) : Bool := year % 4 == 0 && (year % 100 != 0 || year % 400 == 0)

/-- The number of days of a month. -/
def daysInMonth (year month : Nat) : Nat :=
  if month = 2 then if isLeapYear year then 29 else 28
  else if month = 4 ∨ month = 6 ∨ month = 9 ∨ month = 11 then 30 else 31

theorem daysInMonth_le (year month : Nat) : daysInMonth year month ≤ 31 := by
  unfold daysInMonth
  split_ifs <;> omega

/-- The ranges that `datetime.date` accepts. -/
def isDate (year month day : Nat) : Bool :=
  1 ≤ year && year ≤ 9999 && 1 ≤ month && month ≤ 12 && 1 ≤ day && day ≤
    daysInMonth year month

/-- A calendar date. -/
structure Date where
  /-- From 1 to 9999. -/
  year : Nat
  /-- From 1 to 12. -/
  month : Nat
  /-- From 1 to the length of the month. -/
  day : Nat
  /-- The three numbers name a day. -/
  valid : isDate year month day = true
  deriving DecidableEq

namespace Date

/-- `date(year, month, day)`; `none` is a `ValueError`. -/
def make (year month day : Nat) : Option Date :=
  if valid : isDate year month day = true then some ⟨year, month, day, valid⟩ else none

/-- `left < right`. -/
def before (left right : Date) : Bool :=
  left.year < right.year || left.year == right.year &&
    (left.month < right.month || left.month == right.month && left.day < right.day)

theorem before_iff {left right : Date} : left.before right = true ↔ left.year < right.year ∨
    left.year = right.year ∧ (left.month < right.month ∨
      left.month = right.month ∧ left.day < right.day) := by
  simp [before]

theorem make_eq_some {year month day : Nat} {date : Date} (made : make year month day = some date) :
    date.year = year ∧ date.month = month ∧ date.day = day := by
  unfold make at made
  split at made
  · obtain rfl := Option.some.inj made
    exact ⟨rfl, rfl, rfl⟩
  · simp at made

theorem make_of_isDate {year month day : Nat} (valid : isDate year month day = true) :
    make year month day = some ⟨year, month, day, valid⟩ := dif_pos valid

theorem year_lt (date : Date) : date.year < 10 ^ 4 := by
  have valid := date.valid
  simp only [isDate, Bool.and_eq_true, decide_eq_true_eq] at valid
  omega

theorem month_lt (date : Date) : date.month < 100 := by
  have valid := date.valid
  simp only [isDate, Bool.and_eq_true, decide_eq_true_eq] at valid
  omega

theorem day_lt (date : Date) : date.day < 100 := by
  have valid := date.valid
  have longest := daysInMonth_le date.year date.month
  simp only [isDate, Bool.and_eq_true, decide_eq_true_eq] at valid
  omega

/-- The two-digit year read in the twenty-first century has the same months. -/
theorem isDate_shortYear (date : Date) :
    isDate (2000 + date.year % 100) date.month date.day = true := by
  have valid := date.valid
  simp only [isDate, Bool.and_eq_true, decide_eq_true_eq] at valid ⊢
  -- a leap century year is shortened to 2000, which is leap as well
  have leap : isLeapYear date.year = true → isLeapYear (2000 + date.year % 100) = true := by
    simp only [isLeapYear, Bool.and_eq_true, Bool.or_eq_true, beq_iff_eq, bne_iff_ne]
    omega
  have longer : daysInMonth date.year date.month ≤
      daysInMonth (2000 + date.year % 100) date.month := by
    unfold daysInMonth
    split_ifs with february leapBefore leapAfter <;> simp_all
  omega

end Date

/-! ## Numerals -/

/-- `f"{number:0{width}d}"`. -/
def zeroPadded (width number : Nat) : List Char :=
  List.replicate (width - (Nat.toDigits 10 number).length) '0' ++ Nat.toDigits 10 number

namespace Text

theorem isDigit_digitChar {n : Nat} (small : n < 10) : isDigit n.digitChar = true := by
  interval_cases n <;> decide

theorem isDigit_of_mem_toDigits {number : Nat} {c : Char} (mem : c ∈ Nat.toDigits 10 number) :
    isDigit c = true := by
  have digits := Nat.isDigit_of_mem_toDigits (by omega) (by omega) mem
  rw [isDigit_iff]
  simpa [Char.isDigit, UInt32.le_iff_toNat_le] using digits

theorem isDigit_of_mem_zeroPadded {width number : Nat} {c : Char}
    (mem : c ∈ zeroPadded width number) : isDigit c = true := by
  rcases List.mem_append.mp mem with zero | digit
  · rw [List.eq_of_mem_replicate zero]
    decide
  · exact isDigit_of_mem_toDigits digit

theorem length_zeroPadded {width number : Nat} (positive : 0 < width) :
    (zeroPadded width number).length = width ↔ number < 10 ^ width := by
  rw [← Nat.length_toDigits_le_iff (by omega) positive]
  simp [zeroPadded]
  omega

/-- The last digit of a padded numeral is the number's last digit. -/
theorem zeroPadded_succ {width number : Nat} (positive : 0 < width)
    (fits : number < 10 ^ (width + 1)) :
    zeroPadded (width + 1) number = zeroPadded width (number / 10) ++
      [(number % 10).digitChar] := by
  by_cases small : number < 10
  · have quotient : number / 10 = 0 := Nat.div_eq_of_lt small
    have remainder : number % 10 = number := Nat.mod_eq_of_lt small
    obtain ⟨less, rfl⟩ : ∃ less, width = less + 1 := ⟨width - 1, by omega⟩
    simp [zeroPadded, quotient, remainder, Nat.toDigits_of_lt_base small,
      List.replicate_succ', Nat.toDigits_zero]
  · have large : 10 ≤ number := Nat.not_lt.mp small
    have shorter : number / 10 < 10 ^ width := by
      rw [Nat.div_lt_iff_lt_mul (by omega)]
      simpa [pow_succ] using fits
    have length := (Nat.length_toDigits_le_iff (by omega) positive).mpr shorter
    simp [zeroPadded, Nat.toDigits_of_base_le (by omega : 1 < 10) large]

/-- The character of an ASCII digit's value. -/
theorem digitChar_of_isDigit {c : Char} (digit : isDigit c = true) :
    (c.toNat - 48).digitChar = c ∧ c.toNat - 48 < 10 := by
  have bound := isDigit_iff.mp digit
  refine ⟨?_, by omega⟩
  obtain ⟨n, eq⟩ : ∃ n, c.toNat = n := ⟨_, rfl⟩
  have back : c = Char.ofNat n := by rw [← eq, Char.ofNat_toNat]
  rw [eq] at bound ⊢
  subst back
  obtain ⟨low, high⟩ := bound
  interval_cases n <;> decide

variable [Unicode]

@[simp]
theorem decimalValue_nil : decimalValue [] = 0 := rfl

theorem decimalValue_concat (chars : List Char) (c : Char) :
    decimalValue (chars ++ [c]) = 10 * decimalValue chars + (Unicode.digit c).getD 0 := by
  simp [decimalValue]

theorem digit_of_isDigit {c : Char} (digit : isDigit c = true) :
    Unicode.digit c = some (c.toNat - 48) := by
  have bound := isDigit_iff.mp digit
  rw [Unicode.digit_ascii c (by omega), if_pos digit]

/-- A text of decimal digits is worth less than the power of ten of its length. -/
theorem decimalValue_lt (chars : List Char) : decimalValue chars < 10 ^ chars.length := by
  induction chars using List.reverseRecOn with
  | nil => simp
  | append_singleton chars c ih =>
      have last : (Unicode.digit c).getD 0 < 10 := by
        cases value : Unicode.digit c with
        | none => simp
        | some n => simpa using Unicode.digit_lt c n value
      rw [decimalValue_concat, List.length_append, List.length_singleton, pow_succ]
      omega

/-- Padding the value of an ASCII numeral to its own length gives the numeral back. -/
theorem zeroPadded_decimalValue {chars : List Char} (digits : ∀ c ∈ chars, isDigit c = true)
    (nonempty : chars ≠ []) : zeroPadded chars.length (decimalValue chars) = chars := by
  induction chars using List.reverseRecOn with
  | nil => exact absurd rfl nonempty
  | append_singleton chars c ih =>
      have digit : isDigit c = true := digits c (by simp)
      obtain ⟨back, small⟩ := digitChar_of_isDigit digit
      have value := digit_of_isDigit digit
      rw [decimalValue_concat, value, Option.getD_some, List.length_append, List.length_singleton]
      by_cases empty : chars = []
      · subst empty
        simp [zeroPadded, Nat.toDigits_of_lt_base small, back]
      · have fits := decimalValue_lt chars
        rw [zeroPadded_succ (List.length_pos_of_ne_nil empty) (by rw [pow_succ]; omega)]
        have quotient : (10 * decimalValue chars + (c.toNat - 48)) / 10 = decimalValue chars := by
          omega
        have remainder : (10 * decimalValue chars + (c.toNat - 48)) % 10 = c.toNat - 48 := by
          omega
        rw [quotient, remainder, back, ih (fun d mem => digits d (by simp [mem])) empty]

/-- Leading zeros add nothing. -/
theorem decimalValue_zeros (n : Nat) (chars : List Char) :
    decimalValue (List.replicate n '0' ++ chars) = decimalValue chars := by
  induction n with
  | zero => rfl
  | succ n ih =>
      have zero : Unicode.digit '0' = some 0 := digit_of_isDigit (by decide)
      simpa [decimalValue, List.replicate_succ, zero] using ih

/-- Reading a padded numeral back. -/
theorem decimalValue_zeroPadded {width number : Nat} (positive : 0 < width)
    (fits : number < 10 ^ width) : decimalValue (zeroPadded width number) = number := by
  induction width generalizing number with
  | zero => omega
  | succ width ih =>
      by_cases zero : width = 0
      · subst zero
        have small : number < 10 := by simpa using fits
        have digit := isDigit_digitChar small
        have value := digit_of_isDigit digit
        simp only [zeroPadded, Nat.toDigits_of_lt_base small]
        simp [decimalValue, value]
        interval_cases number <;> decide
      · have width_pos : 0 < width := Nat.pos_of_ne_zero zero
        rw [zeroPadded_succ width_pos fits, decimalValue_concat]
        have shorter : number / 10 < 10 ^ width := by
          rw [Nat.div_lt_iff_lt_mul (by omega)]
          simpa [pow_succ] using fits
        have small : number % 10 < 10 := Nat.mod_lt _ (by omega)
        have value := digit_of_isDigit (isDigit_digitChar small)
        have last : (number % 10).digitChar.toNat - 48 = number % 10 := by
          generalize number % 10 = n at small
          interval_cases n <;> decide
        rw [ih width_pos shorter, value, Option.getD_some, last]
        omega

theorem decimalValue_toDigits (number : Nat) : decimalValue (Nat.toDigits 10 number) = number := by
  have positive : 0 < (Nat.toDigits 10 number).length := Nat.length_toDigits_pos
  have fits := (Nat.length_toDigits_le_iff (by omega : 1 < 10) positive).mp le_rfl
  have read := decimalValue_zeroPadded positive fits
  rwa [zeroPadded, Nat.sub_self, List.replicate_zero, List.nil_append] at read

end Text

/-! ## Decimals -/

/-- A non-negative finite `Decimal`: a coefficient times a power of ten. -/
structure Decimal where
  /-- The digits as a number. -/
  coefficient : Nat
  /-- The power of ten. -/
  exponent : Int
  deriving DecidableEq, Repr

namespace Decimal

/-- The precision of the default context. -/
def precision : Nat := 28

/-- Round to the precision of the context, ties to even. -/
def round (d : Decimal) : Decimal :=
  let excess := (Nat.toDigits 10 d.coefficient).length - precision
  if excess = 0 then d
  else
    let unit := 10 ^ excess
    let kept := d.coefficient / unit
    let cut := d.coefficient % unit
    let up := unit < 2 * cut || unit == 2 * cut && kept % 2 == 1
    ⟨if up then kept + 1 else kept, d.exponent + excess⟩

/-- `decimal * 1000`. -/
def mulThousand (d : Decimal) : Decimal := round ⟨d.coefficient * 1000, d.exponent⟩

/-- Drop up to so many trailing zeros of the coefficient. -/
def reduce : Nat → Decimal → Decimal
  | 0, d => d
  | n + 1, d => if d.coefficient % 10 = 0 then reduce n ⟨d.coefficient / 10, d.exponent + 1⟩ else d

/-- `decimal / 1000` for a coefficient within the precision: exact, with the exponent as close to
the dividend's as the digits allow. -/
def divThousand (d : Decimal) : Decimal := reduce 3 ⟨d.coefficient, d.exponent - 3⟩

/-- `int(decimal)`. -/
def toInt (d : Decimal) : Nat :=
  if 0 ≤ d.exponent then d.coefficient * 10 ^ d.exponent.toNat
  else d.coefficient / 10 ^ (-d.exponent).toNat

/-- `Decimal(text)` for a text of digits and points; `none` is an `InvalidOperation`. -/
def ofChars [Unicode] (chars : List Char) : Option Decimal :=
  let whole := chars.takeWhile (· != '.')
  let fraction := chars.drop (whole.length + 1)
  if '.' ∈ fraction ∨ whole ++ fraction = [] then none
  else some ⟨Text.decimalValue (whole ++ fraction), -(fraction.length : Int)⟩

/-- The number that a decimal stands for. -/
def value (d : Decimal) : ℚ := d.coefficient * (10 : ℚ) ^ d.exponent

theorem value_reduce (n : Nat) (d : Decimal) : (reduce n d).value = d.value := by
  induction n generalizing d with
  | zero => rfl
  | succ n ih =>
      unfold reduce
      split_ifs with zero
      · obtain ⟨tenth, eq⟩ := Nat.dvd_of_mod_eq_zero zero
        rw [ih]
        simp only [value, eq, Nat.mul_div_cancel_left tenth (by omega : 0 < 10)]
        rw [zpow_add₀ (by norm_num)]
        push_cast
        ring
      · rfl

theorem value_divThousand (n : Nat) : (divThousand ⟨n, 0⟩).value * 1000 = n := by
  rw [divThousand, value_reduce, value]
  norm_num
  ring

/-- Rounding that cuts zeros only. -/
theorem round_of_dvd {d : Decimal}
    (zeros : 10 ^ ((Nat.toDigits 10 d.coefficient).length - precision) ∣ d.coefficient) :
    round d = ⟨d.coefficient / 10 ^ ((Nat.toDigits 10 d.coefficient).length - precision),
      d.exponent + ((Nat.toDigits 10 d.coefficient).length - precision : Nat)⟩ := by
  have exact_ := Nat.mod_eq_zero_of_dvd zeros
  unfold round
  dsimp only
  by_cases short : (Nat.toDigits 10 d.coefficient).length - precision = 0
  · simp [short]
  · simp [short, exact_]

/-- A decimal of so many thousandths, however it is written, times a thousand is that number. -/
theorem toInt_mulThousand {d : Decimal} {k : Nat} (value : d.value * 1000 = k)
    (small : k < 10 ^ precision) : d.mulThousand.toInt = k := by
  obtain ⟨c, e⟩ := d
  obtain ⟨m, rfl | rfl⟩ := e.eq_nat_or_neg
  · have whole : c * 10 ^ m * 1000 = k := by
      simp only [Decimal.value, zpow_natCast] at value
      exact_mod_cast value
    have fits : c * 1000 < 10 ^ precision := by
      refine lt_of_le_of_lt ?_ small
      rw [← whole]
      have positive : 1 ≤ 10 ^ m := Nat.one_le_pow _ _ (by omega)
      exact Nat.mul_le_mul_right _ (Nat.le_mul_of_pos_right _ positive)
    have short :=
      (Nat.length_toDigits_le_iff (by omega : 1 < 10) (by decide : 0 < precision)).mpr fits
    have excess : (Nat.toDigits 10 (c * 1000)).length - precision = 0 := by omega
    rw [mulThousand, round_of_dvd (by simp [excess])]
    simp only [excess, toInt]
    simp
    rw [← whole]
    ring
  · have scaled : c * 1000 = k * 10 ^ m := by
      simp only [Decimal.value, zpow_neg, zpow_natCast] at value
      field_simp at value
      rw [mul_comm k]
      exact_mod_cast value
    -- the digits in excess are among the zeros that the exponent takes off again
    have long : (Nat.toDigits 10 (c * 1000)).length ≤ precision + m := by
      rw [Nat.length_toDigits_le_iff (by omega) (by simp [precision]), scaled, pow_add]
      exact Nat.mul_lt_mul_of_pos_right small (by positivity)
    obtain ⟨excess, eq⟩ : ∃ n, (Nat.toDigits 10 (c * 1000)).length - precision = n := ⟨_, rfl⟩
    obtain ⟨rest, rfl⟩ : ∃ rest, m = rest + excess := ⟨m - excess, by omega⟩
    have split : c * 1000 = k * 10 ^ rest * 10 ^ excess := by rw [scaled, pow_add, mul_assoc]
    rw [mulThousand, round_of_dvd (by rw [eq, split]; exact Nat.dvd_mul_left _ _)]
    rw [split] at eq
    simp only [split, eq, toInt, Nat.mul_div_cancel _ (Nat.pow_pos (by omega : 0 < 10))]
    split_ifs with nonneg
    · have none_left : rest = 0 := by push_cast at nonneg; omega
      subst none_left
      simp
    · have cancels : (-(-((rest + excess : Nat) : Int) + excess)).toNat = rest := by
        push_cast
        omega
      rw [cancels, Nat.mul_div_cancel _ (by positivity)]

/-- Dividing an eight-digit integer by a thousand and multiplying it back is exact. -/
theorem toInt_mulThousand_divThousand {n : Nat} (small : n < 10 ^ 8) :
    (divThousand ⟨n, 0⟩).mulThousand.toInt = n :=
  toInt_mulThousand (value_divThousand n) (small.trans (by decide))

/-! ### Text -/

/-- `str(decimal)`. -/
def text (d : Decimal) : List Char :=
  let digits := Nat.toDigits 10 d.coefficient
  let leftDigits : Int := d.exponent + digits.length
  let dotPlace : Int := if d.exponent ≤ 0 ∧ -6 < leftDigits then leftDigits else 1
  let body :=
    if dotPlace ≤ 0 then '0' :: '.' :: (List.replicate (-dotPlace).toNat '0' ++ digits)
    else if digits.length ≤ dotPlace then
      digits ++ List.replicate (dotPlace - digits.length).toNat '0'
    else digits.take dotPlace.toNat ++ '.' :: digits.drop dotPlace.toNat
  if leftDigits = dotPlace then body
  else
    let exponent := leftDigits - dotPlace
    body ++ 'E' :: (if exponent < 0 then '-' else '+') :: Nat.toDigits 10 exponent.natAbs

/-- A text without exponent has digits and points only. -/
theorem mem_text {d : Decimal} {c : Char} (whole : d.exponent ≤ 0)
    (plain : -6 < d.exponent + (Nat.toDigits 10 d.coefficient).length) (mem : c ∈ d.text) :
    Text.isDigit c = true ∨ c = '.' := by
  have digits : ∀ c ∈ Nat.toDigits 10 d.coefficient, Text.isDigit c = true := fun c mem =>
    Text.isDigit_of_mem_toDigits mem
  have zeros : ∀ n, ∀ c ∈ List.replicate n '0', Text.isDigit c = true := by
    intro n c mem
    rw [List.eq_of_mem_replicate mem]
    decide
  simp only [text, if_pos (And.intro whole plain), if_true] at mem
  split_ifs at mem
  · simp only [List.mem_cons, List.mem_append] at mem
    rcases mem with rfl | rfl | zero | digit
    · exact .inl (by decide)
    · exact .inr rfl
    · exact .inl (zeros _ c zero)
    · exact .inl (digits c digit)
  · rcases List.mem_append.mp mem with digit | zero
    · exact .inl (digits c digit)
    · exact .inl (zeros _ c zero)
  · rcases List.mem_append.mp mem with digit | rest
    · exact .inl (digits c (List.mem_of_mem_take digit))
    · rcases List.mem_cons.mp rest with rfl | digit
      · exact .inr rfl
      · exact .inl (digits c (List.mem_of_mem_drop digit))

/-- Reading the text of a decimal that is written without exponent gives the decimal back. -/
theorem ofChars_text [Unicode] {d : Decimal} (whole : d.exponent ≤ 0)
    (plain : -6 < d.exponent + (Nat.toDigits 10 d.coefficient).length) :
    ofChars d.text = some d := by
  obtain ⟨c, e⟩ := d
  obtain ⟨j, rfl⟩ := Int.exists_eq_neg_ofNat whole
  obtain ⟨digits, eq⟩ : ∃ digits, Nat.toDigits 10 c = digits := ⟨_, rfl⟩
  have value : Text.decimalValue digits = c := eq ▸ Text.decimalValue_toDigits c
  have dotless : ∀ d ∈ digits, (d != '.') = true := by
    intro d mem
    have digit : Text.isDigit d = true := Text.isDigit_of_mem_toDigits (eq ▸ mem)
    rw [bne_iff_ne]
    rintro rfl
    exact absurd digit (by decide)
  have nonempty : digits ≠ [] := eq ▸ Nat.toDigits_ne_nil
  have left :
      (if -(j : Int) ≤ 0 ∧ -6 < -(j : Int) + digits.length then -(j : Int) + digits.length else 1) =
      -(j : Int) + digits.length := if_pos (by simpa only [eq] using And.intro whole plain)
  simp only [text, eq, left, if_true]
  split_ifs with small large
  · have behind : '.' ∉ List.replicate (-(-(j : Int) + digits.length)).toNat '0' ++ digits := by
      rw [List.mem_append]
      rintro (zero | digit)
      · exact absurd (List.eq_of_mem_replicate zero) (by decide)
      · exact absurd (dotless _ digit) (by decide)
    have cut : ('0' :: '.' :: (List.replicate (-(-(j : Int) + digits.length)).toNat '0' ++
        digits)).takeWhile (· != '.') = ['0'] := by simp
    simp only [ofChars, cut, List.length_singleton, List.drop_succ_cons, List.drop_zero]
    have nonzero : ['0'] ++ (List.replicate (-(-(j : Int) + digits.length)).toNat '0' ++ digits) ≠
        [] := List.cons_ne_nil _ _
    rw [if_neg (not_or.mpr ⟨behind, nonzero⟩), List.singleton_append, ← List.cons_append,
      ← List.replicate_succ, Text.decimalValue_zeros, value]
    simp only [List.length_append, List.length_replicate, Option.some.injEq, mk.injEq, true_and]
    omega
  · have none_behind : j = 0 := by omega
    subst none_behind
    have cut : digits.takeWhile (· != '.') = digits := List.takeWhile_eq_self_iff.mpr dotless
    have rest : digits.drop (digits.length + 1) = [] := List.drop_of_length_le (Nat.le_succ _)
    simp [ofChars, cut, rest, nonempty, value]
  · obtain ⟨front, back, long⟩ : ∃ n : Nat, -(j : Int) + digits.length = n ∧
        n < digits.length :=
      ⟨digits.length - j, by omega, by omega⟩
    have cut : (digits.take front ++ '.' :: digits.drop front).takeWhile (· != '.') =
        digits.take front := by
      rw [List.takeWhile_append_of_pos fun d mem => dotless d (List.mem_of_mem_take mem)]
      simp
    have rest : (digits.take front ++ '.' :: digits.drop front).drop (front + 1) =
        digits.drop front := by
      rw [← List.drop_drop, List.drop_left' (List.length_take_of_le long.le)]
      rfl
    have behind : '.' ∉ digits.drop front := fun mem =>
      absurd (dotless _ (List.mem_of_mem_drop mem)) (by decide)
    simp only [ofChars, back, Int.toNat_natCast, cut, List.length_take_of_le long.le, rest,
      List.take_append_drop]
    rw [if_neg (by simp [behind, nonempty]), value]
    simp only [List.length_drop, Option.some.injEq, mk.injEq, true_and]
    omega

end Decimal
end DataGateway
