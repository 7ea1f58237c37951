import DataGateway.Python.Number

/-!
# Floats

The `float` of the host language is binary64: comparisons, `float(int)`,
`float(text)` and `str(float)`.
-/

namespace DataGateway
namespace Floats

open Float.Model

/-! ## Comparisons -/

theorem compare_swap (left right : UnpackedFloat) :
    right.compare left = (left.compare right).map Ordering.swap := by
  cases left with
  | notANumber => cases right <;> rfl
  | infinity sign =>
      cases right with
      | infinity other => cases sign <;> cases other <;> rfl
      | notANumber => rfl
      | zero other => cases sign <;> rfl
      | finite other m e positive => cases sign <;> cases other <;> rfl
  | zero sign =>
      cases right with
      | infinity other => cases other <;> rfl
      | notANumber => rfl
      | zero other => rfl
      | finite other m e positive => cases other <;> rfl
  | finite sign m e positive =>
      cases right with
      | infinity other => cases sign <;> cases other <;> rfl
      | notANumber => cases sign <;> rfl
      | zero other => cases sign <;> rfl
      | finite other n f positive' =>
          have swapped :
              ((compare e f).then (compare m n)).swap = (compare f e).then (compare n m) := by
            rw [Ordering.swap_then, Int.compare_swap, Nat.compare_swap]
          cases sign with
          | positive =>
              cases other with
              | positive => exact congrArg some swapped.symm
              | negative => rfl
          | negative =>
              cases other with
              | positive => rfl
              | negative => exact congrArg (some ∘ Ordering.swap) swapped.symm

/-- Numbers are compared. -/
theorem exists_compare {left right : UnpackedFloat} (first : left.isNaN = false)
    (second : right.isNaN = false) : ∃ order, left.compare right = some order := by
  cases left with
  | notANumber => cases first
  | infinity sign =>
      cases right with
      | notANumber => cases second
      | infinity other => exact ⟨_, rfl⟩
      | zero other => cases sign <;> exact ⟨_, rfl⟩
      | finite other n f positive => cases sign <;> exact ⟨_, rfl⟩
  | zero sign =>
      cases right with
      | notANumber => cases second
      | infinity other => cases other <;> exact ⟨_, rfl⟩
      | zero other => exact ⟨_, rfl⟩
      | finite other n f positive => cases other <;> exact ⟨_, rfl⟩
  | finite sign m e positive =>
      cases right with
      | notANumber => cases second
      | infinity other => cases sign <;> cases other <;> exact ⟨_, rfl⟩
      | zero other => cases sign <;> exact ⟨_, rfl⟩
      | finite other n f positive' => cases sign <;> cases other <;> exact ⟨_, rfl⟩

/-- Only what is not a number cannot be compared. -/
theorem compare_eq_none {left right : UnpackedFloat} :
    left.compare right = none ↔ left.isNaN = true ∨ right.isNaN = true := by
  constructor
  · intro unordered
    by_contra numbers
    rw [not_or, Bool.not_eq_true, Bool.not_eq_true] at numbers
    obtain ⟨order, compared⟩ := exists_compare numbers.1 numbers.2
    cases unordered.symm.trans compared
  · rintro (nan | nan)
    · cases left with
      | notANumber => cases right <;> rfl
      | infinity sign => cases nan
      | zero sign => cases nan
      | finite sign m e positive => cases nan
    · cases right with
      | notANumber =>
          rw [compare_swap .notANumber]
          cases left <;> rfl
      | infinity sign => cases nan
      | zero sign => cases nan
      | finite sign m e positive => cases nan

theorem lt_iff_compare {x y : Float} :
    x < y ↔ x.toModel.unpack.compare y.toModel.unpack = some .lt := by
  change decide (UnpackedFloat.lt x.toModel.unpack y.toModel.unpack = true) = true ↔ _
  rw [decide_eq_true_iff, UnpackedFloat.lt, beq_iff_eq]

theorem le_iff_compare {x y : Float} :
    x ≤ y ↔ ∃ order, x.toModel.unpack.compare y.toModel.unpack = some order ∧
      order.isLE = true := by
  change decide (UnpackedFloat.le x.toModel.unpack y.toModel.unpack = true) = true ↔ _
  rw [decide_eq_true_iff, UnpackedFloat.le, Option.any_eq_true]

/-- Two numbers are ordered, and nothing else is. -/
theorem le_iff {x y : Float} : x ≤ y ↔ (x.isNaN = false ∧ y.isNaN = false) ∧ ¬y < x := by
  have unordered := @compare_eq_none x.toModel.unpack y.toModel.unpack
  rw [le_iff_compare, lt_iff_compare, compare_swap x.toModel.unpack]
  change _ ↔ (x.toModel.unpack.isNaN = false ∧ y.toModel.unpack.isNaN = false) ∧ _
  cases compared : x.toModel.unpack.compare y.toModel.unpack with
  | none =>
      rw [compared] at unordered
      rcases unordered.mp rfl with nan | nan <;> simp [nan]
  | some order =>
      rw [compared] at unordered
      have numbers := mt unordered.mpr (Option.some_ne_none order)
      rw [not_or, Bool.not_eq_true, Bool.not_eq_true] at numbers
      cases order <;> simp [numbers]

theorem lt_iff {x y : Float} : x < y ↔ (x.isNaN = false ∧ y.isNaN = false) ∧ ¬y ≤ x := by
  rw [le_iff]
  constructor
  · intro less
    have numbers : x.isNaN = false ∧ y.isNaN = false := by
      have compared := lt_iff_compare.mp less
      have ordered := mt compare_eq_none.mpr (compared ▸ Option.some_ne_none _)
      rwa [not_or, Bool.not_eq_true, Bool.not_eq_true] at ordered
    exact ⟨numbers, fun same => same.2 less⟩
  · rintro ⟨⟨first, second⟩, other⟩
    by_contra less
    exact other ⟨⟨second, first⟩, less⟩

theorem isFinite_iff {x : Float} : x.isFinite = true ↔ x.isNaN = false ∧ x.isInf = false := by
  change x.toModel.unpack.isFinite = true ↔
    x.toModel.unpack.isNaN = false ∧ x.toModel.unpack.isInf = false
  cases x.toModel.unpack with
  | notANumber => exact ⟨by rintro ⟨⟩, by rintro ⟨⟨⟩, -⟩⟩
  | infinity sign => exact ⟨by rintro ⟨⟩, by rintro ⟨-, ⟨⟩⟩⟩
  | zero sign => exact ⟨fun _ => ⟨rfl, rfl⟩, fun _ => rfl⟩
  | finite sign m e positive => exact ⟨fun _ => ⟨rfl, rfl⟩, fun _ => rfl⟩

/-! ## Conversion of integers and texts -/

/-- `math.inf`. -/
def infinity : Float := .ofModel (.pack (.infinity .positive))

/-- `math.nan`. -/
def nan : Float := .ofModel (.pack .notANumber)

/-- `float(number)` for an `int`, or `none` for an `OverflowError`. -/
def ofInt (number : Int) : Option Float :=
  let x := Float.ofModel (.ofInt number)
  if x.isFinite then some x else none

/-- The white space of ASCII. -/
def isAsciiSpace (c : Char) : Bool := c == ' ' || ('\t' ≤ c && c ≤ '\r')

/-- A text without white space at its ends. -/
def stripAscii (chars : List Char) : List Char :=
  ((chars.dropWhile isAsciiSpace).reverse.dropWhile isAsciiSpace).reverse

/-- The underscores are taken out, or `none` where one is not between two digits; the argument
before is the last character that was read. -/
def withoutUnderscores : Option Char → List Char → Option (List Char)
  | last, [] => if last = some '_' then none else some []
  | last, '_' :: rest =>
      if last.any Text.isDigit then withoutUnderscores (some '_') rest else none
  | last, c :: rest =>
      if last = some '_' ∧ Text.isDigit c = false then none
      else (withoutUnderscores (some c) rest).map (c :: ·)

/-- A sign, and whether it is a minus. -/
def sign : List Char → Bool × List Char
  | '-' :: rest => (true, rest)
  | '+' :: rest => (false, rest)
  | chars => (false, chars)

section Read

variable [Unicode]

/-- A digit of any script is an ASCII digit, and white space is a blank; nothing else outside
of ASCII is read. -/
def toAscii (c : Char) : Char :=
  if c.toNat < 127 then c
  else if Text.isSpace c then ' '
  else ((Unicode.digit c).map Nat.digitChar).getD '?'

/-- The exponent of a numeral: nothing, or an `e` and a number. -/
def exponent : List Char → Option Int
  | [] => some 0
  | letter :: rest =>
      let (negative, digits) := sign rest
      if (letter = 'e' ∨ letter = 'E') ∧ digits ≠ [] ∧ digits.all Text.isDigit then
        some (if negative then -(Text.decimalValue digits : Int) else Text.decimalValue digits)
      else none

/-- A numeral without a sign: digits with at most one point among them, and an exponent. -/
def numeral (chars : List Char) : Option Float :=
  let whole := chars.takeWhile Text.isDigit
  let (fraction, rest) := match chars.drop whole.length with
    | '.' :: rest => (rest.takeWhile Text.isDigit, rest.dropWhile Text.isDigit)
    | rest => ([], rest)
  if whole ++ fraction = [] then none
  else
    (exponent rest).map fun power =>
      .ofModel (.ofScientific (Text.decimalValue (whole ++ fraction)) (power - fraction.length))

/-- The words for what is no real number, whatever their case. -/
def word (chars : List Char) : Option Float :=
  let lower := chars.map Char.toLower
  if lower = "inf".toList ∨ lower = "infinity".toList then some infinity
  else if lower = "nan".toList then some nan
  else none

/-- `float(text)`, or `none` for a `ValueError`. -/
def ofText (text : String) : Option Float := do
  let chars ← withoutUnderscores none (stripAscii (text.toList.map toAscii))
  let (negative, body) := sign chars
  let x ← (numeral body).or (word body)
  return if negative then -x else x

end Read

example : @ofText asciiUnicode " -1_000.5e-3\n" = some (-1.0005) := by decide

/-! ## Texts of floats -/

/-- The place of the point in the digits of the positive number `numerator / denominator`: the
number is below that power of ten, and not below the one before it. -/
def pointPlace (numerator denominator : Nat) : Int :=
  if denominator ≤ numerator then (Nat.toDigits 10 (numerator / denominator)).length
  else 1 - (Nat.toDigits 10 ((denominator - 1) / numerator)).length

/-- The nearest numeral with so many digits that is read as the number, with its power of ten. -/
def readBack (x : Float.Model) (numerator denominator : Nat) (digits : Nat) : Option (Nat × Int) :=
  let power := pointPlace numerator denominator - digits
  let scaled := numerator * 10 ^ (-power).toNat
  let unit := denominator * 10 ^ power.toNat
  let below := scaled / unit
  let rest := scaled % unit
  let nearest := if 2 * rest < unit ∨ 2 * rest = unit ∧ below % 2 = 0 then [below, below + 1]
    else [below + 1, below]
  (nearest.find? fun numeral => Float.Model.ofScientific numeral power = x).map fun numeral =>
    (numeral, power)

/-- The shortest digits that are read as the number, and the place of the point. -/
def shortest (x : Float.Model) (mantissa : Nat) (power : Int) : List Char × Int :=
  let numerator := mantissa * 2 ^ power.toNat
  let denominator := 2 ^ (-power).toNat
  let (numeral, power) := ((List.range 17).findSome? fun fewer =>
    readBack x numerator denominator (fewer + 1)).getD (0, 0)
  let digits := Nat.toDigits 10 numeral
  ((digits.reverse.dropWhile (· == '0')).reverse, power + digits.length)

/-- The digits with the point in its place, or with an exponent where that would be far away. -/
def layOut (digits : List Char) (place : Int) : String :=
  if place ≤ -4 ∨ 16 < place then
    let behind := digits.drop 1
    let exponent := place - 1
    String.ofList (digits.take 1 ++ (if behind = [] then [] else '.' :: behind) ++
      ['e', if exponent < 0 then '-' else '+'] ++ zeroPadded 2 exponent.natAbs)
  else if place ≤ 0 then
    String.ofList ("0.".toList ++ List.replicate (-place).toNat '0' ++ digits)
  else if (digits.length : Int) ≤ place then
    String.ofList (digits ++ List.replicate (place.toNat - digits.length) '0' ++ ".0".toList)
  else String.ofList (digits.take place.toNat ++ '.' :: digits.drop place.toNat)

/-- The text of a number without its sign. -/
def unsignedText (x : Float.Model) : String :=
  match x.unpack with
  | .notANumber => "nan"
  | .infinity _ => "inf"
  | .zero _ => "0.0"
  | .finite _ mantissa power _ =>
      let (digits, place) := shortest x.abs mantissa power
      layOut digits place

/-- `str(number)`. -/
def text (x : Float) : String :=
  match x.toModel.unpack with
  | .infinity .negative | .zero .negative | .finite .negative .. => "-" ++ unsignedText x.toModel
  | _ => unsignedText x.toModel

example : text (-0.1) = "-0.1" := by decide

end Floats
end DataGateway
