import DataGateway.Python.Text
import Mathlib.Tactic.IntervalCases

/-!
# Unicode tables

Upper-casing and decimal digits depend on the character database of the interpreter.  The modelled
functions rely on the entries for ASCII, on the four letters that a case-insensitive `[A-Z]` also
matches, and on upper-casing never producing white space.
-/

namespace DataGateway

/-- Dotted capital I, dotless i, long s and the Kelvin sign: `[A-Z]` matches them when case is
ignored. -/
def foldedLetters : List Char := ['İ', 'ı', 'ſ', 'K']

/-- The character database that text operations consult. -/
class Unicode where
  /-- `str.upper` on one character. -/
  upper : Char → List Char
  /-- The value of a decimal digit, which is what `\d`, `int` and `Decimal` accept. -/
  digit : Char → Option Nat
  upper_ascii : ∀ c, c.toNat < 128 → upper c = [c.toUpper]
  upper_dottedI : upper 'İ' = ['İ']
  upper_dotlessI : upper 'ı' = ['I']
  upper_longS : upper 'ſ' = ['S']
  upper_kelvin : upper 'K' = ['K']
  upper_ne_nil : ∀ c, upper c ≠ []
  upper_visible : ∀ c, Text.isSpace c = false → ∀ d ∈ upper c, Text.isSpace d = false
  digit_ascii : ∀ c, c.toNat < 128 → digit c = if Text.isDigit c then some (c.toNat - 48) else none
  digit_lt : ∀ c n, digit c = some n → n < 10
  digit_folded : ∀ c ∈ foldedLetters, digit c = none
  digit_space : ∀ c, Text.isSpace c = true → digit c = none

namespace Text

theorem isUpper_iff {c : Char} : isUpper c = true ↔ 65 ≤ c.toNat ∧ c.toNat ≤ 90 := by
  simp only [isUpper, Bool.and_eq_true, decide_eq_true_eq]
  exact Iff.rfl

theorem isDigit_iff {c : Char} : isDigit c = true ↔ 48 ≤ c.toNat ∧ c.toNat ≤ 57 := by
  simp only [isDigit, Bool.and_eq_true, decide_eq_true_eq]
  exact Iff.rfl

theorem isSpace_iff {c : Char} : isSpace c = true ↔
    (0x09 ≤ c.toNat ∧ c.toNat ≤ 0x0D) ∨ (0x1C ≤ c.toNat ∧ c.toNat ≤ 0x20) ∨
    c.toNat = 0x85 ∨ c.toNat = 0xA0 ∨ c.toNat = 0x1680 ∨ (0x2000 ≤ c.toNat ∧ c.toNat ≤ 0x200A) ∨
      c.toNat = 0x2028 ∨ c.toNat = 0x2029 ∨ c.toNat = 0x202F ∨ c.toNat = 0x205F ∨
      c.toNat = 0x3000 := by
  simp only [isSpace, Bool.or_eq_true, Bool.and_eq_true, decide_eq_true_eq, beq_iff_eq, or_assoc]

theorem toUpper_of_not_lower {c : Char} (other : ¬ ('a'.val ≤ c.val ∧ c.val ≤ 'z'.val)) :
    c.toUpper = c :=
  dif_neg other

/-- Upper-casing an ASCII letter moves it by 32 and leaves every other character alone. -/
theorem toNat_toUpper (c : Char) :
    c.toUpper.toNat = if 97 ≤ c.toNat ∧ c.toNat ≤ 122 then c.toNat - 32 else c.toNat := by
  by_cases lower : 97 ≤ c.toNat ∧ c.toNat ≤ 122
  · obtain ⟨n, eq⟩ : ∃ n, c.toNat = n := ⟨_, rfl⟩
    have back : c = Char.ofNat n := by rw [← eq, Char.ofNat_toNat]
    rw [if_pos lower]
    rw [eq] at lower
    subst back
    obtain ⟨low, high⟩ := lower
    interval_cases n <;> decide
  · rw [if_neg lower, toUpper_of_not_lower]
    rintro ⟨low, high⟩
    rw [UInt32.le_iff_toNat_le] at low high
    exact lower ⟨low, high⟩

variable [Unicode]

/-- `str.upper` on a list of characters. -/
def upperChars (chars : List Char) : List Char := chars.flatMap Unicode.upper

/-- `\d`. -/
def isDecimal (c : Char) : Bool := (Unicode.digit c).isSome

/-- `[A-Z]` when case is ignored. -/
def isFoldedLetter (c : Char) : Bool := isUpper c || isLower c || foldedLetters.contains c

/-- `int(text)` for a text of decimal digits. -/
def decimalValue (chars : List Char) : Nat :=
  chars.foldl (fun value c => 10 * value + (Unicode.digit c).getD 0) 0

theorem isDecimal_of_isDigit {c : Char} (digit : isDigit c = true) : isDecimal c = true := by
  have bound := isDigit_iff.mp digit
  simp [isDecimal, Unicode.digit_ascii c (by omega), digit]

theorem isDecimal_of_isUpper {c : Char} (upper : isUpper c = true) : isDecimal c = false := by
  have bound := isUpper_iff.mp upper
  have notDigit : isDigit c = false := by
    rw [Bool.eq_false_iff]
    intro digit
    have := isDigit_iff.mp digit
    omega
  simp [isDecimal, Unicode.digit_ascii c (by omega), notDigit]

@[simp]
theorem upperChars_nil : upperChars [] = [] := rfl

@[simp]
theorem upperChars_append (left right : List Char) :
    upperChars (left ++ right) = upperChars left ++ upperChars right := by
  simp [upperChars]

/-- Characters that upper-casing leaves alone. -/
def isCapital (c : Char) : Bool := isUpper c || c == 'İ' || c == 'K'

end Text

/-- Lower-casing, which is not a matter of single characters: a final sigma has its own form. -/
class Lowercase where
  /-- `str.lower`. -/
  lower : List Char → List Char
  lower_ascii : ∀ chars, (∀ c ∈ chars, c.toNat < 128) → lower chars = chars.map Char.toLower

/-! ## A small database -/

/-- The interpreter's database restricted to ASCII letters. -/
@[reducible] def asciiLowercase : Lowercase := ⟨List.map Char.toLower, fun _ _ => rfl⟩

/-- Upper case in the database that knows ASCII and the four folded letters only. -/
def asciiUpper (c : Char) : List Char :=
  if c = 'ı' then ['I'] else if c = 'ſ' then ['S'] else [c.toUpper]

/-- Digits in the database that knows ASCII only. -/
def asciiDigit (c : Char) : Option Nat := if Text.isDigit c then some (c.toNat - 48) else none

theorem asciiUpper_visible {c d : Char} (visible : Text.isSpace c = false)
    (mem : d ∈ asciiUpper c) : Text.isSpace d = false := by
  unfold asciiUpper at mem
  split_ifs at mem
  · obtain rfl := List.mem_singleton.mp mem
    decide
  · obtain rfl := List.mem_singleton.mp mem
    decide
  · obtain rfl := List.mem_singleton.mp mem
    rw [Bool.eq_false_iff] at visible ⊢
    intro space
    apply visible
    rw [Text.isSpace_iff, Text.toNat_toUpper] at space
    rw [Text.isSpace_iff]
    split_ifs at space <;> omega

/-- The interpreter's database restricted to ASCII and the four folded letters. -/
@[reducible] def asciiUnicode : Unicode where
  upper := asciiUpper
  digit := asciiDigit
  upper_ascii c small := by
    have dotless : c ≠ 'ı' := by rintro rfl; exact absurd small (by decide)
    have long : c ≠ 'ſ' := by rintro rfl; exact absurd small (by decide)
    simp [asciiUpper, dotless, long]
  upper_dottedI := by decide
  upper_dotlessI := by decide
  upper_longS := by decide
  upper_kelvin := by decide
  upper_ne_nil c := by
    unfold asciiUpper
    split_ifs <;> simp
  upper_visible _ visible _ mem := asciiUpper_visible visible mem
  digit_ascii c _ := rfl
  digit_lt c n value := by
    unfold asciiDigit at value
    split_ifs at value with digit
    have bound := Text.isDigit_iff.mp digit
    have eq := Option.some.inj value
    omega
  digit_folded c folded := by
    simp only [foldedLetters, List.mem_cons, List.not_mem_nil, or_false] at folded
    rcases folded with rfl | rfl | rfl | rfl <;> rfl
  digit_space c space := by
    unfold asciiDigit
    rw [if_neg]
    intro digit
    have bound := Text.isDigit_iff.mp digit
    have wide := Text.isSpace_iff.mp space
    omega

end DataGateway
