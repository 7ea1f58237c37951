import Mathlib.Data.List.Basic
import Mathlib.Tactic.IntervalCases

/-!
# Base64

`base64.b64encode` and `base64.b64decode`, which skips letters that are not in the alphabet and
stops where the padding is complete.  What was encoded is decoded again.
-/

namespace Base64

/-- A letter of the alphabet. -/
def letter (digit : Nat) : Char :=
  if digit < 26 then Char.ofNat (65 + digit)
  else if digit < 52 then Char.ofNat (71 + digit)
  else if digit < 62 then Char.ofNat (digit - 4)
  else if digit = 62 then '+'
  else '/'

/-- The value of a letter. -/
def digit (c : Char) : Option Nat :=
  if 65 ≤ c.toNat ∧ c.toNat ≤ 90 then some (c.toNat - 65)
  else if 97 ≤ c.toNat ∧ c.toNat ≤ 122 then some (c.toNat - 71)
  else if 48 ≤ c.toNat ∧ c.toNat ≤ 57 then some (c.toNat + 4)
  else if c = '+' then some 62
  else if c = '/' then some 63
  else none

/-- `b64encode`: three bytes make four letters, and what is missing at the end is padded. -/
def encode : List UInt8 → List Char
  | a :: b :: c :: rest =>
      letter (a.toNat / 4) :: letter (a.toNat % 4 * 16 + b.toNat / 16) ::
        letter (b.toNat % 16 * 4 + c.toNat / 64) :: letter (c.toNat % 64) :: encode rest
  | [a, b] =>
      [letter (a.toNat / 4), letter (a.toNat % 4 * 16 + b.toNat / 16),
        letter (b.toNat % 16 * 4), '=']
  | [a] => [letter (a.toNat / 4), letter (a.toNat % 4 * 16), '=', '=']
  | [] => []

/-- Where the decoder is in a group of four: how many letters it has, the bits it carries, and the
pads since the last letter. -/
structure Group where
  position : Nat
  carry : Nat
  pads : Nat

/-- Before a group. -/
def Group.start : Group := ⟨0, 0, 0⟩

/-- A letter completes a byte, except the first of a group. -/
def Group.push (group : Group) (value : Nat) : List UInt8 × Group :=
  match group.position with
  | 0 => ([], ⟨1, value, 0⟩)
  | 1 => ([UInt8.ofNat (group.carry * 4 + value / 16)], ⟨2, value % 16, 0⟩)
  | 2 => ([UInt8.ofNat (group.carry * 16 + value / 4)], ⟨3, value % 4, 0⟩)
  | _ => ([UInt8.ofNat (group.carry * 64 + value)], .start)

/-- `b64decode`; `none` is a `binascii.Error`. -/
def decodeFrom (group : Group) : List Char → Option (List UInt8)
  | [] => if group.position = 0 then some [] else none
  | c :: rest =>
      if c = '=' then
        if 2 ≤ group.position ∧ 4 ≤ group.position + group.pads + 1 then some []
        else if 2 ≤ group.position then
          decodeFrom { group with pads := group.pads + 1 } rest
        else decodeFrom group rest
      else
        match digit c with
        | none => decodeFrom group rest
        | some value =>
            let (bytes, next) := group.push value
            (decodeFrom next rest).map (bytes ++ ·)

def decode (text : List Char) : Option (List UInt8) := decodeFrom .start text

theorem digit_letter {value : Nat} (small : value < 64) : digit (letter value) = some value := by
  interval_cases value <;> rfl

theorem letter_ne_pad {value : Nat} (small : value < 64) : letter value ≠ '=' := by
  intro pad
  have known := digit_letter small
  rw [pad] at known
  cases known

theorem decodeFrom_letter {group : Group} {value : Nat} {rest : List Char} (small : value < 64) :
    decodeFrom group (letter value :: rest) =
      (decodeFrom (group.push value).2 rest).map ((group.push value).1 ++ ·) := by
  rw [decodeFrom, if_neg (letter_ne_pad small), digit_letter small]

theorem ofNat_eq {byte : UInt8} {value : Nat} (same : value = byte.toNat) :
    UInt8.ofNat value = byte := by
  rw [same, UInt8.ofNat_toNat]

/-- Decoding gives back what was encoded. -/
theorem decode_encode (bytes : List UInt8) : decode (encode bytes) = some bytes := by
  unfold decode
  induction bytes using encode.induct with
  | case1 a b c rest ih =>
      have ha := a.toNat_lt
      have hb := b.toNat_lt
      have hc := c.toNat_lt
      have first : UInt8.ofNat (a.toNat / 4 * 4 + (a.toNat % 4 * 16 + b.toNat / 16) / 16) = a :=
        ofNat_eq (by omega)
      have second : UInt8.ofNat ((a.toNat % 4 * 16 + b.toNat / 16) % 16 * 16 +
          (b.toNat % 16 * 4 + c.toNat / 64) / 4) = b := ofNat_eq (by omega)
      have third : UInt8.ofNat ((b.toNat % 16 * 4 + c.toNat / 64) % 4 * 64 + c.toNat % 64) = c :=
        ofNat_eq (by omega)
      rw [encode, decodeFrom_letter (by omega), decodeFrom_letter (by omega),
        decodeFrom_letter (by omega), decodeFrom_letter (by omega)]
      simp only [Group.push, Group.start, first, second, third]
      change Option.map _ (Option.map _ (Option.map _ (Option.map _ (decodeFrom .start _)))) = _
      rw [ih]
      rfl
  | case2 a b =>
      have ha := a.toNat_lt
      have hb := b.toNat_lt
      have first : UInt8.ofNat (a.toNat / 4 * 4 + (a.toNat % 4 * 16 + b.toNat / 16) / 16) = a :=
        ofNat_eq (by omega)
      have second : UInt8.ofNat ((a.toNat % 4 * 16 + b.toNat / 16) % 16 * 16 +
          b.toNat % 16 * 4 / 4) = b := ofNat_eq (by omega)
      rw [encode, decodeFrom_letter (by omega), decodeFrom_letter (by omega),
        decodeFrom_letter (by omega)]
      simp only [Group.push, Group.start, first, second]
      rfl
  | case3 a =>
      have ha := a.toNat_lt
      have first : UInt8.ofNat (a.toNat / 4 * 4 + a.toNat % 4 * 16 / 16) = a := ofNat_eq (by omega)
      rw [encode, decodeFrom_letter (by omega), decodeFrom_letter (by omega)]
      simp only [Group.push, Group.start, first]
      rfl
  | case4 => rfl

end Base64
