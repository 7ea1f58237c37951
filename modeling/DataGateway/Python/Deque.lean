import Mathlib.Data.List.Basic

/-!
# Bounded deques

`collections.deque(maxlen=n)` for a positive bound: appending to a full deque drops its oldest item.
-/

namespace DataGateway

/-- A deque that never holds more than `maxlen` items, the oldest first. -/
structure Deque (α : Type) where
  maxlen : Nat
  items : List α
  positive : 0 < maxlen
  fits : items.length ≤ maxlen

namespace Deque

variable {α : Type}

/-- The empty deque of a bound. -/
def empty (maxlen : Nat) (positive : 0 < maxlen) : Deque α := ⟨maxlen, [], positive, Nat.zero_le _⟩

/-- `clear`. -/
def clear (deque : Deque α) : Deque α := { deque with items := [], fits := Nat.zero_le _ }

/-- `len(deque) == deque.maxlen`. -/
def full (deque : Deque α) : Bool := deque.items.length = deque.maxlen

/-- What an append drops. -/
def dropped (deque : Deque α) : Option α := if deque.full then deque.items.head? else none

/-- `append`. -/
def append (deque : Deque α) (item : α) : Deque α where
  maxlen := deque.maxlen
  items := (if deque.full then deque.items.tail else deque.items) ++ [item]
  positive := deque.positive
  fits := by
    have positive := deque.positive
    have fits := deque.fits
    by_cases full : deque.items.length = deque.maxlen
    · simp [Deque.full, full]
      omega
    · simp [Deque.full, full]
      omega

@[simp]
theorem clear_items (deque : Deque α) : deque.clear.items = [] := rfl

@[simp]
theorem empty_items (maxlen : Nat) (positive : 0 < maxlen) :
    (empty maxlen positive : Deque α).items = [] := rfl

theorem mem_append_self (deque : Deque α) (item : α) : item ∈ (deque.append item).items := by
  simp [append]

/-- A full deque drops something. -/
theorem dropped_isSome (deque : Deque α) : deque.dropped.isSome = deque.full := by
  unfold dropped
  cases full : deque.full with
  | false => rfl
  | true =>
      have length : deque.items.length = deque.maxlen := by simpa [Deque.full] using full
      have positive := deque.positive
      cases items : deque.items with
      | nil => simp [items] at length; omega
      | cons first rest => rfl

/-- An append keeps every item but the one it drops. -/
theorem mem_append (deque : Deque α) {item old : α} (mem : old ∈ deque.items) :
    old ∈ (deque.append item).items ∨ deque.dropped = some old := by
  simp only [append, dropped]
  cases deque.full with
  | false => exact .inl (List.mem_append_left _ mem)
  | true =>
      cases items : deque.items with
      | nil => simp [items] at mem
      | cons first rest =>
          rw [items] at mem
          rcases List.mem_cons.mp mem with rfl | later
          · exact .inr rfl
          · exact .inl (List.mem_append_left _ later)

end Deque
end DataGateway
