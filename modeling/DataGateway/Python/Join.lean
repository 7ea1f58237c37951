import Mathlib.Data.List.Basic

/-!
# Joined texts

`separator.join(parts)` for a separator of one character.  The joined text says where its separators
are, not which of them the parts brought along: it determines the parts cut at the separator.
-/

namespace DataGateway
namespace Text

/-- The parts, each cut at every separator in it. -/
def pieces (separator : Char) (parts : List String) : List (List Char) :=
  parts.flatMap fun part => part.toList.splitOn separator

@[simp]
theorem pieces_append (separator : Char) (left right : List String) :
    pieces separator (left ++ right) = pieces separator left ++ pieces separator right :=
  List.flatMap_append

/-- Cutting a joined text gives the pieces of the parts. -/
theorem splitOn_join {separator : Char} {parts : List String} (some : parts ≠ []) :
    ((String.singleton separator).intercalate parts).toList.splitOn separator =
      pieces separator parts := by
  induction parts with
  | nil => exact absurd rfl some
  | cons first rest ih =>
      cases rest with
      | nil => simp [pieces]
      | cons second rest =>
          have cut : ((String.singleton separator).intercalate (first :: second :: rest)).toList =
              first.toList ++ separator ::
                ((String.singleton separator).intercalate (second :: rest)).toList := by
            simp [String.intercalate_cons_cons]
          rw [cut, List.splitOn_append_cons_self, ih (List.cons_ne_nil _ _)]
          rfl

/-- Two joined texts are equal when their parts have the same pieces. -/
theorem join_eq_iff (separator : Char) {left right : List String} (l : left ≠ []) (r : right ≠ []) :
    (String.singleton separator).intercalate left = (String.singleton separator).intercalate right ↔
      pieces separator left = pieces separator right := by
  rw [← splitOn_join l, ← splitOn_join r]
  refine ⟨fun same => by rw [same], fun same => String.toList_injective ?_⟩
  calc ((String.singleton separator).intercalate left).toList
      = [separator].intercalate (((String.singleton separator).intercalate left).toList.splitOn
          separator) := (List.intercalate_splitOn separator).symm
    _ = [separator].intercalate (((String.singleton separator).intercalate right).toList.splitOn
          separator) := by rw [same]
    _ = ((String.singleton separator).intercalate right).toList :=
      List.intercalate_splitOn separator

/-- Parts without the separator are their own pieces. -/
theorem pieces_of_forall_notMem {separator : Char} {parts : List String}
    (clean : ∀ part ∈ parts, separator ∉ part.toList) :
    pieces separator parts = parts.map String.toList := by
  induction parts with
  | nil => rfl
  | cons first rest ih =>
      obtain ⟨here, later⟩ := List.forall_mem_cons.mp clean
      rw [pieces, List.flatMap_cons, List.splitOn_eq_singleton here]
      exact congrArg _ (ih later)

end Text
end DataGateway
