import Mathlib.Data.Prod.Lex

/-!
# The stream behind flow replay

Redis numbers the entries of a stream in the order in which it stores them, drops the oldest
ones when it is told to trim, and answers a range with what is left of it.  The log keeps the
dropped entries as well.
-/

namespace DataGateway
namespace Replay

/-- The id of an entry: milliseconds, then a sequence number. -/
abbrev Cursor := Nat ×ₗ Nat

namespace Cursor

/-- The cursor with these two parts. -/
def mk (milliseconds sequence : Nat) : Cursor := toLex (milliseconds, sequence)

/-- `0-0`, before every entry. -/
def origin : Cursor := mk 0 0

theorem origin_le (cursor : Cursor) : origin ≤ cursor :=
  Prod.Lex.toLex_le_toLex'.mpr ⟨Nat.zero_le _, fun _ => Nat.zero_le _⟩

/-- The text of a cursor. -/
def text (cursor : Cursor) : String :=
  toString (ofLex cursor).1 ++ "-" ++ toString (ofLex cursor).2

end Cursor

/-- The fields of an entry that are read. -/
structure Fields (Text : Type) where
  replayGap : Bool
  envelope : Option Text
  deriving DecidableEq

/-- An entry of the stream, and whether the one who added it was told so. -/
structure Entry (Text : Type) where
  cursor : Cursor
  fields : Fields Text
  answered : Bool
  deriving DecidableEq

/-- A stream, with everything it has ever stored. -/
structure RedisStream (Text : Type) where
  log : List (Entry Text)
  /-- How many of the oldest entries are gone. -/
  trimmed : Nat
  ascending : log.Pairwise fun older newer => older.cursor < newer.cursor
  positive : ∀ entry ∈ log, Cursor.origin < entry.cursor
  /-- Trimming leaves the newest entry. -/
  keepsNewest : log ≠ [] → trimmed < log.length

namespace RedisStream

variable {Text : Type}

/-- A stream that holds nothing. -/
def empty : RedisStream Text := ⟨[], 0, .nil, nofun, nofun⟩

/-- What has not been dropped. -/
def retained (stream : RedisStream Text) : List (Entry Text) := stream.log.drop stream.trimmed

/-- The first entry of `XINFO STREAM`. -/
def firstEntry (stream : RedisStream Text) : Option Cursor := stream.retained.head?.map Entry.cursor

/-- `XREVRANGE` of one entry. -/
def newest (stream : RedisStream Text) : Option Cursor := stream.retained.getLast?.map Entry.cursor

/-- `XRANGE` from after one cursor through another. -/
def range (stream : RedisStream Text) (after through : Cursor) (count : Nat) :
    List (Entry Text) :=
  (stream.retained.filter fun entry => after < entry.cursor ∧ entry.cursor ≤ through).take count

/-- `XADD` under a new id, which may trim any number of the older entries. -/
def add (stream : RedisStream Text) (entry : Entry Text) (trim : Nat) :
    Option (RedisStream Text) :=
  if fits : (∀ older ∈ stream.log, older.cursor < entry.cursor) ∧ Cursor.origin < entry.cursor ∧
      stream.trimmed + trim ≤ stream.log.length then
    some
      { log := stream.log ++ [entry]
        trimmed := stream.trimmed + trim
        ascending := List.pairwise_append.mpr ⟨stream.ascending, List.pairwise_singleton _ _,
          fun older mem newer new => List.mem_singleton.mp new ▸ fits.1 older mem⟩
        positive := fun other mem => (List.mem_append.mp mem).elim (stream.positive other)
          fun new => List.mem_singleton.mp new ▸ fits.2.1
        keepsNewest := fun _ => by
          rw [List.length_append]
          exact Nat.lt_succ_of_le fits.2.2 }
  else none

theorem add_eq_some {stream after : RedisStream Text} {entry : Entry Text} {trim : Nat}
    (added : stream.add entry trim = some after) :
    after.log = stream.log ++ [entry] ∧ stream.trimmed ≤ after.trimmed ∧
      ∀ older ∈ stream.log, older.cursor < entry.cursor := by
  unfold add at added
  split at added
  next fits =>
    obtain rfl := Option.some.inj added
    exact ⟨rfl, Nat.le_add_right _ _, fits.1⟩
  · cases added

theorem mem_range {stream : RedisStream Text} {after through : Cursor} {count : Nat}
    {entry : Entry Text} (mem : entry ∈ stream.range after through count) :
    entry ∈ stream.log ∧ after < entry.cursor ∧ entry.cursor ≤ through := by
  obtain ⟨kept, inside⟩ := List.mem_filter.mp (List.mem_of_mem_take mem)
  exact ⟨List.mem_of_mem_drop kept, of_decide_eq_true inside⟩

/-- What a range leaves out of the log was dropped, when the count does not cut it short. -/
theorem mem_range_of_lt {stream : RedisStream Text} {after through : Cursor} {count : Nat}
    {entry : Entry Text} (room : (stream.range after through count).length < count)
    (mem : entry ∈ stream.retained) (above : after < entry.cursor)
    (below : entry.cursor ≤ through) :
    entry ∈ stream.range after through count := by
  have inside : entry ∈ stream.retained.filter
      fun entry => after < entry.cursor ∧ entry.cursor ≤ through :=
    List.mem_filter.mpr ⟨mem, decide_eq_true ⟨above, below⟩⟩
  unfold range at room ⊢
  rw [List.length_take] at room
  rwa [List.take_of_length_le (by omega)]

/-- A range is in the order of the cursors. -/
theorem range_ascending (stream : RedisStream Text) (after through : Cursor) (count : Nat) :
    (stream.range after through count).Pairwise fun older newer => older.cursor < newer.cursor :=
  ((stream.ascending.sublist (List.drop_sublist _ _)).filter _).sublist (List.take_sublist _ _)

/-- The newest cursor, or `0-0`, is as far as the stream reaches. -/
theorem newest_stored (stream : RedisStream Text) :
    stream.newest.getD Cursor.origin = Cursor.origin ∨
      ∃ entry ∈ stream.log, stream.newest.getD Cursor.origin ≤ entry.cursor := by
  cases known : stream.newest with
  | none => exact .inl rfl
  | some newest =>
      obtain ⟨last, found, rfl⟩ := Option.map_eq_some_iff.mp known
      exact .inr ⟨last, List.mem_of_mem_drop (List.mem_of_getLast? found), le_rfl⟩

/-- The first entry that is left, where there is any, comes after everything that was dropped. -/
theorem exists_firstEntry {stream : RedisStream Text} (stored : stream.log ≠ []) :
    ∃ first, stream.firstEntry = some first ∧
      ∀ k entry, stream.log[k]? = some entry → k < stream.trimmed → entry.cursor < first := by
  have room := stream.keepsNewest stored
  refine ⟨stream.log[stream.trimmed].cursor, ?_, fun k entry place dropped => ?_⟩
  · simp [firstEntry, retained, List.head?_drop, List.getElem?_eq_getElem room]
  · obtain ⟨inside, rfl⟩ := List.getElem?_eq_some_iff.mp place
    exact List.pairwise_iff_getElem.mp stream.ascending k stream.trimmed inside room dropped

end RedisStream

end Replay
end DataGateway
