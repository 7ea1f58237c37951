import DataGateway.Replay.Store

/-!
# What a read learns

A read inspects the stream and then asks for a range.  Its survey is what it may rely on about the
log, whatever is appended and trimmed meanwhile, as long as some kind of entries is not trimmed from
the range between the two.
-/

namespace DataGateway
namespace Replay

open Coroutine
open RedisFlowReplayStore

variable {Job Client Envelope Text : Type}

/-- The log as it was last seen, the newest cursor that was learned, and how much was gone when the
stream was inspected. -/
structure Survey (Text : Type) where
  seen : List (Entry Text)
  reached : Cursor
  gone : Nat

/-- The entry lies in the range and is of a kind that counts. -/
structure Wanted (counts : Entry Text → Prop) (after through : Cursor) (entry : Entry Text) :
    Prop where
  counts : counts entry
  above : after < entry.cursor
  below : entry.cursor ≤ through

instance (counts : Entry Text → Prop) [DecidablePred counts] (after through : Cursor)
    (entry : Entry Text) : Decidable (Wanted counts after through entry) :=
  decidable_of_iff (counts entry ∧ after < entry.cursor ∧ entry.cursor ≤ through)
    ⟨fun ⟨counts, above, below⟩ => ⟨counts, above, below⟩,
      fun ⟨counts, above, below⟩ => ⟨counts, above, below⟩⟩

section Contract

variable (counts : Entry Text → Prop) (bounded : Prop)

/-- How the replies of the stream bear on a survey.  When ranges are bounded by the newest entry, a
range tells how far the stream reaches. -/
def Survey.Moves (state : Survey Text) :
    (command : ReplayCommand Client Envelope Text) → command.Reply → Survey Text → Prop
  | .xrevrange _, .ok newest, next => next.reached = newest.getD Cursor.origin
  | .xinfoStream _, .ok first, next =>
      next.reached = state.reached ∧ next.gone ≤ next.seen.length ∧
        ∃ cursor, first = some cursor ∧
          ∀ k entry, next.seen[k]? = some entry → k < next.gone → entry.cursor < cursor
  | .xinfoStream _, .error _, next => next.reached = state.reached
  | .xrange _ after through count, .ok rows, next =>
      state.seen <+: next.seen ∧ (state.reached = through ∨ bounded → next.reached = through) ∧
        rows.Pairwise (fun older newer => older.cursor < newer.cursor) ∧
        ∀ k entry, next.seen[k]? = some entry → state.gone ≤ k →
          Wanted counts after through entry → entry ∈ rows ∨ count ≤ rows.length
  | _, _, next => next = state

/-- The contract of a read. -/
def surveying : Contract (@ReplayCommand.Reply Client Envelope Text) (Survey Text) :=
  ⟨fun _ _ => True, fun command state reply next => state.Moves counts bounded command reply next⟩

/-- A list of events with everything that counts in a range, and no mark of a gap in between. -/
structure Survey.Holds (format : EnvelopeFormat Envelope Text) (state : Survey Text)
    (after : Option Cursor) (through : Cursor) (entries : List (ReplayEntry Envelope)) : Prop where
  ascending : (entries.map ReplayEntry.cursor).Pairwise (· < ·)
  complete : ∀ lower, after = some lower →
    ∀ entry ∈ state.seen, Wanted counts lower through entry →
    entry.fields.replayGap = false ∧ ∃ replayed ∈ entries, Replays format entry replayed

/-- The end of a read that returns, from the survey that it started with. -/
abbrev Surveyed (format : EnvelopeFormat Envelope Text) (state : Survey Text)
    (after : Option Cursor)
    (through : Cursor) (outcome : Except ReplayError (List (ReplayEntry Envelope)))
    (last : Survey Text) : Prop :=
  ∀ entries, outcome = .ok entries →
    (state.reached = through ∨ bounded ∧ after ≠ none ∧ after ≠ some through →
      last.reached = through) ∧
    last.Holds counts format after through entries

/-- What a read runs. -/
abbrev RangeRead (Client Envelope Text : Type) :=
  ReplayProgram Client Envelope Text (List (ReplayEntry Envelope))

end Contract

variable {counts : Entry Text → Prop} {bounded : Prop} {format : EnvelopeFormat Envelope Text}
variable {maxReplayEvents : Nat} {state : Survey Text}

theorem surveying_neutral (command : ReplayCommand Client Envelope Text)
    (probing : Probing command) :
    (surveying counts bounded).may command state ∧
      ∀ reply next, (surveying counts bounded).after command state reply next → next = state := by
  refine ⟨trivial, fun reply next moved => ?_⟩
  cases command with
  | available | acquireProbe | probeDue | initializeStore | releaseProbe => exact moved
  | _ => exact probing.elim

theorem rangeEntries_surveyed {client : Option Nat} {after through first : Cursor}
    (known : state.gone ≤ state.seen.length)
    (checked : ∀ k entry, state.seen[k]? = some entry → k < state.gone → entry.cursor < first)
    (retained : first ≤ after) :
    Meets (surveying counts bounded)
    (Surveyed counts bounded format state (some after) through) state
      (rangeEntries format maxReplayEvents client after through :
        RangeRead Client Envelope Text) := by
  refine ⟨trivial, fun rows next moved => ?_⟩
  cases rows with
  | error fault => exact nofun
  | ok rows =>
      obtain ⟨grown, reached, ascending, inside⟩ := moved
      dsimp only
      split
      · exact nofun
      intro entries returned
      obtain ⟨each, cursors⟩ := entriesOf_eq_ok returned
      refine ⟨fun reaches => reached (reaches.imp_right And.left), ?_, ?_⟩
      · rw [cursors, List.pairwise_map]
        exact ascending
      · rintro lower same entry seen wanted
        obtain rfl := Option.some.inj same
        obtain ⟨k, place⟩ := List.getElem?_of_mem seen
        -- An entry that was gone at the inspection lies below the first one, and
        -- so below the range.
        have kept : state.gone ≤ k := by
          by_contra dropped
          have early : k < state.seen.length := by omega
          have same := List.prefix_iff_getElem?.mp grown k early
          rw [place] at same
          have below := checked k entry (List.getElem?_eq_getElem early ▸ same.symm)
            (Nat.lt_of_not_le dropped)
          exact absurd (below.trans_le retained) wanted.above.not_gt
        rcases inside k entry place kept wanted with mem | full
        · exact each entry mem
        · omega

theorem readRange_surveyed {client : Option Nat} {after through : Cursor} :
    Meets (surveying counts bounded)
    (Surveyed counts bounded format state (some after) through) state
      (readRange format maxReplayEvents client after through : RangeRead Client Envelope Text) := by
  refine ⟨trivial, fun first next moved => ?_⟩
  cases first with
  | error fault => exact nofun
  | ok first =>
      obtain ⟨reached, known, cursor, rfl, checked⟩ := moved
      dsimp only
      split
      · exact nofun
      next retained =>
        have range : Meets (surveying counts bounded)
            (Surveyed counts bounded format next (some after) through) next
            (rangeEntries format maxReplayEvents client after through :
              RangeRead Client Envelope Text) :=
          rangeEntries_surveyed known checked (not_lt.mp retained)
        exact range.mono fun outcome last surveyed entries returned =>
          (surveyed entries returned).imp_left fun far reaches => far (reached ▸ reaches)

theorem read_surveyed {after : Option Cursor} {through : Cursor} :
    Meets (surveying counts bounded) (Surveyed counts bounded format state after through) state
      (read format maxReplayEvents after through : RangeRead Client Envelope Text) := by
  refine whenAvailable_meets surveying_neutral ?_ nofun
  cases after with
  | none =>
      intro entries returned
      cases returned
      exact ⟨fun reaches => reaches.resolve_right fun ⟨_, named, _⟩ => named rfl, .nil, nofun⟩
  | some after =>
      dsimp only
      split
      next same =>
        intro entries returned
        cases returned
        refine ⟨fun reaches => reaches.resolve_right fun ⟨_, _, apart⟩ => apart (same ▸ rfl),
          .nil, ?_⟩
        rintro lower found entry _ wanted
        obtain rfl := Option.some.inj found
        exact absurd (wanted.above.trans_le wanted.below) (same ▸ lt_irrefl _)
      · refine ⟨trivial, fun client next moved => ?_⟩
        obtain rfl : next = state := moved
        refine readRange_surveyed.catching (fun _ _ holds => holds) fun error last _ => ?_
        split
        · exact ⟨trivial, fun _ _ _ => nofun⟩
        · exact nofun

theorem highWatermark_surveyed :
    Meets (surveying counts bounded)
      (fun outcome last => ∀ through, outcome = .ok through → last.reached = through) state
      (highWatermark : ReplayProgram Client Envelope Text Cursor) := by
  refine whenAvailable_meets surveying_neutral ?_ nofun
  refine ⟨trivial, fun client next moved => ⟨trivial, fun newest last reached => ?_⟩⟩
  cases newest with
  | error fault => exact ⟨trivial, fun _ _ _ => nofun⟩
  | ok newest =>
      rintro through returned
      cases returned
      exact reached

/-! ## Surveys and the world -/

/-- The survey of a task is true of the world. -/
structure Survey.True (state : Survey Text) (task : Nat × Job)
    (world : ReplayWorld (Nat × Job) Client Envelope Text) : Prop where
  seen : state.seen <+: world.redis.log
  reached : ∀ entry ∈ world.redis.log, entry.cursor ≤ state.reached → entry ∈ state.seen
  stored : state.reached = Cursor.origin ∨
    ∃ entry ∈ state.seen, state.reached ≤ entry.cursor
  gone : state.gone = world.inspected task

variable {world after : ReplayWorld (Nat × Job) Client Envelope Text} {task : Nat × Job}

theorem Survey.True.grow (holds : state.True task world)
    (grown : after.redis = world.redis ∨
      ∃ entry trim, world.redis.add entry trim = some after.redis)
    (inspected : after.inspected task = world.inspected task) : state.True task after := by
  rcases grown with same | ⟨added, trim, grown⟩
  · exact ⟨same ▸ holds.seen, same ▸ holds.reached, holds.stored,
      holds.gone.trans inspected.symm⟩
  · obtain ⟨log, -, newer⟩ := RedisStream.add_eq_some grown
    refine ⟨log ▸ holds.seen.trans (List.prefix_append _ _), fun entry mem below =>
      ?_, holds.stored, holds.gone.trans inspected.symm⟩
    rw [log] at mem
    rcases List.mem_append.mp mem with older | new
    · exact holds.reached entry older below
    · obtain rfl := List.mem_singleton.mp new
      rcases holds.stored with start | ⟨older, seen, start⟩
      · have positive := after.redis.positive entry (log ▸ List.mem_append_right _ (.head _))
        exact absurd (start ▸ below) positive.not_ge
      · exact absurd (below.trans start) (newer older (holds.seen.subset seen)).not_ge

/-- The newest cursor that was learned is that of an entry, or there is none. -/
theorem Survey.True.stored_now (holds : state.True task world) :
    state.reached = Cursor.origin ∨ ∃ entry ∈ world.redis.log, state.reached ≤ entry.cursor := by
  rcases holds.stored with start | ⟨entry, mem, below⟩
  · exact .inl start
  · exact .inr ⟨entry, holds.seen.subset mem, below⟩

/-- Nothing is known before a read. -/
theorem Survey.True.start (world : ReplayWorld (Nat × Job) Client Envelope Text)
    (task : Nat × Job) :
    Survey.True ⟨[], Cursor.origin, world.inspected task⟩ task world :=
  ⟨List.nil_prefix, fun entry mem below => absurd below (world.redis.positive entry mem).not_ge,
    .inl rfl, rfl⟩

section Machine

variable [DecidableEq Client]

omit [DecidableEq Client] in
/-- Between the inspection of a task and a range, nothing was trimmed that counts and
lies in the range. -/
def KeepsWanted (counts : Entry Text → Prop)
    (world : ReplayWorld (Nat × Job) Client Envelope Text) (task : Nat × Job) :
    ReplayCommand Client Envelope Text → Prop
  | .xrange _ after through _ =>
      ∀ entry ∈ (world.redis.log.take world.redis.trimmed).drop (world.inspected task),
        ¬Wanted counts after through entry
  | _ => True

instance (counts : Entry Text → Prop) [DecidablePred counts]
    (world : ReplayWorld (Nat × Job) Client Envelope Text) (task : Nat × Job)
    (command : ReplayCommand Client Envelope Text) :
    Decidable (KeepsWanted counts world task command) := by
  unfold KeepsWanted
  split <;> infer_instance

/-- A range goes no further than the newest entry. -/
def WithinStream (world : ReplayWorld (Nat × Job) Client Envelope Text) :
    ReplayCommand Client Envelope Text → Prop
  | .xrange _ _ through _ => through ≤ world.redis.newest.getD Cursor.origin
  | _ => True

instance (world : ReplayWorld (Nat × Job) Client Envelope Text)
    (command : ReplayCommand Client Envelope Text) : Decidable (WithinStream world command) := by
  unfold WithinStream
  split <;> infer_instance

theorem Survey.True.disturb (holds : state.True task world) (move : ReplayDisturbance Client) :
    state.True task (world.disturb move) := by
  have still : (world.disturb move).redis = world.redis ∧
      (world.disturb move).inspected = world.inspected := by
    cases move with
    | tick elapsed | restart => exact ⟨rfl, rfl⟩
    | deliver connection index sent =>
        simp only [ReplayWorld.disturb]
        split
        · exact ⟨rfl, rfl⟩
        · split <;> exact ⟨rfl, rfl⟩
  exact holds.grow (.inl still.1) (by rw [still.2])

variable [DecidableEq Job] [Unicode]

variable {command : ReplayCommand Client Envelope Text} {outcome : command.Outcome}
variable {reply : command.Reply}

/-- A command only adds to the stream. -/
theorem ReplayWorld.redis_act
    (performed : world.act format task command outcome = some (reply, after)) :
    after.redis = world.redis ∨ ∃ entry trim, world.redis.add entry trim = some after.redis := by
  cases command with
  | xadd client fields =>
      rcases stream_xadd performed with ⟨_, _, rfl⟩ | ⟨_, trim, _, added, _, _⟩
      · exact .inl rfl
      · exact .inr ⟨_, trim, added⟩
  | publish envelope =>
      cases performed
      exact .inl rfl
  | _ => exact .inl (stream_act performed nofun nofun).1

/-- The commands of other tasks leave a survey true. -/
theorem Survey.True.other {other : Nat × Job} (holds : state.True task world) (apart : other ≠ task)
    (performed : world.perform format other command outcome = some (reply, after)) :
    state.True task after := by
  obtain ⟨-, performed⟩ := ReplayWorld.act_of_perform performed
  refine holds.grow (ReplayWorld.redis_act performed) ?_
  rcases (ReplayWorld.inspected_act performed).2 with same | ⟨_, same⟩
  · rw [same]
  · rw [same, Function.update_of_ne (Ne.symm apart)]

/-- The commands of the task itself move its survey along. -/
theorem Survey.True.own (holds : state.True task world)
    (keeps : KeepsWanted counts world task command) (within : bounded → WithinStream world command)
    (performed : world.perform format task command outcome = some (reply, after)) :
    ∃ next, state.Moves counts bounded command reply next ∧ next.True task after := by
  obtain ⟨-, performed⟩ := ReplayWorld.act_of_perform performed
  have grown := ReplayWorld.redis_act performed
  have inspected := (ReplayWorld.inspected_act performed).2
  cases command with
  | xrevrange client =>
      obtain ⟨rfl, rfl⟩ := Prod.mk.inj (Option.some.inj performed)
      cases answer : ask client outcome world.redis.newest with
      | error fault => exact ⟨state, rfl, holds⟩
      | ok newest =>
          obtain rfl := eq_of_ask answer
          exact ⟨⟨world.redis.log, world.redis.newest.getD Cursor.origin, state.gone⟩, rfl,
            List.prefix_rfl, fun entry mem _ => mem, world.redis.newest_stored, holds.gone⟩
  | xinfoStream client =>
      obtain ⟨rfl, rfl⟩ := Prod.mk.inj (Option.some.inj performed)
      let next : Survey Text := ⟨world.redis.log, state.reached, world.redis.trimmed⟩
      have moved : next.True task
          { world with inspected := Function.update world.inspected task world.redis.trimmed } :=
        ⟨List.prefix_rfl, fun entry mem _ => mem, holds.stored_now,
          by simp only [next, Function.update_self]⟩
      refine ⟨next, ?_, moved⟩
      cases answer : ask client
          (if world.redis.log = [] then some (.redis "no such key") else outcome)
          world.redis.firstEntry with
      | error fault => rfl
      | ok first =>
          obtain rfl := eq_of_ask answer
          have stored : world.redis.log ≠ [] := by
            intro nothing
            rw [if_pos nothing] at answer
            unfold ask at answer
            split at answer <;> cases answer
            contradiction
          exact ⟨rfl, (world.redis.keepsNewest stored).le, RedisStream.exists_firstEntry stored⟩
  | xrange client lower through count =>
      obtain ⟨rfl, rfl⟩ := Prod.mk.inj (Option.some.inj performed)
      cases answer : ask client outcome (world.redis.range lower through count) with
      | error fault => exact ⟨state, rfl, holds⟩
      | ok rows =>
          obtain rfl := eq_of_ask answer
          have reaches : state.reached = through ∨ bounded → through = Cursor.origin ∨
              ∃ entry ∈ world.redis.log, through ≤ entry.cursor := by
            rintro (rfl | yes)
            · exact holds.stored_now
            · have below : through ≤ world.redis.newest.getD Cursor.origin := within yes
              rcases world.redis.newest_stored with start | ⟨entry, mem, newest⟩
              · exact .inl (le_antisymm (start ▸ below) (Cursor.origin_le _))
              · exact .inr ⟨entry, mem, below.trans newest⟩
          have ranged : ∀ k entry, world.redis.log[k]? = some entry → state.gone ≤ k →
              Wanted counts lower through entry → entry ∈ world.redis.range lower through count ∨
                count ≤ (world.redis.range lower through count).length := by
            intro k entry place kept wanted
            by_cases full : count ≤ (world.redis.range lower through count).length
            · exact .inr full
            refine .inl
              (RedisStream.mem_range_of_lt (Nat.lt_of_not_le full) ?_ wanted.above wanted.below)
            -- Had the entry been trimmed, then since the inspection.
            have retained : world.redis.trimmed ≤ k := by
              by_contra dropped
              refine keeps entry (List.mem_of_getElem? (i := k - state.gone) ?_) wanted
              rw [← holds.gone, List.getElem?_drop, Nat.add_sub_cancel' kept,
                List.getElem?_take_of_lt (Nat.lt_of_not_le dropped)]
              exact place
            refine List.mem_of_getElem? (i := k - world.redis.trimmed) ?_
            rw [RedisStream.retained, List.getElem?_drop, Nat.add_sub_cancel' retained]
            exact place
          by_cases reached : state.reached = through ∨ bounded
          · exact ⟨⟨world.redis.log, through, state.gone⟩,
              ⟨holds.seen, fun _ => rfl, RedisStream.range_ascending _ _ _ _, ranged⟩,
              List.prefix_rfl, fun entry mem _ => mem, reaches reached, holds.gone⟩
          · exact ⟨⟨world.redis.log, state.reached, state.gone⟩,
              ⟨holds.seen, fun reaches => absurd reaches reached,
                RedisStream.range_ascending _ _ _ _, ranged⟩,
              List.prefix_rfl, fun entry mem _ => mem, holds.stored_now, holds.gone⟩
  | _ =>
      have kept : after.inspected task = world.inspected task := by
        rcases inspected with same | ⟨⟨client, other⟩, -⟩
        · exact congrFun same task
        · cases other
      exact ⟨state, rfl, holds.grow grown kept⟩

end Machine

end Replay
end DataGateway
