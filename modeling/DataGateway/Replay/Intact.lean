import DataGateway.Replay.Store

/-!
# Resuming over an intact history

When every append succeeds and nothing is ever trimmed, a read from a cursor that was handed out
returns the events up to a later high watermark.  The one exception is the watermark of the empty
stream, which lies before the first entry like a cursor whose successors are gone.
-/

namespace DataGateway
namespace Replay

open Coroutine Machine
open RedisFlowReplayStore

variable {Job Client Envelope Text : Type} {format : EnvelopeFormat Envelope Text}

/-! ## An intact log -/

/-- The entry is an envelope that was appended. -/
def Enveloped (format : EnvelopeFormat Envelope Text) (entry : Entry Text) : Prop :=
  ∃ envelope text, format.dumps envelope = some text ∧ entry.fields = ⟨false, some text⟩

/-- An appended envelope, written and read back. -/
def ReadBack (format : EnvelopeFormat Envelope Text) (row : Entry Text)
    (entry : ReplayEntry Envelope) : Prop :=
  entry.cursor = row.cursor ∧ ∃ envelope text, format.dumps envelope = some text ∧
    row.fields = ⟨false, some text⟩ ∧ format.loads text = some (some entry.envelope)

/-- The entries of a log with cursors in a range. -/
def between (log : List (Entry Text)) (after through : Cursor) : List (Entry Text) :=
  log.filter fun entry => after < entry.cursor ∧ entry.cursor ≤ through

/-- The newest cursor of a log, or `0-0`. -/
def watermark (log : List (Entry Text)) : Cursor :=
  (log.getLast?.map Entry.cursor).getD Cursor.origin

/-- A cursor that is given out over a stream: that of an entry, or the high watermark. -/
def HandedOut (stream : RedisStream Text) (cursor : Cursor) : Prop :=
  (∃ entry ∈ stream.log, entry.cursor = cursor) ∨ stream.newest.getD Cursor.origin = cursor

/-- Only the watermark of an empty stream is not the cursor of an entry. -/
theorem HandedOut.entry {stream : RedisStream Text} {cursor : Cursor}
    (handed : HandedOut stream cursor) (apart : cursor ≠ Cursor.origin) :
    ∃ entry ∈ stream.log, entry.cursor = cursor := by
  rcases handed with entry | rfl
  · exact entry
  · cases newest : stream.newest with
    | none => exact absurd (by rw [newest]; rfl) apart
    | some cursor =>
        obtain ⟨last, found, rfl⟩ := Option.map_eq_some_iff.mp newest
        exact ⟨last, List.mem_of_mem_drop (List.mem_of_getLast? found), rfl⟩

/-- The entries of a stream that come after a log lie above its watermark. -/
theorem watermark_lt {log newer : List (Entry Text)} {stream : RedisStream Text}
    (whole : stream.log = log ++ newer) {entry : Entry Text} (mem : entry ∈ newer) :
    watermark log < entry.cursor := by
  unfold watermark
  cases newest : log.getLast? with
  | none => exact stream.positive entry (whole ▸ List.mem_append_right _ mem)
  | some last =>
      have ascending := stream.ascending
      rw [whole, List.pairwise_append] at ascending
      exact ascending.2.2 last (List.mem_of_getLast? newest) entry mem

/-- A range up to the watermark of a log stays what it is. -/
theorem between_append {log newer : List (Entry Text)} {stream : RedisStream Text}
    (whole : stream.log = log ++ newer) {after through : Cursor} (below : through ≤ watermark log) :
    between stream.log after through = between log after through := by
  have outside : between newer after through = [] := by
    refine List.filter_eq_nil_iff.mpr fun entry mem inside => ?_
    exact (of_decide_eq_true inside).2.not_gt (below.trans_lt (watermark_lt whole mem))
  unfold between at outside ⊢
  rw [whole, List.filter_append, outside, List.append_nil]

/-- Appended envelopes are read back, when what is dumped can be loaded. -/
theorem entriesOf_enveloped (loadable : ∀ envelope text, format.dumps envelope = some text →
      ∃ read, format.loads text = some (some read))
    {rows : List (Entry Text)} (enveloped : ∀ row ∈ rows, Enveloped format row) :
    ∃ entries, entriesOf format rows = .ok entries ∧
      List.Forall₂ (ReadBack format) rows entries := by
  induction rows with
  | nil => exact ⟨[], rfl, .nil⟩
  | cons row rest ih =>
      obtain ⟨envelope, text, dumped, fields⟩ := enveloped row (.head _)
      obtain ⟨read, loaded⟩ := loadable envelope text dumped
      obtain ⟨entries, rest_, each⟩ := ih fun row mem => enveloped row (.tail _ mem)
      refine ⟨⟨row.cursor, read⟩ :: entries, ?_,
        .cons ⟨rfl, envelope, text, dumped, fields, loaded⟩ each⟩
      simp [entriesOf, fields, loaded, rest_, Except.map]

/-! ## Runs over an intact history -/

/-- Appends are of envelopes and succeed, nothing is trimmed, and Redis answers those who ask. -/
def Succeeds (format : EnvelopeFormat Envelope Text) :
    (command : ReplayCommand Client Envelope Text) → command.Outcome → ReplayStore → Prop
  | .xadd _ fields, outcome, _ =>
      (∃ envelope text, format.dumps envelope = some text ∧ fields = ⟨false, some text⟩) ∧
        ∃ cursor, outcome = .stored cursor 0 none
  | .xrevrange _, fault, _ => fault = none
  | .xinfoStream _, fault, _ => fault = none
  | .xrange _ _ _ _, fault, _ => fault = none
  | .available, _, store => store.available
  | .client, _, store => store.client.isSome
  | _, _, _ => True

section Machine

variable [DecidableEq Job] [DecidableEq Client] [Unicode]

/-- The runs in which every append succeeds and nothing is trimmed. -/
def intact (format : EnvelopeFormat Envelope Text) : Policy (flowReplay Job Client format) where
  allows _ command outcome world := Succeeds format command outcome world.store
  permits _ _ := True

omit [DecidableEq Job] [DecidableEq Client] [Unicode] in
/-- The stream has all that was ever appended, the entries of a log first. -/
structure Whole (format : EnvelopeFormat Envelope Text) (log : List (Entry Text))
    (world : ReplayWorld (Nat × Job) Client Envelope Text) : Prop where
  untrimmed : world.redis.trimmed = 0
  enveloped : ∀ entry ∈ world.redis.log, Enveloped format entry
  grown : log <+: world.redis.log

variable {log : List (Entry Text)} {world after : ReplayWorld (Nat × Job) Client Envelope Text}
  {task : Nat × Job}

omit [DecidableEq Job] [DecidableEq Client] [Unicode] in
theorem Whole.of_redis (whole : Whole format log world) (same : after.redis = world.redis) :
    Whole format log after :=
  ⟨same ▸ whole.untrimmed, same ▸ whole.enveloped, same ▸ whole.grown⟩

omit [DecidableEq Job] [DecidableEq Client] [Unicode] in
theorem Whole.newest (whole : Whole format log world) :
    world.redis.newest.getD Cursor.origin = watermark world.redis.log := by
  rw [RedisStream.newest, RedisStream.retained, whole.untrimmed, List.drop_zero, watermark]

theorem Whole.act {command : ReplayCommand Client Envelope Text} {outcome : command.Outcome}
    {reply : command.Reply} (whole : Whole format log world)
    (succeeds : Succeeds format command outcome world.store)
    (performed : world.act format task command outcome = some (reply, after)) :
    Whole format log after := by
  cases command with
  | xadd client fields =>
      obtain ⟨⟨envelope, text, dumped, rfl⟩, cursor, rfl⟩ := succeeds
      cases client with
      | none =>
          cases performed
          exact whole
      | some client =>
          obtain ⟨redis, added, same⟩ := Option.map_eq_some_iff.mp performed
          obtain ⟨-, rfl⟩ := Prod.mk.inj same
          have grown := (RedisStream.add_eq_some added).1
          refine ⟨?_, fun entry mem => ?_, ?_⟩
          · unfold RedisStream.add at added
            split at added
            · obtain rfl := Option.some.inj added
              exact whole.untrimmed
            · cases added
          · have mem : entry ∈ world.redis.log ++ [_] := grown ▸ mem
            rcases List.mem_append.mp mem with older | new
            · exact whole.enveloped entry older
            · obtain rfl := List.mem_singleton.mp new
              exact ⟨envelope, text, dumped, rfl⟩
          · exact grown ▸ whole.grown.trans (List.prefix_append _ _)
  | publish envelope =>
      cases performed
      exact whole.of_redis rfl
  | _ =>
      exact whole.of_redis (ReplayWorld.stream_act performed (by rintro _ _ ⟨⟩)
        (by rintro _ ⟨⟩)).1

omit [DecidableEq Job] [Unicode] in
theorem Whole.disturb (whole : Whole format log world) (move : ReplayDisturbance Client) :
    Whole format log (world.disturb move) := by
  refine whole.of_redis ?_
  cases move with
  | tick elapsed | restart => rfl
  | deliver connection index sent =>
      simp only [ReplayWorld.disturb]
      split
      · rfl
      · split <;> rfl

/-- The configurations of runs of the gateway. -/
abbrev ReplayConfig (Job Client Envelope Text : Type) :=
  Config (Nat × Job) (@ReplayCommand.Reply Client Envelope Text) ReplayError
    (List (ReplayEntry Envelope)) (ReplayWorld (Nat × Job) Client Envelope Text)

variable {initial final : ReplayConfig Job Client Envelope Text}

/-- What was ever appended stays. -/
theorem Whole.reaches (reach : Reaches (intact format) initial final)
    (whole : Whole format log initial.world) : Whole format log final.world := by
  induction reach with
  | refl => exact whole
  | tail _ step ih =>
      cases step with
      | act suspended performed allowed =>
          exact ih.act allowed (ReplayWorld.act_of_perform performed).2
      | calm permitted => exact ih.disturb _

/-! ## A read -/

omit [DecidableEq Job] [DecidableEq Client] [Unicode] in
/-- The contract of a read over a stream that begins with a log. -/
def reading (log : List (Entry Text)) :
    Contract (@ReplayCommand.Reply Client Envelope Text) Unit where
  may
    | .available, _ => True
    | .client, _ => True
    | .xinfoStream client, _ => client.isSome ∧ log ≠ []
    | .xrange client _ through _, _ => client.isSome ∧ through ≤ watermark log
    | _, _ => False
  after
    | .available, _, usable, _ => usable = true
    | .client, _, client, _ => client.isSome
    | .xinfoStream _, _, first, _ => first = .ok (log.head?.map Entry.cursor)
    | .xrange _ after through count, _, rows, _ =>
        rows = .ok ((between log after through).take count)
    | _, _, _, _ => True

theorem Whole.answers {command : ReplayCommand Client Envelope Text} {outcome : command.Outcome}
    {reply : command.Reply} (whole : Whole format log world) (may : (reading log).may command ())
    (succeeds : Succeeds format command outcome world.store)
    (performed : world.act format task command outcome = some (reply, after)) :
    (reading log).after command () reply () := by
  have retained : world.redis.retained = world.redis.log := by
    rw [RedisStream.retained, whole.untrimmed, List.drop_zero]
  obtain ⟨newer, appended⟩ := whole.grown
  cases command with
  | available =>
      cases performed
      exact succeeds
  | client =>
      cases performed
      exact succeeds
  | xinfoStream client =>
      obtain ⟨some_, filled⟩ := may
      obtain ⟨number, rfl⟩ := Option.isSome_iff_exists.mp some_
      obtain rfl : outcome = none := succeeds
      obtain ⟨first, rest, rfl⟩ := List.exists_cons_of_ne_nil filled
      obtain ⟨rfl, -⟩ := Prod.mk.inj (Option.some.inj performed)
      simp [reading, ask, RedisStream.firstEntry, retained, ← appended]
  | xrange client lower through count =>
      obtain ⟨some_, below⟩ := may
      obtain ⟨number, rfl⟩ := Option.isSome_iff_exists.mp some_
      obtain rfl : outcome = none := succeeds
      obtain ⟨rfl, -⟩ := Prod.mk.inj (Option.some.inj performed)
      have same : between world.redis.log lower through = between log lower through :=
        between_append appended.symm below
      unfold between at same
      simp only [reading, ask, RedisStream.range, retained, same, between]
  | _ => exact may.elim

omit [DecidableEq Job] [DecidableEq Client] [Unicode] in
/-- How a read over an intact log ends, when these are the events of its range. -/
def readOutcome (log : List (Entry Text)) (after through : Cursor)
    (entries : List (ReplayEntry Envelope)) : Except ReplayError (List (ReplayEntry Envelope)) :=
  match log.head? with
  | none => .ok entries
  | some first =>
      if after ≠ through ∧ after < first.cursor then .error (.historyTrimmed after first.cursor)
      else .ok entries

omit [DecidableEq Job] [DecidableEq Client] [Unicode] in
/-- A read over an intact log, up to its watermark, with no more entries than the limit. -/
theorem read_reading {maxReplayEvents : Nat} {after through : Cursor}
    {entries : List (ReplayEntry Envelope)} (below : through ≤ watermark log)
    (filled : after ≠ through → log ≠ [])
    (few : (between log after through).length ≤ maxReplayEvents)
    (events : entriesOf format (between log after through) = .ok entries) :
    Meets (reading log) (fun outcome _ => outcome = readOutcome log after through entries) ()
      (read format maxReplayEvents (some after) through :
        ReplayProgram Client Envelope Text (List (ReplayEntry Envelope))) := by
  refine ⟨trivial, fun usable _ available => ?_⟩
  obtain rfl : usable = true := available
  dsimp only
  rw [if_pos rfl]
  split
  next same =>
    subst same
    have nothing : between log after after = [] :=
      List.filter_eq_nil_iff.mpr fun entry _ inside =>
        (of_decide_eq_true inside).1.not_ge (of_decide_eq_true inside).2
    rw [nothing] at events
    obtain rfl := Except.ok.inj events
    unfold readOutcome
    split <;> simp
  next apart =>
  refine ⟨trivial, fun client _ some_ => ?_⟩
  obtain ⟨first, rest, rfl⟩ := List.exists_cons_of_ne_nil (filled apart)
  have ranged : Meets (reading (first :: rest))
      (fun outcome _ => outcome = readOutcome (first :: rest) after through entries) ()
      (readRange format maxReplayEvents client after through :
        ReplayProgram Client Envelope Text (List (ReplayEntry Envelope))) := by
    refine ⟨⟨some_, filled apart⟩, fun found _ known => ?_⟩
    obtain rfl : found = .ok (some first.cursor) := known
    dsimp only
    split
    next early => simp [readOutcome, apart, early]
    next late =>
    refine ⟨⟨some_, below⟩, fun rows _ rows_eq => ?_⟩
    obtain rfl : rows = .ok ((between (first :: rest) after through).take (maxReplayEvents + 1)) :=
      rows_eq
    dsimp only
    rw [List.take_of_length_le (Nat.le_succ_of_le few), if_neg (Nat.not_lt.mpr few), events]
    simp [readOutcome, late]
  refine Meets.catching ranged (fun _ _ ended => ended) fun error _ ended => ?_
  unfold readOutcome at ended ⊢
  dsimp only [List.head?_cons] at ended ⊢
  split at ended
  next early =>
    obtain rfl := Except.error.inj ended
    simp [early]
  · cases ended

/-! ## Exact reads -/

/-- The read of a task comes to its end, and then it has returned these rows, read back. -/
def ReturnsExactly (P : Policy (flowReplay Job Client format))
    (start : ReplayConfig Job Client Envelope Text) (task : Nat × Job) (rows : List (Entry Text)) :
    Prop :=
  (∃ final outcome, Reaches P start final ∧ final.tasks task = .finish outcome) ∧
    ∀ final outcome, Reaches P start final → final.tasks task = .finish outcome →
      ∃ entries, outcome = .ok entries ∧ List.Forall₂ (ReadBack format) rows entries

/-- A read over an intact history ends, in one way. -/
theorem read_ends {start : ReplayConfig Job Client Envelope Text}
    {outcome : Except ReplayError (List (ReplayEntry Envelope))}
    (whole : Whole format log start.world) (here : task.1 = start.world.process)
    (available : start.world.store.available)
    (reads : Meets (reading log) (fun ended _ => ended = outcome) () (start.tasks task)) :
    (∃ final, Reaches (intact format) start final ∧ final.tasks task = .finish outcome) ∧
      ∀ final ended, Reaches (intact format) start final → final.tasks task = .finish ended →
        ended = outcome := by
  have ends : ∀ final ended, Reaches (intact format) start final →
      final.tasks task = .finish ended → ended = outcome := by
    intro final ended reach finished
    obtain ⟨_, -, met⟩ := reach.task (R := fun world (_ : Unit) => Whole format log world)
      (fun world state command outcome reply after whole may allowed performed =>
        have acted := (ReplayWorld.act_of_perform performed).2
        ⟨(), whole.answers may allowed acted, whole.act allowed acted⟩)
      (fun _ _ _ _ _ _ _ _ whole allowed performed =>
        whole.act allowed (ReplayWorld.act_of_perform performed).2)
      (fun _ _ move whole _ => whole.disturb move) whole reads
    rw [finished] at met
    exact met
  refine ⟨?_, ends⟩
  let Serving : ReplayWorld (Nat × Job) Client Envelope Text → Unit → Prop := fun world _ =>
    Whole format log world ∧ task.1 = world.process ∧ world.store.available
  have acts : ∀ (world : ReplayWorld (Nat × Job) Client Envelope Text) (state : Unit) command,
      Serving world state → (reading log).may command state →
      ∃ outcome reply after next, (intact format).allows task command outcome world ∧
        (flowReplay Job Client format).perform task command outcome world = some (reply, after) ∧
        (reading log).after command state reply next ∧ Serving after next := by
    rintro world ⟨⟩ command ⟨whole, here, available⟩ may
    -- Each of the four commands can be performed here, and leaves the store alone.
    suffices performs : ∃ (outcome : command.Outcome) (reply : _) (after : _),
        Succeeds format command outcome world.store ∧
        world.act format task command outcome = some (reply, after) ∧
          after.process = world.process ∧ after.store = world.store by
      obtain ⟨outcome, reply, after, succeeds, acted, process, store⟩ := performs
      refine ⟨outcome, reply, after, (), succeeds, ?_, whole.answers may succeeds acted,
        whole.act succeeds acted, here.trans process.symm, store ▸ available⟩
      exact (if_pos here).trans acted
    cases command with
    | available => exact ⟨(), _, _, available, rfl, rfl, rfl⟩
    | client =>
        have known := available
        unfold ReplayStore.available at known
        exact ⟨(), _, _, (Bool.and_eq_true_iff.mp known).2, rfl, rfl, rfl⟩
    | xinfoStream client => exact ⟨none, _, _, rfl, rfl, rfl, rfl⟩
    | xrange client lower through count => exact ⟨none, _, _, rfl, rfl, rfl, rfl⟩
    | _ => exact may.elim
  obtain ⟨final, ended, reach, finished⟩ :=
    Reaches.exists_finish acts ⟨whole, here, available⟩ reads
  exact ⟨final, reach, ends final ended reach finished ▸ finished⟩

/-- **Resuming over an intact history.**  A read from a cursor that was handed out through a later
high watermark returns exactly the events in between, unless it starts from the watermark of the
empty stream and there is something to read. -/
theorem read_exact_iff (loadable : ∀ envelope text, format.dumps envelope = some text →
      ∃ read, format.loads text = some (some read))
    {initial early late start : ReplayConfig Job Client Envelope Text} {task : Nat × Job}
    {maxReplayEvents : Nat} {after through : Cursor} (empty : initial.world.redis = .empty)
    (toEarly : Reaches (intact format) initial early) (handed : HandedOut early.world.redis after)
    (toLate : Reaches (intact format) early late)
    (newest : late.world.redis.newest.getD Cursor.origin = through)
    (toStart : Reaches (intact format) late start)
    (reads : start.tasks task = read format maxReplayEvents (some after) through)
    (here : task.1 = start.world.process) (available : start.world.store.available)
    (few : (between late.world.redis.log after through).length ≤ maxReplayEvents) :
    ReturnsExactly (intact format) start task (between late.world.redis.log after through) ↔
      after ≠ Cursor.origin ∨ through = Cursor.origin := by
  have begun : Whole format [] initial.world := by
    refine ⟨by rw [empty]; rfl, fun entry mem => ?_, List.nil_prefix⟩
    rw [empty] at mem
    exact absurd mem List.not_mem_nil
  have atEarly := begun.reaches toEarly
  have sinceEarly : Whole format early.world.redis.log late.world :=
    Whole.reaches toLate ⟨atEarly.untrimmed, atEarly.enveloped, List.prefix_rfl⟩
  have whole : Whole format late.world.redis.log start.world :=
    Whole.reaches toStart ⟨sinceEarly.untrimmed, sinceEarly.enveloped, List.prefix_rfl⟩
  have marked : watermark late.world.redis.log = through := sinceEarly.newest.symm.trans newest
  have enveloped : ∀ row ∈ between late.world.redis.log after through, Enveloped format row :=
    fun row mem => sinceEarly.enveloped row (List.mem_filter.mp mem).1
  obtain ⟨entries, events, exact_⟩ := entriesOf_enveloped loadable enveloped
  have filled : after ≠ through → late.world.redis.log ≠ [] := by
    intro apart nothing
    have none_ : through = Cursor.origin := by rw [← marked, nothing]; rfl
    obtain ⟨entry, mem, -⟩ := handed.entry (none_ ▸ apart)
    exact absurd (sinceEarly.grown.subset mem) (nothing ▸ List.not_mem_nil)
  have meets : Meets (reading late.world.redis.log)
      (fun ended _ => ended = readOutcome late.world.redis.log after through entries) ()
      (start.tasks task) := reads ▸ read_reading marked.ge filled few events
  obtain ⟨⟨final, reach, finished⟩, ends⟩ := read_ends whole here available meets
  constructor
  · -- From `0-0`, the first entry lies behind the cursor.
    rintro ⟨-, returns⟩
    by_contra neither
    obtain ⟨start_, some_⟩ := not_or.mp neither
    obtain rfl := not_ne_iff.mp start_
    obtain ⟨returned, same, -⟩ := returns final _ reach finished
    obtain ⟨first, rest, log⟩ := List.exists_cons_of_ne_nil (filled (Ne.symm some_))
    have positive := late.world.redis.positive first (log ▸ List.mem_cons_self)
    simp [readOutcome, log, Ne.symm some_, positive] at same
  · intro kept
    have ok : readOutcome late.world.redis.log after through entries = .ok entries := by
      unfold readOutcome
      cases first_ : late.world.redis.log.head? with
      | none => rfl
      | some first =>
          refine if_neg fun ⟨apart, early_⟩ => ?_
          have named : after ≠ Cursor.origin := fun same =>
            apart (same.trans (kept.resolve_left fun other => other same).symm)
          obtain ⟨entry, mem, rfl⟩ := handed.entry named
          obtain ⟨rest, log⟩ := List.head?_eq_some_iff.mp first_
          have ascending := late.world.redis.ascending
          rw [log] at ascending
          rcases List.mem_cons.mp (log ▸ sinceEarly.grown.subset mem) with rfl | later
          · exact lt_irrefl _ early_
          · exact early_.not_gt ((List.pairwise_cons.mp ascending).1 entry later)
    refine ⟨⟨final, _, reach, finished⟩, fun other outcome reached done => ?_⟩
    exact ⟨entries, (ends other outcome reached done).trans ok, exact_⟩

end Machine

/-! ## A resumption from the empty stream -/

/-- An entry that carries some text. -/
theorem plain_fields (fields : Fields String) :
    (fields.replayGap = false ∧ fields.envelope.isSome) ↔
      ∃ envelope text, plainFormat.dumps envelope = some text ∧ fields = ⟨false, some text⟩ := by
  constructor
  · obtain ⟨gap, text⟩ := fields
    rintro ⟨rfl, held⟩
    obtain ⟨text, rfl⟩ := Option.isSome_iff_exists.mp held
    exact ⟨text, text, rfl, rfl⟩
  · rintro ⟨_, _, -, rfl⟩
    exact ⟨rfl, rfl⟩

instance (outcome : AddOutcome) : Decidable (∃ cursor, outcome = .stored cursor 0 none) :=
  match outcome with
  | .stored cursor 0 none => isTrue ⟨cursor, rfl⟩
  | .stored _ (_ + 1) _ => isFalse fun ⟨_, same⟩ => by cases same
  | .stored _ _ (some _) => isFalse fun ⟨_, same⟩ => by cases same
  | .refused _ => isFalse fun ⟨_, same⟩ => by cases same

instance succeedsDecidable (command : ReplayCommand Unit String String)
    (outcome : command.Outcome) (store : ReplayStore) :
    Decidable (Succeeds plainFormat command outcome store) :=
  match command, outcome with
  | .xadd _ fields, outcome =>
      have := decidable_of_iff _ (plain_fields fields)
      inferInstanceAs (Decidable (_ ∧ ∃ cursor, outcome = AddOutcome.stored cursor 0 none))
  | .xrevrange _, (fault : Option Fault) => inferInstanceAs (Decidable (fault = none))
  | .xinfoStream _, (fault : Option Fault) => inferInstanceAs (Decidable (fault = none))
  | .xrange _ _ _ _, (fault : Option Fault) => inferInstanceAs (Decidable (fault = none))
  | .available, _ => inferInstanceAs (Decidable (store.available = true))
  | .client, _ => inferInstanceAs (Decidable (store.client.isSome = true))
  | .acquireProbe, _ | .probeDue, _ | .initializeStore, _ | .releaseProbe, _ | .gapPending, _
  | .setGapPending _, _ | .markUnhealthy _, _ | .publish _, _ | .dispatch _ _, _
  | .subscribe _ _, _ | .unsubscribe _ _, _ | .clientDisconnect _, _ | .prepare _ _ _, _
  | .withdraw _ _, _ | .setThrough _ _, _ | .startReplay _, _ | .send _ _ _, _
  | .takeBuffered _ _, _ | .endTurn _ _, _ | .abandon _ _, _ => inferInstanceAs (Decidable True)

/-- The runs over plain text. -/
abbrev plainIntact : Policy asciiReplay :=
  @intact Nat Unit String String _ _ asciiUnicode plainFormat

instance : plainIntact.Decides where
  act _ command outcome world := succeedsDecidable command outcome world.store
  calm _ _ := inferInstanceAs (Decidable True)

/-- Two appends, and a read through the second one. -/
def resuming (after : Cursor) : ReplayConfig Nat Unit String String where
  world := connected
  tasks task :=
    if task.2 < 2 then
      (append plainFormat (toString task.2)).bind fun _ => .finish (.ok [])
    else read plainFormat 100 (some after) (.mk 2 0)

/-- Both events are appended, one after the other. -/
def bothAppended : List (Turn asciiReplay) :=
  turns (0, 0) 4 (succeeding (.mk 1 0) 0) ++ turns (0, 1) 4 (succeeding (.mk 2 0) 0)

/-- From the first event, the second one is read. -/
theorem resume_from_the_first : ∃ late : ReplayConfig Nat Unit String String,
    late.world.redis.log =
        [⟨.mk 1 0, ⟨false, some "0"⟩, true⟩, ⟨.mk 2 0, ⟨false, some "1"⟩, true⟩] ∧
      @ReturnsExactly Nat Unit String String plainFormat _ _ asciiUnicode plainIntact late (0, 2)
        (between late.world.redis.log (.mk 1 0) (.mk 2 0)) := by
  have played : ∃ early late, (resuming (.mk 1 0)).play plainIntact
        (turns (0, 0) 4 (succeeding (.mk 1 0) 0)) = some early ∧
      early.play plainIntact (turns (0, 1) 4 (succeeding (.mk 2 0) 0)) = some late ∧
      early.world.redis.newest = some (.mk 1 0) ∧ late.world.redis.newest = some (.mk 2 0) ∧
      late.tasks (0, 2) = read plainFormat 100 (some (.mk 1 0)) (.mk 2 0) ∧
      late.world.process = 0 ∧ late.world.store.available ∧ late.world.redis.log =
        [⟨.mk 1 0, ⟨false, some "0"⟩, true⟩, ⟨.mk 2 0, ⟨false, some "1"⟩, true⟩] :=
    ⟨_, _, rfl, rfl, rfl, rfl, rfl, rfl, rfl, rfl⟩
  obtain ⟨early, late, toEarly, toLate, mark, newest, reads, here, available, log⟩ := played
  refine ⟨late, log, (@read_exact_iff Nat Unit String String plainFormat _ _ asciiUnicode
    (fun envelope text _ => ⟨text, rfl⟩) (resuming (.mk 1 0)) early late late (0, 2) 100 (.mk 1 0)
    (.mk 2 0) rfl (Config.play_reaches toEarly) (.inr (by rw [mark]; rfl))
    (Config.play_reaches toLate) (by rw [newest]; rfl) .refl reads here.symm available ?_).mpr
      (.inl (by decide))⟩
  exact (List.length_filter_le _ _).trans (by rw [log]; decide)

/-- From the watermark of the empty stream, the read reports that the history was trimmed. -/
theorem resume_from_the_empty_stream : ∃ late : ReplayConfig Nat Unit String String,
    (resuming .origin).world.redis = .empty ∧
      HandedOut (resuming .origin).world.redis .origin ∧
      Reaches plainIntact (resuming .origin) late ∧
      late.world.redis.newest.getD .origin = .mk 2 0 ∧
      late.tasks (0, 2) = read plainFormat 100 (some .origin) (.mk 2 0) ∧
      (between late.world.redis.log .origin (.mk 2 0)).length ≤ 100 ∧
      (∃ final, Reaches plainIntact late final ∧
        final.tasks (0, 2) = .finish (.error (.historyTrimmed .origin (.mk 1 0)))) ∧
      ¬@ReturnsExactly Nat Unit String String plainFormat _ _ asciiUnicode plainIntact late (0, 2)
        (between late.world.redis.log .origin (.mk 2 0)) := by
  have played : ∃ late final, (resuming .origin).play plainIntact bothAppended = some late ∧
      late.play plainIntact (turns (0, 2) 3 (succeeding .origin 0)) = some final ∧
      late.world.redis.newest = some (.mk 2 0) ∧
      late.tasks (0, 2) = read plainFormat 100 (some .origin) (.mk 2 0) ∧
      late.world.redis.log =
        [⟨.mk 1 0, ⟨false, some "0"⟩, true⟩, ⟨.mk 2 0, ⟨false, some "1"⟩, true⟩] ∧
      final.tasks (0, 2) = .finish (.error (.historyTrimmed .origin (.mk 1 0))) :=
    ⟨_, _, rfl, rfl, rfl, rfl, rfl, rfl⟩
  obtain ⟨late, final, toLate, toFinal, newest, reads, log, trimmed⟩ := played
  refine ⟨late, rfl, .inr rfl, Config.play_reaches toLate, by rw [newest]; rfl, reads,
    (List.length_filter_le _ _).trans (by rw [log]; decide),
    ⟨final, Config.play_reaches toFinal, trimmed⟩, fun returns => ?_⟩
  obtain ⟨_, same, -⟩ := returns.2 final _ (Config.play_reaches toFinal) trimmed
  cases same

end Replay
end DataGateway
