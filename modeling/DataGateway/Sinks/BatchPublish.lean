import DataGateway.Sinks.BatchFlags
import DataGateway.Sinks.RedisBatch

/-!
# What a batch publish reports

A batch publish takes a turn at every sink.  Each turn marks the messages that its own sink vouches
for; `publish_all_batch_results` reports what some turn has marked and `publish_all_batch_indexed`
what every turn has marked.
-/

namespace DataGateway
namespace Sinks

open Coroutine Breaker Indexed

variable {Time Data : Type} {sink : RegisteredSink} {messages : List (Message Data)}

/-! ## Candidates -/

/-- The candidates of a sink are the messages that were not buffered: every
durable message is one. -/
def Candidates (turn : Log Time Data) (sink : RegisteredSink) (messages : List (Message Data))
    (indexed : List (Message Data × Nat)) : Prop :=
  ∃ keep, indexed = enumerateWhere keep messages ∧
    (∀ message, sink.keeps message → keep message) ∧
    ∀ message, Buffered turn sink message → keep message = false

theorem candidates_all {turn : Log Time Data} (quiet : ∀ message, ¬ Buffered turn sink message) :
    Candidates turn sink messages (enumerateWhere (fun _ => true) messages) :=
  ⟨_, rfl, fun _ _ => rfl, fun message buffered => (quiet message buffered).elim⟩

theorem writes_batchCandidates :
    Writes (fun outcome (turn : Log Time Data) => ∀ indexed, outcome = .ok indexed →
      Candidates turn sink messages indexed) (batchCandidates sink messages) := by
  unfold batchCandidates
  extract_lets indexed volatile
  split
  · exact fun _ same => Except.ok.inj same ▸ candidates_all (by simp [Buffered])
  · rw [Writes, meets_logged_suspend]
    rintro (error | ⟨state, probeDue⟩)
    · exact fun _ same => Except.ok.inj same ▸ candidates_all (by simp [Buffered])
    · dsimp only
      split
      · exact fun _ same => Except.ok.inj same ▸ candidates_all (by simp [Buffered])
      next buffered _ _ =>
        refine Meets.logged_after ?_
        refine (writes_buffering sink volatile ?_).logged_bind
          (fun _ turn only indexed same => ?_) (fun _ _ _ => by simp)
        · unfold buffered
          split
          · refine Uses.foldEach fun _ message mem => ⟨⟨message, mem, rfl⟩, ?_⟩
            rintro (_ | _) <;> trivial
          · trivial
        · obtain rfl := Except.ok.inj same
          refine ⟨_, rfl, fun _ kept => kept, fun message buffered => ?_⟩
          have inside : Buffered turn sink message := by simpa [Buffered] using buffered
          simpa using (List.mem_filter.mp (only message inside)).2

/-! ## One turn -/

/-- The indices whose flag is set. -/
def markedIndices (indexed : List (Message Data × Nat)) (flags : List Bool) : List Nat :=
  ((indexed.zip flags).filter (·.2)).map (·.1.2)

theorem mem_markedIndices {indexed : List (Message Data × Nat)} {flags : List Bool} {i : Nat} :
    i ∈ markedIndices indexed flags ↔
      ∃ (j : Nat) (message : Message Data), indexed[j]? = some (message, i) ∧
        flags[j]? = some true := by
  constructor
  · intro mem
    obtain ⟨⟨⟨message, _⟩, flag⟩, selected, rfl⟩ := List.mem_map.mp mem
    obtain ⟨mem, rfl : flag = true⟩ := List.mem_filter.mp selected
    obtain ⟨j, here⟩ := List.mem_iff_getElem?.mp mem
    obtain ⟨there, set⟩ := List.getElem?_zip_eq_some.mp here
    exact ⟨j, message, there, set⟩
  · rintro ⟨j, message, there, set⟩
    refine List.mem_map.mpr ⟨((message, i), true), List.mem_filter.mpr ⟨?_, rfl⟩, rfl⟩
    exact List.mem_iff_getElem?.mpr ⟨j, List.getElem?_zip_eq_some.mpr ⟨there, set⟩⟩

/-- A sink vouches for a message: its batch method has accepted it, or it has no batch method and
the message was handed to a publishing task. -/
def Vouches (turn : Log Time Data) (sink : RegisteredSink)
    (messages : List (Message Data)) (i : Nat) :
    Option BatchMethod → Prop
  | some method => Accepted turn sink method messages i
  | none => ∃ message, messages[i]? = some message ∧ ⟨.spawn sink message, ()⟩ ∈ turn

/-- A sink is offered a message, by its batch method or by a publishing task. -/
def Given (turn : Log Time Data) (sink : RegisteredSink)
    (messages : List (Message Data)) (i : Nat) :
    Option BatchMethod → Prop
  | some method => Offered turn sink method messages i
  | none => ∃ message, messages[i]? = some message ∧ ⟨.spawn sink message, ()⟩ ∈ turn

/-- What the turn of a sink marks is exact. -/
structure TurnExact (method : Option BatchMethod) (turn : Log Time Data) (sink : RegisteredSink)
    (messages : List (Message Data)) (marked : List Nat) : Prop where
  within : ∀ i ∈ marked, i < messages.length
  vouched : ∀ i ∈ marked, Vouches turn sink messages i method
  unbuffered : ∀ (i : Nat) (message : Message Data), messages[i]? = some message →
    Buffered turn sink message → i ∉ marked
  offered : ∀ (i : Nat) (message : Message Data), messages[i]? = some message →
    sink.keeps message → Given turn sink messages i method

section Turn

variable {turn later : Log Time Data} {indexed : List (Message Data × Nat)} {flags : List Bool}
variable {marked : List Nat} {method : Option BatchMethod}

theorem turnExact_none (candidates : Candidates turn sink messages indexed)
    (empty : indexed.isEmpty) : TurnExact method turn sink messages [] := by
  refine ⟨nofun, nofun, fun _ _ _ _ => nofun, fun i message here kept => ?_⟩
  obtain ⟨keep, rfl, keeps, -⟩ := candidates
  have mem : (message, i) ∈ enumerateWhere keep messages :=
    mem_enumerateWhere.mpr ⟨here, keeps message kept⟩
  simp [List.isEmpty_iff.mp empty] at mem

theorem turnExact_flags {method : BatchMethod} (candidates : Candidates turn sink messages indexed)
    (flagged : FlagsExact later sink method (indexed.map (·.1)) flags)
    (part : ∀ i ∈ marked, i ∈ markedIndices indexed flags) :
    TurnExact (some method) (later ++ turn) sink messages marked := by
  obtain ⟨keep, rfl, keeps, dropped⟩ := candidates
  rw [enumerateWhere_values] at flagged
  have place (i : Nat) (mem : i ∈ marked) : ∃ message : Message Data, messages[i]? = some message ∧
      keep message ∧ flags[rank keep messages i]? = some true := by
    obtain ⟨j, message, here, flag⟩ := mem_markedIndices.mp (part i mem)
    obtain ⟨there, kept, rfl⟩ := enumerateWhere_place here
    exact ⟨message, there, kept, flag⟩
  refine ⟨fun i mem => ?_, fun i mem => ?_, fun i message here buffered mem => ?_,
    fun i message here kept => ?_⟩
  · obtain ⟨message, there, -⟩ := place i mem
    exact (List.getElem?_eq_some_iff.mp there).1
  · obtain ⟨message, there, kept, flag⟩ := place i mem
    exact ((flagged.accepted _ flag).picks (picks_filter there kept)).mono fun event => by
      simp +contextual
  · obtain ⟨other, there, kept, flag⟩ := place i mem
    obtain rfl : other = message := Option.some.inj (there.symm.trans here)
    rcases buffered_append.mp buffered with late | early
    · have := flagged.unbuffered _ other (filter_rank there kept) late
      simp [flag] at this
    · simp [dropped other early] at kept
  · exact ((flagged.offered _ message (filter_rank here (keeps message kept)) kept).picks
      (picks_filter here (keeps message kept))).mono fun event => by simp +contextual

theorem turnExact_spawned (candidates : Candidates turn sink messages indexed)
    (spawned : ∀ pair ∈ indexed, ⟨.spawn sink pair.1, ()⟩ ∈ later)
    (quiet : ∀ message, ¬ Buffered later sink message) :
    TurnExact none (later ++ turn) sink messages (indexed.map (·.2)) := by
  obtain ⟨keep, rfl, keeps, dropped⟩ := candidates
  have place (i : Nat) (mem : i ∈ (enumerateWhere keep messages).map (·.2)) :
      ∃ message : Message Data, messages[i]? = some message ∧ keep message := by
    obtain ⟨⟨message, _⟩, selected, rfl⟩ := List.mem_map.mp mem
    exact ⟨message, mem_enumerateWhere.mp selected⟩
  have given (i : Nat) (message : Message Data) (here : messages[i]? = some message)
      (kept : keep message) : ⟨.spawn sink message, ()⟩ ∈ later ++ turn :=
    List.mem_append_left _ (spawned (message, i) (mem_enumerateWhere.mpr ⟨here, kept⟩))
  refine ⟨fun i mem => ?_, fun i mem => ?_, fun i message here buffered mem => ?_,
    fun i message here kept => ⟨message, here, given i message here (keeps message kept)⟩⟩
  · obtain ⟨message, there, -⟩ := place i mem
    exact (List.getElem?_eq_some_iff.mp there).1
  · obtain ⟨message, there, kept⟩ := place i mem
    exact ⟨message, there, given i message there kept⟩
  · obtain ⟨other, there, kept⟩ := place i mem
    obtain rfl : other = message := Option.some.inj (there.symm.trans here)
    rcases buffered_append.mp buffered with late | early
    · exact quiet other late
    · simp [dropped other early] at kept

end Turn

/-- Publishing tasks are created for all messages. -/
theorem writes_spawning (pairs : List (Message Data × Nat)) :
    Writes (fun outcome (turn : Log Time Data) => (∀ message, ¬ Buffered turn sink message) ∧
      (outcome = .ok () → ∀ pair ∈ pairs, ⟨.spawn sink pair.1, ()⟩ ∈ turn))
    (forEach pairs fun (message, _) => .suspend (.spawn sink message) fun _ =>
      .finish (.ok ())) := by
  induction pairs with
  | nil => exact ⟨by simp [Buffered], fun _ => nofun⟩
  | cons pair rest ih =>
      refine (meets_logged_suspend ..).mpr fun _ => Meets.logged_after (ih.mono ?_)
      rintro outcome turn ⟨quiet, spawned⟩
      refine ⟨fun message => by simpa [Buffered] using quiet message, fun ended other mem => ?_⟩
      rcases List.mem_cons.mp mem with rfl | later
      · simp
      · exact List.mem_append_left _ (spawned ended other later)

theorem foldl_markIf (pairs : List ((Message Data × Nat) × Bool)) (marks : List Bool) :
    (pairs.foldl markIf marks).length = marks.length ∧
      ∀ i : Nat, (pairs.foldl markIf marks)[i]? = some true ↔
        marks[i]? = some true ∨ i ∈ (pairs.filter (·.2)).map (·.1.2) ∧ i < marks.length := by
  induction pairs generalizing marks with
  | nil => simp
  | cons pair rest ih =>
      obtain ⟨⟨message, index⟩, ok⟩ := pair
      cases ok with
      | false => simpa [markIf] using ih marks
      | true =>
          obtain ⟨length, marked⟩ := ih (marks.set index true)
          refine ⟨length.trans (List.length_set ..), fun i => (marked i).trans ?_⟩
          by_cases own : index = i
          · subst own
            have lt (set : marks[index]? = some true) : index < marks.length :=
              (List.getElem?_eq_some_iff.mp set).1
            simp [List.getElem?_set]
            tauto
          · simp [List.getElem?_set_ne own, Ne.symm own]

theorem markedIndices_all (indexed : List (Message Data × Nat)) :
    markedIndices indexed (List.replicate indexed.length true) = indexed.map (·.2) := by
  induction indexed with
  | nil => rfl
  | cons pair rest ih => simpa [markedIndices, List.replicate_succ] using ih

/-- The batch method that `publish_all_batch_results` calls. -/
def RegisteredSink.resultsMethod (sink : RegisteredSink) : Option BatchMethod :=
  if sink.hasBatchResults then some .results else if sink.hasBatch then some .count else none

/-- The batch method that `publish_all_batch_indexed` calls. -/
def RegisteredSink.indexedMethod (sink : RegisteredSink) : Option BatchMethod :=
  if sink.hasBatchIndexed then some .indexed else if sink.hasBatch then some .count else none

/-- A turn of `publish_all_batch_results` adds what it marks. -/
def ResultsTurn (messages : List (Message Data)) (sink : RegisteredSink) (before : List Bool)
    (turn : Log Time Data) (after : List Bool) : Prop :=
  ∃ marked, TurnExact sink.resultsMethod turn sink messages marked ∧ after.length = before.length ∧
    ∀ i : Nat, after[i]? = some true ↔ before[i]? = some true ∨ i ∈ marked ∧ i < before.length

theorem writes_resultsTurn (before : List Bool) :
    Writes (fun outcome (turn : Log Time Data) => ∀ after, outcome = .ok after →
      ResultsTurn messages sink before turn after) (resultsTurn messages before sink) := by
  refine writes_batchCandidates.logged_bind (fun indexed turn chosen => ?_) (fun _ _ _ => nofun)
  have candidates := chosen indexed rfl
  have flagged (method : BatchMethod) (same : sink.resultsMethod = some method) :
      Writes (fun outcome later => ∀ after, outcome = .ok after →
        ResultsTurn messages sink before (later ++ turn) after)
      ((batchPublishFlags sink method (indexed.map (·.1))).bind fun flags =>
        .finish (.ok (mark before indexed flags))) := by
    refine writes_batchPublishFlags.logged_bind (fun flags later exact _ ended => ?_)
      (fun _ _ _ => nofun)
    obtain rfl := Except.ok.inj ended
    exact ⟨markedIndices indexed flags,
      same ▸ turnExact_flags candidates (exact flags rfl) fun _ => id, foldl_markIf ..⟩
  dsimp only
  split
  next empty =>
    intro after ended
    obtain rfl := Except.ok.inj ended
    exact ⟨[], turnExact_none candidates empty, rfl, by simp⟩
  split
  next results => exact flagged .results (by simp [RegisteredSink.resultsMethod, results])
  next noResults =>
  split
  next batch => exact flagged .count (by simp [RegisteredSink.resultsMethod, noResults, batch])
  next noBatch =>
    refine (writes_spawning indexed).logged_bind (fun _ later ⟨quiet, spawned⟩ after ended => ?_)
      (fun _ _ _ => nofun)
    obtain rfl := Except.ok.inj ended
    have same : sink.resultsMethod = none := by
      simp [RegisteredSink.resultsMethod, noResults, noBatch]
    exact ⟨markedIndices indexed (List.replicate indexed.length true),
      markedIndices_all indexed ▸ same ▸ turnExact_spawned candidates (spawned rfl) quiet,
      foldl_markIf ..⟩

@[simp]
theorem mem_meet {succeeded : Option (List Nat)} {indices : List Nat} {i : Nat} :
    i ∈ meet succeeded indices ↔ (∀ before ∈ succeeded, i ∈ before) ∧ i ∈ indices := by
  cases succeeded <;> simp [meet]

/-- A turn of `publish_all_batch_indexed` keeps what it marks. -/
def IndexedTurn (messages : List (Message Data)) (sink : RegisteredSink)
    (before : Option (List Nat)) (turn : Log Time Data) (after : Option (List Nat)) : Prop :=
  ∃ marked succeeded, TurnExact sink.indexedMethod turn sink messages marked ∧
    after = some succeeded ∧ ∀ i, i ∈ succeeded ↔
      (∀ old ∈ before, i ∈ old) ∧ i ∈ marked

theorem writes_indexedTurn (before : Option (List Nat)) :
    Writes (fun outcome (turn : Log Time Data) => ∀ after, outcome = .ok after →
      IndexedTurn messages sink before turn after) (indexedTurn messages before sink) := by
  refine writes_batchCandidates.logged_bind (fun indexed turn chosen => ?_) (fun _ _ _ => nofun)
  have candidates := chosen indexed rfl
  dsimp only
  split
  next empty =>
    intro after ended
    obtain rfl := Except.ok.inj ended
    exact ⟨[], _, turnExact_none candidates empty, rfl, by simp [List.isEmpty_iff.mp empty]⟩
  split
  next byIndex =>
    have same : sink.indexedMethod = some .indexed := by
      simp [RegisteredSink.indexedMethod, byIndex]
    refine writes_batchPublishFlags.logged_bind (fun flags later exact _ ended => ?_)
      (fun _ _ _ => nofun)
    obtain rfl := Except.ok.inj ended
    refine ⟨markedIndices indexed flags, _,
      same ▸ turnExact_flags candidates (exact flags rfl) fun _ => id, rfl, fun i => ?_⟩
    have candidate (mem : i ∈ markedIndices indexed flags) : i ∈ indexed.map (·.2) := by
      obtain ⟨j, message, here, -⟩ := mem_markedIndices.mp mem
      exact List.mem_map_of_mem (List.mem_of_getElem? here)
    have marks : ((indexed.zip flags).filter (·.2)).map (·.1.2) = markedIndices indexed flags := rfl
    rw [mem_meet, marks]
    simp only [Option.mem_some_iff, forall_eq', mem_meet]
    exact ⟨fun ⟨⟨old, _⟩, mem⟩ => ⟨old, mem⟩,
      fun ⟨old, mem⟩ => ⟨⟨old, candidate mem⟩, mem⟩⟩
  next notByIndex =>
  split
  next batch =>
    have same : sink.indexedMethod = some .count := by
      simp [RegisteredSink.indexedMethod, notByIndex, batch]
    refine writes_batchPublishFlags.logged_bind (fun flags later exact _ ended => ?_)
      (fun _ _ _ => nofun)
    obtain rfl := Except.ok.inj ended
    have part (i : Nat) (mem : i ∈ if flags.all id then indexed.map (·.2) else []) :
        i ∈ markedIndices indexed flags := by
      split at mem
      next full =>
        obtain ⟨⟨message, _⟩, selected, rfl⟩ := List.mem_map.mp mem
        obtain ⟨j, here⟩ := List.mem_iff_getElem?.mp selected
        have lt : j < flags.length := by
          simpa [(exact flags rfl).length] using (List.getElem?_eq_some_iff.mp here).1
        refine mem_markedIndices.mpr ⟨j, message, here, ?_⟩
        rw [List.getElem?_eq_getElem lt]
        exact congrArg some (by simpa using List.all_eq_true.mp full _ (List.getElem_mem lt))
      · exact nomatch mem
    refine ⟨_, _, same ▸ turnExact_flags candidates (exact flags rfl) part, rfl, fun i => ?_⟩
    rw [mem_meet]
    simp only [Option.mem_some_iff, forall_eq', mem_meet, and_assoc]
    split <;> simp
  next noBatch =>
    have same : sink.indexedMethod = none := by
      simp [RegisteredSink.indexedMethod, notByIndex, noBatch]
    refine (writes_spawning indexed).logged_bind (fun _ later ⟨quiet, spawned⟩ after ended => ?_)
      (fun _ _ _ => nofun)
    obtain rfl := Except.ok.inj ended
    exact ⟨_, _, same ▸ turnExact_spawned candidates (spawned rfl) quiet, rfl, fun i => mem_meet⟩

/-! ## All turns -/

/-- The turns of a batch publish, each with what it wrote and what it marked. -/
abbrev TurnsExact (chosen : RegisteredSink → Option BatchMethod) (messages : List (Message Data))
    (sinks : List RegisteredSink) (turns : List (Log Time Data × List Nat)) : Prop :=
  List.Forall₂ (fun sink turn => TurnExact (chosen sink) turn.1 sink messages turn.2) sinks turns

variable {sinks : List RegisteredSink} {log : Log Time Data}

theorem TurnsExact.within {chosen : RegisteredSink → Option BatchMethod}
    {turns : List (Log Time Data × List Nat)} (exact : TurnsExact chosen messages sinks turns) :
    ∀ turn ∈ turns, ∀ i ∈ turn.2, i < messages.length := by
  induction exact with
  | nil => exact nofun
  | cons turn _ ih => exact List.forall_mem_cons.mpr ⟨turn.within, ih⟩

theorem resultsTurns {before after : List Bool}
    (turns : Turns (ResultsTurn messages) sinks before log after) :
    ∃ all, TurnsExact RegisteredSink.resultsMethod messages sinks all ∧
      log = (all.reverse.map (·.1)).flatten ∧ after.length = before.length ∧
      ∀ i : Nat, after[i]? = some true ↔
        before[i]? = some true ∨ (∃ turn ∈ all, i ∈ turn.2) ∧ i < before.length := by
  induction turns with
  | nil => exact ⟨[], .nil, rfl, rfl, by simp⟩
  | cons turn _ ih =>
      rename_i written _ _ _ _
      obtain ⟨marked, exact, length, adds⟩ := turn
      obtain ⟨all, exacts, rfl, lengths, added⟩ := ih
      refine ⟨(written, marked) :: all, .cons exact exacts,
        by simp, lengths.trans length, fun i => ?_⟩
      rw [added, adds, length]
      simp only [List.mem_cons, exists_eq_or_imp]
      tauto

theorem indexedTurns {before after : Option (List Nat)}
    (turns : Turns (IndexedTurn messages) sinks before log after) :
    ∃ all, TurnsExact RegisteredSink.indexedMethod messages sinks all ∧
      log = (all.reverse.map (·.1)).flatten ∧ (after = none → before = none ∧ all = []) ∧
      ∀ succeeded ∈ after, ∀ i, i ∈ succeeded ↔
        (∀ old ∈ before, i ∈ old) ∧ ∀ turn ∈ all, i ∈ turn.2 := by
  induction turns with
  | nil => exact ⟨[], .nil, rfl, fun none => ⟨none, rfl⟩, fun succeeded here i =>
      ⟨fun mem => ⟨fun old same => Option.some.inj (here.symm.trans same) ▸ mem, nofun⟩,
        fun ⟨olds, _⟩ => olds succeeded here⟩⟩
  | cons turn _ ih =>
      rename_i written _ _ _ _
      obtain ⟨marked, kept, exact, rfl, keeps⟩ := turn
      obtain ⟨all, exacts, rfl, nonempty, kepts⟩ := ih
      refine ⟨(written, marked) :: all, .cons exact exacts, by simp,
        fun none => (nomatch (nonempty none).1), fun succeeded here i => ?_⟩
      rw [kepts succeeded here]
      simp only [Option.mem_some_iff, forall_eq', keeps, List.forall_mem_cons, and_assoc]

/-! ## Batch publishes -/

/-- The sinks a batch publish goes through. -/
def askedSinks (enabled : Bool) (sinks : List RegisteredSink) (messages : List (Message Data)) :
    List RegisteredSink :=
  if enabled ∧ ¬ messages.isEmpty then sinks else []

variable {enabled : Bool}

theorem writes_publishAllBatchResults :
    Writes (fun outcome (log : Log Time Data) => ∀ flags, outcome = .ok flags →
      flags.length = messages.length ∧ ∃ turns,
        TurnsExact RegisteredSink.resultsMethod messages (askedSinks enabled sinks messages) turns ∧
        log = (turns.reverse.map (·.1)).flatten ∧
        ∀ i : Nat, flags[i]? = some true ↔ ∃ turn ∈ turns, i ∈ turn.2)
    (publishAllBatchResults enabled sinks messages) := by
  unfold publishAllBatchResults askedSinks
  by_cases empty : messages.isEmpty
  · obtain rfl := List.isEmpty_iff.mp empty
    intro _ same
    obtain rfl := Except.ok.inj same
    exact ⟨rfl, [], by simp [TurnsExact], rfl, by simp⟩
  rw [if_neg empty]
  by_cases off : ¬ enabled ∨ sinks.isEmpty
  · rw [if_pos off]
    intro _ same
    obtain rfl := Except.ok.inj same
    refine ⟨List.length_replicate, [], ?_, rfl, by simp [List.getElem?_replicate]⟩
    rcases off with disabled | noSinks
    · simp [TurnsExact, disabled]
    · simp [TurnsExact, List.isEmpty_iff.mp noSinks]
  · rw [if_neg off, if_pos ⟨not_not.mp fun disabled => off (.inl disabled), empty⟩]
    refine (Meets.logged_foldEach fun sink before => writes_resultsTurn before).mono ?_
    intro outcome log taken flags same
    obtain ⟨turns, exact, written, length, marks⟩ := resultsTurns (taken flags same)
    refine ⟨length.trans List.length_replicate, turns, exact, written, fun i => ?_⟩
    have unmarked : (List.replicate messages.length false)[i]? ≠ some true := by
      simp [List.getElem?_replicate]
    rw [marks, List.length_replicate, or_iff_right unmarked]
    exact and_iff_left_of_imp fun ⟨turn, mem, own⟩ => exact.within turn mem i own

theorem writes_publishAllBatchIndexed :
    Writes (fun outcome (log : Log Time Data) => ∀ succeeded, outcome = .ok succeeded → ∃ turns,
        TurnsExact RegisteredSink.indexedMethod messages (askedSinks enabled sinks messages) turns ∧
        log = (turns.reverse.map (·.1)).flatten ∧
        ∀ i : Nat, i ∈ succeeded ↔ turns ≠ [] ∧ ∀ turn ∈ turns, i ∈ turn.2)
    (publishAllBatchIndexed enabled sinks messages) := by
  unfold publishAllBatchIndexed askedSinks
  by_cases off : ¬ enabled ∨ sinks.isEmpty ∨ messages.isEmpty
  · rw [if_pos off]
    intro _ same
    obtain rfl := Except.ok.inj same
    refine ⟨[], ?_, rfl, by simp⟩
    rcases off with disabled | noSinks | empty
    · simp [TurnsExact, disabled]
    · simp [TurnsExact, List.isEmpty_iff.mp noSinks]
    · simp [TurnsExact, empty]
  · rw [if_neg off]
    simp only [not_or, not_not] at off
    obtain ⟨on, registered, nonempty⟩ := off
    rw [if_pos ⟨on, nonempty⟩]
    refine (Meets.logged_foldEach fun sink before => writes_indexedTurn before).logged_bind
      (fun last log taken => ?_) (fun _ _ _ => nofun)
    intro succeeded same
    obtain rfl := Except.ok.inj same
    obtain ⟨turns, exact, written, ran, keeps⟩ := indexedTurns (taken last rfl)
    have some : turns ≠ [] := by
      rintro rfl
      cases exact
      exact registered rfl
    refine ⟨turns, exact, by simpa using written, fun i => ?_⟩
    cases last with
    | none => exact absurd (ran rfl).2 some
    | some kept =>
        rw [Option.getD_some, keeps kept rfl]
        simp [some]

/-- A batch publish reports what its turns have marked, a turn marks only what its own sink vouches
for and never what it has buffered, and it offers the sink every durable message.  What the Redis
sink reports of a batch is what Redis has acknowledged. -/
theorem batch_reports_exact (enabled : Bool) (sinks : List RegisteredSink)
    (messages : List (Message Data)) :
    (∀ flags (log : Log Time Data), Ends (Contract.logged _) []
        (publishAllBatchResults enabled sinks messages) (.ok flags) log →
      flags.length = messages.length ∧ ∃ turns,
        TurnsExact RegisteredSink.resultsMethod messages (askedSinks enabled sinks messages) turns ∧
        log = (turns.reverse.map (·.1)).flatten ∧
        ∀ i : Nat, flags[i]? = some true ↔ ∃ turn ∈ turns, i ∈ turn.2) ∧
    (∀ succeeded (log : Log Time Data), Ends (Contract.logged _) []
        (publishAllBatchIndexed enabled sinks messages) (.ok succeeded) log → ∃ turns,
      TurnsExact RegisteredSink.indexedMethod messages (askedSinks enabled sinks messages) turns ∧
      log = (turns.reverse.map (·.1)).flatten ∧
      ∀ i : Nat, i ∈ succeeded ↔ turns ≠ [] ∧ ∀ turn ∈ turns, i ∈ turn.2) ∧
    (∀ runs, ChunksRan processChunkResults messages runs →
      (publishBatchResults messages (runs.map (·.1))).length = messages.length ∧
        ∀ i < messages.length, (publishBatchResults messages (runs.map (·.1)))[i]? = some true ↔
          Landed messages runs i) ∧
    ∀ runs, ChunksRan processChunkIndexed messages runs →
      ∀ i, i ∈ publishBatchIndexed (runs.map (·.1)) ↔
        i < messages.length ∧ Landed messages runs i :=
  ⟨fun flags _ ends => ends.meets writes_publishAllBatchResults flags rfl,
    fun succeeded _ ends => ends.meets writes_publishAllBatchIndexed succeeded rfl,
    fun _ ran => publishBatchResults_exact ran, fun _ ran i => publishBatchIndexed_exact ran i⟩

/-- The Redis sink. -/
def redisStreams : RegisteredSink := ⟨"redis_streams", fun _ => false, true, true, true, true⟩

/-- A batch of two with a Redis that accepts only the second. -/
theorem batch_reports_exact_second : ∃ turns : List (Log Int Unit × List Nat),
    TurnsExact RegisteredSink.resultsMethod [("bars", ()), ("bars", ())] [redisStreams] turns ∧
      ∀ i : Nat, [false, true][i]? = some true ↔ ∃ turn ∈ turns, i ∈ turn.2 := by
  have ran : Ends (Contract.logged (RegistryCommand.Reply Int Unit)) []
      (publishAllBatchResults true [redisStreams] [("bars", ()), ("bars", ())])
      (.ok [false, true]) _ :=
    .suspend (.ok (.closed, true)) _ rfl <| .suspend (.ok (.closed, true)) _ rfl <|
      .suspend (.ok false) _ rfl <| .suspend (.ok (.items [false, true])) _ rfl <|
      .suspend () _ rfl .finish
  obtain ⟨-, turns, exact, -, marks⟩ := (batch_reports_exact true [redisStreams]
    [("bars", ()), ("bars", ())]).1 _ _ ran
  exact ⟨turns, exact, marks⟩

/-- A sink without any batch method: the message is marked although no sink has
reported anything. -/
theorem batch_marks_optimistically :
    let plain : RegisteredSink := ⟨"plain", fun _ => false, true, false, false, false⟩
    ∃ log : Log Int Unit, Ends (Contract.logged _) []
        (publishAllBatchResults true [plain] [("bars", ())]) (.ok [true]) log ∧
      ¬ ∃ sink method, Accepted log sink method [("bars", ())] 0 := by
  refine ⟨_, .suspend (.ok (.closed, true)) _ rfl <| .suspend () _ rfl .finish, ?_⟩
  rintro ⟨sink, method, picked, raw, place, mem, -⟩
  simp at mem

end Sinks
end DataGateway
