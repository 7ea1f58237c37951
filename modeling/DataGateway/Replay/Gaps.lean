import DataGateway.Replay.Survey

/-!
# Marks of gaps

An event that could not be appended leaves a latch, in memory and in a file, and the latch
leaves a mark in the stream before the next event.  The history of the poller and of the stream
says which events were lost; with the latch, no event is ever stored behind a lost one without
a mark in between.
-/

namespace DataGateway
namespace Replay

open Coroutine Machine
open RedisFlowReplayStore

variable {Job Client Envelope Text : Type}

/-! ## Histories -/

/-- The entries of a history, the newest first. -/
def addedEntries (history : List (StreamEvent Envelope Text)) : List (Entry Text) :=
  history.filterMap fun
    | .published _ => none
    | .added entry => some entry

/-- The event that the poller published last, while it has no entry. -/
def awaited : List (StreamEvent Envelope Text) → Option Envelope
  | [] => none
  | .published envelope :: _ => some envelope
  | .added entry :: rest => if entry.fields.replayGap then awaited rest else none

/-- An event was lost, and no mark has been stored since. -/
def owed : List (StreamEvent Envelope Text) → Bool
  | [] => false
  | .published _ :: rest => owed rest || (awaited rest).isSome
  | .added entry :: rest => !entry.fields.replayGap && owed rest

/-- The fields of an event. -/
def IsEvent (format : EnvelopeFormat Envelope Text) (envelope : Envelope) (fields : Fields Text) :
    Prop :=
  ∃ text, format.dumps envelope = some text ∧ fields = ⟨false, some text⟩

/-- Every event was stored right after it was published, with a mark before it when one was owed. -/
def Sealed (format : EnvelopeFormat Envelope Text) : List (StreamEvent Envelope Text) → Prop
  | [] => True
  | .published _ :: rest => Sealed format rest
  | .added entry :: rest => Sealed format rest ∧ (entry.fields.replayGap = false →
      owed rest = false ∧ ∃ envelope, awaited rest = some envelope ∧
        IsEvent format envelope entry.fields)

/-- After its publication the event was stored, with nothing but marks before it. -/
def Stored (format : EnvelopeFormat Envelope Text) (envelope : Envelope)
    (later : List (StreamEvent Envelope Text)) : Prop :=
  ∃ newer entry marks, later = newer ++ .added entry :: marks ∧
    IsEvent format envelope entry.fields ∧
    ∀ event ∈ marks, ∃ mark, event = .added mark ∧ mark.fields.replayGap = true

section Histories

variable {format : EnvelopeFormat Envelope Text} {envelope : Envelope}
variable {history recent past : List (StreamEvent Envelope Text)} {entry : Entry Text}

theorem addedEntries_append :
    addedEntries (recent ++ past) = addedEntries recent ++ addedEntries past :=
  List.filterMap_append

theorem mem_addedEntries : entry ∈ addedEntries history ↔ .added entry ∈ history := by
  simp only [addedEntries, List.mem_filterMap]
  constructor
  · rintro ⟨event, mem, same⟩
    cases event with
    | published envelope => cases same
    | added other => exact Option.some.inj same ▸ mem
  · exact fun mem => ⟨_, mem, rfl⟩

/-- What was stored after one entry and before another lies between the two. -/
theorem between_of_mem {later : List (StreamEvent Envelope Text)} {last first other : Entry Text}
    (ascending : (addedEntries (later ++ ((.added last :: recent) ++ past))).Pairwise
      fun newer older => older.cursor < newer.cursor)
    (old : .added first ∈ past) (mem : .added other ∈ .added last :: recent) :
    first.cursor < other.cursor ∧ other.cursor ≤ last.cursor := by
  rw [addedEntries_append, addedEntries_append] at ascending
  obtain ⟨-, ascending, -⟩ := List.pairwise_append.mp ascending
  obtain ⟨recents, -, apart⟩ := List.pairwise_append.mp ascending
  refine ⟨apart other (mem_addedEntries.mpr mem) first (mem_addedEntries.mpr old), ?_⟩
  rcases List.mem_cons.mp mem with same | mem
  · cases same
    exact le_rfl
  · exact (List.rel_of_pairwise_cons recents (mem_addedEntries.mpr mem)).le

theorem Sealed.suffix (whole : Sealed format (recent ++ past)) : Sealed format past := by
  induction recent with
  | nil => exact whole
  | cons event rest ih =>
      cases event with
      | published envelope => exact ih whole
      | added entry => exact ih whole.1

/-- What is owed stays owed until a mark. -/
theorem owed_append (owes : owed past = true)
    (unmarked : ∀ entry, .added entry ∈ recent → entry.fields.replayGap = false) :
    owed (recent ++ past) = true := by
  induction recent with
  | nil => exact owes
  | cons event rest ih =>
      have still := ih fun entry mem => unmarked entry (.tail _ mem)
      cases event with
      | published envelope => simp [owed, still]
      | added entry => simp [owed, still, unmarked entry (.head _)]

/-- An event that is stored behind another one, without a mark in between, was not behind a lost
one. -/
theorem Sealed.stored
    (whole : Sealed format (.added entry :: (recent ++ .published envelope :: past)))
    (unmarked : ∀ other, .added other ∈ .added entry :: recent → other.fields.replayGap = false) :
    Stored format envelope (.added entry :: recent) := by
  obtain ⟨clear, found, awaits, fields⟩ := whole.2 (unmarked entry (.head _))
  rcases List.eq_nil_or_concat recent with rfl | ⟨middle, first, rfl⟩
  · obtain rfl := Option.some.inj awaits
    exact ⟨[], entry, [], rfl, fields, nofun⟩
  rw [List.concat_eq_append] at whole unmarked clear ⊢
  rw [List.append_assoc, List.singleton_append] at clear whole
  cases first with
  | published other =>
      -- The event was followed by another publication, so it was lost.
      have owes : owed (.published other :: .published envelope :: past) = true := by
        simp [owed, awaited]
      have still : owed (middle ++ .published other :: .published envelope :: past) = true :=
        owed_append owes fun next mem => unmarked next (.tail _ (List.mem_append_left _ mem))
      rw [still] at clear
      cases clear
  | added first =>
      have whole : Sealed format
          ((.added entry :: middle) ++ .added first :: .published envelope :: past) := whole
      have tail : Sealed format (.added first :: .published envelope :: past) := whole.suffix
      obtain ⟨-, same, known, own⟩ :=
        tail.2 (unmarked first (.tail _ (List.mem_append_right _ (.head _))))
      obtain rfl := Option.some.inj known
      exact ⟨.added entry :: middle, first, [], rfl, own, nofun⟩

end Histories

/-! ## The poller -/

/-- Where the poller stands with the event that it published last. -/
inductive Phase (Envelope : Type)
  /-- The event is stored, or the latch is up. -/
  | idle
  | publishing (envelope : Envelope)
  /-- The latch is up. -/
  | pending (envelope : Envelope)
  /-- The mark is stored. -/
  | marked (envelope : Envelope)
  /-- No mark is owed. -/
  | clear (envelope : Envelope)
  | stored
  /-- The event may not be stored, and the latch is not up yet. -/
  | lost

namespace Phase

/-- How the poller's own commands move it along. -/
def next : Phase Envelope → (command : ReplayCommand Client Envelope Text) → command.Reply →
    Phase Envelope
  | _, .publish envelope, _ => .publishing envelope
  | .publishing envelope, .gapPending, latched => if latched then .pending envelope
      else .clear envelope
  | .pending envelope, .xadd _ _, .ok _ => .marked envelope
  | .clear _, .xadd _ _, .ok _ => .stored
  | .clear _, .xadd _ _, .error _ => .lost
  | .marked envelope, .setGapPending false, _ => .clear envelope
  | _, .setGapPending true, _ => .idle
  | phase, _, _ => phase

/-- Between two appends. -/
def Resting (phase : Phase Envelope) : Prop :=
  phase = .idle ∨ phase = .stored ∨ ∃ envelope, phase = .pending envelope

/-- What the poller does to the stream and the latch. -/
def Permits (format : EnvelopeFormat Envelope Text) :
    ReplayCommand Client Envelope Text → Phase Envelope → Prop
  | .publish _, phase => phase.Resting
  | .xadd _ fields, phase =>
      (∃ envelope, phase = .pending envelope) ∧ fields = ⟨true, none⟩ ∨
        ∃ envelope, phase = .clear envelope ∧ IsEvent format envelope fields
  | .setGapPending latched, phase => latched = false → ∃ envelope, phase = .marked envelope
  | _, _ => True

/-- The contract of the poller. -/
abbrev polling (format : EnvelopeFormat Envelope Text) :
    Contract (@ReplayCommand.Reply Client Envelope Text) (Phase Envelope) :=
  .tracking next ⟨Permits format, fun _ _ _ => True⟩

end Phase

/-- Commands that change neither the stream nor the latch. -/
def Quiet : ReplayCommand Client Envelope Text → Prop
  | .publish _ | .xadd _ _ | .setGapPending _ => False
  | _ => True

theorem quiet_of_probing {command : ReplayCommand Client Envelope Text}
    (probing : Probing command) :
    Quiet command ∧ command ≠ .gapPending := by
  cases command with
  | available | acquireProbe | probeDue | initializeStore | releaseProbe => exact ⟨trivial, nofun⟩
  | _ => exact probing.elim

/-- The poller publishes an event and has it appended; it goes on when that fails. -/
def appendOne (format : EnvelopeFormat Envelope Text) (envelope : Envelope) :
    ReplayProgram Client Envelope Text Unit :=
  .suspend (.publish envelope) fun _ =>
    ((append format envelope).bind fun _ => .finish (.ok ())).catching fun _ => .finish (.ok ())

/-- The poller's events, one after another. -/
def appendAll (format : EnvelopeFormat Envelope Text) (envelopes : List Envelope) :
    ReplayProgram Client Envelope Text Unit :=
  forEach envelopes (appendOne format)

/-- A read does not write. -/
theorem read_quiet {format : EnvelopeFormat Envelope Text} {maxReplayEvents : Nat}
    {after : Option Cursor} {through : Cursor} :
    (read format maxReplayEvents after through :
      ReplayProgram Client Envelope Text (List (ReplayEntry Envelope))).Uses Quiet := by
  refine read_consults.mono fun command consulting => ?_
  cases command with
  | publish _ | xadd _ _ | setGapPending _ => exact consulting.elim
  | _ => trivial

namespace Phase

variable {format : EnvelopeFormat Envelope Text} {envelope : Envelope} {phase : Phase Envelope}

theorem next_quiet {command : ReplayCommand Client Envelope Text} (quiet : Quiet command)
    (reads : command ≠ .gapPending) (reply : command.Reply) : phase.next command reply = phase := by
  cases command with
  | gapPending => exact absurd rfl reads
  | publish _ | xadd _ _ | setGapPending _ => exact quiet.elim
  | _ => cases phase <;> rfl

theorem probing_neutral (command : ReplayCommand Client Envelope Text) (probing : Probing command) :
    (polling format).may command phase ∧
      ∀ reply last, (polling format).after command phase reply last → last = phase := by
  obtain ⟨quiet, reads⟩ := quiet_of_probing probing
  refine ⟨?_, fun reply last moved => moved.1.trans (next_quiet quiet reads reply)⟩
  cases command with
  | publish _ | xadd _ _ | setGapPending _ => exact quiet.elim
  | _ => trivial

/-- The latch goes up. -/
theorem latch_meets {α : Type} {error : ReplayError} :
    Meets (polling format) (fun _ last => last.Resting) phase
      (.suspend (.setGapPending true) fun _ => .raise error :
        ReplayProgram Client Envelope Text α) := by
  refine ⟨nofun, fun _ last moved => .inl (moved.1.trans ?_)⟩
  cases phase <;> rfl

theorem noteGap_meets {client : Option Nat} {fault : Fault} :
    Meets (polling format) (fun _ last => last.Resting) phase
      (noteGap client fault : ReplayProgram Client Envelope Text Cursor) :=
  ⟨trivial, fun _ _ _ => latch_meets⟩

theorem storeEnvelope_meets {client : Option Nat} :
    Meets (polling format) (fun _ last => last.Resting) (.clear envelope)
      (storeEnvelope format client envelope : ReplayProgram Client Envelope Text Cursor) := by
  unfold storeEnvelope
  split
  · exact noteGap_meets
  next text dumped =>
    refine ⟨.inr ⟨envelope, rfl, text, dumped, rfl⟩, fun answer last moved => ?_⟩
    cases answer with
    | ok cursor => exact .inr (.inl moved.1)
    | error fault => exact noteGap_meets

theorem recordGap_meets {client : Option Nat} :
    Meets (polling format)
      (fun outcome last => last = match outcome with
        | .ok _ => .clear envelope
        | .error _ => .pending envelope) (.pending envelope)
      (recordGap client : ReplayProgram Client Envelope Text Unit) := by
  refine ⟨.inl ⟨⟨envelope, rfl⟩, rfl⟩, fun answer _ moved => ?_⟩
  obtain ⟨rfl, -⟩ := moved
  cases answer with
  | ok cursor => exact ⟨fun _ => ⟨envelope, rfl⟩, fun _ _ moved => moved.1⟩
  | error fault => exact ⟨trivial, fun _ _ moved => moved.1⟩

/-- An append ends with its event stored, or with the latch up. -/
theorem append_meets :
    Meets (polling format) (fun _ last => last.Resting) (.publishing envelope)
      (append format envelope : ReplayProgram Client Envelope Text Cursor) := by
  refine whenAvailable_meets probing_neutral ?_ latch_meets
  refine ⟨trivial, fun client _ moved => ⟨trivial, fun latched _ moved' => ?_⟩⟩
  obtain ⟨rfl, -⟩ := moved
  obtain ⟨rfl, -⟩ := moved'
  cases latched with
  | false => exact storeEnvelope_meets
  | true =>
      refine recordGap_meets.bind ?_ ?_
      · rintro _ _ rfl
        exact storeEnvelope_meets
      · rintro _ _ rfl
        exact .inr (.inr ⟨envelope, rfl⟩)

theorem appendOne_meets (rests : phase.Resting) :
    Meets (polling format) (fun _ last => last.Resting) phase
      (appendOne format envelope : ReplayProgram Client Envelope Text Unit) := by
  refine ⟨rests, fun _ next moved => ?_⟩
  obtain rfl : next = .publishing envelope := moved.1.trans (by cases phase <;> rfl)
  have appends : Meets (polling format) (fun _ last => last.Resting) (.publishing envelope)
      ((append format envelope).bind fun _ => .finish (.ok ()) :
        ReplayProgram Client Envelope Text Unit) :=
    append_meets.bind_kept fun _ _ rests => (meets_finish _).mpr rests
  exact appends.catching_kept fun _ _ rests => (meets_finish _).mpr rests

theorem appendAll_meets {envelopes : List Envelope} (rests : phase.Resting) :
    Meets (polling format) (fun _ last => last.Resting) phase
      (appendAll format envelopes : ReplayProgram Client Envelope Text Unit) := by
  induction envelopes generalizing phase with
  | nil => exact rests
  | cons envelope rest ih => exact (appendOne_meets rests).bind_kept fun _ _ rests => ih rests

end Phase

/-! ## The latch in the world -/

/-- The history is sealed, and the latch is up, in memory and in the file, while a mark is owed. -/
structure Latched (format : EnvelopeFormat Envelope Text)
    (world : ReplayWorld (Nat × Job) Client Envelope Text) : Prop where
  sealed : Sealed format world.history
  stream : addedEntries world.history = world.redis.log.reverse
  owes : owed world.history = true → world.store.gapPending = true
  file : world.sentinel = some world.store.gapPending

/-- What is true of the world where the poller stands. -/
def Phase.Holds (world : ReplayWorld (Nat × Job) Client Envelope Text) : Phase Envelope → Prop
  | .idle => awaited world.history = none ∨ world.store.gapPending = true
  | .publishing envelope => awaited world.history = some envelope
  | .pending envelope => awaited world.history = some envelope ∧ world.store.gapPending = true
  | .marked envelope | .clear envelope =>
      awaited world.history = some envelope ∧ owed world.history = false
  | .stored => awaited world.history = none
  | .lost => True

variable {format : EnvelopeFormat Envelope Text} {phase : Phase Envelope}
variable {world after : ReplayWorld (Nat × Job) Client Envelope Text} {task : Nat × Job}

theorem Latched.congr (latched : Latched format world)
    (stream : after.redis = world.redis ∧ after.history = world.history)
    (latch : after.store.gapPending = world.store.gapPending ∧ after.sentinel = world.sentinel) :
    Latched format after where
  sealed := stream.2 ▸ latched.sealed
  stream := by rw [stream.1, stream.2, latched.stream]
  owes owes := latch.1 ▸ latched.owes (stream.2 ▸ owes)
  file := by rw [latch.1, latch.2, latched.file]

theorem Phase.Holds.congr (holds : phase.Holds world) (history : after.history = world.history)
    (latch : after.store.gapPending = world.store.gapPending) : phase.Holds after := by
  cases phase with
  | idle | publishing _ | pending _ | marked _ | clear _ | stored =>
      simp only [Phase.Holds, history, latch] at holds ⊢
      exact holds
  | lost => trivial

/-- Between two appends the last event is stored, or the latch is up. -/
theorem Phase.Holds.rest (holds : phase.Holds world) (rests : phase.Resting) :
    awaited world.history = none ∨ world.store.gapPending = true := by
  rcases rests with rfl | rfl | ⟨envelope, rfl⟩
  · exact holds
  · exact .inl holds
  · exact .inr holds.2

section Machine

variable [DecidableEq Job] [DecidableEq Client] [Unicode]
variable {command : ReplayCommand Client Envelope Text} {outcome : command.Outcome}
variable {reply : command.Reply}

/-- Writing the sentinel file, or removing it, succeeds. -/
def FileWritten : (command : ReplayCommand Client Envelope Text) → command.Outcome → Prop
  | .setGapPending _, written => written = true
  | _, _ => True

/-- The commands of other tasks leave the latch and the poller's place as they are. -/
theorem Latched.quiet (quiet : Quiet command)
    (performed : world.act format task command outcome = some (reply, after)) :
    (after.redis = world.redis ∧ after.history = world.history) ∧
      after.store.gapPending = world.store.gapPending ∧ after.sentinel = world.sentinel := by
  have apart : (∀ client fields, command ≠ .xadd client fields) ∧
      (∀ envelope, command ≠ .publish envelope) ∧
        ∀ latched, command ≠ .setGapPending latched := by
    refine ⟨?_, ?_, ?_⟩ <;> rintro _ <;> intros <;> rintro rfl <;> exact quiet
  exact ⟨ReplayWorld.stream_act performed apart.1 apart.2.1,
    ReplayWorld.latch_act performed apart.2.2⟩

/-- An entry is stored where the poller permits it. -/
theorem Latched.xadd {client : Option Nat} {fields : Fields Text} {ended : AddOutcome}
    {answer : Except Fault Cursor} (latched : Latched format world) (holds : phase.Holds world)
    (permits : phase.Permits format (.xadd client fields : ReplayCommand Client Envelope Text))
    (performed : world.act format task (.xadd client fields) ended = some (answer, after)) :
    Latched format after ∧
      (phase.next (.xadd client fields : ReplayCommand Client Envelope Text)
        answer).Holds after := by
  rcases ReplayWorld.stream_xadd performed with
    ⟨fault, rfl, rfl⟩ | ⟨cursor, trim, answered, added, moved, told⟩
  · refine ⟨latched, ?_⟩
    rcases permits with ⟨⟨envelope, rfl⟩, -⟩ | ⟨envelope, rfl, -⟩
    · exact holds
    · trivial
  have history : after.history = .added ⟨cursor, fields, answered⟩ :: world.history := by rw [moved]
  have store : after.store = world.store := by rw [moved]
  have sentinel : after.sentinel = world.sentinel := by rw [moved]
  have stream : addedEntries after.history = after.redis.log.reverse := by
    rw [(RedisStream.add_eq_some added).1, List.reverse_append, ← latched.stream, history]
    rfl
  have file : after.sentinel = some after.store.gapPending := by rw [sentinel, store, latched.file]
  rcases permits with ⟨⟨envelope, rfl⟩, rfl⟩ | ⟨envelope, rfl, own⟩
  · have awaits : awaited after.history = some envelope := by rw [history]; exact holds.1
    have clear : owed after.history = false := by rw [history]; rfl
    refine ⟨⟨history ▸ ⟨latched.sealed, nofun⟩, stream, fun owes => ?_, file⟩, ?_⟩
    · rw [clear] at owes
      cases owes
    · cases answer with
      | ok cursor => exact ⟨awaits, clear⟩
      | error fault => exact ⟨awaits, by rw [store]; exact holds.2⟩
  · have event : fields.replayGap = false := by
      obtain ⟨_, _, rfl⟩ := own
      rfl
    have clear : owed after.history = false := by simp [history, owed, holds.2]
    refine ⟨⟨history ▸ ⟨latched.sealed, fun _ => ⟨holds.2, envelope, holds.1, own⟩⟩,
      stream, fun owes => ?_, file⟩, ?_⟩
    · rw [clear] at owes
      cases owes
    · cases answer with
      | ok cursor =>
          have settled : awaited after.history = none := by simp [history, awaited, event]
          exact settled
      | error fault => trivial

theorem Latched.still (latched : Latched format world) (holds : phase.Holds world)
    (performed : world.act format task command outcome = some (reply, after))
    (quiet : Quiet command) (reads : command ≠ .gapPending) :
    Latched format after ∧ (phase.next command reply).Holds after := by
  obtain ⟨stream, latch⟩ := Latched.quiet quiet performed
  refine ⟨latched.congr stream latch, ?_⟩
  rw [Phase.next_quiet quiet reads]
  exact holds.congr stream.2 latch.1

/-- What the poller does keeps the latch. -/
theorem Latched.step (latched : Latched format world) (holds : phase.Holds world)
    (permits : phase.Permits format command) (written : FileWritten command outcome)
    (performed : world.act format task command outcome = some (reply, after)) :
    Latched format after ∧ (phase.next command reply).Holds after := by
  cases command with
  | xadd client fields => exact latched.xadd holds permits performed
  | publish envelope =>
      cases performed
      have rests := holds.rest permits
      refine ⟨⟨latched.sealed, latched.stream, fun owes => ?_, latched.file⟩, ?_⟩
      · rcases Bool.or_eq_true_iff.mp owes with before | lost
        · exact latched.owes before
        · exact rests.resolve_left fun settled => by simp [settled] at lost
      · cases phase <;> rfl
  | setGapPending raised =>
      cases performed
      obtain rfl : outcome = true := written
      cases raised with
      | true =>
          refine ⟨⟨latched.sealed, latched.stream, fun _ => rfl, by simp [latched.file]⟩, ?_⟩
          cases phase <;> exact .inr rfl
      | false =>
          obtain ⟨envelope, rfl⟩ := permits rfl
          refine ⟨⟨latched.sealed, latched.stream, fun owes => ?_, by simp [latched.file]⟩,
            holds⟩
          exact absurd (holds.2.symm.trans owes) nofun
  | gapPending =>
      cases performed
      refine ⟨latched, ?_⟩
      cases phase with
      | publishing envelope =>
          dsimp only [Phase.next]
          cases known : world.store.gapPending with
          | true => exact ⟨holds, known⟩
          | false =>
              exact ⟨holds, Bool.eq_false_iff.mpr fun owes => by simp [latched.owes owes] at known⟩
      | _ => exact holds
  | _ => exact latched.still holds performed trivial nofun

/-! ## Runs -/

/-- What is true of a run of the poller through all its processes. -/
structure Guarded (format : EnvelopeFormat Envelope Text) (poller : Job)
    (world : ReplayWorld (Nat × Job) Client Envelope Text) (locals : Nat × Job → Phase Envelope) :
    Prop where
  latched : Latched format world
  current : (locals (world.process, poller)).Holds world
  later : ∀ process, world.process < process → locals (process, poller) = .idle

/-- A process does not end between the failure of an append and its latch. -/
def RestartsLatched (world : ReplayWorld (Nat × Job) Client Envelope Text) :
    ReplayDisturbance Client → Prop
  | .restart => awaited world.history = none ∨ world.sentinel = some true
  | _ => True

omit [DecidableEq Job] [Unicode] in
theorem Guarded.disturb {poller : Job} {locals : Nat × Job → Phase Envelope}
    (guarded : Guarded format poller world locals) (move : ReplayDisturbance Client)
    (restarts : RestartsLatched world move) :
    Guarded format poller (world.disturb move) locals := by
  cases move with
  | tick elapsed =>
      exact ⟨guarded.latched.congr ⟨rfl, rfl⟩ ⟨rfl, rfl⟩, guarded.current.congr rfl rfl,
        guarded.later⟩
  | deliver connection index sent =>
      simp only [ReplayWorld.disturb]
      split
      · exact guarded
      · split <;> exact ⟨guarded.latched.congr ⟨rfl, rfl⟩ ⟨rfl, rfl⟩,
          guarded.current.congr rfl rfl, guarded.later⟩
  | restart =>
      have file := guarded.latched.file
      have booted : (ReplayStore.boot world.sentinel).gapPending = world.store.gapPending := by
        simp [ReplayStore.boot, file]
      refine ⟨guarded.latched.congr ⟨rfl, rfl⟩ ⟨booted, rfl⟩, ?_, fun process after =>
        guarded.later process (Nat.lt_of_succ_lt after)⟩
      -- The poller of the new process starts where the latch says whether an event was lost.
      have idle : locals (world.process + 1, poller) = .idle := guarded.later _ (Nat.lt_succ_self _)
      have rests : awaited world.history = none ∨ world.store.gapPending = true :=
        restarts.imp_right fun raised => Option.some.inj (file.symm.trans raised)
      show (locals (world.process + 1, poller)).Holds _
      rw [idle]
      exact rests.imp_right fun raised => booted.trans raised

/-- The poller keeps its contract, and the other tasks are quiet. -/
def pollingContract (format : EnvelopeFormat Envelope Text) (poller : Job) (task : Nat × Job) :
    Contract (@ReplayCommand.Reply Client Envelope Text) (Phase Envelope) :=
  if task.2 = poller then Phase.polling format
    else ⟨fun command _ => Quiet command, fun _ _ _ _ => True⟩

theorem Guarded.act {poller : Job} {locals : Nat × Job → Phase Envelope}
    (guarded : Guarded format poller world locals)
    (may : (pollingContract format poller task).may command (locals task))
    (written : FileWritten command outcome)
    (performed : world.perform format task command outcome = some (reply, after)) :
    ∃ next, (pollingContract format poller task).after command (locals task) reply next ∧
      Guarded format poller after (Function.update locals task next) := by
  obtain ⟨here, performed⟩ := ReplayWorld.act_of_perform performed
  have process := (ReplayWorld.inspected_act performed).1
  obtain ⟨number, job⟩ := task
  obtain rfl : number = world.process := here
  unfold pollingContract at may ⊢
  by_cases own : job = poller
  · subst own
    rw [if_pos rfl] at may ⊢
    obtain ⟨latched, holds⟩ := guarded.latched.step guarded.current may written performed
    refine ⟨_, ⟨rfl, trivial⟩, latched, ?_, fun other later => ?_⟩
    · rw [process, Function.update_self]
      exact holds
    · rw [process] at later
      rw [Function.update_of_ne (by rintro same; cases same; exact absurd later (lt_irrefl _))]
      exact guarded.later other later
  · rw [if_neg own] at may ⊢
    obtain ⟨stream, latch⟩ := Latched.quiet may performed
    refine ⟨locals (world.process, job), trivial, guarded.latched.congr stream latch, ?_, ?_⟩
    · rw [Function.update_eq_self, process]
      exact guarded.current.congr stream.2 latch.1
    · rw [Function.update_eq_self, process]
      exact guarded.later

/-- A gateway before the first event. -/
structure Fresh (world : ReplayWorld (Nat × Job) Client Envelope Text) : Prop where
  history : world.history = []
  stream : world.redis.log = []
  file : world.sentinel = some world.store.gapPending

/-- Reads cover no lost event in the runs under a policy: the poller of each process appends its
events one after another, other tasks do not touch the stream, and between the two ends of a range
that a read returns every event that was published was stored. -/
def ReadsCoverNoGap (format : EnvelopeFormat Envelope Text) (poller : Job)
    (policy : Policy (flowReplay Job Client format)) : Prop :=
  ∀ (initial final : Config (Nat × Job) (@ReplayCommand.Reply Client Envelope Text) ReplayError
      (List (ReplayEntry Envelope)) (ReplayWorld (Nat × Job) Client Envelope Text))
    (events : Nat → List Envelope) (task : Nat × Job) (maxReplayEvents : Nat)
    (after through : Cursor) (entries : List (ReplayEntry Envelope)),
    Reaches policy initial final → Fresh initial.world →
    (∀ process, initial.tasks (process, poller) =
      (appendAll format (events process)).bind fun _ => .finish (.ok [])) →
    (∀ process job, job ≠ poller → (initial.tasks (process, job)).Uses Quiet) →
    initial.tasks task = read format maxReplayEvents (some after) through →
    final.tasks task = .finish (.ok entries) →
    ∀ later between earlier recent (last first : Entry Text) envelope,
      final.world.history = later ++ .added last :: (recent ++ .published envelope ::
        (between ++ .added first :: earlier)) →
      first.cursor = after → last.cursor = through →
      Stored format envelope (.added last :: recent)

/-- The sentinel file is written, nothing is trimmed from a range while it is read, and a range goes
no further than the stream. -/
def undisturbedReads (format : EnvelopeFormat Envelope Text) :
    Policy (flowReplay Job Client format) where
  allows task command outcome world := FileWritten command outcome ∧
    KeepsWanted (fun _ => True) world task command ∧ WithinStream world command
  permits _ _ := True

instance (command : ReplayCommand Client Envelope Text) (outcome : command.Outcome) :
    Decidable (FileWritten command outcome) :=
  let written : Bool := match command, outcome with
    | .setGapPending _, written => written
    | _, _ => true
  decidable_of_iff (written = true) (by cases command <;> simp [written, FileWritten])

instance (format : EnvelopeFormat Envelope Text) :
    (undisturbedReads format : Policy (flowReplay Job Client format)).Decides :=
  ⟨fun task command (outcome : command.Outcome) world =>
      inferInstanceAs (Decidable (FileWritten command outcome ∧
        KeepsWanted (fun _ => True) world task command ∧ WithinStream world command)),
    fun _ _ => inferInstanceAs (Decidable True)⟩

/-- Moreover no process ends between the failure of an append and its latch. -/
def latchedRestarts (format : EnvelopeFormat Envelope Text) :
    Policy (flowReplay Job Client format) :=
  { undisturbedReads format with permits := fun move world => RestartsLatched world move }

instance (world : ReplayWorld (Nat × Job) Client Envelope Text) (move : ReplayDisturbance Client) :
    Decidable (RestartsLatched world move) :=
  match move with
  | .restart =>
      match known : awaited world.history with
      | none => .isTrue (.inl known)
      | some envelope =>
          if latched : world.sentinel = some true then .isTrue (.inr latched)
          else .isFalse (by simp [RestartsLatched, known, latched])
  | .tick _ | .deliver _ _ _ => .isTrue trivial

instance (format : EnvelopeFormat Envelope Text) :
    (latchedRestarts format : Policy (flowReplay Job Client format)).Decides :=
  ⟨fun task command (outcome : command.Outcome) world =>
      inferInstanceAs (Decidable (FileWritten command outcome ∧
        KeepsWanted (fun _ => True) world task command ∧ WithinStream world command)),
    fun (move : ReplayDisturbance Client) world =>
      inferInstanceAs (Decidable (RestartsLatched world move))⟩

/-- No read covers a lost event, when every process lives until the latch is up. -/
theorem reads_cover_no_gap (format : EnvelopeFormat Envelope Text) (poller : Job) :
    ReadsCoverNoGap format poller (latchedRestarts format :
      Policy (flowReplay Job Client format)) := by
  intro initial final events task maxReplayEvents after through entries run fresh polls quiet reads
    returned later between earlier recent last first envelope history bottom top
  have guarded : Guarded format poller initial.world fun _ => .idle := by
    obtain ⟨history, stream, file⟩ := fresh
    exact ⟨⟨history ▸ trivial, by rw [history, stream]; rfl, by rw [history]; exact nofun, file⟩,
      .inl (by rw [history]; rfl), fun _ _ => rfl⟩
  have each :
      ∀ i, Meets (pollingContract format poller i) (fun _ _ => True) (.idle : Phase Envelope)
      (initial.tasks i) := by
    rintro ⟨process, job⟩
    unfold pollingContract
    by_cases own : job = poller
    · subst own
      rw [if_pos rfl, polls process]
      have polled : Meets (Phase.polling format) (fun _ last => last.Resting) .idle
          ((appendAll format (events process)).bind fun _ => .finish (.ok []) :
            RangeRead Client Envelope Text) :=
        (Phase.appendAll_meets (.inl rfl)).bind_kept fun _ _ rests => (meets_finish _).mpr rests
      exact polled.mono fun _ _ _ => trivial
    · rw [if_neg own]
      exact (quiet process job own).meets_inv (Q := fun _ => True) trivial
        fun _ _ quiet _ => ⟨quiet, fun _ _ _ => trivial⟩
  obtain ⟨locals, guarded, -⟩ := run.invariant
    (fun _ _ _ _ _ _ _ guarded may allowed performed => guarded.act may allowed.1 performed)
    (fun _ _ move guarded permitted => guarded.disturb move permitted) guarded each
  have surveys : Meets (surveying (fun _ => True) True)
      (Surveyed (fun _ => True) True format ⟨[], Cursor.origin, initial.world.inspected task⟩
        (some after) through) ⟨[], Cursor.origin, initial.world.inspected task⟩
      (initial.tasks task) := reads ▸ read_surveyed
  obtain ⟨state, holds, met⟩ := run.task (R := fun world state => state.True task world)
    (fun _ _ _ _ _ _ related _ allowed performed =>
      related.own allowed.2.1 (fun _ => allowed.2.2) performed)
    (fun _ _ _ _ _ _ _ apart related _ performed => related.other apart performed)
    (fun _ _ move related _ => related.disturb move) (.start _ _) surveys
  rw [returned] at met
  obtain ⟨far, list⟩ := met entries rfl
  have ascending : (addedEntries final.world.history).Pairwise
      fun newer older => older.cursor < newer.cursor := by
    rw [guarded.latched.stream, List.pairwise_reverse]
    exact final.world.redis.ascending
  have inside : ∀ other, .added other ∈ .added last :: recent →
      after < other.cursor ∧ other.cursor ≤ through := by
    intro other mem
    rw [history] at ascending
    have old : .added first ∈ .published envelope :: (between ++ .added first :: earlier) :=
      .tail _ (List.mem_append_right _ (.head _))
    rw [← bottom, ← top]
    exact between_of_mem ascending old mem
  have reached : state.reached = through := by
    refine far (.inr ⟨trivial, nofun, fun same => ?_⟩)
    obtain ⟨above, below⟩ := inside last (.head _)
    exact absurd (above.trans_le below) (Option.some.inj same ▸ lt_irrefl _)
  have whole : Sealed format (.added last :: (recent ++ .published envelope ::
      (between ++ .added first :: earlier))) := by
    have all := guarded.latched.sealed
    rw [history] at all
    exact all.suffix
  refine whole.stored fun other mem => ?_
  obtain ⟨above, below⟩ := inside other mem
  have logged : other ∈ final.world.redis.log := by
    rw [← List.mem_reverse, ← guarded.latched.stream, mem_addedEntries, history]
    have early : .added other ∈ (.added last :: recent) ++ .published envelope ::
        (between ++ .added first :: earlier) := List.mem_append_left _ mem
    exact List.mem_append_right later early
  exact (list.complete after rfl other (holds.reached other logged (reached ▸ below))
    ⟨trivial, above, below⟩).1

end Machine

/-! ## A process that ends before the latch is up -/

/-- Two pollers, of a process and of the one that follows it, and a reader. -/
def restarting (events : Nat → List String) (reader : Nat × Nat) (after through : Cursor) :
    Config (Nat × Nat) (@ReplayCommand.Reply Unit String String) ReplayError
      (List (ReplayEntry String)) (ReplayWorld (Nat × Nat) Unit String String) where
  world := connected
  tasks task :=
    if task.2 = 0 then (appendAll plainFormat (events task.1)).bind fun _ => .finish (.ok [])
    else if task = reader then read plainFormat 100 (some after) through
    else .finish (.ok [])

theorem restarting_quiet (events : Nat → List String) (reader : Nat × Nat) (after through : Cursor)
    (process job : Nat) (apart : job ≠ 0) :
    ((restarting events reader after through).tasks (process, job)).Uses Quiet := by
  have tasks : (restarting events reader after through).tasks (process, job) =
      if (process, job) = reader then read plainFormat 100 (some after) through
      else .finish (.ok []) := if_neg apart
  rw [tasks]
  split
  · exact read_quiet
  · trivial

/-- An event is stored, the next one is refused, and the process ends; the next process stores an
event and reads. -/
def lostBetween : List (Machine.Turn asciiReplay) :=
  turns (0, 0) 5 (succeeding (.mk 1 0) 0) ++ turns (0, 0) 5 refusing ++ [.disturb .restart] ++
    turns (1, 0) 10 (succeeding (.mk 2 0) 0) ++ turns (1, 1) 4 (succeeding .origin 0)

/-- A read covers an event that was lost. -/
theorem unlatched_restart_is_covered :
    ¬@ReadsCoverNoGap Nat Unit String String _ _ asciiUnicode plainFormat 0
      (@undisturbedReads Nat Unit String String _ _ asciiUnicode plainFormat) := by
  let _ := asciiUnicode
  intro covers
  let events : Nat → List String := fun process => if process = 0 then ["a", "x"] else ["b"]
  have played : ∃ final, (restarting events (1, 1) (.mk 1 0) (.mk 2 0)).play
        (undisturbedReads plainFormat) lostBetween = some final ∧
      final.tasks (1, 1) = .finish (.ok [⟨.mk 2 0, "b"⟩]) ∧
      final.world.history = [.added ⟨.mk 2 0, ⟨false, some "b"⟩, true⟩, .published "b",
        .published "x", .added ⟨.mk 1 0, ⟨false, some "a"⟩, true⟩, .published "a"] :=
    ⟨_, rfl, rfl, rfl⟩
  obtain ⟨final, ran, returned, history⟩ := played
  obtain ⟨newer, entry, marks, split, -, marked⟩ := covers
    (restarting events (1, 1) (.mk 1 0) (.mk 2 0)) final events (1, 1) 100 (.mk 1 0) (.mk 2 0) _
    (Config.play_reaches ran) ⟨rfl, rfl, rfl⟩ (fun _ => rfl)
    (restarting_quiet events (1, 1) (.mk 1 0) (.mk 2 0)) rfl returned [] [] [.published "a"]
    [.published "b"] _ _ "x" history rfl rfl
  -- All that came after the publication is another publication and the other event.
  rcases newer with _ | ⟨_, _ | ⟨_, rest⟩⟩
  · obtain ⟨-, rfl⟩ := List.cons.inj split
    obtain ⟨_, impossible, -⟩ := marked _ (.head _)
    cases impossible
  · cases split
  · cases rest <;> cases split

/-- An event is stored, the next one is refused and latched, and the process ends; the next process
marks the gap, stores two events and reads from the first to the second. -/
def storedAfterGap : List (Machine.Turn asciiReplay) :=
  turns (0, 0) 5 (succeeding (.mk 1 0) 0) ++ turns (0, 0) 7 refusing ++ [.disturb .restart] ++
    turns (1, 0) 10 (succeeding (.mk 2 0) 0) ++ turns (1, 0) 2 (succeeding (.mk 3 0) 0) ++
    turns (1, 0) 5 (succeeding (.mk 4 0) 0) ++ turns (1, 1) 4 (succeeding .origin 0)

/-- After an append that failed, an event that is stored is one that a read covers. -/
theorem stored_event_is_covered :
    ∃ final, (restarting (fun process => if process = 0 then ["a", "x"] else ["b", "c"]) (1, 1)
          (.mk 3 0) (.mk 4 0)).play
        (@latchedRestarts Nat Unit String String _ _ asciiUnicode plainFormat) storedAfterGap =
          some final ∧
      final.tasks (1, 1) = .finish (.ok [⟨.mk 4 0, "c"⟩]) ∧
      Stored plainFormat "c"
        ([.added ⟨.mk 4 0, ⟨false, some "c"⟩, true⟩] : List (StreamEvent String String)) := by
  let _ := asciiUnicode
  let events : Nat → List String := fun process => if process = 0 then ["a", "x"] else ["b", "c"]
  have played : ∃ final, (restarting events (1, 1) (.mk 3 0) (.mk 4 0)).play
        (latchedRestarts plainFormat) storedAfterGap = some final ∧
      final.tasks (1, 1) = .finish (.ok [⟨.mk 4 0, "c"⟩]) ∧
      final.world.history = [.added ⟨.mk 4 0, ⟨false, some "c"⟩, true⟩, .published "c",
        .added ⟨.mk 3 0, ⟨false, some "b"⟩, true⟩, .added ⟨.mk 2 0, ⟨true, none⟩, true⟩,
        .published "b", .published "x", .added ⟨.mk 1 0, ⟨false, some "a"⟩, true⟩,
        .published "a"] :=
    ⟨_, rfl, rfl, rfl⟩
  obtain ⟨final, ran, returned, history⟩ := played
  exact ⟨final, ran, returned, reads_cover_no_gap plainFormat 0
    (restarting events (1, 1) (.mk 3 0) (.mk 4 0)) final events (1, 1) 100 (.mk 3 0) (.mk 4 0) _
    (Config.play_reaches ran) ⟨rfl, rfl, rfl⟩ (fun _ => rfl)
    (restarting_quiet events (1, 1) (.mk 3 0) (.mk 4 0)) rfl returned [] [] _ [] _ _ "c" history
    rfl rfl⟩

end Replay
end DataGateway
