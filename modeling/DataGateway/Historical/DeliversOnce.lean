import DataGateway.Historical.Session

/-!
# A replay delivers its data once

When a session is started once, is left alone after its end, and is not stopped in the delay in
front of a message, its callbacks get the loaded messages one after the other, numbered from one and
in the order of their timestamps, and nothing happens after the state has become final.
-/

namespace DataGateway
namespace Historical

variable {Message : Type}

/-! ## The property -/

/-- The numbers and messages given to callbacks, the oldest first. -/
def deliveries (history : List (SessionEvent Message)) : List (Nat × Message) :=
  history.reverse.filterMap fun
    | .delivered _ sequence message => some (sequence, message)
    | .became _ => none

/-- The message as loaded, or as read back from the spool file. -/
def ReplayFormat.Shows (format : ReplayFormat Message) (loaded shown : Message) : Prop :=
  shown = loaded ∨ format.respooled loaded = some shown

/-- Nothing happens once the state is final. -/
def Settled (history : List (SessionEvent Message)) (state : ReplayState) : Prop :=
  ∀ later final earlier, history = later ++ .became final :: earlier → final.Terminal →
    final = state ∧ ∀ event ∈ later, event = .became final

/-- The messages delivered are loaded messages, each at most once, numbered and in order, and the
end is the end. -/
structure DeliversOnce (format : ReplayFormat Message) (loaded : List Message)
    (session : ReplaySession Message) : Prop where
  numbered : (deliveries session.history).map Prod.fst =
    List.range' 1 (deliveries session.history).length
  inOrder : ((deliveries session.history).map Prod.snd).Pairwise fun left right =>
    format.timestamp left ≤ format.timestamp right
  once : ∃ taken, taken.Subperm loaded ∧
    List.Forall₂ format.Shows taken ((deliveries session.history).map Prod.snd)
  settled : Settled session.history session.state

/-! ## The condition -/

/-- A loop that loads anything loads these messages. -/
def loading (format : ReplayFormat Message) (loaded : List Message) :
    (replaying format).Policy where
  allows
    | _, .load, outcome, _ => outcome ≠ none → outcome = some loaded
    | _, _, _, _ => True
  permits _ _ := True

namespace ReplaySession

/-- It may be stopped: it has not ended otherwise, and no loop waits out a delay. -/
def Stoppable (session : ReplaySession Message) : Prop :=
  session.state ≠ .completed ∧ session.state ≠ .failed ∧
    ∀ loop < session.started, session.waits loop ≠ .sleeping

end ReplaySession

/-- Moreover the session is started once, handlers and failures leave it alone after its end, and it
is not stopped in a delay. -/
def leftAlone (format : ReplayFormat Message) (loaded : List Message) :
    (replaying format).Policy where
  allows
    | _, .load, outcome, _ => outcome ≠ none → outcome = some loaded
    | _, .complete, _, world | _, .fail, _, world => ¬world.session.state.Terminal
    | _, _, _, _ => True
  permits
    | .start, world => world.registered ∧ world.session.Startable → world.session.started = 0
    | .pause, world | .resume _, world => ¬world.session.state.Terminal
    | .stop, world => world.session.Stoppable
    | .delete, world => world.registered = true → world.session.Stoppable

/-! ## What a loop promises -/

/-- How far a loop has come. -/
inductive LoopStage (Message : Type)
  | unborn
  | loading
  /-- These messages are left, as they were loaded. -/
  | playing (rest : List Message)
  | ended

variable (format : ReplayFormat Message)

/-- What a command makes of the stage. -/
def LoopStage.next : LoopStage Message → (command : LoopCommand Message) → command.Reply →
    LoopStage Message
  | _, .begin, _ => .loading
  | _, .load, .ok loaded => .playing (format.arrange loaded)
  | .playing rest, .checkPause _ _, some .sent => .playing rest.tail
  | .playing rest, .afterPause _ _, .sent => .playing rest.tail
  | .playing rest, .wakeUp _, _ => .playing rest.tail
  | _, .complete, _ | _, .completeIfRunning, _ | _, .fail, _ => .ended
  | stage, _, _ => stage

/-- The message is the next one of the loop. -/
def LoopStage.Shows (stage : LoopStage Message) (message : Message) : Prop :=
  ∃ next rest, stage = .playing (next :: rest) ∧ format.Shows next message

/-- The loop has begun and not ended. -/
def LoopStage.Alive : LoopStage Message → Prop
  | .loading | .playing _ => True
  | .unborn | .ended => False

/-- A loop plays the messages that are left, one after the other. -/
def loopTerms : Terms (@LoopCommand.Reply Message) (LoopStage Message) where
  guarantee
    | .begin, stage => stage = .unborn
    | .load, stage => stage = .loading
    | .checkPause _ message, stage | .afterPause _ message, stage | .wakeUp message, stage =>
        stage.Shows format message
    | .complete, stage | .completeIfRunning, stage | .fail, stage => stage.Alive
    | _, _ => True
  rely
    | .readLine message, _, reply => ∀ read, reply = .ok read → format.respooled message = some read
    | _, _, _ => True

namespace ReplayFormat

/-- The contract of a loop. -/
abbrev contract : Contract (@LoopCommand.Reply Message) (LoopStage Message) :=
  .tracking (LoopStage.next format) (loopTerms format)

variable {format}

theorem take_meets (spooled : Bool) (message : Message) (rest : List Message) :
    Coroutine.Meets format.contract (fun outcome stage => stage = .playing (message :: rest) ∧
      ∀ shown, outcome = .ok shown → format.Shows message shown) (.playing (message :: rest))
      (take spooled message) := by
  unfold take
  split
  · refine ⟨trivial, fun read stage tracked => ?_⟩
    obtain ⟨rfl, spooled⟩ := tracked
    cases read with
    | error failure => exact ⟨rfl, by rintro _ ⟨⟩⟩
    | ok shown =>
        refine ⟨rfl, ?_⟩
        rintro _ ⟨⟩
        exact .inr (spooled shown rfl)
  · exact ⟨rfl, by rintro _ ⟨⟩; exact .inl rfl⟩

theorem awaitTurn_meets {message shown : Message} {rest : List Message} (gap : Int)
    (shows_ : format.Shows message shown) :
    Coroutine.Meets format.contract (fun outcome stage => ∃ progress, outcome = .ok progress ∧
      stage = if progress = .sent then .playing rest else .playing (message :: rest))
      (.playing (message :: rest)) (awaitTurn gap shown) := by
  refine ⟨⟨message, rest, rfl, shows_⟩, fun checked stage tracked => ?_⟩
  obtain ⟨rfl, -⟩ := tracked
  cases checked with
  | some progress => exact ⟨progress, rfl, by cases progress <;> rfl⟩
  | none =>
      refine ⟨⟨message, rest, rfl, shows_⟩, fun progress stage tracked => ?_⟩
      obtain ⟨rfl, -⟩ := tracked
      exact ⟨progress, rfl, by cases progress <;> rfl⟩

theorem finishCallback_meets (rest : List Message) :
    Coroutine.Meets format.contract (fun _ stage => stage = .playing rest) (.playing rest)
      finishCallback := by
  refine ⟨trivial, fun called stage tracked => ?_⟩
  obtain ⟨rfl, -⟩ := tracked
  cases called <;> rfl

theorem play_meets {message shown : Message} {rest : List Message} (gap : Int)
    (shows_ : format.Shows message shown) :
    Coroutine.Meets format.contract (fun outcome stage => stage.Alive ∧
      (outcome = .ok true → stage = .playing rest)) (.playing (message :: rest))
      (play gap shown) := by
  refine (awaitTurn_meets gap shows_).bind (fun progress stage reached => ?_) ?_
  · obtain ⟨_, ⟨⟩, rfl⟩ := reached
    have finished : Coroutine.Meets format.contract (fun _ stage => stage = .playing rest)
        (.playing rest) finishCallback := finishCallback_meets rest
    have called := finished.mono fun outcome stage reached =>
      (⟨by rw [reached]; trivial, fun _ => reached⟩ :
        stage.Alive ∧ (outcome = .ok true → stage = .playing rest))
    cases progress with
    | stopped => exact ⟨trivial, by rintro ⟨⟩⟩
    | failed => exact ⟨trivial, by rintro ⟨⟩⟩
    | sleeping =>
        refine ⟨⟨message, rest, rfl, shows_⟩, fun _ stage tracked => ?_⟩
        obtain ⟨rfl, -⟩ := tracked
        exact called
    | sent => exact called
  · rintro failure stage ⟨_, ⟨⟩, -⟩

theorem playAll_meets (spooled : Bool) (previous : Int) (messages : List Message) :
    Coroutine.Meets format.contract (fun _ stage => stage.Alive) (.playing messages)
      (format.playAll spooled previous messages) := by
  induction messages generalizing previous with
  | nil => trivial
  | cons message messages ih =>
      refine (take_meets spooled message messages).bind (fun shown stage reached => ?_) ?_
      · obtain ⟨rfl, shows_⟩ := reached
        refine (play_meets _ (shows_ shown rfl)).bind (fun goesOn stage reached => ?_) ?_
        · obtain ⟨alive, left⟩ := reached
          cases goesOn with
          | false => exact alive
          | true =>
              rw [left rfl]
              exact ih _
        · exact fun _ _ reached => reached.1
      · rintro failure stage ⟨rfl, -⟩
        trivial

theorem spool_meets (messages : List Message) (stage : LoopStage Message) :
    Coroutine.Meets format.contract (fun _ last => last = stage) stage (format.spool messages) := by
  unfold spool
  split
  · refine ⟨trivial, fun written last tracked => ?_⟩
    have same : last = stage := tracked.1.trans (by cases stage <;> rfl)
    cases written <;> exact same
  · rfl

theorem replayLoaded_meets :
    Coroutine.Meets format.contract (fun outcome stage => outcome = .error () →
      stage.Alive) .loading
      format.replayLoaded := by
  refine ⟨rfl, fun answer stage tracked => ?_⟩
  obtain ⟨rfl, -⟩ := tracked
  cases answer with
  | error failure => exact fun _ => trivial
  | ok loaded =>
      refine (spool_meets loaded _).bind (fun _ stage reached => ?_) ?_
      · obtain rfl := reached
        have ready : LoopStage.next format .loading .load (.ok loaded) =
          .playing (format.arrange loaded) := rfl
        rw [ready]
        split
        next nothing =>
          rw [nothing]
          exact ⟨trivial, fun _ _ _ => by rintro ⟨⟩⟩
        next first rest some_ =>
          rw [some_]
          refine (playAll_meets _ _ _).bind (fun _ stage alive => ?_) fun _ _ alive _ => alive
          exact ⟨alive, fun _ _ _ => by rintro ⟨⟩⟩
      · rintro failure stage rfl
        exact fun _ => trivial

/-- A loop keeps to its promises. -/
theorem runReplay_meets :
    Coroutine.Meets format.contract (fun _ _ => True) .unborn format.runReplay := by
  refine ⟨rfl, fun _ stage tracked => ?_⟩
  obtain ⟨rfl, -⟩ := tracked
  refine replayLoaded_meets.catching (fun _ _ _ => trivial) fun failure stage alive => ?_
  exact ⟨alive rfl, fun _ _ _ => trivial⟩

/-! ## The order of the messages -/

theorem arrange_perm (messages : List Message) : (format.arrange messages).Perm messages := by
  unfold arrange
  split
  · exact .refl _
  · exact List.perm_insertionSort _ _

theorem arrange_pairwise (messages : List Message) :
    (format.arrange messages).Pairwise fun left right =>
      format.timestamp left ≤ format.timestamp right := by
  unfold arrange
  split
  next sorted =>
    have chain : messages.IsChain fun left right =>
        format.timestamp left ≤ format.timestamp right := by
      induction messages with
      | nil => exact .nil
      | cons first messages ih =>
          cases messages with
          | nil => exact .singleton _
          | cons second messages =>
              simp only [isSorted, List.tail_cons, List.zip_cons_cons, List.all_cons,
                Bool.and_eq_true, decide_eq_true_eq] at sorted
              exact .cons_cons sorted.1 (ih (by simpa [isSorted] using sorted.2))
    have trans : Trans (fun left right => format.timestamp left ≤ format.timestamp right)
        (fun left right => format.timestamp left ≤ format.timestamp right)
        (fun left right => format.timestamp left ≤ format.timestamp right) := ⟨le_trans⟩
    exact List.isChain_iff_pairwise.mp chain
  next =>
    have total : Std.Total fun left right => format.timestamp left ≤ format.timestamp right :=
      ⟨fun left right => le_total (format.timestamp left) (format.timestamp right)⟩
    have trans : IsTrans Message fun left right => format.timestamp left ≤ format.timestamp right :=
      ⟨fun _ _ _ => le_trans⟩
    exact List.pairwise_insertionSort _ _

theorem timestamp_of_shows {loaded shown : Message} (shows_ : format.Shows loaded shown) :
    format.timestamp shown = format.timestamp loaded := by
  rcases shows_ with rfl | read
  · rfl
  · exact format.timestamp_respooled _ _ read

end ReplayFormat

/-! ## The invariant -/

section History

variable {history : List (SessionEvent Message)} {state : ReplayState}

theorem deliveries_became : deliveries (.became state :: history) = deliveries history := by
  simp [deliveries]

theorem deliveries_delivered (loop sequence : Nat) (message : Message) :
    deliveries (.delivered loop sequence message :: history) =
      deliveries history ++ [(sequence, message)] := by
  simp [deliveries]

theorem Settled.become (settled : Settled history state) {next : ReplayState}
    (same : state.Terminal → next = state) : Settled (.became next :: history) next := by
  intro later final earlier eq terminal
  rcases List.cons_eq_append_iff.mp eq with ⟨rfl, eq⟩ | ⟨rest, rfl, below⟩
  · obtain ⟨now, -⟩ := List.cons.inj eq
    exact ⟨(SessionEvent.became.inj now).symm, fun _ mem => absurd mem List.not_mem_nil⟩
  · obtain ⟨rfl, quiet⟩ := settled rest final earlier below terminal
    obtain rfl := same terminal
    exact ⟨rfl, List.forall_mem_cons.mpr ⟨rfl, quiet⟩⟩

theorem Settled.deliver (settled : Settled history state) (open_ : ¬state.Terminal)
    (loop sequence : Nat) (message : Message) :
    Settled (.delivered loop sequence message :: history) state := by
  intro later final earlier eq terminal
  rcases List.cons_eq_append_iff.mp eq with ⟨rfl, eq⟩ | ⟨rest, rfl, below⟩
  · cases (List.cons.inj eq).1
  · obtain ⟨rfl, -⟩ := settled rest final earlier below terminal
    exact absurd terminal open_

end History

variable {format} {loaded : List Message} {session : ReplaySession Message}
variable {stages : Nat → LoopStage Message}

/-- The messages that have been replayed fit the stage of the loop. -/
def LoopStage.Fits (format : ReplayFormat Message) (loaded taken : List Message) :
    LoopStage Message → Prop
  | .unborn | .loading => taken = []
  | .playing rest => taken ++ rest = format.arrange loaded
  | .ended => taken <+: format.arrange loaded

/-- One loop at most plays the session, and its end is the end of the session. -/
structure Sound (format : ReplayFormat Message) (loaded : List Message)
    (session : ReplaySession Message) (stages : Nat → LoopStage Message) : Prop where
  settled : Settled session.history session.state
  flag : session.stopFlag = true ↔ session.state = .stopped
  single : session.started ≤ 1
  unborn : ∀ loop, session.started ≤ loop → stages loop = .unborn
  awake : ∀ loop, session.waits loop = .sleeping →
    loop < session.started ∧ session.stopFlag = false
  ended : session.state = .completed ∨ session.state = .failed → stages 0 = .ended
  numbers : (deliveries session.history).map Prod.fst = List.range' 1 session.sequence
  taken : ∃ taken, List.Forall₂ format.Shows taken ((deliveries session.history).map Prod.snd) ∧
    (stages 0).Fits format loaded taken

namespace Sound

/-- A loop that has begun is the first. -/
theorem eq_zero (sound : Sound format loaded session stages) {loop : Nat}
    (born : stages loop ≠ .unborn) : loop = 0 := by
  by_contra later
  exact born (sound.unborn loop (by have := sound.single; omega))

/-- While messages are left and no stop was asked for, the session has not ended. -/
theorem not_terminal (sound : Sound format loaded session stages) {rest : List Message}
    (playing : stages 0 = .playing rest) (goesOn : session.stopFlag = false) :
    ¬session.state.Terminal := by
  intro terminal
  cases state : session.state with
  | stopped =>
      rw [sound.flag.mpr state] at goesOn
      cases goesOn
  | completed =>
      rw [sound.ended (.inl state)] at playing
      cases playing
  | failed =>
      rw [sound.ended (.inr state)] at playing
      cases playing
  | pending | running | paused =>
      rw [state] at terminal
      exact terminal

theorem wait (sound : Sound format loaded session stages) (loop : Nat) (for_ : LoopWait)
    (may : for_ = .sleeping → loop < session.started ∧ session.stopFlag = false) :
    Sound format loaded (session.wait loop for_) stages := by
  refine ⟨sound.settled, sound.flag, sound.single, sound.unborn, fun other sleeping =>
    ?_, sound.ended, sound.numbers, sound.taken⟩
  by_cases same : other = loop
  · subst same
    exact may (by simpa [ReplaySession.wait] using sleeping)
  · exact sound.awake other (by simpa [ReplaySession.wait, same] using sleeping)

/-- The next message goes to the callback. -/
theorem deliver (sound : Sound format loaded session stages) {message shown : Message}
    {rest : List Message} (playing : stages 0 = .playing (message :: rest))
    (shows_ : format.Shows message shown) (goesOn : session.stopFlag = false) :
    Sound format loaded (session.deliver 0 shown) (Function.update stages 0 (.playing rest)) := by
  have open_ := sound.not_terminal playing goesOn
  refine ⟨sound.settled.deliver open_ _ _ _, sound.flag, sound.single, fun loop unborn => ?_,
    sound.awake, fun ended => ?_, ?_, ?_⟩
  · have apart : loop ≠ 0 := by
      rintro rfl
      rw [sound.unborn 0 unborn] at playing
      cases playing
    rw [Function.update_of_ne apart]
    exact sound.unborn loop unborn
  · rcases ended with state | state <;> exact absurd (by
      rw [show session.state = _ from state]
      trivial) open_
  · dsimp only [ReplaySession.deliver]
    rw [deliveries_delivered, List.map_append, sound.numbers, List.range'_1_concat, Nat.add_comm 1]
    rfl
  · obtain ⟨taken, matched, fits⟩ := sound.taken
    rw [playing] at fits
    refine ⟨taken ++ [message], ?_, ?_⟩
    · dsimp only [ReplaySession.deliver]
      rw [deliveries_delivered, List.map_append]
      exact List.rel_append matched (.cons shows_ .nil)
    · rw [Function.update_self]
      exact (List.append_assoc taken [message] rest).trans fits

/-- The state of a session that has not ended changes, and with it maybe the stage of its loop. -/
theorem become (sound : Sound format loaded session stages) (next : ReplayState)
    (open_ : ¬session.state.Terminal) (unstopped : next ≠ .stopped)
    (gone : next = .completed ∨ next = .failed → stages 0 = .ended) :
    Sound format loaded (session.become next) stages := by
  obtain ⟨settled, flag, single, unborn, awake, -, numbers, taken⟩ := sound
  refine ⟨settled.become fun terminal => absurd terminal open_, ?_, single, unborn,
    awake, gone, ?_, ?_⟩
  · have before : session.state ≠ .stopped := by
      intro state
      rw [state] at open_
      exact open_ trivial
    exact iff_of_false (fun stopped => before (flag.mp stopped)) unstopped
  · exact (congrArg _ deliveries_became).trans numbers
  · rwa [← @deliveries_became _ session.history next] at taken

/-- A loop comes to its end. -/
theorem close (sound : Sound format loaded session stages) (born : (stages 0).Alive) :
    Sound format loaded session (Function.update stages 0 .ended) := by
  refine ⟨sound.settled, sound.flag, sound.single, fun loop unborn => ?_, sound.awake,
    fun _ => Function.update_self _ _ _, sound.numbers, ?_⟩
  · have apart : loop ≠ 0 := by
      rintro rfl
      rw [sound.unborn 0 unborn] at born
      exact born
    rw [Function.update_of_ne apart]
    exact sound.unborn loop unborn
  · obtain ⟨taken, matched, fits⟩ := sound.taken
    refine ⟨taken, matched, ?_⟩
    rw [Function.update_self]
    cases stage : stages 0 with
    | unborn | ended =>
        rw [stage] at born
        exact born.elim
    | loading =>
        rw [stage] at fits
        exact ⟨_, congrArg (· ++ _) fits⟩
    | playing rest =>
        rw [stage] at fits
        exact ⟨rest, fits⟩

theorem done (sound : Sound format loaded session stages) (loop : Nat) :
    Sound format loaded (session.done loop) stages :=
  ⟨sound.settled, sound.flag, sound.single, sound.unborn, sound.awake, sound.ended, sound.numbers,
    sound.taken⟩

theorem finish (sound : Sound format loaded session stages) (alive : (stages 0).Alive)
    (open_ : ¬session.state.Terminal) (next : ReplayState) (unstopped : next ≠ .stopped) :
    Sound format loaded ((session.become next).done 0) (Function.update stages 0 .ended) :=
  ((sound.close alive).become next open_ unstopped fun _ => Function.update_self _ _ _).done 0

/-- A loop that is not paused sends the next message, or waits, or stops. -/
theorem proceed (sound : Sound format loaded session stages) {message shown : Message}
    {rest : List Message} (playing : stages 0 = .playing (message :: rest))
    (shows_ : format.Shows message shown) (gap : Int) :
    Sound format loaded (session.proceed 0 gap shown).2
      (Function.update stages 0 (if (session.proceed 0 gap shown).1 = .sent then .playing rest
        else .playing (message :: rest))) := by
  have same : Function.update stages 0 (.playing (message :: rest)) = stages := by
    rw [← playing, Function.update_eq_self]
  have born : 0 < session.started := by
    by_contra none_
    rw [sound.unborn 0 (Nat.le_of_not_lt none_)] at playing
    cases playing
  unfold ReplaySession.proceed
  by_cases stopped : session.stopFlag = true
  · simpa [stopped, same] using sound.wait 0 .active (by rintro ⟨⟩)
  have goesOn : session.stopFlag = false := Bool.eq_false_iff.mpr stopped
  rw [if_neg stopped]
  by_cases still : session.speed = 0
  · simpa [still, same] using sound.wait 0 .active (by rintro ⟨⟩)
  rw [if_neg still]
  by_cases later : 0 < (gap : ℚ) / session.speed
  · simpa [later, same] using sound.wait 0 .sleeping fun _ => ⟨born, goesOn⟩
  · rw [if_neg later]
    exact (sound.wait 0 .active (by rintro ⟨⟩)).deliver playing shows_ goesOn

theorem begin (sound : Sound format loaded session stages) (unborn : stages 0 = .unborn)
    (born : 0 < session.started) :
    Sound format loaded session (Function.update stages 0 .loading) := by
  refine ⟨sound.settled, sound.flag, sound.single, fun loop later => ?_, sound.awake,
    fun ended => ?_, sound.numbers, ?_⟩
  · rw [Function.update_of_ne (by omega)]
    exact sound.unborn loop later
  · rw [sound.ended ended] at unborn
    cases unborn
  · obtain ⟨taken, matched, fits⟩ := sound.taken
    rw [unborn] at fits
    exact ⟨taken, matched, by rwa [Function.update_self]⟩

theorem load (sound : Sound format loaded session stages) (loading : stages 0 = .loading) :
    Sound format loaded session (Function.update stages 0 (.playing (format.arrange loaded))) := by
  refine ⟨sound.settled, sound.flag, sound.single, fun loop later => ?_, sound.awake,
    fun ended => ?_, sound.numbers, ?_⟩
  · have apart : loop ≠ 0 := by
      rintro rfl
      rw [sound.unborn 0 later] at loading
      cases loading
    rw [Function.update_of_ne apart]
    exact sound.unborn loop later
  · rw [sound.ended ended] at loading
    cases loading
  · obtain ⟨taken, matched, fits⟩ := sound.taken
    rw [loading] at fits
    refine ⟨taken, matched, ?_⟩
    rw [Function.update_self, fits]
    exact List.nil_append _

/-- A command of a loop. -/
theorem act {world after : ManagedSession Message} {loop : Nat} {command : LoopCommand Message}
    {outcome : command.Outcome} {reply : command.Reply}
    (sound : Sound format loaded world.session stages)
    (promised : (loopTerms format).guarantee command (stages loop))
    (allowed : (leftAlone format loaded).allows loop command outcome world)
    (performed : (replaying format).perform loop command outcome world = some (reply, after)) :
    (loopTerms format).rely command (stages loop) reply ∧
      Sound format loaded after.session
        (Function.update stages loop (LoopStage.next format (stages loop) command reply)) := by
  obtain ⟨⟨reply', session⟩, acted, eq⟩ := Option.map_eq_some_iff.mp performed
  obtain ⟨rfl, rfl⟩ := Prod.mk.inj eq
  have still : ∀ {session : ReplaySession Message}, Sound format loaded session stages →
      LoopStage.next format (stages loop) command reply' = stages loop →
      Sound format loaded session
        (Function.update stages loop (LoopStage.next format (stages loop) command reply')) :=
    fun sound same => by rwa [same, Function.update_eq_self]
  cases command with
  | begin =>
      dsimp only [ReplaySession.act] at acted
      split at acted
      next born =>
        obtain ⟨rfl, rfl⟩ := Prod.mk.inj (Option.some.inj acted)
        obtain rfl : loop = 0 := by have := sound.single; omega
        exact ⟨trivial, sound.begin promised born⟩
      next => cases acted
  | load =>
      obtain rfl := sound.eq_zero (by rw [promised]; rintro ⟨⟩)
      cases outcome with
      | none =>
          obtain ⟨rfl, rfl⟩ := Prod.mk.inj (Option.some.inj acted)
          exact ⟨trivial, still sound (by rw [promised]; rfl)⟩
      | some messages =>
          obtain ⟨rfl, rfl⟩ := Prod.mk.inj (Option.some.inj acted)
          obtain rfl := Option.some.inj (allowed (by rintro ⟨⟩))
          exact ⟨trivial, sound.load promised⟩
  | spool | callback =>
      obtain ⟨-, rfl⟩ := Prod.mk.inj (Option.some.inj acted)
      exact ⟨trivial, still sound (by cases stages loop <;> rfl)⟩
  | readLine message =>
      obtain ⟨answer, rfl⟩ := Prod.mk.inj (Option.some.inj acted)
      refine ⟨fun read ok => ?_, still sound (by cases stages loop <;> rfl)⟩
      rw [← answer] at ok
      split at ok
      · cases ok
      next shown eq =>
        obtain rfl := Except.ok.inj ok
        split at eq
        · cases eq
        · exact eq
  | checkPause gap shown =>
      obtain ⟨message, rest, playing, shows_⟩ := promised
      obtain rfl := sound.eq_zero (by rw [playing]; rintro ⟨⟩)
      dsimp only [ReplaySession.act] at acted
      split at acted
      · obtain ⟨rfl, rfl⟩ := Prod.mk.inj (Option.some.inj acted)
        exact ⟨trivial, still (sound.wait 0 .paused (by rintro ⟨⟩)) (by rw [playing]; rfl)⟩
      · obtain ⟨rfl, rfl⟩ := Prod.mk.inj (Option.some.inj acted)
        refine ⟨trivial, ?_⟩
        have went := sound.proceed playing shows_ gap
        rw [playing]
        cases progress : (world.session.proceed 0 gap shown).1 <;> rw [progress] at went <;>
          exact went
  | afterPause gap shown =>
      obtain ⟨message, rest, playing, shows_⟩ := promised
      obtain rfl := sound.eq_zero (by rw [playing]; rintro ⟨⟩)
      dsimp only [ReplaySession.act] at acted
      split at acted
      · have went := sound.proceed playing shows_ gap
        rw [Option.some.inj acted] at went
        refine ⟨trivial, ?_⟩
        rw [playing]
        cases reply' <;> exact went
      · cases acted
  | wakeUp shown =>
      obtain ⟨message, rest, playing, shows_⟩ := promised
      obtain rfl := sound.eq_zero (by rw [playing]; rintro ⟨⟩)
      dsimp only [ReplaySession.act] at acted
      split at acted
      next asleep =>
        obtain ⟨rfl, rfl⟩ := Prod.mk.inj (Option.some.inj acted)
        refine ⟨trivial, ?_⟩
        rw [playing]
        exact (sound.wait 0 .active (by rintro ⟨⟩)).deliver playing shows_ (sound.awake 0 asleep).2
      next => cases acted
  | complete =>
      obtain rfl := sound.eq_zero fun stage => by
        rw [stage] at promised
        exact promised
      obtain ⟨rfl, rfl⟩ := Prod.mk.inj (Option.some.inj acted)
      refine ⟨trivial, ?_⟩
      have gone : LoopStage.next format (stages 0) .complete () = .ended := by
        cases stages 0 <;> rfl
      rw [gone]
      exact sound.finish promised allowed .completed (by rintro ⟨⟩)
  | fail =>
      obtain rfl := sound.eq_zero fun stage => by
        rw [stage] at promised
        exact promised
      obtain ⟨rfl, rfl⟩ := Prod.mk.inj (Option.some.inj acted)
      refine ⟨trivial, ?_⟩
      have gone : LoopStage.next format (stages 0) .fail () = .ended := by cases stages 0 <;> rfl
      rw [gone]
      exact sound.finish promised allowed .failed (by rintro ⟨⟩)
  | completeIfRunning =>
      obtain rfl := sound.eq_zero fun stage => by
        rw [stage] at promised
        exact promised
      obtain ⟨rfl, rfl⟩ := Prod.mk.inj (Option.some.inj acted)
      refine ⟨trivial, ?_⟩
      have gone : LoopStage.next format (stages 0) .completeIfRunning () = .ended := by
        cases stages 0 <;> rfl
      rw [gone]
      dsimp only
      split
      next running =>
        refine sound.finish promised ?_ .completed (by rintro ⟨⟩)
        rw [running]
        exact id
      next => exact (sound.close promised).done 0

/-- Waits in which no loop sleeps and the stop flag stays as it is. -/
theorem setPauseEvent (sound : Sound format loaded session stages) :
    Sound format loaded session.setPauseEvent stages := by
  refine ⟨sound.settled, sound.flag, sound.single, sound.unborn, fun loop sleeping =>
    ?_, sound.ended, sound.numbers, sound.taken⟩
  refine sound.awake loop ?_
  dsimp only [ReplaySession.setPauseEvent] at sleeping
  split at sleeping
  · cases sleeping
  · exact sleeping

theorem stop (sound : Sound format loaded session stages) (stoppable : session.Stoppable) :
    Sound format loaded session.stop stages := by
  obtain ⟨incomplete, unfailed, awake⟩ := stoppable
  refine ⟨sound.settled.become fun terminal => ?_, iff_of_true rfl rfl, sound.single, sound.unborn,
    fun loop sleeping => ?_, fun ended => ended.elim (by rintro ⟨⟩) (by rintro ⟨⟩), ?_, ?_⟩
  · cases state : session.state with
    | stopped => rfl
    | completed => exact absurd state incomplete
    | failed => exact absurd state unfailed
    | pending | running | paused =>
        have open_ : session.state.Terminal := terminal
        rw [state] at open_
        exact open_.elim
  · have before : session.waits loop = .sleeping := by
      cases wait : session.waits loop with
      | sleeping => rfl
      | _ =>
          simp [ReplaySession.stop, ReplaySession.setPauseEvent, ReplaySession.become, wait]
            at sleeping
    exact absurd before (awake loop (sound.awake loop before).1)
  · exact (congrArg _ deliveries_became).trans sound.numbers
  · have taken := sound.taken
    rwa [← @deliveries_became _ session.history .stopped] at taken

/-- A call of a handler. -/
theorem disturb {world : ManagedSession Message} {move : SessionMove}
    (sound : Sound format loaded world.session stages)
    (permitted : (leftAlone format loaded).permits move world) :
    Sound format loaded (world.disturb move).session stages := by
  cases move with
  | start =>
      dsimp only [ManagedSession.disturb]
      split
      next may =>
        have unstarted : world.session.started = 0 := permitted may
        have open_ : ¬world.session.state.Terminal := by
          rcases may.2 with state | state <;> rw [state] <;> exact id
        have running := sound.become .running open_ (by rintro ⟨⟩)
          fun ended => ended.elim (by rintro ⟨⟩) (by rintro ⟨⟩)
        refine ⟨running.settled, running.flag, ?_, fun loop later => ?_, fun loop sleeping => ?_,
          running.ended, running.numbers, running.taken⟩
        · dsimp only [ReplaySession.start]
          omega
        · refine sound.unborn loop ?_
          dsimp only [ReplaySession.start] at later
          omega
        · obtain ⟨born, goesOn⟩ := sound.awake loop sleeping
          exact ⟨Nat.lt_succ_of_lt born, goesOn⟩
      next => exact sound
  | pause =>
      have paused : Sound format loaded { world.session with paused := true } stages :=
        ⟨sound.settled, sound.flag, sound.single, sound.unborn, sound.awake, sound.ended,
          sound.numbers, sound.taken⟩
      exact paused.become .paused permitted (by rintro ⟨⟩) fun ended =>
        ended.elim (by rintro ⟨⟩) (by rintro ⟨⟩)
  | resume speed =>
      have resumed (speed : ℚ) : Sound format loaded { world.session with speed := speed } stages :=
        ⟨sound.settled, sound.flag, sound.single, sound.unborn, sound.awake, sound.ended,
          sound.numbers, sound.taken⟩
      exact (resumed _).setPauseEvent.become .running permitted (by rintro ⟨⟩)
        fun ended => ended.elim (by rintro ⟨⟩) (by rintro ⟨⟩)
  | stop => exact sound.stop permitted
  | delete =>
      dsimp only [ManagedSession.disturb]
      split
      next there => exact sound.stop (permitted there)
      next => exact sound

/-- What the invariant says of the deliveries. -/
theorem deliversOnce (sound : Sound format loaded session stages) :
    DeliversOnce format loaded session := by
  obtain ⟨taken, matched, fits⟩ := sound.taken
  have count : (deliveries session.history).length = session.sequence := by
    have lengths := congrArg List.length sound.numbers
    rwa [List.length_map, List.length_range'] at lengths
  have front : taken <+: format.arrange loaded := by
    cases stage : stages 0 <;> rw [stage] at fits
    · exact fits ▸ List.nil_prefix
    · exact fits ▸ List.nil_prefix
    · exact ⟨_, fits⟩
    · exact fits
  refine ⟨count ▸ sound.numbers, ?_, ⟨taken, ?_, matched⟩, sound.settled⟩
  · have sorted := (format.arrange_pairwise loaded).sublist front.sublist
    have same : taken.map format.timestamp =
        ((deliveries session.history).map Prod.snd).map format.timestamp := by
      refine List.forall₂_eq_eq_eq ▸ ?_
      rw [List.forall₂_map_left_iff, List.forall₂_map_right_iff]
      exact matched.imp fun _ _ shows_ => (ReplayFormat.timestamp_of_shows shows_).symm
    have stamps := List.pairwise_map.mpr sorted
    rw [same] at stamps
    exact List.pairwise_map.mp stamps
  · exact front.sublist.subperm.trans (format.arrange_perm loaded).subperm

end Sound

/-- A session delivers its data once, in every run in which it is started once, left alone after its
end, and not stopped in a delay. -/
theorem replay_delivers_once {speed : ℚ}
    {final : Machine.Config Nat (@LoopCommand.Reply Message) Unit Unit
      (ManagedSession Message)}
    (reach : Machine.Reaches (leftAlone format loaded)
      ⟨⟨.new speed, true⟩, fun _ => format.runReplay⟩ final) :
    DeliversOnce format loaded final.world.session := by
  have start : Sound format loaded (.new speed) fun _ => .unborn := by
    refine ⟨?_, iff_of_false (by rintro ⟨⟩) (by rintro ⟨⟩), Nat.zero_le 1, fun _ _ => rfl,
      (by rintro _ ⟨⟩), fun ended => ended.elim (by rintro ⟨⟩) (by rintro ⟨⟩), rfl,
      ⟨[], .nil, rfl⟩⟩
    intro later final earlier eq
    exact absurd eq.symm (List.append_ne_nil_of_right_ne_nil _ (List.cons_ne_nil _ _))
  let Kept (world : ManagedSession Message) (stages : Nat → LoopStage Message) : Prop :=
    Sound format loaded world.session stages
  have calm : ∀ world stages move, Kept world stages →
      (leftAlone format loaded).permits move world → Kept (world.disturb move) stages :=
    fun world stages move sound permitted => Sound.disturb sound permitted
  obtain ⟨stages, sound, -⟩ := reach.invariant (K := fun _ => format.contract)
    (fun world stages loop command outcome reply after sound promised allowed performed => by
      obtain ⟨relied, kept⟩ := Sound.act sound promised allowed performed
      exact ⟨_, ⟨rfl, relied⟩, kept⟩)
    calm start (fun _ => ReplayFormat.runReplay_meets)
  exact Sound.deliversOnce sound

/-! ## Schedules -/

instance (session : ReplaySession Message) : Decidable session.Stoppable :=
  inferInstanceAs (Decidable (session.state ≠ .completed ∧ session.state ≠ .failed ∧
    ∀ loop < session.started, session.waits loop ≠ .sleeping))

section Decisions

variable [DecidableEq Message] (format) (loaded : List Message)

instance : (loading format loaded).Decides :=
  ⟨fun _ command outcome _ =>
    match command, outcome with
    | .load, (outcome : Option (List Message)) =>
        inferInstanceAs (Decidable (outcome ≠ none → outcome = some loaded))
    | .begin, _ | .spool, _ | .readLine _, _ | .checkPause _ _, _ | .afterPause _ _, _
    | .wakeUp _, _ | .callback, _ | .complete, _ | .completeIfRunning, _ | .fail, _ =>
        inferInstanceAs (Decidable True),
  fun _ _ => inferInstanceAs (Decidable True)⟩

instance : (leftAlone format loaded).Decides :=
  ⟨fun _ command outcome world =>
    match command, outcome with
    | .load, (outcome : Option (List Message)) =>
        inferInstanceAs (Decidable (outcome ≠ none → outcome = some loaded))
    | .complete, _ | .fail, _ => inferInstanceAs (Decidable (¬world.session.state.Terminal))
    | .begin, _ | .spool, _ | .readLine _, _ | .checkPause _ _, _ | .afterPause _ _, _
    | .wakeUp _, _ | .callback, _ | .completeIfRunning, _ => inferInstanceAs (Decidable True),
  fun (move : SessionMove) world =>
    match move with
    | .start => inferInstanceAs
        (Decidable (world.registered ∧ world.session.Startable → world.session.started = 0))
    | .pause | .resume _ => inferInstanceAs (Decidable (¬world.session.state.Terminal))
    | .stop => inferInstanceAs (Decidable world.session.Stoppable)
    | .delete => inferInstanceAs (Decidable (world.registered = true → world.session.Stoppable))⟩

end Decisions

/-- Messages that are numbers, all of one time, and not spooled. -/
def atOnce : ReplayFormat Nat := ⟨fun _ => 0, some, by rintro _ _ ⟨⟩; rfl, false, 1⟩

/-- A loop takes some of its steps, and nothing raises. -/
def loopTurns (loop count : Nat) (loaded : List Nat) : List (Machine.Turn (replaying atOnce)) :=
  List.replicate count (.run loop fun command => match command with
    | .load => some loaded
    | .spool | .readLine _ | .callback => false
    | .begin | .checkPause _ _ | .afterPause _ _ | .wakeUp _ | .complete | .completeIfRunning
    | .fail => ())

/-- A session is paused while its first message is sent, and started again. -/
def startedTwice : List (Machine.Turn (replaying atOnce)) :=
  [.disturb .start] ++ loopTurns 0 3 [7, 8] ++ [.disturb .pause, .disturb .start] ++
    loopTurns 1 3 [7, 8] ++ [.disturb (.resume none)] ++ loopTurns 1 1 [7, 8]

/-- A session is started and left alone. -/
def startedOnce : List (Machine.Turn (replaying atOnce)) :=
  [.disturb .start] ++ loopTurns 0 7 [7, 8]

/-- A paused session that is started again gets a second loop, which delivers
the first message again. -/
theorem paused_session_replays_twice :
    ∃ final, Machine.Reaches (loading atOnce [7, 8])
        ⟨⟨.new 1, true⟩, fun _ => atOnce.runReplay⟩ final ∧
      ¬DeliversOnce atOnce [7, 8] final.world.session := by
  have played : (Machine.Config.play (loading atOnce [7, 8]) startedTwice
        ⟨⟨.new 1, true⟩, fun _ => atOnce.runReplay⟩).map (fun final =>
      (deliveries final.world.session.history).map Prod.snd) = some [7, 7] := by decide +kernel
  obtain ⟨final, ran, delivered⟩ := Option.map_eq_some_iff.mp played
  refine ⟨final, Machine.Config.play_reaches ran, fun delivers => ?_⟩
  obtain ⟨taken, subperm, matched⟩ := delivers.once
  rw [delivered] at matched
  have same : List.Forall₂ Eq taken [7, 7] := matched.imp fun loaded shown shows_ =>
    shows_.elim Eq.symm Option.some.inj
  obtain rfl := List.forall₂_eq_eq_eq ▸ same
  exact absurd (subperm.count_le 7) (by decide)

/-- A session that is left alone delivers what was loaded and is completed. -/
theorem session_left_alone_completes :
    ∃ final, Machine.Config.play (leftAlone atOnce [7, 8]) startedOnce
        ⟨⟨.new 1, true⟩, fun _ => atOnce.runReplay⟩ = some final ∧
      deliveries final.world.session.history = [(1, 7), (2, 8)] ∧
      final.world.session.state = .completed ∧
      DeliversOnce atOnce [7, 8] final.world.session := by
  have played : (Machine.Config.play (leftAlone atOnce [7, 8]) startedOnce
        ⟨⟨.new 1, true⟩, fun _ => atOnce.runReplay⟩).map (fun final =>
      (deliveries final.world.session.history, final.world.session.state)) =
        some ([(1, 7), (2, 8)], .completed) := by decide +kernel
  obtain ⟨final, ran, eq⟩ := Option.map_eq_some_iff.mp played
  obtain ⟨delivered, ended⟩ := Prod.mk.inj eq
  exact ⟨final, ran, delivered, ended, replay_delivers_once (Machine.Config.play_reaches ran)⟩

end Historical
end DataGateway
