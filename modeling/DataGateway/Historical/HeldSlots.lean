import DataGateway.Historical.DeliversOnce
import DataGateway.Historical.Slots

/-!
# A running replay holds a slot

With a limit configured, every session whose loop runs holds a slot and a deleted session holds
none, as long as no loop is started in a session without a slot or with a loop, and no socket and no
deletion gives a slot back while a loop of the session runs.
-/

namespace DataGateway
namespace Historical

variable {Message : Type}

/-- Sessions with a running loop hold a slot, no more loops run than the limit says, and sessions
that were deleted hold no slot. -/
structure SlotsHeld (limit : Nat) (world : SlotWorld Message) : Prop where
  held : ∀ session, world.Running session → session ∈ world.slots
  bounded : ∀ loops : Finset (Nat × Nat), (∀ loop ∈ loops, world.Runs loop.1 loop.2) →
    loops.card ≤ limit
  freed : ∀ session, ¬world.Registered session → session ∉ world.slots

/-- A loop is started in a session with a slot and without a loop, and slots are given back
when no loop runs. -/
def slotsKept (format : ReplayFormat Message) (maxConcurrent : Option Nat) :
    (slotted format maxConcurrent).Policy where
  allows
    | _, .startSession session, _, world => world.Registered session →
        (∃ entry ∈ world.sessions[session]?, entry.session.Startable) →
        session ∈ world.slots ∧ ¬world.Running session
    | _, .release session, _, world => ¬world.Running session
    | _, _, _, _ => True
  permits
    | .delete session, world => world.Registered session → ¬world.Running session
    | _, _ => True

/-! ## What changes in a session -/

namespace ReplaySession

variable {format : ReplayFormat Message} {session after : ReplaySession Message}

/-- A command of a loop starts no loop. -/
theorem running_of_act {loop : Nat} {command : LoopCommand Message} {outcome : command.Outcome}
    {reply : command.Reply}
    (performed : session.act format loop command outcome = some (reply, after)) :
    ∀ other ∈ after.running, other ∈ session.running := by
  have proceeds (gap : Int) (message : Message) :
      (session.proceed loop gap message).2.running = session.running := by
    unfold proceed
    split_ifs <;> rfl
  have ended (changed : ReplaySession Message) (same : changed.running = session.running) :
      ∀ other ∈ (changed.done loop).running, other ∈ session.running :=
    fun other mem => same ▸ (List.mem_filter.mp mem).1
  have kept : after = session → ∀ other ∈ after.running, other ∈ session.running := by
    rintro rfl other mem
    exact mem
  cases command with
  | begin =>
      dsimp only [act] at performed
      split at performed
      · exact kept (Prod.mk.inj (Option.some.inj performed)).2.symm
      · cases performed
  | load => cases outcome <;> exact kept (Prod.mk.inj (Option.some.inj performed)).2.symm
  | spool | readLine message | callback =>
      exact kept (Prod.mk.inj (Option.some.inj performed)).2.symm
  | checkPause gap message =>
      dsimp only [act] at performed
      split at performed
      · obtain ⟨-, rfl⟩ := Prod.mk.inj (Option.some.inj performed)
        exact fun _ mem => mem
      · obtain ⟨-, rfl⟩ := Prod.mk.inj (Option.some.inj performed)
        exact fun other mem => proceeds gap message ▸ mem
  | afterPause gap message =>
      dsimp only [act] at performed
      split at performed
      · have same := congrArg Prod.snd (Option.some.inj performed)
        exact fun other mem => proceeds gap message ▸ same ▸ mem
      · cases performed
  | wakeUp message =>
      dsimp only [act] at performed
      split at performed
      · obtain ⟨-, rfl⟩ := Prod.mk.inj (Option.some.inj performed)
        exact fun _ mem => mem
      · cases performed
  | complete | fail =>
      obtain ⟨-, rfl⟩ := Prod.mk.inj (Option.some.inj performed)
      exact ended _ rfl
  | completeIfRunning =>
      obtain ⟨-, rfl⟩ := Prod.mk.inj (Option.some.inj performed)
      exact ended _ (by split <;> rfl)

end ReplaySession

/-! ## The invariant -/

/-- Slots belong to sessions that are there, and running loops to slots. -/
structure Kept (limit : Nat) (world : SlotWorld Message) : Prop where
  registered : ∀ session ∈ world.slots, world.Registered session
  bounded : world.slots.card ≤ limit
  held : ∀ session, world.Running session → session ∈ world.slots
  single : ∀ session loop other, world.Runs session loop → world.Runs session other → loop = other

namespace Kept

variable {limit : Nat} {world after : SlotWorld Message}

/-- Fewer loops, and the same sessions. -/
theorem fewer (kept : Kept limit world)
    (runs : ∀ session loop, after.Runs session loop → world.Runs session loop)
    (there : ∀ session, world.Registered session → after.Registered session)
    (slots : after.slots = world.slots) : Kept limit after := by
  refine ⟨fun session mem => there session (kept.registered session (slots ▸ mem)),
    slots ▸ kept.bounded, fun session running => ?_, fun session loop other first second =>
      kept.single session loop other (runs session loop first) (runs session other second)⟩
  obtain ⟨loop, running⟩ := running
  exact slots ▸ kept.held session ⟨loop, runs session loop running⟩

/-- A slot is given back by a session without a loop. -/
theorem release (kept : Kept limit world) {session : Nat} (idle : ¬world.Running session) :
    Kept limit (world.release session) := by
  refine ⟨fun other mem => kept.registered other (Finset.mem_of_mem_erase mem),
    (Finset.card_erase_le).trans kept.bounded, fun other running => ?_, kept.single⟩
  refine Finset.mem_erase.mpr ⟨?_, kept.held other running⟩
  rintro rfl
  exact idle running

/-- What the invariant says of running loops. -/
theorem slotsHeld (kept : Kept limit world) : SlotsHeld limit world := by
  refine ⟨kept.held, fun loops running => ?_, fun session gone mem =>
    gone (kept.registered session mem)⟩
  refine (Finset.card_le_card_of_injOn Prod.fst (fun loop mem => ?_) ?_).trans kept.bounded
  · exact kept.held loop.1 ⟨loop.2, running loop mem⟩
  · intro loop mem other otherMem same
    refine Prod.ext same (kept.single loop.1 loop.2 other.2 (running loop mem) ?_)
    rw [show loop.1 = other.1 from same]
    exact running other otherMem

section Modified

variable {session : Nat} {change : ManagedSession Message → ManagedSession Message}

/-- The loops that run once a session has changed. -/
theorem runs_modify {id loop : Nat} (runs : (world.modify session change).Runs id loop) :
    if session = id then ∃ entry ∈ world.sessions[id]?, loop ∈ (change entry).session.running
    else world.Runs id loop := by
  obtain ⟨entry, there, running⟩ := runs
  simp only [SlotWorld.modify, List.getElem?_modify] at there
  obtain ⟨before, found, rfl⟩ := Option.map_eq_some_iff.mp there
  split
  next same =>
    rw [if_pos same] at running
    exact ⟨before, found, running⟩
  next other =>
    rw [if_neg other] at running
    exact ⟨before, found, running⟩

theorem registered_modify {id : Nat} (there : world.Registered id)
    (stays : session = id → ∀ entry : ManagedSession Message, entry.registered = true →
      (change entry).registered = true) : (world.modify session change).Registered id := by
  obtain ⟨entry, found, registered⟩ := there
  refine ⟨if session = id then change entry else entry, ?_, ?_⟩
  · simp only [SlotWorld.modify, List.getElem?_modify]
    rw [show world.sessions[id]? = some entry from found]
    rfl
  · split
    next same => exact stays same entry registered
    next => exact registered

/-- A session changes, and no loop is started in it. -/
theorem modify (kept : Kept limit world)
    (fewer_ : ∀ entry ∈ world.sessions[session]?, ∀ loop ∈ (change entry).session.running,
      loop ∈ entry.session.running)
    (stays : ∀ entry : ManagedSession Message, entry.registered = true →
      (change entry).registered = true) : Kept limit (world.modify session change) := by
  refine kept.fewer (fun id loop runs => ?_)
    (fun id there => registered_modify there fun _ => stays) rfl
  have before := runs_modify runs
  split at before
  next same =>
    subst same
    obtain ⟨entry, found, running⟩ := before
    exact ⟨entry, found, fewer_ entry found loop running⟩
  next => exact before

end Modified

/-- A loop is started in a session with a slot and no loop. -/
theorem start (kept : Kept limit world) {session : Nat} (slot : session ∈ world.slots)
    (idle : ¬world.Running session) :
    Kept limit (world.modify session (ManagedSession.disturb · .start)) := by
  -- what runs in the session is the one new loop
  have started : ∀ entry ∈ world.sessions[session]?,
      ∀ loop ∈ (entry.disturb .start).session.running, loop = entry.session.started := by
    intro entry found loop running
    have before : ∀ loop, loop ∉ entry.session.running :=
      fun loop mem => idle ⟨loop, entry, found, mem⟩
    dsimp only [ManagedSession.disturb] at running
    split at running
    · exact (List.mem_cons.mp running).resolve_right (before loop)
    · exact absurd running (before loop)
  refine ⟨fun id mem => registered_modify (kept.registered id mem) ?_, kept.bounded, ?_, ?_⟩
  · rintro - entry registered
    dsimp only [ManagedSession.disturb]
    split <;> exact registered
  · rintro id ⟨loop, running⟩
    have before := runs_modify running
    split at before
    next same => exact same ▸ slot
    next => exact kept.held id ⟨loop, before⟩
  · intro id loop other first second
    have one := runs_modify first
    have two := runs_modify second
    split at one
    next same =>
      subst same
      rw [if_pos rfl] at two
      obtain ⟨entry, found, running⟩ := one
      obtain ⟨entry', found', running'⟩ := two
      obtain rfl := Option.some.inj (found.symm.trans found')
      exact (started entry found loop running).trans (started entry found other running').symm
    next apart =>
      rw [if_neg apart] at two
      exact kept.single id loop other one two

/-- A session without a running loop is deleted. -/
theorem delete (kept : Kept limit world) {session : Nat} (idle : ¬world.Running session) :
    Kept limit ((world.modify session (ManagedSession.disturb · .delete)).release session) := by
  have runs : ∀ id loop, (world.modify session (ManagedSession.disturb · .delete)).Runs id loop →
      world.Runs id loop := by
    intro id loop running
    have before := runs_modify running
    split at before
    next same =>
      subst same
      obtain ⟨entry, found, running⟩ := before
      refine ⟨entry, found, ?_⟩
      dsimp only [ManagedSession.disturb] at running
      split at running <;> exact running
    next => exact before
  refine ⟨fun id mem => ?_, Finset.card_erase_le.trans kept.bounded, fun id running => ?_, ?_⟩
  · obtain ⟨apart, before⟩ := Finset.mem_erase.mp mem
    exact registered_modify (kept.registered id before) fun same => absurd same.symm apart
  · obtain ⟨loop, running⟩ := running
    have before := runs id loop running
    refine Finset.mem_erase.mpr ⟨?_, kept.held id ⟨loop, before⟩⟩
    rintro rfl
    exact idle ⟨loop, before⟩
  · exact fun id loop other first second =>
      kept.single id loop other (runs id loop first) (runs id other second)

/-- A new session runs no loop. -/
theorem append (kept : Kept limit world) {entry : ManagedSession Message}
    (idle : entry.session.running = []) :
    Kept limit { world with sessions := world.sessions ++ [entry] } := by
  refine kept.fewer (fun id loop runs => ?_) (fun id there => ?_) rfl
  · obtain ⟨other, found, running⟩ := runs
    by_cases old : id < world.sessions.length
    · exact ⟨other, (List.getElem?_append_left old).symm.trans found, running⟩
    · have new : [entry][id - world.sessions.length]? = some other :=
        (List.getElem?_append_right (Nat.le_of_not_lt old)).symm.trans found
      obtain rfl := List.mem_singleton.mp (List.mem_of_getElem? new)
      rw [idle] at running
      exact absurd running List.not_mem_nil
  · obtain ⟨other, found, registered⟩ := there
    exact ⟨other, (List.getElem?_append_left (List.getElem?_eq_some_iff.mp found).1).trans found,
      registered⟩

/-- A session is created with a slot, or without one and deleted. -/
theorem create (kept : Kept limit world) (speed : ℚ) :
    Kept limit (world.create (some limit) speed) := by
  unfold SlotWorld.create
  split
  · exact kept
  have larger (entry : ManagedSession Message) (idle : entry.session.running = []) :=
    kept.append idle
  by_cases mem : world.sessions.length ∈ world.slots
  · simpa only [acquireConcurrent, if_pos mem] using larger ⟨.new speed, true⟩ rfl
  by_cases full : limit ≤ world.slots.card
  · simpa only [acquireConcurrent, if_neg mem, if_pos full] using
      larger ⟨(ReplaySession.new speed).stop, false⟩ rfl
  · simp only [acquireConcurrent, if_neg mem, if_neg full]
    have there := larger ⟨.new speed, true⟩ rfl
    refine ⟨fun id member => ?_, ?_,
      fun id running => Finset.mem_insert_of_mem (there.held id running), there.single⟩
    · rcases Finset.mem_insert.mp member with rfl | before
      · exact ⟨⟨.new speed, true⟩, by simp, rfl⟩
      · exact there.registered id before
    · rw [Finset.card_insert_of_notMem mem]
      omega

/-- A move of the surroundings. -/
theorem disturb {format : ReplayFormat Message} (kept : Kept limit world) {move : SlotMove}
    (permitted : (slotsKept format (some limit)).permits move world) :
    Kept limit (world.disturb (some limit) move) := by
  cases move with
  | create speed => exact kept.create speed
  | control session action =>
      cases action with
      | pause | resume speed | stop =>
          exact kept.modify (fun _ _ _ mem => mem) fun _ registered => registered
      | start | delete => exact kept
  | delete session =>
      dsimp only [SlotWorld.disturb]
      split
      next entry found => exact kept.delete (permitted ⟨_, found, rfl⟩)
      next => exact kept

/-- A command of a loop or a socket. -/
theorem act {format : ReplayFormat Message} (kept : Kept limit world) {task : SlotTask}
    {command : HistoricalCommand Message} {outcome : command.Outcome} {reply : command.Reply}
    (allowed : (slotsKept format (some limit)).allows task command outcome world)
    (performed : world.act format task command outcome = some (reply, after)) :
    Kept limit after := by
  have unchanged : after = world → Kept limit after := by
    rintro rfl
    exact kept
  cases command with
  | loop session command =>
      dsimp only [SlotWorld.act] at performed
      split at performed
      next loop entry found =>
        obtain ⟨⟨answer, session'⟩, acted, eq⟩ := Option.map_eq_some_iff.mp performed
        obtain ⟨-, rfl⟩ := Prod.mk.inj eq
        refine kept.modify (fun entry' found' other running => ?_) fun _ registered => registered
        obtain rfl := Option.some.inj (found.symm.trans found')
        exact ReplaySession.running_of_act acted other running
      next => cases performed
  | find session | accept | say | awaitControl =>
      exact unchanged (Prod.mk.inj (Option.some.inj performed)).2.symm
  | startSession session =>
      dsimp only [SlotWorld.act] at performed
      split at performed
      next entry found =>
        split at performed
        next may =>
          obtain ⟨-, rfl⟩ := Prod.mk.inj (Option.some.inj performed)
          obtain ⟨slot, idle⟩ := allowed ⟨entry, found, may.1⟩ ⟨entry, found, may.2⟩
          exact kept.start slot idle
        next => exact unchanged (Prod.mk.inj (Option.some.inj performed)).2.symm
      next => exact unchanged (Prod.mk.inj (Option.some.inj performed)).2.symm
  | waitDone session loop =>
      dsimp only [SlotWorld.act] at performed
      split at performed
      · exact unchanged (Prod.mk.inj (Option.some.inj performed)).2.symm
      · exact unchanged (Prod.mk.inj (Option.some.inj performed)).2.symm
      · split at performed
        · cases performed
        · exact unchanged (Prod.mk.inj (Option.some.inj performed)).2.symm
  | stopSession session =>
      obtain ⟨-, rfl⟩ := Prod.mk.inj (Option.some.inj performed)
      exact kept.modify (fun _ _ _ mem => mem) fun _ registered => registered
  | release session =>
      obtain ⟨-, rfl⟩ := Prod.mk.inj (Option.some.inj performed)
      exact kept.release allowed

end Kept

/-- In every run of sessions, loops and sockets in which no loop is started without a slot or next
to another loop, and no slot is given back while a loop runs, running loops hold slots. -/
theorem running_replays_hold_slots {format : ReplayFormat Message} {limit : Nat}
    {target : Nat → Nat}
    {final : Machine.Config SlotTask (@HistoricalCommand.Reply Message) SocketError Unit
      (SlotWorld Message)}
    (reach : Machine.Reaches (slotsKept format (some limit))
      ⟨⟨[], ∅⟩, SlotProgram.tasks format target⟩ final) :
    SlotsHeld limit final.world := by
  have start : Kept limit (⟨[], ∅⟩ : SlotWorld Message) := by
    refine ⟨fun _ mem => absurd mem (Finset.notMem_empty _), Nat.zero_le _, ?_, ?_⟩
    · rintro session ⟨loop, entry, ⟨⟩, -⟩
    · rintro session loop other ⟨entry, ⟨⟩, -⟩
  have anything : ∀ body : SlotProgram Message Unit, body.Uses fun _ => True := by
    intro body
    induction body with
    | finish outcome => trivial
    | suspend command resume ih => exact ⟨trivial, ih⟩
  have calm : ∀ world move, Kept limit world →
      (slotsKept format (some limit)).permits move world →
      Kept limit ((slotted format (some limit)).disturb move world) :=
    fun world move kept permitted => Kept.disturb kept permitted
  have kept := reach.world
    (fun world task command outcome reply after kept _ allowed performed =>
      Kept.act kept allowed performed)
    calm start fun task => anything (SlotProgram.tasks format target task)
  exact Kept.slotsHeld kept

/-! ## Schedules -/

instance (world : SlotWorld Message) (session : Nat) : Decidable (world.Running session) :=
  decidable_of_iff (world.sessions[session]?.any (!·.session.running.isEmpty) = true) <| by
    unfold SlotWorld.Running SlotWorld.Runs
    cases found : world.sessions[session]? with
    | none => simp
    | some entry => cases running : entry.session.running <;> simp [running]

instance (world : SlotWorld Message) (session : Nat) : Decidable (world.Registered session) :=
  inferInstanceAs (Decidable (∃ entry ∈ world.sessions[session]?, entry.registered = true))

instance (format : ReplayFormat Message) (maxConcurrent : Option Nat) :
    (slotsKept format maxConcurrent).Decides :=
  ⟨fun _ command _ world =>
    match command with
    | .startSession session => inferInstanceAs (Decidable (world.Registered session →
        (∃ entry ∈ world.sessions[session]?, entry.session.Startable) →
        session ∈ world.slots ∧ ¬world.Running session))
    | .release session => inferInstanceAs (Decidable (¬world.Running session))
    | .loop _ _ | .find _ | .accept | .waitDone _ _ | .say | .stopSession _ | .awaitControl =>
        inferInstanceAs (Decidable True),
  fun (move : SlotMove) world =>
    match move with
    | .delete session =>
        inferInstanceAs (Decidable (world.Registered session → ¬world.Running session))
    | .create _ | .control _ _ => inferInstanceAs (Decidable True)⟩

/-- Nothing is interrupted, nothing is loaded, and sockets wait for the loop. -/
def undisturbed : (command : HistoricalCommand Nat) → command.Outcome
  | .loop _ command => match command with
    | .load => some []
    | .spool | .readLine _ | .callback => false
    | .begin | .checkPause _ _ | .afterPause _ _ | .wakeUp _ | .complete | .completeIfRunning
    | .fail => ()
  | .find _ => true
  | .accept | .say | .awaitControl => none
  | .waitDone _ _ => none
  | .startSession _ | .stopSession _ | .release _ => ()

/-- A task takes some of its steps. -/
def slotTurns (task : SlotTask) (count : Nat) : List (Machine.Turn (slotted atOnce (some 1))) :=
  List.replicate count (.run task undisturbed)

/-- The sockets of three clients: two of them ask for the first session, one for the second. -/
def firstTwoTogether (socket : Nat) : Nat := if socket = 2 then 1 else 0

/-- A second socket comes and goes while the loop of a session runs, and another session
is created and started. -/
def secondSocketLeaves : List (Machine.Turn (slotted atOnce (some 1))) :=
  [.disturb (.create 1)] ++ slotTurns (.inr 0) 3 ++ slotTurns (.inr 1) 6 ++
    [.disturb (.create 1)] ++ slotTurns (.inr 2) 3

/-- A session is played to its end by one socket. -/
def oneSocketStays : List (Machine.Turn (slotted atOnce (some 1))) :=
  [.disturb (.create 1)] ++ slotTurns (.inr 0) 3 ++ slotTurns (.inl (0, 0)) 3 ++
    slotTurns (.inr 0) 4

/-- A second socket that is refused the session gives the slot of the running loop back, and two
loops run where one may. -/
theorem refused_socket_frees_the_slot :
    ∃ final, Machine.Reaches (Machine.Policy.free (slotted atOnce (some 1)))
        ⟨⟨[], ∅⟩, SlotProgram.tasks atOnce firstTwoTogether⟩ final ∧
      final.world.Runs 0 0 ∧ 0 ∉ final.world.slots ∧ final.world.Runs 1 0 ∧
      ¬SlotsHeld 1 final.world := by
  have played : (Machine.Config.play (Machine.Policy.free (slotted atOnce (some 1)))
        secondSocketLeaves
          ⟨⟨[], ∅⟩, SlotProgram.tasks atOnce firstTwoTogether⟩).map (fun final =>
      (final.world.sessions.map (·.session.running), decide (0 ∈ final.world.slots))) =
        some ([[0], [0]], false) := by decide +kernel
  obtain ⟨final, ran, eq⟩ := Option.map_eq_some_iff.mp played
  obtain ⟨running, slot⟩ := Prod.mk.inj eq
  have free : 0 ∉ final.world.slots := of_decide_eq_false slot
  have runs : ∀ session < 2, final.world.Runs session 0 := by
    intro session two
    have there : (final.world.sessions.map (·.session.running))[session]? = some [0] := by
      rw [running]
      have : session = 0 ∨ session = 1 := by omega
      rcases this with rfl | rfl <;> rfl
    rw [List.getElem?_map] at there
    obtain ⟨entry, found, eq⟩ := Option.map_eq_some_iff.mp there
    exact ⟨entry, found, by rw [eq]; exact List.mem_singleton_self 0⟩
  refine ⟨final, Machine.Config.play_reaches ran, runs 0 (by decide), free, runs 1 (by decide),
    fun holds => ?_⟩
  exact free (holds.held 0 ⟨0, runs 0 (by decide)⟩)

/-- A session that one socket plays to its end has a slot meanwhile. -/
theorem played_session_gives_its_slot_back :
    ∃ final, Machine.Config.play (slotsKept atOnce (some 1)) oneSocketStays
        ⟨⟨[], ∅⟩, SlotProgram.tasks atOnce firstTwoTogether⟩ = some final ∧
      final.world.sessions.map (·.session.state) = [.completed] ∧ final.world.slots = ∅ ∧
      SlotsHeld 1 final.world := by
  have played : (Machine.Config.play (slotsKept atOnce (some 1)) oneSocketStays
        ⟨⟨[], ∅⟩, SlotProgram.tasks atOnce firstTwoTogether⟩).map (fun final =>
      (final.world.sessions.map (·.session.state), final.world.slots)) =
        some ([.completed], ∅) := by
    decide +kernel
  obtain ⟨final, ran, eq⟩ := Option.map_eq_some_iff.mp played
  obtain ⟨ended, slots⟩ := Prod.mk.inj eq
  exact ⟨final, ran, ended, slots, running_replays_hold_slots (Machine.Config.play_reaches ran)⟩

end Historical
end DataGateway
