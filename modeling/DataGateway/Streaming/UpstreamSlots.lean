import DataGateway.Streaming.UpstreamRuns

/-!
# The slot at the broker

A socket takes the one slot of its endpoint until the attempt to close it is over.  A loop
waits for that before it opens the next socket, but nobody else waits: a client who starts a
loop while the old one still retires, and a failure of the transport while a loop is scheduled,
let two sockets overlap.
-/

namespace DataGateway
namespace Streaming

open Stepping

namespace ConnectLoop

/-- The socket that the loop is closing. -/
def closes : ConnectLoop → Option Nat
  | .clearing _ socket | .releasing _ socket | .retiring socket => some socket
  | _ => none

/-- The loop has no socket, and opens one next. -/
def Waits : ConnectLoop → Prop
  | .scheduled | .connecting _ | .sleeping _ => True
  | _ => False

/-- The loop opens a socket without another look at the flag. -/
def opens : ConnectLoop → Bool
  | .clearing _ _ | .connecting _ => true
  | _ => false

theorem Waits.alive {loop : ConnectLoop} (waits : loop.Waits) : loop.alive = true := by
  cases loop <;> first | rfl | cases waits

theorem Waits.closes {loop : ConnectLoop} (waits : loop.Waits) : loop.closes = none := by
  cases loop <;> first | rfl | cases waits

end ConnectLoop

/-- The socket that the task is closing. -/
def Closer.closes : Closer → Option Nat
  | .closing socket => some socket
  | _ => none

namespace UpstreamLife

variable {life after last : UpstreamLife} {loop next : ConnectLoop} {closing : Option Nat}
  {rest : List Nat} {event : LoopEvent} {action : Action} {maxRetries : Nat} {eager : Bool}

/-! ## After a failure of the transport -/

/-- What a loop leaves that does not open another socket. -/
structure Halts (life : UpstreamLife) (result : UpstreamLife × ConnectLoop) : Prop where
  running : result.1.running = false
  begun : result.2 ≠ .scheduled
  opens : result.2.opens = false
  sockets : result.1.sockets.length = life.sockets.length

theorem closeWs_same (life : UpstreamLife) : life.closeWs.2.running = life.running ∧
    life.closeWs.2.sockets.length = life.sockets.length := by
  unfold closeWs
  split
  · exact ⟨rfl, rfl⟩
  · exact ⟨rfl, List.length_modify _ _ _⟩

theorem halts_iterate (stopped : life.running = false) (attempt : Nat) :
    life.Halts (life.iterate attempt) := by
  simp only [iterate, stopped, Bool.false_eq_true, ↓reduceIte]
  exact ⟨stopped, nofun, rfl, rfl⟩

theorem halts_settle (stopped : life.running = false) (attempt : Nat) :
    life.Halts (life.settle attempt) := by
  simp only [settle, stopped, Bool.false_eq_true, ↓reduceIte]
  exact ⟨stopped, nofun, rfl, rfl⟩

theorem halts_release (stopped : life.running = false) (attempt : Nat) :
    life.Halts (life.release attempt) := by
  obtain ⟨running, sockets⟩ := closeWs_same { life with authenticated := false }
  unfold release
  split
  next same other =>
    rw [other] at running sockets
    obtain ⟨ends, begun, opens, still⟩ := halts_settle (running.trans stopped) attempt
    exact ⟨ends, begun, opens, still.trans sockets⟩
  next other =>
    rw [other] at running sockets
    exact ⟨running.trans stopped, nofun, rfl, sockets⟩

theorem halts_fail (stopped : life.running = false) (attempt : Nat) (trouble : Trouble) :
    life.Halts (life.fail attempt trouble) := by
  obtain ⟨running, sockets⟩ := closeWs_same { life with running := false, authenticated := false }
  unfold fail
  split
  · split <;> (next other => rw [other] at running sockets; exact ⟨running, nofun, rfl, sockets⟩)
  · exact halts_release stopped attempt

theorem halts_receive (stopped : life.running = false) : life.Halts life.receive := by
  unfold receive
  split
  · exact halts_release stopped 0
  · exact ⟨stopped, nofun, rfl, rfl⟩

theorem halts_command (stopped : life.running = false) (attempt : Nat) (stage : AuthStage) :
    life.Halts (life.command attempt stage) := by
  unfold command
  split
  · exact halts_fail stopped attempt _
  · exact ⟨stopped, nofun, rfl, rfl⟩

/-- A loop that has begun does not start the connection again, and opens at most the socket that it
was about to open. -/
theorem advance_stopped (stopped : life.running = false) (begun : loop ≠ .scheduled)
    (advanced : life.advance loop event = some (after, next)) :
    after.running = false ∧ next ≠ .scheduled ∧
      after.sockets.length + next.opens.toNat ≤ life.sockets.length + loop.opens.toNat := by
  have step : ∀ {result : UpstreamLife × ConnectLoop}, life.Halts result →
      some result = some (after, next) → after.running = false ∧ next ≠ .scheduled ∧
        after.sockets.length + next.opens.toNat ≤ life.sockets.length + loop.opens.toNat := by
    rintro _ ⟨running, begun, opens, sockets⟩ ⟨⟩
    refine ⟨running, begun, ?_⟩
    rw [opens, sockets]
    exact Nat.le_add_right _ _
  unfold advance at advanced
  split at advanced
  · exact absurd rfl begun
  · cases advanced
    exact ⟨stopped, nofun, (congrArg (· + 1) (List.length_modify _ _ _)).le⟩
  · cases advanced
    exact ⟨stopped, nofun, (List.length_append).le⟩
  · exact step (halts_command stopped _ _) advanced
  · exact step (halts_command stopped _ _) advanced
  · refine step ?_ advanced
    split
    · exact ⟨stopped, nofun, rfl, rfl⟩
    · obtain ⟨running, begun, opens, sockets⟩ :=
        @halts_receive { life with authenticated := true, connectedEvent := true } stopped
      exact ⟨running, begun, opens, sockets⟩
  · refine step ?_ advanced
    split
    · exact ⟨stopped, nofun, rfl, rfl⟩
    · exact halts_receive stopped
  · exact step (halts_release stopped 0) advanced
  · obtain ⟨running, begun, opens, sockets⟩ := @halts_settle (life.endClose _) stopped _
    exact step ⟨running, begun, opens, sockets.trans (List.length_modify _ _ _)⟩ advanced
  · cases advanced
    exact ⟨stopped, nofun, (List.length_modify _ _ _).le⟩
  · exact step (halts_iterate stopped _) advanced
  · exact step (halts_fail stopped _ _) advanced
  · exact step (halts_fail stopped _ _) advanced
  · exact step (halts_fail stopped _ _) advanced
  · exact step (halts_fail stopped _ _) advanced
  · cases advanced

theorem advanceCloser_same (life : UpstreamLife) (closer : Closer) :
    (life.advanceCloser closer).1.running = life.running ∧
      (life.advanceCloser closer).1.sockets.length = life.sockets.length := by
  have closed := life.closeWs_same
  cases closer with
  | scheduled =>
      dsimp only [advanceCloser]
      split <;> (next other => rw [other] at closed; exact closed)
  | closing socket => exact ⟨rfl, List.length_modify _ _ _⟩
  | done => exact ⟨rfl, rfl⟩

/-- The transport has failed, and no loop starts the connection again. -/
structure Failed (sockets tasks : Nat) (life : UpstreamLife) : Prop where
  failed : life.transportFailed = true
  running : life.running = false
  begun : .scheduled ∉ life.loops
  sockets : life.sockets.length + life.loops.countP ConnectLoop.opens ≤ sockets
  tasks : life.loops.length = tasks

theorem Failed.step {sockets tasks : Nat} (failed : life.Failed sockets tasks)
    (stepped : life.step action = some after) : after.Failed sockets tasks := by
  obtain ⟨broken, stopped, begun, few, count⟩ := failed
  cases action with
  | loop i event =>
      obtain ⟨before, loop, others, reached, next, split_, advanced, rfl⟩ := step_loop stepped
      rw [split_] at begun few count
      have entered : loop ≠ .scheduled := fun same => begun (by rw [same]; simp)
      obtain ⟨halted, left, less⟩ := advance_stopped stopped entered advanced
      refine ⟨(beside_advance advanced).2.2.trans broken, halted, ?_, ?_, ?_⟩
      · simp only [List.mem_append, List.mem_cons, not_or] at begun ⊢
        exact ⟨begun.1, left.symm, begun.2.2⟩
      · have one : ∀ loop : ConnectLoop,
            (if loop.opens = true then 1 else 0) = loop.opens.toNat := fun loop => by
          cases loop.opens <;> rfl
        simp only [List.countP_append, List.countP_cons, one] at few ⊢
        omega
      · simpa using count
  | ensureConnected =>
      cases stepped
      have idle : life.ensureConnected = life := by simp [UpstreamLife.ensureConnected, broken]
      rw [idle]
      exact ⟨broken, stopped, begun, few, count⟩
  | drop socket =>
      cases stepped
      refine ⟨broken, stopped, begun, ?_, count⟩
      simpa [modifySocket] using few
  | failTransport =>
      cases stepped
      exact ⟨rfl, rfl, begun, few, count⟩
  | closer i =>
      obtain ⟨before, closer, others, -, rfl⟩ := step_closer stepped
      obtain ⟨loops, -, still⟩ := life.beside_advanceCloser closer
      have same := life.advanceCloser_same closer
      refine ⟨still.trans broken, same.1.trans stopped, loops ▸ begun, ?_, loops ▸ count⟩
      rw [same.2, loops]
      exact few

/-- Once the transport has failed, unless a loop was just scheduled, no run starts a loop or the
connection again, and a socket is opened after that only where one was about to be. -/
theorem failed_transport_ends
    (reached : Free UpstreamLife.step (UpstreamLife.begin maxRetries eager) life)
    (begun : .scheduled ∉ life.loops) (run : Free UpstreamLife.step life.failTransport last) :
    last.transportFailed = true ∧ last.running = false ∧ last.loops.length = life.loops.length ∧
      last.sockets.length ≤ life.sockets.length + life.loops.countP ConnectLoop.opens ∧
      life.loops.countP ConnectLoop.opens ≤ 1 := by
  have failed : last.Failed (life.sockets.length + life.loops.countP ConnectLoop.opens)
      life.loops.length :=
    run.keeps (fun _ _ _ _ stepped failed => failed.step stepped) ⟨rfl, rfl, begun, le_rfl, rfl⟩
  refine ⟨failed.failed, failed.running, failed.tasks,
    (Nat.le_add_right _ _).trans failed.sockets, ?_⟩
  refine le_trans ?_ (one_loop_is_alive reached).1
  rw [← List.countP_eq_length_filter]
  refine List.countP_mono_left fun loop _ opens => ?_
  cases loop <;> first | rfl | cases opens

/-- A loop is connecting when the transport fails: it opens its socket all the same, and when that
one breaks it exits. -/
theorem failed_while_connecting : ∃ life last,
    play step (begin 10 false) [.ensureConnected, .loop 0 .begins] = some life ∧
      play step life.failTransport [.loop 0 .opened, .closer 0, .ensureConnected, .closer 0,
        .loop 0 (.troubled .connectionClosed)] = some last ∧
      life.loops = [.connecting 0] ∧ last.loops.length = life.loops.length ∧
      last.running = false ∧ last.sockets.length ≤ life.sockets.length + 1 := by
  have played : ∃ life last,
      play step (begin 10 false) [.ensureConnected, .loop 0 .begins] = some life ∧
        play step life.failTransport [.loop 0 .opened, .closer 0, .ensureConnected, .closer 0,
          .loop 0 (.troubled .connectionClosed)] = some last ∧
        life.loops = [.connecting 0] := ⟨_, _, rfl, rfl, rfl⟩
  obtain ⟨life, last, first, second, loops⟩ := played
  obtain ⟨-, running, tasks, sockets, -⟩ := failed_transport_ends
    (play_runs first fun _ _ _ => trivial) (by rw [loops]; decide)
    (play_runs second fun _ _ _ => trivial)
  rw [loops] at sockets
  exact ⟨life, last, first, second, loops, tasks, running, sockets⟩

/-! ## One socket at a time -/

/-- Every socket that still takes the slot is the current one, the one that somebody closes, or one
of the rest, and together these are at most one. -/
def Takes (life : UpstreamLife) (closing : Option Nat) (rest : List Nat) : Prop :=
  life.ws.toList.length + closing.toList.length + rest.length ≤ 1 ∧
    ∀ id socket, life.sockets[id]? = some socket → socket.closed = false →
      life.ws = some id ∨ closing = some id ∨ id ∈ rest

/-- The same with what a loop closes, and a loop that opens a socket next finds the slot free. -/
def Leads (life : UpstreamLife) (loop : ConnectLoop) (rest : List Nat) : Prop :=
  life.Takes loop.closes rest ∧ (loop.Waits → life.ws = none ∧ rest = [])

theorem Takes.closeWs (takes : life.Takes none rest) :
    life.closeWs.2.Takes life.closeWs.1 rest ∧ life.closeWs.2.ws = none := by
  unfold UpstreamLife.closeWs
  cases used : life.ws with
  | none => exact ⟨takes, used⟩
  | some id =>
      obtain ⟨one, owned⟩ := takes
      rw [used] at one owned
      refine ⟨⟨by simpa [Nat.add_comm] using one, fun other socket found open_ => .inr ?_⟩, rfl⟩
      obtain ⟨old, before, rfl⟩ := Option.map_eq_some_iff.mp
        ((life.getElem?_modifySocket id other _).symm.trans found)
      refine (owned other old before ?_).imp_right fun rest => rest.resolve_left nofun
      split at open_ <;> exact open_

/-- A socket that is being closed is the only one that takes the slot. -/
theorem Takes.only {socket : Nat} (takes : life.Takes (some socket) rest) :
    life.ws = none ∧ rest = [] := by
  have one := takes.1
  rw [Option.toList_some, List.length_singleton] at one
  refine ⟨?_, List.length_eq_zero_iff.mp (by omega)⟩
  cases used : life.ws with
  | none => rfl
  | some id =>
      rw [used, Option.toList_some, List.length_singleton] at one
      omega

theorem Takes.endClose {socket : Nat} (takes : life.Takes (some socket) rest) :
    (life.endClose socket).Takes none rest := by
  obtain ⟨one, owned⟩ := takes
  refine ⟨Nat.le_trans (by simp [UpstreamLife.endClose, modifySocket]) one,
    fun id state found open_ => ?_⟩
  obtain ⟨old, before, rfl⟩ := Option.map_eq_some_iff.mp
    ((life.getElem?_modifySocket socket id _).symm.trans found)
  split at open_
  · cases open_
  next apart =>
    rcases owned id old before open_ with current | closes | others
    · exact .inl current
    · exact absurd (Option.some.inj closes) apart
    · exact .inr (.inr others)

theorem Takes.iterate (takes : life.Takes none rest) (free : life.ws = none ∧ rest = [])
    (attempt : Nat) : (life.iterate attempt).1.Leads (life.iterate attempt).2 rest := by
  unfold UpstreamLife.iterate UpstreamLife.closeWs
  rw [free.1]
  split
  · exact ⟨takes, fun _ => free⟩
  · exact ⟨takes, nofun⟩

theorem Takes.settle (takes : life.Takes none rest) (unused : life.ws = none)
    (alone : life.running = true → rest = []) (attempt : Nat) :
    (life.settle attempt).1.Leads (life.settle attempt).2 rest := by
  unfold UpstreamLife.settle
  split
  next running =>
    split
    · exact ⟨takes, nofun⟩
    · exact ⟨takes, fun _ => ⟨unused, alone running⟩⟩
  next => exact ⟨takes, nofun⟩

theorem Takes.release (takes : life.Takes none rest) (alone : life.running = true → rest = [])
    (attempt : Nat) : (life.release attempt).1.Leads (life.release attempt).2 rest := by
  have taken : Takes { life with authenticated := false } none rest := takes
  obtain ⟨closed, unused⟩ := taken.closeWs
  have running := (closeWs_same { life with authenticated := false }).1
  unfold UpstreamLife.release
  split
  next same =>
    rw [same] at closed unused running
    exact closed.settle unused (running ▸ alone) attempt
  next same =>
    rw [same] at closed
    exact ⟨closed, nofun⟩

theorem Takes.fail (takes : life.Takes none rest) (alone : life.running = true → rest = [])
    (attempt : Nat) (trouble : Trouble) :
    (life.fail attempt trouble).1.Leads (life.fail attempt trouble).2 rest := by
  have taken : Takes { life with running := false, authenticated := false } none rest := takes
  obtain ⟨closed, -⟩ := taken.closeWs
  unfold UpstreamLife.fail
  split
  · split <;> (next same => rw [same] at closed; exact ⟨closed, nofun⟩)
  · exact takes.release alone attempt

theorem Takes.receive (takes : life.Takes none rest) (alone : life.running = true → rest = []) :
    life.receive.1.Leads life.receive.2 rest := by
  unfold UpstreamLife.receive
  split
  · exact takes.release alone 0
  · exact ⟨takes, nofun⟩

theorem Takes.command (takes : life.Takes none rest) (alone : life.running = true → rest = [])
    (attempt : Nat) (stage : AuthStage) :
    (life.command attempt stage).1.Leads (life.command attempt stage).2 rest := by
  unfold UpstreamLife.command
  split
  · exact takes.fail alone attempt _
  · exact ⟨takes, nofun⟩

/-- A step of a loop, which takes over what the loop had. -/
theorem Leads.advance (leads : life.Leads loop rest) (alone : life.running = true → rest = [])
    (advanced : life.advance loop event = some (after, next)) : after.Leads next rest := by
  obtain ⟨takes, free⟩ := leads
  have step : ∀ {result : UpstreamLife × ConnectLoop}, result.1.Leads result.2 rest →
      some result = some (after, next) → after.Leads next rest := by
    rintro _ leads ⟨⟩
    exact leads
  unfold UpstreamLife.advance at advanced
  split at advanced
  · have started : Takes { life with running := true } none rest := takes
    exact step (started.iterate (free trivial) 0) advanced
  · cases advanced
    obtain ⟨unused, others⟩ := Takes.only takes
    exact ⟨Takes.endClose takes, fun _ => ⟨unused, others⟩⟩
  · cases advanced
    obtain ⟨unused, rfl⟩ := free trivial
    refine ⟨⟨Nat.le_refl _, fun id socket found open_ => .inl ?_⟩, nofun⟩
    rcases Nat.lt_or_ge id life.sockets.length with old | new
    · rw [List.getElem?_append_left old] at found
      rcases takes.2 id socket found open_ with current | closes | others
      · rw [unused] at current
        cases current
      · cases closes
      · cases others
    · have inside := (List.getElem?_eq_some_iff.mp found).1
      rw [List.length_append, List.length_singleton] at inside
      exact congrArg some (Nat.le_antisymm new (Nat.lt_succ_iff.mp inside))
  · exact step (Takes.command takes alone _ _) advanced
  · exact step (Takes.command takes alone _ _) advanced
  · have accepted : Takes { life with authenticated := true, connectedEvent := true } none rest :=
      takes
    refine step ?_ advanced
    split
    · exact ⟨accepted, nofun⟩
    · exact accepted.receive alone
  · refine step ?_ advanced
    split
    · exact ⟨takes, nofun⟩
    · exact Takes.receive takes alone
  · exact step (Takes.release takes alone 0) advanced
  · obtain ⟨unused, others⟩ := Takes.only takes
    exact step ((Takes.endClose takes).settle unused (fun _ => others) _) advanced
  · cases advanced
    exact ⟨Takes.endClose takes, nofun⟩
  · exact step (Takes.iterate takes (free trivial) _) advanced
  · exact step (Takes.fail takes alone _ _) advanced
  · exact step (Takes.fail takes alone _ _) advanced
  · exact step (Takes.fail takes alone _ _) advanced
  · exact step (Takes.fail takes alone _ _) advanced
  · cases advanced

/-- The sockets that tasks are closing. -/
def asides (loops : List ConnectLoop) (closers : List Closer) : List Nat :=
  loops.filterMap ConnectLoop.closes ++ closers.filterMap Closer.closes

/-- What one of the tasks closes can be set apart. -/
theorem takes_apart {all : List Nat} (same : all.Perm (closing.toList ++ rest)) :
    life.Takes none all ↔ life.Takes closing rest := by
  have length := same.length_eq
  have mem : ∀ id, id ∈ all ↔ closing = some id ∨ id ∈ rest := fun id => by
    rw [same.mem_iff, List.mem_append, Option.mem_toList]
  rw [List.length_append] at length
  simp only [Takes, length, mem, Option.toList_none, List.length_nil, Nat.add_zero, Nat.add_assoc,
    reduceCtorEq, false_or]

theorem filterMap_apart {α : Type} (f : α → Option Nat) (before : List α) (one : α)
    (others : List α) :
    ((before ++ one :: others).filterMap f).Perm
      ((f one).toList ++ (before ++ others).filterMap f) := by
  refine (List.perm_middle.filterMap f).trans (.of_eq ?_)
  rw [List.filterMap_cons]
  cases f one <;> rfl

theorem asides_loop (before : List ConnectLoop) (loop : ConnectLoop) (others : List ConnectLoop)
    (closers : List Closer) :
    (asides (before ++ loop :: others) closers).Perm
      (loop.closes.toList ++ asides (before ++ others) closers) := by
  unfold asides
  rw [← List.append_assoc]
  exact (filterMap_apart _ before loop others).append_right _

theorem asides_closer (loops : List ConnectLoop) (before : List Closer) (closer : Closer)
    (others : List Closer) :
    (asides loops (before ++ closer :: others)).Perm
      (closer.closes.toList ++ asides loops (before ++ others)) :=
  ((filterMap_apart _ before closer others).append_left _).trans
    (List.perm_append_comm_assoc _ _ _)

/-- `_ensure_connected` starts a loop. -/
def Starts (life : UpstreamLife) : Prop :=
  (life.transportFailed || life.isConnected || life.running) = false

/-- Nobody starts a loop while another one retires, and the transport does not fail while a loop is
scheduled. -/
def Orderly (life : UpstreamLife) : Action → Prop
  | .ensureConnected => life.Starts → ∀ socket, .retiring socket ∉ life.loops
  | .failTransport => .scheduled ∉ life.loops
  | _ => True

/-- The slot is taken once at most, and free for the loop that opens a socket next. -/
structure Slotted (life : UpstreamLife) : Prop where
  sound : life.Sound
  takes : life.Takes none (asides life.loops life.closers)
  free : ∀ loop ∈ life.loops, loop.Waits → life.ws = none ∧ asides life.loops life.closers = []
  retired : ∀ socket, .retiring socket ∈ life.loops → ∀ loop ∈ life.loops, loop.alive = false
  failed : life.transportFailed = true → life.running = false ∧ .scheduled ∉ life.loops

theorem closes_exited (exited : loop.alive = false) (gone : ∀ socket, loop ≠ .retiring socket) :
    loop.closes = none := by
  cases loop with
  | retiring socket => exact absurd rfl (gone socket)
  | ended => rfl
  | _ => cases exited

/-- Around a loop that is alive all others are at their end, and while the flag is up nobody closes
a socket but that loop. -/
theorem Slotted.others (slotted : life.Slotted) {before others : List ConnectLoop}
    (loops : life.loops = before ++ loop :: others) (lives : loop.alive = true) :
    (∀ other ∈ before ++ others, other.alive = false ∧ ∀ socket, other ≠ .retiring socket) ∧
      (life.running = true → asides (before ++ others) life.closers = []) := by
  obtain ⟨⟨⟨alive, one, -⟩, broken⟩, -, -, retired, failed⟩ := slotted
  rw [loops] at one retired
  obtain ⟨-, left, right⟩ := alone one lives
  have ended : ∀ other ∈ before ++ others,
      other.alive = false ∧ ∀ socket, other ≠ .retiring socket := fun other mem => by
    refine ⟨?_, fun socket same => ?_⟩
    · have none : (before ++ others).filter ConnectLoop.alive = [] := by
        rw [List.filter_append, left, right]
        rfl
      simpa using List.filter_eq_nil_iff.mp none other mem
    · have here : .retiring socket ∈ before ++ loop :: others := by
        rw [same] at mem
        exact List.perm_middle.mem_iff.mpr (.tail _ mem)
      have exited := retired socket here loop (List.mem_append_right _ (.head _))
      rw [lives] at exited
      cases exited
  refine ⟨ended, fun running => List.append_eq_nil_iff.mpr ⟨?_, ?_⟩⟩
  · exact List.filterMap_eq_nil_iff.mpr fun other mem =>
      closes_exited (ended other mem).1 (ended other mem).2
  · have none : life.closers = [] := by
      by_contra some
      rw [(failed (broken some)).1] at running
      cases running
    rw [none]
    rfl

/-- A task among dead ones makes the slot what it is. -/
theorem Slotted.among {before others : List ConnectLoop} (sound : life.Sound)
    (loops : life.loops = before ++ loop :: others)
    (dead : ∀ other ∈ before ++ others, other.alive = false)
    (gone : loop.alive = true → ∀ other ∈ before ++ others, ∀ socket, other ≠ .retiring socket)
    (leads : life.Leads loop (asides (before ++ others) life.closers))
    (failed : life.transportFailed = true → life.running = false ∧ loop ≠ .scheduled) :
    life.Slotted := by
  have apart : ∀ {other}, other ∈ life.loops → other = loop ∨ other ∈ before ++ others :=
    fun mem => List.mem_cons.mp (List.perm_middle.mem_iff.mp (loops ▸ mem))
  have same := asides_loop before loop others life.closers
  rw [← loops] at same
  refine ⟨sound, (takes_apart same).mpr leads.1, fun other mem waits => ?_,
    fun socket here other mem => ?_, fun broken => ⟨(failed broken).1, fun mem => ?_⟩⟩
  · rcases apart mem with rfl | aside
    · obtain ⟨unused, none⟩ := leads.2 waits
      rw [waits.closes, none] at same
      exact ⟨unused, same.eq_nil⟩
    · have exited := dead other aside
      rw [waits.alive] at exited
      cases exited
  · rcases apart mem with rfl | aside
    · by_contra lives
      rcases apart here with rfl | retiring
      · exact lives rfl
      · exact gone (by simpa using lives) _ retiring socket rfl
    · exact dead other aside
  · rcases apart mem with rfl | aside
    · exact (failed broken).2 rfl
    · cases dead _ aside

theorem Slotted.stepLoop (slotted : life.Slotted) {i : Nat}
    (stepped : life.step (.loop i event) = some after) : after.Slotted := by
  have sound := slotted.sound.step stepped
  obtain ⟨before, loop, others, reached, next, loops, advanced, rfl⟩ := step_loop stepped
  obtain ⟨-, closers, still⟩ := beside_advance advanced
  have same := asides_loop before loop others life.closers
  rw [← loops] at same
  have takes := (takes_apart same).mp slotted.takes
  have here : loop ∈ life.loops := by
    rw [loops]
    exact List.mem_append_right _ (.head _)
  by_cases lives : loop.alive = true
  · obtain ⟨ended, alone⟩ := slotted.others loops lives
    have leads := Leads.advance ⟨takes, fun waits => by
      obtain ⟨unused, none⟩ := slotted.free loop here waits
      rw [none] at same
      exact ⟨unused, (List.append_eq_nil_iff.mp same.nil_eq.symm).2⟩⟩ alone advanced
    refine Slotted.among sound rfl (fun other mem => (ended other mem).1)
      (fun _ other mem => (ended other mem).2) (closers ▸ leads) fun failed => ?_
    obtain ⟨stopped, begun⟩ := slotted.failed (still ▸ failed)
    obtain ⟨halted, left, -⟩ := advance_stopped stopped (fun same => begun (same ▸ here)) advanced
    exact ⟨halted, left⟩
  · obtain ⟨rfl, socket, rfl, rfl⟩ := advance_exited (by simpa using lives) advanced
    refine Slotted.among sound rfl (fun other mem => slotted.retired socket here other ?_) nofun
      ⟨Takes.endClose takes, nofun⟩ fun failed => ⟨(slotted.failed failed).1, nofun⟩
    rw [loops]
    exact List.perm_middle.mem_iff.mpr (.tail _ mem)

theorem advanceCloser_idle {closer : Closer} (unused : life.ws = none)
    (idle : closer.closes = none) :
    (life.advanceCloser closer).1.ws = none ∧ (life.advanceCloser closer).2.closes = none := by
  cases closer with
  | scheduled =>
      dsimp only [advanceCloser, closeWs]
      rw [unused]
      exact ⟨unused, rfl⟩
  | closing socket => cases idle
  | done => exact ⟨unused, rfl⟩

theorem Slotted.stepCloser (slotted : life.Slotted) {i : Nat}
    (stepped : life.step (.closer i) = some after) : after.Slotted := by
  have sound := slotted.sound.step stepped
  obtain ⟨before, closer, others, closers, rfl⟩ := step_closer stepped
  obtain ⟨loops, -, still⟩ := life.beside_advanceCloser closer
  have same := asides_closer life.loops before closer others
  rw [← closers] at same
  have takes := (takes_apart same).mp slotted.takes
  have taken : (life.advanceCloser closer).1.Takes (life.advanceCloser closer).2.closes
      (asides life.loops (before ++ others)) := by
    cases closer with
    | scheduled =>
        have closed := (Takes.closeWs takes).1
        dsimp only [advanceCloser]
        split <;> (next other => rw [other] at closed; exact closed)
    | closing socket => exact Takes.endClose takes
    | done => exact takes
  refine ⟨sound, ?_, fun loop mem waits => ?_, loops ▸ slotted.retired, fun failed => ?_⟩
  · simp only [loops]
    exact (takes_apart (asides_closer life.loops before _ others)).mpr taken
  · obtain ⟨unused, none⟩ := slotted.free loop (loops ▸ mem) waits
    rw [none] at same
    obtain ⟨nothing, rest⟩ := List.append_eq_nil_iff.mp same.nil_eq.symm
    obtain ⟨idle, done⟩ := advanceCloser_idle unused (Option.toList_eq_nil_iff.mp nothing)
    have still := asides_closer life.loops before (life.advanceCloser closer).2 others
    rw [done, rest] at still
    simp only [loops]
    exact ⟨idle, still.eq_nil⟩
  · simp only [loops, (life.advanceCloser_same closer).1]
    exact slotted.failed (still ▸ failed)

/-- Whoever starts a loop where none retires finds the slot free. -/
theorem Slotted.stepEnsure (slotted : life.Slotted)
    (settled : life.Starts → ∀ socket, .retiring socket ∉ life.loops) :
    life.ensureConnected.Slotted := by
  have sound : life.ensureConnected.Sound :=
    slotted.sound.step (show life.step .ensureConnected = some _ from rfl)
  unfold UpstreamLife.ensureConnected at sound ⊢
  split
  next => exact slotted
  next dormant =>
    rw [if_neg dormant] at sound
    have settled := settled (Bool.eq_false_iff.mpr dormant)
    simp only [Bool.or_eq_true, not_or, Bool.not_eq_true] at dormant
    obtain ⟨⟨working, -⟩, stopped⟩ := dormant
    obtain ⟨⟨⟨alive, one, fits⟩, broken⟩, takes, -, -, -⟩ := slotted
    obtain rfl := fits.dormant working stopped
    have dead : ∀ other ∈ life.loops, other.alive = false := by
      simpa using List.filter_eq_nil_iff.mp one
    have closers : life.closers = [] := by
      by_contra some
      rw [working] at broken
      cases broken some
    have free : asides life.loops life.closers = [] := by
      rw [asides, closers, List.append_eq_nil_iff, List.filterMap_eq_nil_iff]
      exact ⟨fun other mem =>
        closes_exited (dead other mem) fun socket same => settled socket (same ▸ mem), rfl⟩
    rw [← List.append_nil life.loops] at dead takes free
    exact Slotted.among sound rfl dead (fun _ other mem socket same =>
        settled socket (List.append_nil life.loops ▸ same ▸ mem))
      ⟨takes, fun _ => ⟨(fits.vacant nofun).ws, free⟩⟩ fun failed =>
        absurd (working.symm.trans failed) nofun

theorem Slotted.step (slotted : life.Slotted) (orderly : life.Orderly action)
    (stepped : life.step action = some after) : after.Slotted := by
  have sound := slotted.sound.step stepped
  cases action with
  | loop i event => exact slotted.stepLoop stepped
  | ensureConnected =>
      cases stepped
      exact slotted.stepEnsure orderly
  | drop socket =>
      cases stepped
      obtain ⟨-, ⟨one, owned⟩, free, retired, failed⟩ := slotted
      refine ⟨sound, ⟨one, fun id state found open_ => ?_⟩, free, retired, failed⟩
      obtain ⟨old, before, rfl⟩ := Option.map_eq_some_iff.mp
        ((life.getElem?_modifySocket socket id _).symm.trans found)
      refine owned id old before ?_
      split at open_ <;> exact open_
  | failTransport =>
      cases stepped
      have same : asides life.loops (life.closers ++ [.scheduled]) =
          asides life.loops life.closers := by
        simp [asides, Closer.closes]
      refine ⟨sound, same ▸ slotted.takes, fun loop mem waits => ?_, slotted.retired,
        fun _ => ⟨rfl, orderly⟩⟩
      exact ⟨(slotted.free loop mem waits).1, same.trans (slotted.free loop mem waits).2⟩
  | closer i => exact slotted.stepCloser stepped

/-- As long as nobody starts a loop while another one retires, and the transport does not fail
while a loop is scheduled, at most one socket takes the slot at the broker, and none does when the
next one is opened. -/
theorem one_socket_at_a_time
    (run : Runs UpstreamLife.step Orderly (UpstreamLife.begin maxRetries eager) life) :
    (∀ (one other : Nat) (first second : LoopSocket), life.sockets[one]? = some first →
      first.closed = false →
        life.sockets[other]? = some second → second.closed = false → one = other) ∧
      ∀ attempt, .connecting attempt ∈ life.loops →
        ∀ socket ∈ life.sockets, socket.closed = true := by
  have start : (UpstreamLife.begin maxRetries eager).Slotted := by
    have sound := Sound.begin maxRetries eager
    cases eager with
    | true =>
        refine ⟨sound, ⟨Nat.zero_le _, nofun⟩, fun _ _ _ => ⟨rfl, rfl⟩,
          fun socket retiring => ?_, nofun⟩
        cases List.mem_singleton.mp retiring
    | false => exact ⟨sound, ⟨Nat.zero_le _, nofun⟩, nofun, nofun, nofun⟩
  obtain ⟨-, ⟨few, owned⟩, free, -, -⟩ :=
    run.keeps (fun _ _ _ orderly stepped slotted => slotted.step orderly stepped) start
  refine ⟨fun one other first second here open_ there still => ?_,
    fun attempt connecting socket mem => ?_⟩
  · have listed : ∀ id socket, life.sockets[id]? = some socket → socket.closed = false →
        id ∈ life.ws.toList ++ asides life.loops life.closers := fun id socket found open_ => by
      rw [List.mem_append, Option.mem_toList]
      exact (owned id socket found open_).imp_right fun rest => rest.resolve_left nofun
    have lone : (life.ws.toList ++ asides life.loops life.closers).length ≤ 1 := by
      simpa using few
    obtain ⟨i, low, rfl⟩ := List.getElem_of_mem (listed one first here open_)
    obtain ⟨j, less, rfl⟩ := List.getElem_of_mem (listed other second there still)
    congr 1
    omega
  · obtain ⟨unused, none⟩ := free _ connecting trivial
    obtain ⟨id, found⟩ := List.getElem?_of_mem mem
    by_contra open_
    rcases owned id socket found (by simpa using open_) with used | closes | aside
    · rw [unused] at used
      cases used
    · cases closes
    · rw [none] at aside
      cases aside

/-- A connection that is up breaks, and its loop is about to open the next socket. -/
theorem reconnecting_slot_is_free : ∃ life,
    play step (begin 10 true)
    [.loop 0 .begins, .loop 0 .opened, .loop 0 .proceeds, .loop 0 .proceeds,
      .loop 0 (.accepted true), .loop 0 (.sent false), .loop 0 (.troubled .connectionClosed),
      .loop 0 .closed, .loop 0 .woken] = some life ∧
      life.loops = [.connecting 1] ∧ life.sockets.length = 1 ∧
      ∀ socket ∈ life.sockets, socket.closed = true := by
  have played : ∃ life,
      play step (begin 10 true)
      [.loop 0 .begins, .loop 0 .opened, .loop 0 .proceeds, .loop 0 .proceeds,
        .loop 0 (.accepted true), .loop 0 (.sent false), .loop 0 (.troubled .connectionClosed),
        .loop 0 .closed, .loop 0 .woken] = some life ∧
        life.loops = [.connecting 1] ∧ life.sockets.length = 1 := ⟨_, rfl, rfl, rfl⟩
  obtain ⟨life, ran, loops, sockets⟩ := played
  refine ⟨life, ran, loops, sockets, ?_⟩
  refine (one_socket_at_a_time (play_runs ran fun action mem state => ?_)).2 1
    (by rw [loops]; exact .head _)
  simp only [List.mem_cons, List.not_mem_nil, or_false] at mem
  rcases mem with rfl | rfl | rfl | rfl | rfl | rfl | rfl | rfl | rfl <;> trivial

/-- The condition cannot be left out: the next client connects while the refused socket
is still being closed. -/
example : (play step (begin 10 false) (refusedOnce.take 9)).map UpstreamLife.sockets =
    some [⟨true, true, false⟩, ⟨true, false, false⟩] := by
  decide

end UpstreamLife

end Streaming
end DataGateway
