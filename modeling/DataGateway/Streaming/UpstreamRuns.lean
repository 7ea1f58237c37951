import DataGateway.Streaming.UpstreamLoops

/-!
# Runs of connect loops

A loop is alive until it has decided to exit.  Along every run at most one loop of a connection is
alive, and the flag that everybody looks at says so; every socket that is given up is closed; and
after the transport has failed hardly anything is connected any more.
-/

namespace DataGateway
namespace Streaming

open Stepping

/-! ## The loop that is alive -/

namespace ConnectLoop

/-- The loop has not decided to exit. -/
def alive : ConnectLoop → Bool
  | .retiring _ | .ended => false
  | _ => true

/-- The loop has a socket in use. -/
def Holds : ConnectLoop → Prop
  | .authenticating _ _ | .resubscribing _ | .receiving => True
  | _ => False

/-- The loop has a socket that is authenticated. -/
def Serves : ConnectLoop → Prop
  | .resubscribing _ | .receiving => True
  | _ => False

theorem Serves.holds {loop : ConnectLoop} (serves : loop.Serves) : loop.Holds := by
  cases loop <;> trivial

end ConnectLoop

namespace UpstreamLife

variable {life after : UpstreamLife} {loop next : ConnectLoop} {attempt : Nat}

/-- No socket is in use, and none is given up without being closed. -/
structure Idle (life : UpstreamLife) : Prop where
  ws : life.ws = none
  authenticated : life.authenticated = false
  event : life.transportFailed = false → life.connectedEvent = false
  sockets : ∀ socket ∈ life.sockets, socket.closing = true

/-- A connection with the loop that is alive, if one is. -/
structure Fits (life : UpstreamLife) (loop : Option ConnectLoop) : Prop where
  running : life.running = true → loop ≠ none
  alive : loop ≠ none → life.running = true ∨ life.transportFailed = true
  holds : life.ws ≠ none → ∃ alive ∈ loop, alive.Holds
  kept : life.transportFailed = false → ∀ alive ∈ loop, alive.Holds → life.ws ≠ none
  serves : life.authenticated = true → ∃ alive ∈ loop, alive.Serves
  event : life.transportFailed = false → life.connectedEvent = life.authenticated
  sockets : ∀ id socket, life.sockets[id]? = some socket → socket.closing = false →
    life.ws = some id
  inside : ∀ id, life.ws = some id → ∃ socket, life.sockets[id]? = some socket ∧
    socket.closing = false

/-- What `_close_ws` needs. -/
structure Ready (life : UpstreamLife) : Prop where
  closed : life.ws = none → life.authenticated = false ∧
    (life.transportFailed = false → life.connectedEvent = false)
  sockets : ∀ id socket, life.sockets[id]? = some socket → socket.closing = false →
    life.ws = some id

theorem Idle.fits (idle : life.Idle) {loop : Option ConnectLoop}
    (running : life.running = true → loop ≠ none)
    (alive : loop ≠ none → life.running = true ∨ life.transportFailed = true)
    (free : life.transportFailed = false → ∀ alive ∈ loop, ¬alive.Holds) : life.Fits loop where
  running := running
  alive := alive
  holds used := absurd idle.ws used
  kept working other mem holds := absurd holds (free working other mem)
  serves authenticated := by
    rw [idle.authenticated] at authenticated
    cases authenticated
  event working := (idle.event working).trans idle.authenticated.symm
  sockets id socket found open_ := by
    rw [idle.sockets socket (List.mem_of_getElem? found)] at open_
    cases open_
  inside id used := by
    rw [idle.ws] at used
    cases used

@[simp]
theorem getElem?_modifySocket (life : UpstreamLife) (id other : Nat)
    (change : LoopSocket → LoopSocket) : (life.modifySocket id change).sockets[other]? =
      (life.sockets[other]?).map fun socket => if id = other then change socket else socket := by
  simp only [modifySocket, List.getElem?_modify]
  rfl

/-- `_close_ws` leaves no socket behind. -/
theorem Ready.closeWs (ready : life.Ready) : life.closeWs.2.Idle ∧
    life.closeWs.2.running = life.running ∧
    life.closeWs.2.transportFailed = life.transportFailed := by
  unfold UpstreamLife.closeWs
  cases used : life.ws with
  | none =>
      obtain ⟨authenticated, event⟩ := ready.closed used
      refine ⟨⟨used, authenticated, event, fun socket mem => ?_⟩, rfl, rfl⟩
      obtain ⟨id, found⟩ := List.getElem?_of_mem mem
      by_contra open_
      have current := ready.sockets id socket found (Bool.eq_false_iff.mpr open_)
      rw [used] at current
      cases current
  | some id =>
      refine ⟨⟨rfl, rfl, fun _ => rfl, fun socket mem => ?_⟩, rfl, rfl⟩
      obtain ⟨other, found⟩ := List.getElem?_of_mem mem
      obtain ⟨old, before, rfl⟩ := Option.map_eq_some_iff.mp
        ((life.getElem?_modifySocket id other _).symm.trans found)
      split
      · rfl
      next apart =>
        by_contra open_
        have current := ready.sockets other old before (Bool.eq_false_iff.mpr open_)
        rw [used] at current
        exact apart (Option.some.inj current)

/-- A loop is the one that is alive, unless it has decided to exit. -/
def living (next : ConnectLoop) : Option ConnectLoop := if next.alive then some next else none

/-- A socket can be closed once nothing counts as authenticated. -/
theorem Fits.ready (fits : life.Fits (some loop)) (running : Bool) :
    ({ life with running := running, authenticated := false } : UpstreamLife).Ready := by
  refine ⟨fun none => ⟨rfl, fun working => ?_⟩, fits.sockets⟩
  by_contra event
  have authenticated : life.authenticated = true := by
    rw [← fits.event working]
    simpa using event
  obtain ⟨alive, mem, serves⟩ := fits.serves authenticated
  exact fits.kept working alive mem serves.holds none

theorem Idle.running (idle : life.Idle) (running : Bool) :
    ({ life with running := running } : UpstreamLife).Idle :=
  ⟨idle.ws, idle.authenticated, idle.event, idle.sockets⟩

/-- The loop has exited. -/
theorem Idle.exited (idle : life.Idle) (stopped : life.running = false) : life.Fits none :=
  idle.fits (fun running => by rw [stopped] at running; cases running) (fun some => absurd rfl some)
    fun _ => nofun

/-- The loop goes on without a socket. -/
theorem Idle.goesOn (idle : life.Idle) (alive : life.running = true ∨ life.transportFailed = true)
    (free : ¬next.Holds) : life.Fits (some next) := by
  refine idle.fits (fun _ => nofun) (fun _ => alive) ?_
  rintro - _ ⟨⟩
  exact free

theorem Idle.settle (idle : life.Idle) (attempt : Nat) :
    (life.settle attempt).1.Fits (living (life.settle attempt).2) := by
  unfold UpstreamLife.settle
  split
  next running =>
    split
    · exact (idle.running false).exited rfl
    · exact idle.goesOn (.inl running) id
  next stopped => exact idle.exited (by simpa using stopped)

/-- An attempt that is over leaves the loop without a socket. -/
theorem Fits.release (fits : life.Fits (some loop)) (attempt : Nat) :
    (life.release attempt).1.Fits (living (life.release attempt).2) := by
  obtain ⟨idle, running, failed⟩ := (fits.ready life.running).closeWs
  have alive := fits.alive nofun
  unfold UpstreamLife.release
  split
  next same =>
    rw [same] at idle
    exact idle.settle attempt
  next socket closing same =>
    rw [same] at idle running failed
    exact idle.goesOn (running ▸ failed ▸ alive) id

theorem Fits.fail (fits : life.Fits (some loop)) (attempt : Nat) (trouble : Trouble) :
    (life.fail attempt trouble).1.Fits (living (life.fail attempt trouble).2) := by
  obtain ⟨idle, running, -⟩ := (fits.ready false).closeWs
  unfold UpstreamLife.fail
  split
  · split
    next same =>
      rw [same] at idle running
      exact idle.exited running
    next socket closing same =>
      rw [same] at idle running
      exact idle.exited running
  · exact fits.release attempt

/-- Without a loop that has a socket there are only closed ones. -/
theorem Fits.vacant {alive : Option ConnectLoop} (fits : life.Fits alive)
    (free : ∀ loop ∈ alive, ¬loop.Holds) : life.Idle := by
  have unused : life.ws = none := by
    by_contra used
    obtain ⟨loop, mem, holds⟩ := fits.holds used
    exact free loop mem holds
  have shut : life.authenticated = false := by
    by_contra authenticated
    obtain ⟨loop, mem, serves⟩ := fits.serves (by simpa using authenticated)
    exact free loop mem serves.holds
  refine ⟨unused, shut, fun working => (fits.event working).trans shut, fun socket mem => ?_⟩
  obtain ⟨id, found⟩ := List.getElem?_of_mem mem
  by_contra open_
  have current := fits.sockets id socket found (Bool.eq_false_iff.mpr open_)
  rw [unused] at current
  cases current

/-- A loop without a socket is alone with closed ones. -/
theorem Fits.idle (fits : life.Fits (some loop)) (free : ¬loop.Holds) : life.Idle :=
  fits.vacant (by rintro _ ⟨⟩; exact free)

theorem Idle.iterate (idle : life.Idle) (attempt : Nat) :
    (life.iterate attempt).1.Fits (living (life.iterate attempt).2) := by
  unfold UpstreamLife.iterate UpstreamLife.closeWs
  rw [idle.ws]
  split
  next running => exact idle.goesOn (.inl running) id
  next stopped => exact idle.exited (by simpa using stopped)

/-- A socket can change as long as its end is not called off. -/
theorem Fits.touch {alive : Option ConnectLoop} (fits : life.Fits alive) (id : Nat)
    {change : LoopSocket → LoopSocket} (same : ∀ socket, (change socket).closing = socket.closing) :
    (life.modifySocket id change).Fits alive := by
  obtain ⟨running, lives, holds, kept, serves, event, sockets, inside⟩ := fits
  refine ⟨running, lives, holds, kept, serves, event, fun other socket found open_ => ?_,
    fun other used => ?_⟩
  · rw [getElem?_modifySocket] at found
    obtain ⟨old, before, rfl⟩ := Option.map_eq_some_iff.mp found
    refine sockets other old before ?_
    split at open_
    · exact (same old).symm.trans open_
    · exact open_
  · obtain ⟨socket, found, open_⟩ := inside other used
    refine ⟨_, by rw [getElem?_modifySocket, found]; rfl, ?_⟩
    split
    · exact (same socket).trans open_
    · exact open_

/-- The loop uses its socket in another way. -/
theorem Fits.moves (fits : life.Fits (some loop)) (holds : loop.Holds) (still : next.Holds)
    (serves : loop.Serves → next.Serves) : life.Fits (some next) := by
  obtain ⟨-, lives, -, kept, authenticated, event, sockets, inside⟩ := fits
  refine ⟨fun _ => nofun, fun _ => lives nofun, fun _ => ⟨next, rfl, still⟩, ?_,
    fun yes => ?_, event, sockets, inside⟩
  · rintro working _ ⟨⟩ _
    exact kept working loop rfl holds
  · obtain ⟨_, mem, served⟩ := authenticated yes
    obtain rfl := Option.some.inj mem
    exact ⟨next, rfl, serves served⟩

theorem Fits.command (fits : life.Fits (some loop)) (holds : loop.Holds) (early : ¬loop.Serves)
    (attempt : Nat) (stage : AuthStage) :
    (life.command attempt stage).1.Fits (living (life.command attempt stage).2) := by
  unfold UpstreamLife.command
  split
  · exact fits.fail attempt _
  · exact fits.moves holds trivial fun serves => absurd serves early

theorem Fits.receive (fits : life.Fits (some loop)) (holds : loop.Holds) :
    life.receive.1.Fits (living life.receive.2) := by
  unfold UpstreamLife.receive
  split
  · exact fits.release 0
  · exact fits.moves holds trivial fun _ => trivial

/-- The broker has accepted the credentials. -/
theorem Fits.accepted (fits : life.Fits (some loop)) (holds : loop.Holds) (attempt : Nat) :
    ({ life with authenticated := true, connectedEvent := true } : UpstreamLife).Fits
      (some (.resubscribing attempt)) := by
  obtain ⟨-, lives, -, kept, -, -, sockets, inside⟩ := fits
  refine ⟨fun _ => nofun, fun _ => lives nofun, fun _ => ⟨_, rfl, trivial⟩, ?_,
    fun _ => ⟨_, rfl, trivial⟩, fun _ => rfl, sockets, inside⟩
  rintro working _ ⟨⟩ _
  exact kept working loop rfl holds

theorem Fits.opened (fits : life.Fits (some loop)) (free : ¬loop.Holds) (attempt : Nat) :
    ({ life with
        ws := some life.sockets.length
        sockets := life.sockets ++ [⟨true, false, false⟩] } : UpstreamLife).Fits
      (some (.authenticating attempt .welcome)) := by
  have idle := fits.idle free
  refine ⟨fun _ => nofun, fun _ => fits.alive nofun, fun _ => ⟨_, rfl, trivial⟩,
    fun _ _ _ _ => nofun, fun yes => ?_, fits.event, fun id socket found open_ => ?_, ?_⟩
  · exact absurd yes (by rw [idle.authenticated]; exact Bool.false_ne_true)
  · rcases Nat.lt_or_ge id life.sockets.length with old | new
    · rw [List.getElem?_append_left old] at found
      have current := fits.sockets id socket found open_
      rw [idle.ws] at current
      cases current
    · have last : id = life.sockets.length := by
        have inside := (List.getElem?_eq_some_iff.mp found).1
        rw [List.length_append, List.length_singleton] at inside
        omega
      rw [last]
  · rintro _ ⟨⟩
    exact ⟨_, List.getElem?_concat_length, rfl⟩

/-- The loop that is alive takes a step. -/
theorem Fits.advance (fits : life.Fits (some loop)) (alive : loop.alive = true) {event : LoopEvent}
    (advanced : life.advance loop event = some (after, next)) : after.Fits (living next) := by
  have step : ∀ {result : UpstreamLife × ConnectLoop}, result.1.Fits (living result.2) →
      some result = some (after, next) → after.Fits (living next) := by
    rintro _ fits ⟨⟩
    exact fits
  cases loop with
  | scheduled =>
      cases event <;> try cases advanced
      exact step (((fits.idle id).running true).iterate 0) advanced
  | clearing attempt socket =>
      cases event <;> try cases advanced
      exact ((fits.idle id).goesOn (fits.alive nofun) id).touch socket fun _ => rfl
  | connecting attempt =>
      cases event with
      | opened =>
          cases advanced
          exact fits.opened id attempt
      | troubled trouble => exact step (fits.fail attempt trouble) advanced
      | _ => cases advanced
  | authenticating attempt stage =>
      cases event with
      | troubled trouble =>
          exact step (fits.fail attempt trouble) (by cases stage <;> exact advanced)
      | proceeds =>
          cases stage with
          | welcome => exact step (fits.command trivial id attempt .sending) advanced
          | sending => exact step (fits.command trivial id attempt .response) advanced
          | response => cases advanced
      | accepted resubscribes =>
          cases stage with
          | welcome | sending => cases advanced
          | response =>
              have accepted := fits.accepted trivial attempt
              refine step ?_ advanced
              split
              · exact accepted
              · exact accepted.receive trivial
      | _ => cases stage <;> cases advanced
  | resubscribing attempt =>
      cases event with
      | sent more =>
          refine step ?_ advanced
          split
          · exact fits
          · exact fits.receive trivial
      | troubled trouble => exact step (fits.fail attempt trouble) advanced
      | _ => cases advanced
  | receiving =>
      cases event with
      | finished => exact step (fits.release 0) advanced
      | troubled trouble => exact step (fits.fail 0 trouble) advanced
      | _ => cases advanced
  | releasing attempt socket =>
      cases event <;> try cases advanced
      have closed : (life.endClose socket).Fits (some (.releasing attempt socket)) :=
        fits.touch socket fun _ => rfl
      exact step ((closed.idle id).settle attempt) advanced
  | sleeping attempt =>
      cases event <;> try cases advanced
      exact step ((fits.idle id).iterate attempt) advanced
  | retiring socket => cases alive
  | ended => cases alive

/-! ## One loop at a time -/

variable {first last : UpstreamLife} {action : Action} {i : Nat} {event : LoopEvent}

/-- The attempts of a loop leave the other tasks alone. -/
def Beside (before after : UpstreamLife) : Prop :=
  after.loops = before.loops ∧ after.closers = before.closers ∧
    after.transportFailed = before.transportFailed

theorem beside_closeWs (life : UpstreamLife) : life.Beside life.closeWs.2 := by
  unfold UpstreamLife.closeWs
  split <;> exact ⟨rfl, rfl, rfl⟩

theorem beside_iterate (life : UpstreamLife) (attempt : Nat) :
    life.Beside (life.iterate attempt).1 := by
  have closed := life.beside_closeWs
  unfold iterate
  split
  · split <;> (next same => rw [same] at closed; exact closed)
  · exact ⟨rfl, rfl, rfl⟩

theorem beside_settle (life : UpstreamLife) (attempt : Nat) :
    life.Beside (life.settle attempt).1 := by
  unfold settle
  split
  · split <;> exact ⟨rfl, rfl, rfl⟩
  · exact ⟨rfl, rfl, rfl⟩

theorem beside_release (life : UpstreamLife) (attempt : Nat) :
    life.Beside (life.release attempt).1 := by
  have closed := beside_closeWs { life with authenticated := false }
  unfold release
  split
  next same other =>
    rw [other] at closed
    obtain ⟨loops, closers, failed⟩ := same.beside_settle attempt
    exact ⟨loops.trans closed.1, closers.trans closed.2.1, failed.trans closed.2.2⟩
  next other =>
    rw [other] at closed
    exact closed

theorem beside_fail (life : UpstreamLife) (attempt : Nat) (trouble : Trouble) :
    life.Beside (life.fail attempt trouble).1 := by
  have closed := beside_closeWs { life with running := false, authenticated := false }
  unfold fail
  split
  · split <;> (next same => rw [same] at closed; exact closed)
  · exact life.beside_release attempt

theorem beside_receive (life : UpstreamLife) : life.Beside life.receive.1 := by
  unfold receive
  split
  · exact life.beside_release 0
  · exact ⟨rfl, rfl, rfl⟩

theorem beside_command (life : UpstreamLife) (attempt : Nat) (stage : AuthStage) :
    life.Beside (life.command attempt stage).1 := by
  unfold command
  split
  · exact life.beside_fail attempt _
  · exact ⟨rfl, rfl, rfl⟩

theorem beside_advance (advanced : life.advance loop event = some (after, next)) :
    life.Beside after := by
  have step : ∀ {result : UpstreamLife × ConnectLoop}, life.Beside result.1 →
      some result = some (after, next) → life.Beside after := by
    rintro _ beside ⟨⟩
    exact beside
  unfold advance at advanced
  split at advanced
  · exact step (beside_iterate { life with running := true } 0) advanced
  · exact step ⟨rfl, rfl, rfl⟩ advanced
  · exact step ⟨rfl, rfl, rfl⟩ advanced
  · exact step (beside_command _ _ _) advanced
  · exact step (beside_command _ _ _) advanced
  · refine step ?_ advanced
    split
    · exact ⟨rfl, rfl, rfl⟩
    · exact beside_receive _
  · refine step ?_ advanced
    split
    · exact ⟨rfl, rfl, rfl⟩
    · exact beside_receive _
  · exact step (beside_release _ 0) advanced
  · exact step (beside_settle (life.endClose _) _) advanced
  · exact step ⟨rfl, rfl, rfl⟩ advanced
  · exact step (beside_iterate _ _) advanced
  · exact step (beside_fail _ _ _) advanced
  · exact step (beside_fail _ _ _) advanced
  · exact step (beside_fail _ _ _) advanced
  · exact step (beside_fail _ _ _) advanced
  · cases advanced

/-- What the step of a loop does to the list of the loops. -/
theorem step_loop (stepped : life.step (.loop i event) = some after) :
    ∃ before loop others reached next, life.loops = before ++ loop :: others ∧
      life.advance loop event = some (reached, next) ∧
      after = { reached with loops := before ++ next :: others } := by
  obtain ⟨loop, found, rest⟩ := Option.bind_eq_some_iff.mp stepped
  obtain ⟨⟨reached, next⟩, advanced, put⟩ := Option.bind_eq_some_iff.mp rest
  obtain rfl := Option.some.inj put
  obtain ⟨inside, rfl⟩ := List.getElem?_eq_some_iff.mp found
  refine ⟨life.loops.take i, life.loops[i], life.loops.drop (i + 1), reached, next,
    ?_, advanced, ?_⟩
  · rw [List.cons_getElem_drop_succ, List.take_append_drop]
  · simp only [(beside_advance advanced).1, List.set_eq_take_append_cons_drop, if_pos inside]

theorem beside_advanceCloser (life : UpstreamLife) (closer : Closer) :
    life.Beside (life.advanceCloser closer).1 := by
  unfold advanceCloser
  split
  · have closed := life.beside_closeWs
    split <;> (next other => rw [other] at closed; exact closed)
  · exact ⟨rfl, rfl, rfl⟩
  · exact ⟨rfl, rfl, rfl⟩

/-- What the step of a closer does to the list of the closers. -/
theorem step_closer (stepped : life.step (.closer i) = some after) :
    ∃ before closer others, life.closers = before ++ closer :: others ∧
      after = { (life.advanceCloser closer).1 with
        closers := before ++ (life.advanceCloser closer).2 :: others } := by
  obtain ⟨closer, found, put⟩ := Option.bind_eq_some_iff.mp stepped
  obtain ⟨inside, rfl⟩ := List.getElem?_eq_some_iff.mp found
  have put : { (life.advanceCloser life.closers[i]).1 with
      closers := (life.advanceCloser life.closers[i]).1.closers.set i
        (life.advanceCloser life.closers[i]).2 } = after := Option.some.inj put
  rw [(life.beside_advanceCloser _).2.1, List.set_eq_take_append_cons_drop, if_pos inside] at put
  refine ⟨life.closers.take i, life.closers[i], life.closers.drop (i + 1), ?_, put.symm⟩
  rw [List.cons_getElem_drop_succ, List.take_append_drop]

/-- The part of the state that says what the loop that is alive has. -/
theorem Fits.elsewhere {alive : Option ConnectLoop} (fits : life.Fits alive)
    (loops : List ConnectLoop) (closers : List Closer) :
    ({ life with loops := loops, closers := closers } : UpstreamLife).Fits alive :=
  ⟨fits.running, fits.alive, fits.holds, fits.kept, fits.serves, fits.event,
    fits.sockets, fits.inside⟩

/-- The transport fails, whatever the loop that is alive has. -/
theorem Fits.failTransport {alive : Option ConnectLoop} (fits : life.Fits alive) :
    life.failTransport.Fits alive :=
  ⟨nofun, fun _ => .inr rfl, fits.holds, nofun, fits.serves, nofun, fits.sockets, fits.inside⟩

/-- After the transport has failed, the socket may be taken away from the loop that is alive. -/
theorem Fits.advanceCloser {alive : Option ConnectLoop} (fits : life.Fits alive)
    (failed : life.transportFailed = true) (closer : Closer) :
    (life.advanceCloser closer).1.Fits alive := by
  cases closer with
  | scheduled =>
      by_cases used : life.ws = none
      · unfold UpstreamLife.advanceCloser UpstreamLife.closeWs
        rw [used]
        exact fits
      · obtain ⟨idle, running, still⟩ :=
          Ready.closeWs ⟨fun none => absurd none used, fits.sockets⟩
        have closed : life.closeWs.2.Fits alive := by
          refine idle.fits (running ▸ fits.running) (fun _ => .inr (still.trans failed)) ?_
          intro working
          rw [still, failed] at working
          cases working
        dsimp only [UpstreamLife.advanceCloser]
        split <;> (next same => rw [same] at closed; exact closed)
  | closing socket => exact fits.touch socket fun _ => rfl
  | done => exact fits

/-- At most one loop is alive, and what the connection has is what that loop has. -/
structure Sound (life : UpstreamLife) : Prop where
  fits : ∃ alive : Option ConnectLoop,
    life.loops.filter ConnectLoop.alive = alive.toList ∧ life.Fits alive
  failed : life.closers ≠ [] → life.transportFailed = true

theorem toList_living (next : ConnectLoop) :
    (living next).toList = [next].filter ConnectLoop.alive := by
  unfold living
  split
  next alive => rw [List.filter_cons_of_pos alive]; rfl
  next exited => rw [List.filter_cons_of_neg exited]; rfl

/-- Where one loop at most is alive, a loop that is alive has only dead ones around it. -/
theorem alone {before others : List ConnectLoop} {alive : Option ConnectLoop}
    (one : (before ++ loop :: others).filter ConnectLoop.alive = alive.toList)
    (lives : loop.alive = true) :
    alive = some loop ∧ before.filter ConnectLoop.alive = [] ∧
      others.filter ConnectLoop.alive = [] := by
  rw [List.filter_append, List.filter_cons_of_pos lives] at one
  cases alive with
  | none => simp at one
  | some only =>
      rcases List.append_eq_singleton_iff.mp one with ⟨none, same⟩ | ⟨-, empty⟩
      · obtain ⟨rfl, rest⟩ := List.cons.inj same
        exact ⟨rfl, none, rest⟩
      · cases empty

/-- A loop that has decided to exit only waits for its socket to be closed. -/
theorem advance_exited (exited : loop.alive = false)
    (advanced : life.advance loop event = some (after, next)) :
    next = .ended ∧ ∃ socket, loop = .retiring socket ∧ after = life.endClose socket := by
  cases loop with
  | retiring socket =>
      cases event <;> try cases advanced
      exact ⟨rfl, socket, rfl, rfl⟩
  | ended => cases advanced
  | _ => cases exited

/-- No loop is alive in a connection that has gone dormant. -/
theorem Fits.dormant {alive : Option ConnectLoop} (fits : life.Fits alive)
    (working : life.transportFailed = false) (stopped : life.running = false) : alive = none := by
  by_contra some
  rcases fits.alive some with running | broken
  · exact Bool.false_ne_true (stopped.symm.trans running)
  · exact Bool.false_ne_true (working.symm.trans broken)

theorem Sound.step (sound : life.Sound) (stepped : life.step action = some after) :
    after.Sound := by
  obtain ⟨⟨alive, one, fits⟩, failed⟩ := sound
  cases action with
  | loop i event =>
      obtain ⟨before, loop, others, reached, next, split_, advanced, rfl⟩ := step_loop stepped
      obtain ⟨-, closers, still⟩ := beside_advance advanced
      rw [split_] at one
      refine ⟨?_, fun any => still.trans (failed (closers ▸ any))⟩
      by_cases lives : loop.alive = true
      · obtain ⟨rfl, left, right⟩ := alone one lives
        refine ⟨living next, ?_, (fits.advance lives advanced).elsewhere _ _⟩
        rw [List.filter_append, left, List.nil_append, ← List.singleton_append, List.filter_append,
          right, List.append_nil, toList_living]
      · have exited : loop.alive = false := by simpa using lives
        obtain ⟨rfl, socket, rfl, rfl⟩ := advance_exited exited advanced
        have closed : (life.endClose socket).Fits alive := fits.touch socket fun _ => rfl
        refine ⟨alive, ?_, closed.elsewhere _ _⟩
        rw [← one]
        simp only [List.filter_append, List.filter_cons, ConnectLoop.alive]
        rfl
  | ensureConnected =>
      cases stepped
      unfold UpstreamLife.ensureConnected
      split
      next => exact ⟨⟨alive, one, fits⟩, failed⟩
      next dormant =>
        simp only [Bool.or_eq_true, not_or, Bool.not_eq_true] at dormant
        obtain ⟨⟨working, -⟩, stopped⟩ := dormant
        obtain rfl := fits.dormant working stopped
        obtain ⟨unused, shut, -, sockets⟩ := fits.vacant nofun
        have idle : ({ life with running := true, connectedEvent := false } : UpstreamLife).Idle :=
          ⟨unused, shut, fun _ => rfl, sockets⟩
        refine ⟨⟨some .scheduled, ?_, (idle.goesOn (.inl rfl) id).elsewhere _ _⟩, failed⟩
        exact List.filter_append _ _ |>.trans (one ▸ rfl)
  | drop socket =>
      cases stepped
      exact ⟨⟨alive, one, fits.touch socket fun _ => rfl⟩, failed⟩
  | failTransport =>
      cases stepped
      exact ⟨⟨alive, one, fits.failTransport⟩, fun _ => rfl⟩
  | closer i =>
      obtain ⟨before, closer, others, split_, rfl⟩ := step_closer stepped
      have broken := failed (by rw [split_]; exact List.append_ne_nil_of_right_ne_nil _ nofun)
      obtain ⟨loops, -, still⟩ := life.beside_advanceCloser closer
      refine ⟨⟨alive, ?_, (fits.advanceCloser broken closer).elsewhere _ _⟩,
        fun _ => still.trans broken⟩
      exact (congrArg _ loops).trans one

theorem Sound.begin (maxRetries : Nat) (eager : Bool) :
    (UpstreamLife.begin maxRetries eager).Sound := by
  have idle : (new maxRetries).Idle := ⟨rfl, rfl, fun _ => rfl, nofun⟩
  cases eager with
  | true =>
      exact ⟨⟨some .scheduled, rfl, ((idle.running true).goesOn (.inl rfl) id).elsewhere _ _⟩,
        nofun⟩
  | false => exact ⟨⟨none, rfl, idle.exited rfl⟩, nofun⟩

/-- Every run keeps it. -/
theorem Sound.run {maxRetries : Nat} {eager : Bool}
    (run : Free UpstreamLife.step (UpstreamLife.begin maxRetries eager) life) : life.Sound :=
  run.keeps (fun _ _ _ _ stepped sound => sound.step stepped) (Sound.begin maxRetries eager)

variable {maxRetries : Nat} {eager : Bool}

/-- Whoever is woken when, at most one loop of a connection is alive, the flag says whether one is
as long as the transport works, a connection that counts as connected has a loop behind it, and
every socket that is no longer the current one is being closed. -/
theorem one_loop_is_alive
    (run : Free UpstreamLife.step (UpstreamLife.begin maxRetries eager) life) :
    (life.loops.filter ConnectLoop.alive).length ≤ 1 ∧
      (life.running = true → ∃ loop ∈ life.loops, loop.alive = true) ∧
      (life.transportFailed = false → (∃ loop ∈ life.loops, loop.alive = true) →
        life.running = true) ∧ (life.isConnected = true → ∃ loop ∈ life.loops, loop.Serves) ∧
      ∀ id socket, life.sockets[id]? = some socket → socket.closing = false →
        life.ws = some id := by
  obtain ⟨⟨alive, one, fits⟩, -⟩ := Sound.run run
  have listed : ∀ loop, loop ∈ alive ↔ loop ∈ life.loops ∧ loop.alive = true := fun loop => by
    rw [← List.mem_filter, one, Option.mem_toList, Option.mem_def]
  refine ⟨?_, fun running => ?_, fun working lives => ?_, fun connected => ?_, fits.sockets⟩
  · rw [one]
    exact Option.length_toList_le
  · obtain ⟨loop, some⟩ := Option.ne_none_iff_exists'.mp (fits.running running)
    exact ⟨loop, (listed loop).mp some⟩
  · obtain ⟨loop, mem⟩ := lives
    have some : alive ≠ none := Option.ne_none_iff_exists'.mpr ⟨loop, (listed loop).mpr mem⟩
    refine (fits.alive some).resolve_right fun failed => ?_
    rw [working] at failed
    cases failed
  · obtain ⟨loop, mem, serves⟩ := fits.serves (Bool.and_eq_true _ _ ▸ connected).1
    exact ⟨loop, ((listed loop).mp mem).1, serves⟩

/-- A client subscribes, the broker refuses another connection, and while the socket is still being
closed the next client starts a loop anew. -/
def refusedOnce : List Action :=
  [.ensureConnected, .loop 0 .begins, .loop 0 .opened, .loop 0 .proceeds, .loop 0 .proceeds,
    .loop 0 (.troubled (.raised "Auth failed: connection limit exceeded")), .ensureConnected,
    .loop 1 .begins, .loop 1 .opened, .loop 1 .proceeds, .loop 1 .proceeds,
    .loop 1 (.accepted false)]

theorem one_loop_after_refusal : ∃ life, play step (begin 10 false) refusedOnce = some life ∧
    life.isConnected = true ∧ life.loops = [.retiring 0, .receiving] ∧
    ∃ loop ∈ life.loops, loop.Serves := by
  have played : ∃ life, play step (begin 10 false) refusedOnce = some life ∧
      life.isConnected = true ∧ life.loops = [.retiring 0, .receiving] := by
    refine ⟨_, rfl, ?_, ?_⟩ <;> decide
  obtain ⟨life, ran, connected, loops⟩ := played
  exact ⟨life, ran, connected, loops,
    (one_loop_is_alive (play_runs ran fun _ _ _ => trivial)).2.2.2.1 connected⟩

end UpstreamLife

end Streaming
end DataGateway
