import DataGateway.Historical.Session
import Mathlib.Data.Finset.Card

/-!
# Slots of replay sessions

A slot of the endpoint limiter is taken when a session is created, and given back from the `finally`
block of every socket that was attached to the session, and by its deletion.  The loop of the
session is a task of its own, which may outlive the socket that started it.
-/

namespace DataGateway
namespace Historical

/-! ## The limiter -/

/-- `acquire_concurrent` of the group `replay_session`: the sessions that hold a
slot, or the error. -/
def acquireConcurrent (maxConcurrent : Option Nat) (sessions : Finset Nat) (session : Nat) :
    Option (Finset Nat) :=
  match maxConcurrent with
  | none => some sessions
  | some limit =>
      if session ∈ sessions then some sessions
      else if limit ≤ sessions.card then none
      else some (insert session sessions)

/-! ## Sockets -/

/-- How a socket handler is interrupted. -/
inductive SocketError
  | disconnect
  | cancelled
  | other
  deriving DecidableEq

/-- What the handlers and loops do at once, up to their next wait. -/
inductive HistoricalCommand (Message : Type)
  /-- A command of the loop that the task is. -/
  | loop (session : Nat) (command : LoopCommand Message)
  /-- Whether the session is there and the client's. -/
  | find (session : Nat)
  /-- The socket is accepted and told the state of the session. -/
  | accept
  | startSession (session : Nat)
  /-- The loop is done, or the task that receives control messages. -/
  | waitDone (session loop : Nat)
  /-- A message to the client. -/
  | say
  | stopSession (session : Nat)
  /-- The end of the task that receives control messages. -/
  | awaitControl
  /-- `release_concurrent`. -/
  | release (session : Nat)

/-- What the task learns. -/
@[reducible] def HistoricalCommand.Reply {Message : Type} : HistoricalCommand Message → Type
  | .loop _ command => command.Reply
  | .find _ => Bool
  | .startSession _ => Except SocketError Nat
  | .accept | .waitDone _ _ | .say | .awaitControl => Except SocketError Unit
  | .stopSession _ | .release _ => Unit

/-- What the surroundings decide: what interrupts the handler, if anything does, and whether the
receiving task is the one that is done. -/
@[reducible] def HistoricalCommand.Outcome {Message : Type} : HistoricalCommand Message → Type
  | .loop _ command => command.Outcome
  | .find _ => Bool
  | .accept | .say | .awaitControl => Option SocketError
  | .waitDone _ _ => Option (Option SocketError)
  | _ => Unit

/-- The sessions by number, and who holds a slot. -/
structure SlotWorld (Message : Type) where
  sessions : List (ManagedSession Message)
  slots : Finset Nat

/-- What happens to the sessions from REST handlers and control messages. -/
inductive SlotMove
  /-- `create_replay_session`. -/
  | create (speed : ℚ)
  | control (session : Nat) (action : SessionMove)
  /-- `delete_session`. -/
  | delete (session : Nat)

/-- A loop of a session, or a socket. -/
abbrev SlotTask := (Nat × Nat) ⊕ Nat

namespace SlotWorld

variable {Message : Type}

/-- The loop of a session runs. -/
def Runs (world : SlotWorld Message) (session loop : Nat) : Prop :=
  ∃ entry ∈ world.sessions[session]?, loop ∈ entry.session.running

/-- Some loop of a session runs. -/
def Running (world : SlotWorld Message) (session : Nat) : Prop := ∃ loop, world.Runs session loop

/-- The manager has the session. -/
def Registered (world : SlotWorld Message) (session : Nat) : Prop :=
  ∃ entry ∈ world.sessions[session]?, entry.registered = true

/-- Change one session. -/
def modify (world : SlotWorld Message) (session : Nat)
    (change : ManagedSession Message → ManagedSession Message) : SlotWorld Message :=
  { world with sessions := world.sessions.modify session change }

/-- `release_concurrent`. -/
def release (world : SlotWorld Message) (session : Nat) : SlotWorld Message :=
  { world with slots := world.slots.erase session }

/-- `MAX_SESSIONS`. -/
def maxSessions : Nat := 10

/-- `create_replay_session`: a session without a slot is deleted again. -/
def create (maxConcurrent : Option Nat) (world : SlotWorld Message) (speed : ℚ) :
    SlotWorld Message :=
  if maxSessions ≤ world.sessions.countP ManagedSession.registered then world
  else
    match acquireConcurrent maxConcurrent world.slots world.sessions.length with
    | some slots => ⟨world.sessions ++ [⟨.new speed, true⟩], slots⟩
    | none => ⟨world.sessions ++ [⟨(ReplaySession.new speed).stop, false⟩], world.slots⟩

/-- A call of a handler, or a control message. -/
def disturb (maxConcurrent : Option Nat) (world : SlotWorld Message) :
    SlotMove → SlotWorld Message
  | .create speed => world.create maxConcurrent speed
  | .control session action =>
      match action with
      | .pause | .resume _ | .stop => world.modify session (ManagedSession.disturb · action)
      | .start | .delete => world
  | .delete session =>
      match world.sessions[session]? with
      | some ⟨_, true⟩ => (world.modify session (ManagedSession.disturb · .delete)).release session
      | _ => world

/-- Perform a command. -/
def act (format : ReplayFormat Message) (task : SlotTask) (world : SlotWorld Message) :
    (command : HistoricalCommand Message) → command.Outcome →
      Option (command.Reply × SlotWorld Message)
  | .loop session command, outcome =>
      match task, world.sessions[session]? with
      | .inl (_, loop), some entry =>
          (entry.session.act format loop command outcome).map fun (reply, after) =>
            (reply, world.modify session fun entry => { entry with session := after })
      | _, _ => none
  | .find session, mine =>
      some ((world.sessions[session]?.any ManagedSession.registered) && mine, world)
  | .accept, interrupted | .say, interrupted | .awaitControl, interrupted =>
      some (match interrupted with
        | none => .ok ()
        | some error => .error error, world)
  | .startSession session, _ =>
      match world.sessions[session]? with
      | some entry =>
          if entry.registered ∧ entry.session.Startable then
            some (.ok entry.session.started,
              world.modify session (ManagedSession.disturb · .start))
          else some (.error .other, world)
      | none => some (.error .other, world)
  | .waitDone session loop, control =>
      match control with
      | some none => some (.ok (), world)
      | some (some error) => some (.error error, world)
      | none =>
          if world.sessions[session]?.any (loop ∈ ·.session.running) then none
          else some (.ok (), world)
  | .stopSession session, _ => some ((), world.modify session (ManagedSession.disturb · .stop))
  | .release session, _ => some ((), world.release session)

end SlotWorld

/-- A computation of a handler or a loop. -/
abbrev SlotProgram (Message α : Type) :=
  Coroutine (@HistoricalCommand.Reply Message) SocketError α

namespace SlotProgram

variable {Message : Type}

/-- One command, whose exception goes on. -/
def ask {α : Type} (command : HistoricalCommand Message)
    (answer : command.Reply → Except SocketError α) : SlotProgram Message α :=
  .suspend command fun reply => .finish (answer reply)

/-- What a socket does with the session that it found. -/
def attached (session : Nat) : SlotProgram Message Unit :=
  ((ask (.startSession session) id).bind fun loop =>
    (ask (.waitDone session loop) id).bind fun _ => ask .say id).catching fun
      | .disconnect => ask (.stopSession session) .ok
      | .cancelled => .raise .cancelled
      | .other => ask .say id

/-- `replay_websocket`. -/
def replayWebsocket (session : Nat) : SlotProgram Message Unit :=
  (ask (.find session) .ok).bind fun found =>
    if !found then pure ()
    else
      (ask .accept id).bind fun _ =>
        (attached session).ensuring
          ((ask .awaitControl id).bind fun _ => ask (.release session) .ok)

/-- A loop of a session. -/
def replayLoop (format : ReplayFormat Message) (session : Nat) : SlotProgram Message Unit :=
  format.runReplay.embed (HistoricalCommand.loop session) (fun _ reply => reply)
    fun _ => SocketError.other

/-- The loops of all sessions, and sockets for the sessions that they ask for. -/
def tasks (format : ReplayFormat Message) (target : Nat → Nat) : SlotTask → SlotProgram Message Unit
  | .inl (session, _) => replayLoop format session
  | .inr socket => replayWebsocket (target socket)

end SlotProgram

/-- Sessions, loops and sockets. -/
def slotted {Message : Type} (format : ReplayFormat Message) (maxConcurrent : Option Nat) :
    Machine SlotTask (@HistoricalCommand.Reply Message) (SlotWorld Message) where
  Outcome := HistoricalCommand.Outcome
  perform task command outcome world := world.act format task command outcome
  Disturbance := SlotMove
  disturb move world := world.disturb maxConcurrent move

end Historical
end DataGateway
