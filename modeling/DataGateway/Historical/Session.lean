import DataGateway.Coroutine.Interleaving
import Mathlib.Algebra.Order.Field.Rat
import Mathlib.Data.List.Sort

/-!
# Historical replay sessions

A session is controlled from REST and WebSocket handlers, none of which looks at its state, and is
played by the loops that `start_session` creates.  A loop looks at the stop flag once for each
message, in front of the delay that separates the message from the one before.
-/

namespace DataGateway
namespace Historical

/-! ## State -/

/-- `ReplayState`. -/
inductive ReplayState
  | pending
  | running
  | paused
  | completed
  | stopped
  | failed
  deriving DecidableEq

/-- The session has come to an end. -/
def ReplayState.Terminal : ReplayState → Prop
  | .completed | .stopped | .failed => True
  | .pending | .running | .paused => False

instance : DecidablePred ReplayState.Terminal
  | .completed | .stopped | .failed => .isTrue trivial
  | .pending | .running | .paused => .isFalse id

/-- Where a loop waits. -/
inductive LoopWait
  /-- It runs, or its callback does. -/
  | active
  | paused
  /-- The pause event was set since it waits. -/
  | released
  | sleeping
  deriving DecidableEq

/-- What happens to a session. -/
inductive SessionEvent (Message : Type)
  | became (state : ReplayState)
  /-- A callback is called. -/
  | delivered (loop sequence : Nat) (message : Message)
  deriving DecidableEq

/-- `ReplaySession`. -/
structure ReplaySession (Message : Type) where
  state : ReplayState
  sequence : Nat
  messagesSent : Nat
  speed : ℚ
  /-- `_pause_event` is not set. -/
  paused : Bool
  stopFlag : Bool
  /-- How many loops have been created. -/
  started : Nat
  /-- The loops whose task is not done. -/
  running : List Nat
  waits : Nat → LoopWait
  /-- The newest first. -/
  history : List (SessionEvent Message)

namespace ReplaySession

variable {Message : Type}

/-- A new session. -/
def new (speed : ℚ) : ReplaySession Message :=
  ⟨.pending, 0, 0, speed, false, false, 0, [], fun _ => .active, []⟩

/-- An assignment to `state`. -/
def become (session : ReplaySession Message) (state : ReplayState) : ReplaySession Message :=
  { session with state := state, history := .became state :: session.history }

/-- `_pause_event.set()`. -/
def setPauseEvent (session : ReplaySession Message) : ReplaySession Message :=
  { session with
    paused := false
    waits := fun loop => match session.waits loop with
      | .paused => .released
      | wait => wait }

/-- `pause`. -/
def pause (session : ReplaySession Message) : ReplaySession Message :=
  { session with paused := true }.become .paused

/-- `resume`. -/
def resume (session : ReplaySession Message) (speed : Option ℚ) : ReplaySession Message :=
  let speed := match speed with
    | some speed => if 0 < speed then speed else session.speed
    | none => session.speed
  ({ session with speed := speed }.setPauseEvent).become .running

/-- `stop`. -/
def stop (session : ReplaySession Message) : ReplaySession Message :=
  ({ session with stopFlag := true }.setPauseEvent).become .stopped

/-- The states from which `start_session` starts. -/
abbrev Startable (session : ReplaySession Message) : Prop :=
  session.state = .pending ∨ session.state = .paused

/-- `start_session` of a session that it finds and that may start. -/
def start (session : ReplaySession Message) : ReplaySession Message :=
  { session.become .running with
    started := session.started + 1
    running := session.started :: session.running }

/-- A loop waits for something else. -/
def wait (session : ReplaySession Message) (loop : Nat) (for_ : LoopWait) : ReplaySession Message :=
  { session with waits := Function.update session.waits loop for_ }

/-- The callback is called with the next message. -/
def deliver (session : ReplaySession Message) (loop : Nat) (message : Message) :
    ReplaySession Message :=
  { session with
    sequence := session.sequence + 1
    messagesSent := session.messagesSent + 1
    history := .delivered loop (session.sequence + 1) message :: session.history }

/-- The task of a loop is done. -/
def done (session : ReplaySession Message) (loop : Nat) : ReplaySession Message :=
  { session with running := session.running.filter (· ≠ loop) }

end ReplaySession

/-! ## Commands of a loop -/

/-- How far a loop comes with a message, once it is not paused. -/
inductive Progress
  | stopped
  /-- The speed is zero. -/
  | failed
  | sleeping
  | sent
  deriving DecidableEq

/-- What a loop does at once, up to its next wait. -/
inductive LoopCommand (Message : Type)
  | begin
  /-- `_load_data`. -/
  | load
  /-- `_spool_messages_to_tempfile`. -/
  | spool
  /-- A line of the spool file is read. -/
  | readLine (message : Message)
  /-- `wait_if_paused`, and what follows when the pause event is set. -/
  | checkPause (gap : Int) (message : Message)
  /-- What follows once the pause event has been set. -/
  | afterPause (gap : Int) (message : Message)
  /-- The delay is over. -/
  | wakeUp (message : Message)
  /-- The callback returns or raises. -/
  | callback
  /-- There was nothing to replay. -/
  | complete
  | completeIfRunning
  /-- The handler of exceptions. -/
  | fail

/-- What the loop learns. -/
@[reducible] def LoopCommand.Reply {Message : Type} : LoopCommand Message → Type
  | .load => Except Unit (List Message)
  | .readLine _ => Except Unit Message
  | .checkPause _ _ => Option Progress
  | .afterPause _ _ => Progress
  | .spool | .callback => Except Unit Unit
  | _ => Unit

/-- What the surroundings decide: the messages that are loaded, or whether something raises. -/
@[reducible] def LoopCommand.Outcome {Message : Type} : LoopCommand Message → Type
  | .load => Option (List Message)
  | .spool | .readLine _ | .callback => Bool
  | _ => Unit

/-- What a session manager uses of messages and settings. -/
structure ReplayFormat (Message : Type) where
  /-- `market_timestamp`, in microseconds. -/
  timestamp : Message → Int
  /-- A message written as a line and read again, which may raise. -/
  respooled : Message → Option Message
  timestamp_respooled : ∀ message read, respooled message = some read →
    timestamp read = timestamp message
  spoolListsToDisk : Bool
  spoolListThreshold : Nat

namespace ReplaySession

variable {Message : Type}

/-- A loop that is not paused looks at the stop flag, and sleeps or sends. -/
def proceed (session : ReplaySession Message) (loop : Nat) (gap : Int) (message : Message) :
    Progress × ReplaySession Message :=
  if session.stopFlag then (.stopped, session.wait loop .active)
  else if session.speed = 0 then (.failed, session.wait loop .active)
  else if 0 < (gap : ℚ) / session.speed then (.sleeping, session.wait loop .sleeping)
  else (.sent, (session.wait loop .active).deliver loop message)

/-- Perform a command of a loop. -/
def act (format : ReplayFormat Message) (loop : Nat) (session : ReplaySession Message) :
    (command : LoopCommand Message) → command.Outcome →
      Option (command.Reply × ReplaySession Message)
  | .begin, _ => if loop < session.started then some ((), session) else none
  | .load, none => some (.error (), session)
  | .load, some messages => some (.ok messages, session)
  | .spool, raises => some (if raises then .error () else .ok (), session)
  | .readLine message, raises =>
      some (match if raises then none else format.respooled message with
        | none => .error ()
        | some read => .ok read, session)
  | .checkPause gap message, _ =>
      if session.paused then some (none, session.wait loop .paused)
      else
        let (progress, after) := session.proceed loop gap message
        some (some progress, after)
  | .afterPause gap message, _ =>
      if session.waits loop = .released then some (session.proceed loop gap message) else none
  | .wakeUp message, _ =>
      if session.waits loop = .sleeping then
        some ((), (session.wait loop .active).deliver loop message)
      else none
  | .callback, raises => some (if raises then .error () else .ok (), session)
  | .complete, _ => some ((), (session.become .completed).done loop)
  | .completeIfRunning, _ =>
      some ((),
        (if session.state = .running then session.become .completed else session).done loop)
  | .fail, _ => some ((), (session.become .failed).done loop)

end ReplaySession

/-! ## The loop -/

/-- A computation of a loop. -/
abbrev ReplayLoop (Message α : Type) :=
  Coroutine (@LoopCommand.Reply Message) Unit α

/-- One command of a loop. -/
def ask {Message : Type} (command : LoopCommand Message) : ReplayLoop Message command.Reply :=
  .call command

namespace ReplayFormat

variable {Message : Type} (format : ReplayFormat Message)

/-- `_is_sorted_by_market_timestamp`. -/
def isSorted (messages : List Message) : Bool :=
  (messages.zip messages.tail).all fun pair => format.timestamp pair.1 ≤ format.timestamp pair.2

/-- The order in which the messages of a list are replayed. -/
def arrange (messages : List Message) : List Message :=
  if format.isSorted messages then messages
  else messages.insertionSort fun left right => format.timestamp left ≤ format.timestamp right

/-- The list is spooled to disk. -/
def spools (messages : List Message) : Bool :=
  format.spoolListsToDisk && format.spoolListThreshold < messages.length

/-- The messages are written to a spool file if there are many. -/
def spool (messages : List Message) : ReplayLoop Message Unit :=
  if format.spools messages then do
    let written ← ask .spool
    .finish written
  else pure ()

/-- The next message of the list, read from the spool file if there is one. -/
def take (spooled : Bool) (message : Message) : ReplayLoop Message Message :=
  if spooled then do
    let read ← ask (.readLine message)
    .finish read
  else pure message

/-- `wait_if_paused` and what follows up to the next wait. -/
def awaitTurn (gap : Int) (message : Message) : ReplayLoop Message Progress := do
  let checked ← ask (.checkPause gap message)
  match checked with
  | some progress => pure progress
  | none => ask (.afterPause gap message)

/-- The callback goes on until it returns or raises. -/
def finishCallback : ReplayLoop Message Bool := do
  let called ← ask .callback
  let _ ← .finish called
  pure true

/-- A message is replayed; whether the loop goes on. -/
def play (gap : Int) (message : Message) : ReplayLoop Message Bool := do
  let progress ← awaitTurn gap message
  match progress with
  | .stopped => pure false
  | .failed => .raise ()
  | .sleeping => do
      let _ ← ask (.wakeUp message)
      finishCallback
  | .sent => finishCallback

/-- The loop over the messages, after one with this timestamp. -/
def playAll (spooled : Bool) : Int → List Message → ReplayLoop Message Unit
  | _, [] => pure ()
  | previous, message :: messages => do
      let message ← take spooled message
      let goesOn ← play (format.timestamp message - previous) message
      if goesOn then playAll spooled (format.timestamp message) messages else pure ()

/-- The `try` block of `_run_replay`, for a list of messages. -/
def replayLoaded : ReplayLoop Message Unit := do
  let answer ← ask .load
  let loaded ← .finish answer
  let _ ← format.spool loaded
  match format.arrange loaded with
  | [] => ask .complete
  | first :: rest => do
      let _ ← format.playAll (format.spools loaded) (format.timestamp first) (first :: rest)
      ask .completeIfRunning

/-- `_run_replay`. -/
def runReplay : ReplayLoop Message Unit := do
  let _ ← ask .begin
  format.replayLoaded.catching fun _ => ask .fail

end ReplayFormat

/-! ## One session and its loops -/

/-- A session, and whether the manager has it. -/
structure ManagedSession (Message : Type) where
  session : ReplaySession Message
  registered : Bool

/-- What handlers do with a session. -/
inductive SessionMove
  | start
  | pause
  | resume (speed : Option ℚ)
  | stop
  | delete

namespace ManagedSession

variable {Message : Type}

/-- A call of a handler. -/
def disturb (world : ManagedSession Message) : SessionMove → ManagedSession Message
  | .start =>
      if world.registered ∧ world.session.Startable then
        { world with session := world.session.start }
      else world
  | .pause => { world with session := world.session.pause }
  | .resume speed => { world with session := world.session.resume speed }
  | .stop => { world with session := world.session.stop }
  | .delete => if world.registered then ⟨world.session.stop, false⟩ else world

end ManagedSession

/-- A session with every loop that it may ever have. -/
def replaying {Message : Type} (format : ReplayFormat Message) :
    Machine Nat (@LoopCommand.Reply Message) (ManagedSession Message) where
  Outcome := LoopCommand.Outcome
  perform loop command outcome world :=
    (world.session.act format loop command outcome).map fun (reply, session) =>
      (reply, { world with session := session })
  Disturbance := SessionMove
  disturb move world := world.disturb move

end Historical
end DataGateway
