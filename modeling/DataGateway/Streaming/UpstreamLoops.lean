import DataGateway.Coroutine.Stepping
import Mathlib.Data.List.Infix

/-!
# Connect loops

The broker gives each endpoint one slot.  A connect loop opens a socket, uses it until it breaks,
closes it and tries again, until its attempts are used up or the broker says that trying is of no
use; whoever subscribes next, or the supervisor, starts a new loop then.  The loop waits in many
places, and what it finds in the connection afterwards may not be what it left there.
-/

namespace DataGateway
namespace Streaming

/-! ## Loops -/

/-- An exception in a connect loop. -/
inductive Trouble
  | connectionClosed
  | raised (message : String)
  deriving DecidableEq

/-- `_NON_RECOVERABLE_ERRORS`. -/
def nonRecoverableErrors : List String := ["connection limit exceeded"]

/-- The exception says that another attempt is of no use. -/
def Trouble.nonRecoverable : Trouble → Bool
  | .connectionClosed => false
  | .raised message => nonRecoverableErrors.any fun text => text.toList <:+: message.toList

/-- What `authenticate` waits for. -/
inductive AuthStage
  | welcome
  | sending
  | response
  deriving DecidableEq

/-- What a connect loop waits for, with the number of its failed attempts. -/
inductive ConnectLoop
  /-- The task is created, and has not begun. -/
  | scheduled
  /-- `connect` closes an earlier socket. -/
  | clearing (attempt socket : Nat)
  /-- `websockets.connect`. -/
  | connecting (attempt : Nat)
  | authenticating (attempt : Nat) (stage : AuthStage)
  /-- `subscribe` sends a frame. -/
  | resubscribing (attempt : Nat)
  /-- `_receive_loop`. -/
  | receiving
  /-- The socket is closed before the next attempt. -/
  | releasing (attempt socket : Nat)
  /-- The socket is closed, and the stream goes dormant. -/
  | retiring (socket : Nat)
  | sleeping (attempt : Nat)
  | ended
  deriving DecidableEq

/-- What a loop waited for has happened. -/
inductive LoopEvent
  | begins
  /-- The attempt to close a socket is over. -/
  | closed
  | opened
  /-- A message or a send of `authenticate` is through. -/
  | proceeds
  /-- The broker accepts the credentials; there may be something to subscribe to. -/
  | accepted (resubscribes : Bool)
  /-- A frame of `subscribe` is out; there may be another one. -/
  | sent (more : Bool)
  /-- The messages have come to an end. -/
  | finished
  | troubled (trouble : Trouble)
  | woken

/-- A task of `_fail_transport`, which closes the socket of one connection. -/
inductive Closer
  | scheduled
  | closing (socket : Nat)
  | done
  deriving DecidableEq

/-- A socket to the broker. -/
structure LoopSocket where
  isOpen : Bool
  /-- The attempt to close it has begun. -/
  closing : Bool
  /-- The attempt to close it is over. -/
  closed : Bool
  deriving DecidableEq

/-- What the loops of an `UpstreamConnection` share, with every socket that they opened. -/
structure UpstreamLife where
  maxRetries : Nat
  running : Bool
  transportFailed : Bool
  authenticated : Bool
  /-- `_connected_event`. -/
  connectedEvent : Bool
  ws : Option Nat
  sockets : List LoopSocket
  loops : List ConnectLoop
  closers : List Closer
  deriving DecidableEq

namespace UpstreamLife

/-- `__init__`. -/
def new (maxRetries : Nat) : UpstreamLife :=
  ⟨maxRetries, false, false, false, false, none, [], [], []⟩

/-- `is_connected`. -/
def isConnected (life : UpstreamLife) : Bool :=
  life.authenticated && (life.ws.bind (life.sockets[·]?)).any LoopSocket.isOpen

/-- Change one socket. -/
def modifySocket (life : UpstreamLife) (socket : Nat) (change : LoopSocket → LoopSocket) :
    UpstreamLife :=
  { life with sockets := life.sockets.modify socket change }

/-- The attempt to close a socket is over. -/
def endClose (life : UpstreamLife) (socket : Nat) : UpstreamLife :=
  life.modifySocket socket fun state => { state with isOpen := false, closed := true }

/-- `_close_ws` up to its wait, for which it gives the socket. -/
def closeWs (life : UpstreamLife) : Option Nat × UpstreamLife :=
  match life.ws with
  | none => (none, life)
  | some socket =>
      (some socket,
        { life.modifySocket socket fun state => { state with closing := true } with
          ws := none, authenticated := false, connectedEvent := false })

/-- The top of `_connect_and_run`: the flag, and `connect` up to its first wait. -/
def iterate (life : UpstreamLife) (attempt : Nat) : UpstreamLife × ConnectLoop :=
  if life.running then
    match life.closeWs with
    | (none, same) => (same, .connecting attempt)
    | (some socket, closing) => (closing, .clearing attempt socket)
  else (life, .ended)

/-- The end of an attempt, once its socket is closed. -/
def settle (life : UpstreamLife) (attempt : Nat) : UpstreamLife × ConnectLoop :=
  if life.running then
    if life.maxRetries < attempt + 1 then ({ life with running := false }, .ended)
    else (life, .sleeping (attempt + 1))
  else (life, .ended)

/-- The end of an attempt: the slot is released. -/
def release (life : UpstreamLife) (attempt : Nat) : UpstreamLife × ConnectLoop :=
  match { life with authenticated := false }.closeWs with
  | (none, same) => same.settle attempt
  | (some socket, closing) => (closing, .releasing attempt socket)

/-- An exception ends an attempt, or all of them. -/
def fail (life : UpstreamLife) (attempt : Nat) (trouble : Trouble) : UpstreamLife × ConnectLoop :=
  if trouble.nonRecoverable then
    match { life with running := false, authenticated := false }.closeWs with
    | (none, same) => (same, .ended)
    | (some socket, closing) => (closing, .retiring socket)
  else life.release attempt

/-- A command to the current socket of `authenticate`, unless there is none any more. -/
def command (life : UpstreamLife) (attempt : Nat) (stage : AuthStage) :
    UpstreamLife × ConnectLoop :=
  match life.ws with
  | none => life.fail attempt (.raised "'NoneType' object has no attribute")
  | some _ => (life, .authenticating attempt stage)

/-- `_receive_loop`, with which the attempts start anew. -/
def receive (life : UpstreamLife) : UpstreamLife × ConnectLoop :=
  match life.ws with
  | none => life.release 0
  | some _ => (life, .receiving)

/-- What a loop does when its wait is over, up to the next one. -/
def advance (life : UpstreamLife) : ConnectLoop → LoopEvent → Option (UpstreamLife × ConnectLoop)
  | .scheduled, .begins => some ({ life with running := true }.iterate 0)
  | .clearing attempt socket, .closed => some (life.endClose socket, .connecting attempt)
  | .connecting attempt, .opened =>
      some ({ life with
        ws := some life.sockets.length
        sockets := life.sockets ++ [⟨true, false, false⟩] }, .authenticating attempt .welcome)
  | .authenticating attempt .welcome, .proceeds => some (life.command attempt .sending)
  | .authenticating attempt .sending, .proceeds => some (life.command attempt .response)
  | .authenticating attempt .response, .accepted resubscribes =>
      let accepted := { life with authenticated := true, connectedEvent := true }
      some (if resubscribes && accepted.isConnected then (accepted, .resubscribing attempt)
        else accepted.receive)
  | .resubscribing attempt, .sent more =>
      some (if more && life.ws.isSome then (life, .resubscribing attempt) else life.receive)
  | .receiving, .finished => some (life.release 0)
  | .releasing attempt socket, .closed => some ((life.endClose socket).settle attempt)
  | .retiring socket, .closed => some (life.endClose socket, .ended)
  | .sleeping attempt, .woken => some (life.iterate attempt)
  | .connecting attempt, .troubled trouble | .authenticating attempt _, .troubled trouble
  | .resubscribing attempt, .troubled trouble => some (life.fail attempt trouble)
  | .receiving, .troubled trouble => some (life.fail 0 trouble)
  | _, _ => none

/-! ## Whoever needs the connection -/

/-- A task that runs `start`. -/
def start (life : UpstreamLife) : UpstreamLife :=
  { life with running := true, loops := life.loops ++ [.scheduled] }

/-- `_ensure_connected` up to its wait, for a client or the supervisor. -/
def ensureConnected (life : UpstreamLife) : UpstreamLife :=
  if life.transportFailed || life.isConnected || life.running then life
  else { life with connectedEvent := false }.start

/-- `_fail_transport`, for this connection, up to its wait. -/
def failTransport (life : UpstreamLife) : UpstreamLife :=
  { life with
    transportFailed := true, running := false, closers := life.closers ++ [.scheduled] }

/-- What a task of `_fail_transport` does, up to its next wait. -/
def advanceCloser (life : UpstreamLife) : Closer → UpstreamLife × Closer
  | .scheduled =>
      match life.closeWs with
      | (none, same) => (same, .done)
      | (some socket, closing) => (closing, .closing socket)
  | .closing socket => (life.endClose socket, .done)
  | .done => (life, .done)

/-- What happens to the connection. -/
inductive Action
  | loop (i : Nat) (event : LoopEvent)
  | ensureConnected
  /-- The peer of a socket is gone. -/
  | drop (socket : Nat)
  | failTransport
  /-- A task of `_fail_transport` goes on. -/
  | closer (i : Nat)

/-- One step. -/
def step (life : UpstreamLife) : Action → Option UpstreamLife
  | .loop i event => do
      let loop ← life.loops[i]?
      let (after, next) ← life.advance loop event
      some { after with loops := after.loops.set i next }
  | .ensureConnected => some life.ensureConnected
  | .drop socket => some (life.modifySocket socket fun state => { state with isOpen := false })
  | .failTransport => some life.failTransport
  | .closer i => do
      let closer ← life.closers[i]?
      let (after, next) := life.advanceCloser closer
      some { after with closers := after.closers.set i next }

/-- `start` of the multiplexer, which starts the loop of this connection or leaves it for later. -/
def begin (maxRetries : Nat) (eager : Bool) : UpstreamLife :=
  if eager then (new maxRetries).start else new maxRetries

end UpstreamLife

end Streaming
end DataGateway
