import DataGateway.Coroutine.Interleaving
import DataGateway.Streaming.FlowFanout
import DataGateway.Streaming.Upstream

/-!
# The streaming gateway

Clients' handlers share the upstream connections and the registry for option flow.  A handler gives
way only where it waits: for its client, for the upstream sockets and for a connection to come up.
What it does between two waits is one command.
-/

namespace DataGateway
namespace Streaming

/-! ## Messages and responses -/

/-- A field that should be a list of texts. -/
inductive ListField
  | texts (items : List String)
  | other
  deriving DecidableEq

/-- A message of a client, with the fields that are read; `none` stands for a
field that is absent. -/
structure ClientMessage where
  action : String
  provider : Option String
  feeds : Option ListField
  feed : Option String
  symbols : Option ListField
  /-- A text, or something else than a text. -/
  afterStreamId : Option (Option String)

/-- The status of a subscription. -/
inductive AckStatus
  | ok
  | warning
  | error
  deriving DecidableEq, Repr

/-- `subscription_ack`; the lists of symbols are sent sorted. -/
structure SubscriptionAck where
  status : AckStatus
  provider : String
  feeds : List String
  subscribed : Finset String
  failed : Finset String
  warnings : List StreamWarning
  /-- `error_code` or `warning_code`, with the message. -/
  note : Option (String × String)
  rollbackErrors : List (String × StreamError)
  /-- `resume_supported`, with `replay_high_watermark` when it is. -/
  resume : Option (Option String)

/-- What a handler answers. -/
inductive Response
  | heartbeatAck
  | pong
  | error (code message : String)
  | subscriptionAck (ack : SubscriptionAck)
  | unsubscriptionAck (provider : String) (feeds : List String) (unsubscribed : Finset String)
  | status (subscriptions : Finset String)

/-! ## Commands -/

/-- What a handler does at once, up to its next wait. -/
inductive StreamCommand
  /-- `receive`, or the end of the loop. -/
  | receive
  /-- `send_json`. -/
  | sendJson (response : Response)
  /-- `get_multiplexer`. -/
  | getMultiplexer
  /-- `_ensure_connected`. -/
  | ensureConnected (streamType : AlpacaStreamType)
  /-- The manager's `subscribe`, and `UpstreamConnection.subscribe` up to its first send. -/
  | subscribe (streamType : AlpacaStreamType) (requested : PerFeed (List String))
  /-- The manager's `unsubscribe`, and `UpstreamConnection.unsubscribe` up to its first send. -/
  | unsubscribe (streamType : AlpacaStreamType) (requested : PerFeed (List String))
  /-- The manager's `remove_client`, and `UpstreamConnection.unsubscribe` up to its first send. -/
  | removeClient (streamType : AlpacaStreamType)
  /-- `_send_ancillary_channel_request`. -/
  | sendAncillary (streamType : AlpacaStreamType) (action : FrameAction)
      (candidates : Finset String)
  /-- `get_flow_fanout`. -/
  | getFlowFanout
  | producerWired
  | flowSubscribe (symbols : List String)
  | flowUnsubscribe (symbols : List String)
  | flowDisconnect
  /-- What `prepare_replay` asks of the replay store. -/
  | highWatermark

/-- What the handler learns. -/
@[reducible] def StreamCommand.Reply : StreamCommand → Type
  | .receive => Option ClientMessage
  | .sendJson _ => Except StreamError Unit
  | .getMultiplexer => Bool
  | .ensureConnected _ => Bool
  | .subscribe _ _ => Except StreamError FirstFrame
  | .unsubscribe _ _ => Except StreamError FirstFrame
  | .removeClient _ => Except StreamError FirstFrame
  | .sendAncillary _ _ _ => Except StreamError Unit
  | .getFlowFanout => Bool
  | .producerWired => Bool
  | .flowSubscribe _ => Unit
  | .flowUnsubscribe _ => Unit
  | .flowDisconnect => Unit
  | .highWatermark => Option String

/-- What the surroundings decide: the replies they give, and what a send raises. -/
@[reducible] def StreamCommand.Outcome : StreamCommand → Type
  | .receive => Option ClientMessage
  | .sendJson _ => Option StreamError
  | .getMultiplexer => Bool
  | .ensureConnected _ => Bool
  | .subscribe _ _ => Option StreamError
  | .unsubscribe _ _ => Option StreamError
  | .removeClient _ => Option StreamError
  | .sendAncillary _ _ _ => Option StreamError
  | .getFlowFanout => Bool
  | .producerWired => Bool
  | .flowSubscribe _ => Unit
  | .flowUnsubscribe _ => Unit
  | .flowDisconnect => Unit
  | .highWatermark => Option String

/-! ## The world -/

variable {Client : Type} [DecidableEq Client]

/-- A subscription as a manager gets it. -/
abbrev AskedFor := AlpacaStreamType × PerFeed (List String)

/-- What the handlers share, with a record of each client's last message and responses, of what it
has asked the managers for, and of the upstream sends that raised. -/
structure StreamWorld (Client : Type) [DecidableEq Client] where
  connections : AlpacaStreamType → UpstreamConnection Client
  flow : FlowFanout Client
  received : Client → Option ClientMessage
  responses : Client → List Response
  asked : Client → List AskedFor
  raised : Client → List AlpacaStreamType

namespace StreamWorld

/-- A connection before its first attempt. -/
def idle : UpstreamConnection Client := ⟨.initial, none, false, none⟩

/-- Before any client. -/
def initial : StreamWorld Client :=
  ⟨fun _ => idle, .initial, fun _ => none, fun _ => [], fun _ => [], fun _ => []⟩

/-- The symbols that a client is registered for. -/
def held (world : StreamWorld Client) (client : Client) (streamType : AlpacaStreamType) :
    PerFeed (Finset String) :=
  (world.connections streamType).subscriptions.held client

/-- Put a connection in place. -/
def setConnection (world : StreamWorld Client) (streamType : AlpacaStreamType)
    (conn : UpstreamConnection Client) : StreamWorld Client :=
  { world with connections := Function.update world.connections streamType conn }

/-- Put a connection in place, and record when the send raised. -/
def afterSend {α : Type} (world : StreamWorld Client) (client : Client)
    (streamType : AlpacaStreamType)
    (sent : Except StreamError α × UpstreamConnection Client) :
    Except StreamError α × StreamWorld Client :=
  (sent.1,
    { world.setConnection streamType sent.2 with
      raised := match sent.1 with
        | .ok _ => world.raised
        | .error _ =>
            Function.update world.raised client (streamType :: world.raised client) })

variable [Unicode]

/-- A change of the subscriptions with its first frame.  Nothing is sent when the stream needs
nothing else than before. -/
def change (world : StreamWorld Client) (client : Client) (streamType : AlpacaStreamType)
    (action : FrameAction) (changed : PerFeed (Finset String) × SubscriptionManager Client)
    (failure : Option StreamError) : Except StreamError FirstFrame × StreamWorld Client :=
  let conn := { world.connections streamType with subscriptions := changed.2 }
  world.afterSend client streamType
    (if noSymbols changed.1 then (.ok ⟨[], none⟩, conn)
    else conn.request streamType action changed.1 failure)

theorem failure_of_change {world : StreamWorld Client} {client : Client}
    {streamType : AlpacaStreamType} {action : FrameAction}
    {changed : PerFeed (Finset String) × SubscriptionManager Client} {failure : Option StreamError}
    {error : StreamError}
    (raised : (world.change client streamType action changed failure).1 = .error error) :
    failure = some error := by
  unfold change afterSend at raised
  dsimp only at raised
  split at raised
  · cases raised
  · exact UpstreamConnection.failure_of_request raised

/-- Perform a command of a client's handler. -/
def perform (client : Client) : (command : StreamCommand) → command.Outcome →
    StreamWorld Client → Option (command.Reply × StreamWorld Client)
  | .receive, none, world => some (none, world)
  | .receive, some message, world =>
      some (some message,
        { world with received := Function.update world.received client (some message) })
  | .sendJson _, some error, world => some (.error error, world)
  | .sendJson response, none, world =>
      some (.ok (),
        { world with
          responses := Function.update world.responses client
            (response :: world.responses client) })
  | .getMultiplexer, initialized, world => some (initialized, world)
  | .ensureConnected streamType, ready, world =>
      if ready = true ∧ (world.connections streamType).connected = none then none
      else some (ready, world)
  | .subscribe streamType requested, failure, world =>
      let asked := Function.update world.asked client
        ((streamType, requested) :: world.asked client)
      some ({ world with asked := asked }.change client streamType .subscribe
        ((world.connections streamType).subscriptions.subscribe client requested) failure)
  | .unsubscribe streamType requested, failure, world =>
      some (world.change client streamType .unsubscribe
        ((world.connections streamType).subscriptions.unsubscribe client requested) failure)
  | .removeClient streamType, failure, world =>
      some (world.change client streamType .unsubscribe
        ((world.connections streamType).subscriptions.removeClient client) failure)
  | .sendAncillary streamType action candidates, failure, world =>
      some (world.afterSend client streamType
        ((world.connections streamType).sendAncillary streamType action candidates failure))
  | .getFlowFanout, initialized, world => some (initialized, world)
  | .producerWired, wired, world => some (wired, world)
  | .flowSubscribe symbols, _, world =>
      some ((), { world with flow := world.flow.subscribe client symbols })
  | .flowUnsubscribe symbols, _, world =>
      some ((), { world with flow := world.flow.unsubscribe client symbols })
  | .flowDisconnect, _,
      world => some ((), { world with flow := world.flow.clientDisconnect client })
  | .highWatermark, watermark, world => some (watermark, world)

end StreamWorld

/-- What happens besides the handlers. -/
inductive StreamMove (Client : Type)
  /-- The peer of a socket is gone. -/
  | drop (streamType : AlpacaStreamType)
  /-- `_close_ws` in the connection loop. -/
  | close (streamType : AlpacaStreamType)
  /-- `connect` in the connection loop. -/
  | connect (streamType : AlpacaStreamType)
  /-- `authenticate` with the first frame of the resubscription. -/
  | authenticate (streamType : AlpacaStreamType) (failure : Option StreamError)
  /-- The second frame of the resubscription. -/
  | resubscribe (streamType : AlpacaStreamType) (failure : Option StreamError)
  /-- `start_pending_replay` gives up. -/
  | replayFailed (client : Client)

variable [Unicode]

/-- What a move does.  The connection loop takes its steps in order; a step out of turn is none. -/
def StreamWorld.disturb : StreamMove Client → StreamWorld Client → StreamWorld Client
  | .drop streamType, world =>
      world.setConnection streamType (world.connections streamType).drop
  | .close streamType, world =>
      match (world.connections streamType).resubscribing with
      | some _ => world
      | none => world.setConnection streamType (world.connections streamType).close
  | .connect streamType, world =>
      match (world.connections streamType).ws with
      | some _ => world
      | none => world.setConnection streamType (world.connections streamType).connect
  | .authenticate streamType failure, world =>
      match (world.connections streamType).authenticated, (world.connections streamType).ws with
      | false, some _ =>
          world.setConnection streamType
            ((world.connections streamType).authenticate streamType failure)
      | _, _ => world
  | .resubscribe streamType failure, world =>
      match (world.connections streamType).resubscribing with
      | none => world
      | some pending =>
          world.setConnection streamType
            ((world.connections streamType).resubscribe streamType pending.candidates failure)
  | .replayFailed client, world => { world with flow := world.flow.clientDisconnect client }

/-- The handlers of all clients over the shared connections. -/
@[reducible] def streaming (Client : Type) [DecidableEq Client] :
    Machine Client StreamCommand.Reply (StreamWorld Client) where
  Outcome := StreamCommand.Outcome
  perform := StreamWorld.perform
  Disturbance := StreamMove Client
  disturb := StreamWorld.disturb

/-- The machine with the character database restricted to ASCII. -/
abbrev asciiStreaming (Client : Type) [DecidableEq Client] :
    Machine Client StreamCommand.Reply (StreamWorld Client) :=
  @streaming asciiUnicode Client _

end Streaming
end DataGateway
