import DataGateway.Streaming.InputValidation
import DataGateway.Streaming.Subscriptions

/-!
# Upstream connections

A change of the subscriptions goes upstream in two frames: the feeds first and, on the streams of
stocks, the ancillary channels of the same symbols after the first frame is out.  The other side has
the channels that the frames of a socket add up to, and a new socket starts with none.
-/

namespace DataGateway
namespace Streaming

/-! ## Frames -/

/-- The channels of a stream: the feeds and `_STOCK_ANCILLARY_CHANNELS`. -/
inductive Channel
  | feed (name : FeedName)
  | statuses
  | lulds
  deriving DecidableEq, Repr

/-- What a frame asks for. -/
inductive FrameAction
  | subscribe
  | unsubscribe
  deriving DecidableEq, Repr

/-- A frame sent upstream; a channel that it does not name has no symbols. -/
structure Frame where
  action : FrameAction
  symbols : Channel → Finset String

/-- The symbols of each channel after a frame. -/
def Frame.apply (channels : Channel → Finset String) (frame : Frame) (channel : Channel) :
    Finset String :=
  match frame.action with
  | .subscribe => channels channel ∪ frame.symbols channel
  | .unsubscribe => channels channel \ frame.symbols channel

/-- The frame for the feeds. -/
def feedsFrame (action : FrameAction) (feeds : PerFeed (Finset String)) : Frame where
  action := action
  symbols
    | .feed name => feeds name
    | _ => ∅

/-- The frame for the ancillary channels. -/
def ancillaryFrame (action : FrameAction) (symbols : Finset String) : Frame where
  action := action
  symbols
    | .feed _ => ∅
    | _ => symbols

/-- A websocket to the broker, with the frames that were written to it. -/
structure Socket where
  isOpen : Bool
  frames : List Frame

/-- The channels of the other side. -/
def Socket.channels (socket : Socket) : Channel → Finset String :=
  socket.frames.foldl Frame.apply fun _ => ∅

/-- What a send can raise. -/
inductive StreamError
  | connectionClosed
  | runtimeError
  | other
  deriving DecidableEq, Repr

/-- `send`: the frame is written, or the connection turns out to be closed, or another exception
leaves the connection as it is. -/
def Socket.send (socket : Socket) (frame : Frame) : Option StreamError → Socket
  | none => { socket with frames := socket.frames ++ [frame] }
  | some .connectionClosed => { socket with isOpen := false }
  | some _ => socket

/-! ## Sanitizing -/

/-- A warning about symbols that are not sent on. -/
inductive StreamWarning
  | barsUnsupported (symbols : Finset String)
  | shapeMismatch (label : String) (feed : FeedName) (dropped : Finset String)
  deriving DecidableEq

section Sanitizing

variable [Unicode]

/-- `_is_occ_option_symbol`. -/
def isOccOptionSymbol (symbol : String) : Bool := optionOccPattern symbol.toList

/-- The test of `_filter_symbols_by_stream_shape` with its label, for the streams that have one. -/
def shapeFilter : AlpacaStreamType → Option (String × (String → Bool))
  | .options => some ("options", isOccOptionSymbol)
  | .stocksSip | .stocksIex => some ("stocks", fun symbol => !isOccOptionSymbol symbol)
  | .crypto | .news => none

/-- The symbols of one feed that a stream takes. -/
def sanitize (streamType : AlpacaStreamType) (name : FeedName) (symbols : Finset String) :
    Finset String :=
  match name with
  | .news => symbols
  | name =>
      if streamType = .options ∧ name = .bars then ∅
      else
        match shapeFilter streamType with
        | none => symbols
        | some (_, keep) => symbols.filter fun symbol => keep symbol

/-- The warnings of `_sanitize_subscription_request`. -/
def sanitizeWarnings (streamType : AlpacaStreamType) (feeds : PerFeed (Finset String)) :
    List StreamWarning :=
  (if streamType = .options ∧ feeds .bars ≠ ∅ then [.barsUnsupported (feeds .bars)] else []) ++
    match shapeFilter streamType with
    | none => []
    | some (label, keep) =>
        [FeedName.bars, .quotes, .trades].filterMap fun name =>
          let dropped := (feeds name).filter fun symbol => !keep symbol
          if (streamType = .options ∧ name = .bars) ∨ dropped = ∅ then none
          else some (.shapeMismatch label name dropped)

end Sanitizing

/-! ## Connections -/

/-- No feed has a symbol. -/
def noSymbols (feeds : PerFeed (Finset String)) : Bool :=
  feeds .bars = ∅ && feeds .quotes = ∅ && feeds .trades = ∅ && feeds .news = ∅

/-- The symbols that the ancillary channels follow. -/
def followed (feeds : PerFeed (Finset String)) : Finset String :=
  feeds .bars ∪ feeds .quotes ∪ feeds .trades

/-- A resubscription that has its first frame out: the symbols for the second, and how many frames
the socket had then. -/
structure Resubscription where
  candidates : Finset String
  frames : Nat

/-- `UpstreamConnection`. -/
structure UpstreamConnection (Client : Type) [DecidableEq Client] where
  subscriptions : SubscriptionManager Client
  ws : Option Socket
  authenticated : Bool
  resubscribing : Option Resubscription

/-- What `subscribe` and `unsubscribe` know when their first frame is out: the warnings, and the
symbols for the ancillary channels when there was a frame to send. -/
structure FirstFrame where
  warnings : List StreamWarning
  ancillary : Option (Finset String)

namespace UpstreamConnection

variable {Client : Type} [DecidableEq Client] [Unicode]

/-- The socket of a connection with `is_connected`. -/
def connected (conn : UpstreamConnection Client) : Option Socket :=
  if conn.authenticated then conn.ws.filter (·.isOpen) else none

/-- `subscribe` and `unsubscribe` up to the first send. -/
def request (conn : UpstreamConnection Client) (streamType : AlpacaStreamType)
    (action : FrameAction) (changed : PerFeed (Finset String)) (failure : Option StreamError) :
    Except StreamError FirstFrame × UpstreamConnection Client :=
  match conn.connected with
  | none => (.ok ⟨[], none⟩, conn)
  | some socket =>
      let feeds name := sanitize streamType name (changed name)
      let warnings := sanitizeWarnings streamType changed
      if noSymbols feeds then (.ok ⟨warnings, none⟩, conn)
      else
        let sent := { conn with ws := some (socket.send (feedsFrame action feeds) failure) }
        match failure with
        | some error => (.error error, sent)
        | none => (.ok ⟨warnings, some (followed feeds)⟩, sent)

/-- The symbols of a request for the ancillary channels: what some feed still needs stays. -/
def ancillarySymbols (conn : UpstreamConnection Client) (candidates : Finset String) :
    FrameAction → Finset String
  | .subscribe => candidates
  | .unsubscribe => candidates \ followed conn.subscriptions.getAllSubscriptions

/-- `_send_ancillary_channel_request`. -/
def sendAncillary (conn : UpstreamConnection Client) (streamType : AlpacaStreamType)
    (action : FrameAction) (candidates : Finset String) (failure : Option StreamError) :
    Except StreamError Unit × UpstreamConnection Client :=
  match streamType.isStocks, conn.ws with
  | true, some socket =>
      let symbols := conn.ancillarySymbols candidates action
      if symbols = ∅ then (.ok (), conn)
      else
        let failure := if socket.isOpen then failure else some .connectionClosed
        let sent := { conn with ws := some (socket.send (ancillaryFrame action symbols) failure) }
        match failure with
        | some error => (.error error, sent)
        | none => (.ok (), sent)
  | _, _ => (.ok (), conn)

/-! ### The connection loop -/

/-- The peer is gone. -/
def drop (conn : UpstreamConnection Client) : UpstreamConnection Client :=
  { conn with ws := conn.ws.map fun socket => { socket with isOpen := false } }

/-- `_close_ws`. -/
def close (conn : UpstreamConnection Client) : UpstreamConnection Client :=
  { conn with ws := none, authenticated := false, resubscribing := none }

/-- `connect`. -/
def connect (conn : UpstreamConnection Client) : UpstreamConnection Client :=
  { conn.close with ws := some ⟨true, []⟩ }

/-- The end of `authenticate`, and what `_connect_and_run` sends at once: every symbol that a client
wants.  An exception closes the connection. -/
def authenticate (conn : UpstreamConnection Client) (streamType : AlpacaStreamType)
    (failure : Option StreamError) : UpstreamConnection Client :=
  let wanted := conn.subscriptions.getAllSubscriptions
  let ready := { conn with authenticated := true }
  if noSymbols wanted then ready
  else
    match ready.request streamType .subscribe wanted failure with
    | (.error _, sent) => sent.close
    | (.ok first, sent) =>
        { sent with
          resubscribing := first.ancillary.map fun candidates =>
            ⟨candidates, (sent.ws.elim [] Socket.frames).length⟩ }

/-- The second frame of the resubscription. -/
def resubscribe (conn : UpstreamConnection Client) (streamType : AlpacaStreamType)
    (candidates : Finset String) (failure : Option StreamError) : UpstreamConnection Client :=
  match { conn with resubscribing := none }.sendAncillary streamType .subscribe
    candidates failure with
  | (.error _, sent) => sent.close
  | (.ok _, sent) => sent

/-! ### Exceptions -/

section Exceptions

variable {conn : UpstreamConnection Client} {streamType : AlpacaStreamType} {action : FrameAction}
  {changed : PerFeed (Finset String)} {candidates : Finset String} {failure : Option StreamError}
  {error : StreamError}

theorem failure_of_request
    (raised : (conn.request streamType action changed failure).1 = .error error) :
    failure = some error := by
  unfold request at raised
  split at raised
  · cases raised
  · dsimp only at raised
    split at raised
    · cases raised
    · cases failure with
      | none => cases raised
      | some caught => exact congrArg some (Except.error.inj raised)

omit [Unicode] in
theorem failure_of_sendAncillary
    (raised : (conn.sendAncillary streamType action candidates failure).1 = .error error) :
    failure = some error ∨ error = .connectionClosed := by
  unfold sendAncillary at raised
  split at raised
  · dsimp only at raised
    split at raised
    · cases raised
    · split at raised
      next caught caused =>
        obtain rfl := Except.error.inj raised
        split at caused
        · exact .inl caused
        · exact .inr (Option.some.inj caused).symm
      · cases raised
  · cases raised

end Exceptions

/-! ### Only handlers change subscriptions -/

section Subscriptions

variable (conn : UpstreamConnection Client) (streamType : AlpacaStreamType) (action : FrameAction)
  (changed : PerFeed (Finset String)) (candidates : Finset String) (failure : Option StreamError)

@[simp]
theorem subscriptions_request :
    (conn.request streamType action changed failure).2.subscriptions = conn.subscriptions := by
  unfold request
  split
  · rfl
  · dsimp only
    split
    · rfl
    · split <;> rfl

omit [Unicode] in
@[simp]
theorem subscriptions_sendAncillary :
    (conn.sendAncillary streamType action candidates failure).2.subscriptions =
      conn.subscriptions := by
  unfold sendAncillary
  split
  · dsimp only
    split
    · rfl
    · split <;> rfl
  · rfl

@[simp]
theorem subscriptions_authenticate :
    (conn.authenticate streamType failure).subscriptions = conn.subscriptions := by
  unfold authenticate
  dsimp only
  split
  · rfl
  · have kept := subscriptions_request { conn with authenticated := true } streamType .subscribe
      conn.subscriptions.getAllSubscriptions failure
    split
    next sent => rw [sent] at kept; exact kept
    next sent => rw [sent] at kept; exact kept

omit [Unicode] in
@[simp]
theorem subscriptions_resubscribe :
    (conn.resubscribe streamType candidates failure).subscriptions = conn.subscriptions := by
  unfold resubscribe
  have kept := subscriptions_sendAncillary { conn with resubscribing := none } streamType .subscribe
    candidates failure
  split
  next sent => rw [sent] at kept; exact kept
  next sent => rw [sent] at kept; exact kept

end Subscriptions

end UpstreamConnection

end Streaming
end DataGateway
