import DataGateway.Python.Json
import DataGateway.Streaming.Handler

/-!
# Frames of a client

A frame holds any JSON value, and the handler asks its fields for what they may not have: a
dictionary for the message, a text for the provider, the feeds and the symbols.  An operation that
the value does not take raises, and nobody between the handler and the end of the connection catches
it.
-/

namespace DataGateway
namespace Streaming

open Coroutine

/-- A frame: its size, and what `json.loads` makes of it, which may raise. -/
structure ClientFrame where
  size : Nat
  value : Option JsonValue

/-- An exception that ends the connection. -/
inductive FrameError
  | attributeError
  | typeError
  | stream (error : StreamError)

/-- How a check ends that does not pass: with an answer or with an exception. -/
inductive Exit
  | refusal (refusal : Refusal)
  | raised (error : FrameError)

/-- The fields of a message, in the order of its text. -/
abbrev FrameFields := List (String × JsonValue)

namespace FrameFields

variable (message : FrameFields)

/-- `message.get(name)`; of a name that is given twice the last value counts. -/
def field (name : String) : Option JsonValue := message.reverse.lookup name

/-- `action`. -/
def action : JsonValue := (message.field "action").getD (.string "")

/-- `provider`. -/
def provider : JsonValue := (message.field "provider").getD (.string "alpaca")

/-- `feeds`, or else the one `feed`. -/
def feeds : JsonValue :=
  match message.field "feeds" with
  | none | some .null => .list [(message.field "feed").getD (.string "stock_bars")]
  | some feeds => feeds

/-- `symbols`. -/
def symbols : JsonValue := (message.field "symbols").getD (.list [])

/-- `after_stream_id`. -/
def afterStreamId : Option (Option String) :=
  match message.field "after_stream_id" with
  | none | some .null => none
  | some id => some id.string?

/-- `request_id`, as far as it is sent back. -/
def requestId : Option JsonValue := (message.field "request_id").filter (·.truthy)

end FrameFields

/-! ## Checks -/

/-- `canonical_feed_name`. -/
def canonicalFeed : JsonValue → JsonValue
  | .string feed => .string (canonicalFeedName feed)
  | feed => feed

/-- The feeds of a message under their canonical names, each once. -/
def canonicalFeeds (message : FrameFields) : Except Exit (List JsonValue) :=
  match message.feeds with
  | .list (feed :: rest) =>
      if (feed :: rest).all (·.hashKey.isSome) then
        .ok (((feed :: rest).map canonicalFeed).eraseDupsBy fun one other =>
          one.hashKey = other.hashKey)
      else .error (.raised .typeError)
  | _ => .error (.refusal ("GW-E8001", "feeds must be a non-empty list"))

/-- The symbols of a message. -/
def askedSymbols (message : FrameFields) : Except Exit (List JsonValue) :=
  match message.symbols with
  | .list symbols => .ok symbols
  | _ => .error (.refusal ("GW-E8001", "symbols must be a list"))

/-- The client of the connection. -/
def authenticatedClient (permissions : Option ClientPermissions) : Except Exit ClientPermissions :=
  match permissions with
  | some permissions => .ok permissions
  | none => .error (.refusal ("GW-E2001", "Not authenticated"))

variable [Unicode] [Lowercase] [Rendering]

/-- `_is_uw_flow_request`. -/
def isFlowRequest (provider : JsonValue) (feeds : List JsonValue) : Except Exit Bool :=
  match provider with
  | .string provider => .ok (isUwFlowRequest provider (feeds.map (·.text)))
  | _ => .error (.raised .attributeError)

omit [Lowercase] [Rendering] in
/-- The loop of `validate_symbols_array`. -/
def validateSymbolValues (seen : List String) : List JsonValue → Except Exit Unit
  | [] => .ok ()
  | .string symbol :: rest =>
      let normalized := upper symbol
      if normalized ∈ seen then validateSymbolValues seen rest
      else if forbidden normalized.toList then
        .error (.refusal ("GW-E8006", "Forbidden characters detected in symbol"))
      else if matchesAnySymbolPattern normalized.toList then
        validateSymbolValues (normalized :: seen) rest
      else .error (.refusal ("GW-E8001",
        "Symbol does not match any known format (stock, crypto, option, forex)"))
  | _ :: _ => .error (.raised .attributeError)

omit [Lowercase] [Rendering] in
/-- `validate_symbols_array`. -/
def validateSymbolsValue (symbols : List JsonValue) (maxSymbols : Nat) : Except Exit Unit :=
  let maxAllowed := if maxSymbols = 0 then symbolsArrayMax else maxSymbols
  if symbols.isEmpty then .error (.refusal ("GW-E8007", "At least one symbol is required"))
  else if maxAllowed < symbols.length then
    .error (.refusal ("GW-E8002", "Maximum " ++ toString maxAllowed ++ " symbols allowed"))
  else validateSymbolValues [] symbols

omit [Lowercase] [Rendering] in
/-- The check of the symbols, where there may be none when they are optional. -/
def checkSymbols (optional : Bool) (symbols : List JsonValue) (maxSymbols : Nat) :
    Except Exit Unit :=
  if symbols.isEmpty && optional then .ok () else validateSymbolsValue symbols maxSymbols

omit [Unicode] [Rendering] in
/-- `_has_provider_permission`, where a client without a list of providers may use any value. -/
def checkProvider (permissions : ClientPermissions) (provider : JsonValue) : Except Exit Unit :=
  match provider with
  | .string provider =>
      if hasProviderPermission permissions provider then .ok ()
      else .error (.refusal ("GW-E2006", "Provider access denied: " ++ provider))
  | _ =>
      if permissions.providers.isEmpty then .ok () else .error (.raised .attributeError)

omit [Unicode] [Rendering] in
/-- `_normalize_feed_permission`: a feed that is false counts as the empty text. -/
def requiredFeed : JsonValue → Option String
  | .string feed => some (normalizeFeedPermission feed)
  | feed => if feed.truthy then none else some (normalizeFeedPermission "")

omit [Unicode] [Rendering] in
/-- The feeds are permitted one by one. -/
def checkFeeds (permissions : ClientPermissions) : List JsonValue → Except Exit Unit
  | [] => .ok ()
  | feed :: rest =>
      match requiredFeed feed with
      | none => .error (.raised .attributeError)
      | some required =>
          if hasFeedPermission permissions required then checkFeeds permissions rest
          else .error (.refusal ("GW-E2007", "Feed access denied: " ++ required))

/-- A request whose symbols are texts; a feed that is no text goes by its text. -/
def requestOf (provider : JsonValue) (feeds symbols : List JsonValue) : SubscriptionRequest :=
  ⟨provider.text, feeds.map (·.text), symbols.filterMap JsonValue.string?⟩

/-- The check of the quota. -/
def checkQuota (permissions : ClientPermissions) (subscriptions : Finset String)
    (request : SubscriptionRequest) : Except Exit Unit :=
  if permissions.wsSubscriptionsMax < entriesAfter subscriptions request then
    .error (.refusal ("GW-E8002",
      "Maximum " ++ toString permissions.wsSubscriptionsMax ++ " subscriptions allowed"))
  else .ok ()

/-- The checks of a subscription: the request, with its feeds. -/
def checkSubscribeFrame (permissions : Option ClientPermissions) (subscriptions : Finset String)
    (message : FrameFields) : Except Exit (SubscriptionRequest × List JsonValue) := do
  let feeds ← canonicalFeeds message
  let symbols ← askedSymbols message
  let permissions ← authenticatedClient permissions
  let flow ← isFlowRequest message.provider feeds
  checkSymbols flow symbols permissions.maxSymbols
  checkProvider permissions message.provider
  checkFeeds permissions feeds
  checkQuota permissions subscriptions (requestOf message.provider feeds symbols)
  .ok (requestOf message.provider feeds symbols, feeds)

/-- The checks of the end of a subscription. -/
def checkUnsubscribeFrame (permissions : Option ClientPermissions) (message : FrameFields) :
    Except Exit (SubscriptionRequest × List JsonValue) := do
  let feeds ← canonicalFeeds message
  let symbols ← askedSymbols message
  let permissions ← authenticatedClient permissions
  checkSymbols true symbols permissions.maxSymbols
  checkProvider permissions message.provider
  let _ ← isFlowRequest message.provider feeds
  .ok (requestOf message.provider feeds symbols, feeds)

/-! ## The loop -/

/-- An answer, with the `request_id` that it is sent with. -/
structure FrameReply where
  response : Response
  requestId : Option JsonValue

/-- What the loop does at once, up to its next wait. -/
inductive FrameCommand
  /-- `receive`, or the end of the connection. -/
  | receive
  /-- `send_json`. -/
  | send (reply : FrameReply)
  /-- A command of the handler. -/
  | stream (command : StreamCommand)

/-- What the loop learns. -/
@[reducible] def FrameCommand.Reply : FrameCommand → Type
  | .receive => Option ClientFrame
  | .send _ => Except StreamError Unit
  | .stream command => command.Reply

/-- What the loop computes. -/
abbrev FrameHandler (α : Type) := Coroutine FrameCommand.Reply FrameError α

/-- A part of the handler that asks no value for what it may not have. -/
def onStreams {α : Type} (handler : Handler α) : FrameHandler α :=
  handler.embed .stream (fun _ reply => reply) .stream

namespace StreamMultiplexer

variable (multiplexer : StreamMultiplexer)

omit [Lowercase] [Unicode] [Rendering] in
/-- Subscribe to one feed after the other; `"bars" in feed` raises for a feed that is no text. -/
def subscribeFrameFeeds (symbols : List String) (subscribedFeeds : List String)
    (acks : List (Finset String × List StreamWarning)) : List JsonValue → FrameHandler Routed
  | [] => .finish (.ok (.subscribed acks))
  | .string feed :: rest =>
      (onStreams (multiplexer.subscribeFeed feed symbols)).bind fun
        | .error code message =>
            (onStreams (multiplexer.rollback symbols subscribedFeeds)).bind fun errors =>
              .finish (.ok (.failed (code, message) errors))
        | .ok subscribed warnings =>
            subscribeFrameFeeds symbols (subscribedFeeds ++ [feed])
              (acks ++ [(subscribed, warnings)]) rest
  | _ :: _ => raise .typeError

omit [Lowercase] [Unicode] [Rendering] in
/-- A subscription to streams of the broker. -/
def subscribeFrameStreams (request : SubscriptionRequest) (feeds : List JsonValue)
    (subscriptions : Finset String) : FrameHandler (Response × Finset String) :=
  .suspend (.stream .getMultiplexer) fun initialized =>
    if initialized then
      ((multiplexer.subscribeFrameFeeds request.symbols [] [] feeds).bind fun routed =>
        .finish (.ok (subscriptionAnswer request subscriptions routed))).catching fun
          | .stream .runtimeError => .finish (.ok (unavailable request subscriptions))
          | error => raise error
    else .finish (.ok (unavailable request subscriptions))

omit [Lowercase] [Unicode] [Rendering] in
/-- Unsubscribe from one feed. -/
def unsubscribeFrameFeed (symbols : List String) : JsonValue → FrameHandler Unit
  | .string feed => onStreams (multiplexer.unsubscribeFeed feed symbols)
  | _ => raise .typeError

omit [Lowercase] [Unicode] [Rendering] in
/-- The end of a subscription to streams of the broker. -/
def unsubscribeFrameStreams (request : SubscriptionRequest) (feeds : List JsonValue)
    (subscriptions : Finset String) : FrameHandler (Response × Finset String) :=
  .suspend (.stream .getMultiplexer) fun initialized =>
    if initialized then
      ((forEach feeds (multiplexer.unsubscribeFrameFeed request.symbols)).bind fun _ =>
        .finish (.ok (unsubscriptionAnswer request subscriptions))).catching fun
          | .stream .runtimeError => .finish (.ok (unsubscriptionAnswer request subscriptions))
          | error => raise error
    else .finish (.ok (unsubscriptionAnswer request subscriptions))

omit [Lowercase] [Unicode] [Rendering] in
/-- What follows the checks. -/
def afterChecks {α : Type} (subscriptions : Finset String) (checked : Except Exit α)
    (passed : α → FrameHandler (Response × Finset String)) :
    FrameHandler (Response × Finset String) :=
  match checked with
  | .ok value => passed value
  | .error (.refusal refusal) => .finish (.ok (refused refusal subscriptions))
  | .error (.raised error) => raise error

/-- `_handle_message`: the answer, and the accounts of the connection afterwards. -/
def handleFields (permissions : Option ClientPermissions) (subscriptions : Finset String)
    (message : FrameFields) : FrameHandler (Response × Finset String) :=
  match message.action.string? with
  | some "heartbeat" => .finish (.ok (.heartbeatAck, subscriptions))
  | some "ping" => .finish (.ok (.pong, subscriptions))
  | some "subscribe" =>
      afterChecks subscriptions (checkSubscribeFrame permissions subscriptions message)
        fun (request, feeds) =>
          if request.isFlow then
            onStreams (subscribeFlow request message.afterStreamId subscriptions)
          else multiplexer.subscribeFrameStreams request feeds subscriptions
  | some "unsubscribe" =>
      afterChecks subscriptions (checkUnsubscribeFrame permissions message) fun (request, feeds) =>
        if request.isFlow then onStreams (unsubscribeFlow request subscriptions)
        else multiplexer.unsubscribeFrameStreams request feeds subscriptions
  | some "status" => .finish (.ok (.status subscriptions, subscriptions))
  | _ =>
      .finish (.ok (.error "GW-E3001" ("Unknown action: " ++ message.action.text), subscriptions))

/-- The answer to a value; a value that is no dictionary has no fields to get. -/
def answerValue (permissions : Option ClientPermissions) (subscriptions : Finset String) :
    JsonValue → FrameHandler (Finset String)
  | .dict message =>
      (multiplexer.handleFields permissions subscriptions message).bind fun answer =>
        .suspend (.send ⟨answer.1, FrameFields.requestId message⟩) fun sent =>
          match sent with
          | .ok _ => .finish (.ok answer.2)
          | .error error => raise (.stream error)
  | _ => raise .attributeError

/-- One turn of `_message_loop` after `receive`: the accounts when the loop goes on, and nothing
when the frame is too long and the connection is closed. -/
def handleFrame (maxBytes : Nat) (permissions : Option ClientPermissions)
    (subscriptions : Finset String) (frame : ClientFrame) : FrameHandler (Option (Finset String)) :=
  if maxBytes < frame.size then
    .suspend (.send ⟨.error "GW-E8005" "WebSocket message exceeds size limit", none⟩) fun _ =>
      .finish (.ok none)
  else
    match frame.value with
    | none => .finish (.ok (some subscriptions))
    | some value => (multiplexer.answerValue permissions subscriptions value).bind fun later =>
        .finish (.ok (some later))

/-- `_message_loop`, for a number of frames. -/
def frameLoop (maxBytes : Nat) (permissions : Option ClientPermissions) :
    Nat → Finset String → FrameHandler Unit
  | 0, _ => .finish (.ok ())
  | count + 1, subscriptions =>
      .suspend .receive fun
        | none => .finish (.ok ())
        | some frame =>
            (multiplexer.handleFrame maxBytes permissions subscriptions frame).bind fun
              | none => .finish (.ok ())
              | some later => frameLoop maxBytes permissions count later

end StreamMultiplexer

end Streaming
end DataGateway
