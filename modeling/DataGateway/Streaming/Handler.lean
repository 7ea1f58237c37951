import DataGateway.Streaming.Multiplexer
import DataGateway.Streaming.Permissions
import Mathlib.Data.Finset.Card

/-!
# Handling the messages of a client

A message is checked at once; what passes is carried out feed by feed, and a feed that fails takes
back what the feeds before it asked for.
-/

namespace DataGateway
namespace Streaming

open Coroutine

/-- `FLOW_FEED`. -/
def flowFeed : String := "flow_alerts"

/-- What a subscription or its end is about. -/
structure SubscriptionRequest where
  provider : String
  feeds : List String
  symbols : List String

/-- An error code with its message. -/
abbrev Refusal := String × String

namespace ClientMessage

/-- The provider, the feeds under their canonical names and the symbols of a message. -/
def request (message : ClientMessage) : Except Refusal SubscriptionRequest :=
  let feeds : Option (List String) := match message.feeds with
    | none => some [message.feed.getD "stock_bars"]
    | some (.texts (feed :: rest)) => some (feed :: rest)
    | some _ => none
  match feeds with
  | none => .error ("GW-E8001", "feeds must be a non-empty list")
  | some feeds =>
      match message.symbols.getD (.texts []) with
      | .other => .error ("GW-E8001", "symbols must be a list")
      | .texts symbols => .ok
        { provider := message.provider.getD "alpaca"
          feeds := (feeds.map canonicalFeedName).eraseDups
          symbols := symbols }

end ClientMessage

variable [Unicode] [Lowercase]

/-- The request is for option flow. -/
def SubscriptionRequest.isFlow (request : SubscriptionRequest) : Bool :=
  isUwFlowRequest request.provider request.feeds

/-! ## Checks -/

/-- The entry of a feed and a symbol in the accounts of a connection. -/
def entry (feed symbol : String) : String := feed ++ ":" ++ symbol

/-- The entries of all feeds with all symbols. -/
def entries (feeds symbols : List String) : Finset String :=
  (feeds.flatMap fun feed => symbols.map (entry feed)).toFinset

/-- The entries for single symbols of the option flow. -/
def flowSymbolEntries (subscriptions : Finset String) : Finset String :=
  subscriptions.filter fun text =>
    Text.startsWith text (flowFeed ++ ":") ∧ text ≠ entry flowFeed "*"

/-- The number of entries of a connection when a request is granted. -/
def entriesAfter (subscriptions : Finset String) (request : SubscriptionRequest) : Nat :=
  let named (feed : String) := if request.isFlow && flowFeeds.contains feed then flowFeed else feed
  let firehose := request.isFlow && request.symbols.isEmpty
  let new := entries (request.feeds.map named) request.symbols ∪
    if firehose then {entry flowFeed "*"} else ∅
  let subsumed := if firehose then flowSymbolEntries subscriptions else ∅
  subscriptions.card - subsumed.card + (new \ subscriptions).card

/-- The first feed that a client may not subscribe to, by its kind. -/
def deniedFeed (permissions : ClientPermissions) (feeds : List String) : Option String :=
  (feeds.map normalizeFeedPermission).find? fun required =>
    !hasFeedPermission permissions required

/-- The checks of a subscription. -/
def checkSubscribe (permissions : Option ClientPermissions) (subscriptions : Finset String)
    (message : ClientMessage) : Except Refusal SubscriptionRequest :=
  match message.request, permissions with
  | .error refusal, _ => .error refusal
  | .ok _, none => .error ("GW-E2001", "Not authenticated")
  | .ok request, some permissions =>
      let invalid := if request.symbols ≠ [] ∨ request.isFlow = false
        then validateSymbolsArray request.symbols permissions.maxSymbols else none
      match invalid, deniedFeed permissions request.feeds with
      | some invalid, _ => .error (invalid.code, invalid.message)
      | none, denied =>
          if hasProviderPermission permissions request.provider = false then
            .error ("GW-E2006", "Provider access denied: " ++ request.provider)
          else
            match denied with
            | some required => .error ("GW-E2007", "Feed access denied: " ++ required)
            | none =>
                if permissions.wsSubscriptionsMax < entriesAfter subscriptions request then
                  .error ("GW-E8002",
                    "Maximum " ++ toString permissions.wsSubscriptionsMax ++
                      " subscriptions allowed")
                else .ok request

/-- What a subscription that passes the checks other than that of the quota is known to meet. -/
structure Admissible (permissions : ClientPermissions) (message : ClientMessage)
    (request : SubscriptionRequest) : Prop where
  asked : message.request = .ok request
  valid : request.symbols ≠ [] ∨ request.isFlow = false →
    validateSymbolsArray request.symbols permissions.maxSymbols = none
  provider : hasProviderPermission permissions request.provider = true
  feeds : deniedFeed permissions request.feeds = none

/-- What a subscription that passes the checks is known to meet. -/
structure PassesSubscribe (permissions : ClientPermissions) (subscriptions : Finset String)
    (message : ClientMessage) (request : SubscriptionRequest) : Prop
    extends Admissible permissions message request where
  quota : entriesAfter subscriptions request ≤ permissions.wsSubscriptionsMax

theorem checkSubscribe_eq_ok {permissions : Option ClientPermissions}
    {subscriptions : Finset String} {message : ClientMessage} {request : SubscriptionRequest} :
    checkSubscribe permissions subscriptions message = .ok request ↔
      ∃ granted, permissions = some granted ∧
        PassesSubscribe granted subscriptions message request := by
  constructor
  · intro checked
    unfold checkSubscribe at checked
    split at checked
    · cases checked
    · cases checked
    next found granted asked =>
      dsimp only at checked
      split at checked
      · cases checked
      next valid =>
        by_cases provider : hasProviderPermission granted found.provider = false
        · rw [if_pos provider] at checked
          cases checked
        · rw [if_neg provider] at checked
          cases feeds : deniedFeed granted found.feeds with
          | some required =>
              rw [feeds] at checked
              cases checked
          | none =>
              rw [feeds] at checked
              obtain ⟨quota, same⟩ := ite_eq_iff.mp checked |>.resolve_left fun refused => by
                cases refused.2
              obtain rfl := Except.ok.inj same
              exact ⟨granted, rfl, ⟨asked, fun needed => (if_pos needed).symm.trans valid,
                by simpa using provider, feeds⟩, Nat.le_of_not_lt quota⟩
  · rintro ⟨granted, rfl, passes⟩
    unfold checkSubscribe
    rw [passes.asked]
    have valid : (if request.symbols ≠ [] ∨ request.isFlow = false
        then validateSymbolsArray request.symbols granted.maxSymbols else none) = none := by
      split
      next needed => exact passes.valid needed
      · rfl
    dsimp only
    rw [valid, passes.feeds]
    simp [passes.provider, Nat.not_lt.mpr passes.quota]

/-- The checks of the end of a subscription. -/
def checkUnsubscribe (permissions : Option ClientPermissions) (message : ClientMessage) :
    Except Refusal SubscriptionRequest :=
  match message.request, permissions with
  | .error refusal, _ => .error refusal
  | .ok _, none => .error ("GW-E2001", "Not authenticated")
  | .ok request, some permissions =>
      let invalid := if request.symbols ≠ []
        then validateSymbolsArray request.symbols permissions.maxSymbols else none
      match invalid with
      | some invalid => .error (invalid.code, invalid.message)
      | none =>
          if hasProviderPermission permissions request.provider = false then
            .error ("GW-E2006", "Provider access denied: " ++ request.provider)
          else .ok request

theorem request_of_checkUnsubscribe {permissions : Option ClientPermissions}
    {message : ClientMessage} {request : SubscriptionRequest}
    (checked : checkUnsubscribe permissions message = .ok request) :
    message.request = .ok request := by
  unfold checkUnsubscribe at checked
  split at checked
  · cases checked
  · cases checked
  next found granted asked =>
    dsimp only at checked
    split at checked
    · cases checked
    · obtain ⟨_, same⟩ := (ite_eq_iff.mp checked).resolve_left fun refused => by cases refused.2
      obtain rfl := Except.ok.inj same
      exact asked

/-! ## Option flow -/

/-- `_REDIS_STREAM_ID.fullmatch`. -/
def isRedisStreamId (text : String) : Bool :=
  let chars := text.toList
  chars == ['$'] ||
    match chars.dropWhile Text.isDecimal with
    | '-' :: rest =>
        chars.head?.any Text.isDecimal && !rest.isEmpty && rest.all Text.isDecimal
    | _ => false

/-- An acknowledgement without symbols. -/
def SubscriptionRequest.failedAck (request : SubscriptionRequest) (note : Refusal) :
    SubscriptionAck :=
  ⟨.error, request.provider, request.feeds, ∅, ∅, [], some note, [], none⟩

/-- The accounts of a connection with a subscription to option flow. -/
def withFlow (subscriptions : Finset String) (symbols : List String) : Finset String :=
  if symbols = [] then insert (entry flowFeed "*") (subscriptions \ flowSymbolEntries subscriptions)
  else subscriptions ∪ entries [flowFeed] symbols

/-- The acknowledgement of a subscription to option flow. -/
def flowAck (request : SubscriptionRequest) (resume : Option (Option String)) (wired : Bool) :
    SubscriptionAck :=
  let ack : SubscriptionAck :=
    ⟨.ok, request.provider, [flowFeed], request.symbols.toFinset, ∅, [], none, [], resume⟩
  if wired = false then
    { ack with
      status := .warning
      note := some ("GW-W5003",
        "Flow producer not wired — subscription registered but no flow data will arrive " ++
          "until the UW poller starts") }
  else if resume = some none then
    { ack with
      status := .warning
      note := some ("GW-W5004",
        "Durable flow replay is unavailable; reconnect completeness cannot be guaranteed") }
  else ack

/-- The rest of a subscription to option flow, once it is registered. -/
def flowSubscribed (request : SubscriptionRequest) (subscriptions : Finset String)
    (resume : Option (Option String)) : Handler (Response × Finset String) :=
  .suspend .producerWired fun wired =>
    .finish (.ok (.subscriptionAck (flowAck request resume wired),
      withFlow subscriptions request.symbols))

/-- A subscription to option flow. -/
def subscribeFlow (request : SubscriptionRequest) (afterStreamId : Option (Option String))
    (subscriptions : Finset String) : Handler (Response × Finset String) :=
  .suspend .getFlowFanout fun initialized =>
    if initialized = false then
      .finish (.ok (.subscriptionAck (request.failedAck ("GW-E5002",
        "Flow fan-out not initialized — UW flow streaming unavailable")), subscriptions))
    else if afterStreamId.any fun id => !(id.any isRedisStreamId) then
      .finish (.ok (.subscriptionAck ({ request with feeds := [flowFeed] }.failedAck ("GW-E8001",
        "after_stream_id must be a Redis stream ID or '$'")), subscriptions))
    else
      .suspend (.flowSubscribe request.symbols) fun _ =>
        match afterStreamId with
        | none => flowSubscribed request subscriptions none
        | some _ => .suspend .highWatermark fun watermark =>
            flowSubscribed request subscriptions (some watermark)

/-- The accounts of a connection after the end of a subscription to option flow. -/
def withoutFlow (subscriptions : Finset String) (symbols : List String) : Finset String :=
  if symbols = [] then subscriptions.filter fun text => !Text.startsWith text (flowFeed ++ ":")
  else subscriptions \ entries [flowFeed] symbols

/-- The end of a subscription to option flow. -/
def unsubscribeFlow (request : SubscriptionRequest) (subscriptions : Finset String) :
    Handler (Response × Finset String) :=
  let ended : Handler (Response × Finset String) :=
    .finish (.ok (.unsubscriptionAck request.provider [flowFeed] request.symbols.toFinset,
      withoutFlow subscriptions request.symbols))
  .suspend .getFlowFanout fun initialized =>
    if initialized then .suspend (.flowUnsubscribe request.symbols) fun _ => ended else ended

/-! ## The streams of the broker -/

namespace StreamMultiplexer

variable (multiplexer : StreamMultiplexer)

/-- Subscribe to one feed. -/
def subscribeFeed (feed : String) (symbols : List String) : Handler ClientAck :=
  multiplexer.clientSubscribe (AlpacaStreamType.fromFeed feed) (requestedFeeds feed symbols)

/-- Unsubscribe from one feed. -/
def unsubscribeFeed (feed : String) (symbols : List String) : Handler Unit :=
  multiplexer.clientUnsubscribe (AlpacaStreamType.fromFeed feed) (requestedFeeds feed symbols)

/-- Unsubscribe from the feeds that were subscribed to before one failed, and collect the errors. -/
def rollback (symbols : List String) (subscribedFeeds : List String) :
    Handler (List (String × StreamError)) :=
  foldEach (fun errors feed => (multiplexer.unsubscribeFeed feed symbols).resolve fun
    | .ok _ => .finish (.ok errors)
    | .error error => .finish (.ok (errors ++ [(feed, error)]))) [] subscribedFeeds

/-- What subscribing to the feeds comes to. -/
inductive Routed
  | subscribed (acks : List (Finset String × List StreamWarning))
  | failed (refusal : Refusal) (rollbackErrors : List (String × StreamError))

/-- Subscribe to one feed after the other. -/
def subscribeFeeds (symbols : List String) (subscribedFeeds : List String)
    (acks : List (Finset String × List StreamWarning)) : List String → Handler Routed
  | [] => .finish (.ok (.subscribed acks))
  | feed :: rest =>
      (multiplexer.subscribeFeed feed symbols).bind fun
        | .error code message =>
            (multiplexer.rollback symbols subscribedFeeds).bind fun errors =>
              .finish (.ok (.failed (code, message) errors))
        | .ok subscribed warnings =>
            subscribeFeeds symbols (subscribedFeeds ++ [feed])
              (acks ++ [(subscribed, warnings)]) rest

/-- The answer to a subscription, with the accounts of the connection. -/
def subscriptionAnswer (request : SubscriptionRequest) (subscriptions : Finset String) :
    Routed → Response × Finset String
  | .failed refusal rollbackErrors =>
      (.subscriptionAck { request.failedAck refusal with rollbackErrors := rollbackErrors },
        subscriptions)
  | .subscribed acks =>
      (.subscriptionAck ⟨.ok, request.provider, request.feeds,
          acks.foldl (fun all ack => all ∪ ack.1) ∅, ∅, acks.flatMap Prod.snd, none, [], none⟩,
        subscriptions ∪ entries request.feeds request.symbols)

/-- The answer to a subscription when the multiplexer is not there, or when a `RuntimeError` was
raised. -/
def unavailable (request : SubscriptionRequest) (subscriptions : Finset String) :
    Response × Finset String :=
  (.subscriptionAck
    { request.failedAck ("GW-E5001",
        "Stream multiplexer not initialized — upstream data unavailable") with
      failed := request.symbols.toFinset },
    subscriptions)

/-- A subscription to streams of the broker. -/
def subscribeStreams (request : SubscriptionRequest) (subscriptions : Finset String) :
    Handler (Response × Finset String) :=
  .suspend .getMultiplexer fun initialized =>
    if initialized then
      ((multiplexer.subscribeFeeds request.symbols [] [] request.feeds).bind fun routed =>
        .finish (.ok (subscriptionAnswer request subscriptions routed))).catching fun
          | .runtimeError => .finish (.ok (unavailable request subscriptions))
          | error => raise error
    else .finish (.ok (unavailable request subscriptions))

/-- The answer to the end of a subscription, with the accounts of the connection. -/
def unsubscriptionAnswer (request : SubscriptionRequest) (subscriptions : Finset String) :
    Response × Finset String :=
  (.unsubscriptionAck request.provider request.feeds request.symbols.toFinset,
    subscriptions \ entries request.feeds request.symbols)

/-- The end of a subscription to streams of the broker. -/
def unsubscribeStreams (request : SubscriptionRequest) (subscriptions : Finset String) :
    Handler (Response × Finset String) :=
  .suspend .getMultiplexer fun initialized =>
    if initialized then
      ((forEach request.feeds fun feed => multiplexer.unsubscribeFeed feed request.symbols).bind
        fun _ => .finish (.ok (unsubscriptionAnswer request subscriptions))).catching fun
          | .runtimeError => .finish (.ok (unsubscriptionAnswer request subscriptions))
          | error => raise error
    else .finish (.ok (unsubscriptionAnswer request subscriptions))

/-! ## Messages -/

/-- The answer to a message that was refused. -/
def refused (refusal : Refusal) (subscriptions : Finset String) : Response × Finset String :=
  (.error refusal.1 refusal.2, subscriptions)

/-- `_handle_message`: the answer, and the accounts of the connection afterwards. -/
def handleMessage (permissions : Option ClientPermissions) (subscriptions : Finset String)
    (message : ClientMessage) : Handler (Response × Finset String) :=
  if message.action = "heartbeat" then .finish (.ok (.heartbeatAck, subscriptions))
  else if message.action = "ping" then .finish (.ok (.pong, subscriptions))
  else if message.action = "subscribe" then
    match checkSubscribe permissions subscriptions message with
    | .error refusal => .finish (.ok (refused refusal subscriptions))
    | .ok request =>
        if request.isFlow then subscribeFlow request message.afterStreamId subscriptions
        else multiplexer.subscribeStreams request subscriptions
  else if message.action = "unsubscribe" then
    match checkUnsubscribe permissions message with
    | .error refusal => .finish (.ok (refused refusal subscriptions))
    | .ok request =>
        if request.isFlow then unsubscribeFlow request subscriptions
        else multiplexer.unsubscribeStreams request subscriptions
  else if message.action = "status" then .finish (.ok (.status subscriptions, subscriptions))
  else .finish (.ok (.error "GW-E3001" ("Unknown action: " ++ message.action), subscriptions))

/-- `_message_loop`, for a number of messages. -/
def messageLoop (permissions : Option ClientPermissions) : Nat → Finset String → Handler Unit
  | 0, _ => .finish (.ok ())
  | count + 1, subscriptions =>
      .suspend .receive fun
        | none => .finish (.ok ())
        | some message =>
            (multiplexer.handleMessage permissions subscriptions message).bind fun answer =>
              .suspend (.sendJson answer.1) fun sent =>
                (Coroutine.finish sent).bind fun _ => messageLoop permissions count answer.2

/-- `websocket_endpoint` after the authentication: whatever ends the loop, the client's
registrations are taken back, and exceptions of that are only logged. -/
def websocketEndpoint (permissions : Option ClientPermissions) (count : Nat) : Handler Unit :=
  (multiplexer.messageLoop permissions count ∅).resolve fun _ =>
    .suspend .getMultiplexer fun initialized =>
      (if initialized then multiplexer.clientDisconnect else .finish (.ok ())).resolve fun _ =>
        .suspend .getFlowFanout fun initialized =>
          if initialized then .suspend .flowDisconnect fun _ => .finish (.ok ())
          else .finish (.ok ())

end StreamMultiplexer

end Streaming
end DataGateway
