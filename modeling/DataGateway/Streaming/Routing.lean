import DataGateway.Streaming.Permitted
import DataGateway.Streaming.Redelivery
import Mathlib.Data.Finset.Prod

/-!
# Routing of the data

A message from upstream goes to the clients that its stream's manager lists under its symbols.  A
client knows what it has asked for by the acknowledgements; the two agree while symbols come in
upper case and no feed takes away what another feed stands for.
-/

namespace DataGateway
namespace Streaming

open Coroutine Envelope Machine

/-! ## Who gets a message -/

section Recipients

variable {Client DateTime : Type} [DecidableEq Client]

/-- The symbols under which the clients of a message are looked up. -/
def routedSymbols (dataType : DataType) (message : Payload DateTime) : List String :=
  (if dataType = .news then ["*"] else []) ++ (messageSymbols dataType message).filterMap Value.str?

/-- The clients that a message is for. -/
def SubscriptionManager.recipients (manager : SubscriptionManager Client) (dataType : DataType)
    (message : Payload DateTime) : Finset Client :=
  (routedSymbols dataType message).foldl
    (fun clients symbol => clients ∪ manager.getClientsForSymbolView symbol dataType) ∅

/-- The ids that `_handle_message` hands to the broadcast for a message that passes validation. -/
def StreamMultiplexer.recipients (multiplexer : StreamMultiplexer) (world : StreamWorld Client)
    (streamType : AlpacaStreamType) (message : Payload DateTime) : Finset Client :=
  match messageDataType message, multiplexer.getConnection streamType with
  | some dataType, some target =>
      (world.connections target).subscriptions.recipients dataType message
  | _, _ => ∅

theorem SubscriptionManager.mem_recipients {manager : SubscriptionManager Client}
    {dataType : DataType} {message : Payload DateTime} {client : Client} :
    client ∈ manager.recipients dataType message ↔ ∃ symbol ∈ routedSymbols dataType message,
      client ∈ manager.getClientsForSymbolView symbol dataType := by
  have general (symbols : List String) : ∀ start : Finset Client, client ∈ symbols.foldl
      (fun clients symbol => clients ∪ manager.getClientsForSymbolView symbol dataType) start ↔
        client ∈ start ∨
          ∃ symbol ∈ symbols, client ∈ manager.getClientsForSymbolView symbol dataType := by
    induction symbols with
    | nil => simp
    | cons symbol rest ih =>
        intro start
        rw [List.foldl_cons, ih, Finset.mem_union, List.exists_mem_cons_iff, or_assoc]
  rw [recipients, general]
  simp

end Recipients

/-! ## What a client was told -/

/-- What is acknowledged after a response. -/
def acknowledge (response : Response) (pairs : Finset (String × String)) :
    Finset (String × String) :=
  match response with
  | .subscriptionAck ack =>
      if ack.status = .error then pairs else pairs ∪ ack.feeds.toFinset ×ˢ ack.subscribed
  | .unsubscriptionAck _ feeds unsubscribed => pairs \ feeds.toFinset ×ˢ unsubscribed
  | _ => pairs

/-- The feeds and symbols that the responses leave acknowledged, the newest response first. -/
def acknowledged (responses : List Response) : Finset (String × String) :=
  responses.foldr acknowledge ∅

namespace StreamMultiplexer

variable (multiplexer : StreamMultiplexer)

/-- The feed stands for a kind of data of a stream. -/
def Maps (feed : String) (target : AlpacaStreamType) (name : FeedName) : Prop :=
  multiplexer.target feed = some target ∧ Text.contains feed name.name = true

variable {multiplexer}

theorem covers_iff {symbols : List String} {feed symbol : String} {target : AlpacaStreamType}
    {name : FeedName} : multiplexer.Covers symbols feed target name symbol ↔
      multiplexer.Maps feed target name ∧ symbol ∈ symbols := by
  unfold Covers Maps requestedFeeds
  split
  next named => simp [named]
  next unnamed => simp [unnamed]

/-- The feed of option flow stands for no data of a stream. -/
theorem not_maps_flowFeed {target : AlpacaStreamType} {name : FeedName} :
    ¬ multiplexer.Maps flowFeed target name := by
  rintro ⟨_, named⟩
  cases name <;> exact absurd named (by decide)

end StreamMultiplexer

/-! ## Registrations and acknowledgements -/

section Agreement

variable [Unicode] (multiplexer : StreamMultiplexer)

/-- The symbol of a stream is acknowledged. -/
def Stands (record : Registration) (target : AlpacaStreamType) (name : FeedName) (symbol : String) :
    Prop :=
  ∃ feed, (feed, symbol) ∈ acknowledged record.responses ∧ multiplexer.Maps feed target name

/-- Apart from what is concerned, the client is registered for what is acknowledged, and all of it
is in upper case. -/
structure Exact (concerned : AlpacaStreamType → FeedName → String → Prop) (record : Registration) :
    Prop where
  held : ∀ target name symbol, ¬ concerned target name symbol →
    (symbol ∈ record.held target name ↔ Stands multiplexer record target name symbol)
  upper : ∀ target name symbol, Stands multiplexer record target name symbol → upper symbol = symbol

/-- The message is about the symbol of a stream. -/
def Concerns (message : ClientMessage) (target : AlpacaStreamType) (name : FeedName)
    (symbol : String) : Prop :=
  ∃ request, message.request = .ok request ∧
    ∃ feed ∈ request.feeds, multiplexer.Covers request.symbols feed target name symbol

/-- The message that was received last ends the subscription to a feed and a symbol. -/
def Ends (record : Registration) (feed symbol : String) : Prop :=
  ∃ message request, record.received = some message ∧ message.action = "unsubscribe" ∧
    message.request = .ok request ∧ feed ∈ request.feeds ∧ symbol ∈ request.symbols

/-- Taking symbols away takes nothing that a feed stands for whose subscription goes on. -/
def Spares (record : Registration) (target : AlpacaStreamType) (requested : PerFeed (List String)) :
    Prop :=
  ∀ name, ∀ symbol ∈ requested name, ∀ feed, (feed, symbol) ∈ acknowledged record.responses →
    multiplexer.Maps feed target name → Ends record feed symbol

variable {multiplexer} {record last : Registration}

/-- A response that acknowledges nothing about the streams leaves the agreement. -/
theorem Exact.respond {response : Response} (exact : Exact multiplexer (fun _ _ _ => False) record)
    (held : last.held = record.held) (responses : last.responses = record.responses)
    (quiet : ∀ feed symbol target name pairs, multiplexer.Maps feed target name →
      ((feed, symbol) ∈ acknowledge response pairs ↔ (feed, symbol) ∈ pairs)) :
    Exact multiplexer (fun _ _ _ => False) (last.respond response) := by
  have stands (target : AlpacaStreamType) (name : FeedName) (symbol : String) :
      Stands multiplexer (last.respond response) target name symbol ↔
        Stands multiplexer record target name symbol := by
    refine exists_congr fun feed => and_congr_left fun maps => ?_
    refine (quiet feed symbol target name _ maps).trans ?_
    rw [responses]
    rfl
  refine ⟨fun target name symbol _ => ?_, fun target name symbol standing => ?_⟩
  · rw [stands, ← exact.held target name symbol not_false, ← held]
    rfl
  · exact exact.upper target name symbol ((stands target name symbol).mp standing)

end Agreement

section Handler

variable [Unicode] [Lowercase]

section Rely

variable (multiplexer : StreamMultiplexer) (permissions : Option ClientPermissions)

/-- The symbols of a subscription that passes the checks are in upper case. -/
def UpperCase (message : ClientMessage) : Prop :=
  ∀ subscriptions request, message.action = "subscribe" →
    checkSubscribe permissions subscriptions message = .ok request → request.isFlow = false →
    ∀ symbol ∈ request.symbols, upper symbol = symbol

/-- What the replies to a handler are when its client is routed to exactly. -/
def routingRely : (command : StreamCommand) → Registration → command.Reply → Prop
  | .receive, _, some message => UpperCase permissions message
  | .getMultiplexer, record, initialized =>
      (∃ message, record.received = some message ∧ message.action = "unsubscribe") →
        initialized = true
  | .subscribe _ _, _, sent => sent ≠ .error .runtimeError
  | .unsubscribe target requested, record, sent =>
      sent ≠ .error .runtimeError ∧ Spares multiplexer record target requested
  | .sendAncillary _ _ _, _, sent => sent ≠ .error .runtimeError
  | _, _, _ => True

/-- The terms under which a client is routed to exactly: while a message is handled, what it is
about is left out. -/
def routing : Terms StreamCommand.Reply Registration where
  guarantee
    | .receive, record => Exact multiplexer (fun _ _ _ => False) record
    | _, record => Exact multiplexer (fun target name symbol => ∃ message,
        record.received = some message ∧ Concerns multiplexer message target name symbol) record
  rely := routingRely multiplexer permissions

end Rely

variable {multiplexer : StreamMultiplexer} {permissions : Option ClientPermissions}
  {subscriptions : Finset String} {message : ClientMessage} {request : SubscriptionRequest}
  {record last : Registration}

theorem not_raises_runtimeError : ¬ Raises (routingRely multiplexer permissions) .runtimeError := by
  rintro ⟨command, record, reply, relied, raised⟩
  cases command with
  | subscribe target requested =>
      cases reply with
      | ok _ => cases raised
      | error error => exact relied (congrArg Except.error (Option.some.inj raised))
  | unsubscribe target requested =>
      cases reply with
      | ok _ => cases raised
      | error error => exact relied.1 (congrArg Except.error (Option.some.inj raised))
  | sendAncillary target action candidates =>
      cases reply with
      | ok _ => cases raised
      | error error => exact relied (congrArg Except.error (Option.some.inj raised))
  | _ => cases raised

/-- A symbol that one of some dropped feeds stands for had no other feed that stood for it. -/
theorem Dropped.spares {feeds symbols : List String}
    (dropped : Dropped (routingRely multiplexer permissions) multiplexer symbols feeds record last)
    {target : AlpacaStreamType} {name : FeedName} {symbol feed : String}
    (covered : ∃ feed ∈ feeds, multiplexer.Covers symbols feed target name symbol)
    (known : (feed, symbol) ∈ acknowledged record.responses)
    (maps : multiplexer.Maps feed target name) : Ends record feed symbol := by
  obtain ⟨other, mem, found, requested⟩ := covered
  obtain ⟨current, reply, received, responses, _, spares⟩ := dropped.answered other mem target found
  have ends := spares name symbol requested feed (responses ▸ known) maps
  unfold Ends at *
  rwa [received] at ends

omit [Unicode] [Lowercase] in
/-- What is acknowledged once all feeds of a request are. -/
theorem stands_subscribed {acks : List (Finset String × List StreamWarning)}
    {provider : String} {feeds symbols : List String} {warnings : List StreamWarning}
    (added : Added multiplexer symbols feeds acks record last) {target : AlpacaStreamType}
    {name : FeedName} {symbol : String} :
    Stands multiplexer
        (last.respond (.subscriptionAck ⟨.ok, provider, feeds,
          acks.foldl (fun all ack => all ∪ ack.1) ∅, ∅, warnings, none, [], none⟩))
        target name symbol ↔
      Stands multiplexer record target name symbol ∨
        ∃ feed ∈ feeds, multiplexer.Covers symbols feed target name symbol := by
  unfold Stands
  change (∃ feed, (feed, symbol) ∈ acknowledged last.responses ∪ _ ×ˢ _ ∧ _) ↔ _
  simp only [Finset.mem_union, Finset.mem_product, List.mem_toFinset, added.mem_acks,
    added.effect.responses]
  constructor
  · rintro ⟨feed, known | ⟨mem, other, _, kind, requested⟩, maps⟩
    · exact .inl ⟨feed, known, maps⟩
    · have here : symbol ∈ symbols := by
        unfold requestedFeeds at requested
        split at requested
        · exact requested
        · cases requested
      exact .inr ⟨feed, mem, StreamMultiplexer.covers_iff.mpr ⟨maps, here⟩⟩
  · rintro (⟨feed, known, maps⟩ | ⟨feed, mem, covers⟩)
    · exact ⟨feed, .inl known, maps⟩
    · exact ⟨feed, .inr ⟨mem, feed, mem, name, covers.2⟩,
        (StreamMultiplexer.covers_iff.mp covers).1⟩

/-- The agreement after a subscription to streams of the broker. -/
theorem StreamsSubscribed.exact {answer : Response × Finset String}
    (exact : Exact multiplexer (fun _ _ _ => False) record)
    (received : record.received = some message) (action : message.action = "subscribe")
    (upperCase : ∀ symbol ∈ request.symbols, upper symbol = symbol)
    (ended : StreamsSubscribed (routingRely multiplexer permissions) multiplexer request
      subscriptions record (.ok answer) last) :
    Exact multiplexer (fun _ _ _ => False) (last.respond answer.1) := by
  rcases ended with ⟨routed, rfl, ended⟩ | ⟨rfl, unavailable⟩
  · cases routed with
    | subscribed acks =>
        refine ⟨fun target name symbol _ => ?_, fun target name symbol standing => ?_⟩
        · refine Iff.trans ?_ (stands_subscribed ended).symm
          rw [← exact.held target name symbol not_false]
          change symbol ∈ last.held target name ↔ _
          rw [ended.effect.held]
          exact StreamMultiplexer.mem_addFeeds
        · rcases (stands_subscribed ended).mp standing with before | ⟨feed, _, covers⟩
          · exact exact.upper target name symbol before
          · exact upperCase symbol (StreamMultiplexer.covers_iff.mp covers).2
    | failed refusal errors =>
        obtain ⟨_, before, feed, after, acks, middle, split, added, dropped⟩ := ended
        have spared (target : AlpacaStreamType) (name : FeedName) (symbol : String)
            (held : symbol ∈ record.held target name) :
            ¬ ∃ feed ∈ before, multiplexer.Covers request.symbols feed target name symbol := by
          intro covered
          obtain ⟨feed, known, maps⟩ := (exact.held target name symbol not_false).mp held
          obtain ⟨other, _, same, ending, _⟩ :=
            dropped.spares covered (added.effect.responses ▸ known) maps
          rw [added.effect.received, received, Option.some.injEq] at same
          rw [← same, action] at ending
          exact absurd ending (by decide)
        refine exact.respond ?_ (dropped.effect.responses.trans added.effect.responses)
          fun _ _ _ _ _ _ => Iff.rfl
        rw [dropped.effect.held, added.effect.held]
        funext target name
        ext symbol
        rw [StreamMultiplexer.mem_removeFeeds, StreamMultiplexer.mem_addFeeds]
        have kept := spared target name symbol
        generalize (∃ feed ∈ before, multiplexer.Covers request.symbols feed target name symbol) =
          covered at *
        tauto
  · rcases unavailable with ⟨rfl, _⟩ | raised
    · exact exact.respond rfl rfl fun _ _ _ _ _ _ => Iff.rfl
    · exact absurd raised not_raises_runtimeError

/-- The agreement after the end of a subscription to streams of the broker. -/
theorem StreamsUnsubscribed.exact {answer : Response × Finset String}
    (exact : Exact multiplexer (fun _ _ _ => False) record)
    (received : record.received = some message) (action : message.action = "unsubscribe")
    (asked : message.request = .ok request)
    (ended : StreamsUnsubscribed (routingRely multiplexer permissions) multiplexer request
      subscriptions record (.ok answer) last) :
    Exact multiplexer (fun _ _ _ => False) (last.respond answer.1) := by
  obtain ⟨rfl, dropped | ⟨_, served⟩ | raised⟩ := ended
  · have stands (target : AlpacaStreamType) (name : FeedName) (symbol : String) :
        Stands multiplexer (last.respond (.unsubscriptionAck request.provider request.feeds
            request.symbols.toFinset)) target name symbol ↔
          ∃ feed, (feed, symbol) ∈ acknowledged record.responses ∧
            multiplexer.Maps feed target name ∧
              ¬ (feed ∈ request.feeds ∧ symbol ∈ request.symbols) := by
      unfold Stands
      change (∃ feed, (feed, symbol) ∈ acknowledged last.responses \ _ ×ˢ _ ∧ _) ↔ _
      simp only [Finset.mem_sdiff, Finset.mem_product, List.mem_toFinset, dropped.effect.responses]
      exact exists_congr fun feed => by tauto
    refine ⟨fun target name symbol _ => ?_, fun target name symbol standing => ?_⟩
    · refine Iff.trans ?_ (stands target name symbol).symm
      change symbol ∈ last.held target name ↔ _
      rw [dropped.effect.held, StreamMultiplexer.mem_removeFeeds,
        exact.held target name symbol not_false]
      constructor
      · rintro ⟨⟨feed, known, maps⟩, uncovered⟩
        refine ⟨feed, known, maps, fun ended => uncovered ⟨feed, ended.1, ?_⟩⟩
        exact StreamMultiplexer.covers_iff.mpr ⟨maps, ended.2⟩
      · rintro ⟨feed, known, maps, going⟩
        refine ⟨⟨feed, known, maps⟩, fun covered => going ?_⟩
        obtain ⟨other, request', same, _, asked', mem, here⟩ := dropped.spares covered known maps
        rw [received, Option.some.injEq] at same
        rw [← same, asked, Except.ok.injEq] at asked'
        rw [asked']
        exact ⟨mem, here⟩
    · obtain ⟨feed, known, maps, _⟩ := (stands target name symbol).mp standing
      exact exact.upper target name symbol ⟨feed, known, maps⟩
  · exact absurd (served ⟨message, received, action⟩) Bool.false_ne_true
  · exact absurd raised not_raises_runtimeError

omit [Unicode] [Lowercase] in
/-- The answers to a subscription to option flow acknowledge nothing about the streams. -/
theorem FlowAnswer.quiet {answer : Response × Finset String}
    (answered : FlowAnswer request subscriptions answer) {feed symbol : String}
    {target : AlpacaStreamType} {name : FeedName} {pairs : Finset (String × String)}
    (maps : multiplexer.Maps feed target name) :
    (feed, symbol) ∈ acknowledge answer.1 pairs ↔ (feed, symbol) ∈ pairs := by
  cases answered with
  | failed feeds note code => rfl
  | subscribed resume wired =>
      have feeds : (flowAck request resume wired).feeds = [flowFeed] := by
        unfold flowAck
        split_ifs <;> rfl
      have apart : feed ≠ flowFeed := fun same =>
        StreamMultiplexer.not_maps_flowFeed (same ▸ maps)
      unfold acknowledge
      dsimp only
      split
      · rfl
      · simp [feeds, apart.symm]

theorem handleMessage_exact (exact : Exact multiplexer (fun _ _ _ => False) record)
    (received : record.received = some message) (upperCase : UpperCase permissions message) :
    Meets (recording (.relying (routingRely multiplexer permissions)))
      (fun outcome last => ∀ answer, outcome = .ok answer →
        Exact multiplexer (fun _ _ _ => False) (last.respond answer.1)) record
      (multiplexer.handleMessage permissions subscriptions message) := by
  have plain (response : Response)
      (quiet : ∀ pairs, acknowledge response pairs = pairs) (accounts : Finset String) :
      ∀ answer, (.ok (response, accounts) : Except StreamError _) = .ok answer →
        Exact multiplexer (fun _ _ _ => False) (record.respond answer.1) := by
    rintro _ ⟨⟩
    exact exact.respond rfl rfl fun _ _ _ _ pairs _ => by rw [quiet]
  unfold StreamMultiplexer.handleMessage
  split_ifs with _ _ subscribes unsubscribes
  · exact plain .heartbeatAck (fun _ => rfl) _
  · exact plain .pong (fun _ => rfl) _
  · cases checked : checkSubscribe permissions subscriptions message with
    | error refusal => exact plain (.error refusal.1 refusal.2) (fun _ => rfl) _
    | ok request =>
        dsimp only
        split
        · refine subscribeFlow_meets.mono fun outcome last ended => ?_
          obtain ⟨rfl, answer, rfl, answered⟩ := ended
          rintro _ ⟨⟩
          exact exact.respond rfl rfl fun _ _ _ _ _ maps => answered.quiet maps
        next broker =>
          have symbols := upperCase subscriptions request subscribes checked
            (Bool.eq_false_iff.mpr broker)
          refine subscribeStreams_meets.mono fun outcome last ended => ?_
          rintro answer rfl
          exact ended.exact exact received subscribes symbols
  · cases checked : checkUnsubscribe permissions message with
    | error refusal => exact plain (.error refusal.1 refusal.2) (fun _ => rfl) _
    | ok request =>
        dsimp only
        split
        · refine unsubscribeFlow_meets.mono fun outcome last ended => ?_
          obtain ⟨rfl, rfl⟩ := ended
          rintro _ ⟨⟩
          refine exact.respond rfl rfl fun feed symbol _ _ pairs maps => ?_
          have apart : feed ≠ flowFeed := fun same =>
            StreamMultiplexer.not_maps_flowFeed (same ▸ maps)
          simp [acknowledge, apart.symm]
        · refine unsubscribeStreams_meets.mono fun outcome last ended => ?_
          rintro answer rfl
          exact ended.exact exact received unsubscribes (request_of_checkUnsubscribe checked)
  · exact plain (.status subscriptions) (fun _ => rfl) _
  · exact plain (.error "GW-E3001" ("Unknown action: " ++ message.action)) (fun _ => rfl) _

/-! ### While a message is handled -/

/-- A command that is issued for a message. -/
def Touches (multiplexer : StreamMultiplexer) (message : ClientMessage) : StreamCommand → Prop
  | .subscribe target requested | .unsubscribe target requested =>
      ∀ name, ∀ symbol ∈ requested name, Concerns multiplexer message target name symbol
  | .receive | .sendJson _ | .removeClient _ => False
  | _ => True

theorem handleMessage_touches :
    (multiplexer.handleMessage permissions subscriptions message).Uses
      (Touches multiplexer message) := by
  have concerns {request : SubscriptionRequest} (asked : message.request = .ok request) :
      ∀ feed ∈ request.feeds, ∀ target, multiplexer.target feed = some target →
        ∀ name, ∀ symbol ∈ requestedFeeds feed request.symbols name,
          Concerns multiplexer message target name symbol :=
    fun feed mem target found name symbol here =>
      ⟨request, asked, feed, mem, found, here⟩
  have releases {request : SubscriptionRequest} (asked : message.request = .ok request) :
      Releases (Touches multiplexer message) multiplexer request.feeds request.symbols :=
    ⟨trivial, fun _ _ _ => trivial, concerns asked⟩
  refine handleMessage_uses (fun request _ checked => ?_) fun request _ checked => ?_
  · obtain ⟨_, _, passes⟩ := checkSubscribe_eq_ok.mp checked
    split
    · exact ⟨trivial, trivial, trivial, trivial⟩
    · exact ⟨releases passes.asked, fun _ => trivial, concerns passes.asked⟩
  · split
    · exact ⟨trivial, trivial⟩
    · exact releases (request_of_checkUnsubscribe checked)

/-- What stays as it is while a message is handled. -/
structure Handling (multiplexer : StreamMultiplexer) (message : ClientMessage)
    (record current : Registration) : Prop where
  received : current.received = some message
  responses : current.responses = record.responses
  held : ∀ target name symbol, ¬ Concerns multiplexer message target name symbol →
    (symbol ∈ current.held target name ↔ symbol ∈ record.held target name)

omit [Unicode] [Lowercase] in
theorem Handling.next {current : Registration} {command : StreamCommand} {reply : command.Reply}
    (handling : Handling multiplexer message record current)
    (touches : Touches multiplexer message command) :
    Handling multiplexer message record (current.next command reply) := by
  have quiet : (current.next command reply).received = current.received ∧
      (current.next command reply).responses = current.responses :=
    Registration.next_quiet (by rintro rfl; exact touches) (by rintro response rfl; exact touches)
  obtain ⟨received, responses⟩ := quiet
  refine ⟨received.trans handling.received, responses.trans handling.responses, ?_⟩
  intro target name symbol apart
  rw [Registration.mem_held_next, ← handling.held target name symbol apart]
  have untaken : ¬ command.Takes target name symbol := by
    intro taken
    cases command with
    | unsubscribe other requested =>
        obtain ⟨rfl, mem⟩ := taken
        exact apart (touches name symbol mem)
    | removeClient other => exact touches
    | _ => exact taken
  have unadded : ¬ command.Adds target name symbol := by
    intro added
    cases command with
    | subscribe other requested =>
        obtain ⟨rfl, mem⟩ := added
        exact apart (touches name symbol mem)
    | _ => exact added
  simp [untaken, unadded]

omit [Lowercase] in
/-- Apart from what the message is about, the agreement holds on the way. -/
theorem Handling.exact {current : Registration}
    (handling : Handling multiplexer message record current)
    (exact : Exact multiplexer (fun _ _ _ => False) record) :
    Exact multiplexer (fun target name symbol => ∃ message,
      current.received = some message ∧
      Concerns multiplexer message target name symbol) current := by
  have stands (target : AlpacaStreamType) (name : FeedName) (symbol : String) :
      Stands multiplexer current target name symbol ↔
        Stands multiplexer record target name symbol := by
    unfold Stands
    rw [handling.responses]
  refine ⟨fun target name symbol apart => ?_, fun target name symbol standing => ?_⟩
  · rw [stands, ← exact.held target name symbol not_false]
    exact handling.held target name symbol fun concerned =>
      apart ⟨message, handling.received, concerned⟩
  · exact exact.upper target name symbol ((stands target name symbol).mp standing)

theorem handleMessage_routes (exact : Exact multiplexer (fun _ _ _ => False) record)
    (received : record.received = some message) (upperCase : UpperCase permissions message) :
    Meets (recording (routing multiplexer permissions)) (fun outcome last =>
      (∀ answer, outcome = .ok answer →
        Exact multiplexer (fun _ _ _ => False) (last.respond answer.1)) ∧
        Handling multiplexer message record last) record
      (multiplexer.handleMessage permissions subscriptions message) := by
  refine handleMessage_touches.strengthen (handleMessage_exact exact received upperCase)
    ⟨received, rfl, fun _ _ _ _ => Iff.rfl⟩ fun command current touches handling => ?_
  refine ⟨?_, fun reply next moved => ⟨moved, ?_⟩⟩
  · have here := handling.exact exact
    cases command with
    | receive => exact touches.elim
    | _ => exact here
  · obtain ⟨rfl, _⟩ := moved
    exact handling.next touches

theorem messageLoop_routes {count : Nat} (exact : Exact multiplexer (fun _ _ _ => False) record) :
    Meets (recording (routing multiplexer permissions)) (fun _ _ => True) record
      (multiplexer.messageLoop permissions count subscriptions) := by
  induction count generalizing subscriptions record with
  | zero => trivial
  | succ count ih =>
      refine ⟨exact, fun reply next recorded => ?_⟩
      obtain ⟨rfl, relied⟩ := recorded
      cases reply with
      | none => trivial
      | some message =>
          have exactHere : Exact multiplexer (fun _ _ _ => False)
              (record.next .receive (some message)) := ⟨exact.held, exact.upper⟩
          refine (handleMessage_routes exactHere rfl relied).bind (fun answer last ended => ?_)
            fun _ _ _ => trivial
          refine ⟨ended.2.exact exactHere, fun sent next recorded => ?_⟩
          obtain ⟨rfl, _⟩ := recorded
          cases sent with
          | ok _ => exact ih (ended.1 answer rfl)
          | error _ => trivial

end Handler

/-! ## Runs -/

section Runs

variable [Unicode] [Lowercase] {Client DateTime : Type} [DecidableEq Client]

/-- The conditions under which a client is routed to exactly: its subscriptions name symbols in
upper case, its unsubscriptions and rollbacks take nothing that another feed stands for, the
multiplexer is there when it unsubscribes, and no upstream send raises a `RuntimeError`. -/
structure Routable (P : Policy (streaming Client)) (multiplexer : StreamMultiplexer)
    (permissions : Option ClientPermissions) (client : Client) : Prop where
  receive : ∀ message world, P.allows client .receive (some message) world →
    UpperCase permissions message
  getMultiplexer : ∀ initialized world, P.allows client .getMultiplexer initialized world →
    (∃ message, world.received client = some message ∧ message.action = "unsubscribe") →
      initialized = true
  subscribe : ∀ target requested failure world,
    P.allows client (.subscribe target requested) failure world → failure ≠ some .runtimeError
  unsubscribe : ∀ target requested failure world,
    P.allows client (.unsubscribe target requested) failure world →
      failure ≠ some .runtimeError ∧
        Spares multiplexer (world.registration client) target requested
  sendAncillary : ∀ target action candidates failure world,
    P.allows client (.sendAncillary target action candidates) failure world →
      failure ≠ some .runtimeError

variable {P : Policy (streaming Client)} {multiplexer : StreamMultiplexer}
  {permissions : Option ClientPermissions} {client : Client}

theorem Routable.rely (routable : Routable P multiplexer permissions client)
    {command : StreamCommand} {outcome : command.Outcome} {reply : command.Reply}
    {world after : StreamWorld Client} (allowed : P.allows client command outcome world)
    (performed : world.perform client command outcome = some (reply, after)) :
    routingRely multiplexer permissions command (world.registration client) reply := by
  cases command with
  | receive =>
      cases outcome with
      | none =>
          obtain ⟨rfl, _⟩ := Prod.mk.inj (Option.some.inj performed)
          trivial
      | some message =>
          obtain ⟨rfl, _⟩ := Prod.mk.inj (Option.some.inj performed)
          exact routable.receive message world allowed
  | getMultiplexer =>
      obtain ⟨rfl, _⟩ := Prod.mk.inj (Option.some.inj performed)
      exact routable.getMultiplexer outcome world allowed
  | subscribe target requested =>
      rintro rfl
      have raised := congrArg Prod.fst (Option.some.inj performed)
      exact routable.subscribe target requested outcome world allowed
        (StreamWorld.failure_of_change raised)
  | unsubscribe target requested =>
      obtain ⟨clean, spares⟩ := routable.unsubscribe target requested outcome world allowed
      refine ⟨?_, spares⟩
      rintro rfl
      have raised := congrArg Prod.fst (Option.some.inj performed)
      exact clean (StreamWorld.failure_of_change raised)
  | sendAncillary target action candidates =>
      rintro rfl
      have raised := congrArg Prod.fst (Option.some.inj performed)
      rcases UpstreamConnection.failure_of_sendAncillary raised with caused | closed
      · exact routable.sendAncillary target action candidates outcome world allowed caused
      · cases closed
  | _ => trivial

variable {initial final : Config Client StreamCommand.Reply StreamError Unit (StreamWorld Client)}

/-- A message of a stream goes to a client, which waits for its next message or is in the middle of
one about other symbols, just when the client has an acknowledged subscription to a feed of that
stream and kind of data with a symbol that the validation takes for one of the message's.  The kinds
are those that have a feed: of the others no client holds a subscription, and their messages are
looked up for nobody. -/
theorem routing_is_exact (run : Reaches P initial final)
    (routable : Routable P multiplexer permissions client) {count : Nat}
    (task : initial.tasks client = multiplexer.messageLoop permissions count ∅)
    (unheld : ∀ target name, initial.world.held client target name = ∅)
    (unanswered : initial.world.responses client = [])
    {command : StreamCommand} {resume : command.Reply → Handler Unit}
    (suspended : final.tasks client = .suspend command resume)
    {streamType target : AlpacaStreamType} {message : Payload DateTime} {dataType : DataType}
    {name : FeedName} (kind : messageDataType message = some dataType)
    (feed : dataType.feedName = some name)
    (connection : multiplexer.getConnection streamType = some target)
    (settled : command = .receive ∨ ∀ symbol ∈ routedSymbols dataType message, ¬ ∃ received,
      final.world.received client = some received ∧
        Concerns multiplexer received target name symbol) :
    client ∈ multiplexer.recipients final.world streamType message ↔
      ∃ pair ∈ acknowledged (final.world.responses client),
        multiplexer.Maps pair.1 target name ∧ upper pair.2 ∈ routedSymbols dataType message := by
  have start : Exact multiplexer (fun _ _ _ => False) (initial.world.registration client) := by
    have none (target : AlpacaStreamType) (name : FeedName) (symbol : String) :
        ¬ Stands multiplexer (initial.world.registration client) target name symbol := by
      rintro ⟨_, known, _⟩
      change _ ∈ acknowledged (initial.world.responses client) at known
      rw [unanswered] at known
      cases known
    refine ⟨fun target name symbol _ => iff_of_false (fun held => ?_) (none target name symbol),
      fun target name symbol standing => absurd standing (none target name symbol)⟩
    change symbol ∈ initial.world.held client target name at held
    rw [unheld] at held
    cases held
  have kept := (reaches_kept run client (A := fun _ => True)
    (fun _ _ _ _ _ allowed performed => routable.rely allowed performed)
    (fun _ _ _ _ _ _ _ _ _ => trivial) (fun _ _ _ => trivial) trivial
    (task ▸ messageLoop_routes start)).2
  rw [suspended] at kept
  have agreed : (∀ symbol ∈ routedSymbols dataType message,
      (symbol ∈ final.world.held client target name ↔
        Stands multiplexer (final.world.registration client) target name symbol)) ∧
      ∀ symbol, Stands multiplexer (final.world.registration client) target name symbol →
        upper symbol = symbol := by
    cases command with
    | receive => exact ⟨fun symbol _ => kept.1.held target name symbol not_false, kept.1.upper _ _⟩
    | _ =>
        have apart := settled.resolve_left nofun
        exact ⟨fun symbol mem => kept.1.held target name symbol (apart symbol mem),
          kept.1.upper _ _⟩
  rw [StreamMultiplexer.recipients, kind, connection]
  dsimp only
  rw [SubscriptionManager.mem_recipients]
  simp only [SubscriptionManager.mem_getClientsForSymbolView, feed, Option.some.injEq,
    exists_eq_left']
  constructor
  · rintro ⟨symbol, mem, held⟩
    have stands := (agreed.1 symbol mem).mp held
    obtain ⟨feed, known, maps⟩ := stands
    exact ⟨(feed, symbol), known, maps, (agreed.2 symbol ⟨feed, known, maps⟩).symm ▸ mem⟩
  · rintro ⟨⟨feed, symbol⟩, known, maps, mem⟩
    have stands : Stands multiplexer (final.world.registration client) target name symbol :=
      ⟨feed, known, maps⟩
    rw [agreed.2 symbol stands] at mem
    exact ⟨symbol, mem, (agreed.1 symbol mem).mpr stands⟩

end Runs

/-- Quotes of a symbol. -/
def quotesOf (symbol : String) : ClientMessage :=
  ⟨"subscribe", none, some (.texts ["stock_quotes"]), none, some (.texts [symbol]), none⟩

/-- A connection that handles some messages. -/
def listening : Config Unit StreamCommand.Reply StreamError Unit (StreamWorld Unit) where
  world := stocksConnected
  tasks _ := @StreamMultiplexer.messageLoop asciiUnicode asciiLowercase .sip (some unrestricted) 2 ∅

/-- A message comes and is answered without a failure. -/
def answered (message : ClientMessage) : List (Turn (asciiStreaming Unit)) :=
  [.run () (receives message), .run () (sends none), .run () (sends none), .run () (sends none),
    .run () (sends none), .run () (sends none)]

/-- A subscription in lower case is acknowledged, and the quotes never come. -/
theorem lower_case_gets_nothing : ∃ final command resume,
    Reaches (Policy.free (asciiStreaming Unit)) listening final ∧
      final.tasks () = .suspend command resume ∧ command = .receive ∧
      ("stock_quotes", "aapl") ∈ acknowledged (final.world.responses ()) ∧
      @upper asciiUnicode "aapl" ∈ routedSymbols .quotes quote.message ∧
      () ∉ StreamMultiplexer.sip.recipients final.world .stocksSip quote.message := by
  have played : ∃ final command resume,
      listening.play (Policy.free (asciiStreaming Unit)) (answered (quotesOf "aapl")) = some final ∧
      final.tasks () = .suspend command resume ∧ command = .receive ∧
      ("stock_quotes", "aapl") ∈ acknowledged (final.world.responses ()) ∧
      () ∉ StreamMultiplexer.sip.recipients final.world .stocksSip quote.message :=
    ⟨_, _, _, rfl, rfl, rfl, by decide, by decide⟩
  obtain ⟨final, command, resume, ran, suspended, waiting, known, missed⟩ := played
  exact ⟨final, command, resume, Config.play_reaches ran, suspended, waiting, known,
    by decide, missed⟩

/-- Only quotes of one symbol are asked for, and nothing fails. -/
def plainChoice (symbol : String) : (command : StreamCommand) → command.Outcome → Bool
  | .receive, some message => message.symbols = some (.texts [symbol])
  | .getMultiplexer, initialized => initialized
  | .subscribe _ _, failure => failure = none
  | .unsubscribe _ _, _ => false
  | .sendAncillary _ _ _, failure => failure = none
  | _, _ => true

/-- The runs in which only quotes of one symbol are asked for. -/
def plainRuns (symbol : String) : Policy (asciiStreaming Unit) where
  allows _ command outcome _ := plainChoice symbol command outcome = true
  permits _ _ := False

instance (symbol : String) : (plainRuns symbol).Decides :=
  ⟨fun _ _ _ _ => inferInstanceAs (Decidable (_ = true)),
    fun _ _ => inferInstanceAs (Decidable False)⟩

theorem plainRuns_routable : @Routable asciiUnicode asciiLowercase Unit _ (plainRuns "AAPL") .sip
    (some unrestricted) () := by
  let _ := asciiUnicode
  let _ := asciiLowercase
  refine ⟨fun message _ allowed subscriptions request _ checked _ symbol mem => ?_,
    fun _ _ allowed _ => allowed, fun _ _ _ _ allowed => ?_, fun _ _ _ _ refused => ?_,
    fun _ _ _ _ _ allowed => ?_⟩
  · have symbols : message.symbols = some (.texts ["AAPL"]) := of_decide_eq_true allowed
    obtain ⟨_, _, passes⟩ := checkSubscribe_eq_ok.mp checked
    have asked := passes.asked
    unfold ClientMessage.request at asked
    rw [symbols] at asked
    dsimp only at asked
    split at asked
    · cases asked
    · obtain rfl := Except.ok.inj asked
      obtain rfl := List.mem_singleton.mp mem
      decide
  · rw [show _ = none from of_decide_eq_true allowed]
    exact nofun
  · cases refused
  · rw [show _ = none from of_decide_eq_true allowed]
    exact nofun

/-- A subscription in upper case gets its quotes. -/
theorem upper_case_gets_quotes : ∃ final, Reaches (plainRuns "AAPL") listening final ∧
    () ∈ StreamMultiplexer.sip.recipients final.world .stocksSip quote.message := by
  have played : ∃ final resume,
      listening.play (plainRuns "AAPL") (answered (quotesOf "AAPL")) = some final ∧
      final.tasks () = .suspend .receive resume ∧
      ("stock_quotes", "AAPL") ∈ acknowledged (final.world.responses ()) :=
    ⟨_, _, rfl, rfl, by decide⟩
  obtain ⟨final, resume, ran, suspended, known⟩ := played
  have reached := Config.play_reaches ran
  have task : listening.tasks () = @StreamMultiplexer.messageLoop asciiUnicode asciiLowercase .sip
      (some unrestricted) 2 ∅ := rfl
  have routed := @routing_is_exact asciiUnicode asciiLowercase Unit String _ _ .sip _ () _ _ reached
    plainRuns_routable 2 task (fun target _ => by cases target <;> rfl) rfl .receive
      resume suspended
    .stocksSip .stocksSip quote.message .quotes .quotes rfl rfl rfl (.inl rfl)
  refine ⟨final, reached, routed.mpr ⟨_, known, ⟨?_, ?_⟩, ?_⟩⟩
  · decide
  · decide
  · decide

end Streaming
end DataGateway
