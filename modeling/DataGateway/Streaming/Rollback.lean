import DataGateway.Streaming.Disconnect
import DataGateway.Streaming.Effects

/-!
# Subscriptions that fail

A feed that cannot be subscribed to takes back what the feeds before it asked for.  What it takes
back is the request, so a symbol that the client held before is lost with the others.
-/

namespace DataGateway
namespace Streaming

open Coroutine Machine

/-- The error of a feed that could not be subscribed to. -/
def SubscriptionAck.FeedFailed (ack : SubscriptionAck) : Prop :=
  ∃ note, ack.note = some note ∧ (note.1 = "GW-E3002" ∨ note.1 = "GW-E3003")

/-- A subscription was given up at a feed: the feeds before it were added and taken away again. -/
structure GivenUp (multiplexer : StreamMultiplexer) (request : SubscriptionRequest)
    (before : List String) (record last : Registration) : Prop where
  fails : ∃ feed after, request.feeds = before ++ feed :: after
  held : last.held = multiplexer.removeFeeds request.symbols before
    (multiplexer.addFeeds request.symbols before record.held)
  asked : last.asked = multiplexer.asks request.symbols before ++ record.asked

section Handler

variable [Unicode] [Lowercase] {multiplexer : StreamMultiplexer}
  {permissions : Option ClientPermissions}
  {subscriptions : Finset String} {message : ClientMessage} {record : Registration}

/-- What a message comes to whose answer says that a feed failed. -/
def FailedMessage (multiplexer : StreamMultiplexer) (permissions : Option ClientPermissions)
    (subscriptions : Finset String) (message : ClientMessage) (record : Registration)
    (outcome : Except StreamError (Response × Finset String)) (last : Registration) : Prop :=
  ∀ ack accounts, outcome = .ok (.subscriptionAck ack, accounts) → ack.FeedFailed →
    accounts = subscriptions ∧ ∃ request before,
      checkSubscribe permissions subscriptions message = .ok request ∧
        GivenUp multiplexer request before record last

theorem FailedMessage.of_other {outcome : Except StreamError (Response × Finset String)}
    {last : Registration}
    (other : ∀ ack accounts, outcome = .ok (.subscriptionAck ack, accounts) → ¬ ack.FeedFailed) :
    FailedMessage multiplexer permissions subscriptions message record outcome last :=
  fun ack accounts same failed => (other ack accounts same failed).elim

omit [Unicode] [Lowercase] in
theorem not_feedFailed_of_code {ack : SubscriptionAck}
    (code : ∀ note, ack.note = some note → note.1 ≠ "GW-E3002" ∧ note.1 ≠ "GW-E3003") :
    ¬ ack.FeedFailed := by
  rintro ⟨note, same, failed⟩
  exact failed.elim (code note same).1 (code note same).2

omit [Unicode] [Lowercase] in
/-- A subscription to option flow does not end with the error of a feed. -/
theorem FlowAnswer.not_feedFailed {request : SubscriptionRequest} {ack : SubscriptionAck}
    {accounts : Finset String}
    (answer : FlowAnswer request subscriptions (.subscriptionAck ack, accounts)) :
    ¬ ack.FeedFailed := by
  refine not_feedFailed_of_code fun note same => ?_
  cases answer with
  | failed feeds other code =>
      obtain rfl := Option.some.inj same
      rcases code with code | code <;> rw [code] <;> decide
  | subscribed resume wired =>
      unfold flowAck at same
      split_ifs at same
      · obtain rfl := Option.some.inj same
        decide
      · obtain rfl := Option.some.inj same
        decide

theorem subscribeStreams_failed {request : SubscriptionRequest}
    (checked : checkSubscribe permissions subscriptions message = .ok request) :
    Meets (recording .free)
      (FailedMessage multiplexer permissions subscriptions message record) record
      (multiplexer.subscribeStreams request subscriptions) := by
  refine subscribeStreams_meets.mono fun outcome last ended => ?_
  cases outcome with
  | error _ => exact .of_other fun _ _ => nofun
  | ok answer =>
      rcases ended with ⟨routed, rfl, ended⟩ | ⟨rfl, _⟩
      · cases routed with
        | subscribed acks =>
            refine .of_other ?_
            rintro _ _ ⟨⟩ ⟨_, same, _⟩
            cases same
        | failed refusal errors =>
            obtain ⟨_, before, feed, after, acks, middle, split, added, dropped⟩ := ended
            rintro _ _ ⟨⟩ _
            refine ⟨rfl, request, before, checked, ⟨feed, after, split⟩, ?_, ?_⟩
            · rw [dropped.effect.held, added.effect.held]
            · rw [dropped.effect.asked, added.effect.asked]
      · refine .of_other ?_
        rintro _ _ ⟨⟩
        refine not_feedFailed_of_code fun note same => ?_
        obtain rfl := Option.some.inj same
        decide

theorem handleMessage_failed :
    Meets (recording .free)
      (FailedMessage multiplexer permissions subscriptions message record) record
      (multiplexer.handleMessage permissions subscriptions message) := by
  unfold StreamMultiplexer.handleMessage
  split_ifs
  · exact .of_other fun _ _ => nofun
  · exact .of_other fun _ _ => nofun
  · cases checked : checkSubscribe permissions subscriptions message with
    | error refusal => exact .of_other fun _ _ => nofun
    | ok request =>
        dsimp only
        split
        · refine subscribeFlow_meets.mono fun outcome last ended => .of_other ?_
          obtain ⟨_, answer, rfl, answered⟩ := ended
          rintro _ _ ⟨⟩
          exact answered.not_feedFailed
        · exact subscribeStreams_failed checked
  · cases checkUnsubscribe permissions message with
    | error refusal => exact .of_other fun _ _ => nofun
    | ok request =>
        dsimp only
        split
        · refine unsubscribeFlow_meets.mono fun outcome last ended => .of_other ?_
          rintro _ _ rfl
          cases ended.2
        · refine unsubscribeStreams_meets.mono fun outcome last ended => .of_other ?_
          rintro _ _ rfl
          cases ended.1
  · exact .of_other fun _ _ => nofun
  · exact .of_other fun _ _ => nofun

end Handler

section Runs

variable [Unicode] [Lowercase] {Client : Type} [DecidableEq Client]

/-- A client is registered for the same in both worlds, by its own sets and by the indices. -/
def SameRegistrations (client : Client) (world after : StreamWorld Client) : Prop :=
  ∀ streamType name symbol,
    (symbol ∈ after.held client streamType name ↔ symbol ∈ world.held client streamType name) ∧
      (client ∈ ((after.connections streamType).subscriptions.index name).clients symbol ↔
        client ∈ ((world.connections streamType).subscriptions.index name).clients symbol)

omit [Unicode] [Lowercase] in
theorem sameRegistrations_iff {client : Client} {world after : StreamWorld Client} :
    SameRegistrations client world after ↔ ∀ streamType name symbol,
      (symbol ∈ (after.registration client).held streamType name ↔
        symbol ∈ (world.registration client).held streamType name) := by
  refine forall_congr' fun streamType => forall_congr' fun name => forall_congr' fun symbol => ?_
  have indexed (world : StreamWorld Client) :
      client ∈ ((world.connections streamType).subscriptions.index name).clients symbol ↔
        symbol ∈ world.held client streamType name :=
    ((world.connections streamType).subscriptions.lists name).mem_clients symbol client
  rw [indexed, indexed, and_self]
  rfl

variable {P : Policy (streaming Client)}
  {initial final : Config Client StreamCommand.Reply StreamError (Response × Finset String)
    (StreamWorld Client)}

/-- A subscription that fails at a feed leaves the registrations and the accounts of its connection
as they were just when the client held nothing of what the feeds before it stand for. -/
theorem failed_subscribe_changes_nothing_iff {multiplexer : StreamMultiplexer} {client : Client}
    {permissions : Option ClientPermissions} {subscriptions accounts : Finset String}
    {message : ClientMessage} {ack : SubscriptionAck} (run : Reaches P initial final)
    (task : initial.tasks client = multiplexer.handleMessage permissions subscriptions message)
    (ended : final.tasks client = .finish (.ok (.subscriptionAck ack, accounts)))
    (failed : ack.FeedFailed) :
    ∃ request before feed after, checkSubscribe permissions subscriptions message = .ok request ∧
      request.feeds = before ++ feed :: after ∧
      final.world.asked client =
        multiplexer.asks request.symbols before ++ initial.world.asked client ∧
      ((accounts = subscriptions ∧ SameRegistrations client initial.world final.world) ↔
        ∀ streamType name, ∀ symbol ∈ initial.world.held client streamType name,
          ¬ ∃ feed ∈ before, multiplexer.Covers request.symbols feed streamType name symbol) := by
  have records := reaches_recorded run client (task ▸ handleMessage_failed)
  rw [ended] at records
  obtain ⟨rfl, request, before, checked, ⟨feed, after, split⟩, held, asked⟩ :=
    records ack accounts rfl failed
  refine ⟨request, before, feed, after, checked, split, asked, ?_⟩
  rw [eq_self_iff_true, true_and, sameRegistrations_iff, held]
  refine forall_congr' fun streamType => forall_congr' fun name => forall_congr' fun symbol => ?_
  rw [StreamMultiplexer.mem_removeFeeds, StreamMultiplexer.mem_addFeeds]
  change _ ↔ (symbol ∈ (initial.world.registration client).held streamType name → _)
  generalize (∃ feed ∈ before, multiplexer.Covers request.symbols feed streamType name symbol) =
    covered
  tauto

end Runs

/-- Everything is permitted. -/
def unrestricted : ClientPermissions := ⟨[], [], 100, 100⟩

/-- Quotes and trades of a stock. -/
def quotesAndTrades : ClientMessage :=
  ⟨"subscribe", none, some (.texts ["stock_quotes", "stock_trades"]), none,
    some (.texts ["AAPL"]), none⟩

/-- A client subscribes to quotes and trades. -/
def subscribing (subscriptions : Finset String) (world : StreamWorld Unit) :
    Config Unit StreamCommand.Reply StreamError (Response × Finset String) (StreamWorld Unit) where
  world := world
  tasks _ := @StreamMultiplexer.handleMessage asciiUnicode asciiLowercase .sip (some unrestricted)
    subscriptions quotesAndTrades

/-- The stream cannot be connected to, and nothing else fails. -/
def disconnected : (command : StreamCommand) → command.Outcome
  | .ensureConnected _ => false
  | command => sends none command

/-- The stream is there for the quotes and not any more for the trades. -/
def lostBetween : List (Turn (asciiStreaming Unit)) :=
  [.run () (sends none), .run () (sends none), .run () (sends none), .run () disconnected,
    .run () (sends none), .run () (sends none)]

/-- A client that has quotes loses them when it asks for quotes and trades and the trades fail. -/
theorem failed_trades_lose_the_quotes : ∃ final ack,
    Reaches (Policy.free (asciiStreaming Unit))
      (subscribing {entry "stock_quotes" "AAPL"} (connectedWith .stocksSip "AAPL" .initial)) final ∧
      final.tasks () =
        .finish (.ok (.subscriptionAck ack, {entry "stock_quotes" "AAPL"})) ∧ ack.FeedFailed ∧
      ¬ SameRegistrations () (connectedWith .stocksSip "AAPL" .initial) final.world := by
  have played : ∃ final ack,
      (subscribing {entry "stock_quotes" "AAPL"} (connectedWith .stocksSip "AAPL" .initial)).play
        (Policy.free (asciiStreaming Unit)) lostBetween = some final ∧
      final.tasks () =
        .finish (.ok (.subscriptionAck ack, {entry "stock_quotes" "AAPL"})) ∧
      ack.note = some ("GW-E3003", "Failed to connect to stream: stocks_sip") ∧
      final.world.held () .stocksSip .quotes = ∅ := ⟨_, _, rfl, rfl, rfl, rfl⟩
  obtain ⟨final, ack, ran, ended, note, nothing⟩ := played
  refine ⟨final, ack, Config.play_reaches ran, ended, ⟨_, note, .inr rfl⟩, fun same => ?_⟩
  have before : "AAPL" ∈
      (connectedWith .stocksSip "AAPL" .initial).held () .stocksSip .quotes := by decide
  have after := (same .stocksSip .quotes "AAPL").1.mpr before
  rw [nothing] at after
  cases after

/-- The stream of stocks is there. -/
def stocksConnected : StreamWorld Unit :=
  let _ := asciiUnicode
  (StreamWorld.initial.disturb (.connect .stocksSip)).disturb (.authenticate .stocksSip none)

/-- A client that has nothing yet has nothing afterwards. -/
theorem failed_trades_leave_nothing : ∃ final,
    Reaches (Policy.free (asciiStreaming Unit)) (subscribing ∅ stocksConnected) final ∧
      SameRegistrations () stocksConnected final.world := by
  have played : ∃ final ack accounts,
      (subscribing ∅ stocksConnected).play (Policy.free (asciiStreaming Unit))
        [.run () (sends none), .run () (sends none), .run () (sends none), .run () (sends none),
          .run () disconnected, .run () (sends none), .run () (sends none)] = some final ∧
      final.tasks () = .finish (.ok (.subscriptionAck ack, accounts)) ∧
      ack.note = some ("GW-E3003", "Failed to connect to stream: stocks_sip") :=
    ⟨_, _, _, rfl, rfl, rfl⟩
  obtain ⟨final, ack, accounts, ran, ended, note⟩ := played
  have reached := Config.play_reaches ran
  have task : (subscribing ∅ stocksConnected).tasks () = @StreamMultiplexer.handleMessage
      asciiUnicode asciiLowercase .sip (some unrestricted) ∅ quotesAndTrades := rfl
  obtain ⟨_, _, _, _, _, _, _, same⟩ := @failed_subscribe_changes_nothing_iff asciiUnicode
    asciiLowercase Unit _ _ _ _ .sip () _ _ _ _ _ reached task ended ⟨_, note, .inr rfl⟩
  refine ⟨final, reached, (same.mpr fun streamType name symbol held => ?_).2⟩
  have nothing : stocksConnected.held () streamType name = ∅ := by
    cases streamType <;> rfl
  have mem : symbol ∈ stocksConnected.held () streamType name := held
  rw [nothing] at mem
  cases mem

end Streaming
end DataGateway
