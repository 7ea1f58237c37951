import DataGateway.Streaming.Effects
import DataGateway.Streaming.Rollback

/-!
# What a client may be registered for

A message is checked by the names that it sends: the provider as it is called, and one kind of data
for each feed.  It is registered on the streams of the broker for every kind of data that a feed
name contains.  The two agree when the names do.
-/

namespace DataGateway
namespace Streaming

open Coroutine Machine

section Permissions

variable [Lowercase]

namespace ClientPermissions

variable (permissions : ClientPermissions)

/-- Data of the broker of this kind is permitted. -/
def CoversAlpaca (category : String) : Prop :=
  (permissions.providers ≠ [] → "alpaca" ∈ permissions.providers) ∧
    (permissions.feeds ≠ [] → category ∈ permissions.feeds.map normalizeFeedPermission)

/-- Option flow is permitted. -/
def CoversFlow : Prop :=
  (permissions.providers ≠ [] →
    "uw" ∈ permissions.providers ∨ "unusual_whales" ∈ permissions.providers) ∧
    (permissions.feeds ≠ [] → "flow" ∈ permissions.feeds.map normalizeFeedPermission)

variable {permissions}

theorem hasFeedPermission_iff {category : String} : hasFeedPermission permissions category = true ↔
    (permissions.feeds ≠ [] → category ∈ permissions.feeds.map normalizeFeedPermission) := by
  simp only [hasFeedPermission, Bool.or_eq_true, List.isEmpty_iff, List.contains_iff_mem]
  tauto

theorem lower_eq {text : String} (ascii : ∀ c ∈ text.toList, c.toNat < 128) :
    lower text = String.ofList (text.toList.map Char.toLower) :=
  congrArg String.ofList (Lowercase.lower_ascii _ ascii)

theorem lower_alpaca : lower "alpaca" = "alpaca" :=
  (lower_eq (by simp)).trans rfl

theorem hasProviderPermission_alpaca : hasProviderPermission permissions "alpaca" = true ↔
    (permissions.providers ≠ [] → "alpaca" ∈ permissions.providers) := by
  simp only [hasProviderPermission, lower_alpaca, Bool.or_eq_true, List.isEmpty_iff,
    List.contains_iff_mem]
  simp
  tauto

/-- Access to a provider that is named in another case or under no alias. -/
theorem hasProviderPermission_of_lower {provider other : String}
    (same : lower provider = lower other)
    (granted : hasProviderPermission permissions provider = true) :
    hasProviderPermission permissions other = true := by
  unfold hasProviderPermission at *
  rwa [same] at granted

theorem permitted_of_deniedFeed {feeds : List String} (none : deniedFeed permissions feeds = none)
    {feed : String} (mem : feed ∈ feeds) :
    hasFeedPermission permissions (normalizeFeedPermission feed) = true := by
  have kept := List.find?_eq_none.mp none _ (List.mem_map_of_mem mem)
  simpa using kept

theorem normalizeFeedPermission_flow {feed : String}
    (flow : flowFeeds.contains (lower feed) = true) :
    normalizeFeedPermission feed = "flow" := by
  have known : lower feed = "flow" ∨ lower feed = "flow_alerts" := by
    simpa [flowFeeds] using flow
  unfold normalizeFeedPermission
  rcases known with same | same <;> rw [same] <;> decide

/-- A request for option flow that passes the checks is covered. -/
theorem coversFlow_of_checked {provider : String} {feeds : List String}
    (flow : isUwFlowRequest provider feeds = true)
    (granted : hasProviderPermission permissions provider = true)
    (none : deniedFeed permissions feeds = none) : permissions.CoversFlow := by
  obtain ⟨uw, some⟩ := Bool.and_eq_true_iff.mp flow
  obtain ⟨feed, mem, named⟩ := List.any_eq_true.mp some
  refine ⟨fun limited => ?_, ?_⟩
  · have known : lower provider = "uw" ∨ lower provider = "unusual_whales" := by
      simpa [uwProviders] using uw
    simp only [hasProviderPermission, Bool.or_eq_true, Bool.and_eq_true, beq_iff_eq,
      List.isEmpty_iff, List.contains_iff_mem] at granted
    rcases known with same | same <;> rw [same] at granted
    · have apart : "uw" ≠ "yf" := by decide
      tauto
    · have apart : "unusual_whales" ≠ "uw" := by decide
      have apart' : "unusual_whales" ≠ "yf" := by decide
      tauto
  · have permitted := permitted_of_deniedFeed none mem
    rw [normalizeFeedPermission_flow named] at permitted
    exact hasFeedPermission_iff.mp permitted

end ClientPermissions

/-- The names of a message say what is registered for it: the provider is the broker or the broker
is permitted too, and each kind of data in the name of a feed is the kind that is checked for the
feed or is permitted too. -/
def Agrees (multiplexer : StreamMultiplexer) (permissions : ClientPermissions)
    (message : ClientMessage) : Prop :=
  ∀ request, message.action = "subscribe" → message.request = .ok request →
    request.isFlow = false → hasProviderPermission permissions request.provider = true →
    deniedFeed permissions request.feeds = none →
    (lower request.provider = "alpaca" ∨ hasProviderPermission permissions "alpaca" = true) ∧
      ∀ feed ∈ request.feeds, ∀ target name, multiplexer.target feed = some target →
        Text.contains feed name.name = true →
        feedCategory target name = normalizeFeedPermission feed ∨
          hasFeedPermission permissions (feedCategory target name) = true

/-- What a handler keeps to. -/
def Permits (permissions : ClientPermissions) : StreamCommand → Prop
  | .subscribe target requested =>
      ∀ name, requested name ≠ [] → permissions.CoversAlpaca (feedCategory target name)
  | .flowSubscribe _ => permissions.CoversFlow
  | _ => True

/-- The terms under which a handler registers only what is permitted. -/
def permitted (multiplexer : StreamMultiplexer) (permissions : ClientPermissions) :
    Terms StreamCommand.Reply Registration where
  guarantee command _ := Permits permissions command
  rely
    | .receive, _, some message => Agrees multiplexer permissions message
    | _, _, _ => True

section Handler

variable [Unicode] {multiplexer : StreamMultiplexer} {permissions : ClientPermissions}
  {subscriptions : Finset String} {message : ClientMessage} {record : Registration}

omit [Unicode] in
theorem releases_permits {feeds symbols : List String} :
    Releases (Permits permissions) multiplexer feeds symbols :=
  ⟨trivial, fun _ _ _ => trivial, fun _ _ _ _ => trivial⟩

theorem serves_of_agrees (agrees : Agrees multiplexer permissions message)
    {request : SubscriptionRequest} (action : message.action = "subscribe")
    (passes : PassesSubscribe permissions subscriptions message request)
    (broker : request.isFlow = false) :
    Serves (Permits permissions) multiplexer request.feeds request.symbols where
  toReleases := releases_permits
  ensureConnected _ := trivial
  subscribe := by
    intro feed mem target found name some
    obtain ⟨provider, kinds⟩ :=
      agrees request action passes.asked broker passes.provider passes.feeds
    have named : Text.contains feed name.name = true := by
      by_contra absent
      exact some (if_neg absent)
    have alpaca : hasProviderPermission permissions "alpaca" = true := by
      rcases provider with same | granted
      · refine ClientPermissions.hasProviderPermission_of_lower (same.trans ?_) passes.provider
        exact ClientPermissions.lower_alpaca.symm
      · exact granted
    refine ⟨ClientPermissions.hasProviderPermission_alpaca.mp alpaca,
      ClientPermissions.hasFeedPermission_iff.mp ?_⟩
    rcases kinds feed mem target name found named with same | granted
    · rw [same]
      exact ClientPermissions.permitted_of_deniedFeed passes.feeds mem
    · exact granted

theorem handleMessage_permits (agrees : Agrees multiplexer permissions message) :
    (multiplexer.handleMessage (some permissions) subscriptions message).Uses
      (Permits permissions) := by
  refine handleMessage_uses (fun request action checked => ?_) fun request _ _ => ?_
  · obtain ⟨granted, same, passes⟩ := checkSubscribe_eq_ok.mp checked
    obtain rfl := Option.some.inj same
    split
    next flow =>
      have covers := ClientPermissions.coversFlow_of_checked flow passes.provider passes.feeds
      exact ⟨trivial, trivial, trivial, covers⟩
    next broker => exact serves_of_agrees agrees action passes (Bool.eq_false_iff.mpr broker)
  · split
    · exact ⟨trivial, trivial⟩
    · exact releases_permits

omit [Unicode] in
theorem meets_of_permits {α : Type} {task : Handler α} (uses : task.Uses (Permits permissions)) :
    Meets (recording (permitted multiplexer permissions)) (fun _ _ => True) record task :=
  uses.meets_inv (Q := fun _ => True) trivial fun _ _ allowed _ => ⟨allowed, fun _ _ _ => trivial⟩

theorem messageLoop_meets {count : Nat} :
    Meets (recording (permitted multiplexer permissions)) (fun _ _ => True) record
      (multiplexer.messageLoop (some permissions) count subscriptions) := by
  induction count generalizing subscriptions record with
  | zero => trivial
  | succ count ih =>
      refine ⟨trivial, fun received next recorded => ?_⟩
      cases received with
      | none => trivial
      | some message =>
          have agrees : Agrees multiplexer permissions message := recorded.2
          refine (meets_of_permits (handleMessage_permits agrees)).bind_kept fun answer last _ => ?_
          refine ⟨trivial, fun sent next _ => ?_⟩
          cases sent with
          | ok _ => exact ih
          | error _ => trivial

theorem websocketEndpoint_meets {count : Nat} :
    Meets (recording (permitted multiplexer permissions)) (fun _ _ => True) record
      (multiplexer.websocketEndpoint (some permissions) count) := by
  have cleanup : Uses (Permits permissions) multiplexer.clientDisconnect :=
    Uses.foldEach fun _ streamType _ => ⟨trivial, fun sent =>
      Uses.bind (uses_finish _) fun _ => finishRequest_uses fun _ => trivial⟩
  refine messageLoop_meets.resolve fun outcome last _ =>
    meets_of_permits ⟨trivial, fun initialized => ?_⟩
  refine Uses.resolve ?_ fun _ => ⟨trivial, fun initialized => ?_⟩
  · cases initialized with
    | true => exact cleanup
    | false => trivial
  · cases initialized with
    | true => exact ⟨trivial, fun _ => trivial⟩
    | false => trivial

end Handler

section Runs

variable [Unicode] {Client : Type} [DecidableEq Client] {multiplexer : StreamMultiplexer}
  {permissions : ClientPermissions} {client : Client}

/-- Everything that a client is registered for is permitted. -/
def OnlyPermitted (permissions : ClientPermissions) (client : Client) (world : StreamWorld Client) :
    Prop :=
  (∀ streamType name, ∀ symbol ∈ world.held client streamType name,
    permissions.CoversAlpaca (feedCategory streamType name)) ∧
    (world.flow.Registered client → permissions.CoversFlow)

omit [Lowercase] in
/-- Only the handler of a client registers it for option flow. -/
theorem registered_perform {world after : StreamWorld Client} {other : Client}
    {command : StreamCommand} {outcome : command.Outcome} {reply : command.Reply}
    (performed : world.perform other command outcome = some (reply, after))
    (registered : after.flow.Registered client) :
    world.flow.Registered client ∨
    other = client ∧ ∃ symbols, command = .flowSubscribe symbols := by
  cases command with
  | receive =>
      cases outcome with
      | none =>
          obtain ⟨_, rfl⟩ := Prod.mk.inj (Option.some.inj performed)
          exact .inl registered
      | some message =>
          obtain ⟨_, rfl⟩ := Prod.mk.inj (Option.some.inj performed)
          exact .inl registered
  | sendJson response =>
      cases outcome with
      | none =>
          obtain ⟨_, rfl⟩ := Prod.mk.inj (Option.some.inj performed)
          exact .inl registered
      | some error =>
          obtain ⟨_, rfl⟩ := Prod.mk.inj (Option.some.inj performed)
          exact .inl registered
  | ensureConnected streamType =>
      obtain ⟨_, made⟩ := Option.ite_none_left_eq_some.mp performed
      obtain ⟨_, rfl⟩ := Prod.mk.inj (Option.some.inj made)
      exact .inl registered
  | flowSubscribe symbols =>
      obtain ⟨_, rfl⟩ := Prod.mk.inj (Option.some.inj performed)
      rcases FlowFanout.registered_subscribe registered with same | before
      · exact .inr ⟨same.symm, symbols, rfl⟩
      · exact .inl before
  | flowUnsubscribe symbols =>
      obtain ⟨_, rfl⟩ := Prod.mk.inj (Option.some.inj performed)
      exact .inl (FlowFanout.registered_unsubscribe registered)
  | flowDisconnect =>
      obtain ⟨_, rfl⟩ := Prod.mk.inj (Option.some.inj performed)
      exact .inl (FlowFanout.registered_clientDisconnect registered)
  | subscribe _ _ | unsubscribe _ _ | removeClient _ | sendAncillary _ _ _ | getMultiplexer
  | getFlowFanout | producerWired | highWatermark =>
      obtain ⟨_, rfl⟩ := Prod.mk.inj (Option.some.inj performed)
      exact .inl registered

theorem OnlyPermitted.perform {world after : StreamWorld Client} {other : Client}
    {command : StreamCommand} {outcome : command.Outcome} {reply : command.Reply}
    (only : OnlyPermitted permissions client world)
    (promised : other = client → Permits permissions command)
    (performed : world.perform other command outcome = some (reply, after)) :
    OnlyPermitted permissions client after := by
  refine ⟨fun streamType name symbol mem => ?_, fun registered => ?_⟩
  · have recorded := StreamWorld.registration_perform performed client
    change symbol ∈ (after.registration client).held streamType name at mem
    rw [recorded] at mem
    split at mem
    next same =>
      rcases Registration.mem_held_next.mp mem with ⟨before, _⟩ | new
      · exact only.1 streamType name symbol (same ▸ before)
      · have kept := promised same.symm
        cases command with
        | subscribe target requested =>
            obtain ⟨rfl, here⟩ := new
            exact kept name (List.ne_nil_of_mem here)
        | _ => exact new.elim
    · exact only.1 streamType name symbol mem
  · rcases registered_perform performed registered with before | ⟨same, symbols, rfl⟩
    · exact only.2 before
    · exact promised same

theorem OnlyPermitted.disturb {world : StreamWorld Client}
    (only : OnlyPermitted permissions client world) (move : StreamMove Client) :
    OnlyPermitted permissions client (world.disturb move) := by
  have flow : (world.disturb move).flow = world.flow ∨
      ∃ other, move = .replayFailed other := by
    cases move with
    | drop _ => exact .inl rfl
    | replayFailed other => exact .inr ⟨other, rfl⟩
    | close _ | connect _ | authenticate _ _ | resubscribe _ _ =>
        simp only [StreamWorld.disturb]
        split <;> exact .inl rfl
  refine ⟨fun streamType name symbol mem => ?_, fun registered => only.2 ?_⟩
  · change symbol ∈ ((world.disturb move).registration client).held streamType name at mem
    rw [StreamWorld.registration_disturb] at mem
    exact only.1 streamType name symbol mem
  · rcases flow with same | ⟨other, rfl⟩
    · rwa [same] at registered
    · exact FlowFanout.registered_clientDisconnect registered

variable {P : Policy (streaming Client)}
  {initial final : Config Client StreamCommand.Reply StreamError Unit (StreamWorld Client)}

/-- Whatever an authenticated connection sends and whatever the others do, the connection is
registered for nothing that its permissions do not cover, as long as the names in its messages agree
with what they stand for. -/
theorem registrations_are_permitted {count : Nat} (run : Reaches P initial final)
    (task : initial.tasks client = multiplexer.websocketEndpoint (some permissions) count)
    (unheld : ∀ streamType name, initial.world.held client streamType name = ∅)
    (unregistered : ¬ initial.world.flow.Registered client)
    (agreed : ∀ message world, P.allows client .receive (some message) world →
      Agrees multiplexer permissions message) :
    OnlyPermitted permissions client final.world := by
  have start : OnlyPermitted permissions client initial.world := by
    refine ⟨fun streamType name symbol mem => ?_, fun registered => absurd registered unregistered⟩
    rw [unheld] at mem
    cases mem
  refine (reaches_kept run client ?_ ?_ (fun move world only => only.disturb move) start
    (task ▸ websocketEndpoint_meets)).1
  · intro command outcome reply world after allowed performed
    cases command with
    | receive =>
        cases outcome with
        | none =>
            obtain ⟨rfl, _⟩ := Prod.mk.inj (Option.some.inj performed)
            trivial
        | some message =>
            obtain ⟨rfl, _⟩ := Prod.mk.inj (Option.some.inj performed)
            exact agreed message world allowed
    | _ => trivial
  · exact fun _ _ _ _ _ _ only promised performed => only.perform promised performed

end Runs

end Permissions

/-- Only this provider is permitted. -/
def onlyProvider (provider : String) : ClientPermissions := ⟨[provider], [], 100, 100⟩

/-- Bars of a stock, by the name of a provider. -/
def barsFrom (provider : String) : ClientMessage :=
  ⟨"subscribe", some provider, none, some "stock_bars", some (.texts ["AAPL"]), none⟩

/-- A connection whose client may use one provider. -/
def limitedTo (provider : String) :
    Config Unit StreamCommand.Reply StreamError Unit (StreamWorld Unit) where
  world := stocksConnected
  tasks _ := @StreamMultiplexer.websocketEndpoint asciiUnicode asciiLowercase .sip
    (some (onlyProvider provider)) 1

/-- The client sends a message, and nothing fails. -/
def receives (message : ClientMessage) : (command : StreamCommand) → command.Outcome
  | .receive => some message
  | command => sends none command

/-- A client of another provider asks for bars under the name of that provider,
and gets the broker's. -/
theorem other_provider_gets_the_broker : ∃ final,
    Reaches (Policy.free (asciiStreaming Unit)) (limitedTo "finnhub") final ∧
      ¬ @OnlyPermitted asciiLowercase Unit _ (onlyProvider "finnhub") () final.world := by
  have played : ∃ final, (limitedTo "finnhub").play (Policy.free (asciiStreaming Unit))
      [.run () (receives (barsFrom "finnhub")), .run () (sends none), .run () (sends none),
        .run () (sends none)] = some final ∧
      final.world.held () .stocksSip .bars = {"AAPL"} := ⟨_, rfl, by decide⟩
  obtain ⟨final, ran, held⟩ := played
  refine ⟨final, Config.play_reaches ran, fun only => ?_⟩
  have covers := (only.1 .stocksSip .bars "AAPL" (by rw [held]; decide)).1 (by decide)
  exact absurd covers (by decide)

/-- A client of the broker gets what it is permitted. -/
theorem broker_is_permitted : ∃ final,
    Reaches (Policy.free (asciiStreaming Unit)) (limitedTo "alpaca") final ∧
      final.world.held () .stocksSip .bars = {"AAPL"} ∧
      @OnlyPermitted asciiLowercase Unit _ (onlyProvider "alpaca") () final.world := by
  have played : ∃ final, (limitedTo "alpaca").play (Policy.free (asciiStreaming Unit))
      [.run () (receives (barsFrom "alpaca")), .run () (sends none), .run () (sends none),
        .run () (sends none)] = some final ∧
      final.world.held () .stocksSip .bars = {"AAPL"} := ⟨_, rfl, by decide⟩
  obtain ⟨final, ran, held⟩ := played
  have reached := Config.play_reaches ran
  have task : (limitedTo "alpaca").tasks () = @StreamMultiplexer.websocketEndpoint asciiUnicode
      asciiLowercase .sip (some (onlyProvider "alpaca")) 1 := rfl
  refine ⟨final, reached, held,
    @registrations_are_permitted asciiLowercase asciiUnicode Unit _ _ _ _
    _ _ _ _ reached task (fun streamType name => ?_) ?_ fun message _ _ request _ _ _ _ _ => ?_⟩
  · cases streamType <;> rfl
  · rintro (all | ⟨_, mem⟩)
    · cases all
    · cases mem
  · exact ⟨.inr (by decide), fun _ _ _ _ _ _ => .inr rfl⟩

end Streaming
end DataGateway
