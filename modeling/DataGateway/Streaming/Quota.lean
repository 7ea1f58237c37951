import DataGateway.Streaming.Effects
import Mathlib.Data.Finset.Card

/-!
# The quota of a connection

A subscription is refused when the accounts of its connection would get too many entries.  What is
counted are the entries under the feed names of the request; what is entered for option flow are
entries under one name.
-/

namespace DataGateway
namespace Streaming

open Coroutine

section Count

variable [Lowercase]

/-- The accounts of a connection after a subscription that was granted. -/
def grantedAccounts (subscriptions : Finset String) (request : SubscriptionRequest) :
    Finset String :=
  if request.isFlow then withFlow subscriptions request.symbols
  else subscriptions ∪ entries request.feeds request.symbols

/-- The name that the entries of a flow request are counted under. -/
def countedFlowName (feed : String) : String := if flowFeeds.contains feed then flowFeed else feed

/-- A flow request with symbols brings as many new entries under the names that are counted as under
the name that is entered. -/
def Counted (subscriptions : Finset String) (request : SubscriptionRequest) : Prop :=
  request.isFlow = true → request.symbols ≠ [] →
    (entries (request.feeds.map countedFlowName) request.symbols \ subscriptions).card =
      (entries [flowFeed] request.symbols \ subscriptions).card

/-! ## The count -/

omit [Lowercase] in
theorem mem_entries {feeds symbols : List String} {text : String} :
    text ∈ entries feeds symbols ↔ ∃ feed ∈ feeds, ∃ symbol ∈ symbols,
      entry feed symbol = text := by
  simp [entries]

omit [Lowercase] in
theorem entries_nil (feeds : List String) : entries feeds [] = ∅ := by
  simp [entries]

/-- A flow request that names its feeds the way they are entered is counted right. -/
theorem counted_of_spelled {subscriptions : Finset String} {request : SubscriptionRequest}
    (some : request.feeds ≠ []) (spelled : ∀ feed ∈ request.feeds, feed ∈ flowFeeds) :
    Counted subscriptions request := by
  intro _ _
  have named : ∀ feed ∈ request.feeds, countedFlowName feed = flowFeed := fun feed mem =>
    if_pos (List.contains_iff_mem.mpr (spelled feed mem))
  congr 2
  ext text
  rw [mem_entries, mem_entries]
  constructor
  · rintro ⟨_, mem, symbol, here, rfl⟩
    obtain ⟨feed, known, rfl⟩ := List.mem_map.mp mem
    exact ⟨flowFeed, .head _, symbol, here, by rw [named feed known]⟩
  · rintro ⟨_, mem, symbol, here, rfl⟩
    obtain rfl := List.mem_singleton.mp mem
    obtain ⟨feed, known⟩ := List.exists_mem_of_ne_nil _ some
    exact ⟨flowFeed, List.mem_map.mpr ⟨feed, known, named feed known⟩, symbol, here, rfl⟩

omit [Lowercase] in
theorem card_union_entries (subscriptions new : Finset String) :
    (subscriptions ∪ new).card = subscriptions.card + (new \ subscriptions).card := by
  rw [Finset.union_comm, ← Finset.card_sdiff_add_card, Nat.add_comm]

omit [Lowercase] in
theorem card_firehose (subscriptions : Finset String) :
    (insert (entry flowFeed "*") (subscriptions \ flowSymbolEntries subscriptions)).card =
      subscriptions.card - (flowSymbolEntries subscriptions).card +
        ({entry flowFeed "*"} \ subscriptions).card := by
  have within : flowSymbolEntries subscriptions ⊆ subscriptions := Finset.filter_subset _ _
  have apart : entry flowFeed "*" ∉ flowSymbolEntries subscriptions := by
    simp [flowSymbolEntries]
  rw [← Finset.card_sdiff_of_subset within]
  by_cases old : entry flowFeed "*" ∈ subscriptions
  · rw [Finset.insert_eq_of_mem (Finset.mem_sdiff.mpr ⟨old, apart⟩),
      Finset.sdiff_eq_empty_iff_subset.mpr (Finset.singleton_subset_iff.mpr old)]
    rfl
  · rw [Finset.card_insert_of_notMem fun mem => old (Finset.mem_sdiff.mp mem).1,
      Finset.sdiff_eq_self_of_disjoint (Finset.disjoint_singleton_left.mpr old),
      Finset.card_singleton]

/-- What is counted is what is entered. -/
theorem entriesAfter_eq {subscriptions : Finset String} {request : SubscriptionRequest}
    (counted : Counted subscriptions request) :
    entriesAfter subscriptions request = (grantedAccounts subscriptions request).card := by
  unfold entriesAfter grantedAccounts
  cases flow : request.isFlow with
  | false =>
      simp only [Bool.false_and, Bool.false_eq_true, if_false, List.map_id', Finset.union_empty,
        Finset.card_empty, Nat.sub_zero]
      exact (card_union_entries _ _).symm
  | true =>
      cases symbols : request.symbols with
      | nil =>
          simp only [entries_nil, List.isEmpty_nil, Bool.and_true, if_true, Finset.empty_union,
            withFlow]
          exact (card_firehose _).symm
      | cons symbol rest =>
          have same := counted flow (by rw [symbols]; exact List.cons_ne_nil _ _)
          rw [symbols] at same
          have named :
              (fun feed => if (true && flowFeeds.contains feed) = true then flowFeed else feed) =
              countedFlowName := rfl
          simp only [named, List.isEmpty_cons, Bool.and_false, Bool.false_eq_true,
            if_false, if_true, Finset.union_empty, Finset.card_empty, Nat.sub_zero, withFlow,
            reduceCtorEq, same]
          exact (card_union_entries _ _).symm

/-- A message that asks for what the connection has already is accepted, if nothing but the quota is
against it. -/
theorem unchanged_accepted {permissions : ClientPermissions} {subscriptions : Finset String}
    {message : ClientMessage} {request : SubscriptionRequest} [Unicode]
    (within : subscriptions.card ≤ permissions.wsSubscriptionsMax)
    (admissible : Admissible permissions message request) (counted : Counted subscriptions request)
    (unchanged : grantedAccounts subscriptions request = subscriptions) :
    checkSubscribe (some permissions) subscriptions message = .ok request := by
  refine checkSubscribe_eq_ok.mpr ⟨permissions, rfl, admissible, ?_⟩
  rw [entriesAfter_eq counted, unchanged]
  exact within

end Count

/-! ## The accounts after a message -/

section Messages

variable [Unicode] [Lowercase] {multiplexer : StreamMultiplexer}
  {permissions : Option ClientPermissions} {subscriptions : Finset String} {message : ClientMessage}
  {record : Registration}

/-- A message adds to the accounts only what it is granted. -/
theorem handleMessage_accounts :
    Meets (recording .free) (fun outcome _ => ∀ response accounts,
      outcome = .ok (response, accounts) → accounts ⊆ subscriptions ∨
        ∃ request, message.action = "subscribe" ∧
          checkSubscribe permissions subscriptions message = .ok request ∧
          accounts = grantedAccounts subscriptions request) record
      (multiplexer.handleMessage permissions subscriptions message) := by
  have same (response : Response) : ∀ other accounts,
      (.ok (response, subscriptions) : Except StreamError _) = .ok (other, accounts) →
        accounts ⊆ subscriptions ∨ ∃ request, message.action = "subscribe" ∧
          checkSubscribe permissions subscriptions message = .ok request ∧
            accounts = grantedAccounts subscriptions request := by
    rintro _ _ ⟨⟩
    exact .inl subset_rfl
  unfold StreamMultiplexer.handleMessage
  split_ifs with _ _ subscribes
  · exact same _
  · exact same _
  · cases checked : checkSubscribe permissions subscriptions message with
    | error refusal =>
        rintro _ _ ⟨⟩
        exact .inl subset_rfl
    | ok request =>
        dsimp only
        split
        next flow =>
          refine subscribeFlow_meets.mono fun outcome last ended => ?_
          obtain ⟨_, answer, rfl, answered⟩ := ended
          rintro _ _ ⟨⟩
          cases answered with
          | failed _ _ _ => exact .inl subset_rfl
          | subscribed _ _ => exact .inr ⟨request, subscribes, rfl, (if_pos flow).symm⟩
        next broker =>
          refine subscribeStreams_meets.mono fun outcome last ended => ?_
          rintro response accounts rfl
          rcases ended with ⟨routed, ended, _⟩ | ⟨ended, _⟩
          · cases routed with
            | subscribed acks =>
                refine .inr ⟨request, subscribes, rfl, ?_⟩
                rw [grantedAccounts, if_neg broker]
                exact congrArg Prod.snd ended
            | failed _ _ => exact .inl (congrArg Prod.snd ended).subset
          · exact .inl (congrArg Prod.snd ended).subset
  · cases checkUnsubscribe permissions message with
    | error refusal => exact same _
    | ok request =>
        dsimp only
        split
        · refine unsubscribeFlow_meets.mono fun outcome last ended => ?_
          rintro response accounts rfl
          obtain rfl := congrArg Prod.snd (Except.ok.inj ended.2)
          unfold withoutFlow
          split
          · exact .inl (Finset.filter_subset _ _)
          · exact .inl Finset.sdiff_subset
        · refine unsubscribeStreams_meets.mono fun outcome last ended => ?_
          rintro response accounts rfl
          obtain rfl : accounts = _ := congrArg Prod.snd ended.1
          exact .inl Finset.sdiff_subset
  · exact same _
  · exact same _

end Messages

/-! ## Sequences of messages -/

section Sessions

variable [Unicode] [Lowercase] (multiplexer : StreamMultiplexer) (permissions : ClientPermissions)

/-- A message can be answered this way and leave these accounts, whatever the replies are. -/
def Answers (subscriptions : Finset String) (message : ClientMessage)
    (answer : Response × Finset String) : Prop :=
  ∃ record last, Coroutine.Ends (recording .free) record
    (multiplexer.handleMessage (some permissions) subscriptions message) (.ok answer) last

/-- The accounts that a sequence of messages can lead to, where each message meets a condition. -/
inductive Session (condition : Finset String → ClientMessage → Prop) : Finset String → Prop
  | start : Session condition ∅
  | message {subscriptions message response accounts} (before : Session condition subscriptions)
      (met : condition subscriptions message)
      (answered : Answers multiplexer permissions subscriptions message (response, accounts)) :
      Session condition accounts

/-- A subscription of the message is counted as it is entered. -/
def CountedMessage (subscriptions : Finset String) (message : ClientMessage) : Prop :=
  ∀ request, message.action = "subscribe" → message.request = .ok request →
    Counted subscriptions request

variable {multiplexer permissions}

/-- When every subscription is counted as it is entered, the accounts keep to the quota, and a
subscription that would leave them as they are is not refused for it. -/
theorem quota_is_exact {subscriptions : Finset String}
    (session : Session multiplexer permissions CountedMessage subscriptions) :
    subscriptions.card ≤ permissions.wsSubscriptionsMax ∧
      ∀ message request, message.action = "subscribe" → Admissible permissions message request →
        CountedMessage subscriptions message →
        grantedAccounts subscriptions request = subscriptions →
        checkSubscribe (some permissions) subscriptions message = .ok request := by
  have within : subscriptions.card ≤ permissions.wsSubscriptionsMax := by
    induction session with
    | start => exact Nat.zero_le _
    | @message subscriptions message response accounts _ counted answered within =>
        obtain ⟨record, last, ends⟩ := answered
        rcases ends.meets handleMessage_accounts response accounts rfl with
          fewer | ⟨request, action, checked, rfl⟩
        · exact (Finset.card_le_card fewer).trans within
        · obtain ⟨granted, same, passes⟩ := checkSubscribe_eq_ok.mp checked
          obtain rfl := Option.some.inj same
          rw [← entriesAfter_eq (counted request action passes.asked)]
          exact passes.quota
  exact ⟨within, fun message request action admissible counted unchanged =>
    unchanged_accepted within admissible (counted request action admissible.asked) unchanged⟩

end Sessions

/-- Room for one entry. -/
def oneEntry : ClientPermissions := ⟨[], [], 100, 1⟩

/-- Option flow of a symbol, under a name of the feed. -/
def flowOf (feed : String) : ClientMessage :=
  ⟨"subscribe", some "uw", none, some feed, some (.texts ["AAPL"]), none⟩

/-- What is recorded of a client before its first message. -/
def unrecorded : Registration := StreamWorld.initial.registration ()

theorem flow_answered : @Answers asciiUnicode asciiLowercase .sip oneEntry ∅ (flowOf "flow")
    (.subscriptionAck (flowAck ⟨"uw", ["flow"], ["AAPL"]⟩ none true), {entry flowFeed "AAPL"}) :=
  ⟨unrecorded, unrecorded, .suspend true unrecorded ⟨rfl, trivial⟩
    (.suspend () unrecorded ⟨rfl, trivial⟩ (.suspend true unrecorded ⟨rfl, trivial⟩ .finish))⟩

/-- Option flow of a symbol that the connection has already is refused under another spelling. -/
theorem respelled_flow_is_refused :
    @Session asciiUnicode asciiLowercase .sip oneEntry (fun _ _ => True) {entry flowFeed "AAPL"} ∧
      @grantedAccounts asciiLowercase {entry flowFeed "AAPL"} ⟨"uw", ["FLOW"], ["AAPL"]⟩ =
        {entry flowFeed "AAPL"} ∧
      (flowOf "FLOW").request = .ok ⟨"uw", ["FLOW"], ["AAPL"]⟩ ∧
      @checkSubscribe asciiUnicode asciiLowercase (some oneEntry) {entry flowFeed "AAPL"}
        (flowOf "FLOW") = .error ("GW-E8002", "Maximum 1 subscriptions allowed") := by
  let _ := asciiUnicode
  let _ := asciiLowercase
  exact ⟨.message .start trivial flow_answered, by decide, rfl, rfl⟩

/-- Under the name that is entered the same subscription is accepted again. -/
theorem repeated_flow_is_accepted :
    @checkSubscribe asciiUnicode asciiLowercase (some oneEntry) {entry flowFeed "AAPL"}
      (flowOf "flow") = .ok ⟨"uw", ["flow"], ["AAPL"]⟩ := by
  let _ := asciiUnicode
  let _ := asciiLowercase
  have counted (subscriptions : Finset String) : CountedMessage subscriptions (flowOf "flow") := by
    intro request _ asked
    obtain rfl := Except.ok.inj asked
    exact counted_of_spelled (List.cons_ne_nil _ _) (by decide)
  have session : Session .sip oneEntry CountedMessage {entry flowFeed "AAPL"} :=
    .message .start (counted ∅) flow_answered
  refine (quota_is_exact session).2 (flowOf "flow") _ rfl
    ⟨rfl, fun _ => by decide, by decide, by decide⟩
    (counted _) ?_
  decide

end Streaming
end DataGateway
