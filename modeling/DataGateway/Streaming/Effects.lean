import DataGateway.Streaming.Handler

/-!
# Effects of the messages on the registrations

A feed name stands for some data of one stream.  What a message adds to the registrations of
its client, or takes away, is what its feeds stand for; whether a frame went out or not makes
no difference to that.
-/

namespace DataGateway
namespace Streaming

open Coroutine

namespace StreamMultiplexer

variable (multiplexer : StreamMultiplexer)

/-- The stream that serves a feed, if there is one. -/
def target (feed : String) : Option AlpacaStreamType :=
  multiplexer.getConnection (AlpacaStreamType.fromFeed feed)

/-- The feed with some symbols stands for a symbol of a stream. -/
def Covers (symbols : List String) (feed : String) (streamType : AlpacaStreamType) (name : FeedName)
    (symbol : String) : Prop :=
  multiplexer.target feed = some streamType ∧ symbol ∈ requestedFeeds feed symbols name

/-- The holdings with some feeds added. -/
def addFeeds (symbols : List String) (feeds : List String) (holdings : Holdings) : Holdings :=
  feeds.foldl (fun holdings feed => holdings.add (requestedFeeds feed symbols)
    (multiplexer.target feed)) holdings

/-- The holdings with some feeds taken away. -/
def removeFeeds (symbols : List String) (feeds : List String) (holdings : Holdings) : Holdings :=
  feeds.foldl (fun holdings feed => holdings.remove (requestedFeeds feed symbols)
    (multiplexer.target feed)) holdings

/-- What the managers are asked for on behalf of some feeds, the last feed first. -/
def asks (symbols : List String) (feeds : List String) : List AskedFor :=
  (feeds.filterMap fun feed =>
    (multiplexer.target feed).map fun target => (target, requestedFeeds feed symbols)).reverse

variable {multiplexer} {symbols feeds : List String} {holdings : Holdings}
  {streamType : AlpacaStreamType} {name : FeedName} {symbol : String}

theorem mem_addFeeds : symbol ∈ multiplexer.addFeeds symbols feeds holdings streamType name ↔
    symbol ∈ holdings streamType name ∨
      ∃ feed ∈ feeds, multiplexer.Covers symbols feed streamType name symbol := by
  unfold addFeeds
  induction feeds generalizing holdings with
  | nil => simp
  | cons feed rest ih =>
      rw [List.foldl_cons, ih, Holdings.mem_add, List.exists_mem_cons_iff, or_assoc]
      rfl

theorem mem_removeFeeds : symbol ∈ multiplexer.removeFeeds symbols feeds holdings streamType name ↔
    symbol ∈ holdings streamType name ∧
      ¬ ∃ feed ∈ feeds, multiplexer.Covers symbols feed streamType name symbol := by
  unfold removeFeeds
  induction feeds generalizing holdings with
  | nil => simp
  | cons feed rest ih =>
      rw [List.foldl_cons, ih, Holdings.mem_remove, List.exists_mem_cons_iff, not_or, and_assoc]
      rfl

end StreamMultiplexer

/-! ## Feeds -/

/-- What a part of a handler has made of the record, apart from the table of clients and
the sends that raised. -/
structure Effect (record last : Registration) (holdings : Holdings) (requests : List AskedFor) :
    Prop where
  held : last.held = holdings
  asked : last.asked = requests
  received : last.received = record.received
  responses : last.responses = record.responses

theorem Effect.refl (record : Registration) : Effect record record record.held record.asked :=
  ⟨rfl, rfl, rfl, rfl⟩

section Feeds

variable (rely : (command : StreamCommand) → Registration → command.Reply → Prop)
  (multiplexer : StreamMultiplexer) (symbols : List String)

/-- A command was answered while the client had these messages and responses. -/
def Answered (record : Registration) (command : StreamCommand) : Prop :=
  ∃ current reply, current.received = record.received ∧ current.responses = record.responses ∧
    rely command current reply

/-- Some feeds were unsubscribed from. -/
structure Dropped (feeds : List String) (record last : Registration) : Prop where
  effect : Effect record last (multiplexer.removeFeeds symbols feeds record.held) record.asked
  answered : ∀ feed ∈ feeds, ∀ target, multiplexer.target feed = some target →
    Answered rely record (.unsubscribe target (requestedFeeds feed symbols))

/-- What subscribing to a feed comes to: the feed is added, or the answer is an error and nothing is
changed. -/
def FeedSubscribed (feed : String) (record : Registration) :
    Except StreamError ClientAck → Registration → Prop
  | .ok (.ok subscribed _), last =>
      subscribed = requestedSymbols (requestedFeeds feed symbols) ∧
        Effect record last (multiplexer.addFeeds symbols [feed] record.held)
          (multiplexer.asks symbols [feed] ++ record.asked)
  | .ok (.error code _), last => last = record ∧ (code = "GW-E3002" ∨ code = "GW-E3003")
  | .error error, _ => Raises rely error

variable {rely multiplexer symbols} {feed : String} {feeds : List String}
  {record middle last : Registration}

theorem Dropped.snoc (first : Dropped rely multiplexer symbols feeds record middle)
    (next : Dropped rely multiplexer symbols [feed] middle last) :
    Dropped rely multiplexer symbols (feeds ++ [feed]) record last where
  effect :=
    { held := by
        rw [next.effect.held, first.effect.held, StreamMultiplexer.removeFeeds,
          StreamMultiplexer.removeFeeds, StreamMultiplexer.removeFeeds, List.foldl_append]
      asked := next.effect.asked.trans first.effect.asked
      received := next.effect.received.trans first.effect.received
      responses := next.effect.responses.trans first.effect.responses }
  answered := by
    intro other mem target found
    rcases List.mem_append.mp mem with early | late
    · exact first.answered other early target found
    · obtain ⟨current, reply, received, responses, relied⟩ := next.answered other late target found
      exact ⟨current, reply, received.trans first.effect.received,
        responses.trans first.effect.responses, relied⟩

theorem Dropped.nil (record : Registration) : Dropped rely multiplexer symbols [] record record :=
  ⟨.refl record, nofun⟩

theorem subscribeFeed_meets :
    Meets (recording (.relying rely)) (FeedSubscribed rely multiplexer symbols feed record) record
      (multiplexer.subscribeFeed feed symbols) := by
  unfold StreamMultiplexer.subscribeFeed StreamMultiplexer.clientSubscribe
  split
  · exact ⟨rfl, .inl rfl⟩
  next target found =>
    have here : multiplexer.target feed = some target := found
    have connected : Meets (recording (.relying rely))
        (FeedSubscribed rely multiplexer symbols feed record) record
        (StreamMultiplexer.subscribeConnected target (requestedFeeds feed symbols)) := by
      refine ⟨trivial, fun sent next recorded => ?_⟩
      obtain ⟨rfl, relied⟩ := recorded
      cases sent with
      | error error => exact ⟨_, _, _, relied, rfl⟩
      | ok first =>
          refine finishRequest_meets.bind (fun _ last ended => ⟨rfl, ?_⟩)
            fun error _ ended => ended.2 error rfl
          obtain rfl : last = _ := ended.1
          refine ⟨?_, ?_, rfl, rfl⟩
          · rw [StreamMultiplexer.addFeeds, List.foldl_cons, here]
            rfl
          · rw [StreamMultiplexer.asks, List.filterMap_cons, here]
            rfl
    split
    · refine ⟨trivial, fun ready next recorded => ?_⟩
      obtain rfl : next = _ := recorded.1
      cases ready with
      | true => exact connected
      | false => exact ⟨rfl, .inr rfl⟩
    · exact connected

theorem unsubscribeFeed_meets :
    Meets (recording (.relying rely)) (fun outcome last =>
      Dropped rely multiplexer symbols [feed] record last ∧
        ∀ error, outcome = .error error → Raises rely error)
      record (multiplexer.unsubscribeFeed feed symbols) := by
  unfold StreamMultiplexer.unsubscribeFeed StreamMultiplexer.clientUnsubscribe
  split
  next missing =>
    have here : multiplexer.target feed = none := missing
    refine ⟨⟨⟨?_, rfl, rfl, rfl⟩, ?_⟩, nofun⟩
    · rw [StreamMultiplexer.removeFeeds, List.foldl_cons, here]
      rfl
    · intro other mem target found
      rw [List.mem_singleton.mp mem, here] at found
      cases found
  next target found =>
    have here : multiplexer.target feed = some target := found
    refine ⟨trivial, fun sent next recorded => ?_⟩
    obtain ⟨rfl, relied⟩ := recorded
    have failed (error : StreamError) (same : sent = .error error) : Raises rely error :=
      ⟨_, _, sent, relied, same ▸ rfl⟩
    have removed : ∀ sent : Except StreamError FirstFrame,
        ((record.next (.unsubscribe target (requestedFeeds feed symbols)) sent)).held =
          multiplexer.removeFeeds symbols [feed] record.held := by
      intro sent
      rw [StreamMultiplexer.removeFeeds, List.foldl_cons, here]
      cases sent with
      | ok _ => rfl
      | error _ => rfl
    refine (finishSent_meets sent failed).mono fun outcome last ended => ⟨⟨?_, ?_⟩, ended.2⟩
    · obtain rfl : last = _ := ended.1
      cases outcome with
      | ok _ => exact ⟨removed (.ok ⟨[], none⟩), rfl, rfl, rfl⟩
      | error _ => exact ⟨removed (.ok ⟨[], none⟩), rfl, rfl, rfl⟩
    · intro other mem target' found'
      obtain rfl := List.mem_singleton.mp mem
      obtain rfl := Option.some.inj (here.symm.trans found')
      exact ⟨record, sent, rfl, rfl, relied⟩

theorem rollback_meets :
    Meets (recording (.relying rely)) (fun outcome last => ∃ errors, outcome = .ok errors ∧
      Dropped rely multiplexer symbols feeds record last)
      record (multiplexer.rollback symbols feeds) := by
  let Inv : List String → List (String × StreamError) → Registration → Prop := fun rest _ last =>
    ∃ done, feeds = done ++ rest ∧ Dropped rely multiplexer symbols done record last
  refine (Meets.foldEach Inv (fun _ _ => False) ⟨[], rfl, .nil record⟩ ?_).mono ?_
  · rintro feed rest errors middle ⟨done, split, dropped⟩
    refine unsubscribeFeed_meets.resolve fun outcome last ended => ?_
    have next : Inv rest errors last := ⟨done ++ [feed], by simp [split], dropped.snoc ended.1⟩
    cases outcome with
    | ok _ => exact next
    | error _ => exact next
  · rintro outcome last ended
    cases outcome with
    | ok errors =>
        obtain ⟨done, split, dropped⟩ := ended
        rw [List.append_nil] at split
        exact ⟨errors, rfl, split ▸ dropped⟩
    | error _ => exact ended.elim

theorem unsubscribeFeeds_meets :
    Meets (recording (.relying rely)) (fun outcome last => match outcome with
      | .ok _ => Dropped rely multiplexer symbols feeds record last
      | .error error => Raises rely error)
      record (forEach feeds fun feed => multiplexer.unsubscribeFeed feed symbols) := by
  let Inv : List String → Unit → Registration → Prop := fun rest _ last =>
    ∃ done, feeds = done ++ rest ∧ Dropped rely multiplexer symbols done record last
  refine (Meets.foldEach Inv (fun error _ => Raises rely error) ⟨[], rfl, .nil record⟩ ?_).mono ?_
  · rintro feed rest _ middle ⟨done, split, dropped⟩
    refine unsubscribeFeed_meets.mono fun outcome last ended => ?_
    cases outcome with
    | ok _ => exact ⟨done ++ [feed], by simp [split], dropped.snoc ended.1⟩
    | error error => exact ended.2 error rfl
  · rintro outcome last ended
    cases outcome with
    | ok _ =>
        obtain ⟨done, split, dropped⟩ := ended
        rw [List.append_nil] at split
        exact split ▸ dropped
    | error _ => exact ended

/-- The feeds were subscribed to, with these symbols acknowledged. -/
structure Added (multiplexer : StreamMultiplexer) (symbols feeds : List String)
    (acks : List (Finset String × List StreamWarning)) (record last : Registration) : Prop where
  effect : Effect record last (multiplexer.addFeeds symbols feeds record.held)
    (multiplexer.asks symbols feeds ++ record.asked)
  acked : acks.map Prod.fst = feeds.map fun feed => requestedSymbols (requestedFeeds feed symbols)

theorem Added.snoc {acks : List (Finset String × List StreamWarning)} {subscribed : Finset String}
    {warnings : List StreamWarning} (first : Added multiplexer symbols feeds acks record middle)
    (next : FeedSubscribed rely multiplexer symbols feed middle
      (.ok (.ok subscribed warnings)) last) :
    Added multiplexer symbols (feeds ++ [feed]) (acks ++ [(subscribed, warnings)]) record last where
  effect :=
    { held := by
        rw [next.2.held, first.effect.held, StreamMultiplexer.addFeeds, StreamMultiplexer.addFeeds,
          StreamMultiplexer.addFeeds, List.foldl_append]
      asked := by
        rw [next.2.asked, first.effect.asked, StreamMultiplexer.asks, StreamMultiplexer.asks,
          StreamMultiplexer.asks, List.filterMap_append, List.reverse_append, List.append_assoc]
      received := next.2.received.trans first.effect.received
      responses := next.2.responses.trans first.effect.responses }
  acked := by simp [first.acked, next.1]

theorem mem_requestedSymbols {requested : PerFeed (List String)} {symbol : String} :
    symbol ∈ requestedSymbols requested ↔ ∃ name, symbol ∈ requested name := by
  unfold requestedSymbols
  simp only [List.mem_toFinset, List.mem_append]
  constructor
  · rintro (((mem | mem) | mem) | mem)
    exacts [⟨_, mem⟩, ⟨_, mem⟩, ⟨_, mem⟩, ⟨_, mem⟩]
  · rintro ⟨name, mem⟩
    cases name <;> simp [mem]

/-- The symbols that are acknowledged for some feeds. -/
theorem Added.mem_acks {acks : List (Finset String × List StreamWarning)}
    (added : Added multiplexer symbols feeds acks record last) {symbol : String} :
    symbol ∈ acks.foldl (fun all ack => all ∪ ack.1) ∅ ↔
      ∃ feed ∈ feeds, ∃ name, symbol ∈ requestedFeeds feed symbols name := by
  have general (acks : List (Finset String × List StreamWarning)) : ∀ start : Finset String,
      symbol ∈ acks.foldl (fun all ack => all ∪ ack.1) start ↔
        symbol ∈ start ∨ ∃ set ∈ acks.map Prod.fst, symbol ∈ set := by
    induction acks with
    | nil => simp
    | cons ack rest ih =>
        intro start
        rw [List.foldl_cons, ih, Finset.mem_union, List.map_cons,
          List.exists_mem_cons_iff, or_assoc]
  rw [general, added.acked]
  simp [mem_requestedSymbols]

/-- What subscribing to some feeds comes to: all are added, or the first that fails takes the
ones before it back. -/
def FeedsRouted (rely : (command : StreamCommand) → Registration → command.Reply → Prop)
    (multiplexer : StreamMultiplexer) (symbols feeds : List String) (record : Registration) :
    Except StreamError StreamMultiplexer.Routed → Registration → Prop
  | .ok (.subscribed acks), last => Added multiplexer symbols feeds acks record last
  | .ok (.failed refusal _), last =>
      (refusal.1 = "GW-E3002" ∨ refusal.1 = "GW-E3003") ∧
        ∃ before feed after acks middle, feeds = before ++ feed :: after ∧
          Added multiplexer symbols before acks record middle ∧
          Dropped rely multiplexer symbols before middle last
  | .error error, _ => Raises rely error

theorem subscribeFeeds_meets :
    Meets (recording (.relying rely)) (FeedsRouted rely multiplexer symbols feeds record) record
      (multiplexer.subscribeFeeds symbols [] [] feeds) := by
  have general : ∀ rest done acks current, feeds = done ++ rest →
      Added multiplexer symbols done acks record current →
      Meets (recording (.relying rely)) (FeedsRouted rely multiplexer symbols feeds record) current
        (multiplexer.subscribeFeeds symbols done acks rest) := by
    intro rest
    induction rest with
    | nil =>
        intro done acks current split added
        rw [List.append_nil] at split
        exact split ▸ added
    | cons feed rest ih =>
        intro done acks current split added
        refine subscribeFeed_meets.bind (fun ack last subscribed => ?_) fun _ _ raised => raised
        cases ack with
        | ok symbols warnings => exact ih _ _ _ (by simp [split]) (added.snoc subscribed)
        | error code message =>
            obtain ⟨rfl, code⟩ := subscribed
            refine rollback_meets.bind (fun errors final ended => ?_) fun error _ failed => ?_
            · obtain ⟨_, _, dropped⟩ := ended
              exact ⟨code, done, feed, rest, acks, last, split, added, dropped⟩
            · obtain ⟨_, same, _⟩ := failed
              cases same
  exact general feeds [] [] record rfl ⟨⟨rfl, rfl, rfl, rfl⟩, rfl⟩

end Feeds

/-! ## Requests -/

section Requests

variable (rely : (command : StreamCommand) → Registration → command.Reply → Prop)
  (multiplexer : StreamMultiplexer) (request : SubscriptionRequest) (subscriptions : Finset String)
  (record : Registration)

/-- The multiplexer was not there, or a `RuntimeError` was raised. -/
def Unavailable (last : Registration) : Prop :=
  last = record ∧ rely .getMultiplexer record false ∨ Raises rely .runtimeError

/-- What a subscription to streams of the broker comes to. -/
def StreamsSubscribed :
    Except StreamError (Response × Finset String) → Registration → Prop
  | .ok answer, last =>
      (∃ routed, answer = StreamMultiplexer.subscriptionAnswer request subscriptions routed ∧
        FeedsRouted rely multiplexer request.symbols request.feeds record (.ok routed) last) ∨
      answer = StreamMultiplexer.unavailable request subscriptions ∧ Unavailable rely record last
  | .error error, _ => Raises rely error

/-- What the end of a subscription to streams of the broker comes to. -/
def StreamsUnsubscribed :
    Except StreamError (Response × Finset String) → Registration → Prop
  | .ok answer, last =>
      answer = StreamMultiplexer.unsubscriptionAnswer request subscriptions ∧
        (Dropped rely multiplexer request.symbols request.feeds record last ∨
          Unavailable rely record last)
  | .error error, _ => Raises rely error

variable {rely multiplexer request subscriptions record}

theorem subscribeStreams_meets :
    Meets (recording (.relying rely))
      (StreamsSubscribed rely multiplexer request subscriptions record) record
      (multiplexer.subscribeStreams request subscriptions) := by
  refine ⟨trivial, fun initialized next recorded => ?_⟩
  obtain ⟨same, relied⟩ := recorded
  change next = record at same
  subst next
  cases initialized with
  | false => exact .inr ⟨rfl, .inl ⟨rfl, relied⟩⟩
  | true =>
      have routed : Meets (recording (.relying rely)) (fun outcome last => match outcome with
          | .ok answer =>
              StreamsSubscribed rely multiplexer request subscriptions record (.ok answer)
              last
          | .error error => Raises rely error) record
          ((multiplexer.subscribeFeeds request.symbols [] [] request.feeds).bind fun routed =>
            .finish (.ok (StreamMultiplexer.subscriptionAnswer request subscriptions routed))) :=
        subscribeFeeds_meets.bind (fun routed last done => .inl ⟨routed, rfl, done⟩)
          fun _ _ raised => raised
      refine routed.catching (fun _ _ done => done) fun error last raised => ?_
      cases error with
      | runtimeError => exact .inr ⟨rfl, .inr raised⟩
      | connectionClosed => exact raised
      | other => exact raised

theorem unsubscribeStreams_meets :
    Meets (recording (.relying rely))
      (StreamsUnsubscribed rely multiplexer request subscriptions record) record
      (multiplexer.unsubscribeStreams request subscriptions) := by
  refine ⟨trivial, fun initialized next recorded => ?_⟩
  obtain ⟨same, relied⟩ := recorded
  change next = record at same
  subst next
  cases initialized with
  | false => exact ⟨rfl, .inr (.inl ⟨rfl, relied⟩)⟩
  | true =>
      have dropped : Meets (recording (.relying rely)) (fun outcome last => match outcome with
          | .ok answer => StreamsUnsubscribed rely multiplexer request subscriptions record
              (.ok answer) last
          | .error error => Raises rely error) record
          ((forEach request.feeds fun feed => multiplexer.unsubscribeFeed feed request.symbols).bind
            fun _ =>
              .finish (.ok (StreamMultiplexer.unsubscriptionAnswer request subscriptions))) :=
        unsubscribeFeeds_meets.bind (fun _ last done => ⟨rfl, .inl done⟩) fun _ _ raised => raised
      refine dropped.catching (fun _ _ done => done) fun error last raised => ?_
      cases error with
      | runtimeError => exact ⟨rfl, .inr (.inr raised)⟩
      | connectionClosed => exact raised
      | other => exact raised

end Requests

/-! ## Option flow -/

section Flow

variable [Unicode] {rely : (command : StreamCommand) → Registration → command.Reply → Prop}
  {request : SubscriptionRequest} {subscriptions : Finset String} {record : Registration}

/-- The answers to a subscription to option flow. -/
inductive FlowAnswer (request : SubscriptionRequest) (subscriptions : Finset String) :
    Response × Finset String → Prop
  | failed (feeds : List String) (note : Refusal)
      (code : note.1 = "GW-E5002" ∨ note.1 = "GW-E8001") :
      FlowAnswer request subscriptions
        (.subscriptionAck ({ request with feeds := feeds }.failedAck note), subscriptions)
  | subscribed (resume : Option (Option String)) (wired : Bool) :
      FlowAnswer request subscriptions
        (.subscriptionAck (flowAck request resume wired), withFlow subscriptions request.symbols)

theorem subscribeFlow_meets {after : Option (Option String)} :
    Meets (recording (.relying rely)) (fun outcome last => last = record ∧
      ∃ answer, outcome = .ok answer ∧ FlowAnswer request subscriptions answer) record
      (subscribeFlow request after subscriptions) := by
  have subscribed (resume : Option (Option String)) :
      Meets (recording (.relying rely)) (fun outcome last => last = record ∧
        ∃ answer, outcome = .ok answer ∧ FlowAnswer request subscriptions answer) record
        (flowSubscribed request subscriptions resume) :=
    ⟨trivial, fun wired next recorded => ⟨recorded.1, _, rfl, .subscribed resume wired⟩⟩
  refine ⟨trivial, fun initialized next recorded => ?_⟩
  rw [show next = record from recorded.1]
  dsimp only
  split
  · exact ⟨rfl, _, rfl, .failed request.feeds _ (.inl rfl)⟩
  · split
    · exact ⟨rfl, _, rfl, .failed [flowFeed] _ (.inr rfl)⟩
    · refine ⟨trivial, fun _ next recorded => ?_⟩
      rw [show next = record from recorded.1]
      cases after with
      | none => exact subscribed none
      | some _ =>
          refine ⟨trivial, fun watermark next recorded => ?_⟩
          rw [show next = record from recorded.1]
          exact subscribed (some watermark)

omit [Unicode] in
theorem unsubscribeFlow_meets :
    Meets (recording (.relying rely)) (fun outcome last => last = record ∧
      outcome = .ok (.unsubscriptionAck request.provider [flowFeed] request.symbols.toFinset,
        withoutFlow subscriptions request.symbols)) record
      (unsubscribeFlow request subscriptions) := by
  refine ⟨trivial, fun initialized next recorded => ?_⟩
  rw [show next = record from recorded.1]
  cases initialized with
  | true => exact ⟨trivial, fun _ _ recorded => ⟨recorded.1, rfl⟩⟩
  | false => exact ⟨rfl, rfl⟩

end Flow

/-! ## Commands of a message -/

section Commands

variable {allowed : StreamCommand → Prop} {multiplexer : StreamMultiplexer} {feed : String}
  {feeds symbols : List String}

/-- What a handler may do to take some feeds away. -/
structure Releases (allowed : StreamCommand → Prop) (multiplexer : StreamMultiplexer)
    (feeds symbols : List String) : Prop where
  getMultiplexer : allowed .getMultiplexer
  sendAncillary : ∀ target action candidates, allowed (.sendAncillary target action candidates)
  unsubscribe : ∀ feed ∈ feeds, ∀ target, multiplexer.target feed = some target →
    allowed (.unsubscribe target (requestedFeeds feed symbols))

/-- What a handler may do to register some feeds, or to give up on the way. -/
structure Serves (allowed : StreamCommand → Prop) (multiplexer : StreamMultiplexer)
    (feeds symbols : List String) : Prop extends Releases allowed multiplexer feeds symbols where
  ensureConnected : ∀ target, allowed (.ensureConnected target)
  subscribe : ∀ feed ∈ feeds, ∀ target, multiplexer.target feed = some target →
    allowed (.subscribe target (requestedFeeds feed symbols))

theorem finishRequest_uses {streamType : AlpacaStreamType} {action : FrameAction}
    {first : FirstFrame}
    (send : ∀ candidates, allowed (.sendAncillary streamType action candidates)) :
    (finishRequest streamType action first).Uses allowed := by
  unfold finishRequest
  split
  · trivial
  next candidates _ => exact ⟨send candidates, fun _ => trivial⟩

theorem Serves.subscribeFeed (serves : Serves allowed multiplexer feeds symbols)
    (mem : feed ∈ feeds) : (multiplexer.subscribeFeed feed symbols).Uses allowed := by
  unfold StreamMultiplexer.subscribeFeed StreamMultiplexer.clientSubscribe
  split
  · trivial
  next target found =>
    have connected : (StreamMultiplexer.subscribeConnected target
        (requestedFeeds feed symbols)).Uses allowed := by
      refine ⟨serves.subscribe feed mem target found, fun sent => ?_⟩
      refine Uses.bind (uses_finish _) fun first => Uses.bind ?_ fun _ => trivial
      exact finishRequest_uses (serves.sendAncillary target .subscribe)
    split
    · refine ⟨serves.ensureConnected target, fun ready => ?_⟩
      cases ready with
      | true => exact connected
      | false => trivial
    · exact connected

theorem Releases.unsubscribeFeed (releases : Releases allowed multiplexer feeds symbols)
    (mem : feed ∈ feeds) : (multiplexer.unsubscribeFeed feed symbols).Uses allowed := by
  unfold StreamMultiplexer.unsubscribeFeed StreamMultiplexer.clientUnsubscribe
  split
  · trivial
  next target found =>
    refine ⟨releases.unsubscribe feed mem target found, fun sent => ?_⟩
    exact Uses.bind (uses_finish _) fun _ =>
      finishRequest_uses (releases.sendAncillary target .unsubscribe)

theorem Releases.rollback (releases : Releases allowed multiplexer feeds symbols)
    {done : List String} (within : ∀ feed ∈ done, feed ∈ feeds) :
    (multiplexer.rollback symbols done).Uses allowed := by
  refine Uses.foldEach fun errors feed mem =>
    (releases.unsubscribeFeed (within feed mem)).resolve ?_
  intro outcome
  cases outcome with
  | ok _ => trivial
  | error _ => trivial

theorem Serves.subscribeFeeds (serves : Serves allowed multiplexer feeds symbols)
    {rest done : List String} {acks : List (Finset String × List StreamWarning)}
    (within : ∀ feed ∈ done ++ rest, feed ∈ feeds) :
    (multiplexer.subscribeFeeds symbols done acks rest).Uses allowed := by
  induction rest generalizing done acks with
  | nil => trivial
  | cons feed rest ih =>
      refine (serves.subscribeFeed (within feed (by simp))).bind fun ack => ?_
      cases ack with
      | ok subscribed warnings => exact ih (by simpa using within)
      | error code message =>
          exact (serves.rollback fun other mem => within other (by simp [mem])).bind fun _ =>
            trivial

variable {request : SubscriptionRequest} {subscriptions : Finset String}

theorem Serves.subscribeStreams
    (serves : Serves allowed multiplexer request.feeds request.symbols) :
    (multiplexer.subscribeStreams request subscriptions).Uses allowed := by
  refine ⟨serves.getMultiplexer, fun initialized => ?_⟩
  dsimp only
  split
  · refine Uses.catching (Uses.bind (serves.subscribeFeeds fun _ mem => mem) fun _ => trivial) ?_
    intro error
    cases error with
    | runtimeError | connectionClosed | other => trivial
  · trivial

theorem Releases.unsubscribeStreams
    (releases : Releases allowed multiplexer request.feeds request.symbols) :
    (multiplexer.unsubscribeStreams request subscriptions).Uses allowed := by
  refine ⟨releases.getMultiplexer, fun initialized => ?_⟩
  dsimp only
  split
  · refine Uses.catching (Uses.bind (Uses.foldEach fun _ feed mem =>
      releases.unsubscribeFeed mem) fun _ => trivial) ?_
    intro error
    cases error with
    | runtimeError | connectionClosed | other => trivial
  · trivial

/-- What a handler may do to take option flow away. -/
structure ReleasesFlow (allowed : StreamCommand → Prop) (symbols : List String) : Prop where
  getFlowFanout : allowed .getFlowFanout
  unsubscribe : allowed (.flowUnsubscribe symbols)

/-- What a handler may do to register for option flow. -/
structure ServesFlow (allowed : StreamCommand → Prop) (symbols : List String) : Prop where
  getFlowFanout : allowed .getFlowFanout
  producerWired : allowed .producerWired
  highWatermark : allowed .highWatermark
  subscribe : allowed (.flowSubscribe symbols)

theorem ServesFlow.subscribeFlow [Unicode] {after : Option (Option String)}
    (serves : ServesFlow allowed request.symbols) :
    (subscribeFlow request after subscriptions).Uses allowed := by
  have subscribed (resume : Option (Option String)) :
      (flowSubscribed request subscriptions resume).Uses allowed :=
    ⟨serves.producerWired, fun _ => trivial⟩
  refine ⟨serves.getFlowFanout, fun initialized => ?_⟩
  dsimp only
  split
  · trivial
  · split
    · trivial
    · refine ⟨serves.subscribe, fun _ => ?_⟩
      cases after with
      | none => exact subscribed none
      | some _ => exact ⟨serves.highWatermark, fun watermark => subscribed (some watermark)⟩

theorem ReleasesFlow.unsubscribeFlow (releases : ReleasesFlow allowed request.symbols) :
    (unsubscribeFlow request subscriptions).Uses allowed := by
  refine ⟨releases.getFlowFanout, fun initialized => ?_⟩
  dsimp only
  split
  · exact ⟨releases.unsubscribe, fun _ => trivial⟩
  · trivial

end Commands

section Messages

variable [Unicode] [Lowercase] {allowed : StreamCommand → Prop} {multiplexer : StreamMultiplexer}
  {permissions : Option ClientPermissions} {subscriptions : Finset String} {message : ClientMessage}

/-- A handler may do what a message that passes its check asks for. -/
theorem handleMessage_uses
    (subscribe : ∀ request, message.action = "subscribe" →
      checkSubscribe permissions subscriptions message = .ok request →
      if request.isFlow then ServesFlow allowed request.symbols
      else Serves allowed multiplexer request.feeds request.symbols)
    (unsubscribe : ∀ request, message.action = "unsubscribe" →
      checkUnsubscribe permissions message = .ok request →
      if request.isFlow then ReleasesFlow allowed request.symbols
      else Releases allowed multiplexer request.feeds request.symbols) :
    (multiplexer.handleMessage permissions subscriptions message).Uses allowed := by
  unfold StreamMultiplexer.handleMessage
  split_ifs with _ _ subscribes unsubscribes
  · trivial
  · trivial
  · cases checked : checkSubscribe permissions subscriptions message with
    | error refusal => trivial
    | ok request =>
        have serves := subscribe request subscribes checked
        dsimp only
        split
        next flow =>
          rw [if_pos flow] at serves
          exact serves.subscribeFlow
        next other =>
          rw [if_neg other] at serves
          exact serves.subscribeStreams
  · cases checked : checkUnsubscribe permissions message with
    | error refusal => trivial
    | ok request =>
        have releases := unsubscribe request unsubscribes checked
        dsimp only
        split
        next flow =>
          rw [if_pos flow] at releases
          exact releases.unsubscribeFlow
        next other =>
          rw [if_neg other] at releases
          exact releases.unsubscribeStreams
  · trivial
  · trivial

end Messages

end Streaming
end DataGateway
