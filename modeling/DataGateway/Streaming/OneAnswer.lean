import DataGateway.Streaming.Effects
import DataGateway.Streaming.FrameChecks

/-!
# One answer to a frame

A frame that fits is answered once, and the loop goes on, unless one of its values is asked for what
it does not have.  A frame that is answered with an error leaves the accounts of the connection
alone.
-/

namespace DataGateway
namespace Streaming

open Coroutine

/-! ## The contract of a turn -/

/-- The request to a stream raises no more than a `RuntimeError`. -/
def Calm (command : StreamCommand) (reply : command.Reply) : Prop :=
  ∀ error, command.exception reply = some error → error = .runtimeError

/-- What is recorded for the client, and what it was sent, while the client can be reached and
requests to the streams raise no more than a `RuntimeError`. -/
def serving : Contract FrameCommand.Reply (Registration × List FrameReply) where
  may _ _ := True
  after
    | .receive, state, _, next => next = state
    | .send reply, state, sent, next => sent = .ok () ∧ next = (state.1, state.2 ++ [reply])
    | .stream command, state, reply, next =>
        next = (state.1.next command reply, state.2) ∧ Calm command reply

/-- Calm requests as a rely. -/
abbrev calmly : (command : StreamCommand) → Registration → command.Reply → Prop :=
  fun command _ reply => Calm command reply

theorem runtimeError_of_raises {error : StreamError} (raises : Raises calmly error) :
    error = .runtimeError := by
  obtain ⟨command, record, reply, calm, raised⟩ := raises
  exact calm error raised

/-- A part of the handler does over frames what it does over messages, and sends nothing. -/
theorem onStreams_meets {α : Type} {post : Except StreamError α → Registration → Prop}
    {state : Registration × List FrameReply} {handler : Handler α}
    (meets : Meets (recording (.relying calmly)) post state.1 handler) :
    Meets serving (fun outcome last => ∃ inner, outcome = inner.mapError FrameError.stream ∧
      post inner last.1 ∧ last.2 = state.2) state (onStreams handler) := by
  refine Meets.embed meets rfl (fun _ _ _ _ => trivial) ?_
  rintro command current reply next kept ⟨rfl, calm⟩
  exact ⟨⟨rfl, calm⟩, kept⟩

/-! ## What a turn comes to -/

/-- An answer that says that the request failed. -/
def Response.isError : Response → Bool
  | .error _ _ => true
  | .subscriptionAck ack => ack.status = .error
  | _ => false

/-- The handler has an answer, and nothing was sent; when it is an error, the accounts are as they
were. -/
def Handled (subscriptions : Finset String) (sent : List FrameReply)
    (outcome : Except FrameError (Response × Finset String))
      (last : Registration × List FrameReply) :
    Prop :=
  ∃ answer, outcome = .ok answer ∧ last.2 = sent ∧
    (answer.1.isError = true → answer.2 = subscriptions)

/-- The feed is a text, and the gateway has a stream for it. -/
def Available (multiplexer : StreamMultiplexer) (feed : JsonValue) : Prop :=
  ∃ text, feed = .string text ∧ multiplexer.getConnection (AlpacaStreamType.fromFeed text) ≠ none

section Streams

variable {multiplexer : StreamMultiplexer} {symbols : List String} {feeds : List JsonValue}
  {state : Registration × List FrameReply} {subscriptions : Finset String}
  {request : SubscriptionRequest}

/-- The feeds before one that failed are given back, and what that raises is only noted. -/
theorem rollback_handled {done : List String} {refusal : Refusal} :
    Meets serving (fun outcome last => last.2 = state.2 ∧
      ∀ error, outcome = .error error → error = .stream .runtimeError) state
      ((onStreams (multiplexer.rollback symbols done)).bind fun errors =>
        .finish (.ok (StreamMultiplexer.Routed.failed refusal errors))) := by
  refine (onStreams_meets rollback_meets).bind (fun errors last rolled => ⟨?_, nofun⟩) ?_
  · obtain ⟨_, -, -, kept⟩ := rolled
    exact kept
  · rintro error last ⟨inner, same, ⟨errors, rfl, -⟩, -⟩
    cases same

/-- Subscribing to feeds raises no `TypeError` unless a feed that is no text comes up. -/
theorem subscribeFrameFeeds_handled {done : List String}
    {acks : List (Finset String × List StreamWarning)}
    (clear : ¬ Stops (Available multiplexer) NoText feeds) :
    Meets serving (fun outcome last => last.2 = state.2 ∧
      ∀ error, outcome = .error error → error = .stream .runtimeError) state
      (multiplexer.subscribeFrameFeeds symbols done acks feeds) := by
  induction feeds generalizing done acks state with
  | nil => exact ⟨rfl, nofun⟩
  | cons feed rest ih =>
      rw [stops_cons, not_or] at clear
      cases feed with
      | string feed =>
          unfold StreamMultiplexer.subscribeFrameFeeds
          cases found : multiplexer.getConnection (AlpacaStreamType.fromFeed feed) with
          | none =>
              have gone : multiplexer.subscribeFeed feed symbols = .finish (.ok (.error "GW-E3002"
                  ("Stream type not available: " ++ (AlpacaStreamType.fromFeed feed).value))) := by
                simp only [StreamMultiplexer.subscribeFeed, StreamMultiplexer.clientSubscribe,
                  found]
              rw [gone]
              exact rollback_handled
          | some target =>
              have later : ¬ Stops (Available multiplexer) NoText rest := fun stops =>
                clear.2 ⟨⟨feed, rfl, by simp [found]⟩, stops⟩
              refine (onStreams_meets subscribeFeed_meets).bind (fun ack last asked => ?_) ?_
              · obtain ⟨_, -, -, kept⟩ := asked
                cases ack with
                | error code message => exact kept ▸ rollback_handled
                | ok subscribed warnings => exact kept ▸ ih later
              · rintro error last ⟨inner, same, raised, kept⟩
                refine ⟨kept, fun _ again => ?_⟩
                obtain rfl := Except.error.inj again
                cases inner with
                | ok _ => cases same
                | error cause =>
                    obtain rfl := Except.error.inj same
                    rw [runtimeError_of_raises raised]
      | null | bool _ | int _ | float _ | infinite _ | nan | list _ | dict _ =>
          exact absurd rfl clear.1

theorem subscribeFrameStreams_handled (clear : ¬ Stops (Available multiplexer) NoText feeds) :
    Meets serving (Handled subscriptions state.2) state
      (multiplexer.subscribeFrameStreams request feeds subscriptions) := by
  have kept : Handled subscriptions state.2
      (.ok (StreamMultiplexer.unavailable request subscriptions)) state :=
        ⟨_, rfl, rfl, fun _ => rfl⟩
  refine ⟨trivial, fun initialized next recorded => ?_⟩
  obtain ⟨rfl, -⟩ := recorded
  cases initialized with
  | false => exact kept
  | true =>
      have routed : Meets serving (fun outcome last => match outcome with
          | .ok answer => Handled subscriptions state.2 (.ok answer) last
          | .error error => last.2 = state.2 ∧ error = .stream .runtimeError) state
          ((multiplexer.subscribeFrameFeeds request.symbols [] [] feeds).bind fun routed =>
            .finish (.ok (StreamMultiplexer.subscriptionAnswer request subscriptions routed))) := by
        refine (subscribeFrameFeeds_handled clear).bind (fun routed last ended => ?_)
          fun error last ended => ⟨ended.1, ended.2 error rfl⟩
        cases routed with
        | failed refusal errors => exact ⟨_, rfl, ended.1, fun _ => rfl⟩
        | subscribed acks => exact ⟨_, rfl, ended.1, fun failed => by cases failed⟩
      refine Meets.catching routed (fun _ _ handled => handled) fun error last ended => ?_
      obtain ⟨kept, rfl⟩ := ended
      exact ⟨_, rfl, kept, fun _ => rfl⟩

theorem unsubscribeFrameStreams_handled (texts : ∀ feed ∈ feeds, ¬ NoText feed) :
    Meets serving (Handled subscriptions state.2) state
      (multiplexer.unsubscribeFrameStreams request feeds subscriptions) := by
  have answer (last : Registration × List FrameReply) (kept : last.2 = state.2) :
      Handled subscriptions state.2
        (.ok (StreamMultiplexer.unsubscriptionAnswer request subscriptions)) last :=
    ⟨_, rfl, kept, fun failed => by cases failed⟩
  refine ⟨trivial, fun initialized next recorded => ?_⟩
  obtain ⟨rfl, -⟩ := recorded
  cases initialized with
  | false => exact answer _ rfl
  | true =>
      let Inv : List JsonValue → Unit → Registration × List FrameReply → Prop :=
        fun rest _ last =>
        last.2 = state.2 ∧ ∀ feed ∈ rest, ¬ NoText feed
      let Fail : FrameError → Registration × List FrameReply → Prop := fun error last =>
        last.2 = state.2 ∧ error = .stream .runtimeError
      have each : Meets serving (fun outcome last => match outcome with
          | .ok done => Inv [] done last
          | .error error => Fail error last) state
          (forEach feeds (multiplexer.unsubscribeFrameFeed request.symbols)) := by
        refine (Meets.foldEach Inv Fail ⟨rfl, texts⟩ ?_).mono ?_
        · rintro feed rest _ last ⟨kept, texts⟩
          obtain ⟨text, named⟩ := List.forall_mem_cons.mp texts
          cases feed with
          | string feed =>
              refine (onStreams_meets unsubscribeFeed_meets).mono ?_
              rintro _ after ⟨inner, rfl, ⟨-, raised⟩, same⟩
              cases inner with
              | ok _ => exact ⟨same.trans kept, named⟩
              | error cause =>
                  exact ⟨same.trans kept, congrArg FrameError.stream
                    (runtimeError_of_raises (raised cause rfl))⟩
          | null | bool _ | int _ | float _ | infinite _ | nan | list _ | dict _ =>
              exact absurd rfl text
        · intro outcome last ended
          cases outcome with
          | ok done => exact ended
          | error error => exact ended
      have routed : Meets serving (fun outcome last => match outcome with
          | .ok found => Handled subscriptions state.2 (.ok found) last
          | .error error => last.2 = state.2 ∧ error = .stream .runtimeError) state
          ((forEach feeds (multiplexer.unsubscribeFrameFeed request.symbols)).bind fun _ =>
            .finish (.ok (StreamMultiplexer.unsubscriptionAnswer request subscriptions))) :=
        each.bind (fun _ last ended => answer last ended.1) fun _ _ ended => ended
      refine Meets.catching routed (fun _ _ handled => handled) fun error last ended => ?_
      obtain ⟨kept, rfl⟩ := ended
      exact answer last kept

end Streams

variable [Unicode] [Lowercase] [Rendering]

/-- A value of a frame is asked for what it does not have. -/
inductive Trips (multiplexer : StreamMultiplexer) (permissions : Option ClientPermissions)
    (subscriptions : Finset String) : JsonValue → Prop
  | topLevel {value} (plain : ∀ message, value ≠ .dict message) :
      Trips multiplexer permissions subscriptions value
  | subscribe {message} (action : FrameFields.action message = .string "subscribe")
      (escapes : SubscribeEscapes permissions message) :
      Trips multiplexer permissions subscriptions (.dict message)
  | subscribeStream {message granted feeds symbols provider}
      (action : FrameFields.action message = .string "subscribe")
      (passes :
        PassesSubscribeFrame permissions subscriptions message granted feeds symbols provider)
      (streams : ¬ ForFlow provider feeds) (stops : Stops (Available multiplexer) NoText feeds) :
      Trips multiplexer permissions subscriptions (.dict message)
  | unsubscribe {message} (action : FrameFields.action message = .string "unsubscribe")
      (escapes : UnsubscribeEscapes permissions message) :
      Trips multiplexer permissions subscriptions (.dict message)
  | unsubscribeStream {message granted feeds symbols provider}
      (action : FrameFields.action message = .string "unsubscribe")
      (passes : PassesUnsubscribeFrame permissions message granted feeds symbols provider)
      (streams : ¬ ForFlow provider feeds) (untold : ∃ feed ∈ feeds, NoText feed) :
      Trips multiplexer permissions subscriptions (.dict message)

variable {multiplexer : StreamMultiplexer} {permissions : Option ClientPermissions}
  {subscriptions : Finset String} {message : FrameFields}
  {state : Registration × List FrameReply}

omit [Unicode] in
theorem forFlow_requestOf {provider : String} {feeds symbols : List JsonValue}
    (named : message.provider = .string provider) :
    (requestOf message.provider feeds symbols).isFlow = true ↔ ForFlow provider feeds := by
  rw [named]
  rfl

omit [Lowercase] [Rendering] in
theorem subscribeFlow_handled {request : SubscriptionRequest} {after : Option (Option String)} :
    Meets serving (Handled subscriptions state.2) state
      (onStreams (subscribeFlow request after subscriptions)) := by
  refine (onStreams_meets subscribeFlow_meets).mono ?_
  rintro _ last ⟨inner, rfl, ⟨-, answer, rfl, flow⟩, kept⟩
  refine ⟨answer, rfl, kept, fun failed => ?_⟩
  cases flow with
  | failed feeds note code => rfl
  | subscribed resume wired =>
      unfold flowAck at failed
      (repeat' split at failed) <;> cases failed

omit [Unicode] [Lowercase] [Rendering] in
theorem unsubscribeFlow_handled {request : SubscriptionRequest} :
    Meets serving (Handled subscriptions state.2) state
      (onStreams (unsubscribeFlow request subscriptions)) := by
  refine (onStreams_meets unsubscribeFlow_meets).mono ?_
  rintro _ last ⟨inner, rfl, ⟨-, rfl⟩, kept⟩
  exact ⟨_, rfl, kept, fun failed => by cases failed⟩

theorem handleFields_handled
    (clear : ¬ Trips multiplexer permissions subscriptions (.dict message)) :
    Meets serving (Handled subscriptions state.2) state
      (multiplexer.handleFields permissions subscriptions message) := by
  unfold StreamMultiplexer.handleFields
  split
  · exact ⟨_, rfl, rfl, fun failed => by cases failed⟩
  · exact ⟨_, rfl, rfl, fun failed => by cases failed⟩
  next action =>
    have action := JsonValue.string?_eq_some.mp action
    unfold StreamMultiplexer.afterChecks
    split
    next passed checked =>
      obtain ⟨granted, feeds, symbols, provider, passes, rfl⟩ :=
        checkSubscribeFrame_eq_ok.mp checked
      dsimp only
      split
      · exact subscribeFlow_handled
      next streams =>
        rw [forFlow_requestOf passes.named] at streams
        exact subscribeFrameStreams_handled fun stops =>
          clear (.subscribeStream action passes streams stops)
    · exact ⟨_, rfl, rfl, fun _ => rfl⟩
    next error raised =>
      exact absurd (.subscribe action (escapes_checkSubscribeFrame.mp ⟨error, raised⟩)) clear
  next action =>
    have action := JsonValue.string?_eq_some.mp action
    unfold StreamMultiplexer.afterChecks
    split
    next passed checked =>
      obtain ⟨granted, feeds, symbols, provider, passes, rfl⟩ :=
        checkUnsubscribeFrame_eq_ok.mp checked
      dsimp only
      split
      · exact unsubscribeFlow_handled
      next streams =>
        rw [forFlow_requestOf passes.named] at streams
        exact unsubscribeFrameStreams_handled fun feed mem untold =>
          clear (.unsubscribeStream action passes streams ⟨feed, mem, untold⟩)
    · exact ⟨_, rfl, rfl, fun _ => rfl⟩
    next error raised =>
      exact absurd (.unsubscribe action (escapes_checkUnsubscribeFrame.mp ⟨error, raised⟩)) clear
  · exact ⟨_, rfl, rfl, fun failed => by cases failed⟩
  · exact ⟨_, rfl, rfl, fun _ => rfl⟩

/-! ## Turns that raise -/

omit [Unicode] [Lowercase] [Rendering] in
/-- Every command of a turn can be answered. -/
theorem serving_answered (command : FrameCommand) (state : Registration × List FrameReply) :
    ∃ reply next, serving.after command state reply next := by
  cases command with
  | receive => exact ⟨none, state, rfl⟩
  | send reply => exact ⟨.ok (), _, rfl, rfl⟩
  | stream command =>
      cases command with
      | receive => exact ⟨none, _, rfl, nofun⟩
      | sendJson response => exact ⟨.ok (), _, rfl, nofun⟩
      | getMultiplexer => exact ⟨true, _, rfl, nofun⟩
      | ensureConnected streamType => exact ⟨true, _, rfl, nofun⟩
      | subscribe streamType requested => exact ⟨.ok ⟨[], none⟩, _, rfl, nofun⟩
      | unsubscribe streamType requested => exact ⟨.ok ⟨[], none⟩, _, rfl, nofun⟩
      | removeClient streamType => exact ⟨.ok ⟨[], none⟩, _, rfl, nofun⟩
      | sendAncillary streamType action candidates => exact ⟨.ok (), _, rfl, nofun⟩
      | getFlowFanout => exact ⟨true, _, rfl, nofun⟩
      | producerWired => exact ⟨true, _, rfl, nofun⟩
      | flowSubscribe symbols => exact ⟨(), _, rfl, nofun⟩
      | flowUnsubscribe symbols => exact ⟨(), _, rfl, nofun⟩
      | flowDisconnect => exact ⟨(), _, rfl, nofun⟩
      | highWatermark => exact ⟨none, _, rfl, nofun⟩

omit [Unicode] [Lowercase] [Rendering] in
/-- A feed with a stream can be subscribed to. -/
theorem subscribeFeed_ends (state : Registration × List FrameReply) {feed : String}
    {symbols : List String}
    (found : multiplexer.getConnection (AlpacaStreamType.fromFeed feed) ≠ none) :
    ∃ subscribed warnings last, Ends serving state
      (onStreams (multiplexer.subscribeFeed feed symbols))
      (.ok (.ok subscribed warnings)) last := by
  obtain ⟨target, found⟩ := Option.ne_none_iff_exists'.mp found
  unfold StreamMultiplexer.subscribeFeed StreamMultiplexer.clientSubscribe
  rw [found]
  have connected (state : Registration × List FrameReply) : ∃ last, Ends serving state
      (onStreams (StreamMultiplexer.subscribeConnected target (requestedFeeds feed symbols)))
      (.ok (.ok (requestedSymbols (requestedFeeds feed symbols)) [])) last :=
    ⟨_, .suspend (.ok ⟨[], none⟩) _ ⟨rfl, nofun⟩ .finish⟩
  dsimp only
  split
  · obtain ⟨last, rest⟩ := connected (state.1.next (.ensureConnected target) true, state.2)
    exact ⟨_, _, last, .suspend true _ ⟨rfl, nofun⟩ rest⟩
  · obtain ⟨last, rest⟩ := connected state
    exact ⟨_, _, last, rest⟩

omit [Unicode] [Lowercase] [Rendering] in
theorem unsubscribeFeed_ends (multiplexer : StreamMultiplexer)
    (state : Registration × List FrameReply) {feed : String} {symbols : List String} :
    ∃ last, Ends serving state (onStreams (multiplexer.unsubscribeFeed feed symbols)) (.ok ())
      last := by
  unfold StreamMultiplexer.unsubscribeFeed StreamMultiplexer.clientUnsubscribe
  split
  · exact ⟨state, .finish⟩
  next target found => exact ⟨_, .suspend (.ok ⟨[], none⟩) _ ⟨rfl, nofun⟩ .finish⟩

omit [Unicode] [Lowercase] [Rendering] in
/-- A feed that is no text comes up after feeds with streams. -/
theorem subscribeFrameFeeds_raises (state : Registration × List FrameReply)
    {feeds : List JsonValue} {symbols done : List String}
    {acks : List (Finset String × List StreamWarning)}
    (stops : Stops (Available multiplexer) NoText feeds) :
    ∃ last, Ends serving state (multiplexer.subscribeFrameFeeds symbols done acks feeds)
      (.error .typeError) last := by
  induction feeds generalizing done acks state with
  | nil => exact absurd stops not_stops_nil
  | cons feed rest ih =>
      cases feed with
      | string feed =>
          obtain ⟨⟨text, same, found⟩, later⟩ := (stops_cons.mp stops).resolve_left nofun
          obtain rfl := JsonValue.string.inj same
          obtain ⟨subscribed, warnings, middle, asked⟩ := subscribeFeed_ends state found
          obtain ⟨last, raised⟩ := ih middle later
          exact ⟨last, asked.resolve raised⟩
      | null | bool _ | int _ | float _ | infinite _ | nan | list _ | dict _ =>
          exact ⟨state, .finish⟩

omit [Unicode] [Lowercase] [Rendering] in
theorem unsubscribeFrameFeeds_raises (multiplexer : StreamMultiplexer)
    (state : Registration × List FrameReply) {feeds : List JsonValue} {symbols : List String}
    (untold : ∃ feed ∈ feeds, NoText feed) :
    ∃ last, Ends serving state (forEach feeds (multiplexer.unsubscribeFrameFeed symbols))
      (.error .typeError) last := by
  induction feeds generalizing state with
  | nil =>
      obtain ⟨_, mem, -⟩ := untold
      exact absurd mem List.not_mem_nil
  | cons feed rest ih =>
      cases feed with
      | string feed =>
          obtain ⟨found, mem, none_⟩ := untold
          rcases List.mem_cons.mp mem with rfl | mem
          · cases none_
          obtain ⟨middle, given⟩ := unsubscribeFeed_ends multiplexer state
          obtain ⟨last, raised⟩ := ih middle ⟨found, mem, none_⟩
          exact ⟨last, given.resolve raised⟩
      | null | bool _ | int _ | float _ | infinite _ | nan | list _ | dict _ =>
          exact ⟨state, .finish⟩

theorem handleFields_subscribe (action : message.action = .string "subscribe") :
    multiplexer.handleFields permissions subscriptions message =
      StreamMultiplexer.afterChecks subscriptions
        (checkSubscribeFrame permissions subscriptions message) fun (request, feeds) =>
          if request.isFlow then
            onStreams (subscribeFlow request message.afterStreamId subscriptions)
          else multiplexer.subscribeFrameStreams request feeds subscriptions := by
  unfold StreamMultiplexer.handleFields
  rw [action]
  rfl

theorem handleFields_unsubscribe (action : message.action = .string "unsubscribe") :
    multiplexer.handleFields permissions subscriptions message =
      StreamMultiplexer.afterChecks subscriptions (checkUnsubscribeFrame permissions message)
        fun (request, feeds) =>
          if request.isFlow then onStreams (unsubscribeFlow request subscriptions)
          else multiplexer.unsubscribeFrameStreams request feeds subscriptions := by
  unfold StreamMultiplexer.handleFields
  rw [action]
  rfl

omit [Unicode] [Lowercase] [Rendering] in
/-- A check that raises ends the turn. -/
theorem afterChecks_raises {α : Type} {checked : Except Exit α} (escapes : Escapes checked)
    {passed : α → FrameHandler (Response × Finset String)} : ∃ error, Ends serving state
      (StreamMultiplexer.afterChecks subscriptions checked passed) (.error error) state := by
  obtain ⟨error, rfl⟩ := escapes
  exact ⟨error, .finish⟩

/-- Where a value is asked for what it does not have, the handler can end in an exception. -/
theorem handleFields_raises (trips : Trips multiplexer permissions subscriptions (.dict message)) :
    ∃ error last, Ends serving state (multiplexer.handleFields permissions subscriptions message)
      (.error error) last := by
  cases trips with
  | topLevel plain => exact absurd rfl (plain message)
  | subscribe action escapes =>
      rw [handleFields_subscribe action]
      obtain ⟨error, raised⟩ := afterChecks_raises (escapes_checkSubscribeFrame.mpr escapes)
      exact ⟨error, state, raised⟩
  | unsubscribe action escapes =>
      rw [handleFields_unsubscribe action]
      obtain ⟨error, raised⟩ := afterChecks_raises (escapes_checkUnsubscribeFrame.mpr escapes)
      exact ⟨error, state, raised⟩
  | @subscribeStream _ granted feeds symbols provider action passes streams stops =>
      rw [handleFields_subscribe action, checkSubscribeFrame_eq_ok.mpr ⟨_, _, _, _, passes, rfl⟩]
      dsimp only [StreamMultiplexer.afterChecks]
      rw [if_neg (streams ∘ (forFlow_requestOf passes.named).mp)]
      obtain ⟨last, raised⟩ := subscribeFrameFeeds_raises
        (state.1.next .getMultiplexer true, state.2) stops
      exact ⟨.typeError, last, .suspend true _ ⟨rfl, nofun⟩
        (raised.bind_raised.catching_raised .finish)⟩
  | @unsubscribeStream _ granted feeds symbols provider action passes streams untold =>
      rw [handleFields_unsubscribe action,
        checkUnsubscribeFrame_eq_ok.mpr ⟨_, _, _, _, passes, rfl⟩]
      dsimp only [StreamMultiplexer.afterChecks]
      rw [if_neg (streams ∘ (forFlow_requestOf passes.named).mp)]
      obtain ⟨last, raised⟩ := unsubscribeFrameFeeds_raises multiplexer
        (state.1.next .getMultiplexer true, state.2) untold
      exact ⟨.typeError, last, .suspend true _ ⟨rfl, nofun⟩
        (raised.bind_raised.catching_raised .finish)⟩

/-- So can the turn, where the value is no dictionary or its handler raises. -/
theorem answerValue_raises {value : JsonValue}
    (trips : Trips multiplexer permissions subscriptions value) :
    ∃ error last, Ends serving state (multiplexer.answerValue permissions subscriptions value)
      (.error error) last := by
  cases value with
  | dict message =>
      obtain ⟨error, last, raised⟩ := handleFields_raises trips
      exact ⟨error, last, raised.bind_raised⟩
  | null | bool _ | int _ | float _ | infinite _ | nan | string _ | list _ =>
      exact ⟨.attributeError, state, .finish⟩

/-- Otherwise one answer is sent, and one that is an error leaves the accounts alone. -/
theorem answerValue_meets {value : JsonValue}
    (clear : ¬ Trips multiplexer permissions subscriptions value) :
    Meets serving (fun outcome last => ∃ reply later, outcome = .ok later ∧
      last.2 = state.2 ++ [reply] ∧ (reply.response.isError = true → later = subscriptions)) state
      (multiplexer.answerValue permissions subscriptions value) := by
  cases value with
  | dict message =>
      refine (handleFields_handled clear).bind (fun answer last handled => ?_)
        fun error last handled => ?_
      · obtain ⟨_, same, kept, unchanged⟩ := handled
        obtain rfl := Except.ok.inj same
        refine ⟨trivial, fun sent next told => ?_⟩
        obtain ⟨rfl, rfl⟩ := told
        exact ⟨_, _, rfl, congrArg (· ++ [_]) kept, unchanged⟩
      · obtain ⟨_, same, -⟩ := handled
        cases same
  | null | bool _ | int _ | float _ | infinite _ | nan | string _ | list _ =>
      exact absurd (.topLevel nofun) clear

/-- The turn over a frame ends, the client is sent one answer, and the loop goes on; an answer that
is an error leaves the accounts of the connection alone. -/
def AnsweredOnce (turn : FrameHandler (Option (Finset String))) (subscriptions : Finset String) :
    Prop :=
  ∀ record sent, (∃ outcome last, Ends serving (record, sent) turn outcome last) ∧
    ∀ outcome last, Ends serving (record, sent) turn outcome last →
      ∃ reply later, outcome = .ok (some later) ∧ last.2 = sent ++ [reply] ∧
        (reply.response.isError = true → later = subscriptions)

theorem handleFrame_some {maxBytes : Nat} {frame : ClientFrame} {value : JsonValue}
    (fits : frame.size ≤ maxBytes) (json : frame.value = some value) :
    multiplexer.handleFrame maxBytes permissions subscriptions frame =
      (multiplexer.answerValue permissions subscriptions value).bind fun later =>
        .finish (.ok (some later)) := by
  unfold StreamMultiplexer.handleFrame
  rw [if_neg (Nat.not_lt.mpr fits), json]

theorem handleFrame_none {maxBytes : Nat} {frame : ClientFrame} (fits : frame.size ≤ maxBytes)
    (unread : frame.value = none) :
    multiplexer.handleFrame maxBytes permissions subscriptions frame =
      .finish (.ok (some subscriptions)) := by
  unfold StreamMultiplexer.handleFrame
  rw [if_neg (Nat.not_lt.mpr fits), unread]

/-- A turn over a value that is asked for nothing it does not have. -/
theorem handleFrame_meets {maxBytes : Nat} {frame : ClientFrame} {value : JsonValue}
    (fits : frame.size ≤ maxBytes) (json : frame.value = some value)
    (clear : ¬ Trips multiplexer permissions subscriptions value) :
    Meets serving (fun outcome last => ∃ reply later, outcome = .ok (some later) ∧
      last.2 = state.2 ++ [reply] ∧ (reply.response.isError = true → later = subscriptions)) state
      (multiplexer.handleFrame maxBytes permissions subscriptions frame) := by
  rw [handleFrame_some fits json]
  refine (answerValue_meets clear).bind (fun later last told => ?_) fun error last told => ?_
  · obtain ⟨reply, _, same, told⟩ := told
    obtain rfl := Except.ok.inj same
    exact ⟨reply, later, rfl, told⟩
  · obtain ⟨_, _, same, -⟩ := told
    cases same

/-- **One answer to every frame.**  A frame within the limit is answered once, and the loop goes on,
exactly when `json.loads` reads it and no value of it is asked for what it does not have. -/
theorem frame_answered_iff {maxBytes : Nat} {frame : ClientFrame} (fits : frame.size ≤ maxBytes) :
    AnsweredOnce (multiplexer.handleFrame maxBytes permissions subscriptions frame) subscriptions ↔
      ∃ value, frame.value = some value ∧
        ¬ Trips multiplexer permissions subscriptions value := by
  constructor
  · intro answered
    let fresh : Registration := ⟨fun _ => false, fun _ _ => ∅, none, [], [], []⟩
    cases json : frame.value with
    | none =>
        rw [handleFrame_none fits json] at answered
        obtain ⟨reply, later, -, told, -⟩ := (answered fresh []).2 _ _ .finish
        cases told
    | some value =>
        refine ⟨value, rfl, fun trips => ?_⟩
        rw [handleFrame_some fits json] at answered
        obtain ⟨error, last, raised⟩ : ∃ error last, Ends serving (fresh, [])
            (multiplexer.answerValue permissions subscriptions value) (.error error) last :=
          answerValue_raises trips
        obtain ⟨reply, later, same, -⟩ := (answered fresh []).2 _ _ raised.bind_raised
        cases same
  · rintro ⟨value, json, clear⟩ record sent
    exact ⟨Ends.exists_of_answered _ serving_answered, fun outcome last ends =>
      ends.meets (handleFrame_meets fits json clear)⟩

omit [Unicode] [Lowercase] [Rendering] in
/-- A ping is answered. -/
theorem ping_is_answered : @AnsweredOnce
    (@StreamMultiplexer.handleFrame asciiUnicode asciiLowercase ⟨fun _ => ""⟩
      ⟨[], List.nodup_nil, true⟩ 65536 (some ⟨[], [], 50, 500⟩) ∅
        ⟨17, some (.dict [("action", .string "ping")])⟩) ∅ := by
  let _ := asciiUnicode
  let _ := asciiLowercase
  let _ : Rendering := ⟨fun _ => ""⟩
  refine (frame_answered_iff (by decide)).mpr ⟨_, rfl, fun trips => ?_⟩
  cases trips with
  | topLevel plain => exact plain _ rfl
  | subscribe action | subscribeStream action | unsubscribe action | unsubscribeStream action =>
      simp [FrameFields.action, FrameFields.field] at action

omit [Unicode] [Lowercase] [Rendering] in
/-- An empty list is no message. -/
theorem list_is_not_answered : ¬ @AnsweredOnce
    (@StreamMultiplexer.handleFrame asciiUnicode asciiLowercase ⟨fun _ => ""⟩
      ⟨[], List.nodup_nil, true⟩ 65536 (some ⟨[], [], 50, 500⟩) ∅
        ⟨2, some (.list [])⟩) ∅ := by
  intro answered
  let fresh : Registration := ⟨fun _ => false, fun _ _ => ∅, none, [], [], []⟩
  obtain ⟨reply, later, raised, -⟩ := (answered fresh []).2 (.error .attributeError) _ .finish
  cases raised

/-! ## The loop -/

/-- Everything but the wait for the next frame. -/
abbrev WithinTurn (command : FrameCommand) : Prop := command ≠ .receive

omit [Unicode] [Lowercase] [Rendering] in
theorem uses_onStreams {α : Type} {handler : Handler α} : (onStreams handler).Uses WithinTurn := by
  unfold onStreams
  induction handler with
  | finish outcome => exact trivial
  | suspend command resume ih => exact ⟨nofun, fun reply => ih reply⟩

omit [Unicode] [Lowercase] [Rendering] in
theorem uses_subscribeFrameFeeds {symbols done : List String}
    {acks : List (Finset String × List StreamWarning)} {feeds : List JsonValue} :
    (multiplexer.subscribeFrameFeeds symbols done acks feeds).Uses WithinTurn := by
  induction feeds generalizing done acks with
  | nil => trivial
  | cons feed rest ih =>
      cases feed with
      | string feed =>
          refine uses_onStreams.bind fun ack => ?_
          cases ack with
          | error code message => exact uses_onStreams.bind fun errors => trivial
          | ok subscribed warnings => exact ih
      | null | bool _ | int _ | float _ | infinite _ | nan | list _ | dict _ => trivial

omit [Unicode] [Lowercase] [Rendering] in
theorem uses_subscribeFrameStreams {request : SubscriptionRequest} {feeds : List JsonValue} :
    (multiplexer.subscribeFrameStreams request feeds subscriptions).Uses WithinTurn := by
  refine ⟨nofun, fun initialized => ?_⟩
  cases initialized with
  | false => trivial
  | true =>
      refine (Uses.bind uses_subscribeFrameFeeds ?_).catching fun error => ?_
      · exact fun _ => trivial
      · split <;> trivial

omit [Unicode] [Lowercase] [Rendering] in
theorem uses_unsubscribeFrameStreams {request : SubscriptionRequest} {feeds : List JsonValue} :
    (multiplexer.unsubscribeFrameStreams request feeds subscriptions).Uses WithinTurn := by
  refine ⟨nofun, fun initialized => ?_⟩
  cases initialized with
  | false => trivial
  | true =>
      refine (Uses.bind (Uses.foldEach fun _ feed _ => ?_) ?_).catching fun error => ?_
      · cases feed with
        | string feed => exact uses_onStreams
        | null | bool _ | int _ | float _ | infinite _ | nan | list _ | dict _ => trivial
      · exact fun _ => trivial
      · split <;> trivial

omit [Unicode] [Lowercase] [Rendering] in
theorem uses_afterChecks {α : Type} {checked : Except Exit α}
    {passed : α → FrameHandler (Response × Finset String)}
    (uses : ∀ value, (passed value).Uses WithinTurn) :
    (StreamMultiplexer.afterChecks subscriptions checked passed).Uses WithinTurn := by
  unfold StreamMultiplexer.afterChecks
  split
  · exact uses _
  · trivial
  · trivial

theorem uses_handleFields :
    (multiplexer.handleFields permissions subscriptions message).Uses WithinTurn := by
  unfold StreamMultiplexer.handleFields
  split
  case h_3 =>
    refine uses_afterChecks fun (request, feeds) => ?_
    dsimp only
    split
    · exact uses_onStreams
    · exact uses_subscribeFrameStreams
  case h_4 =>
    refine uses_afterChecks fun (request, feeds) => ?_
    dsimp only
    split
    · exact uses_onStreams
    · exact uses_unsubscribeFrameStreams
  all_goals trivial

theorem uses_handleFrame {maxBytes : Nat} {frame : ClientFrame} :
    (multiplexer.handleFrame maxBytes permissions subscriptions frame).Uses WithinTurn := by
  unfold StreamMultiplexer.handleFrame
  split
  · exact ⟨nofun, fun _ => trivial⟩
  split
  · trivial
  next value json =>
    refine Uses.bind ?_ fun later => trivial
    cases value with
    | dict message =>
        refine uses_handleFields.bind fun answer => ⟨nofun, fun sent => ?_⟩
        cases sent <;> trivial
    | null | bool _ | int _ | float _ | infinite _ | nan | string _ | list _ => trivial

/-- What a loop has been given. -/
structure Received where
  frames : Nat
  /-- The connection has ended. -/
  ended : Bool

/-- The contract of a loop that is given frames of one kind. -/
def conversing (served : ClientFrame → Prop) :
    Contract FrameCommand.Reply ((Registration × List FrameReply) × Received) where
  may _ _ := True
  after command state reply next :=
    serving.after command state.1 reply next.1 ∧ match command, reply with
      | .receive, some frame => served frame ∧ next.2 = ⟨state.2.frames + 1, state.2.ended⟩
      | .receive, none => next.2 = ⟨state.2.frames, true⟩
      | _, _ => next.2 = state.2

omit [Unicode] [Lowercase] [Rendering] in
/-- A turn is given no frame. -/
theorem conversing_within {served : ClientFrame → Prop} {α : Type} {handler : FrameHandler α}
    {post : Except FrameError α → Registration × List FrameReply → Prop}
    {state : (Registration × List FrameReply) × Received} (uses : handler.Uses WithinTurn)
    (meets : Meets serving post state.1 handler) :
    Meets (conversing served) (fun outcome last => post outcome last.1 ∧ last.2 = state.2) state
      handler := by
  refine uses.through Prod.fst meets rfl fun command current within kept _ => ⟨trivial, ?_⟩
  rintro reply after ⟨moved, uncounted⟩
  refine ⟨moved, ?_⟩
  cases command with
  | receive => exact absurd rfl within
  | send _ => exact uncounted.trans kept
  | stream _ => exact uncounted.trans kept

/-- The frame fits, can be read and asks no value for what it does not have, whatever the
connection is subscribed to. -/
def Served (maxBytes : Nat) (multiplexer : StreamMultiplexer)
    (permissions : Option ClientPermissions) (frame : ClientFrame) : Prop :=
  frame.size ≤ maxBytes ∧ ∃ value, frame.value = some value ∧
    ∀ subscriptions, ¬ Trips multiplexer permissions subscriptions value

/-- **A loop answers every frame that it is given.**  While requests to the streams raise no
more than a `RuntimeError`, it raises nothing, and it takes as many frames as it may unless
the connection ends before. -/
theorem frameLoop_meets {maxBytes count : Nat}
    {state : (Registration × List FrameReply) × Received} :
    Meets (conversing (Served maxBytes multiplexer permissions))
      (fun outcome last => outcome = .ok () ∧
        last.1.2.length + state.2.frames = state.1.2.length + last.2.frames ∧
        (last.2.ended = true ∨ last.2.frames = state.2.frames + count)) state
      (multiplexer.frameLoop maxBytes permissions count subscriptions) := by
  induction count generalizing subscriptions state with
  | zero => exact ⟨rfl, rfl, .inr rfl⟩
  | succ count ih =>
      refine ⟨trivial, fun given next received => ?_⟩
      obtain ⟨same, counted⟩ := received
      cases given with
      | none => exact ⟨rfl, by rw [same, counted], .inl (by rw [counted])⟩
      | some frame =>
          obtain ⟨⟨fits, value, json, clear⟩, counted⟩ := counted
          refine (conversing_within uses_handleFrame
            (handleFrame_meets fits json (clear subscriptions))).bind
              (fun answered last ended => ?_) fun error last ended => ?_
          · obtain ⟨⟨reply, later, isSome, told, -⟩, kept⟩ := ended
            obtain rfl := Except.ok.inj isSome
            refine ih.mono fun outcome final ⟨fine, balance, taken⟩ => ⟨fine, ?_⟩
            have grown : last.1.2.length = next.1.2.length + 1 := by simp [told]
            rw [same] at grown
            rw [kept, counted] at balance taken
            dsimp only at balance taken
            exact ⟨by omega, taken.imp_right fun taken => by omega⟩
          · obtain ⟨⟨_, _, isSome, -⟩, -⟩ := ended
            cases isSome

omit [Unicode] [Lowercase] [Rendering] in
/-- Two pings are answered before the connection ends, although the loop might take three frames. -/
theorem two_pings_are_answered :
    let _ := asciiUnicode
    let _ := asciiLowercase
    let _ : Rendering := ⟨fun _ => ""⟩
    let multiplexer : StreamMultiplexer := ⟨[], List.nodup_nil, true⟩
    let permissions : Option ClientPermissions := some ⟨[], [], 50, 500⟩
    let fresh : Registration := ⟨fun _ => false, fun _ _ => ∅, none, [], [], []⟩
    ∃ last, Ends (conversing (Served 65536 multiplexer permissions)) ((fresh, []), ⟨0, false⟩)
        (multiplexer.frameLoop 65536 permissions 3 ∅) (.ok ()) last ∧
      last.2.frames = 2 ∧ last.1.2.length = 2 ∧ (last.2.ended = true ∨ last.2.frames = 3) := by
  intro _ _ _ multiplexer permissions fresh
  let ping : ClientFrame := ⟨17, some (.dict [("action", .string "ping")])⟩
  have served : Served 65536 multiplexer permissions ping := by
    refine ⟨by decide, _, rfl, fun subscriptions trips => ?_⟩
    cases trips with
    | topLevel plain => exact plain _ rfl
    | subscribe action | subscribeStream action | unsubscribe action | unsubscribeStream action =>
        simp [FrameFields.action, FrameFields.field] at action
  let pong : FrameReply := ⟨.pong, none⟩
  have session : Ends (conversing (Served 65536 multiplexer permissions)) ((fresh, []), ⟨0, false⟩)
      (multiplexer.frameLoop 65536 permissions 3 ∅) (.ok ()) ((fresh, [pong, pong]), ⟨2, true⟩) :=
    .suspend (some ping) ((fresh, []), ⟨1, false⟩) ⟨rfl, served, rfl⟩ <|
    .suspend (.ok ()) ((fresh, [pong]), ⟨1, false⟩) ⟨⟨rfl, rfl⟩, rfl⟩ <|
    .suspend (some ping) ((fresh, [pong]), ⟨2, false⟩) ⟨rfl, served, rfl⟩ <|
    .suspend (.ok ()) ((fresh, [pong, pong]), ⟨2, false⟩) ⟨⟨rfl, rfl⟩, rfl⟩ <|
    .suspend none ((fresh, [pong, pong]), ⟨2, true⟩) ⟨rfl, rfl⟩ .finish
  obtain ⟨last, ends, frames⟩ : ∃ last, Ends (conversing (Served 65536 multiplexer permissions))
      ((fresh, []), ⟨0, false⟩) (multiplexer.frameLoop 65536 permissions 3 ∅) (.ok ()) last ∧
      last.2.frames = 2 := ⟨_, session, rfl⟩
  obtain ⟨-, balance, taken⟩ := ends.meets frameLoop_meets
  exact ⟨last, ends, frames, by simpa [frames] using balance, by simpa using taken⟩

end Streaming
end DataGateway
