import DataGateway.Streaming.World

/-!
# Client operations of the multiplexer

A client subscribes to, unsubscribes from and leaves the streams through its handler.  What the
managers record for a client follows from the commands of its own handler, whatever the others do.
-/

namespace DataGateway
namespace Streaming

open Coroutine

/-- What a handler computes. -/
abbrev Handler (α : Type) := Coroutine StreamCommand.Reply StreamError α

/-- `StreamMultiplexer`, with what is fixed when it is built. -/
structure StreamMultiplexer where
  /-- The keys of `_connections`. -/
  streams : List AlpacaStreamType
  nodup : streams.Nodup
  lazyConnect : Bool

/-- The answer of `client_subscribe`. -/
inductive ClientAck
  | ok (subscribed : Finset String) (warnings : List StreamWarning)
  | error (code message : String)

/-- The symbols of all feeds of a request. -/
def requestedSymbols (requested : PerFeed (List String)) : Finset String :=
  (requested .bars ++ requested .quotes ++ requested .trades ++ requested .news).toFinset

/-- The second frame of a request, when the first one was sent. -/
def finishRequest (streamType : AlpacaStreamType) (action : FrameAction) (first : FirstFrame) :
    Handler Unit :=
  match first.ancillary with
  | none => .finish (.ok ())
  | some candidates => .suspend (.sendAncillary streamType action candidates) .finish

namespace StreamMultiplexer

/-- The streams of a gateway with SIP data that connects when a client comes. -/
def sip : StreamMultiplexer := ⟨[.stocksSip, .options, .crypto, .news], by decide, true⟩

variable (multiplexer : StreamMultiplexer)

/-- `_get_connection`. -/
def getConnection (streamType : AlpacaStreamType) : Option AlpacaStreamType :=
  if streamType ∈ multiplexer.streams then some streamType
  else if streamType.isStocks then
    [.stocksSip, .stocksIex].find? fun stocks => stocks ∈ multiplexer.streams
  else none

/-- `client_subscribe` once the connection is up. -/
def subscribeConnected (target : AlpacaStreamType) (requested : PerFeed (List String)) :
    Handler ClientAck :=
  .suspend (.subscribe target requested) fun sent =>
    (Coroutine.finish sent).bind fun first =>
      (finishRequest target .subscribe first).bind fun _ =>
        .finish (.ok (.ok (requestedSymbols requested) first.warnings))

/-- `client_subscribe`. -/
def clientSubscribe (streamType : AlpacaStreamType) (requested : PerFeed (List String)) :
    Handler ClientAck :=
  match multiplexer.getConnection streamType with
  | none =>
      .finish (.ok (.error "GW-E3002" ("Stream type not available: " ++ streamType.value)))
  | some target =>
      if multiplexer.lazyConnect then
        .suspend (.ensureConnected target) fun ready =>
          if ready then subscribeConnected target requested
          else .finish
            (.ok (.error "GW-E3003" ("Failed to connect to stream: " ++ streamType.value)))
      else subscribeConnected target requested

/-- `client_unsubscribe`, whose answer nobody reads. -/
def clientUnsubscribe (streamType : AlpacaStreamType) (requested : PerFeed (List String)) :
    Handler Unit :=
  match multiplexer.getConnection streamType with
  | none => .finish (.ok ())
  | some target =>
      .suspend (.unsubscribe target requested) fun sent =>
        (Coroutine.finish sent).bind (finishRequest target .unsubscribe)

/-- `client_disconnect`. -/
def clientDisconnect : Handler Unit :=
  forEach multiplexer.streams fun streamType =>
    .suspend (.removeClient streamType) fun sent =>
      (Coroutine.finish sent).bind (finishRequest streamType .unsubscribe)

end StreamMultiplexer

/-! ## What is recorded for a client -/

/-- What a client holds on every stream. -/
abbrev Holdings := AlpacaStreamType → PerFeed (Finset String)

namespace Holdings

/-- The symbols of a request added on a stream, if there is one. -/
def add (holdings : Holdings) (requested : PerFeed (List String)) :
    Option AlpacaStreamType → Holdings
  | none => holdings
  | some target => Function.update holdings target fun name =>
      holdings target name ∪ (requested name).toFinset

/-- The symbols of a request taken from a stream, if there is one. -/
def remove (holdings : Holdings) (requested : PerFeed (List String)) :
    Option AlpacaStreamType → Holdings
  | none => holdings
  | some target => Function.update holdings target fun name =>
      holdings target name \ (requested name).toFinset

variable {holdings : Holdings} {requested : PerFeed (List String)}
  {target : Option AlpacaStreamType}
  {streamType : AlpacaStreamType} {name : FeedName} {symbol : String}

theorem mem_add : symbol ∈ holdings.add requested target streamType name ↔
    symbol ∈ holdings streamType name ∨ target = some streamType ∧ symbol ∈ requested name := by
  cases target with
  | none => simp [add]
  | some target =>
      by_cases same : streamType = target
      · subst same
        simp [add]
      · simp [add, same, Ne.symm same]

theorem mem_remove : symbol ∈ holdings.remove requested target streamType name ↔
    symbol ∈ holdings streamType name ∧
    ¬ (target = some streamType ∧ symbol ∈ requested name) := by
  cases target with
  | none => simp [remove]
  | some target =>
      by_cases same : streamType = target
      · subst same
        simp [remove]
      · simp [remove, same, Ne.symm same]

end Holdings

/-- The command registers its client for a symbol. -/
def StreamCommand.Adds (streamType : AlpacaStreamType) (name : FeedName) (symbol : String) :
    StreamCommand → Prop
  | .subscribe target requested => target = streamType ∧ symbol ∈ requested name
  | _ => False

/-- The command takes a symbol from its client. -/
def StreamCommand.Takes (streamType : AlpacaStreamType) (name : FeedName) (symbol : String) :
    StreamCommand → Prop
  | .unsubscribe target requested => target = streamType ∧ symbol ∈ requested name
  | .removeClient target => target = streamType
  | _ => False

/-- What the world records for one client. -/
structure Registration where
  /-- The client is in the table of the stream's manager. -/
  listed : AlpacaStreamType → Bool
  held : Holdings
  received : Option ClientMessage
  responses : List Response
  asked : List AskedFor
  raised : List AlpacaStreamType

namespace Registration

/-- A send to the stream raised. -/
def addRaised (record : Registration) (streamType : AlpacaStreamType) : Registration :=
  { record with raised := streamType :: record.raised }

/-- The reply may say that a send to the stream raised. -/
def noteRaised {α : Type} (record : Registration) (streamType : AlpacaStreamType) :
    Except StreamError α → Registration
  | .ok _ => record
  | .error _ => record.addRaised streamType

/-- The client holds other symbols on one stream. -/
def setHeld (record : Registration) (streamType : AlpacaStreamType) (listed : Bool)
    (held : PerFeed (Finset String)) : Registration :=
  { record with
    listed := Function.update record.listed streamType listed
    held := Function.update record.held streamType held }

/-- The client was sent a response. -/
def respond (record : Registration) (response : Response) : Registration :=
  { record with responses := response :: record.responses }

/-- What a command of the client's own handler makes of its record. -/
def next (record : Registration) : (command : StreamCommand) → command.Reply → Registration
  | .receive, some message => { record with received := some message }
  | .sendJson response, .ok _ => record.respond response
  | .subscribe streamType requested, sent =>
      ({ record with asked := (streamType, requested) :: record.asked }.setHeld streamType true
        fun name => record.held streamType name ∪ (requested name).toFinset).noteRaised
          streamType sent
  | .unsubscribe streamType requested, sent =>
      (record.setHeld streamType (record.listed streamType) fun name =>
        record.held streamType name \ (requested name).toFinset).noteRaised streamType sent
  | .removeClient streamType, sent =>
      (record.setHeld streamType false fun _ => ∅).noteRaised streamType sent
  | .sendAncillary streamType _ _, sent => record.noteRaised streamType sent
  | _, _ => record

/-- What a command makes of the symbols that its client holds. -/
theorem mem_held_next {record : Registration} {command : StreamCommand} {reply : command.Reply}
    {streamType : AlpacaStreamType} {name : FeedName} {symbol : String} :
    symbol ∈ (record.next command reply).held streamType name ↔
      symbol ∈ record.held streamType name ∧ ¬ command.Takes streamType name symbol ∨
        command.Adds streamType name symbol := by
  have noted {α : Type} (changed : Registration) (target : AlpacaStreamType)
      (sent : Except StreamError α) : (changed.noteRaised target sent).held = changed.held := by
    cases sent <;> rfl
  cases command with
  | subscribe target requested =>
      simp only [next, noted, setHeld, StreamCommand.Takes, StreamCommand.Adds]
      by_cases same : streamType = target
      · subst same
        simp
      · simp [same, Ne.symm same]
  | unsubscribe target requested =>
      simp only [next, noted, setHeld, StreamCommand.Takes, StreamCommand.Adds]
      by_cases same : streamType = target
      · subst same
        simp
      · simp [same, Ne.symm same]
  | removeClient target =>
      simp only [next, noted, setHeld, StreamCommand.Takes, StreamCommand.Adds]
      by_cases same : streamType = target
      · subst same
        simp
      · simp [same, Ne.symm same]
  | sendAncillary target action candidates =>
      simp [next, noted, StreamCommand.Takes, StreamCommand.Adds]
  | receive => cases reply <;> simp [next, StreamCommand.Takes, StreamCommand.Adds]
  | sendJson response =>
      cases reply <;> simp [next, respond, StreamCommand.Takes, StreamCommand.Adds]
  | getMultiplexer | ensureConnected _ | getFlowFanout | producerWired | flowSubscribe _
  | flowUnsubscribe _ | flowDisconnect | highWatermark =>
      simp [next, StreamCommand.Takes, StreamCommand.Adds]

/-- Messages and responses are recorded only where they are received and sent. -/
theorem next_quiet {record : Registration} {command : StreamCommand} {reply : command.Reply}
    (receive : command ≠ .receive) (send : ∀ response, command ≠ .sendJson response) :
    (record.next command reply).received = record.received ∧
      (record.next command reply).responses = record.responses := by
  cases command with
  | receive => exact absurd rfl receive
  | sendJson response => exact absurd rfl (send response)
  | subscribe _ _ | unsubscribe _ _ | removeClient _ | sendAncillary _ _ _ =>
      cases reply <;> exact ⟨rfl, rfl⟩
  | getMultiplexer | ensureConnected _ | getFlowFanout | producerWired | flowSubscribe _
  | flowUnsubscribe _ | flowDisconnect | highWatermark => exact ⟨rfl, rfl⟩

end Registration

namespace StreamWorld

variable {Client : Type} [DecidableEq Client] {world after : StreamWorld Client}

/-- What is recorded for a client. -/
def registration (world : StreamWorld Client) (client : Client) : Registration where
  listed streamType := (world.connections streamType).subscriptions.subscriptions.contains client
  held streamType := world.held client streamType
  received := world.received client
  responses := world.responses client
  asked := world.asked client
  raised := world.raised client

@[simp]
theorem setHeld_self (record : Registration) (streamType : AlpacaStreamType) :
    record.setHeld streamType (record.listed streamType) (record.held streamType) = record := by
  simp [Registration.setHeld]

/-- What is recorded after a connection is put in place. -/
theorem registration_setConnection (streamType : AlpacaStreamType)
    (conn : UpstreamConnection Client) (client : Client) :
    (world.setConnection streamType conn).registration client =
      (world.registration client).setHeld streamType
        (conn.subscriptions.subscriptions.contains client) (conn.subscriptions.held client) := by
  have listed (other : AlpacaStreamType) :
      ((world.setConnection streamType conn).registration client).listed other =
        Function.update (world.registration client).listed streamType
          (conn.subscriptions.subscriptions.contains client) other := by
    by_cases same : other = streamType
    · subst same
      simp [registration, setConnection]
    · simp [registration, setConnection, same]
  have held (other : AlpacaStreamType) :
      ((world.setConnection streamType conn).registration client).held other =
        Function.update (world.registration client).held streamType
          (conn.subscriptions.held client) other := by
    by_cases same : other = streamType
    · subst same
      simp [registration, setConnection, StreamWorld.held]
    · simp [registration, setConnection, StreamWorld.held, same]
  unfold Registration.setHeld
  rw [← funext listed, ← funext held]
  rfl

/-- A connection that keeps its subscriptions changes nothing in the record. -/
theorem registration_setConnection_same {streamType : AlpacaStreamType}
    (conn : UpstreamConnection Client)
    (same : conn.subscriptions = (world.connections streamType).subscriptions) (client : Client) :
    (world.setConnection streamType conn).registration client = world.registration client := by
  rw [registration_setConnection, same]
  exact setHeld_self _ _

/-- What is recorded after a send. -/
theorem registration_afterSend {α : Type} (streamType : AlpacaStreamType)
    (sent : Except StreamError α × UpstreamConnection Client) (client other : Client) :
    (world.afterSend client streamType sent).2.registration other =
      let record := (world.registration other).setHeld streamType
        (sent.2.subscriptions.subscriptions.contains other) (sent.2.subscriptions.held other)
      if other = client then record.noteRaised streamType sent.1 else record := by
  have base : (world.setConnection streamType sent.2).registration other =
      (world.registration other).setHeld streamType
        (sent.2.subscriptions.subscriptions.contains other) (sent.2.subscriptions.held other) :=
    registration_setConnection streamType sent.2 other
  obtain ⟨reply, conn⟩ := sent
  dsimp only at base ⊢
  rw [← base]
  cases reply with
  | ok value =>
      split
      · rfl
      · rfl
  | error error =>
      by_cases same : other = client
      · subst same
        simp [afterSend, registration, setConnection, Registration.noteRaised,
          Registration.addRaised, StreamWorld.held]
      · simp [afterSend, registration, setConnection, StreamWorld.held, same]

variable [Unicode]

/-- What is recorded after a change of the subscriptions. -/
theorem registration_change {streamType : AlpacaStreamType} {action : FrameAction}
    {changed : PerFeed (Finset String) × SubscriptionManager Client} {failure : Option StreamError}
    {client : Client} {reply : Except StreamError FirstFrame}
    (made : world.change client streamType action changed failure = (reply, after))
    (other : Client) :
    after.registration other =
      let record := (world.registration other).setHeld streamType
        (changed.2.subscriptions.contains other) (changed.2.held other)
      if other = client then record.noteRaised streamType reply else record := by
  have kept : ∀ conn : UpstreamConnection Client, conn.subscriptions = changed.2 →
      (if noSymbols changed.1 then (.ok ⟨[], none⟩, conn)
        else conn.request streamType action changed.1 failure :
          Except StreamError FirstFrame × UpstreamConnection Client).2.subscriptions =
            changed.2 := by
    intro conn same
    split
    · exact same
    · rw [UpstreamConnection.subscriptions_request, same]
  obtain ⟨rfl, rfl⟩ : _ = reply ∧ _ = after := ⟨congrArg Prod.fst made, congrArg Prod.snd made⟩
  unfold change
  rw [registration_afterSend, kept _ rfl]
  rfl

/-- A command changes the record of the client whose handler performs it, and no other. -/
theorem registration_perform {client : Client} {command : StreamCommand} {outcome : command.Outcome}
    {reply : command.Reply} (performed : perform client command outcome world = some (reply, after))
    (other : Client) :
    after.registration other =
      if other = client then (world.registration client).next command reply
      else world.registration other := by
  cases command with
  | receive =>
      cases outcome with
      | none =>
          obtain ⟨rfl, rfl⟩ := Prod.mk.inj (Option.some.inj performed)
          split
          next same => rw [same]; rfl
          · rfl
      | some message =>
          obtain ⟨rfl, rfl⟩ := Prod.mk.inj (Option.some.inj performed)
          split
          next same =>
            subst same
            simp [registration, Registration.next, held]
          next apart => simp [registration, held, apart]
  | sendJson response =>
      cases outcome with
      | none =>
          obtain ⟨rfl, rfl⟩ := Prod.mk.inj (Option.some.inj performed)
          split
          next same =>
            subst same
            simp [registration, Registration.next, Registration.respond, held]
          next apart => simp [registration, held, apart]
      | some error =>
          obtain ⟨rfl, rfl⟩ := Prod.mk.inj (Option.some.inj performed)
          split
          next same => rw [same]; rfl
          · rfl
  | subscribe streamType requested =>
      rw [registration_change (Option.some.inj performed)]
      simp only [SubscriptionManager.contains_subscribe]
      split
      next same =>
        subst same
        unfold Registration.next
        congr 2
        · simp [registration, held]
        · simp
        · funext name
          rw [SubscriptionManager.held_subscribe, if_pos rfl]
          rfl
      next apart =>
        convert setHeld_self (world.registration other) streamType using 2
        · simp [registration, held, apart]
        · simp [registration, apart]
        · funext name
          rw [SubscriptionManager.held_subscribe, if_neg apart]
          rfl
  | unsubscribe streamType requested =>
      rw [registration_change (Option.some.inj performed)]
      simp only [SubscriptionManager.contains_unsubscribe]
      split
      next same =>
        subst same
        unfold Registration.next
        congr 2
        funext name
        rw [SubscriptionManager.held_unsubscribe, if_pos rfl]
        rfl
      next apart =>
        convert setHeld_self (world.registration other) streamType using 2
        · rfl
        · funext name
          rw [SubscriptionManager.held_unsubscribe, if_neg apart]
          rfl
  | removeClient streamType =>
      rw [registration_change (Option.some.inj performed)]
      simp only [SubscriptionManager.contains_removeClient]
      split
      next same =>
        subst same
        unfold Registration.next
        congr 2
        · simp
        · funext name
          rw [SubscriptionManager.held_removeClient, if_pos rfl]
      next apart =>
        convert setHeld_self (world.registration other) streamType using 2
        · simp [registration, apart]
        · funext name
          rw [SubscriptionManager.held_removeClient, if_neg apart]
          rfl
  | sendAncillary streamType action candidates =>
      have made := Option.some.inj performed
      obtain ⟨rfl, rfl⟩ : _ = reply ∧ _ = after :=
        ⟨congrArg Prod.fst made, congrArg Prod.snd made⟩
      rw [registration_afterSend, UpstreamConnection.subscriptions_sendAncillary]
      have same := setHeld_self (world.registration other) streamType
      split
      next own =>
        subst own
        exact congrArg (fun record => Registration.noteRaised record streamType _) same
      · exact same
  | ensureConnected streamType =>
      obtain ⟨_, made⟩ := Option.ite_none_left_eq_some.mp performed
      obtain ⟨rfl, rfl⟩ := Prod.mk.inj (Option.some.inj made)
      exact (ite_eq_right_iff.mpr fun same => by rw [same]; rfl).symm
  | getMultiplexer | getFlowFanout | producerWired | flowSubscribe _ | flowUnsubscribe _ |
      flowDisconnect
  | highWatermark =>
      obtain ⟨rfl, rfl⟩ := Prod.mk.inj (Option.some.inj performed)
      exact (ite_eq_right_iff.mpr fun same => by rw [same]; rfl).symm

/-- What happens besides the handlers changes no record. -/
theorem registration_disturb (move : StreamMove Client) (client : Client) :
    (world.disturb move).registration client = world.registration client := by
  cases move with
  | drop streamType =>
      exact registration_setConnection_same (world.connections streamType).drop rfl client
  | connect streamType =>
      simp only [disturb]
      split
      · rfl
      · exact registration_setConnection_same (world.connections streamType).connect rfl client
  | close streamType =>
      simp only [disturb]
      split
      · rfl
      · exact registration_setConnection_same (world.connections streamType).close rfl client
  | authenticate streamType failure =>
      simp only [disturb]
      split
      · exact registration_setConnection_same _
          (UpstreamConnection.subscriptions_authenticate _ _ _) client
      · rfl
  | resubscribe streamType failure =>
      simp only [disturb]
      split
      · rfl
      · exact registration_setConnection_same _
          (UpstreamConnection.subscriptions_resubscribe _ _ _ _) client
  | replayFailed other => rfl

end StreamWorld

/-! ## What the operations record -/

/-- The record of a client as a contract of its handler. -/
abbrev recording (terms : Terms StreamCommand.Reply Registration) :
    Contract StreamCommand.Reply Registration :=
  .tracking Registration.next terms

/-- The exception that comes of a request to a stream. -/
def StreamCommand.exception : (command : StreamCommand) → command.Reply → Option StreamError
  | .subscribe _ _, .error error => some error
  | .unsubscribe _ _, .error error => some error
  | .sendAncillary _ _ _, .error error => some error
  | _, _ => none

section Operations

variable (rely : (command : StreamCommand) → Registration → command.Reply → Prop)

/-- A request can bring the exception. -/
def Raises (error : StreamError) : Prop :=
  ∃ command record reply, rely command record reply ∧ command.exception reply = some error

/-- What is recorded when an operation on one stream has ended: an exception is
a send that raised. -/
def Recorded {α : Type} (streamType : AlpacaStreamType) (record : Registration)
    (outcome : Except StreamError α) (last : Registration) : Prop :=
  last = record.noteRaised streamType outcome ∧ ∀ error, outcome = .error error → Raises rely error

variable {rely} {streamType : AlpacaStreamType} {action : FrameAction} {record : Registration}

theorem finishRequest_meets {first : FirstFrame} :
    Meets (recording (.relying rely)) (Recorded rely streamType record) record
      (finishRequest streamType action first) := by
  unfold finishRequest
  split
  · exact ⟨rfl, nofun⟩
  next candidates _ =>
    refine ⟨trivial, fun sent next recorded => ⟨recorded.1, ?_⟩⟩
    rintro error rfl
    exact ⟨.sendAncillary streamType action candidates, record, .error error, recorded.2, rfl⟩

/-- An operation whose first frame was answered. -/
theorem finishSent_meets (sent : Except StreamError FirstFrame)
    (raised : ∀ error, sent = .error error → Raises rely error) :
    Meets (recording (.relying rely)) (Recorded rely streamType record)
      (record.noteRaised streamType sent)
      ((Coroutine.finish sent).bind (finishRequest streamType action)) := by
  cases sent with
  | ok first => exact finishRequest_meets
  | error error => exact ⟨rfl, fun _ same => raised _ (Except.error.inj same ▸ rfl)⟩

end Operations

section Runs

open Machine

variable {Client α : Type} [DecidableEq Client] [Unicode] {P : Policy (streaming Client)}
  {initial final : Config Client StreamCommand.Reply StreamError α (StreamWorld Client)}

/-- What the handler of a client keeps to is so in every run, whatever the other handlers are; and
so is what the commands it keeps to preserve. -/
theorem reaches_kept {terms : Terms StreamCommand.Reply Registration}
    {A : StreamWorld Client → Prop} (run : Reaches P initial final) (client : Client)
    {post : Except StreamError α → Registration → Prop}
    (relies : ∀ command outcome reply (world after : StreamWorld Client),
      P.allows client command outcome world →
      world.perform client command outcome = some (reply, after) →
      terms.rely command (world.registration client) reply)
    (keeps : ∀ i command outcome reply (world after : StreamWorld Client), A world →
      (i = client → terms.guarantee command (world.registration client)) →
      world.perform i command outcome = some (reply, after) → A after)
    (calm : ∀ move (world : StreamWorld Client), A world → A (world.disturb move))
    (start : A initial.world)
    (meets : Meets (recording terms) post (initial.world.registration client)
      (initial.tasks client)) :
    A final.world ∧
      Meets (recording terms) post (final.world.registration client) (final.tasks client) := by
  let view (world : StreamWorld Client) : Registration := world.registration client
  have still : ∀ move world, P.permits move world → view (world.disturb move) = view world :=
    fun move world _ => StreamWorld.registration_disturb move client
  refine run.tracked ?_ ?_ still keeps calm start meets
  · intro command outcome reply world after allowed performed
    refine ⟨?_, relies command outcome reply world after allowed performed⟩
    exact (StreamWorld.registration_perform performed client).trans (if_pos rfl)
  · intro other command outcome reply world after apart performed
    exact (StreamWorld.registration_perform performed client).trans (if_neg apart.symm)

/-- The rule for the record alone, when nothing is promised to the handler. -/
theorem reaches_recorded (run : Reaches P initial final) (client : Client)
    {post : Except StreamError α → Registration → Prop}
    (meets : Meets (recording .free) post (initial.world.registration client)
      (initial.tasks client)) :
    Meets (recording .free) post (final.world.registration client) (final.tasks client) :=
  (reaches_kept run client (fun _ _ _ _ _ _ _ => trivial) (fun _ _ _ _ _ _ _ _ _ => trivial)
    (fun _ _ _ => trivial) (A := fun _ => True) trivial meets).2

end Runs

end Streaming
end DataGateway
