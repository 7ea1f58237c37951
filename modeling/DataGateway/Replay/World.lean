import DataGateway.Coroutine.Interleaving
import DataGateway.Replay.Redis
import DataGateway.Streaming.FlowFanout
import Mathlib.Data.Finset.Card

/-!
# The world of flow replay

The poller appends every flow event to a stream and hands it on to the connections that asked for
it; a connection that resumes is sent a range of the stream first.  Everything of the gateway itself
is lost with its process, but for the file that says that an event is missing from the stream.
-/

namespace DataGateway
namespace Replay

open Streaming (FlowFanout upper)

/-! ## What is sent -/

/-- An exception of Redis, one that the store catches as such or another one. -/
inductive Fault
  | redis (message : String)
  | other (message : String)
  deriving DecidableEq

/-- What the operations of the store raise. -/
inductive ReplayError
  | unavailable
  | fault (fault : Fault)
  | historyTrimmed (requested first : Cursor)
  | gap (cursor : Cursor)
  | limit (events : Nat)
  | noEnvelope (cursor : Cursor)
  | malformed (cursor : Cursor)
  deriving DecidableEq

/-- The text of the exception. -/
def ReplayError.message : ReplayError → String
  | .unavailable => "flow replay store is unavailable"
  | .fault (.redis message) => message
  | .fault (.other message) => message
  | .historyTrimmed requested first =>
      "requested cursor " ++ requested.text ++ " is older than retained history starting at " ++
        first.text
  | .gap cursor => "flow replay range crosses a durability gap at " ++ cursor.text
  | .limit events =>
      "flow replay exceeds safety limit of " ++ toString events ++
        " events; entries remain disabled"
  | .noEnvelope cursor => "flow replay entry " ++ cursor.text ++ " has no envelope"
  | .malformed cursor => "flow replay entry " ++ cursor.text ++ " is malformed"

/-- The `error_code` that a client is given. -/
def ReplayError.code : ReplayError → String
  | .historyTrimmed _ _ => "history_trimmed"
  | .gap _ => "durability_gap"
  | _ => "replay_failed"

/-- What a connection is sent; `after` is `none` for `$`. -/
inductive WireMessage (Envelope : Type)
  | data (cursor : Cursor) (envelope : Envelope)
  | replayBegin (after : Option Cursor) (through : Cursor)
  | replayComplete (through : Cursor)
  | replayError (after : Option Cursor) (through : Cursor) (message code : String)
  deriving DecidableEq

/-- A message with the replay that sent it, if one did. -/
structure Sent (Envelope : Type) where
  replay : Option Nat
  message : WireMessage Envelope
  deriving DecidableEq

/-- How envelopes are written to the stream and read. -/
structure EnvelopeFormat (Envelope Text : Type) where
  isEmpty : Envelope → Bool
  /-- `str(envelope.get("symbol") or "")`. -/
  symbol : Envelope → String
  /-- `orjson.dumps`, which may raise. -/
  dumps : Envelope → Option Text
  /-- `orjson.loads`, which may raise, and may give something else than a dictionary. -/
  loads : Text → Option (Option Envelope)

/-! ## State -/

/-- What `RedisFlowReplayStore` keeps in memory. -/
structure ReplayStore where
  client : Option Nat
  healthy : Bool
  reprobeNotBefore : Nat
  /-- The probe lock is held. -/
  probing : Bool
  gapPending : Bool

/-- `available`. -/
def ReplayStore.available (store : ReplayStore) : Bool := store.healthy && store.client.isSome

/-- `__init__`, with what the sentinel file says. -/
def ReplayStore.boot (sentinel : Option Bool) : ReplayStore :=
  ⟨none, false, 0, false, sentinel = some true⟩

/-- `_ReplayBarrier`, with the connection that it is for and how much that had been sent before. -/
structure Barrier (Client Envelope : Type) where
  connection : Client
  since : Nat
  symbols : List String
  after : Option Cursor
  through : Option Cursor
  buffered : List (Cursor × Envelope)
  started : Bool

/-- What happens to the events of the poller. -/
inductive StreamEvent (Envelope Text : Type)
  /-- The poller has published the event, and asks for it to be appended. -/
  | published (envelope : Envelope)
  /-- The stream stores an entry. -/
  | added (entry : Entry Text)

/-- The gateway and the stream. -/
structure ReplayWorld (ι Client Envelope Text : Type) where
  redis : RedisStream Text
  /-- Whether the sentinel file is there, when one is configured. -/
  sentinel : Option Bool
  /-- The process that runs; the ones before it are gone. -/
  process : Nat
  clock : Nat
  store : ReplayStore
  /-- How many clients have been made. -/
  clients : Nat
  flow : FlowFanout Client
  pendingReplays : Client → Option Nat
  barriers : List (Barrier Client Envelope)
  /-- What delivery tasks have yet to send. -/
  deliveries : Client → List (Cursor × Envelope)
  outbox : Client → List (Sent Envelope)
  /-- The newest first. -/
  history : List (StreamEvent Envelope Text)
  /-- How much had been trimmed when a task last inspected the stream. -/
  inspected : ι → Nat

/-! ## Commands -/

/-- What a task does at once, up to its next wait. -/
inductive ReplayCommand (Client Envelope Text : Type)
  | available
  | acquireProbe
  | probeDue
  /-- `initialize`. -/
  | initializeStore
  | releaseProbe
  | client
  | gapPending
  | setGapPending (pending : Bool)
  | markUnhealthy (client : Option Nat)
  | xadd (client : Option Nat) (fields : Fields Text)
  | xrevrange (client : Option Nat)
  | xinfoStream (client : Option Nat)
  | xrange (client : Option Nat) (after through : Cursor) (count : Nat)
  /-- The poller's own publication, before it calls `deliver`. -/
  | publish (envelope : Envelope)
  /-- `deliver` once the event is appended. -/
  | dispatch (cursor : Cursor) (envelope : Envelope)
  | subscribe (connection : Client) (symbols : List String)
  | unsubscribe (connection : Client) (symbols : List String)
  | clientDisconnect (connection : Client)
  /-- `prepare_replay` up to its first wait. -/
  | prepare (connection : Client) (symbols : List String) (after : Option Cursor)
  /-- A barrier that is still in place goes away. -/
  | withdraw (connection : Client) (barrier : Nat)
  | setThrough (barrier : Nat) (through : Cursor)
  /-- `start_pending_replay` up to its first wait. -/
  | startReplay (connection : Client)
  /-- `broadcast_to_connection_ids` of a replay. -/
  | send (connection : Client) (barrier : Nat) (message : WireMessage Envelope)
  /-- The next turn of `_flush_replay_buffer`. -/
  | takeBuffered (connection : Client) (barrier : Nat)
  /-- The end of a turn. -/
  | endTurn (connection : Client) (barrier : Nat)
  /-- A connection whose barrier is still in place is disconnected. -/
  | abandon (connection : Client) (barrier : Nat)

/-- What a probe finds under the lock. -/
inductive Probe
  | available
  | early
  | due
  deriving DecidableEq

/-- A replay that starts. -/
structure Started where
  barrier : Nat
  symbols : List String
  after : Option Cursor
  through : Cursor

/-- What the task learns. -/
@[reducible] def ReplayCommand.Reply {Client Envelope Text : Type} :
    ReplayCommand Client Envelope Text → Type
  | .available => Bool
  | .acquireProbe => Unit
  | .probeDue => Probe
  | .initializeStore => Bool
  | .releaseProbe => Unit
  | .client => Option Nat
  | .gapPending => Bool
  | .setGapPending _ => Unit
  | .markUnhealthy _ => Unit
  | .xadd _ _ => Except Fault Cursor
  | .xrevrange _ => Except Fault (Option Cursor)
  | .xinfoStream _ => Except Fault (Option Cursor)
  | .xrange _ _ _ _ => Except Fault (List (Entry Text))
  | .publish _ => Unit
  | .dispatch _ _ => Nat
  | .subscribe _ _ => Unit
  | .unsubscribe _ _ => Unit
  | .clientDisconnect _ => Unit
  | .prepare _ _ _ => Nat
  | .withdraw _ _ => Unit
  | .setThrough _ _ => Unit
  | .startReplay _ => Option Started
  | .send _ _ _ => Bool
  | .takeBuffered _ _ => Option (List (Cursor × Envelope))
  | .endTurn _ _ => Bool
  | .abandon _ _ => Unit

/-- How `XADD` ends. -/
inductive AddOutcome
  /-- Nothing is stored. -/
  | refused (fault : Fault)
  /-- The entry is stored under an id, some of the oldest are trimmed, and the reply may be lost. -/
  | stored (cursor : Cursor) (trim : Nat) (lost : Option Fault)

/-- What the surroundings decide. -/
@[reducible] def ReplayCommand.Outcome {Client Envelope Text : Type} :
    ReplayCommand Client Envelope Text → Type
  | .initializeStore => Bool
  | .setGapPending _ => Bool
  | .xadd _ _ => AddOutcome
  | .xrevrange _ => Option Fault
  | .xinfoStream _ => Option Fault
  | .xrange _ _ _ _ => Option Fault
  | .send _ _ _ => Bool
  | _ => Unit

/-! ## Performing a command -/

/-- A request that a client sends to Redis; without a client there is nothing to send it with. -/
def ask {α : Type} (client : Option Nat) (fault : Option Fault) (answer : α) : Except Fault α :=
  match client, fault with
  | none, _ => .error (.other "'NoneType' object has no attribute")
  | some _, some fault => .error fault
  | some _, none => .ok answer

theorem eq_of_ask {α : Type} {client : Option Nat} {fault : Option Fault} {answer value : α}
    (asked : ask client fault answer = .ok value) : answer = value := by
  unfold ask at asked
  split at asked <;> cases asked
  rfl

namespace ReplayWorld

variable {Job Client Envelope Text : Type} [DecidableEq Job] [DecidableEq Client] [Unicode]
variable (format : EnvelopeFormat Envelope Text)

section

variable {ι : Type}

/-- The barrier is in place for the connection. -/
abbrev InPlace (world : ReplayWorld ι Client Envelope Text) (connection : Client) (barrier : Nat) :
    Prop :=
  world.pendingReplays connection = some barrier

/-- Change one barrier. -/
def modifyBarrier (world : ReplayWorld ι Client Envelope Text) (barrier : Nat)
    (change : Barrier Client Envelope → Barrier Client Envelope) :
    ReplayWorld ι Client Envelope Text :=
  { world with barriers := world.barriers.modify barrier change }

/-- Take the barrier of a connection away. -/
def popReplay (world : ReplayWorld ι Client Envelope Text) (connection : Client) :
    ReplayWorld ι Client Envelope Text :=
  { world with pendingReplays := Function.update world.pendingReplays connection none }

/-- `FlowFanout.client_disconnect`. -/
def clientDisconnect (world : ReplayWorld ι Client Envelope Text) (connection : Client) :
    ReplayWorld ι Client Envelope Text :=
  { world.popReplay connection with flow := world.flow.clientDisconnect connection }

/-- Send a connection something. -/
def push (world : ReplayWorld ι Client Envelope Text) (connection : Client)
    (sent : Sent Envelope) : ReplayWorld ι Client Envelope Text :=
  { world with
    outbox := Function.update world.outbox connection (world.outbox connection ++ [sent]) }

/-- `deliver` once the event is appended: connections behind a barrier get it later, for the others
a delivery is scheduled. -/
def dispatch (world : ReplayWorld ι Client Envelope Text) (cursor : Cursor) (envelope : Envelope) :
    ReplayWorld ι Client Envelope Text :=
  let targets := world.flow.targets (format.symbol envelope)
  { world with
    barriers := world.barriers.mapIdx fun id barrier =>
      if barrier.connection ∈ targets ∧ world.InPlace barrier.connection id then
        { barrier with buffered := barrier.buffered ++ [(cursor, envelope)] }
      else barrier
    deliveries := fun connection =>
      if connection ∈ targets ∧ world.pendingReplays connection = none then
        world.deliveries connection ++ [(cursor, envelope)]
      else world.deliveries connection }

/-- `prepare_replay` up to its first wait. -/
def prepare (world : ReplayWorld ι Client Envelope Text) (connection : Client)
    (symbols : List String) (after : Option Cursor) : ReplayWorld ι Client Envelope Text :=
  { world with
    barriers := world.barriers ++ [⟨connection, (world.outbox connection).length,
      symbols.map upper, after, none, [], false⟩]
    pendingReplays :=
      Function.update world.pendingReplays connection (some world.barriers.length)
    flow := world.flow.subscribe connection symbols }

/-- What `start_pending_replay` finds. -/
def pendingStart (world : ReplayWorld ι Client Envelope Text) (connection : Client) :
    Option Started := do
  let id ← world.pendingReplays connection
  let barrier ← world.barriers[id]?
  let through ← barrier.through
  if barrier.started then none else some ⟨id, barrier.symbols, barrier.after, through⟩

end

/-- Perform a command of a task of the process that runs. -/
def act (world : ReplayWorld (Nat × Job) Client Envelope Text) (task : Nat × Job) :
    (command : ReplayCommand Client Envelope Text) → command.Outcome →
      Option (command.Reply × ReplayWorld (Nat × Job) Client Envelope Text)
  | .available, _ => some (world.store.available, world)
  | .acquireProbe, _ =>
      if world.store.probing then none
      else some ((), { world with store := { world.store with probing := true } })
  | .probeDue, _ =>
      if world.store.available then some (.available, world)
      else if world.clock < world.store.reprobeNotBefore then some (.early, world)
      else some (.due,
        { world with store := { world.store with reprobeNotBefore := world.clock + 5 } })
  | .initializeStore, answered =>
      some (answered,
        if answered then
          { world with
            clients := world.clients + 1
            store := { world.store with client := some world.clients, healthy := true } }
        else { world with store := { world.store with healthy := false } })
  | .releaseProbe, _ =>
      some ((), { world with store := { world.store with probing := false } })
  | .client, _ => some (world.store.client, world)
  | .gapPending, _ => some (world.store.gapPending, world)
  | .setGapPending pending, written =>
      some ((),
        { world with
          store := { world.store with gapPending := pending }
          sentinel := if written then world.sentinel.map fun _ => pending else world.sentinel })
  | .markUnhealthy client, _ =>
      some ((),
        if client = world.store.client then
          { world with store := { world.store with healthy := false } }
        else world)
  | .xadd none _, _ => some (ask none none Cursor.origin, world)
  | .xadd (some _) _, .refused fault => some (.error fault, world)
  | .xadd (some _) fields, .stored cursor trim lost =>
      let entry : Entry Text := ⟨cursor, fields, lost.isNone⟩
      (world.redis.add entry trim).map fun redis =>
        (match lost with
          | none => .ok cursor
          | some fault => .error fault,
          { world with redis := redis, history := .added entry :: world.history })
  | .xrevrange client, fault => some (ask client fault world.redis.newest, world)
  | .xinfoStream client, fault =>
      some (ask client
          (if world.redis.log = [] then some (.redis "no such key") else fault)
            world.redis.firstEntry,
        { world with inspected := Function.update world.inspected task world.redis.trimmed })
  | .xrange client after through count, fault =>
      some (ask client fault (world.redis.range after through count), world)
  | .publish envelope, _ =>
      some ((), { world with history := .published envelope :: world.history })
  | .dispatch cursor envelope, _ =>
      some ((world.flow.targets (format.symbol envelope)).card,
        world.dispatch format cursor envelope)
  | .subscribe connection symbols, _ =>
      some ((), { world with flow := world.flow.subscribe connection symbols })
  | .unsubscribe connection symbols, _ =>
      some ((),
        if FlowFanout.normalized symbols = [] then world.clientDisconnect connection
        else { world with flow := world.flow.unsubscribe connection symbols })
  | .clientDisconnect connection, _ => some ((), world.clientDisconnect connection)
  | .prepare connection symbols after, _ =>
      some (world.barriers.length, world.prepare connection symbols after)
  | .withdraw connection barrier, _ =>
      some ((), if world.InPlace connection barrier then world.popReplay connection else world)
  | .setThrough barrier through, _ =>
      some ((), world.modifyBarrier barrier fun state => { state with through := some through })
  | .startReplay connection, _ =>
      match world.pendingStart connection with
      | none => some (none, world)
      | some started =>
          some (some started,
            world.modifyBarrier started.barrier fun state => { state with started := true })
  | .send connection barrier message, sent =>
      some (sent, if sent then world.push connection ⟨some barrier, message⟩ else world)
  | .takeBuffered connection barrier, _ =>
      if world.InPlace connection barrier then
        some ((world.barriers[barrier]?).map Barrier.buffered,
          world.modifyBarrier barrier fun state => { state with buffered := [] })
      else some (none, world)
  | .endTurn connection barrier, _ =>
      if ((world.barriers[barrier]?).map Barrier.buffered).getD [] = [] then
        some (true, world.popReplay connection)
      else some (false, world)
  | .abandon connection barrier, _ =>
      some ((),
        if world.InPlace connection barrier then world.clientDisconnect connection else world)

/-- Perform a command.  The tasks of a process that is gone stand still. -/
def perform (world : ReplayWorld (Nat × Job) Client Envelope Text) (task : Nat × Job)
    (command : ReplayCommand Client Envelope Text) (outcome : command.Outcome) :
    Option (command.Reply × ReplayWorld (Nat × Job) Client Envelope Text) :=
  if task.1 = world.process then world.act format task command outcome else none

/-! ## What a command leaves alone -/

section Frames

variable {format} {world after : ReplayWorld (Nat × Job) Client Envelope Text} {task : Nat × Job}
variable {command : ReplayCommand Client Envelope Text} {outcome : command.Outcome}
variable {reply : command.Reply}

theorem act_of_perform
    (performed : world.perform format task command outcome = some (reply, after)) :
    task.1 = world.process ∧ world.act format task command outcome = some (reply, after) :=
  Option.ite_none_right_eq_some.mp performed

/-- Only `XADD` and a publication change the stream and its history. -/
theorem stream_act (performed : world.act format task command outcome = some (reply, after))
    (apart : ∀ client fields, command ≠ .xadd client fields)
    (silent : ∀ envelope, command ≠ .publish envelope) :
    after.redis = world.redis ∧ after.history = world.history := by
  cases command with
  | xadd client fields => exact absurd rfl (apart client fields)
  | publish envelope => exact absurd rfl (silent envelope)
  | acquireProbe | probeDue | startReplay _ | takeBuffered _ _ | endTurn _ _ =>
      dsimp only [act] at performed
      (repeat' split at performed) <;> cases performed <;> exact ⟨rfl, rfl⟩
  | _ =>
      cases performed
      first | exact ⟨rfl, rfl⟩ | (split <;> exact ⟨rfl, rfl⟩)

/-- `XADD` stores its entry or nothing. -/
theorem stream_xadd {client : Option Nat} {fields : Fields Text} {ended : AddOutcome}
    {answer : Except Fault Cursor}
    (performed : world.act format task (.xadd client fields) ended = some (answer, after)) :
    (∃ fault, answer = .error fault ∧ after = world) ∨
      ∃ cursor trim answered,
        world.redis.add ⟨cursor, fields, answered⟩ trim = some after.redis ∧
        after = { world with
          redis := after.redis
          history := .added ⟨cursor, fields, answered⟩ :: world.history } ∧
        if answered then answer = .ok cursor else ∃ fault, answer = .error fault := by
  cases client with
  | none =>
      cases performed
      exact .inl ⟨_, rfl, rfl⟩
  | some client =>
      cases ended with
      | refused fault =>
          cases performed
          exact .inl ⟨fault, rfl, rfl⟩
      | stored cursor trim lost =>
          obtain ⟨redis, added, same⟩ := Option.map_eq_some_iff.mp performed
          obtain ⟨told, rfl⟩ := Prod.mk.inj same
          refine .inr ⟨cursor, trim, lost.isNone, added, rfl, ?_⟩
          cases lost with
          | none => exact told.symm
          | some fault => exact ⟨fault, told.symm⟩

/-- Only the latch changes the latch and its file. -/
theorem latch_act (performed : world.act format task command outcome = some (reply, after))
    (apart : ∀ pending, command ≠ .setGapPending pending) :
    after.store.gapPending = world.store.gapPending ∧ after.sentinel = world.sentinel := by
  cases command with
  | setGapPending pending => exact absurd rfl (apart pending)
  | xadd client fields =>
      rcases stream_xadd performed with ⟨_, _, rfl⟩ | ⟨_, _, _, _, moved, _⟩
      · exact ⟨rfl, rfl⟩
      · rw [moved]
        exact ⟨rfl, rfl⟩
  | acquireProbe | probeDue | startReplay _ | takeBuffered _ _ | endTurn _ _ =>
      dsimp only [act] at performed
      (repeat' split at performed) <;> cases performed <;> exact ⟨rfl, rfl⟩
  | _ =>
      cases performed
      first | exact ⟨rfl, rfl⟩ | (split <;> exact ⟨rfl, rfl⟩)

/-- Nobody moves on to another process, and a task inspects the stream for itself. -/
theorem inspected_act (performed : world.act format task command outcome = some (reply, after)) :
    after.process = world.process ∧
      (after.inspected = world.inspected ∨
        (∃ client, command = .xinfoStream client) ∧
          after.inspected = Function.update world.inspected task world.redis.trimmed) := by
  cases command with
  | xinfoStream client =>
      cases performed
      exact ⟨rfl, .inr ⟨⟨client, rfl⟩, rfl⟩⟩
  | xadd client fields =>
      rcases stream_xadd performed with ⟨_, _, rfl⟩ | ⟨_, _, _, _, moved, _⟩
      · exact ⟨rfl, .inl rfl⟩
      · rw [moved]
        exact ⟨rfl, .inl rfl⟩
  | acquireProbe | probeDue | startReplay _ | takeBuffered _ _ | endTurn _ _ =>
      dsimp only [act] at performed
      (repeat' split at performed) <;> cases performed <;> exact ⟨rfl, .inl rfl⟩
  | _ =>
      cases performed
      first | exact ⟨rfl, .inl rfl⟩ | (split <;> exact ⟨rfl, .inl rfl⟩)

end Frames

end ReplayWorld

/-- Moves of the surroundings. -/
inductive ReplayDisturbance (Client : Type)
  | tick (elapsed : Nat)
  /-- The process ends, and another one starts. -/
  | restart
  /-- A delivery task sends a connection its message, or gives up. -/
  | deliver (connection : Client) (index : Nat) (sent : Bool)

/-- The effect of a move. -/
def ReplayWorld.disturb {ι Client Envelope Text : Type} [DecidableEq Client]
    (world : ReplayWorld ι Client Envelope Text) :
    ReplayDisturbance Client → ReplayWorld ι Client Envelope Text
  | .tick elapsed => { world with clock := world.clock + elapsed }
  | .restart =>
      { world with
        process := world.process + 1
        store := .boot world.sentinel
        flow := .initial
        pendingReplays := fun _ => none
        deliveries := fun _ => [] }
  | .deliver connection index sent =>
      match (world.deliveries connection)[index]? with
      | none => world
      | some (cursor, envelope) =>
          let rest := { world with
            deliveries := Function.update world.deliveries connection
              ((world.deliveries connection).eraseIdx index) }
          if sent then rest.push connection ⟨none, .data cursor envelope⟩ else rest

/-- The gateway with the stream, and any number of tasks. -/
def flowReplay (Job Client : Type) {Envelope Text : Type} [DecidableEq Job] [DecidableEq Client]
    [Unicode] (format : EnvelopeFormat Envelope Text) :
    Machine (Nat × Job) (@ReplayCommand.Reply Client Envelope Text)
      (ReplayWorld (Nat × Job) Client Envelope Text) where
  Outcome := ReplayCommand.Outcome
  perform task command outcome world := world.perform format task command outcome
  Disturbance := ReplayDisturbance Client
  disturb move world := world.disturb move

end Replay
end DataGateway
