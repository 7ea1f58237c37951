import DataGateway.Coroutine.Interleaving
import DataGateway.Symbology.Resolver
import DataGateway.Trading.Claim

/-!
# The world around the trading routes

Every point at which a route waits, or reads something it does not compute, is a command.  The
machine performs one command at a time: store commands act on the cell of their symbol, broker
calls are answered in any way the broker or the network can, and the history records every command
with its reply and the cells around it.
-/

namespace DataGateway
namespace Trading

open Symbology

/-! ## Commands and replies -/

/-- A record of the broker, reduced to the fields that reconciliation reads; a field that is not a
text is `none`. -/
structure BrokerRecord where
  /-- `symbol`. -/
  symbol : Option String
  /-- `client_order_id`. -/
  clientOrderId : Option String
  deriving DecidableEq, Repr

/-- A call that changes broker state. -/
structure BrokerWrite where
  /-- The SDK method. -/
  operation : String
  /-- The fenced symbol. -/
  symbol : String
  /-- The order it acts on, if any. -/
  orderId : Option String
  /-- The idempotency key it carries, if any. -/
  clientOrderId : Option String
  deriving DecidableEq, Repr

/-- The reply to a store command.  A lost reply does not tell whether the command ran. -/
inductive StoreReply (α : Type)
  /-- The store answered. -/
  | served (value : α)
  /-- The client raised. -/
  | failed
  /-- The waiting task was cancelled. -/
  | cancelled
  deriving DecidableEq, Repr

/-- The end of the wait for an SDK call. -/
inductive SdkReply (α : Type)
  /-- The call returned. -/
  | returned (value : α)
  /-- The call raised. -/
  | raised (error : BrokerError)
  /-- The wait timed out while the call goes on. -/
  | timedOut
  /-- The waiting task was cancelled while the call goes on. -/
  | cancelled
  deriving DecidableEq, Repr

/-- The outcome of `require_provider_rate_limit`. -/
inductive RateReply
  /-- A slot was acquired. -/
  | granted
  /-- The limit was exceeded for too long. -/
  | exceeded
  /-- The limiter raised another exception. -/
  | raised (message : String)
  /-- The waiting task was cancelled. -/
  | cancelled
  deriving DecidableEq, Repr

/-- The outcome of waiting for the upstream permit. -/
inductive PermitReply
  /-- The permit was taken. -/
  | granted
  /-- The waiting task was cancelled. -/
  | cancelled
  deriving DecidableEq, Repr

/-- What a route asks of its surroundings. -/
inductive Command (Raw : Type)
  /-- Run a store command on a symbol's keys. -/
  | store (symbol : String) (op : StoreOp Raw)
  /-- `GET` the claim of a symbol. -/
  | getClaim (symbol : String)
  /-- `uuid.uuid4()`. -/
  | uuid4
  /-- `datetime.now(UTC).isoformat()`. -/
  | utcnow
  /-- `datetime.now(UTC)` as the symbol resolver reads it. -/
  | today
  /-- `get_order_ownership_guard()`: whether the store is configured. -/
  | ownershipGuard
  /-- `registry.get("alpaca")`: whether the provider is there. -/
  | provider
  /-- `require_provider_rate_limit("alpaca")`. -/
  | rateLimit
  /-- The upstream semaphore. -/
  | permit
  /-- `sem.locked()` of the in-flight cap. -/
  | inflightFull
  /-- `get_orders` for the open orders of a symbol. -/
  | getOrders (symbol : String)
  /-- `get_positions`. -/
  | getPositions
  /-- `get_order`. -/
  | getOrder (orderId : String)
  /-- Hand a write to the executor. -/
  | submit (write : BrokerWrite)
  /-- Wait for the write. -/
  | awaitReply (write : BrokerWrite)
  deriving DecidableEq

variable {ι Raw : Type}

/-- The copy of a claim that a freeze writes back. -/
def Command.frozenCopy : Command Raw → Option (String × Raw)
  | .store symbol (.setClaim raw) => some (symbol, raw)
  | _ => none

/-- What a command is answered with. -/
abbrev Command.Reply : Command Raw → Type
  | .store _ _ => StoreReply Bool
  | .getClaim _ => StoreReply (Option Raw)
  | .uuid4 => Uuid
  | .utcnow => String
  | .today => Date
  | .ownershipGuard | .provider | .inflightFull => Bool
  | .rateLimit => RateReply
  | .permit => PermitReply
  | .getOrders _ | .getPositions => SdkReply (Option (List BrokerRecord))
  | .getOrder _ => SdkReply BrokerRecord
  | .submit _ => Unit
  | .awaitReply _ => SdkReply String

/-- A computation of the gateway. -/
abbrev Route (Raw ε α : Type) := Coroutine (@Command.Reply Raw) ε α

/-! ## The world -/

/-- One performed command. -/
structure Event (ι Raw : Type) where
  /-- The task that performed it. -/
  actor : ι
  /-- The command. -/
  command : Command Raw
  /-- Its reply. -/
  reply : command.Reply
  /-- The cells before it. -/
  before : String → Cell Raw
  /-- The cells after it. -/
  after : String → Cell Raw

/-- The shared state. -/
structure World (ι Raw : Type) where
  /-- The store's keys for every symbol. -/
  cells : String → Cell Raw
  /-- The identifiers handed out so far. -/
  issued : List Uuid
  /-- Broker writes that the executor has not finished, with the task that submitted them. -/
  running : List (ι × BrokerWrite)
  /-- Everything performed so far, the newest first. -/
  history : List (Event ι Raw)

/-- Add a performed command to the history. -/
def World.record (world : World ι Raw) (actor : ι) (command : Command Raw) (reply : command.Reply)
    (cells : String → Cell Raw) : World ι Raw :=
  { world with
    cells := cells
    history := ⟨actor, command, reply, world.cells, cells⟩ :: world.history }

/-- How the store treats a command: it answers, or the reply is lost before or after the command
ran. -/
inductive StoreOutcome
  /-- The command runs and its reply arrives. -/
  | served
  /-- The client raises. -/
  | failed (executed : Bool)
  /-- The waiting task is cancelled. -/
  | cancelled (executed : Bool)
  deriving DecidableEq, Repr

/-- What is left open when a command is performed. -/
abbrev Command.Outcome : Command Raw → Type
  | .store _ _ | .getClaim _ => StoreOutcome
  | .uuid4 => Uuid
  | .utcnow => String
  | .today => Date
  | .ownershipGuard | .provider | .inflightFull => Bool
  | .rateLimit => RateReply
  | .permit => PermitReply
  | .getOrders _ | .getPositions => SdkReply (Option (List BrokerRecord))
  | .getOrder _ => SdkReply BrokerRecord
  | .submit _ => Unit
  | .awaitReply _ => SdkReply String

/-- The call has ended in the executor. -/
def SdkReply.ended {α : Type} : SdkReply α → Bool
  | .returned _ | .raised _ => true
  | .timedOut | .cancelled => false

/-- Moves of the environment. -/
inductive Disturbance (ι : Type)
  /-- The fence lease of a symbol expires. -/
  | lapse (symbol : String)
  /-- A write that nobody waits for any more comes to its end. -/
  | settle (actor : ι) (write : BrokerWrite)

section Performing

variable [DecidableEq ι] [DecidableEq Raw] [ClaimText Raw]

/-- Perform a store command on the cells. -/
def performStore (symbol : String) (op : StoreOp Raw) (outcome : StoreOutcome)
    (cells : String → Cell Raw) : StoreReply Bool × (String → Cell Raw) :=
  match op.apply (cells symbol), outcome with
  | some (ok, cell), .served => (.served ok, Function.update cells symbol cell)
  | none, .served => (.failed, cells)
  | result, .failed executed =>
      (.failed, if executed then result.elim cells fun (_, cell) =>
        Function.update cells symbol cell else cells)
  | result, .cancelled executed =>
      (.cancelled, if executed then result.elim cells fun (_, cell) =>
        Function.update cells symbol cell else cells)

/-- Read a claim key. -/
def performGet (outcome : StoreOutcome) (cell : Cell Raw) : StoreReply (Option Raw) :=
  match outcome with
  | .served => .served cell.claim
  | .failed _ => .failed
  | .cancelled _ => .cancelled

/-- Perform one command.  A fresh identifier is one that was never handed out before. -/
def performCommand (i : ι) : (command : Command Raw) → command.Outcome → World ι Raw →
    Option (command.Reply × World ι Raw)
  | .store symbol op, outcome, world =>
      let (reply, cells) := performStore symbol op outcome world.cells
      some (reply, world.record i (.store symbol op) reply cells)
  | .getClaim symbol, outcome, world =>
      let reply := performGet outcome (world.cells symbol)
      some (reply, world.record i (.getClaim symbol) reply world.cells)
  | .uuid4, uuid, world =>
      if uuid ∈ world.issued then none
      else some (uuid,
        { world.record i .uuid4 uuid world.cells with issued := uuid :: world.issued })
  | .utcnow, now, world => some (now, world.record i .utcnow now world.cells)
  | .today, date, world => some (date, world.record i .today date world.cells)
  | .ownershipGuard, found, world => some (found, world.record i .ownershipGuard found world.cells)
  | .provider, found, world => some (found, world.record i .provider found world.cells)
  | .rateLimit, reply, world => some (reply, world.record i .rateLimit reply world.cells)
  | .permit, reply, world => some (reply, world.record i .permit reply world.cells)
  | .inflightFull, full, world => some (full, world.record i .inflightFull full world.cells)
  | .getOrders symbol, reply, world =>
      some (reply, world.record i (.getOrders symbol) reply world.cells)
  | .getPositions, reply, world => some (reply, world.record i .getPositions reply world.cells)
  | .getOrder orderId, reply, world =>
      some (reply, world.record i (.getOrder orderId) reply world.cells)
  | .submit write, _, world =>
      some ((), { world.record i (.submit write) () world.cells with
        running := (i, write) :: world.running })
  | .awaitReply write, reply, world =>
      some (reply, { world.record i (.awaitReply write) reply world.cells with
        running := if reply.ended then world.running.erase (i, write) else world.running })

/-- The effect of a move of the environment. -/
def Disturbance.apply : Disturbance ι → World ι Raw → World ι Raw
  | .lapse symbol, world =>
      { world with
        cells := Function.update world.cells symbol { world.cells symbol with fence := none } }
  | .settle actor write, world => { world with running := world.running.erase (actor, write) }

/-- The machine that runs the routes. -/
def gateway : Machine ι (@Command.Reply Raw) (World ι Raw) where
  Outcome := Command.Outcome
  perform := performCommand
  Disturbance := Disturbance ι
  disturb := Disturbance.apply

/-! ## What a command does to the cells -/

/-- How the cells around a performed command are related. -/
inductive CellStep (before after : String → Cell Raw) : (command : Command Raw) →
    command.Reply → Prop
  /-- Commands other than store commands leave the cells alone. -/
  | other {command reply} (notStore : ∀ symbol op, command ≠ .store symbol op)
      (same : after = before) : CellStep before after command reply
  /-- A store command whose reply is lost may not have run. -/
  | unexecuted {symbol op} {reply : StoreReply Bool} (same : after = before)
      (lost : ∀ ok, reply ≠ .served ok) : CellStep before after (.store symbol op) reply
  /-- A store command that ran. -/
  | executed {symbol op ok cell} {reply : StoreReply Bool}
      (applied : StoreOp.apply op (before symbol) = some (ok, cell))
      (now : after = Function.update before symbol cell)
      (answer : ∀ value, reply = .served value → value = ok) :
      CellStep before after (.store symbol op) reply

omit [DecidableEq ι] in
theorem performStore_step {symbol : String} {op : StoreOp Raw} {outcome : StoreOutcome}
    {cells : String → Cell Raw} :
    CellStep cells (performStore symbol op outcome cells).2 (.store symbol op)
      (performStore symbol op outcome cells).1 := by
  cases applied : op.apply (cells symbol) with
  | none =>
      cases outcome <;> simp only [performStore, applied, Option.elim_none, ite_self] <;>
        exact .unexecuted rfl nofun
  | some result =>
      obtain ⟨ok, cell⟩ := result
      cases outcome with
      | served =>
          simp only [performStore, applied]
          exact .executed applied rfl fun _ eq => (StoreReply.served.inj eq).symm
      | failed executed =>
          cases executed <;> simp only [performStore, applied]
          · exact .unexecuted rfl nofun
          · exact .executed applied rfl nofun
      | cancelled executed =>
          cases executed <;> simp only [performStore, applied]
          · exact .unexecuted rfl nofun
          · exact .executed applied rfl nofun

/-- Performing a command records it, and moves the cells as the command says. -/
theorem performCommand_record {i : ι} {command : Command Raw} {outcome : command.Outcome}
    {world after : World ι Raw} {reply : command.Reply}
    (performed : performCommand i command outcome world = some (reply, after)) :
    after.history = ⟨i, command, reply, world.cells, after.cells⟩ :: world.history ∧
      CellStep world.cells after.cells command reply := by
  cases command with
  | store symbol op =>
      obtain ⟨rfl, rfl⟩ := Prod.mk.inj (Option.some.inj performed)
      exact ⟨rfl, performStore_step⟩
  | uuid4 =>
      simp only [performCommand] at performed
      split at performed
      · simp at performed
      · obtain ⟨rfl, rfl⟩ := Prod.mk.inj (Option.some.inj performed)
        exact ⟨rfl, .other nofun rfl⟩
  | _ =>
      obtain ⟨rfl, rfl⟩ := Prod.mk.inj (Option.some.inj performed)
      exact ⟨rfl, .other nofun rfl⟩

/-- What one performed command does to the claim of one symbol. -/
theorem CellStep.claim {before after : String → Cell Raw} {command : Command Raw}
    {reply : command.Reply} (step : CellStep before after command reply) (symbol : String) :
    (after symbol).claim = (before symbol).claim ∨
      ∃ op ok, command = .store symbol op ∧ ClaimEffect op (before symbol) ok (after symbol) := by
  cases step with
  | other notStore same => exact .inl (by rw [same])
  | unexecuted same lost => exact .inl (by rw [same])
  | @executed target op ok cell reply applied now answer =>
      by_cases same : symbol = target
      · subst same
        exact .inr ⟨op, ok, rfl, by simpa [now] using StoreOp.apply_claim applied⟩
      · exact .inl (by rw [now, Function.update_of_ne same])

omit [ClaimText Raw] in
/-- A claim that was read is the stored one. -/
theorem performCommand_getClaim [ClaimText Raw] {i : ι} {symbol : String} {outcome : StoreOutcome}
    {world after : World ι Raw} {raw : Option Raw}
    (performed : performCommand i (.getClaim symbol) outcome world = some (.served raw, after)) :
    raw = (world.cells symbol).claim := by
  have reply := (Prod.mk.inj (Option.some.inj performed)).1
  cases outcome with
  | served => exact (StoreReply.served.inj reply).symm
  | failed executed => cases reply
  | cancelled executed => cases reply

/-- The command took effect on the claim of the symbol. -/
def Event.Took (event : Event ι Raw) (symbol : String) : Prop :=
  (event.after symbol).claim ≠ (event.before symbol).claim

omit [DecidableEq ι] [ClaimText Raw] in
instance (event : Event ι Raw) (symbol : String) : Decidable (event.Took symbol) :=
  inferInstanceAs (Decidable (_ ≠ _))

omit [DecidableEq Raw] [ClaimText Raw] in
/-- The environment does not touch claims. -/
theorem Disturbance.claim {move : Disturbance ι} {world : World ι Raw} {symbol : String} :
    ((Disturbance.apply move world).cells symbol).claim = (world.cells symbol).claim := by
  cases move with
  | lapse target =>
      by_cases same : symbol = target
      · subst same
        simp [Disturbance.apply]
      · simp [Disturbance.apply, Function.update_of_ne same]
  | settle actor write => rfl

omit [DecidableEq Raw] [ClaimText Raw] in
theorem Disturbance.history {move : Disturbance ι} {world : World ι Raw} :
    (Disturbance.apply move world).history = world.history := by cases move <;> rfl

end Performing

/-! ## Calm surroundings -/

/-- A day for examples. -/
def newYear : Date := ⟨2026, 1, 1, by decide⟩

/-- An identifier that repeats one digit. -/
def Uuid.repeating (digit : Char) : Uuid := ⟨String.ofList (List.replicate 32 digit), by simp⟩

/-- Surroundings in which every command succeeds, with the next identifier and the open orders. -/
def calmly (uuid : Uuid) (orders : List BrokerRecord) : (command : Command Raw) → command.Outcome
  | .store _ _ | .getClaim _ => .served
  | .uuid4 => uuid
  | .utcnow => "2026-01-01T00:00:00+00:00"
  | .today => newYear
  | .ownershipGuard | .provider => true
  | .inflightFull => false
  | .rateLimit => .granted
  | .permit => .granted
  | .getOrders _ => .returned (some orders)
  | .getPositions => .returned (some [])
  | .getOrder _ => .returned (orders.headD ⟨none, none⟩)
  | .submit _ => ()
  | .awaitReply _ => .returned "accepted"

end Trading
end DataGateway
