import DataGateway.Streaming.Multiplexer
import Mathlib.Data.Finset.Sort
import Mathlib.Data.String.Basic

/-!
# Option capture

`OptionCaptureService` takes a snapshot of every symbol in each cycle and then brings its
subscriptions in line with the contracts of the latest snapshots.  It is one client of the
multiplexer among others, and compares what it wants with its own record of what it has.
-/

namespace DataGateway
namespace Capture

open Coroutine Machine Streaming

/-- `_ws_event_counts`. -/
structure WsEventCounts where
  subscribeCalls : Nat
  unsubscribeCalls : Nat
  contractsAdded : Nat
  contractsRemoved : Nat

/-- `OptionCaptureService`, as far as subscriptions depend on it. -/
structure OptionCaptureService where
  symbolContracts : OrderedDict String (Finset String)
  subscribedContracts : Finset String
  wsEventCounts : WsEventCounts

/-- `sorted`. -/
def sorted (contracts : Finset String) : List String := contracts.sort (· ≤ ·)

@[simp]
theorem toFinset_sorted (contracts : Finset String) : (sorted contracts).toFinset = contracts :=
  Finset.sort_toFinset _ _

@[simp]
theorem mem_sorted {contracts : Finset String} {contract : String} :
    contract ∈ sorted contracts ↔ contract ∈ contracts := Finset.mem_sort _

namespace OptionCaptureService

/-- Before the first cycle. -/
def initial : OptionCaptureService := ⟨.empty, ∅, ⟨0, 0, 0, 0⟩⟩

/-- The contracts of the latest snapshots. -/
def desiredContracts (service : OptionCaptureService) : Finset String :=
  service.symbolContracts.items.foldl (fun desired item => desired ∪ item.2) ∅

def toAdd (service : OptionCaptureService) : List String :=
  sorted (service.desiredContracts \ service.subscribedContracts)

def toRemove (service : OptionCaptureService) : List String :=
  sorted (service.subscribedContracts \ service.desiredContracts)

/-- What is recorded of a symbol's snapshot; a snapshot that failed leaves the
contracts as they are. -/
def recordSnapshot (service : OptionCaptureService) (symbol : String) :
    Option (Finset String) → OptionCaptureService
  | none => service
  | some contracts =>
      { service with symbolContracts := service.symbolContracts.set symbol contracts }

/-- What is recorded after `client_subscribe`. -/
def noteSubscribed (service : OptionCaptureService) (added : List String) : OptionCaptureService :=
  { service with
    subscribedContracts := service.subscribedContracts ∪ added.toFinset
    wsEventCounts := { service.wsEventCounts with
      subscribeCalls := service.wsEventCounts.subscribeCalls + 1
      contractsAdded := service.wsEventCounts.contractsAdded + added.length } }

/-- What is recorded after `client_unsubscribe`. -/
def noteUnsubscribed (service : OptionCaptureService) (removed : List String) :
    OptionCaptureService :=
  { service with
    subscribedContracts := service.subscribedContracts \ removed.toFinset
    wsEventCounts := { service.wsEventCounts with
      unsubscribeCalls := service.wsEventCounts.unsubscribeCalls + 1
      contractsRemoved := service.wsEventCounts.contractsRemoved + removed.length } }

end OptionCaptureService

/-! ## The cycle -/

/-- What a cycle raises. -/
inductive CaptureError
  /-- An exception of a sink. -/
  | publish
  /-- `option_capture_subscribe_failed` with the code and the message of the answer. -/
  | subscribeFailed (code message : String)
  /-- An exception of the multiplexer. -/
  | stream (error : StreamError)

/-- What the service does at once, up to its next wait. -/
inductive CaptureCommand
  /-- `is_market_open`. -/
  | marketOpen
  /-- Fetch and process the snapshot of a symbol. -/
  | captureSymbol (symbol : String)
  /-- `_publish_envelopes`. -/
  | publish
  /-- What there is to add and to remove. -/
  | compare
  /-- A command of a call of the multiplexer. -/
  | stream (command : StreamCommand)
  | noteSubscribed (added : List String)
  | noteUnsubscribed (removed : List String)
  /-- `_reconcile_ws_subscriptions` returns. -/
  | reconciled

/-- What the service learns. -/
@[reducible] def CaptureCommand.Reply : CaptureCommand → Type
  | .marketOpen => Bool
  | .captureSymbol _ => Option (Finset String)
  | .publish => Option Nat
  | .compare => List String × List String
  | .stream command => command.Reply
  | .noteSubscribed _ => Unit
  | .noteUnsubscribed _ => Unit
  | .reconciled => Unit

/-- What the surroundings decide. -/
@[reducible] def CaptureCommand.Outcome : CaptureCommand → Type
  | .marketOpen => Bool
  | .captureSymbol _ => Option (Finset String)
  | .publish => Option Nat
  | .compare => Unit
  | .stream command => command.Outcome
  | .noteSubscribed _ => Unit
  | .noteUnsubscribed _ => Unit
  | .reconciled => Unit

/-- What the service computes. -/
abbrev Capturing (α : Type) := Coroutine CaptureCommand.Reply CaptureError α

/-- `CaptureCycleSummary`. -/
structure CaptureCycleSummary where
  published : Nat
  failedSymbols : List String
  skippedMarketClosed : Bool

/-- A call of the multiplexer. -/
def callMultiplexer {α : Type} (call : Handler α) : Capturing α :=
  call.embed .stream (fun _ reply => reply) .stream

/-- The same contracts for quotes and trades. -/
def tape (contracts : List String) : PerFeed (List String)
  | .quotes | .trades => contracts
  | .bars | .news => []

section Cycle

variable (multiplexer : StreamMultiplexer)

/-- Subscribe to the contracts that are missing. -/
def addContracts (added : List String) : Capturing Unit :=
  if added = [] then .finish (.ok ())
  else (callMultiplexer (multiplexer.clientSubscribe .options (tape added))).bind fun
    | .ok _ _ => .suspend (.noteSubscribed added) fun _ => .finish (.ok ())
    | .error code message => raise (.subscribeFailed code message)

/-- Unsubscribe from the contracts that are not wanted any more; the answer is always "ok". -/
def removeContracts (removed : List String) : Capturing Unit :=
  if removed = [] then .finish (.ok ())
  else (callMultiplexer (multiplexer.clientUnsubscribe .options (tape removed))).bind fun _ =>
    .suspend (.noteUnsubscribed removed) fun _ => .finish (.ok ())

/-- `_reconcile_ws_subscriptions`. -/
def reconcileWsSubscriptions : Capturing Unit :=
  .suspend .compare fun (added, removed) =>
    (addContracts multiplexer added).bind fun _ =>
      (removeContracts multiplexer removed).bind fun _ =>
        .suspend .reconciled fun _ => .finish (.ok ())

/-- The symbols whose snapshot failed. -/
def captureSymbols (symbols : List String) : Capturing (List String) :=
  foldEach (fun failed symbol => .suspend (.captureSymbol symbol) fun captured =>
    .finish (.ok (if captured.isSome then failed else failed ++ [symbol]))) [] symbols

variable (symbols : List String) (websocketEnabled : Bool)

/-- `run_cycle`. -/
def runCycle : Capturing CaptureCycleSummary :=
  .suspend .marketOpen fun marketOpen =>
    if marketOpen then
      (captureSymbols symbols).bind fun failed =>
        .suspend .publish fun
          | none => raise .publish
          | some published =>
              (if websocketEnabled then reconcileWsSubscriptions multiplexer
                else .finish (.ok ())).bind fun _ =>
                .finish (.ok ⟨published, failed, false⟩)
    else .finish (.ok ⟨0, [], true⟩)

/-- The first cycles of `_run_loop`, which goes on after an exception. -/
def runLoop : Nat → Capturing Unit
  | 0 => .finish (.ok ())
  | cycles + 1 => (runCycle multiplexer symbols websocketEnabled).resolve fun _ => runLoop cycles

end Cycle

/-! ## The service among the clients -/

/-- What the service and the multiplexer had when a reconciliation began. -/
structure Comparison where
  service : OptionCaptureService
  registered : PerFeed (Finset String)

/-- A reconciliation that returned: what there was when it began, what is registered after it, and
the sends of the service that have raised so far. -/
structure Reconciliation where
  before : Comparison
  service : OptionCaptureService
  registered : PerFeed (Finset String)
  raised : List AlpacaStreamType

variable {Client : Type} [DecidableEq Client]

/-- The streams and the service, with a record of the reconciliations that returned. -/
structure CaptureWorld (Client : Type) [DecidableEq Client] where
  stream : StreamWorld Client
  service : OptionCaptureService
  comparison : Option Comparison
  reconciliations : List Reconciliation

namespace CaptureWorld

def initial : CaptureWorld Client := ⟨.initial, .initial, none, []⟩

variable [Unicode]

/-- Perform a command of the service, whose client id is this. -/
def perform (captureClient : Client) : (command : CaptureCommand) → command.Outcome →
    CaptureWorld Client → Option (command.Reply × CaptureWorld Client)
  | .marketOpen, isOpen, world => some (isOpen, world)
  | .captureSymbol symbol, contracts, world =>
      some (contracts, { world with service := world.service.recordSnapshot symbol contracts })
  | .publish, published, world => some (published, world)
  | .compare, _, world =>
      some ((world.service.toAdd, world.service.toRemove),
        { world with
          comparison := some ⟨world.service, world.stream.held captureClient .options⟩ })
  | .stream command, outcome, world =>
      (world.stream.perform captureClient command outcome).map fun performed =>
        (performed.1, { world with stream := performed.2 })
  | .noteSubscribed added, _, world =>
      some ((), { world with service := world.service.noteSubscribed added })
  | .noteUnsubscribed removed, _, world =>
      some ((), { world with service := world.service.noteUnsubscribed removed })
  | .reconciled, _, world =>
      some ((), { world with
        reconciliations := match world.comparison with
          | none => world.reconciliations
          | some before =>
              ⟨before, world.service, world.stream.held captureClient .options,
                world.stream.raised captureClient⟩ :: world.reconciliations })

end CaptureWorld

/-- What happens besides the service. -/
inductive CaptureMove (Client : Type)
  /-- A handler of another client performs a command. -/
  | other (client : Client) (command : StreamCommand) (outcome : command.Outcome)
  | stream (move : StreamMove Client)

/-- What a move does; no other client has the id of the service. -/
def CaptureWorld.disturb [Unicode] (captureClient : Client) :
    CaptureMove Client → CaptureWorld Client → CaptureWorld Client
  | .other client command outcome, world =>
      if client = captureClient then world
      else match world.stream.perform client command outcome with
        | some (_, after) => { world with stream := after }
        | none => world
  | .stream move, world => { world with stream := world.stream.disturb move }

/-- The service among the other clients of the multiplexer. -/
@[reducible] def optionCapture [Unicode] (captureClient : Client) :
    Machine Unit CaptureCommand.Reply (CaptureWorld Client) where
  Outcome := CaptureCommand.Outcome
  perform _ := CaptureWorld.perform captureClient
  Disturbance := CaptureMove Client
  disturb := CaptureWorld.disturb captureClient

/-- The service before its first cycle. -/
def capturing (multiplexer : StreamMultiplexer) (symbols : List String) (websocketEnabled : Bool)
    (cycles : Nat) : Config Unit CaptureCommand.Reply CaptureError Unit (CaptureWorld Client) where
  world := .initial
  tasks _ := runLoop multiplexer symbols websocketEnabled cycles

end Capture
end DataGateway
