import DataGateway.Python.OrderedDict
import DataGateway.Trading.BulkCancel

/-!
# Cancelling all orders of a client

`DELETE /orders` lists the open orders of the account, keeps those that carry the caller's prefix,
resolves their symbols, and runs one task for each symbol.  An order that cannot be fenced, or that
the broker reports under two symbols, is answered as an error.
-/

namespace DataGateway
namespace Trading

open Coroutine Machine

variable {ι Raw : Type}

/-! ## The listed orders -/

/-- An order id that is not a false value. -/
inductive OrderId
  /-- A text, or another value that can be the key of a dictionary. -/
  | hashable (text : String)
  /-- A list or an object. -/
  | unhashable (text : String)
  deriving DecidableEq, Repr

/-- An open order as it is listed. -/
structure OpenOrder where
  /-- `id`; `none` is a missing or false value. -/
  id : Option OrderId
  /-- `symbol` and `client_order_id`. -/
  record : BrokerRecord
  deriving DecidableEq, Repr

/-- `if not order_id`: the empty text is false too. -/
def OpenOrder.truthyId (order : OpenOrder) : Option OrderId :=
  order.id.filter (· ≠ .hashable "")

/-- What `get_orders` returned. -/
inductive Listing
  /-- A list of orders. -/
  | orders (orders : List OpenOrder)
  /-- A value of another type, by the name of its type. -/
  | malformed (type : String)
  deriving DecidableEq, Repr

/-- The orders whose `client_order_id` carries the caller's prefix. -/
def ownedOrders (clientId : String) : List OpenOrder → Except HttpError (List OpenOrder)
  | [] => .ok []
  | order :: rest => do
      let owned ← clientOrderIdMatchesOwner order.record.clientOrderId clientId
      let others ← ownedOrders clientId rest
      .ok (if owned then order :: others else others)

/-! ## The answer -/

/-- One entry of the answer. -/
inductive OrderEntry
  /-- An order without an id. -/
  | missingId
  /-- An order that cannot be fenced: the error is `_unfenceable_symbol_error`. -/
  | unfenceable (orderId : OrderId) (symbol : Option String)
  /-- What the task of its symbol reports. -/
  | fenced (result : OrderResult)
  deriving DecidableEq, Repr

/-- `entry["order_id"]`. -/
def OrderEntry.orderId : OrderEntry → Option OrderId
  | .missingId => none
  | .unfenceable orderId _ => some orderId
  | .fenced result => result.orderId.map .hashable

/-- `entry.get("cancelled")`. -/
def OrderEntry.cancelled : OrderEntry → Bool
  | .missingId | .unfenceable _ _ => false
  | .fenced result => result.cancelled

/-- The body of the answer. -/
structure BatchResponse where
  /-- `data`. -/
  data : List OrderEntry
  /-- `meta["errors"]`. -/
  errors : List OrderEntry
  /-- `meta["owned_count"]`. -/
  ownedCount : Nat
  deriving DecidableEq, Repr

/-- `meta["count"]`. -/
def BatchResponse.count (response : BatchResponse) : Nat := response.data.length

/-- The results, split into cancelled orders and errors. -/
def batchResponse (ownedCount : Nat) (results : List OrderEntry) : BatchResponse :=
  ⟨results.filter OrderEntry.cancelled, results.filter fun entry => !entry.cancelled, ownedCount⟩

/-! ## Resolving and grouping -/

/-- The variables of the loop over the owned orders. -/
structure Scan where
  /-- `unfenceable`. -/
  unfenceable : List OrderEntry
  /-- `resolved`. -/
  resolved : List (String × String)
  /-- `symbol_by_order_id`. -/
  symbolByOrderId : OrderedDict String String
  /-- `conflicting_order_ids`. -/
  conflicting : Finset String

namespace Scan

/-- Before the loop. -/
def start : Scan := ⟨[], [], .empty, ∅⟩

/-- An order is reported as unfenceable. -/
def report (scan : Scan) (entry : OrderEntry) : Scan :=
  { scan with unfenceable := scan.unfenceable ++ [entry] }

/-- An order has a symbol; `setdefault` keeps the first one. -/
def resolve (scan : Scan) (orderId symbol : String) : Scan where
  unfenceable := scan.unfenceable
  resolved := scan.resolved ++ [(orderId, symbol)]
  symbolByOrderId :=
    if scan.symbolByOrderId.contains orderId then scan.symbolByOrderId
    else scan.symbolByOrderId.set orderId symbol
  conflicting :=
    if (scan.symbolByOrderId.get? orderId).getD symbol ≠ symbol then
      insert orderId scan.conflicting
    else scan.conflicting

end Scan

/-- The variables of the loop over the resolved orders. -/
structure Grouping where
  /-- `symbol_groups`. -/
  groups : OrderedDict String (List String)
  /-- `unfenceable`. -/
  unfenceable : List OrderEntry

/-- One resolved order joins the group of its symbol, unless its id is in conflict. -/
def Grouping.add (conflicting : Finset String) (grouping : Grouping) :
    String × String → Grouping
  | (orderId, symbol) =>
      if orderId ∈ conflicting then
        { grouping with
          unfenceable := grouping.unfenceable ++ [.unfenceable (.hashable orderId) (some symbol)] }
      else
        { grouping with
          groups := grouping.groups.set symbol
            ((grouping.groups.get? symbol).getD [] ++ [orderId]) }

/-- The loop over the resolved orders. -/
def Scan.grouping (scan : Scan) : Grouping :=
  scan.resolved.foldl (Grouping.add scan.conflicting) ⟨.empty, scan.unfenceable⟩

/-! ## The tasks -/

/-- A symbol with the order ids of its group. -/
abbrev SymbolGroup := String × List String

/-- What the request and its tasks ask of their surroundings. -/
inductive BulkCommand (Raw : Type)
  /-- A command of a route. -/
  | route (command : Command Raw)
  /-- `_execute_trading_call` around `get_orders` for the open orders of the account. -/
  | listOpenOrders
  /-- `asyncio.gather` makes one task for each group. -/
  | gather (groups : List SymbolGroup)
  /-- Wait for the tasks. -/
  | join
  /-- A task starts. -/
  | begin (group : Nat)
  /-- A task ends. -/
  | settle (group : Nat) (outcome : Except PyError (List OrderResult))

/-- What a command is answered with. -/
@[reducible] def BulkCommand.Reply : BulkCommand Raw → Type
  | .route command => command.Reply
  | .listOpenOrders => Except PyError Listing
  | .gather _ | .settle _ _ => Unit
  | .join => Except PyError (List (List OrderResult))
  | .begin _ => SymbolGroup

/-- A computation of the request or of one of its tasks. -/
abbrev BulkRoute (Raw ε α : Type) := Coroutine (@BulkCommand.Reply Raw) ε α

/-- A route among the tasks of the request. -/
def Route.inBatch {ε α : Type} (route : Route Raw ε α) : BulkRoute Raw ε α :=
  route.embed .route (fun _ reply => reply) id

section Programs

variable [Unicode]

/-- One turn of the loop over the owned orders. -/
def resolveOrder (scan : Scan) (order : OpenOrder) : BulkRoute Raw PyError Scan :=
  match order.truthyId with
  | none => .finish (.ok (scan.report .missingId))
  | some orderId =>
      .suspend (.route .today) fun today =>
        match extractSymbolFromBrokerRecord today order.record, orderId with
        | .ok (some symbol), .hashable text => .finish (.ok (scan.resolve text symbol))
        -- the dictionary refuses the key
        | .ok (some _), .unhashable _ => raise (.other "unhashable type")
        | .ok none, orderId | .error _, orderId =>
            .finish (.ok (scan.report (.unfenceable orderId none)))

/-- The groups are cancelled, each in a task of its own. -/
def cancelGroups (ownedCount : Nat) (grouping : Grouping) : BulkRoute Raw PyError BatchResponse :=
  if grouping.groups.items = [] then
    .finish (.ok (batchResponse ownedCount grouping.unfenceable))
  else
    .suspend (.gather grouping.groups.items) fun _ => .suspend .join fun
      | .error error => raise error
      | .ok grouped => .finish (.ok (batchResponse ownedCount
          (grouping.unfenceable ++ grouped.flatten.map .fenced)))

/-- `cancel_all_orders`. -/
def cancelAllOrders (clientId : String) : BulkRoute Raw PyError BatchResponse :=
  .suspend .listOpenOrders fun
    | .error error => raise error
    | .ok (.malformed type) => raise (httpCoded 502 "GW-E5009"
        ("Alpaca returned a malformed response while listing orders for cancel_all_orders: " ++
          s!"expected a list, got {type}."))
    | .ok (.orders rawOrders) =>
        match ownedOrders clientId rawOrders with
        | .error error => raise (.http error)
        | .ok owned => (Route.inBatch getOrderOwnershipGuard).bind fun _ =>
            (foldEach resolveOrder Scan.start owned).bind fun scan =>
              cancelGroups owned.length scan.grouping

/-- A task of the batch: it runs `_cancel_owned_orders_for_symbol` for its group. -/
def groupTask [ClaimText Raw] (settings : Settings) (clientId : String) (group : Nat) :
    BulkRoute Raw PyError Unit :=
  .suspend (.begin group) fun (symbol, orderIds) =>
    (Route.inBatch (cancelOwnedOrdersForSymbol settings clientId symbol orderIds)).resolve
      fun outcome => .suspend (.settle group outcome) fun _ => .finish (.ok ())

end Programs

/-! ## The world around the request -/

/-- The tasks: the request, its tasks by their number, and whatever else runs. -/
inductive BulkTask (ι : Type)
  /-- The request. -/
  | handler
  /-- The task of a group. -/
  | group (index : Nat)
  /-- Another computation of the gateway. -/
  | other (task : ι)
  deriving DecidableEq

/-- The shared state. -/
structure BulkWorld (ι Raw : Type) where
  /-- The stores, the broker calls and their history. -/
  gateway : World (BulkTask ι) Raw
  /-- What the listing of the open orders ends in. -/
  listing : Except PyError Listing
  /-- The groups the request has made tasks for. -/
  groups : Option (List SymbolGroup)
  /-- The tasks that have ended, in the order of their ends. -/
  settled : List (Nat × Except PyError (List OrderResult))

/-- The exception in which a task ended. -/
def raisedBy {α : Type} : Except PyError α → Option PyError
  | .error error => some error
  | .ok _ => none

/-- `gather` ends with the first exception, or with all results once there are all. -/
def BulkWorld.joined (world : BulkWorld ι Raw) :
    Option (Except PyError (List (List OrderResult))) :=
  match world.settled.findSome? fun (_, outcome) => raisedBy outcome with
  | some error => some (.error error)
  | none => world.groups.bind fun groups =>
      ((List.range groups.length).mapM fun index =>
        (world.settled.lookup index).bind Except.toOption).map .ok

/-- What is left open when a command is performed. -/
@[reducible] def BulkCommand.Outcome : BulkCommand Raw → Type
  | .route command => command.Outcome
  | .listOpenOrders | .gather _ | .join | .begin _ | .settle _ _ => Unit

section Performing

variable [DecidableEq ι] [DecidableEq Raw] [ClaimText Raw]

/-- Perform one command. -/
def performBulk (task : BulkTask ι) : (command : BulkCommand Raw) → command.Outcome →
    BulkWorld ι Raw → Option (command.Reply × BulkWorld ι Raw)
  | .route command, outcome, world =>
      (performCommand task command outcome world.gateway).map fun result =>
        (result.1, { world with gateway := result.2 })
  | .listOpenOrders, _, world => some (world.listing, world)
  | .gather groups, _, world => some ((), { world with groups := some groups })
  | .join, _, world => world.joined.map fun results => (results, world)
  | .begin index, _, world => (world.groups.bind (·[index]?)).map fun group => (group, world)
  | .settle index outcome, _, world =>
      some ((), { world with settled := world.settled ++ [(index, outcome)] })

/-- The machine that runs the request, its tasks and everything else. -/
def bulkGateway : Machine (BulkTask ι) (@BulkCommand.Reply Raw) (BulkWorld ι Raw) where
  Outcome := BulkCommand.Outcome
  perform := performBulk
  Disturbance := Disturbance (BulkTask ι)
  disturb move world := { world with gateway := Disturbance.apply move world.gateway }

/-- The request among other computations; only the request answers. -/
def bulkTasks [Unicode] (settings : Settings) (clientId : String)
    (others : ι → Route Raw PyError Unit) :
    BulkTask ι → BulkRoute Raw PyError (Option BatchResponse)
  | .handler => (cancelAllOrders clientId).bind fun response => .finish (.ok (some response))
  | .group index => (groupTask settings clientId index).bind fun _ => .finish (.ok none)
  | .other task => (Route.inBatch (others task)).bind fun _ => .finish (.ok none)

/-- The request before it runs. -/
def cancelling [Unicode] (settings : Settings) (clientId : String)
    (others : ι → Route Raw PyError Unit) (listing : Except PyError Listing)
    (cells : String → Cell Raw) (issued : List Uuid) :
    Config (BulkTask ι) (@BulkCommand.Reply Raw) PyError (Option BatchResponse)
      (BulkWorld ι Raw) :=
  ⟨⟨⟨cells, issued, [], []⟩, listing, none, []⟩, bulkTasks settings clientId others⟩

end Performing

end Trading
end DataGateway
