import DataGateway.Python.OrderedDict

/-!
# Connections

`ConnectionManager`: the registered connections, the index from clients to their connections, and
the two ways to choose whom a message goes to.  The lock makes each method one step; a send that
times out reaches its connection whenever it happens.
-/

namespace DataGateway
namespace Streaming

/-- `Connection`, with the number of the object. -/
structure Connection where
  object : Nat
  client : Option String
  authenticated : Bool
  deriving DecidableEq, Repr

variable {ConnId : Type} [DecidableEq ConnId]

/-- `ConnectionManager`, with the number of connections made so far. -/
structure ConnectionManager (ConnId : Type) where
  connections : OrderedDict ConnId Connection
  clientMap : OrderedDict String (List ConnId)
  maxClients : Nat
  made : Nat

namespace ConnectionManager

/-- `ConnectionManager(max_clients)`. -/
def new (maxClients : Nat) : ConnectionManager ConnId := ⟨.empty, .empty, maxClients, 0⟩

/-- `connect`, where accepting the socket may raise. -/
def connect (manager : ConnectionManager ConnId) (connectionId : ConnId) (accepted : Bool) :
    ConnectionManager ConnId :=
  if manager.maxClients ≤ manager.connections.size then manager
  else if accepted = false then manager
  else { manager with
    connections := manager.connections.set connectionId ⟨manager.made, none, false⟩
    made := manager.made + 1 }

/-- The removal of a connection from the index. -/
def discard (clientMap : OrderedDict String (List ConnId)) (clientId : String)
    (connectionId : ConnId) : OrderedDict String (List ConnId) :=
  match clientMap.get? clientId with
  | none => clientMap
  | some ids =>
      let rest := ids.filter (· ≠ connectionId)
      if rest = [] then clientMap.erase clientId else clientMap.set clientId rest

/-- The removal of a connection from the index, where it has a client. -/
def discardOf (clientMap : OrderedDict String (List ConnId)) (client : Option String)
    (connectionId : ConnId) : OrderedDict String (List ConnId) :=
  match client with
  | none => clientMap
  | some clientId => discard clientMap clientId connectionId

/-- The addition of a connection to the index. -/
def add (clientMap : OrderedDict String (List ConnId)) (clientId : String)
    (connectionId : ConnId) : OrderedDict String (List ConnId) :=
  let ids := (clientMap.get? clientId).getD []
  clientMap.set clientId (if connectionId ∈ ids then ids else ids ++ [connectionId])

/-- `disconnect`. -/
def disconnect (manager : ConnectionManager ConnId) (connectionId : ConnId) :
    ConnectionManager ConnId :=
  { manager with
    connections := manager.connections.erase connectionId
    clientMap := discardOf manager.clientMap
      ((manager.connections.get? connectionId).bind (·.client)) connectionId }

/-- `authenticate`. -/
def authenticate (manager : ConnectionManager ConnId) (connectionId : ConnId) (clientId : String) :
    Bool × ConnectionManager ConnId :=
  match manager.connections.get? connectionId with
  | none => (false, manager)
  | some connection =>
      let oldClientId := connection.client.filter (· ≠ "")
      let clientMap := discardOf manager.clientMap oldClientId connectionId
      (true, { manager with
        connections := manager.connections.set connectionId
          { connection with client := some clientId, authenticated := true }
        clientMap := add clientMap clientId connectionId })

/-- What `_send_with_timeout` does to the connection whose send times out. -/
def sendTimeout (manager : ConnectionManager ConnId) (object : Nat) : ConnectionManager ConnId :=
  { manager with
    connections := manager.connections.mapValues fun connection =>
      if connection.object = object then { connection with authenticated := false } else connection
        }

/-- The connections that are authenticated. -/
def allTargets (manager : ConnectionManager ConnId) : List Connection :=
  (manager.connections.items.map Prod.snd).filter (·.authenticated)

/-- The authenticated ones of some connections. -/
def named (manager : ConnectionManager ConnId) (connectionIds : List ConnId) : List Connection :=
  connectionIds.filterMap fun connectionId =>
    (manager.connections.get? connectionId).filter (·.authenticated)

/-- The connections that `broadcast` sends to. -/
def broadcastTargets (manager : ConnectionManager ConnId) (clientIds : Option (List String)) :
    List Connection :=
  match clientIds.getD [] with
  | [] => manager.allTargets
  | clientIds => clientIds.flatMap fun clientId =>
      manager.named ((manager.clientMap.get? clientId).getD [])

/-- The connections that `broadcast_to_connection_ids` sends to. -/
def broadcastToConnectionIdsTargets (manager : ConnectionManager ConnId)
    (connectionIds : Option (List ConnId)) : List Connection :=
  match connectionIds.getD [] with
  | [] => manager.allTargets
  | connectionIds => manager.named connectionIds

/-- What happens to a manager. -/
inductive Step (ConnId : Type)
  | connect (connectionId : ConnId) (accepted : Bool)
  | disconnect (connectionId : ConnId)
  | authenticate (connectionId : ConnId) (clientId : String)
  | sendTimeout (object : Nat)

/-- Perform one step. -/
def apply (manager : ConnectionManager ConnId) : Step ConnId → ConnectionManager ConnId
  | .connect connectionId accepted => manager.connect connectionId accepted
  | .disconnect connectionId => manager.disconnect connectionId
  | .authenticate connectionId clientId => (manager.authenticate connectionId clientId).2
  | .sendTimeout object => manager.sendTimeout object

/-- What the callers of the manager promise: a new connection has a new id, and no client has an
empty one. -/
def Step.promised (manager : ConnectionManager ConnId) : Step ConnId → Prop
  | .connect connectionId _ => manager.connections.get? connectionId = none
  | .authenticate _ clientId => clientId ≠ ""
  | _ => True

/-- The managers that keep being used as promised. -/
inductive Reachable (maxClients : Nat) : ConnectionManager ConnId → Prop
  | new : Reachable maxClients (.new maxClients)
  | step {manager} (step : Step ConnId) : Reachable maxClients manager → step.promised manager →
      Reachable maxClients (manager.apply step)

end ConnectionManager

end Streaming
end DataGateway
