import DataGateway.Streaming.Connections

/-!
# Whom a broadcast reaches

The index holds for each client exactly its registered connections, as long as connections have new
ids.  A list of targets that is not empty reaches exactly the connections it names.
-/

namespace DataGateway
namespace Streaming
namespace ConnectionManager

variable {ConnId : Type} [DecidableEq ConnId] {manager : ConnectionManager ConnId}
  {maxClients : Nat} {clientMap : OrderedDict String (List ConnId)} {clientId other : String}
  {connectionId id : ConnId}

/-- The connections of a client in the index. -/
def members (clientMap : OrderedDict String (List ConnId)) (clientId : String) : List ConnId :=
  (clientMap.get? clientId).getD []

/-- No client has an empty or repeating list. -/
def Tidy (clientMap : OrderedDict String (List ConnId)) : Prop :=
  ∀ clientId ids, clientMap.get? clientId = some ids → ids ≠ [] ∧ ids.Nodup

theorem mem_members_discard : id ∈ members (discard clientMap clientId connectionId) other ↔
    id ∈ members clientMap other ∧ ¬ (other = clientId ∧ id = connectionId) := by
  unfold discard members
  cases held : clientMap.get? clientId with
  | none =>
      by_cases same : other = clientId
      · subst same
        simp [held]
      · simp [same]
  | some ids =>
      dsimp only
      by_cases same : other = clientId
      · subst same
        split
        next empty =>
          have only : ∀ id ∈ ids, id = connectionId := by simpa using empty
          simpa [OrderedDict.get?_erase, held] using only id
        · simp [OrderedDict.get?_set, held]
      · split
        · simp [OrderedDict.get?_erase, same]
        · simp [OrderedDict.get?_set, same]

theorem Tidy.discard (tidy : Tidy clientMap) : Tidy (discard clientMap clientId connectionId) := by
  unfold ConnectionManager.discard
  cases held : clientMap.get? clientId with
  | none => exact tidy
  | some ids =>
      intro other found got
      dsimp only at got
      split at got
      · rw [OrderedDict.get?_erase] at got
        split at got
        · cases got
        · exact tidy other found got
      next some_ =>
        rw [OrderedDict.get?_set] at got
        split at got
        · obtain rfl := Option.some.inj got
          exact ⟨some_, (tidy clientId ids held).2.filter _⟩
        · exact tidy other found got

theorem mem_members_discardOf {client : Option String} :
    id ∈ members (discardOf clientMap client connectionId) other ↔
      id ∈ members clientMap other ∧ ¬ (client = some other ∧ id = connectionId) := by
  cases client with
  | none => simp [discardOf]
  | some clientId =>
      rw [discardOf, mem_members_discard, Option.some.injEq, eq_comm (a := clientId)]

theorem Tidy.discardOf (tidy : Tidy clientMap) (client : Option String) :
    Tidy (discardOf clientMap client connectionId) := by
  cases client with
  | none => exact tidy
  | some clientId => exact tidy.discard

theorem mem_members_add : id ∈ members (add clientMap clientId connectionId) other ↔
    id ∈ members clientMap other ∨ other = clientId ∧ id = connectionId := by
  unfold add members
  rw [OrderedDict.get?_set]
  by_cases same : other = clientId
  · subst same
    simp only [if_true, Option.getD_some, true_and]
    split
    next there =>
      constructor
      · exact .inl
      · rintro (mem | rfl)
        · exact mem
        · exact there
    · simp
  · simp [same]

theorem Tidy.add (tidy : Tidy clientMap) : Tidy (add clientMap clientId connectionId) := by
  intro other found got
  unfold ConnectionManager.add at got
  rw [OrderedDict.get?_set] at got
  split at got
  · obtain rfl := Option.some.inj got
    have before : ((clientMap.get? clientId).getD []).Nodup := by
      cases held : clientMap.get? clientId with
      | none => exact List.nodup_nil
      | some ids => exact (tidy clientId ids held).2
    split
    next there => exact ⟨List.ne_nil_of_mem there, before⟩
    next absent =>
      have fresh : ∀ id ∈ (clientMap.get? clientId).getD [], id ≠ connectionId :=
        fun id mem => ne_of_mem_of_not_mem mem absent
      exact ⟨List.append_ne_nil_of_right_ne_nil _ (List.cons_ne_nil _ _),
        List.nodup_append.mpr ⟨before, List.nodup_singleton _, by simpa using fresh⟩⟩
  · exact tidy other found got

/-- The client of a connection that is registered. -/
def clientOf (manager : ConnectionManager ConnId) (id : ConnId) : Option String :=
  (manager.connections.get? id).bind (·.client)

/-- The object of a connection that is registered. -/
def objectOf (manager : ConnectionManager ConnId) (id : ConnId) : Option Nat :=
  (manager.connections.get? id).map (·.object)

theorem clientOf_connect (fresh : manager.connections.get? connectionId = none) (accepted : Bool) :
    (manager.connect connectionId accepted).clientOf id = manager.clientOf id := by
  unfold ConnectionManager.connect clientOf
  split
  · rfl
  split
  · rfl
  dsimp only
  rw [OrderedDict.get?_set]
  split
  next here => simp [here, fresh]
  · rfl

theorem clientOf_disconnect : (manager.disconnect connectionId).clientOf id =
    if id = connectionId then none else manager.clientOf id := by
  unfold ConnectionManager.disconnect clientOf
  dsimp only
  rw [OrderedDict.get?_erase]
  split <;> rfl

theorem clientOf_authenticate {connection : Connection}
    (registered : manager.connections.get? connectionId = some connection) :
    (manager.authenticate connectionId clientId).2.clientOf id =
      if id = connectionId then some clientId else manager.clientOf id := by
  unfold ConnectionManager.authenticate clientOf
  rw [registered]
  dsimp only
  rw [OrderedDict.get?_set]
  split <;> rfl

theorem clientOf_sendTimeout (object : Nat) :
    (manager.sendTimeout object).clientOf id = manager.clientOf id := by
  unfold ConnectionManager.sendTimeout clientOf
  rw [OrderedDict.get?_mapValues]
  cases manager.connections.get? id with
  | none => rfl
  | some connection =>
      dsimp only [Option.map_some, Option.bind_some]
      split <;> rfl

theorem objectOf_disconnect {object : Nat}
    (held : (manager.disconnect connectionId).objectOf id = some object) :
    manager.objectOf id = some object := by
  unfold ConnectionManager.disconnect objectOf at held
  dsimp only at held
  rw [OrderedDict.get?_erase] at held
  split at held
  · cases held
  · exact held

theorem objectOf_authenticate : (manager.authenticate connectionId clientId).2.objectOf id =
    manager.objectOf id := by
  unfold ConnectionManager.authenticate objectOf
  cases registered : manager.connections.get? connectionId with
  | none => rfl
  | some connection =>
      dsimp only
      rw [OrderedDict.get?_set]
      split
      next here => rw [here, registered, Option.map_some, Option.map_some]
      · rfl

theorem objectOf_sendTimeout (object : Nat) :
    (manager.sendTimeout object).objectOf id = manager.objectOf id := by
  unfold ConnectionManager.sendTimeout objectOf
  rw [OrderedDict.get?_mapValues]
  cases manager.connections.get? id with
  | none => rfl
  | some connection =>
      dsimp only [Option.map_some]
      split <;> rfl

/-- What holds of a manager that is used as promised. -/
structure Indexed (manager : ConnectionManager ConnId) : Prop where
  index : ∀ clientId id,
    id ∈ members manager.clientMap clientId ↔ manager.clientOf id = some clientId
  tidy : Tidy manager.clientMap
  size : manager.connections.size ≤ manager.maxClients
  named : ∀ id, manager.clientOf id ≠ some ""
  numbered : ∀ id object, manager.objectOf id = some object → object < manager.made
  apart : ∀ id id' object, manager.objectOf id = some object → manager.objectOf id' = some object →
    id = id'

theorem indexed_new : Indexed (.new maxClients : ConnectionManager ConnId) where
  index clientId id := iff_of_false List.not_mem_nil fun held => by cases held
  tidy _ _ held := by cases held
  size := Nat.zero_le _
  named _ held := by cases held
  numbered _ _ held := by cases held
  apart _ _ _ held := by cases held

theorem Indexed.connect (indexed : Indexed manager)
    (fresh : manager.connections.get? connectionId = none) (accepted : Bool) :
    Indexed (manager.connect connectionId accepted) := by
  have clients (id : ConnId) :
      (manager.connect connectionId accepted).clientOf id = manager.clientOf id :=
    clientOf_connect fresh accepted
  by_cases room : manager.maxClients ≤ manager.connections.size
  · simpa [ConnectionManager.connect, room] using indexed
  cases accepted with
  | false => simpa [ConnectionManager.connect] using indexed
  | true =>
      have grown : manager.connect connectionId true = { manager with
          connections := manager.connections.set connectionId ⟨manager.made, none, false⟩
          made := manager.made + 1 } := by
        simp [ConnectionManager.connect, room]
      have objects (id : ConnId) : (manager.connect connectionId true).objectOf id =
          if id = connectionId then some manager.made else manager.objectOf id := by
        rw [grown, objectOf, OrderedDict.get?_set]
        split <;> rfl
      refine ⟨fun clientId id => ?_, ?_, ?_, fun id => ?_, fun id object held => ?_,
        fun id id' object held held' => ?_⟩
      · rw [clients, ← indexed.index, grown]
      · exact grown ▸ indexed.tidy
      · have size := OrderedDict.size_set_le manager.connections connectionId
          ⟨manager.made, none, false⟩
        rw [grown]
        dsimp only
        omega
      · rw [clients]
        exact indexed.named id
      · rw [objects] at held
        have made : (manager.connect connectionId true).made = manager.made + 1 := by rw [grown]
        split at held
        · obtain rfl := Option.some.inj held
          omega
        · have before := indexed.numbered id object held
          omega
      · -- no registered object has the number of the new one
        rw [objects] at held held'
        split at held <;> split at held'
        next here here' => exact here.trans here'.symm
        · obtain rfl := Option.some.inj held
          exact absurd (indexed.numbered id' _ held') (Nat.lt_irrefl _)
        · obtain rfl := Option.some.inj held'
          exact absurd (indexed.numbered id _ held) (Nat.lt_irrefl _)
        · exact indexed.apart id id' object held held'

theorem Indexed.disconnect (indexed : Indexed manager) (connectionId : ConnId) :
    Indexed (manager.disconnect connectionId) where
  index clientId id := by
    have map : (manager.disconnect connectionId).clientMap =
      discardOf manager.clientMap (manager.clientOf connectionId) connectionId := rfl
    rw [map, mem_members_discardOf, indexed.index, clientOf_disconnect]
    split
    next here =>
      subst here
      simp
    next elsewhere => simp [elsewhere]
  tidy := indexed.tidy.discardOf _
  size := (List.length_filter_le _ _).trans indexed.size
  named id := by
    rw [clientOf_disconnect]
    split
    · exact (Option.some_ne_none _).symm
    · exact indexed.named id
  numbered id object held := indexed.numbered id object (objectOf_disconnect held)
  apart id id' object held held' :=
    indexed.apart id id' object (objectOf_disconnect held) (objectOf_disconnect held')

theorem Indexed.authenticate (indexed : Indexed manager) (connectionId : ConnId) {clientId : String}
    (filled : clientId ≠ "") : Indexed (manager.authenticate connectionId clientId).2 := by
  cases registered : manager.connections.get? connectionId with
  | none => simpa [ConnectionManager.authenticate, registered] using indexed
  | some connection =>
      have client : manager.clientOf connectionId = connection.client := by
        rw [clientOf, registered, Option.bind_some]
      have old : connection.client.filter (· ≠ "") = connection.client := by
        cases was : connection.client with
        | none => rfl
        | some oldClientId =>
            have filled : oldClientId ≠ "" := fun empty =>
              indexed.named connectionId (client.trans (was.trans (congrArg some empty)))
            simp [Option.filter, filled]
      have map : (manager.authenticate connectionId clientId).2.clientMap =
          add (discardOf manager.clientMap (manager.clientOf connectionId) connectionId) clientId
            connectionId := by
        simp only [ConnectionManager.authenticate, registered, old, client]
      have made : (manager.authenticate connectionId clientId).2.made = manager.made := by
        simp only [ConnectionManager.authenticate, registered]
      refine ⟨fun other id => ?_, map ▸ (indexed.tidy.discardOf _).add, ?_, fun id => ?_,
        fun id object held => ?_, fun id id' object held held' => ?_⟩
      · rw [map, mem_members_add, mem_members_discardOf, indexed.index,
          clientOf_authenticate registered]
        split
        next here =>
          subst here
          simp [eq_comm]
        next elsewhere => simp [elsewhere]
      · have known : manager.connections.contains connectionId = true := by
          rw [OrderedDict.contains, registered, Option.isSome_some]
        simpa [ConnectionManager.authenticate, registered, OrderedDict.size_set, known] using
          indexed.size
      · rw [clientOf_authenticate registered]
        split
        · exact fun same => filled (Option.some.inj same)
        · exact indexed.named id
      · rw [made]
        exact indexed.numbered id object (objectOf_authenticate.symm.trans held)
      · exact indexed.apart id id' object (objectOf_authenticate.symm.trans held)
          (objectOf_authenticate.symm.trans held')

theorem Indexed.sendTimeout (indexed : Indexed manager) (object : Nat) :
    Indexed (manager.sendTimeout object) where
  index clientId id := by
    rw [clientOf_sendTimeout]
    exact indexed.index clientId id
  tidy := indexed.tidy
  size := (List.length_map _).trans_le indexed.size
  named id := by
    rw [clientOf_sendTimeout]
    exact indexed.named id
  numbered id object' held :=
    indexed.numbered id object' ((objectOf_sendTimeout object).symm.trans held)
  apart id id' object' held held' := indexed.apart id id' object'
    ((objectOf_sendTimeout object).symm.trans held) ((objectOf_sendTimeout object).symm.trans held')

theorem Indexed.apply (indexed : Indexed manager) {step : Step ConnId}
    (promised : step.promised manager) :
    Indexed (manager.apply step) := by
  cases step with
  | connect connectionId accepted => exact indexed.connect promised accepted
  | disconnect connectionId => exact indexed.disconnect connectionId
  | authenticate connectionId clientId => exact indexed.authenticate connectionId promised
  | sendTimeout object => exact indexed.sendTimeout object

theorem Reachable.indexed (reachable : Reachable maxClients manager) : Indexed manager := by
  induction reachable with
  | new => exact indexed_new
  | step _ _ promised indexed => exact indexed.apply promised

theorem Reachable.maxClients_eq (reachable : Reachable maxClients manager) :
    manager.maxClients = maxClients := by
  induction reachable with
  | new => rfl
  | @step manager step _ _ same =>
      rw [← same]
      cases step with
      | connect connectionId accepted =>
          dsimp only [ConnectionManager.apply, ConnectionManager.connect]
          split
          · rfl
          split <;> rfl
      | disconnect connectionId => rfl
      | authenticate connectionId clientId =>
          dsimp only [ConnectionManager.apply, ConnectionManager.authenticate]
          split <;> rfl
      | sendTimeout object => rfl

/-- A connection that is registered, authenticated and of one of some clients. -/
def OfClients (manager : ConnectionManager ConnId) (clientIds : List String)
    (connection : Connection) : Prop :=
  ∃ id, manager.connections.get? id = some connection ∧ connection.authenticated ∧
    ∃ clientId ∈ clientIds, connection.client = some clientId

/-- A connection that is registered, authenticated and one of those named. -/
def OfIds (manager : ConnectionManager ConnId) (connectionIds : List ConnId)
    (connection : Connection) : Prop :=
  ∃ id ∈ connectionIds, manager.connections.get? id = some connection ∧ connection.authenticated

/-- The targets are the connections that are wanted, each one once. -/
def ExactlyOnce (targets : List Connection) (wanted : Connection → Prop) : Prop :=
  targets.Nodup ∧ ∀ connection, connection ∈ targets ↔ wanted connection

theorem mem_named {connectionIds : List ConnId} {connection : Connection} :
    connection ∈ manager.named connectionIds ↔ manager.OfIds connectionIds connection := by
  simp [ConnectionManager.named, OfIds, Option.filter_eq_some_iff]

theorem nodup_named (indexed : Indexed manager) {connectionIds : List ConnId}
    (nodup : connectionIds.Nodup) :
    (manager.named connectionIds).Nodup := by
  refine nodup.filterMap fun id id' connection held held' => ?_
  obtain ⟨registered, -⟩ := Option.filter_eq_some_iff.mp held
  obtain ⟨registered', -⟩ := Option.filter_eq_some_iff.mp held'
  exact indexed.apart id id' connection.object (congrArg (·.map (·.object)) registered)
    (congrArg (·.map (·.object)) registered')

theorem mem_allTargets {connection : Connection} : connection ∈ manager.allTargets ↔
    ∃ id, manager.connections.get? id = some connection ∧ connection.authenticated := by
  simp [allTargets, OrderedDict.get?_eq_some]

omit [DecidableEq ConnId] in
theorem nodup_members (tidy : Tidy clientMap) : (members clientMap clientId).Nodup := by
  unfold members
  cases held : clientMap.get? clientId with
  | none => exact List.nodup_nil
  | some ids => exact (tidy clientId ids held).2

/-- A list of clients that is not empty is looked up in the index. -/
theorem broadcastTargets_eq_named {clientIds : List String} (filled : clientIds ≠ []) :
    manager.broadcastTargets (some clientIds) =
      manager.named (clientIds.flatMap (members manager.clientMap)) := by
  obtain ⟨clientId, rest, rfl⟩ := List.exists_cons_of_ne_nil filled
  simp only [broadcastTargets, Option.getD_some, ConnectionManager.named, List.filterMap_flatMap,
    members]

theorem exactlyOnce_broadcast (indexed : Indexed manager) {clientIds : List String}
    (nodup : clientIds.Nodup)
    (filled : clientIds ≠ []) :
    ExactlyOnce (manager.broadcastTargets (some clientIds)) (manager.OfClients clientIds) := by
  rw [broadcastTargets_eq_named filled]
  have each (clientId : String) : (members manager.clientMap clientId).Nodup :=
    nodup_members indexed.tidy
  refine ⟨nodup_named indexed (List.nodup_flatMap.mpr ⟨fun clientId _ => each clientId, ?_⟩),
    fun connection => ?_⟩
  · refine nodup.imp fun {clientId other} apart id mem mem' => apart ?_
    rw [indexed.index] at mem mem'
    exact Option.some.inj (mem.symm.trans mem')
  · rw [mem_named]
    constructor
    · rintro ⟨id, mem, registered, authenticated⟩
      obtain ⟨clientId, wanted, mem⟩ := List.mem_flatMap.mp mem
      rw [indexed.index, clientOf, registered] at mem
      exact ⟨id, registered, authenticated, clientId, wanted, mem⟩
    · rintro ⟨id, registered, authenticated, clientId, wanted, client⟩
      refine ⟨id, List.mem_flatMap.mpr ⟨clientId, wanted, ?_⟩, registered, authenticated⟩
      rw [indexed.index, clientOf, registered]
      exact client

/-- An empty list of targets reaches every authenticated connection. -/
theorem exactlyOnce_allTargets_iff {wanted : Connection → Prop}
    (nobody : ∀ connection, ¬ wanted connection) :
    ExactlyOnce manager.allTargets wanted ↔
      ∀ id connection, manager.connections.get? id = some connection →
        connection.authenticated = false := by
  constructor
  · intro once id connection registered
    by_contra authenticated
    have there := mem_allTargets.mpr ⟨id, registered, eq_true_of_ne_false authenticated⟩
    exact nobody connection ((once.2 connection).mp there)
  · intro anonymous
    have empty : manager.allTargets = [] := by
      refine List.eq_nil_iff_forall_not_mem.mpr fun connection mem => ?_
      obtain ⟨id, registered, authenticated⟩ := mem_allTargets.mp mem
      exact Bool.noConfusion ((anonymous id connection registered).symm.trans authenticated)
    rw [empty]
    exact ⟨List.nodup_nil, fun connection => iff_of_false List.not_mem_nil (nobody connection)⟩

/-- **What the index holds and whom a broadcast to a list of targets reaches.** -/
theorem broadcast_exactlyOnce_iff (reachable : Reachable maxClients manager) :
    (∀ clientId ids, manager.clientMap.get? clientId = some ids →
        ids ≠ [] ∧ ids.Nodup ∧ ∀ id, id ∈ ids ↔ manager.clientOf id = some clientId) ∧
      (∀ clientId, manager.clientMap.get? clientId = none →
        ∀ id, manager.clientOf id ≠ some clientId) ∧
      manager.connections.size ≤ maxClients ∧
      (∀ clientIds : List String, clientIds.Nodup →
        (ExactlyOnce (manager.broadcastTargets (some clientIds)) (manager.OfClients clientIds) ↔
          clientIds ≠ [] ∨ ∀ id connection, manager.connections.get? id = some connection →
            connection.authenticated = false)) ∧
      ∀ connectionIds : List ConnId, connectionIds.Nodup →
        (ExactlyOnce (manager.broadcastToConnectionIdsTargets (some connectionIds))
            (manager.OfIds connectionIds) ↔
          connectionIds ≠ [] ∨ ∀ id connection, manager.connections.get? id = some connection →
            connection.authenticated = false) := by
  have indexed := reachable.indexed
  refine ⟨fun clientId ids held => ?_, fun clientId held id client => ?_, ?_,
    fun clientIds nodup => ?_, fun connectionIds nodup => ?_⟩
  · have tidy := indexed.tidy clientId ids held
    refine ⟨tidy.1, tidy.2, fun id => ?_⟩
    rw [← indexed.index, members, held, Option.getD_some]
  · rw [← indexed.index, members, held] at client
    exact List.not_mem_nil client
  · exact reachable.maxClients_eq ▸ indexed.size
  · by_cases filled : clientIds = []
    · subst filled
      have nobody (connection : Connection) : ¬ manager.OfClients [] connection := by
        rintro ⟨id, -, -, clientId, mem, -⟩
        exact List.not_mem_nil mem
      refine Iff.trans (exactlyOnce_allTargets_iff nobody) ?_
      simp
    · exact iff_of_true (exactlyOnce_broadcast indexed nodup filled) (.inl filled)
  · by_cases filled : connectionIds = []
    · subst filled
      have nobody (connection : Connection) : ¬ manager.OfIds [] connection := by
        rintro ⟨id, mem, -⟩
        exact List.not_mem_nil mem
      refine Iff.trans (exactlyOnce_allTargets_iff nobody) ?_
      simp
    · obtain ⟨id, rest, rfl⟩ := List.exists_cons_of_ne_nil filled
      exact iff_of_true ⟨nodup_named indexed nodup, fun connection => mem_named⟩ (.inl filled)

/-- A connection of one client. -/
def oneClient : ConnectionManager Bool :=
  ((new 2).apply (.connect true true)).apply (.authenticate true "client")

theorem oneClient_reachable : Reachable 2 oneClient :=
  .step (.authenticate true "client") (.step (.connect true true) .new rfl)
    (show "client" ≠ "" by decide)

/-- Another client connects. -/
def twoClients : ConnectionManager Bool :=
  (oneClient.apply (.connect false true)).apply (.authenticate false "other")

theorem twoClients_reachable : Reachable 2 twoClients :=
  .step (.authenticate false "other") (.step (.connect false true) oneClient_reachable rfl)
    (show "other" ≠ "" by decide)

/-- A broadcast to one of two clients reaches its connection and not the other. -/
theorem broadcast_to_one_client :
    twoClients.allTargets = [⟨0, some "client", true⟩, ⟨1, some "other", true⟩] ∧
      twoClients.broadcastTargets (some ["client"]) = [⟨0, some "client", true⟩] ∧
      ExactlyOnce (twoClients.broadcastTargets (some ["client"]))
        (twoClients.OfClients ["client"]) :=
  ⟨by decide, by decide, ((broadcast_exactlyOnce_iff twoClients_reachable).2.2.2.1 ["client"]
    (List.nodup_singleton _)).mpr (.inl (List.cons_ne_nil _ _))⟩

/-- A broadcast to nobody reaches the connection. -/
theorem broadcast_to_nobody_leaks : Reachable 2 oneClient ∧
    ¬ ExactlyOnce (oneClient.broadcastTargets (some [])) (oneClient.OfClients []) ∧
      ¬ ExactlyOnce (oneClient.broadcastToConnectionIdsTargets (some [])) (oneClient.OfIds []) := by
  have reached : (⟨0, some "client", true⟩ : Connection) ∈ oneClient.allTargets := by decide
  refine ⟨oneClient_reachable, fun once => ?_, fun once => ?_⟩
  · obtain ⟨id, -, -, clientId, mem, -⟩ := (once.2 _).mp reached
    exact List.not_mem_nil mem
  · obtain ⟨id, mem, -⟩ := (once.2 _).mp reached
    exact List.not_mem_nil mem

end ConnectionManager
end Streaming
end DataGateway
