import DataGateway.Python.OrderedDict
import DataGateway.Streaming.Feeds
import Mathlib.Data.Finset.Basic

/-!
# Subscriptions of one stream

A manager keeps for every client the symbols of each feed, and for every feed the clients of each
symbol.  The two tables say the same; the symbols of the index are the ones that some client wants.
-/

namespace DataGateway
namespace Streaming

/-- `_FEED_NAMES`. -/
inductive FeedName
  | bars
  | quotes
  | trades
  | news
  deriving DecidableEq, Repr

/-- The feed that carries a kind of data, for the kinds that have one. -/
def DataType.feedName : DataType → Option FeedName
  | .bars => some .bars
  | .quotes => some .quotes
  | .trades => some .trades
  | .news => some .news
  | _ => none

/-- A dictionary with one entry for each feed. -/
abbrev PerFeed (α : Type) := FeedName → α

/-- The clients of each symbol of one feed. -/
abbrev FeedIndex (Client : Type) := OrderedDict String (Finset Client)

variable {Client : Type}

namespace FeedIndex

/-- The clients under a symbol. -/
def clients (index : FeedIndex Client) (symbol : String) : Finset Client :=
  (index.get? symbol).getD ∅

/-- The symbols of the index. -/
def symbols (index : FeedIndex Client) : Finset String := (index.items.map Prod.fst).toFinset

theorem mem_symbols {index : FeedIndex Client} {symbol : String} :
    symbol ∈ index.symbols ↔ index.get? symbol ≠ none := by
  rw [symbols, List.mem_toFinset, List.mem_map, Option.ne_none_iff_exists']
  constructor
  · rintro ⟨⟨_, held⟩, mem, rfl⟩
    exact ⟨held, OrderedDict.get?_eq_some.mpr mem⟩
  · rintro ⟨held, found⟩
    exact ⟨(symbol, held), OrderedDict.get?_eq_some.mp found, rfl⟩

/-- What the index says about the clients of a symbol after they are set. -/
theorem clients_set (index : FeedIndex Client) (symbol other : String) (holders : Finset Client) :
    clients (index.set symbol holders) other =
      if other = symbol then holders else index.clients other := by
  unfold clients
  rw [OrderedDict.get?_set]
  split <;> rfl

theorem symbols_set (index : FeedIndex Client) (symbol : String) (holders : Finset Client) :
    symbols (index.set symbol holders) = insert symbol index.symbols := by
  ext other
  rw [mem_symbols, OrderedDict.get?_set, Finset.mem_insert, mem_symbols]
  split <;> simp [*]

theorem symbols_erase (index : FeedIndex Client) (symbol : String) :
    symbols (index.erase symbol) = index.symbols.erase symbol := by
  ext other
  rw [mem_symbols, OrderedDict.get?_erase, Finset.mem_erase, mem_symbols]
  split <;> simp [*]

/-- The index says which clients hold which symbols, and has no symbol that nobody holds. -/
structure Lists (index : FeedIndex Client) (held : Client → Finset String) : Prop where
  mem_clients : ∀ symbol client, client ∈ index.clients symbol ↔ symbol ∈ held client
  wanted : ∀ symbol, index.get? symbol ≠ some ∅

theorem Lists.mem_symbols {index : FeedIndex Client} {held : Client → Finset String}
    (lists : index.Lists held) {symbol : String} :
    symbol ∈ index.symbols ↔ ∃ client, symbol ∈ held client := by
  rw [FeedIndex.mem_symbols]
  simp only [← lists.mem_clients, clients]
  have wanted := lists.wanted symbol
  cases found : index.get? symbol with
  | none => simp
  | some clients =>
      rw [found] at wanted
      obtain ⟨client, mem⟩ : clients.Nonempty :=
        Finset.nonempty_iff_ne_empty.mpr fun none => wanted (by rw [none])
      simpa using ⟨client, mem⟩

end FeedIndex

/-- The index of a feed, and the symbols that have become new or superfluous in a loop over it. -/
structure IndexChange (Client : Type) where
  index : FeedIndex Client
  changed : Finset String

/-- A loop over the symbols of one feed of a client, whose own set changes too. -/
structure FeedChange (Client : Type) extends IndexChange Client where
  clientSet : Finset String

section Loops

variable [DecidableEq Client]

/-- The body of the loop of `_subscribe_feed`. -/
def FeedChange.add (client : Client) (state : FeedChange Client) (symbol : String) :
    FeedChange Client :=
  if symbol ∈ state.clientSet then state
  else
    match state.index.get? symbol with
    | none =>
        { index := state.index.set symbol {client}
          changed := insert symbol state.changed
          clientSet := insert symbol state.clientSet }
    | some clients =>
        { index := state.index.set symbol (insert client clients)
          changed := state.changed
          clientSet := insert symbol state.clientSet }

/-- The body of the loop of `_remove_client_feed`. -/
def IndexChange.leave (client : Client) (state : IndexChange Client) (symbol : String) :
    IndexChange Client :=
  match state.index.get? symbol with
  | none => state
  | some clients =>
      if clients = ∅ then state
      else if clients.erase client = ∅ then
        ⟨state.index.erase symbol, insert symbol state.changed⟩
      else { state with index := state.index.set symbol (clients.erase client) }

/-- The body of the loop of `_unsubscribe_feed`. -/
def FeedChange.drop (client : Client) (state : FeedChange Client) (symbol : String) :
    FeedChange Client :=
  if symbol ∈ state.clientSet then
    { state.toIndexChange.leave client symbol with clientSet := state.clientSet.erase symbol }
  else state

/-- `_subscribe_feed`. -/
def subscribeFeed (client : Client) (clientSet : Finset String) (index : FeedIndex Client)
    (symbols : List String) : FeedChange Client :=
  symbols.foldl (FeedChange.add client) ⟨⟨index, ∅⟩, clientSet⟩

/-- `_unsubscribe_feed`. -/
def unsubscribeFeed (client : Client) (clientSet : Finset String) (index : FeedIndex Client)
    (symbols : List String) : FeedChange Client :=
  symbols.foldl (FeedChange.drop client) ⟨⟨index, ∅⟩, clientSet⟩

/-- `_remove_client_feed`.  The client's set is walked in the order of the index; a symbol that the
index does not have would change nothing. -/
def removeClientFeed (client : Client) (clientSet : Finset String) (index : FeedIndex Client) :
    IndexChange Client :=
  ((index.items.map Prod.fst).filter fun symbol => symbol ∈ clientSet).foldl
    (IndexChange.leave client) ⟨index, ∅⟩

end Loops

/-! ## What the loops do -/

section Effects

variable [DecidableEq Client] {client : Client} {start : FeedIndex Client}
  {held : Client → Finset String} {symbol : String}

/-- A loop that only adds: the index lists the holders, and the new symbols are those it did not
have at the start. -/
structure Grown (start : FeedIndex Client) (held : Client → Finset String)
    (state : IndexChange Client) : Prop where
  lists : state.index.Lists held
  within : start.symbols ⊆ state.index.symbols
  changed : state.changed = state.index.symbols \ start.symbols

/-- A loop that only removes: the superfluous symbols are those the index had at the start. -/
structure Shrunk (start : FeedIndex Client) (held : Client → Finset String)
    (state : IndexChange Client) : Prop where
  lists : state.index.Lists held
  within : state.index.symbols ⊆ start.symbols
  changed : state.changed = start.symbols \ state.index.symbols

omit [DecidableEq Client] in
theorem Grown.refl (lists : start.Lists held) : Grown start held ⟨start, ∅⟩ :=
  ⟨lists, subset_rfl, (Finset.sdiff_self _).symm⟩

omit [DecidableEq Client] in
theorem Shrunk.refl (lists : start.Lists held) : Shrunk start held ⟨start, ∅⟩ :=
  ⟨lists, subset_rfl, (Finset.sdiff_self _).symm⟩

/-- A client that gets a symbol is listed under it. -/
theorem FeedIndex.Lists.insert {index : FeedIndex Client} {clientSet : Finset String}
    (lists : index.Lists (Function.update held client clientSet)) (symbol : String) :
    FeedIndex.Lists (index.set symbol (insert client (index.clients symbol)))
      (Function.update held client (insert symbol clientSet)) := by
  refine ⟨fun other holder => ?_, fun other => ?_⟩
  · have before := lists.mem_clients other holder
    rw [FeedIndex.clients_set]
    by_cases own : holder = client
    · subst own
      simp only [Function.update_self, Finset.mem_insert] at before ⊢
      split
      next same => simp [same]
      next apart => simp [apart, before]
    · simp only [Function.update_of_ne own] at before ⊢
      split
      next same =>
        subst same
        simp [own, before]
      · exact before
  · rw [OrderedDict.get?_set]
    split
    · simp
    · exact lists.wanted other

theorem FeedChange.clientSet_add (state : FeedChange Client) :
    (state.add client symbol).clientSet = insert symbol state.clientSet := by
  unfold add
  split
  next held => exact (Finset.insert_eq_of_mem held).symm
  · split <;> rfl

theorem Grown.add {state : FeedChange Client}
    (grown : Grown start (Function.update held client state.clientSet) state.toIndexChange) :
    Grown start (Function.update held client (state.add client symbol).clientSet)
      (state.add client symbol).toIndexChange := by
  obtain ⟨lists, within, changed⟩ := grown
  have more := lists.insert symbol
  rw [FeedChange.clientSet_add]
  unfold FeedChange.add FeedIndex.clients at *
  split
  next held =>
    rw [Finset.insert_eq_of_mem held]
    exact ⟨lists, within, changed⟩
  · split
    next absent =>
      rw [absent] at more
      have new : symbol ∉ state.index.symbols := fun mem => FeedIndex.mem_symbols.mp mem absent
      refine ⟨more, ?_, ?_⟩
      · rw [FeedIndex.symbols_set]
        exact within.trans (Finset.subset_insert _ _)
      · rw [FeedIndex.symbols_set, Finset.insert_sdiff_of_notMem _ fun mem =>
          new (within mem), ← changed]
    next clients found =>
      rw [found] at more
      have old : symbol ∈ state.index.symbols :=
        FeedIndex.mem_symbols.mpr fun none => by rw [none] at found; cases found
      refine ⟨more, ?_, ?_⟩ <;> rw [FeedIndex.symbols_set, Finset.insert_eq_of_mem old]
      · exact within
      · exact changed

/-- A client that gives up a symbol is not listed under it any more. -/
theorem FeedIndex.Lists.without {index after : FeedIndex Client} (lists : index.Lists held)
    (clients : ∀ other, after.clients other =
      if other = symbol then (index.clients symbol).erase client else index.clients other)
    (wanted : ∀ other, after.get? other ≠ some ∅) :
    after.Lists (Function.update held client ((held client).erase symbol)) := by
  refine ⟨fun other holder => ?_, wanted⟩
  have before := lists.mem_clients other holder
  rw [clients]
  by_cases own : holder = client
  · subst own
    rw [Function.update_self, Finset.mem_erase]
    split
    next same => simp [same]
    next apart => simp [apart, before]
  · rw [Function.update_of_ne own]
    split
    next same =>
      subst same
      simp [own, before]
    · exact before

theorem Shrunk.leave {state : IndexChange Client} (shrunk : Shrunk start held state)
    (client : Client) (symbol : String) :
    Shrunk start (Function.update held client ((held client).erase symbol))
      (state.leave client symbol) := by
  obtain ⟨lists, within, changed⟩ := shrunk
  unfold IndexChange.leave
  split
  next absent =>
    have none : symbol ∉ held client := fun mem => by
      have listed := (lists.mem_clients symbol client).mpr mem
      rw [FeedIndex.clients, absent] at listed
      cases listed
    rw [Finset.erase_eq_of_notMem none, Function.update_eq_self]
    exact ⟨lists, within, changed⟩
  next clients found =>
    have here : state.index.clients symbol = clients := by rw [FeedIndex.clients, found]; rfl
    have old : symbol ∈ state.index.symbols :=
      FeedIndex.mem_symbols.mpr fun none => by rw [none] at found; cases found
    rw [if_neg fun empty => lists.wanted symbol (by rw [found, empty])]
    split
    next alone =>
      refine ⟨lists.without (fun other => ?_) fun other => ?_, ?_, ?_⟩
      · rw [here, alone, FeedIndex.clients, OrderedDict.get?_erase]
        split <;> rfl
      · rw [OrderedDict.get?_erase]
        split
        · simp
        · exact lists.wanted other
      · rw [FeedIndex.symbols_erase]
        exact (Finset.erase_subset _ _).trans within
      · rw [FeedIndex.symbols_erase, Finset.sdiff_erase (within old), ← changed]
    next more =>
      refine ⟨lists.without (fun other => ?_) fun other => ?_, ?_, ?_⟩
      · rw [here, FeedIndex.clients_set]
      · rw [OrderedDict.get?_set]
        split
        · simpa using more
        · exact lists.wanted other
      · rw [FeedIndex.symbols_set, Finset.insert_eq_of_mem old]
        exact within
      · rw [FeedIndex.symbols_set, Finset.insert_eq_of_mem old]
        exact changed

theorem FeedChange.clientSet_drop (state : FeedChange Client) :
    (state.drop client symbol).clientSet = state.clientSet.erase symbol := by
  unfold drop
  split
  · rfl
  next absent => exact (Finset.erase_eq_of_notMem absent).symm

theorem Shrunk.drop {state : FeedChange Client}
    (shrunk : Shrunk start (Function.update held client state.clientSet) state.toIndexChange) :
    Shrunk start (Function.update held client (state.drop client symbol).clientSet)
      (state.drop client symbol).toIndexChange := by
  have less := shrunk.leave client symbol
  rw [Function.update_self, Function.update_idem] at less
  rw [FeedChange.clientSet_drop]
  unfold FeedChange.drop
  split
  · exact less
  next absent =>
    rw [Finset.erase_eq_of_notMem absent]
    exact shrunk

theorem subscribeFeed_grown (lists : start.Lists held) (symbols : List String) :
    Grown start
      (Function.update held client (subscribeFeed client (held client) start symbols).clientSet)
      (subscribeFeed client (held client) start symbols).toIndexChange := by
  unfold subscribeFeed
  have start : Grown start (Function.update held client (held client)) ⟨start, ∅⟩ := by
    rw [Function.update_eq_self]
    exact .refl lists
  exact List.foldlRecOn (motive := fun state : FeedChange Client =>
      Grown _ (Function.update held client state.clientSet) state.toIndexChange)
    symbols (FeedChange.add client) start fun _ grown _ _ => grown.add

theorem clientSet_subscribeFeed (clientSet : Finset String) (symbols : List String) :
    (subscribeFeed client clientSet start symbols).clientSet = clientSet ∪ symbols.toFinset := by
  unfold subscribeFeed
  generalize (⟨start, ∅⟩ : IndexChange Client) = change
  induction symbols generalizing clientSet change with
  | nil => simp
  | cons symbol rest ih =>
      obtain ⟨next, added⟩ : ∃ next, FeedChange.add client ⟨change, clientSet⟩ symbol =
          ⟨next, insert symbol clientSet⟩ :=
        ⟨_, congrArg (FeedChange.mk _) (FeedChange.clientSet_add _)⟩
      rw [List.foldl_cons, added, ih, List.toFinset_cons]
      ext other
      simp only [Finset.mem_union, Finset.mem_insert]
      tauto

theorem unsubscribeFeed_shrunk (lists : start.Lists held) (symbols : List String) :
    Shrunk start
      (Function.update held client (unsubscribeFeed client (held client) start symbols).clientSet)
      (unsubscribeFeed client (held client) start symbols).toIndexChange := by
  unfold unsubscribeFeed
  have start : Shrunk start (Function.update held client (held client)) ⟨start, ∅⟩ := by
    rw [Function.update_eq_self]
    exact .refl lists
  exact List.foldlRecOn (motive := fun state : FeedChange Client =>
      Shrunk _ (Function.update held client state.clientSet) state.toIndexChange)
    symbols (FeedChange.drop client) start fun _ shrunk _ _ => shrunk.drop

theorem clientSet_unsubscribeFeed (clientSet : Finset String) (symbols : List String) :
    (unsubscribeFeed client clientSet start symbols).clientSet = clientSet \ symbols.toFinset := by
  unfold unsubscribeFeed
  generalize (⟨start, ∅⟩ : IndexChange Client) = change
  induction symbols generalizing clientSet change with
  | nil => simp
  | cons symbol rest ih =>
      obtain ⟨next, dropped⟩ : ∃ next, FeedChange.drop client ⟨change, clientSet⟩ symbol =
          ⟨next, clientSet.erase symbol⟩ :=
        ⟨_, congrArg (FeedChange.mk _) (FeedChange.clientSet_drop _)⟩
      rw [List.foldl_cons, dropped, ih, List.toFinset_cons, Finset.sdiff_insert]
      ext other
      simp only [Finset.mem_sdiff, Finset.mem_erase]
      tauto

/-- A client that gives up some symbols. -/
theorem Shrunk.leaveAll {state : IndexChange Client} (shrunk : Shrunk start held state)
    (client : Client) (symbols : List String) :
    Shrunk start (Function.update held client (held client \ symbols.toFinset))
      (symbols.foldl (IndexChange.leave client) state) := by
  induction symbols generalizing held state with
  | nil => simpa using shrunk
  | cons symbol rest ih =>
      have less := ih (shrunk.leave client symbol)
      rw [Function.update_self, Function.update_idem] at less
      rw [List.foldl_cons, List.toFinset_cons]
      convert less using 2
      ext other
      simp only [Finset.mem_sdiff, Finset.mem_erase, Finset.mem_insert]
      tauto

theorem removeClientFeed_shrunk (lists : start.Lists held) :
    Shrunk start (Function.update held client ∅) (removeClientFeed client (held client) start) := by
  have left := (Shrunk.refl lists).leaveAll client
    ((start.items.map Prod.fst).filter fun symbol => symbol ∈ held client)
  have none : held client \
      ((start.items.map Prod.fst).filter fun symbol => symbol ∈ held client).toFinset = ∅ := by
    rw [Finset.sdiff_eq_empty_iff_subset]
    intro symbol mem
    have here : symbol ∈ start.symbols := lists.mem_symbols.mpr ⟨client, mem⟩
    rw [FeedIndex.symbols, List.mem_toFinset] at here
    simp only [List.mem_toFinset, List.mem_filter, decide_eq_true_eq]
    exact ⟨here, mem⟩
  rw [none] at left
  exact left

end Effects

/-! ## The manager -/

/-- `SubscriptionManager`: the index lists what the clients hold. -/
structure SubscriptionManager (Client : Type) [DecidableEq Client] where
  subscriptions : OrderedDict Client (PerFeed (Finset String))
  index : PerFeed (FeedIndex Client)
  lists : ∀ name, (index name).Lists fun client =>
    (subscriptions.get? client).getD (fun _ => ∅) name

namespace SubscriptionManager

variable [DecidableEq Client]

/-- What a client holds. -/
def held (manager : SubscriptionManager Client) (client : Client) : PerFeed (Finset String) :=
  (manager.subscriptions.get? client).getD fun _ => ∅

/-- `__init__`. -/
def initial : SubscriptionManager Client where
  subscriptions := .empty
  index _ := .empty
  lists _ := ⟨fun _ _ => by simp [FeedIndex.clients, OrderedDict.get?, OrderedDict.empty],
    fun _ => by simp [OrderedDict.get?, OrderedDict.empty]⟩

/-- The sets of the table after one client's sets are replaced. -/
theorem held_set (subscriptions : OrderedDict Client (PerFeed (Finset String))) (client : Client)
    (feeds : PerFeed (Finset String)) (name : FeedName) :
    (fun other => ((subscriptions.set client feeds).get? other).getD (fun _ => ∅) name) =
      Function.update (fun other => (subscriptions.get? other).getD (fun _ => ∅) name) client
        (feeds name) := by
  funext other
  rw [OrderedDict.get?_set]
  by_cases same : other = client
  · subst same
    simp
  · simp [same]

/-- The sets of the table after one client is taken out. -/
theorem held_erase (subscriptions : OrderedDict Client (PerFeed (Finset String))) (client : Client)
    (name : FeedName) :
    (fun other => ((subscriptions.erase client).get? other).getD (fun _ => ∅) name) =
      Function.update (fun other => (subscriptions.get? other).getD (fun _ => ∅) name)
        client ∅ := by
  funext other
  rw [OrderedDict.get?_erase]
  by_cases same : other = client
  · subst same
    simp
  · simp [same]

/-- `subscribe`: the symbols that are new to the stream, and the manager afterwards. -/
def subscribe (manager : SubscriptionManager Client) (client : Client)
    (requested : PerFeed (List String)) : PerFeed (Finset String) × SubscriptionManager Client :=
  let change name :=
    subscribeFeed client (manager.held client name) (manager.index name) (requested name)
  (fun name => (change name).changed,
    { subscriptions := manager.subscriptions.set client fun name => (change name).clientSet
      index := fun name => (change name).index
      lists := fun name => by
        rw [held_set]
        exact (subscribeFeed_grown (manager.lists name) (requested name)).lists })

/-- `unsubscribe`: the symbols that nobody wants any more, and the manager afterwards. -/
def unsubscribe (manager : SubscriptionManager Client) (client : Client)
    (requested : PerFeed (List String)) : PerFeed (Finset String) × SubscriptionManager Client :=
  if manager.subscriptions.contains client then
    let change name :=
      unsubscribeFeed client (manager.held client name) (manager.index name) (requested name)
    (fun name => (change name).changed,
      { subscriptions := manager.subscriptions.set client fun name => (change name).clientSet
        index := fun name => (change name).index
        lists := fun name => by
          rw [held_set]
          exact (unsubscribeFeed_shrunk (manager.lists name) (requested name)).lists })
  else (fun _ => ∅, manager)

/-- `remove_client`. -/
def removeClient (manager : SubscriptionManager Client) (client : Client) :
    PerFeed (Finset String) × SubscriptionManager Client :=
  if manager.subscriptions.contains client then
    let change name := removeClientFeed client (manager.held client name) (manager.index name)
    (fun name => (change name).changed,
      { subscriptions := manager.subscriptions.erase client
        index := fun name => (change name).index
        lists := fun name => by
          rw [held_erase]
          exact (removeClientFeed_shrunk (manager.lists name)).lists })
  else (fun _ => ∅, manager)

/-- `get_clients_for_symbol_view`. -/
def getClientsForSymbolView (manager : SubscriptionManager Client) (symbol : String)
    (dataType : DataType) : Finset Client :=
  match dataType.feedName with
  | none => ∅
  | some name => (manager.index name).clients symbol

/-- `get_all_subscriptions`. -/
def getAllSubscriptions (manager : SubscriptionManager Client) : PerFeed (Finset String) :=
  fun name => (manager.index name).symbols

/-! ### What clients hold and what the stream needs -/

section Specifications

variable {manager : SubscriptionManager Client} {client other : Client} {name : FeedName}
  {symbol : String} {requested : PerFeed (List String)}

theorem mem_getAllSubscriptions :
    symbol ∈ manager.getAllSubscriptions name ↔ ∃ client, symbol ∈ manager.held client name :=
  (manager.lists name).mem_symbols

theorem mem_getClientsForSymbolView {dataType : DataType} :
    client ∈ manager.getClientsForSymbolView symbol dataType ↔
      ∃ name, dataType.feedName = some name ∧ symbol ∈ manager.held client name := by
  unfold getClientsForSymbolView
  cases dataType.feedName with
  | none => simp
  | some name =>
      refine ((manager.lists name).mem_clients symbol client).trans ?_
      simp [held]

/-- A subscription adds the requested symbols to the client's. -/
theorem held_subscribe : (manager.subscribe client requested).2.held other name =
    if other = client then manager.held client name ∪ (requested name).toFinset
    else manager.held other name := by
  have sets := congrFun (held_set manager.subscriptions client (fun name =>
    (subscribeFeed client (manager.held client name) (manager.index name)
      (requested name)).clientSet) name) other
  refine sets.trans ?_
  split
  next same =>
    subst same
    rw [Function.update_self, clientSet_subscribeFeed]
  next apart => exact Function.update_of_ne apart _ _

/-- The new symbols are those that nobody held before. -/
theorem changed_subscribe : (manager.subscribe client requested).1 name =
    (manager.subscribe client requested).2.getAllSubscriptions name \
      manager.getAllSubscriptions name :=
  (subscribeFeed_grown (manager.lists name) (requested name)).changed

/-- An unsubscription takes the requested symbols from the client's. -/
theorem held_unsubscribe : (manager.unsubscribe client requested).2.held other name =
    if other = client then manager.held client name \ (requested name).toFinset
    else manager.held other name := by
  unfold unsubscribe
  split
  · have sets := congrFun (held_set manager.subscriptions client (fun name =>
      (unsubscribeFeed client (manager.held client name) (manager.index name)
        (requested name)).clientSet) name) other
    refine sets.trans ?_
    split
    next same =>
      subst same
      rw [Function.update_self, clientSet_unsubscribeFeed]
    next apart => exact Function.update_of_ne apart _ _
  next absent =>
    split
    next same =>
      subst same
      have none : manager.subscriptions.get? other = none := by
        simpa [OrderedDict.contains] using absent
      simp [held, none]
    · rfl

/-- The superfluous symbols are those that nobody holds afterwards. -/
theorem changed_unsubscribe : (manager.unsubscribe client requested).1 name =
    manager.getAllSubscriptions name \
      (manager.unsubscribe client requested).2.getAllSubscriptions name := by
  unfold unsubscribe
  split
  · exact (unsubscribeFeed_shrunk (manager.lists name) (requested name)).changed
  · exact (Finset.sdiff_self _).symm

/-- A client that is removed holds nothing. -/
theorem held_removeClient : (manager.removeClient client).2.held other name =
    if other = client then ∅ else manager.held other name := by
  unfold removeClient
  split
  · have sets := congrFun (held_erase manager.subscriptions client name) other
    refine sets.trans ?_
    split
    next same =>
      subst same
      exact Function.update_self _ _ _
    next apart => exact Function.update_of_ne apart _ _
  next absent =>
    split
    next same =>
      subst same
      have none : manager.subscriptions.get? other = none := by
        simpa [OrderedDict.contains] using absent
      simp [held, none]
    · rfl

theorem changed_removeClient : (manager.removeClient client).1 name =
    manager.getAllSubscriptions name \
      (manager.removeClient client).2.getAllSubscriptions name := by
  unfold removeClient
  split
  · exact (removeClientFeed_shrunk (manager.lists name)).changed
  · exact (Finset.sdiff_self _).symm

theorem contains_subscribe : (manager.subscribe client requested).2.subscriptions.contains other =
    (decide (other = client) || manager.subscriptions.contains other) := by
  unfold subscribe OrderedDict.contains
  dsimp only
  rw [OrderedDict.get?_set]
  split <;> simp [*]

theorem contains_unsubscribe :
    (manager.unsubscribe client requested).2.subscriptions.contains other =
      manager.subscriptions.contains other := by
  unfold unsubscribe
  split
  next present =>
    unfold OrderedDict.contains at *
    dsimp only
    rw [OrderedDict.get?_set]
    split
    next same => rw [same, present, Option.isSome_some]
    · rfl
  · rfl

/-- A client that is removed leaves the table. -/
theorem contains_removeClient : (manager.removeClient client).2.subscriptions.contains other =
    (decide (other ≠ client) && manager.subscriptions.contains other) := by
  unfold removeClient
  split
  · unfold OrderedDict.contains
    rw [OrderedDict.get?_erase]
    split <;> simp [*]
  next absent =>
    by_cases same : other = client
    · subst same
      simpa using absent
    · simp [same]

end Specifications

end SubscriptionManager

/-! ### Sequences of calls -/

/-- A call that changes the subscriptions. -/
inductive SubscriptionCall (Client : Type)
  | subscribe (client : Client) (requested : PerFeed (List String))
  | unsubscribe (client : Client) (requested : PerFeed (List String))
  | removeClient (client : Client)

namespace SubscriptionManager

variable [DecidableEq Client]

/-- The manager after a call. -/
def call (manager : SubscriptionManager Client) :
    SubscriptionCall Client → SubscriptionManager Client
  | .subscribe client requested => (manager.subscribe client requested).2
  | .unsubscribe client requested => (manager.unsubscribe client requested).2
  | .removeClient client => (manager.removeClient client).2

/-- The manager after a sequence of calls. -/
def run (calls : List (SubscriptionCall Client)) : SubscriptionManager Client :=
  calls.foldl call .initial

/-- Some client's own set has the symbol. -/
def Wanted (manager : SubscriptionManager Client) (name : FeedName) (symbol : String) : Prop :=
  ∃ client, symbol ∈ manager.held client name

/-- An entry of the index is the set of the clients that hold the symbol, and there is one when
somebody does. -/
theorem get?_index {manager : SubscriptionManager Client} {name : FeedName} {symbol : String}
    {clients : Finset Client} : (manager.index name).get? symbol = some clients ↔
      clients.Nonempty ∧ ∀ client, client ∈ clients ↔ symbol ∈ manager.held client name := by
  have lists := manager.lists name
  have holders (client : Client) : client ∈ (manager.index name).clients symbol ↔
      symbol ∈ manager.held client name := lists.mem_clients symbol client
  unfold FeedIndex.clients at holders
  constructor
  · intro found
    rw [found] at holders
    refine ⟨Finset.nonempty_iff_ne_empty.mpr fun empty => ?_, holders⟩
    exact lists.wanted symbol (empty ▸ found)
  · rintro ⟨⟨client, mem⟩, exact⟩
    cases found : (manager.index name).get? symbol with
    | none =>
        rw [found] at holders
        cases (holders client).mpr ((exact client).mp mem)
    | some entry =>
        rw [found] at holders
        exact congrArg some (Finset.ext fun other => (holders other).trans (exact other).symm)

/-- After any calls the index says who holds what, and the next call returns the symbols that enter
or leave what the clients want together. -/
theorem index_stays_exact (calls : List (SubscriptionCall Client)) (client : Client)
    (requested : PerFeed (List String)) (name : FeedName) (symbol : String) :
    (∀ clients, ((run calls).index name).get? symbol = some clients ↔
        clients.Nonempty ∧ ∀ other, other ∈ clients ↔ symbol ∈ (run calls).held other name) ∧
      (symbol ∈ ((run calls).subscribe client requested).1 name ↔
        ((run calls).subscribe client requested).2.Wanted name symbol ∧
          ¬ (run calls).Wanted name symbol) ∧
      (symbol ∈ ((run calls).unsubscribe client requested).1 name ↔
        (run calls).Wanted name symbol ∧
          ¬ ((run calls).unsubscribe client requested).2.Wanted name symbol) ∧
      (symbol ∈ ((run calls).removeClient client).1 name ↔
        (run calls).Wanted name symbol ∧
          ¬ ((run calls).removeClient client).2.Wanted name symbol) := by
  refine ⟨fun _ => get?_index, ?_, ?_, ?_⟩
  · rw [changed_subscribe, Finset.mem_sdiff, mem_getAllSubscriptions, mem_getAllSubscriptions]
    rfl
  · rw [changed_unsubscribe, Finset.mem_sdiff, mem_getAllSubscriptions, mem_getAllSubscriptions]
    rfl
  · rw [changed_removeClient, Finset.mem_sdiff, mem_getAllSubscriptions, mem_getAllSubscriptions]
    rfl

end SubscriptionManager

end Streaming
end DataGateway
