import DataGateway.Streaming.InputValidation
import DataGateway.Streaming.Subscriptions
import Mathlib.Data.Finset.Lattice.Lemmas

/-!
# Registrations for option flow

The fan-out of the flow poller keeps, next to a bucket for everything, the connections of each
symbol.  Only the connection itself ever adds to its registrations.
-/

namespace DataGateway
namespace Streaming

/-- `FlowFanout`, with what its registrations consist of. -/
structure FlowFanout (Client : Type) where
  bySymbol : FeedIndex Client
  all : Finset Client
  byConnection : OrderedDict Client (Finset String)

namespace FlowFanout

variable {Client : Type}

/-- `__init__`. -/
def initial : FlowFanout Client := ⟨.empty, ∅, .empty⟩

/-- The connection is registered for something. -/
def Registered (fanout : FlowFanout Client) (connection : Client) : Prop :=
  connection ∈ fanout.all ∨ ∃ symbol, connection ∈ fanout.bySymbol.clients symbol

variable [DecidableEq Client] [Unicode]

/-- The symbols that name something, in upper case. -/
def normalized (symbols : List String) : List String :=
  (symbols.filter fun symbol => symbol ≠ "").map upper

/-- The connection leaves the buckets of some symbols. -/
def leaveBuckets (connection : Client) (bySymbol : FeedIndex Client) (symbols : List String) :
    FeedIndex Client :=
  (symbols.foldl (IndexChange.leave connection) ⟨bySymbol, ∅⟩).index

/-- The buckets of a set of symbols, in the order of the registry. -/
def bucketsOf (bySymbol : FeedIndex Client) (symbols : Finset String) : List String :=
  (bySymbol.items.map Prod.fst).filter fun symbol => symbol ∈ symbols

/-- `subscribe`. -/
def subscribe (fanout : FlowFanout Client) (connection : Client) (symbols : List String) :
    FlowFanout Client :=
  let held := (fanout.byConnection.get? connection).getD ∅
  if normalized symbols = [] then
    { bySymbol := leaveBuckets connection fanout.bySymbol (bucketsOf fanout.bySymbol held)
      all := insert connection fanout.all
      byConnection := fanout.byConnection.set connection ∅ }
  else
    { fanout with
      bySymbol := (normalized symbols).foldl
        (fun bySymbol symbol => bySymbol.set symbol (insert connection (bySymbol.clients symbol)))
        fanout.bySymbol
      byConnection := fanout.byConnection.set connection (held ∪ (normalized symbols).toFinset) }

/-- `client_disconnect`. -/
def clientDisconnect (fanout : FlowFanout Client) (connection : Client) : FlowFanout Client :=
  let held := (fanout.byConnection.get? connection).getD ∅
  { bySymbol := leaveBuckets connection fanout.bySymbol (bucketsOf fanout.bySymbol held)
    all := fanout.all.erase connection
    byConnection := fanout.byConnection.erase connection }

/-- `unsubscribe`. -/
def unsubscribe (fanout : FlowFanout Client) (connection : Client) (symbols : List String) :
    FlowFanout Client :=
  if normalized symbols = [] then fanout.clientDisconnect connection
  else
    let bySymbol := leaveBuckets connection fanout.bySymbol (normalized symbols)
    match fanout.byConnection.get? connection with
    | none => { fanout with bySymbol := bySymbol }
    | some held =>
        let kept := held \ (normalized symbols).toFinset
        { fanout with
          bySymbol := bySymbol
          byConnection := if kept = ∅ ∧ connection ∉ fanout.all
            then fanout.byConnection.erase connection
            else fanout.byConnection.set connection kept }

/-! ## Who is registered -/

section Registered

omit [Unicode]

variable {connection other : Client} {bySymbol : FeedIndex Client} {symbol : String}

theorem mem_clients_leave {state : IndexChange Client} {left : String}
    (mem : other ∈ (state.leave connection left).index.clients symbol) :
    other ∈ state.index.clients symbol := by
  unfold IndexChange.leave at mem
  split at mem
  · exact mem
  next clients found =>
    split_ifs at mem
    · exact mem
    · unfold FeedIndex.clients at mem
      rw [OrderedDict.get?_erase] at mem
      split at mem
      · cases mem
      · exact mem
    · rw [FeedIndex.clients_set] at mem
      split at mem
      next same =>
        rw [same, FeedIndex.clients, found]
        exact Finset.mem_of_mem_erase mem
      · exact mem

theorem mem_clients_leaveBuckets {symbols : List String}
    (mem : other ∈ (leaveBuckets connection bySymbol symbols).clients symbol) :
    other ∈ bySymbol.clients symbol := by
  unfold leaveBuckets at mem
  have general (symbols : List String) : ∀ state : IndexChange Client,
      other ∈ (symbols.foldl (IndexChange.leave connection) state).index.clients symbol →
        other ∈ state.index.clients symbol := by
    induction symbols with
    | nil => exact fun _ mem => mem
    | cons left rest ih => exact fun state mem => mem_clients_leave (ih _ mem)
  exact general symbols ⟨bySymbol, ∅⟩ mem

theorem mem_clients_enterBuckets {symbols : List String}
    (mem : other ∈ FeedIndex.clients (symbols.foldl (fun bySymbol symbol =>
      bySymbol.set symbol (insert connection (bySymbol.clients symbol))) bySymbol) symbol) :
    other = connection ∨ other ∈ bySymbol.clients symbol := by
  induction symbols generalizing bySymbol with
  | nil => exact .inr mem
  | cons entered rest ih =>
      rcases ih mem with same | before
      · exact .inl same
      · rw [FeedIndex.clients_set] at before
        split at before
        next same =>
          rw [same]
          exact Finset.mem_insert.mp before
        · exact .inr before

end Registered

/-- Only the connection itself is newly registered by a subscription. -/
theorem registered_subscribe {fanout : FlowFanout Client} {connection other : Client}
    {symbols : List String} (registered : (fanout.subscribe connection symbols).Registered other) :
    other = connection ∨ fanout.Registered other := by
  unfold subscribe at registered
  split at registered
  · rcases registered with all | ⟨symbol, mem⟩
    · exact (Finset.mem_insert.mp all).imp_right .inl
    · exact .inr (.inr ⟨symbol, mem_clients_leaveBuckets mem⟩)
  · rcases registered with all | ⟨symbol, mem⟩
    · exact .inr (.inl all)
    · exact (mem_clients_enterBuckets mem).imp_right fun before => .inr ⟨symbol, before⟩

omit [Unicode] in
theorem registered_clientDisconnect {fanout : FlowFanout Client} {connection other : Client}
    (registered : (fanout.clientDisconnect connection).Registered other) :
    fanout.Registered other := by
  rcases registered with all | ⟨symbol, mem⟩
  · exact .inl (Finset.mem_of_mem_erase all)
  · exact .inr ⟨symbol, mem_clients_leaveBuckets mem⟩

theorem registered_unsubscribe {fanout : FlowFanout Client} {connection other : Client}
    {symbols : List String}
    (registered : (fanout.unsubscribe connection symbols).Registered other) :
    fanout.Registered other := by
  unfold unsubscribe at registered
  split at registered
  · exact registered_clientDisconnect registered
  · dsimp only at registered
    split at registered
    all_goals
      rcases registered with all | ⟨symbol, mem⟩
      · exact .inl all
      · exact .inr ⟨symbol, mem_clients_leaveBuckets mem⟩

/-! ## The registry stays consistent -/

/-- `_targets`. -/
def targets (fanout : FlowFanout Client) (symbol : String) : Finset Client :=
  if symbol = "" then fanout.all else fanout.all ∪ fanout.bySymbol.clients (upper symbol)

/-- The symbols of a connection. -/
def held (fanout : FlowFanout Client) (connection : Client) : Finset String :=
  (fanout.byConnection.get? connection).getD ∅

/-- The three tables say the same. -/
structure Consistent (fanout : FlowFanout Client) : Prop where
  lists : fanout.bySymbol.Lists fanout.held
  entry : ∀ connection, fanout.byConnection.contains connection = true ↔
    connection ∈ fanout.all ∨ (fanout.held connection).Nonempty
  named : ∀ connection, "" ∉ fanout.held connection

section Buckets

omit [Unicode]

variable {fanout : FlowFanout Client} {connection other : Client} {bySymbol : FeedIndex Client}
  {held : Client → Finset String}

theorem leaveBuckets_lists (lists : bySymbol.Lists held) (connection : Client)
    (symbols : List String) : (leaveBuckets connection bySymbol symbols).Lists
      (Function.update held connection (held connection \ symbols.toFinset)) :=
  ((Shrunk.refl lists).leaveAll connection symbols).lists

/-- Leaving all buckets of one's symbols leaves nothing. -/
theorem leaveAllBuckets_lists (lists : bySymbol.Lists held) (connection : Client) :
    (leaveBuckets connection bySymbol (bucketsOf bySymbol (held connection))).Lists
      (Function.update held connection ∅) := by
  have left := leaveBuckets_lists lists connection (bucketsOf bySymbol (held connection))
  have none : held connection \ (bucketsOf bySymbol (held connection)).toFinset = ∅ := by
    rw [Finset.sdiff_eq_empty_iff_subset]
    intro symbol mem
    have here : symbol ∈ bySymbol.symbols := lists.mem_symbols.mpr ⟨connection, mem⟩
    rw [FeedIndex.symbols, List.mem_toFinset] at here
    simp only [bucketsOf, List.mem_toFinset, List.mem_filter, decide_eq_true_eq]
    exact ⟨here, mem⟩
  rwa [none] at left

theorem enterBuckets_lists (lists : bySymbol.Lists held) (connection : Client)
    (symbols : List String) :
    FeedIndex.Lists (symbols.foldl (fun bySymbol symbol =>
        bySymbol.set symbol (insert connection (bySymbol.clients symbol))) bySymbol)
      (Function.update held connection (held connection ∪ symbols.toFinset)) := by
  induction symbols generalizing bySymbol held with
  | nil =>
      rw [List.toFinset_nil, Finset.union_empty, Function.update_eq_self]
      exact lists
  | cons symbol rest ih =>
      have here : bySymbol.Lists (Function.update held connection (held connection)) := by
        rwa [Function.update_eq_self]
      have more := ih (here.insert symbol)
      rw [Function.update_self, Function.update_idem] at more
      rw [List.foldl_cons, List.toFinset_cons]
      convert more using 2
      ext other
      simp only [Finset.mem_union, Finset.mem_insert]
      tauto

/-- The symbols of the connections after the entry of one is replaced. -/
theorem held_set (byConnection : OrderedDict Client (Finset String)) (symbols : Finset String) :
    (fun other => ((byConnection.set connection symbols).get? other).getD ∅) =
      Function.update (fun other => (byConnection.get? other).getD ∅) connection symbols := by
  funext other
  rw [OrderedDict.get?_set, Function.update_apply]
  split <;> rfl

/-- The symbols of the connections after the entry of one is taken out. -/
theorem held_erase (byConnection : OrderedDict Client (Finset String)) :
    (fun other => ((byConnection.erase connection).get? other).getD ∅) =
      Function.update (fun other => (byConnection.get? other).getD ∅) connection ∅ := by
  funext other
  rw [OrderedDict.get?_erase, Function.update_apply]
  split <;> rfl

end Buckets

section Registry

variable {fanout : FlowFanout Client}

theorem named_normalized (symbols : List String) : "" ∉ normalized symbols := by
  intro mem
  obtain ⟨symbol, named, none⟩ := List.mem_map.mp mem
  have visible : symbol ≠ "" := by simpa using (List.mem_filter.mp named).2
  have chars : Text.upperChars symbol.toList = [] := by
    simpa [upper] using congrArg String.toList none
  rw [Text.upperChars, List.flatMap_eq_nil_iff] at chars
  obtain ⟨c, first⟩ := List.exists_mem_of_ne_nil symbol.toList (by simpa using visible)
  exact Unicode.upper_ne_nil c (chars c first)

omit [Unicode] in
/-- A registry in which one connection's entry was replaced. -/
theorem Consistent.replace {after : FlowFanout Client} {connection : Client}
    {symbols : Finset String} (consistent : fanout.Consistent)
    (lists : after.bySymbol.Lists (Function.update fanout.held connection symbols))
    (held : after.held = Function.update fanout.held connection symbols)
    (named : "" ∉ symbols)
    (entry : after.byConnection.contains connection = true ↔
      connection ∈ after.all ∨ symbols.Nonempty)
    (contains : ∀ other, other ≠ connection →
      after.byConnection.contains other = fanout.byConnection.contains other)
    (all : ∀ other, other ≠ connection → (other ∈ after.all ↔ other ∈ fanout.all)) :
    after.Consistent := by
  refine ⟨held ▸ lists, fun other => ?_, fun other => ?_⟩
  · rw [held]
    by_cases same : other = connection
    · subst same
      rwa [Function.update_self]
    · rw [Function.update_of_ne same, contains other same, all other same]
      exact consistent.entry other
  · rw [held]
    by_cases same : other = connection
    · subst same
      rwa [Function.update_self]
    · rw [Function.update_of_ne same]
      exact consistent.named other

omit [Unicode] in
theorem initial_consistent : (initial : FlowFanout Client).Consistent where
  lists :=
    ⟨fun _ _ => by simp [initial, held, FeedIndex.clients, OrderedDict.get?, OrderedDict.empty],
    fun _ => by simp [initial, OrderedDict.get?, OrderedDict.empty]⟩
  entry _ := by simp [initial, held, OrderedDict.contains, OrderedDict.get?, OrderedDict.empty]
  named _ := by simp [initial, held, OrderedDict.get?, OrderedDict.empty]

theorem Consistent.subscribe (consistent : fanout.Consistent) (connection : Client)
    (symbols : List String) : (fanout.subscribe connection symbols).Consistent := by
  have entries (feeds : Finset String) :
      (fun other => ((fanout.byConnection.set connection feeds).get? other).getD ∅) =
        Function.update fanout.held connection feeds := held_set _ _
  have contains (feeds : Finset String) (other : Client) (apart : other ≠ connection) :
      (fanout.byConnection.set connection feeds).contains other =
        fanout.byConnection.contains other := by
    simp [OrderedDict.contains, OrderedDict.get?_set, apart]
  have present (feeds : Finset String) :
      (fanout.byConnection.set connection feeds).contains connection = true := by
    simp [OrderedDict.contains, OrderedDict.get?_set]
  unfold FlowFanout.subscribe
  split
  · exact consistent.replace (leaveAllBuckets_lists consistent.lists connection) (entries ∅)
      (Finset.notMem_empty _) (iff_of_true (present ∅) (.inl (Finset.mem_insert_self _ _)))
      (contains ∅) fun other apart => by simp [apart]
  next some =>
    refine consistent.replace (enterBuckets_lists consistent.lists connection (normalized symbols))
      (entries _) ?_ (iff_of_true (present _) (.inr ?_)) (contains _) fun other _ => Iff.rfl
    · rw [Finset.mem_union, not_or, List.mem_toFinset]
      exact ⟨consistent.named connection, named_normalized symbols⟩
    · obtain ⟨symbol, mem⟩ := List.exists_mem_of_ne_nil _ some
      exact ⟨symbol, Finset.mem_union_right _ (List.mem_toFinset.mpr mem)⟩

omit [Unicode] in
theorem Consistent.clientDisconnect (consistent : fanout.Consistent) (connection : Client) :
    (fanout.clientDisconnect connection).Consistent := by
  refine consistent.replace (leaveAllBuckets_lists consistent.lists connection) (held_erase _)
    (Finset.notMem_empty _) ?_ (fun other apart => ?_) fun other apart => ?_
  · simp [FlowFanout.clientDisconnect, OrderedDict.contains, OrderedDict.get?_erase]
  · simp [FlowFanout.clientDisconnect, OrderedDict.contains, OrderedDict.get?_erase, apart]
  · simp [FlowFanout.clientDisconnect, apart]

theorem Consistent.unsubscribe (consistent : fanout.Consistent) (connection : Client)
    (symbols : List String) : (fanout.unsubscribe connection symbols).Consistent := by
  unfold FlowFanout.unsubscribe
  split
  · exact consistent.clientDisconnect connection
  · have left := leaveBuckets_lists consistent.lists connection (normalized symbols)
    cases found : fanout.byConnection.get? connection with
    | none =>
        have nothing : fanout.held connection = ∅ := by rw [FlowFanout.held, found]; rfl
        rw [nothing, Finset.empty_sdiff] at left
        refine consistent.replace left ?_ (Finset.notMem_empty _) ?_ (fun _ _ => rfl)
          fun _ _ => Iff.rfl
        · rw [← nothing, Function.update_eq_self]
          rfl
        · have entry := consistent.entry connection
          rwa [nothing] at entry
    | some feeds =>
        have own : fanout.held connection = feeds := by rw [FlowFanout.held, found]; rfl
        rw [own] at left
        have named : "" ∉ feeds \ (normalized symbols).toFinset := fun mem =>
          consistent.named connection (own ▸ (Finset.mem_sdiff.mp mem).1)
        dsimp only
        split
        next gone =>
          rw [gone.1] at left
          refine consistent.replace left (held_erase _) (Finset.notMem_empty _) ?_
            (fun other apart => ?_) fun _ _ => Iff.rfl
          · simp [OrderedDict.contains, OrderedDict.get?_erase, gone.2]
          · simp [OrderedDict.contains, OrderedDict.get?_erase, apart]
        next kept =>
          refine consistent.replace left (held_set _ _) named ?_ (fun other apart => ?_)
            fun _ _ => Iff.rfl
          · refine iff_of_true (by simp [OrderedDict.contains, OrderedDict.get?_set]) ?_
            rw [not_and_or, not_not, ← ne_eq, ← Finset.nonempty_iff_ne_empty] at kept
            exact kept.symm
          · simp [OrderedDict.contains, OrderedDict.get?_set, apart]

end Registry

end FlowFanout

/-! ## Sequences of calls -/

/-- A call that changes the registry. -/
inductive FlowCall (Client : Type)
  | subscribe (connection : Client) (symbols : List String)
  | unsubscribe (connection : Client) (symbols : List String)
  | clientDisconnect (connection : Client)

namespace FlowFanout

variable {Client : Type} [DecidableEq Client]

/-- One of the tables has the connection. -/
def Mentions (fanout : FlowFanout Client) (connection : Client) : Prop :=
  connection ∈ fanout.all ∨ fanout.byConnection.contains connection = true ∨
    ∃ symbol, connection ∈ fanout.bySymbol.clients symbol

variable [Unicode]

/-- The registry after a call. -/
def call (fanout : FlowFanout Client) : FlowCall Client → FlowFanout Client
  | .subscribe connection symbols => fanout.subscribe connection symbols
  | .unsubscribe connection symbols => fanout.unsubscribe connection symbols
  | .clientDisconnect connection => fanout.clientDisconnect connection

/-- The registry after a sequence of calls. -/
def run (calls : List (FlowCall Client)) : FlowFanout Client := calls.foldl call .initial

theorem run_consistent (calls : List (FlowCall Client)) : (run calls).Consistent := by
  refine List.foldlRecOn (motive := Consistent) calls call initial_consistent ?_
  intro fanout consistent call _
  cases call with
  | subscribe connection symbols => exact consistent.subscribe connection symbols
  | unsubscribe connection symbols => exact consistent.unsubscribe connection symbols
  | clientDisconnect connection => exact consistent.clientDisconnect connection

theorem Consistent.mem_targets {fanout : FlowFanout Client} (consistent : fanout.Consistent)
    {symbol : String} {connection : Client} : connection ∈ fanout.targets symbol ↔
      connection ∈ fanout.all ∨ upper symbol ∈ fanout.held connection := by
  unfold targets
  split
  next none =>
    subst none
    have nothing : upper "" ∉ fanout.held connection := consistent.named connection
    simp [nothing]
  · rw [Finset.mem_union, consistent.lists.mem_clients]

omit [Unicode] in
/-- A connection that leaves is in none of the tables. -/
theorem Consistent.not_mentions {fanout : FlowFanout Client} (consistent : fanout.Consistent)
    (connection : Client) : ¬ (fanout.clientDisconnect connection).Mentions connection := by
  have left := consistent.clientDisconnect connection
  have entry : (fanout.clientDisconnect connection).byConnection.contains connection = false := by
    simp [FlowFanout.clientDisconnect, OrderedDict.contains, OrderedDict.get?_erase]
  have nothing := (left.entry connection).not.mp (by rw [entry]; exact Bool.false_ne_true)
  rw [not_or, Finset.not_nonempty_iff_eq_empty] at nothing
  rintro (all | listed | ⟨symbol, mem⟩)
  · exact nothing.1 all
  · rw [entry] at listed
    cases listed
  · have held := (left.lists.mem_clients symbol connection).mp mem
    rw [nothing.2] at held
    cases held

/-- After any calls the tables say the same, an event goes to the right connections, and a
connection that leaves is forgotten. -/
theorem registry_stays_consistent (calls : List (FlowCall Client)) (connection : Client)
    (symbol : String) :
    (connection ∈ (run calls).bySymbol.clients symbol ↔ symbol ∈ (run calls).held connection) ∧
      (run calls).bySymbol.get? symbol ≠ some ∅ ∧
      ((run calls).byConnection.contains connection = true ↔
        connection ∈ (run calls).all ∨ ((run calls).held connection).Nonempty) ∧
      (connection ∈ (run calls).targets symbol ↔
        connection ∈ (run calls).all ∨ upper symbol ∈ (run calls).held connection) ∧
      ¬ ((run calls).clientDisconnect connection).Mentions connection := by
  have consistent := run_consistent calls
  exact ⟨consistent.lists.mem_clients symbol connection, consistent.lists.wanted symbol,
    consistent.entry connection, consistent.mem_targets, consistent.not_mentions connection⟩

end FlowFanout

end Streaming
end DataGateway
