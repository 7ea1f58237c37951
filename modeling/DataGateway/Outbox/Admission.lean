import DataGateway.Outbox.Table
import Mathlib.Data.List.Pairwise

/-!
# Admission is all or none

What a successful admission appends is a function of the stored keys and the batch: the messages
whose key is neither stored nor earlier in the batch.  Everything the claim about admission needs
(flags, order, sequences, unique keys, bytes) is read off that one description.
-/

namespace DataGateway
namespace Outbox

variable {Dict : Type} [Encoding Dict]

namespace Table

/-! ## Rows -/

/-- The stored pairs of topic and event id. -/
def keys (table : Table) : List (String × String) := table.rows.map (·.key)

/-- What every write keeps true of the table. -/
structure WellFormed (Dict : Type) [Encoding Dict] (table : Table) : Prop where
  ordered : table.rows.Pairwise (·.sequence < ·.sequence)
  bounded : ∀ row ∈ table.rows, row.sequence ≤ table.lastSequence
  unique : table.keys.Nodup
  digests : ∀ row ∈ table.rows, row.payloadDigest = Encoding.sha256 Dict row.payload

theorem lookup_eq_none {table : Table} {key : String × String} :
    table.lookup key = none ↔ key ∉ table.keys := by
  simp [lookup, keys]

theorem lookup_eq_some {table : Table} {key : String × String} {row : OutboxEntry}
    (found : table.lookup key = some row) : row ∈ table.rows ∧ row.key = key :=
  ⟨List.mem_of_find?_eq_some found, by simpa using List.find?_some found⟩

/-! ## What an admission appends -/

/-- For each message, whether its key is neither known nor earlier in the batch. -/
def newFlags : List (String × String) → List Prepared → List Bool
  | _, [] => []
  | known, message :: rest => (message.key ∉ known) :: newFlags (message.key :: known) rest

/-- The messages of a batch with a flag. -/
def selected (messages : List Prepared) (flags : List Bool) : List Prepared :=
  ((messages.zip flags).filter (·.2)).map (·.1)

variable (Dict) in
/-- The rows of messages that are inserted one after the other. -/
def newRows (disk : Disk) : Nat → List Prepared → List OutboxEntry
  | _, [] => []
  | last, message :: rest => newRow Dict disk (last + 1) message :: newRows disk (last + 1) rest

variable (Dict) in
/-- The table after some messages were inserted. -/
def append (disk : Disk) (table : Table) (messages : List Prepared) : Table :=
  ⟨table.rows ++ newRows Dict disk table.lastSequence messages,
    table.lastSequence + messages.length⟩

theorem newFlags_congr {known known' : List (String × String)}
    (same : ∀ key, key ∈ known ↔ key ∈ known')
    (messages : List Prepared) : newFlags known messages = newFlags known' messages := by
  induction messages generalizing known known' with
  | nil => rfl
  | cons message rest ih =>
      simp only [newFlags, same]
      have grown : ∀ key, key ∈ message.key :: known ↔ key ∈ message.key :: known' :=
        fun key => by
        simp [same]
      rw [ih grown]

@[simp]
theorem newFlags_length {known : List (String × String)} {messages : List Prepared} :
    (newFlags known messages).length = messages.length := by
  induction messages generalizing known with
  | nil => rfl
  | cons message rest ih => simp [newFlags, ih]

/-- A flag is set exactly at the first occurrence of a key that was not known. -/
theorem newFlags_getElem {known : List (String × String)} {messages : List Prepared} {i : Nat}
    {message : Prepared} (here : messages[i]? = some message) :
    (newFlags known messages)[i]? = some true ↔
      message.key ∉ known ∧ ∀ earlier ∈ messages.take i, earlier.key ≠ message.key := by
  induction messages generalizing known i with
  | nil => simp at here
  | cons first rest ih =>
      cases i with
      | zero =>
          obtain rfl : first = message := by simpa using here
          simp [newFlags]
      | succ i =>
          rw [newFlags, List.getElem?_cons_succ, ih (by simpa using here)]
          simp only [List.mem_cons, not_or, List.take_succ_cons, forall_eq_or_imp]
          grind

theorem insert_eq_some {disk : Disk} {table after : Table} {message : Prepared}
    (inserted : table.insert Dict disk message = some after) :
    message.key ∉ table.keys ∧ after = table.append Dict disk [message] := by
  unfold insert at inserted
  split at inserted
  · cases inserted
  next absent =>
    refine ⟨lookup_eq_none.mp (by simpa using absent), (Option.some.inj inserted).symm⟩

theorem append_append {disk : Disk} {table : Table} {first second : List Prepared} :
    (table.append Dict disk first).append Dict disk second =
      table.append Dict disk (first ++ second) := by
  have rows : ∀ (messages : List Prepared) (last : Nat),
      newRows Dict disk last (messages ++ second) =
        newRows Dict disk last messages ++ newRows Dict disk (last + messages.length) second := by
    intro messages
    induction messages with
    | nil => simp [newRows]
    | cons message rest ih =>
        intro last
        simp [newRows, ih, Nat.add_assoc, Nat.add_comm 1]
  simp [append, rows, Nat.add_assoc]

theorem newRows_map {α : Type} {disk : Disk} {last : Nat} {messages : List Prepared}
    {read : OutboxEntry → α} (value : Prepared → α)
    (reads : ∀ sequence message, read (newRow Dict disk sequence message) = value message) :
    (newRows Dict disk last messages).map read = messages.map value := by
  induction messages generalizing last with
  | nil => rfl
  | cons message rest ih => simp [newRows, reads, ih]

theorem mem_newRows {disk : Disk} {last : Nat} {messages : List Prepared} {row : OutboxEntry}
    (mem : row ∈ newRows Dict disk last messages) :
    ∃ sequence, ∃ message ∈ messages, row = newRow Dict disk sequence message := by
  induction messages generalizing last with
  | nil => cases mem
  | cons message rest ih =>
      rcases List.mem_cons.mp mem with rfl | later
      · exact ⟨_, message, .head _, rfl⟩
      · obtain ⟨sequence, other, found, rfl⟩ := ih later
        exact ⟨sequence, other, .tail _ found, rfl⟩

variable (Dict) in
theorem newRows_sequences (disk : Disk) (last : Nat) (messages : List Prepared) :
    (∀ row ∈ newRows Dict disk last messages,
      last < row.sequence ∧ row.sequence ≤ last + messages.length) ∧
    (newRows Dict disk last messages).Pairwise (·.sequence < ·.sequence) := by
  induction messages generalizing last with
  | nil => simp [newRows]
  | cons message rest ih =>
      obtain ⟨bounds, ordered⟩ := ih (last + 1)
      simp only [newRows, List.mem_cons, forall_eq_or_imp, List.pairwise_cons, List.length_cons]
      refine ⟨⟨by simp [newRow], fun row mem => ?_⟩, fun row mem => ?_, ordered⟩
      · have := bounds row mem
        omega
      · exact (bounds row mem).1

theorem keys_append {disk : Disk} {table : Table} {messages : List Prepared} :
    (table.append Dict disk messages).keys = table.keys ++ messages.map (·.key) := by
  simp only [keys, append, List.map_append]
  rw [newRows_map (·.key) fun _ _ => rfl]

@[simp]
theorem selected_cons {message : Prepared} {rest : List Prepared} {flag : Bool}
    {flags : List Bool} :
    selected (message :: rest) (flag :: flags) =
      if flag then message :: selected rest flags else selected rest flags := by
  cases flag <;> simp [selected]

/-- The second pass appends the new messages and reports them. -/
theorem insertAll_eq {disk : Disk} {position : Nat} {messages : List Prepared} {table after : Table}
    {flags : List Bool}
    (inserted : insertAll Dict disk position messages table = .ok (flags, after)) :
    flags = newFlags table.keys messages ∧
      after = table.append Dict disk (selected messages flags) := by
  induction messages generalizing position table flags after with
  | nil =>
      obtain ⟨rfl, rfl⟩ : [] = flags ∧ table = after := by simpa [insertAll] using inserted
      simp [newFlags, selected, append, newRows]
  | cons message rest ih =>
      rw [insertAll] at inserted
      split at inserted
      · cases inserted
      split at inserted
      next middle stored =>
        obtain ⟨absent, rfl⟩ := insert_eq_some stored
        cases remaining : insertAll Dict disk (position + 1) rest
            (table.append Dict disk [message]) with
        | error error => simp [remaining, Except.map] at inserted
        | ok result =>
            obtain ⟨later, last⟩ := result
            simp only [remaining, Except.map, Except.ok.injEq, Prod.mk.injEq] at inserted
            obtain ⟨rfl, rfl⟩ := inserted
            obtain ⟨rfl, rfl⟩ := ih remaining
            refine ⟨?_, by simp [append_append]⟩
            simp only [newFlags, absent, not_false_eq_true, decide_true, List.cons.injEq, true_and]
            exact newFlags_congr (fun key => by simp [keys_append, or_comm]) rest
      next refused =>
        have known : message.key ∈ table.keys := by
          by_contra absent
          simp [insert, lookup_eq_none.mpr absent] at refused
        split at inserted
        · cases inserted
        split at inserted
        next existing found =>
          split at inserted
          next same =>
            cases remaining : insertAll Dict disk (position + 1) rest table with
            | error error => simp [remaining, Except.map] at inserted
            | ok result =>
                obtain ⟨later, last⟩ := result
                simp only [remaining, Except.map, Except.ok.injEq, Prod.mk.injEq] at inserted
                obtain ⟨rfl, rfl⟩ := inserted
                obtain ⟨rfl, rfl⟩ := ih remaining
                refine ⟨?_, by simp⟩
                simp only [newFlags, known, not_true_eq_false, decide_false, List.cons.injEq,
                  true_and]
                exact newFlags_congr (fun key => by grind) rest
          · cases inserted
        · cases inserted

/-! ## Bytes -/

/-- The bytes that an admission budgets for a message. -/
def budget (messages : List Prepared) : Nat := (messages.map (·.payload.length + 512)).sum

theorem pendingBytes_append {disk : Disk} {table : Table} {messages : List Prepared} :
    (table.append Dict disk messages).pendingBytes = table.pendingBytes + budget messages := by
  simp only [pendingBytes, append, List.map_append, List.sum_append, budget]
  rw [newRows_map (·.payload.length + 512) fun _ _ => rfl]

/-- New messages are among those that the first pass counts. -/
theorem budget_selected_le {disk : Disk} {position additional : Nat} {messages : List Prepared}
    {table : Table} {known : List (String × String)}
    (stored : ∀ key ∈ table.keys, key ∈ known)
    (checked : precheck Dict disk table position messages = .ok additional) :
    budget (selected messages (newFlags known messages)) ≤ additional := by
  induction messages generalizing position additional known with
  | nil => simp [selected, budget]
  | cons message rest ih =>
      have larger : ∀ key ∈ table.keys, key ∈ message.key :: known :=
        fun key mem => .tail _ (stored key mem)
      rw [precheck] at checked
      split at checked
      · cases checked
      split at checked
      next existing found =>
        split at checked
        next =>
          obtain ⟨mem, same⟩ := lookup_eq_some found
          have old : message.key ∈ known := stored _ (same ▸ List.mem_map_of_mem mem)
          simpa [newFlags, old] using ih larger checked
        · cases checked
      next =>
        cases counted : precheck Dict disk table (position + 1) rest with
        | error error => simp [counted, Except.map] at checked
        | ok count =>
            have most := ih larger counted
            obtain rfl : message.payload.length + 512 + count = additional := by
              simpa [counted, Except.map] using checked
            by_cases old : message.key ∈ known
            · simp only [newFlags, old, not_true_eq_false, decide_false, selected_cons]
              simp only [Bool.false_eq_true, if_false]
              omega
            · simp only [newFlags, old, not_false_eq_true, decide_true, selected_cons, if_true,
                budget, List.map_cons, List.sum_cons] at most ⊢
              omega

/-! ## One admission -/

theorem transaction_ok {α : Type} {table after : Table} {body : Except OutboxError (α × Table)}
    {result : α} (committed : table.transaction body = (.ok result, after)) :
    body = .ok (result, after) := by
  match body with
  | .ok (_, _) =>
      obtain ⟨rfl, rfl⟩ : _ = result ∧ _ = after := by simpa [transaction] using committed
      rfl
  | .error error => simp [transaction] at committed

theorem transaction_error {α : Type} {table after : Table} {body : Except OutboxError (α × Table)}
    {error : OutboxError} (raised : table.transaction body = (.error error, after)) :
    after = table := by
  match body with
  | .ok (_, _) => simp [transaction] at raised
  | .error _ => exact (Prod.mk.inj raised).2.symm

/-- An admission that does not raise has made both passes, and found room after the first. -/
theorem admitPrepared_committed {maxBytes : Option Nat} {disk : Disk} {table after : Table}
    {messages : List Prepared} {flags : List Bool}
    (admitted : admitPrepared Dict maxBytes disk table messages = (.ok flags, after)) :
    insertAll Dict disk 0 messages table = .ok (flags, after) ∧
      ∃ additional, precheck Dict disk table 0 messages = .ok additional ∧
        ∀ limit ∈ maxBytes, table.pendingBytes + additional ≤ limit := by
  unfold admitPrepared at admitted
  split at admitted
  · cases admitted
  have committed := transaction_ok admitted
  cases checked : precheck Dict disk table 0 messages with
  | error error => simp [checked, bind, Except.bind] at committed
  | ok additional =>
      simp only [checked, bind, Except.bind] at committed
      split at committed
      · cases committed
      split at committed
      · cases committed
      next fits =>
        split at committed
        · cases committed
        cases inserted : insertAll Dict disk 0 messages table with
        | error error => simp [inserted] at committed
        | ok result =>
            simp only [inserted] at committed
            split at committed
            · cases committed
            obtain rfl : result = (flags, after) := Except.ok.inj committed
            refine ⟨rfl, additional, rfl, fun limit bound => ?_⟩
            obtain rfl : maxBytes = some limit := bound
            simpa using fits

/-- An admission that does not raise appends the new messages, and fits the budget. -/
theorem admitPrepared_ok {maxBytes : Option Nat} {disk : Disk} {table after : Table}
    {messages : List Prepared} {flags : List Bool}
    (admitted : admitPrepared Dict maxBytes disk table messages = (.ok flags, after)) :
    flags = newFlags table.keys messages ∧
      after = table.append Dict disk (selected messages flags) ∧
      ∀ limit ∈ maxBytes, after.pendingBytes ≤ limit := by
  obtain ⟨inserted, additional, checked, fits⟩ := admitPrepared_committed admitted
  obtain ⟨rfl, rfl⟩ := insertAll_eq inserted
  refine ⟨rfl, rfl, fun limit bound => ?_⟩
  have most := budget_selected_le (fun _ (mem : _ ∈ table.keys) => mem) checked
  have room := fits limit bound
  rw [pendingBytes_append]
  omega

/-- An admission that raises leaves the table as it was. -/
theorem admitPrepared_error {maxBytes : Option Nat} {disk : Disk} {table after : Table}
    {messages : List Prepared} {error : OutboxError}
    (admitted : admitPrepared Dict maxBytes disk table messages = (.error error, after)) :
    after = table := by
  unfold admitPrepared at admitted
  split at admitted
  · exact (Prod.mk.inj admitted).2.symm
  · exact transaction_error admitted

/-! ## Every reachable table -/

theorem WellFormed.empty : WellFormed Dict .empty := ⟨.nil, nofun, .nil, nofun⟩

/-- The keys that are selected are new and different from each other. -/
theorem selected_keys (known : List (String × String)) (messages : List Prepared) :
    ((selected messages (newFlags known messages)).map (·.key)).Nodup ∧
      ∀ message ∈ selected messages (newFlags known messages), message.key ∉ known := by
  induction messages generalizing known with
  | nil => simp [selected]
  | cons message rest ih =>
      obtain ⟨distinct, fresh⟩ := ih (message.key :: known)
      by_cases old : message.key ∈ known
      · simp only [newFlags, old, not_true_eq_false, decide_false, selected_cons,
          Bool.false_eq_true, if_false]
        exact ⟨distinct, fun later mem stored => fresh later mem (.tail _ stored)⟩
      · simp only [newFlags, old, not_false_eq_true, decide_true, selected_cons, if_true,
          List.map_cons, List.nodup_cons, List.mem_cons, forall_eq_or_imp, true_and]
        refine ⟨⟨fun again => ?_, distinct⟩,
          fun later mem stored => fresh later mem (.tail _ stored)⟩
        obtain ⟨later, mem, same⟩ := List.mem_map.mp again
        exact fresh later mem (by simp [same])

theorem WellFormed.append {disk : Disk} {table : Table} {messages : List Prepared}
    (wellFormed : WellFormed Dict table) (distinct : (messages.map (·.key)).Nodup)
    (fresh : ∀ message ∈ messages, message.key ∉ table.keys) :
    WellFormed Dict (table.append Dict disk messages) := by
  obtain ⟨bounds, ordered⟩ := newRows_sequences Dict disk
    table.lastSequence messages
  refine ⟨?_, ?_, ?_, ?_⟩
  · refine List.pairwise_append.mpr ⟨wellFormed.ordered, ordered, fun old stored new mem => ?_⟩
    exact Nat.lt_of_le_of_lt (wellFormed.bounded old stored) (bounds new mem).1
  · intro row mem
    rcases List.mem_append.mp mem with stored | added
    · exact Nat.le_trans (wellFormed.bounded row stored) (Nat.le_add_right _ _)
    · exact (bounds row added).2
  · rw [keys_append]
    refine List.nodup_append.mpr ⟨wellFormed.unique, distinct, fun key stored new mem same => ?_⟩
    obtain ⟨message, selected, rfl⟩ := List.mem_map.mp mem
    exact fresh message selected (same ▸ stored)
  · intro row mem
    rcases List.mem_append.mp mem with stored | added
    · exact wellFormed.digests row stored
    · obtain ⟨_, _, _, rfl⟩ := mem_newRows added
      rfl

theorem WellFormed.filter {table : Table} (wellFormed : WellFormed Dict table)
    (keep : OutboxEntry → Bool) :
    WellFormed Dict { table with rows := table.rows.filter keep } where
  ordered := wellFormed.ordered.filter keep
  bounded row mem := wellFormed.bounded row (List.mem_filter.mp mem).1
  unique := wellFormed.unique.sublist (List.filter_sublist.map _)
  digests row mem := wellFormed.digests row (List.mem_filter.mp mem).1

/-- A failure changes only the attempts and the last error of a row. -/
theorem markFailed_rows {α : Type} {table : Table} {sequence : Nat} {error : String}
    {read : OutboxEntry → α}
    (same : ∀ row attempts lastError,
      read { row with attempts := attempts, lastError := lastError } = read row) :
    (table.markFailed sequence error).rows.map read = table.rows.map read := by
  simp only [markFailed, List.map_map]
  refine List.map_congr_left fun row _ => ?_
  simp only [Function.comp_apply]
  split
  · exact same row _ _
  · rfl

theorem WellFormed.markFailed {table : Table} (wellFormed : WellFormed Dict table) (sequence : Nat)
    (error : String) : WellFormed Dict (table.markFailed sequence error) := by
  refine ⟨List.pairwise_map.mpr (wellFormed.ordered.imp ?_), ?_, ?_, ?_⟩
  · intro earlier later less
    split <;> split <;> exact less
  · intro row mem
    obtain ⟨old, stored, rfl⟩ := List.mem_map.mp mem
    split <;> exact wellFormed.bounded old stored
  · rw [keys, markFailed_rows fun _ _ _ => rfl]
    exact wellFormed.unique
  · intro row mem
    obtain ⟨old, stored, rfl⟩ := List.mem_map.mp mem
    split <;> exact wellFormed.digests old stored

theorem WellFormed.admitPrepared {table after : Table} (wellFormed : WellFormed Dict table)
    {maxBytes : Option Nat} {disk : Disk} {messages : List Prepared}
    {result : Except OutboxError (List Bool)}
    (admitted : Table.admitPrepared Dict maxBytes disk table messages = (result, after)) :
    WellFormed Dict after := by
  match result with
  | .error error =>
      rw [admitPrepared_error admitted]
      exact wellFormed
  | .ok flags =>
      obtain ⟨rfl, rfl, _⟩ := admitPrepared_ok admitted
      exact wellFormed.append (selected_keys _ _).1 (selected_keys _ _).2

end Table

/-- The writing methods of the outbox with everything that is decided outside of it. -/
inductive Operation (Dict : Type)
  | admitMessage (maxBytes : Option Nat) (disk : Disk) (message : Message Dict)
      (explicit : Option String)
  | admitMany (maxBytes : Option Nat) (disk : Disk) (messages : List (Message Dict))
  | acknowledge (fails : Bool) (sequence : Nat)
  | recordFailure (fails : Bool) (sequence : Nat) (error : String)
  | settlePublications (fails : Bool) (acknowledged : List Nat) (failures : List (Nat × String))

/-- The table after an operation. -/
def Operation.apply (table : Table) : Operation Dict → Table
  | .admitMessage maxBytes disk message explicit =>
      (table.admitMessage maxBytes disk message explicit).2
  | .admitMany maxBytes disk messages => (table.admitMany maxBytes disk messages).2
  | .acknowledge fails sequence => (table.acknowledge fails sequence).2
  | .recordFailure fails sequence error => (table.recordFailure fails sequence error).2
  | .settlePublications fails acknowledged failures =>
      (table.settlePublications fails acknowledged failures).2

variable (Dict) in
/-- A table that operations of any number of processes have made of an empty one. -/
def Reachable (table : Table) : Prop :=
  ∃ operations : List (Operation Dict), table = operations.foldl Operation.apply .empty

namespace Table

theorem WellFormed.settlePublications {table : Table} (wellFormed : WellFormed Dict table)
    (fails : Bool) (acknowledged : List Nat) (failures : List (Nat × String)) :
    WellFormed Dict (table.settlePublications fails acknowledged failures).2 :=
  settlePublications_preserves (P := WellFormed Dict)
    (fun _ _ _ kept => kept.markFailed _ _) wellFormed (wellFormed.filter _)

theorem WellFormed.apply {table : Table} (wellFormed : WellFormed Dict table)
    (operation : Operation Dict) : WellFormed Dict (operation.apply table) := by
  cases operation with
  | admitMessage maxBytes disk message explicit =>
      simp only [Operation.apply, Table.admitMessage]
      split
      · exact wellFormed
      · exact wellFormed.admitPrepared rfl
  | admitMany maxBytes disk messages =>
      simp only [Operation.apply, Table.admitMany]
      split
      · exact wellFormed
      · exact wellFormed.admitPrepared rfl
  | acknowledge fails sequence =>
      cases fails
      · exact wellFormed.filter _
      · exact wellFormed
  | recordFailure fails sequence error =>
      cases fails
      · exact wellFormed.markFailed sequence error
      · exact wellFormed
  | settlePublications fails acknowledged failures =>
      exact wellFormed.settlePublications fails acknowledged failures

end Table

theorem Reachable.wellFormed {table : Table} (reachable : Reachable Dict table) :
    table.WellFormed Dict := by
  obtain ⟨operations, rfl⟩ := reachable
  have run : ∀ (operations : List (Operation Dict)) (table : Table), table.WellFormed Dict →
      (operations.foldl Operation.apply table).WellFormed Dict := by
    intro operations
    induction operations with
    | nil => exact fun _ kept => kept
    | cons operation rest ih => exact fun table kept => ih _ (kept.apply operation)
  exact run operations .empty .empty

/-- Every element of a list that is mapped without an error has its result. -/
theorem mapM_mem {α β ε : Type} {f : α → Except ε β} {inputs : List α} {outputs : List β}
    (mapped : inputs.mapM f = .ok outputs) {input : α} (mem : input ∈ inputs) :
    ∃ output ∈ outputs, f input = .ok output := by
  induction inputs generalizing outputs with
  | nil => cases mem
  | cons first rest ih =>
      rw [List.mapM_cons] at mapped
      cases head : f first with
      | error error => simp [head, bind, Except.bind] at mapped
      | ok output =>
          cases tail : rest.mapM f with
          | error error => simp [head, tail, bind, Except.bind] at mapped
          | ok others =>
              obtain rfl : output :: others = outputs := by
                simpa [head, tail, bind, Except.bind, pure, Except.pure] using mapped
              rcases List.mem_cons.mp mem with rfl | later
              · exact ⟨output, .head _, head⟩
              · obtain ⟨found, own, ok⟩ := ih tail later
                exact ⟨found, .tail _ own, ok⟩

theorem prepared_length {messages : List (Message Dict)} {prepared : List Prepared}
    (ready : messages.mapM (prepare · none) = .ok prepared) :
    prepared.length = messages.length := by
  induction messages generalizing prepared with
  | nil =>
      obtain rfl : [] = prepared := by simpa [pure, Except.pure] using ready
      rfl
  | cons message rest ih =>
      rw [List.mapM_cons] at ready
      cases first : prepare message none with
      | error error => simp [first, bind, Except.bind] at ready
      | ok head =>
          cases later : rest.mapM (prepare · none) with
          | error error => simp [first, later, bind, Except.bind] at ready
          | ok tail =>
              obtain rfl : head :: tail = prepared := by
                simpa [first, later, bind, Except.bind, pure, Except.pure] using ready
              simp [ih later]

/-- The columns of a row that come from its message. -/
def OutboxEntry.message (row : OutboxEntry) : Prepared := ⟨row.topic, row.eventId, row.payload⟩

/-- Every reachable table is well formed, and an admission of any batch into it either raises and
changes nothing, or appends one row for each new pair of topic and event id, in batch order and with
larger sequences than all before; then its flags mark the first occurrences of the pairs that were
absent, and the pending bytes keep the limit. -/
theorem admission_all_or_none {table : Table} (reachable : Reachable Dict table)
    (maxBytes : Option Nat) (disk : Disk) (messages : List (Message Dict)) :
    table.WellFormed Dict ∧
    ∀ after, (∀ error, table.admitMany maxBytes disk messages = (.error error, after) →
        after = table) ∧
      ∀ flags, table.admitMany maxBytes disk messages = (.ok flags, after) →
        ∃ prepared added, messages.mapM (prepare · none) = .ok prepared ∧
          flags.length = messages.length ∧
          (∀ i message, prepared[i]? = some message → (flags[i]? = some true ↔
            message.key ∉ table.keys ∧
              ∀ earlier ∈ prepared.take i, earlier.key ≠ message.key)) ∧
          after.rows = table.rows ++ added ∧
          added.map OutboxEntry.message = Table.selected prepared flags ∧
          (∀ old ∈ table.rows, ∀ new ∈ added, old.sequence < new.sequence) ∧
          added.Pairwise (·.sequence < ·.sequence) ∧
          ∀ limit ∈ maxBytes, after.pendingBytes ≤ limit := by
  refine ⟨reachable.wellFormed, fun after => ⟨fun error raised => ?_, fun flags admitted => ?_⟩⟩
  · unfold Table.admitMany at raised
    split at raised
    · exact (Prod.mk.inj raised).2.symm
    · exact Table.admitPrepared_error raised
  · unfold Table.admitMany at admitted
    split at admitted
    · cases admitted
    next prepared ready =>
      obtain ⟨rfl, rfl, fits⟩ := Table.admitPrepared_ok admitted
      obtain ⟨bounds, ordered⟩ := Table.newRows_sequences Dict disk
        table.lastSequence (Table.selected prepared (Table.newFlags table.keys prepared))
      refine ⟨prepared, _, ready, ?_, fun i message here => Table.newFlags_getElem here, rfl,
        ?_, fun old stored new mem => ?_, ordered, fits⟩
      · rw [Table.newFlags_length, prepared_length ready]
      · exact (Table.newRows_map _ fun _ _ => rfl).trans (List.map_id _)
      · exact Nat.lt_of_le_of_lt (reachable.wellFormed.bounded old stored) (bounds new mem).1

/-! ## One event twice -/

/-- A dictionary whose only entry is its event id. -/
structure EventOnly where
  eventId : String
  deriving DecidableEq, Repr

/-- Such dictionaries and the digests of two of them. -/
instance : Encoding EventOnly where
  dumps event := .ok ("\x7b\"event_id\":\"" ++ event.eventId ++ "\"\x7d")
  eventId event := some event.eventId
  sha256 payload :=
    if payload = "\x7b\"event_id\":\"evt-1\"\x7d".toUTF8.toList then
      "44fbde8d9ef83ba70136d677c10b1579fa6b7014c8e68fa9f7167a3397a95f51"
    else if payload = "\x7b\"event_id\":\"evt-2\"\x7d".toUTF8.toList then
      "acf6f2ea37ca723cba3d07a0f28fc8c12fe320374027e4b93472f0142535fc03"
    else ""

/-- An event with an event id on the live topic. -/
def liveEvent (eventId : String) : Message EventOnly := ("heber:events", .dict ⟨eventId⟩)

/-- A disk with a megabyte of room on which nothing fails. -/
def roomyDisk : Disk := ⟨1000000, "2026-08-05T00:00:00.000Z", fun _ => false⟩

/-- A table that holds one event. -/
def oneEvent : Table := Operation.apply .empty (.admitMany none roomyDisk [liveEvent "evt-1"])

/-- The stored event and a new one twice. -/
def resentBatch : List (Message EventOnly) :=
  [liveEvent "evt-1", liveEvent "evt-2", liveEvent "evt-2"]

/-- A stored event, sent again together with a new one that comes twice: one row is added. -/
theorem admission_all_or_none_duplicate :
    ∃ after, oneEvent.admitMany (some 4096) roomyDisk resentBatch =
        (.ok [false, true, false], after) ∧
      after.rows.length = 2 ∧ after.pendingBytes ≤ 4096 := by
  have computed : (oneEvent.admitMany (some 4096) roomyDisk resentBatch).1 =
        .ok [false, true, false] ∧
      (oneEvent.admitMany (some 4096) roomyDisk resentBatch).2.rows.length = 2 := by
    decide +kernel
  have reachable : Reachable EventOnly oneEvent := ⟨[_], rfl⟩
  have holds := admission_all_or_none reachable (some 4096) roomyDisk resentBatch
  revert computed holds
  generalize oneEvent.admitMany (some 4096) roomyDisk resentBatch = outcome
  obtain ⟨result, after⟩ := outcome
  rintro ⟨rfl, length⟩ ⟨_, holds⟩
  obtain ⟨_, _, _, _, _, _, _, _, _, fits⟩ := (holds after).2 _ rfl
  exact ⟨after, rfl, length, fits 4096 rfl⟩

end Outbox
end DataGateway
