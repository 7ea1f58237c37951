import DataGateway.Outbox.Admission
import DataGateway.Outbox.Sink
import DataGateway.Python.Indexed
import Mathlib.Algebra.Order.BigOperators.Group.List
import Mathlib.Algebra.Order.Group.Nat

/-!
# The lane router

`LaneRoutedSink` over any durable sink and any Redis sink.  The calls of its delegates
are parameters: the outcome of each durable transaction by its number, and the outcome
of the Redis batch.
-/

namespace DataGateway
namespace Outbox

open Indexed

variable {Dict : Type}

/-! ## Delegates -/

/-- The configured `lanes`. -/
inductive DurableLanes
  | live
  | backfill
  | both
  deriving DecidableEq, Repr

/-- `_durable_lanes`. -/
def DurableLanes.lanes : DurableLanes → List Lane
  | .both => [.live, .backfill]
  | .live => [.live]
  | .backfill => [.backfill]

/-- `_durable` and `_redis`. -/
inductive Delegate
  | durable
  | redis
  deriving DecidableEq, Repr

/-- `_delegate`. -/
def DurableLanes.delegate (lanes : DurableLanes) (topic : String) : Delegate :=
  let lane := if topic = "heber:events:backfill" then Lane.backfill else .live
  if lane ∈ lanes.lanes then .durable else .redis

/-- How a batch call of a delegate ends: its results, or an exception. -/
abbrev BatchOutcome := Except String (List Bool)

/-- The durable sink: the outcome of each transaction by its number. -/
abbrev Transactions (Dict : Type) := Nat → List (Message Dict) → BatchOutcome

/-- What a batch publish returns, and the durable transactions it has issued. -/
structure Routed (Dict : Type) where
  results : List Bool
  transactions : List (List (Message Dict))

/-- The results of one call, or of each message `False` if the call failed or miscounted. -/
def exactResults {ε : Type} (outcome : Except ε (List Bool)) (count : Nat) : List Bool :=
  match outcome with
  | .error _ => List.replicate count false
  | .ok flags => if flags.length ≠ count then List.replicate count false else flags

/-- The loop of `_publish_durable_chunks`. -/
def publishChunks (publish : Transactions Dict) : Nat → List (List (Message Dict)) → List Bool
  | _, [] => []
  | number, batch :: rest =>
      exactResults (publish number batch) batch.length ++ publishChunks publish (number + 1) rest

/-- `self._delegate(message[0]) is delegate`. -/
def DurableLanes.routes (lanes : DurableLanes) (delegate : Delegate)
    (message : Message Dict) : Bool :=
  lanes.delegate message.1 = delegate

/-- The end of the loop body of `publish_batch_results`, for what a delegate has returned. -/
def settleLane {ε : Type} (results : List Bool) (indexed : List (Message Dict × Nat))
    (outcome : Except ε (List Bool)) : List Bool :=
  match outcome with
  | .error _ => results
  | .ok flags => if flags.length ≠ indexed.length then results else assign results indexed flags

/-! ## Results -/

theorem exactResults_length {ε : Type} (outcome : Except ε (List Bool)) (count : Nat) :
    (exactResults outcome count).length = count := by
  unfold exactResults
  repeat' split
  all_goals simp_all

/-- A flag is set exactly by a call that returned it in results of the right length. -/
theorem exactResults_true {ε : Type} {outcome : Except ε (List Bool)} {count j : Nat} :
    (exactResults outcome count)[j]? = some true ↔
      ∃ flags, outcome = .ok flags ∧ flags.length = count ∧ flags[j]? = some true := by
  unfold exactResults
  split
  · simp [List.getElem?_replicate]
  next flags =>
    by_cases exact : flags.length = count
    · simp [exact]
    · simp [exact, List.getElem?_replicate]

theorem publishChunks_length (publish : Transactions Dict) (number : Nat)
    (batches : List (List (Message Dict))) :
    (publishChunks publish number batches).length = batches.flatten.length := by
  induction batches generalizing number with
  | nil => rfl
  | cons batch rest ih =>
      rw [publishChunks, List.length_append, ih, exactResults_length, List.flatten_cons,
        List.length_append]

/-- The flag of a message of a transaction is the flag at its place in that transaction. -/
theorem publishChunks_getElem {publish : Transactions Dict} {number : Nat}
    {batches : List (List (Message Dict))} {k j : Nat} {batch : List (Message Dict)}
    (here : batches[k]? = some batch) (lt : j < batch.length) :
    (publishChunks publish number batches)[(batches.take k).flatten.length + j]? =
      (exactResults (publish (number + k) batch) batch.length)[j]? := by
  induction batches generalizing number k with
  | nil => simp at here
  | cons first rest ih =>
      cases k with
      | zero =>
          obtain rfl : first = batch := by simpa using here
          rw [publishChunks, List.getElem?_append_left (by simpa [exactResults_length] using lt)]
          simp
      | succ k =>
          rw [publishChunks, List.take_succ_cons, List.flatten_cons, List.length_append,
            Nat.add_assoc, List.getElem?_append_right (by simp [exactResults_length]),
            exactResults_length, Nat.add_sub_cancel_left, ih (by simpa using here), Nat.add_assoc,
            Nat.add_comm 1]

/-- What a delegate reports is written to its own messages, at their places. -/
theorem settleLane_own {ε : Type} {routes : Message Dict → Bool} {messages : List (Message Dict)}
    (results : List Bool) (outcome : Except ε (List Bool)) {i : Nat} {message : Message Dict}
    (length : results.length = messages.length) (here : messages[i]? = some message)
    (own : routes message) (unset : results[i]? = some false) :
    (settleLane results (enumerateWhere routes messages) outcome)[i]? =
      (exactResults outcome (messages.filter routes).length)[rank routes messages i]? := by
  have lt : i < messages.length := (List.getElem?_eq_some_iff.mp here).1
  have place := enumerateWhere_rank here own
  have below : rank routes messages i < (messages.filter routes).length := by
    rw [← enumerateWhere_length]
    exact (List.getElem?_eq_some_iff.mp place).1
  unfold settleLane exactResults
  rw [enumerateWhere_length]
  split
  · simp [unset, below]
  next flags =>
    by_cases exact : flags.length = (messages.filter routes).length
    · simp only [exact, ne_eq, not_true_eq_false, if_false]
      rw [← exact] at below
      have given : flags[rank routes messages i]? = some flags[rank routes messages i] :=
        List.getElem?_eq_getElem below
      rw [given]
      exact assign_own (enumerateWhere_nodup _ _) place given (length ▸ lt)
    · simp [exact, unset, below]

/-- Messages of other delegates keep their flags. -/
theorem settleLane_other {ε : Type} {routes : Message Dict → Bool} {messages : List (Message Dict)}
    {results : List Bool} {outcome : Except ε (List Bool)} {i : Nat} {message : Message Dict}
    (here : messages[i]? = some message) (other : routes message = false) :
    (settleLane results (enumerateWhere routes messages) outcome)[i]? = results[i]? := by
  have absent : i ∉ (enumerateWhere routes messages).map (·.2) := by
    intro mem
    obtain ⟨⟨found, _⟩, selected, rfl⟩ := List.mem_map.mp mem
    obtain ⟨there, own⟩ := mem_enumerateWhere.mp selected
    obtain rfl := Option.some.inj (here.symm.trans there)
    simp [other] at own
  unfold settleLane
  split
  · rfl
  · split
    · rfl
    · exact assign_other absent

@[simp]
theorem settleLane_length {ε : Type} (results : List Bool) (indexed : List (Message Dict × Nat))
    (outcome : Except ε (List Bool)) :
    (settleLane results indexed outcome).length = results.length := by
  unfold settleLane
  split
  · rfl
  · split
    · rfl
    · exact assign_length ..

/-! ## Transactions -/

variable [Encoding Dict]

/-- The loop of `admission_batches`. -/
def batchLoop (copiesPerMessage : Nat) (batches : List (List (Message Dict)))
    (batch : List (Message Dict)) (batchEvents batchBytes : Nat) :
    List (Message Dict) → Except OutboxError (List (List (Message Dict)))
  | [] => .ok (if batch.isEmpty then batches else batches ++ [batch])
  | message :: rest => do
      let size ← Sink.admissionSize message.2
      let messageBytes := size * copiesPerMessage
      if maxTransactionEvents < copiesPerMessage ∨ maxTransactionBytes < messageBytes then
        throw (.capacity "durable outbox admission transaction byte limit reached")
      if ¬ batch.isEmpty ∧ (maxTransactionEvents < batchEvents + copiesPerMessage ∨
          maxTransactionBytes < batchBytes + messageBytes) then
        batchLoop copiesPerMessage (batches ++ [batch]) [message] copiesPerMessage messageBytes rest
      else
        batchLoop copiesPerMessage batches (batch ++ [message]) (batchEvents + copiesPerMessage)
          (batchBytes + messageBytes) rest

/-- `admission_batches`. -/
def admissionBatches (messages : List (Message Dict)) (copiesPerMessage : Nat) :
    Except OutboxError (List (List (Message Dict))) :=
  if copiesPerMessage < 1 then .error (.value "copies per message must be positive")
  else batchLoop copiesPerMessage [] [] 0 0 messages

/-- The batch is not empty and fits one transaction with all its copies. -/
structure Fits (copies : Nat) (batch : List (Message Dict)) : Prop where
  nonempty : batch ≠ []
  events : batch.length * copies ≤ maxTransactionEvents
  bytes : ∃ sizes, batch.mapM (fun message => Sink.admissionSize message.2) = .ok sizes ∧
    sizes.sum * copies ≤ maxTransactionBytes

theorem batchLoop_ok {copies : Nat} {batches : List (List (Message Dict))}
    {batch : List (Message Dict)} {events bytes : Nat} {messages : List (Message Dict)}
    {out : List (List (Message Dict))}
    (ran : batchLoop copies batches batch events bytes messages = .ok out)
    (fit : ∀ done ∈ batches, Fits copies done) (current : batch ≠ [] → Fits copies batch)
    (counted : events = batch.length * copies)
    (summed : ∃ sizes, batch.mapM (fun message => Sink.admissionSize message.2) = .ok sizes ∧
      bytes = sizes.sum * copies) :
    out.flatten = batches.flatten ++ batch ++ messages ∧ ∀ done ∈ out, Fits copies done := by
  induction messages generalizing batches batch events bytes with
  | nil =>
      rw [batchLoop, Except.ok.injEq] at ran
      subst ran
      split
      next empty => exact ⟨by simp [List.isEmpty_iff.mp empty], fit⟩
      next some =>
        refine ⟨by simp, fun done mem => ?_⟩
        rcases List.mem_append.mp mem with old | new
        · exact fit done old
        · obtain rfl := List.mem_singleton.mp new
          exact current (by simpa using some)
  | cons message rest ih =>
      rw [batchLoop] at ran
      cases sized : Sink.admissionSize message.2 with
      | error error => simp [sized, bind, Except.bind] at ran
      | ok size =>
          simp only [sized, bind, Except.bind] at ran
          split at ran
          · cases ran
          next small =>
            rw [not_or, Nat.not_lt, Nat.not_lt] at small
            obtain ⟨sizes, measured, rfl⟩ := summed
            subst counted
            have one : [message].mapM (fun message => Sink.admissionSize message.2) =
                .ok [size] := by
              simp [sized, bind, Except.bind, pure, Except.pure]
            split at ran
            next full =>
              -- The transaction is full, and the message begins the next one.
              have alone : Fits copies [message] :=
                ⟨by simp, by simpa using small.1, [size], one, by simpa using small.2⟩
              have filled : ∀ done ∈ batches ++ [batch], Fits copies done := by
                intro done mem
                rcases List.mem_append.mp mem with old | new
                · exact fit done old
                · obtain rfl := List.mem_singleton.mp new
                  exact current (by simpa using full.1)
              obtain ⟨flat, fits⟩ :=
                ih ran filled (fun _ => alone) (by simp) ⟨[size], one, by simp⟩
              exact ⟨by simpa using flat, fits⟩
            next room =>
              have joined :
                  (batch ++ [message]).mapM (fun message => Sink.admissionSize message.2) =
                  .ok (sizes ++ [size]) := by
                rw [List.mapM_append, measured, one]
                rfl
              have length : (batch ++ [message]).length * copies = batch.length *
                  copies + copies := by
                rw [List.length_append, List.length_singleton, Nat.add_mul, Nat.one_mul]
              have total : (sizes ++ [size]).sum * copies = sizes.sum * copies + size * copies := by
                rw [List.sum_append, List.sum_singleton, Nat.add_mul]
              have larger : Fits copies (batch ++ [message]) := by
                by_cases empty : batch = []
                · subst empty
                  exact ⟨by simp, by simpa using small.1, [size], one, by simpa using small.2⟩
                · simp only [List.isEmpty_iff, empty, not_false_eq_true, true_and, not_or,
                    Nat.not_lt] at room
                  exact ⟨by simp, length ▸ room.1, sizes ++ [size], joined, total ▸ room.2⟩
              obtain ⟨flat, fits⟩ := ih ran fit (fun _ => larger) length.symm
                ⟨sizes ++ [size], joined, total.symm⟩
              exact ⟨by simpa using flat, fits⟩

/-- `admission_batches` cuts its messages, in their order, into transactions that fit. -/
theorem admissionBatches_ok {copies : Nat} {messages : List (Message Dict)}
    {batches : List (List (Message Dict))}
    (ran : admissionBatches messages copies = .ok batches) :
    batches.flatten = messages ∧ ∀ batch ∈ batches, Fits copies batch := by
  unfold admissionBatches at ran
  split at ran
  · cases ran
  · obtain ⟨flat, fits⟩ := batchLoop_ok ran nofun (absurd rfl) (by simp) ⟨[], rfl, by simp⟩
    exact ⟨by simpa using flat, fits⟩

/-- A message fits no transaction of its own, or has no size. -/
def TooLarge (copies : Nat) (message : Message Dict) : Prop :=
  ∀ size, Sink.admissionSize message.2 = .ok size →
    maxTransactionEvents < copies ∨ maxTransactionBytes < size * copies

/-- A message that fits no transaction makes `admission_batches` raise. -/
theorem admissionBatches_tooLarge {copies : Nat} {messages : List (Message Dict)}
    {message : Message Dict} (mem : message ∈ messages) (large : TooLarge copies message) :
    ∃ error, admissionBatches messages copies = .error error := by
  cases ran : admissionBatches messages copies with
  | error error => exact ⟨error, rfl⟩
  | ok batches =>
      obtain ⟨flat, fits⟩ := admissionBatches_ok ran
      obtain ⟨batch, issued, own⟩ := List.mem_flatten.mp (flat ▸ mem)
      obtain ⟨nonempty, events, sizes, measured, bytes⟩ := fits batch issued
      obtain ⟨size, counted, sized⟩ := mapM_mem measured own
      have alone : copies ≤ batch.length * copies :=
        Nat.le_mul_of_pos_left _ (List.length_pos_iff.mpr nonempty)
      have part : size * copies ≤ sizes.sum * copies :=
        Nat.mul_le_mul_right _ (List.le_sum_of_mem counted)
      have := large size sized
      omega

theorem batchLoop_total {copies : Nat} {batches : List (List (Message Dict))}
    {batch : List (Message Dict)} {events bytes : Nat} {messages : List (Message Dict)}
    (small : ∀ message ∈ messages, ¬ TooLarge copies message) :
    ∃ out, batchLoop copies batches batch events bytes messages = .ok out := by
  induction messages generalizing batches batch events bytes with
  | nil => exact ⟨_, rfl⟩
  | cons message rest ih =>
      have first := small message (.head _)
      have later : ∀ other ∈ rest, ¬ TooLarge copies other :=
        fun other mem => small other (.tail _ mem)
      simp only [TooLarge, not_forall] at first
      obtain ⟨size, sized, fits⟩ := first
      simp only [batchLoop, sized, bind, Except.bind, fits, if_false]
      split
      · exact ih later
      · exact ih later

/-- `admission_batches` raises for no other reason. -/
theorem admissionBatches_total {copies : Nat} {messages : List (Message Dict)}
    (positive : 1 ≤ copies) (small : ∀ message ∈ messages, ¬ TooLarge copies message) :
    ∃ batches, admissionBatches messages copies = .ok batches := by
  rw [admissionBatches, if_neg (Nat.not_lt.mpr positive)]
  exact batchLoop_total small

/-! ## The router -/

/-- `_publish_durable_chunks`, with the transactions it issues. -/
def publishDurableChunks (publish : Transactions Dict) (messages : List (Message Dict))
    (copiesPerMessage : Nat) : Except OutboxError (List Bool) × List (List (Message Dict)) :=
  match admissionBatches messages copiesPerMessage with
  | .error error => (.error error, [])
  | .ok batches => (.ok (publishChunks publish 0 batches), batches)

/-- `publish_batch_results`. -/
def publishBatchResults (lanes : DurableLanes) (durable : Transactions Dict)
    (redis : List (Message Dict) → BatchOutcome) (messages : List (Message Dict)) : Routed Dict :=
  let results := List.replicate messages.length false
  let first := enumerateWhere (lanes.routes .durable) messages
  let (admitted, transactions) :=
    if first.isEmpty then (.ok [], []) else publishDurableChunks durable (first.map (·.1)) 1
  let results := settleLane results first admitted
  let second := enumerateWhere (lanes.routes .redis) messages
  if second.isEmpty then ⟨results, transactions⟩
  else ⟨settleLane results second (redis (second.map (·.1))), transactions⟩

/-- `publish_flow_with_watch_batch_results`; `none` stands for its `RuntimeError`. -/
def publishFlowWithWatchBatchResults (lanes : DurableLanes) (durable : Transactions Dict)
    (messages : List (Message Dict)) :
    Option (Except OutboxError (List Bool) × List (List (Message Dict))) :=
  if messages.all (lanes.routes .durable) then
    some (publishDurableChunks durable messages 2)
  else none

variable {lanes : DurableLanes} {durable : Transactions Dict}
variable {redis : List (Message Dict) → BatchOutcome} {messages : List (Message Dict)}

omit [Encoding Dict] in
theorem routes_other (lanes : DurableLanes) (message : Message Dict) :
    (lanes.routes .redis message = true ↔ lanes.routes .durable message = false) := by
  unfold DurableLanes.routes
  cases lanes.delegate message.1 <;> simp

theorem publishBatchResults_length :
    (publishBatchResults lanes durable redis messages).results.length = messages.length := by
  unfold publishBatchResults
  dsimp only
  split <;> simp

/-- The transactions are those that `admission_batches` makes of the durable messages. -/
theorem publishBatchResults_transactions :
    (publishBatchResults lanes durable redis messages).transactions =
      ((admissionBatches (messages.filter (lanes.routes .durable)) 1).toOption.getD []) := by
  have chunks : ∀ own : List (Message Dict), (publishDurableChunks durable own 1).2 =
      ((admissionBatches own 1).toOption.getD []) := by
    intro own
    unfold publishDurableChunks
    cases admissionBatches own 1 <;> rfl
  rw [← enumerateWhere_values]
  unfold publishBatchResults
  dsimp only
  split
  all_goals
    split
    next none =>
      rw [List.isEmpty_iff.mp none]
      rfl
    · exact chunks _

/-- The flag of a durable message comes from the durable sink alone. -/
theorem publishBatchResults_durable {i : Nat} {message : Message Dict}
    (here : messages[i]? = some message) (own : lanes.routes .durable message) :
    (publishBatchResults lanes durable redis messages).results[i]? =
      (exactResults (publishDurableChunks durable (messages.filter (lanes.routes .durable)) 1).1
        (messages.filter (lanes.routes .durable)).length)[rank (lanes.routes .durable)
          messages i]? := by
  have lt : i < messages.length := (List.getElem?_eq_some_iff.mp here).1
  have nonempty : (enumerateWhere (lanes.routes .durable) messages).isEmpty = false := by
    rw [List.isEmpty_eq_false_iff_exists_mem]
    exact ⟨(message, i), mem_enumerateWhere.mpr ⟨here, own⟩⟩
  have other : lanes.routes .redis message = false := by
    simpa [own] using routes_other lanes message
  unfold publishBatchResults
  simp only [nonempty, Bool.false_eq_true, if_false, enumerateWhere_values]
  have given := settleLane_own (List.replicate messages.length false)
    (publishDurableChunks durable (messages.filter (lanes.routes .durable)) 1).1 (by simp) here own
    (by simp [lt])
  split
  · exact given
  · exact (settleLane_other here other).trans given

/-- The flag of a Redis message comes from the Redis sink alone. -/
theorem publishBatchResults_redis {i : Nat} {message : Message Dict}
    (here : messages[i]? = some message) (own : lanes.routes .redis message) :
    (publishBatchResults lanes durable redis messages).results[i]? =
      (exactResults (redis (messages.filter (lanes.routes .redis)))
        (messages.filter (lanes.routes .redis)).length)[rank (lanes.routes .redis)
          messages i]? := by
  have lt : i < messages.length := (List.getElem?_eq_some_iff.mp here).1
  have nonempty : (enumerateWhere (lanes.routes .redis) messages).isEmpty = false := by
    rw [List.isEmpty_eq_false_iff_exists_mem]
    exact ⟨(message, i), mem_enumerateWhere.mpr ⟨here, own⟩⟩
  have other := (routes_other lanes message).mp own
  unfold publishBatchResults
  simp only [nonempty, Bool.false_eq_true, if_false, enumerateWhere_values]
  refine settleLane_own _ _ (by simp) here own ((settleLane_other here other).trans ?_)
  simp [lt]

/-- The flag of a message is decided by its own transaction. -/
theorem publishBatchResults_transaction {i k j : Nat} {message : Message Dict}
    {batch : List (Message Dict)} (here : messages[i]? = some message)
    (own : lanes.routes .durable message)
    (issued : (publishBatchResults lanes durable redis messages).transactions[k]? = some batch)
    (lt : j < batch.length) (place : rank (lanes.routes .durable) messages i =
      ((publishBatchResults lanes durable redis messages).transactions.take k).flatten.length + j) :
    (publishBatchResults lanes durable redis messages).results[i]? =
      (exactResults (durable k batch) batch.length)[j]? := by
  rw [publishBatchResults_durable here own, place]
  rw [publishBatchResults_transactions] at issued ⊢
  unfold publishDurableChunks
  cases cut : admissionBatches (messages.filter (lanes.routes .durable)) 1 with
  | error error => simp [cut, Except.toOption] at issued
  | ok batches =>
      rw [cut] at issued
      have flat := (admissionBatches_ok cut).1
      have length : (publishChunks durable 0 batches).length =
          (messages.filter (lanes.routes .durable)).length := by
        rw [publishChunks_length, flat]
      have there : (publishChunks durable 0 batches)[(batches.take k).flatten.length + j]? =
          (exactResults (durable (0 + k) batch) batch.length)[j]? := publishChunks_getElem issued lt
      rw [Nat.zero_add] at there
      simp only [exactResults, length, ne_eq, not_true_eq_false, if_false]
      exact there

variable (durable redis) in
/-- Every durable message is in a transaction, unless none was issued. -/
theorem exists_transaction {i : Nat} {message : Message Dict} (here : messages[i]? = some message)
    (own : lanes.routes .durable message) :
    ((publishBatchResults lanes durable redis messages).transactions = [] ∧
      (publishBatchResults lanes durable redis messages).results[i]? = some false) ∨
    ∃ k batch j, (publishBatchResults lanes durable redis messages).transactions[k]? = some batch ∧
      batch[j]? = some message ∧ rank (lanes.routes .durable) messages i =
        ((publishBatchResults lanes durable redis messages).transactions.take k).flatten.length +
          j := by
  have place := enumerateWhere_rank here own
  have found : (messages.filter (lanes.routes .durable))[rank (lanes.routes .durable) messages i]? =
      some message := by
    rw [← enumerateWhere_values, List.getElem?_map, place]
    rfl
  have below := (List.getElem?_eq_some_iff.mp found).1
  rw [publishBatchResults_durable here own, publishBatchResults_transactions]
  unfold publishDurableChunks
  cases cut : admissionBatches (messages.filter (lanes.routes .durable)) 1 with
  | error error =>
      refine .inl ⟨rfl, ?_⟩
      simp [exactResults, below]
  | ok batches =>
      have flat := (admissionBatches_ok cut).1
      rw [← flat] at found below
      obtain ⟨k, batch, j, issued, lt, same⟩ := exists_block below
      refine .inr ⟨k, batch, j, issued, ?_, same⟩
      rw [← flatten_getElem issued lt, ← same, found]

/-- What a batch publish of the router guarantees. -/
structure RoutesExactly (lanes : DurableLanes) (durable : Transactions Dict)
    (redis : List (Message Dict) → BatchOutcome) (messages : List (Message Dict)) : Prop where
  length : (publishBatchResults lanes durable redis messages).results.length = messages.length
  /-- A Redis message is marked exactly if the Redis sink accepted it. -/
  redisAccepts : ∀ (i : Nat) (message : Message Dict), messages[i]? = some message →
    lanes.delegate message.1 = .redis →
    ((publishBatchResults lanes durable redis messages).results[i]? = some true ↔
      ∃ flags, redis (messages.filter (lanes.routes .redis)) = .ok flags ∧
        flags.length = (messages.filter (lanes.routes .redis)).length ∧
        flags[rank (lanes.routes .redis) messages i]? = some true)
  /-- A durable message is marked exactly if its transaction accepted it. -/
  durableAccepts : ∀ (i : Nat) (message : Message Dict), messages[i]? = some message →
    lanes.delegate message.1 = .durable →
    ((publishBatchResults lanes durable redis messages).results[i]? = some true ↔
      ∃ k batch j flags,
        (publishBatchResults lanes durable redis messages).transactions[k]? = some batch ∧
        batch[j]? = some message ∧ rank (lanes.routes .durable) messages i =
          ((publishBatchResults lanes durable redis messages).transactions.take k).flatten.length +
            j ∧
        durable k batch = .ok flags ∧ flags.length = batch.length ∧ flags[j]? = some true)
  /-- Whatever becomes of the transactions, the flags of Redis messages are the same. -/
  redisAlone : ∀ (durable' : Transactions Dict) (i : Nat) (message : Message Dict),
    messages[i]? = some message → lanes.delegate message.1 = .redis →
    (publishBatchResults lanes durable' redis messages).results[i]? =
      (publishBatchResults lanes durable redis messages).results[i]?
  /-- Whatever becomes of the Redis batch and of all other transactions, the flags of the messages
  of one transaction are the same. -/
  durableAlone : ∀ (durable' : Transactions Dict) redis' k batch j,
    (publishBatchResults lanes durable redis messages).transactions[k]? = some batch →
    j < batch.length → durable' k batch = durable k batch →
    ∀ (i : Nat) (message : Message Dict), messages[i]? = some message →
      lanes.delegate message.1 = .durable →
      rank (lanes.routes .durable) messages i =
        ((publishBatchResults lanes durable redis messages).transactions.take k).flatten.length +
          j →
      (publishBatchResults lanes durable' redis' messages).results[i]? =
        (publishBatchResults lanes durable redis messages).results[i]?
  /-- Unless a durable message fits no transaction, the transactions are the durable
  messages in their order. -/
  partition :
    (∀ message ∈ messages, lanes.delegate message.1 = .durable → ¬ TooLarge 1 message) →
    (publishBatchResults lanes durable redis messages).transactions.flatten =
      messages.filter (lanes.routes .durable)
  fits : ∀ batch ∈ (publishBatchResults lanes durable redis messages).transactions, Fits 1 batch
  /-- A durable message that fits no transaction fails its lane, and nothing is issued. -/
  oversized : (∃ message ∈ messages, lanes.delegate message.1 = .durable ∧ TooLarge 1 message) →
    (publishBatchResults lanes durable redis messages).transactions = [] ∧
    ∀ (i : Nat) (message : Message Dict), messages[i]? = some message →
      lanes.delegate message.1 = .durable →
      (publishBatchResults lanes durable redis messages).results[i]? = some false

/-- For every configuration, every batch and every outcome of the calls of both delegates, the
router reports for each message what its own delegate and transaction reported for it.  The
transactions are cut as `admission_batches` cuts any batch for any number of copies: in order,
within both limits, or not at all when a message fits none. -/
theorem lane_routed_results_exact (lanes : DurableLanes) (durable : Transactions Dict)
    (redis : List (Message Dict) → BatchOutcome) (messages : List (Message Dict)) :
    RoutesExactly lanes durable redis messages ∧
    (∀ copies batches, admissionBatches messages copies = .ok batches →
      batches.flatten = messages ∧ ∀ batch ∈ batches, Fits copies batch) ∧
    ∀ copies, (∃ message ∈ messages, TooLarge copies message) →
      ∃ error, publishDurableChunks durable messages copies = (.error error, []) := by
  have routes : ∀ {delegate} {message : Message Dict}, lanes.delegate message.1 = delegate →
      lanes.routes delegate message := fun same => decide_eq_true same
  have transactions :
      ∀ (durable' : Transactions Dict) (redis' : List (Message Dict) → BatchOutcome),
      (publishBatchResults lanes durable' redis' messages).transactions =
        (publishBatchResults lanes durable redis messages).transactions := fun durable' redis' => by
    rw [publishBatchResults_transactions, publishBatchResults_transactions]
  refine ⟨⟨publishBatchResults_length, fun i message here own => ?_, fun i message here own => ?_,
    fun durable' i message here own => ?_,
    fun durable' redis' k batch j issued lt same i message here own place => ?_, ?_, ?_, ?_⟩,
    fun copies batches cut => admissionBatches_ok cut, fun copies ⟨message, mem, large⟩ => ?_⟩
  · rw [publishBatchResults_redis here (routes own)]
    exact exactResults_true
  · constructor
    · intro marked
      rcases exists_transaction durable redis here (routes own) with
        ⟨_, unmarked⟩ | ⟨k, batch, j, issued, member, place⟩
      · exact absurd (unmarked.symm.trans marked) (by simp)
      · rw [publishBatchResults_transaction here (routes own) issued
          (List.getElem?_eq_some_iff.mp member).1 place] at marked
        obtain ⟨flags, accepted⟩ := exactResults_true.mp marked
        exact ⟨k, batch, j, flags, issued, member, place, accepted⟩
    · rintro ⟨k, batch, j, flags, issued, member, place, accepted⟩
      rw [publishBatchResults_transaction here (routes own) issued
        (List.getElem?_eq_some_iff.mp member).1 place]
      exact exactResults_true.mpr ⟨flags, accepted⟩
  · rw [publishBatchResults_redis here (routes own), publishBatchResults_redis here (routes own)]
  · have again := transactions durable' redis'
    rw [publishBatchResults_transaction here (routes own) issued lt place,
      publishBatchResults_transaction here (routes own) (again.symm ▸ issued) lt
        (again.symm ▸ place), same]
  · intro small
    have durable_small : ∀ message ∈ messages.filter (lanes.routes .durable),
        ¬ TooLarge 1 message := fun message mem => by
      obtain ⟨own, routed⟩ := List.mem_filter.mp mem
      exact small message own (of_decide_eq_true routed)
    obtain ⟨batches, cut⟩ := admissionBatches_total (Nat.le_refl 1) durable_small
    rw [publishBatchResults_transactions, cut]
    exact (admissionBatches_ok cut).1
  · rw [publishBatchResults_transactions]
    cases cut : admissionBatches (messages.filter (lanes.routes .durable)) 1 with
    | error error => exact nofun
    | ok batches => exact (admissionBatches_ok cut).2
  · rintro ⟨message, mem, own, large⟩
    obtain ⟨error, raised⟩ :=
      admissionBatches_tooLarge (List.mem_filter.mpr ⟨mem, routes own⟩) large
    have none : (publishBatchResults lanes durable redis messages).transactions = [] := by
      rw [publishBatchResults_transactions, raised]
      rfl
    refine ⟨none, fun i message here own => ?_⟩
    rcases exists_transaction durable redis here (routes own) with
      ⟨_, unmarked⟩ | ⟨k, batch, j, issued, _⟩
    · exact unmarked
    · simp [none] at issued
  · obtain ⟨error, raised⟩ := admissionBatches_tooLarge mem large
    exact ⟨error, by rw [publishDurableChunks, raised]⟩

end Outbox
end DataGateway
