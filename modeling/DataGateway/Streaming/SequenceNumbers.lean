import DataGateway.Python.Recency
import DataGateway.Streaming.Redelivery

/-!
# Sequence numbers over a whole run

`SequenceTracker` counts the calls for each key and forgets the least recently used key when it
holds too many.  A key that stays among the most recently used ones is numbered without a gap.
-/

namespace DataGateway
namespace Streaming

open Envelope Recency

namespace SequenceCounters

variable {κ : Type} [DecidableEq κ] {cap : Nat}

/-- `get_status`: how many keys are tracked, and how many messages were counted for them. -/
def getStatus (counters : SequenceCounters κ) : Nat × Nat :=
  (counters.size, (counters.items.map Prod.snd).sum)

/-- The counters after the calls of a history, the latest call first. -/
def after (cap : Nat) : List κ → SequenceCounters κ
  | [] => .empty
  | key :: history => (nextSeq cap (after cap history) key).2

/-- A call for one key evicts a key: it is counted before the call or by it, and not after it. -/
def evicts (cap : Nat) (counters : SequenceCounters κ) (called key : κ) : Bool :=
  (called = key || counters.contains key) && !(nextSeq cap counters called).2.contains key

/-- The number of calls for a key since its last eviction, or since the start. -/
def callsSinceEviction (cap : Nat) (key : κ) : List κ → Nat
  | [] => 0
  | called :: history =>
      if evicts cap (after cap history) called key then 0
      else callsSinceEviction cap key history + if called = key then 1 else 0

/-! ## One call -/

/-- The counters before the oldest one may be dropped, the latest first. -/
theorem items_counted (counters : SequenceCounters κ) (key : κ) (seq : Nat) :
    ((counters.set key seq).moveToEnd key).items.reverse =
      (key, seq) :: counters.items.reverse.filter fun item => item.1 ≠ key := by
  have held : (counters.set key seq).get? key = some seq := by
    rw [OrderedDict.get?_set, if_pos rfl]
  rw [OrderedDict.items_moveToEnd held, OrderedDict.erase_set, List.reverse_append,
    List.reverse_singleton, List.singleton_append, List.filter_reverse]
  rfl

/-- A call counts its key first and keeps so many of the others as there is room for. -/
theorem items_nextSeq (counters : SequenceCounters κ) (key : κ) (fits : counters.size ≤ cap) :
    (nextSeq cap counters key).2.items.reverse =
      ((key, (nextSeq cap counters key).1) ::
        counters.items.reverse.filter fun item => item.1 ≠ key).take cap := by
  obtain ⟨seq, number⟩ : ∃ seq, (counters.get? key).getD 0 + 1 = seq := ⟨_, rfl⟩
  have counted := items_counted counters key seq
  have length := congrArg List.length counted
  have few : (counters.items.reverse.filter fun item => item.1 ≠ key).length ≤ cap := by
    refine (List.length_filter_le _ _).trans ?_
    rwa [List.length_reverse]
  rw [List.length_reverse, List.length_cons] at length
  simp only [nextSeq, number]
  rw [← counted]
  split
  next full =>
    have one : ((counters.set key seq).moveToEnd key).items.length = cap + 1 := by
      change cap < ((counters.set key seq).moveToEnd key).items.length at full
      omega
    rw [OrderedDict.popFirst, ← List.dropLast_reverse, List.dropLast_eq_take, List.length_reverse,
      one, Nat.add_sub_cancel]
  next room =>
    rw [List.take_of_length_le]
    rw [List.length_reverse]
    exact Nat.not_lt.mp room

/-! ## Which keys are tracked -/

/-- The tracked keys are the most recently used ones. -/
theorem keys_after (history : List κ) :
    (after cap history).items.reverse.map Prod.fst = recent cap history := by
  have both : (after cap history).items.reverse.map Prod.fst = recent cap history ∧
      (after cap history).size ≤ cap := by
    induction history with
    | nil => simp [after, recent, lastUses, OrderedDict.empty, OrderedDict.size]
    | cons key history ih =>
        obtain ⟨keys, fits⟩ := ih
        have items := items_nextSeq (after cap history) key fits
        have same : (after cap (key :: history)).items.reverse.map Prod.fst =
            recent cap (key :: history) := by
          rw [after, items, List.map_take, List.map_cons, recent_cons, ← keys, List.filter_map]
          rfl
        constructor
        · exact same
        · have length := congrArg List.length same
          rw [List.length_map, List.length_reverse] at length
          rw [OrderedDict.size, length]
          exact length_recent_le cap _
  exact both.1

/-- No more keys are tracked than there is room for. -/
theorem size_after_le (history : List κ) : (after cap history).size ≤ cap := by
  have length : ((after cap history).items.reverse.map Prod.fst).length =
      (recent cap history).length := congrArg List.length (keys_after history)
  rw [List.length_map, List.length_reverse] at length
  rw [OrderedDict.size, length]
  exact length_recent_le cap history

theorem contains_after {history : List κ} {key : κ} :
    (after cap history).contains key = true ↔ key ∈ recent cap history := by
  rw [OrderedDict.contains_iff, ← keys_after, List.mem_map]
  constructor
  · rintro ⟨count, held⟩
    exact ⟨(key, count), List.mem_reverse.mpr (OrderedDict.get?_eq_some.mp held), rfl⟩
  · rintro ⟨item, mem, rfl⟩
    exact ⟨item.2, OrderedDict.get?_eq_some.mpr (List.mem_reverse.mp mem)⟩

/-- The count of a key after a call. -/
theorem get?_after_cons {called key : κ} {history : List κ}
    (tracked : key ∈ recent cap (called :: history)) :
    (after cap (called :: history)).get? key =
      if called = key then some (nextSeq cap (after cap history) called).1
      else (after cap history).get? key := by
  obtain ⟨count, held⟩ := OrderedDict.contains_iff.mp (contains_after.mpr tracked)
  have mem := List.mem_reverse.mpr (OrderedDict.get?_eq_some.mp held)
  rw [after, items_nextSeq _ _ (size_after_le history)] at mem
  rw [held]
  rcases List.mem_cons.mp (List.mem_of_mem_take mem) with here | kept
  · obtain ⟨rfl, rfl⟩ := Prod.mk.inj here
    rw [if_pos rfl]
  · obtain ⟨old, apart⟩ := List.mem_filter.mp kept
    have other : called ≠ key := fun same => by simp [same] at apart
    rw [if_neg other]
    exact (OrderedDict.get?_eq_some.mpr (List.mem_reverse.mp old)).symm

/-- A call evicts the keys that it moves out of the most recently used ones. -/
theorem evicts_iff {called key : κ} {history : List κ} :
    evicts cap (after cap history) called key = true ↔
      (called = key ∨ key ∈ recent cap history) ∧ key ∉ recent cap (called :: history) := by
  have kept : (nextSeq cap (after cap history) called).2.contains key = true ↔
      key ∈ recent cap (called :: history) := by
    change (after cap (called :: history)).contains key = true ↔ _
    exact contains_after
  rw [evicts, Bool.and_eq_true, Bool.or_eq_true, decide_eq_true_eq, contains_after,
    Bool.not_eq_true', ← Bool.not_eq_true, kept]

/-! ## What the counters count -/

/-- A counter holds the number of calls since the last eviction. -/
theorem counted_eq (history : List κ) (key : κ) :
    ((after cap history).get? key).getD 0 = callsSinceEviction cap key history := by
  induction history with
  | nil => rfl
  | cons called history ih =>
      rw [callsSinceEviction]
      by_cases tracked : key ∈ recent cap (called :: history)
      · have stays : ¬evicts cap (after cap history) called key = true := by
          rw [evicts_iff]
          exact fun evicted => evicted.2 tracked
        rw [get?_after_cons tracked, if_neg stays]
        by_cases own : called = key
        · subst own
          rw [if_pos rfl, if_pos rfl, Option.getD_some, ← ih]
          rfl
        · rw [if_neg own, if_neg own, ih, Nat.add_zero]
      · have untracked : (after cap (called :: history)).get? key = none := by
          rw [← Option.not_isSome_iff_eq_none]
          exact fun held => tracked (contains_after.mp held)
        rw [untracked, Option.getD_none]
        split
        next evicted => rfl
        next stays =>
          -- a key that is neither counted before nor by the call has no calls to its name
          rw [evicts_iff] at stays
          have other : called ≠ key := fun own => stays ⟨.inl own, tracked⟩
          have absent : (after cap history).get? key = none := by
            rw [← Option.not_isSome_iff_eq_none]
            exact fun held => stays ⟨.inr (contains_after.mp held), tracked⟩
          rw [absent, Option.getD_none] at ih
          rw [if_neg other, ← ih]

/-- A call returns one more than the calls for its key since the last eviction. -/
theorem nextSeq_eq (history : List κ) (key : κ) :
    (nextSeq cap (after cap history) key).1 = callsSinceEviction cap key history + 1 := by
  rw [← counted_eq]
  rfl

/-- The status counts the tracked keys, and their calls since they came in. -/
theorem getStatus_after (history : List κ) :
    (after cap history).getStatus = ((recent cap history).length,
      ((recent cap history).map fun key => callsSinceEviction cap key history).sum) := by
  have counts : (recent cap history).map (fun key => callsSinceEviction cap key history) =
      (after cap history).items.reverse.map Prod.snd := by
    rw [← keys_after, List.map_map]
    apply List.map_congr_left
    intro item mem
    have held := OrderedDict.get?_eq_some.mpr (List.mem_reverse.mp mem)
    have counted :
        ((after cap history).get? item.1).getD 0 = callsSinceEviction cap item.1 history :=
      counted_eq history item.1
    rw [held, Option.getD_some] at counted
    exact counted.symm
  rw [counts, ← keys_after, List.length_map, List.length_reverse, List.map_reverse,
    List.sum_reverse]
  rfl

/-- A key that is not among the most recently used ones is counted from the start. -/
theorem callsSinceEviction_of_stale {history : List κ} {key : κ}
    (stale : key ∉ recent cap history) :
    callsSinceEviction cap key history = 0 := by
  have untracked : (after cap history).get? key = none := by
    rw [← Option.not_isSome_iff_eq_none]
    exact fun held => stale (contains_after.mp held)
  rw [← counted_eq, untracked, Option.getD_none]

/-- While a key stays among the most recently used ones its count is the number of its last call. -/
theorem callsSinceEviction_of_recent {key : κ} {later earlier : List κ} (last : key ∉ later)
    (recently : later.toFinset.card < cap) :
    callsSinceEviction cap key (later ++ key :: earlier) =
      (nextSeq cap (after cap earlier) key).1 := by
  induction later with
  | nil =>
      have tracked : key ∈ recent cap ([] ++ key :: earlier) := (mem_recent_iff last).mpr recently
      have stays : ¬evicts cap (after cap earlier) key key = true := by
        rw [evicts_iff]
        exact fun evicted => evicted.2 tracked
      rw [List.nil_append, callsSinceEviction, if_neg stays, if_pos rfl, nextSeq_eq]
  | cons called later ih =>
      obtain ⟨other, before⟩ : key ≠ called ∧ key ∉ later := by simpa using last
      have tracked : key ∈ recent cap (called :: (later ++ key :: earlier)) :=
        (mem_recent_iff last).mpr recently
      have stays : ¬evicts cap (after cap (later ++ key :: earlier)) called key = true := by
        rw [evicts_iff]
        exact fun evicted => evicted.2 tracked
      have fewer : later.toFinset.card < cap := by
        refine lt_of_le_of_lt (Finset.card_le_card ?_) recently
        rw [List.toFinset_cons]
        exact Finset.subset_insert _ _
      rw [List.cons_append, callsSinceEviction, if_neg stays, if_neg (Ne.symm other),
        ih before fewer, Nat.add_zero]

/-- In every run a call returns one more than the calls for its key since its last eviction, no more
keys are tracked than there is room for, a key is evicted only when as many other keys were used
since its own last use, and a key among the most recently used ones is numbered without a gap. -/
theorem sequence_numbers_count (cap : Nat) (history : List κ) (key : κ) :
    (nextSeq cap (after cap history) key).1 = callsSinceEviction cap key history + 1 ∧
      (nextSeq cap (after cap history) key).2.size ≤ cap ∧
      (∀ evicted, evicts cap (after cap history) key evicted = true →
        ∃ later earlier, key :: history = later ++ evicted :: earlier ∧ evicted ∉ later ∧
          cap ≤ later.toFinset.card) ∧
      ∀ later earlier, history = later ++ key :: earlier → key ∉ later →
        later.toFinset.card < cap →
          (nextSeq cap (after cap history) key).1 =
            (nextSeq cap (after cap earlier) key).1 + 1 := by
  refine ⟨nextSeq_eq history key, size_after_le (key :: history), ?_, ?_⟩
  · intro evicted gone
    obtain ⟨counted, dropped⟩ := evicts_iff.mp gone
    have used : evicted ∈ key :: history := by
      rcases counted with rfl | old
      · exact List.mem_cons_self
      · exact List.mem_cons_of_mem _ (mem_lastUses.mp (List.mem_of_mem_take old))
    obtain ⟨later, earlier, split, last⟩ := exists_last_use used
    rw [split, mem_recent_iff last] at dropped
    exact ⟨later, earlier, split, last, Nat.not_lt.mp dropped⟩
  · intro later earlier split last recently
    rw [nextSeq_eq, split, callsSinceEviction_of_recent last recently]

/-- With room for two keys a third one evicts the first, which had gone on without a gap before. -/
theorem third_key_evicts_the_first :
    (∃ later earlier, ["c", "b", "a", "a"] = later ++ "a" :: earlier ∧ "a" ∉ later ∧
        2 ≤ later.toFinset.card) ∧
      (nextSeq 2 (after 2 ["b", "a", "a"]) "a").1 = (nextSeq 2 (after 2 ["a"]) "a").1 + 1 :=
  ⟨(sequence_numbers_count 2 ["b", "a", "a"] "c").2.2.1 "a" (by decide),
    (sequence_numbers_count 2 ["b", "a", "a"] "a").2.2.2 ["b"] ["a"] rfl (by decide) (by decide)⟩

end SequenceCounters

/-! ## The messages of the streams -/

section Messages

open SequenceCounters

variable {DateTime Digest : Type} [DecidableEq DateTime] [Unicode] [DateTimes DateTime]

/-- The key that the handling of a message counts, if it comes that far. -/
def StreamState.countedKey (state : StreamState DateTime) :
    StreamEvent DateTime → Option (Value DateTime × DataType)
  | .message arrival =>
      if state.transportFailed ∨ !arrival.connected ∨ !arrival.valid then none
      else (countedUnder arrival.message).map Prod.swap
  | .failTransport => none

/-- The keys that were counted on the way, the latest first. -/
def StreamState.countedKeys (blake2b : ByteArray → Digest) :
    StreamState DateTime → List (StreamEvent DateTime) → List (Value DateTime × DataType)
  | _, [] => []
  | state, event :: events =>
      countedKeys blake2b (state.step blake2b event) events ++ (state.countedKey event).toList

theorem seqTracker_step (blake2b : ByteArray → Digest) (state : StreamState DateTime)
    (event : StreamEvent DateTime) :
    (state.step blake2b event).seqTracker = match state.countedKey event with
      | none => state.seqTracker
      | some key => (SequenceCounters.nextSeq maxCounters state.seqTracker key).2 := by
  cases event with
  | failTransport => rfl
  | message arrival =>
      simp only [StreamState.step, StreamState.countedKey, handleMessage]
      split
      · rfl
      · cases countedUnder arrival.message with
        | none => rfl
        | some key => rfl

/-- Whatever messages came, the tracker holds the counters of the keys that were counted. -/
theorem seqTracker_run (blake2b : ByteArray → Digest) {state : StreamState DateTime}
    {history : List (Value DateTime × DataType)}
    (counts : state.seqTracker = after maxCounters history) (events : List (StreamEvent DateTime)) :
    (events.foldl (StreamState.step blake2b) state).seqTracker =
      after maxCounters (state.countedKeys blake2b events ++ history) := by
  induction events generalizing state history with
  | nil => exact counts
  | cons event events ih =>
      have step := seqTracker_step blake2b state event
      rw [List.foldl_cons, StreamState.countedKeys, List.append_assoc]
      apply ih
      rw [step, counts]
      cases state.countedKey event <;> rfl

/-- A delivered envelope carries one more than the number of messages that were counted for its
symbol and its kind of data since the pair was evicted last.  A message is counted as soon as it is
valid, also when no client gets it. -/
theorem delivered_seq (blake2b : ByteArray → Digest) (events : List (StreamEvent DateTime))
    {arrival : Arrival DateTime} {envelope : EventEnvelope DateTime Digest}
    (delivered : (handleMessage blake2b
      (events.foldl (StreamState.step blake2b) ⟨.empty, false⟩) arrival).1 = some envelope) :
    ∃ dataType symbol, countedUnder arrival.message = some (dataType, symbol) ∧
      envelope.seq = some (callsSinceEviction maxCounters (symbol, dataType)
        (StreamState.countedKeys blake2b ⟨.empty, false⟩ events) + 1) := by
  obtain ⟨dataType, symbol, counted, wrapped⟩ := handleMessage_envelope delivered
  have started : (⟨.empty, false⟩ : StreamState DateTime).seqTracker = after maxCounters [] := rfl
  have tracker := seqTracker_run blake2b started events
  refine ⟨dataType, symbol, counted, ?_⟩
  rw [fastWrapStreamingEvent_seq wrapped, StreamState.countBefore, counted]
  simp only [SequenceTracker.counted]
  rw [tracker, List.append_nil, counted_eq]

end Messages

/-! ## Quotes of many symbols -/

/-- A symbol with five letters or more. -/
def longSymbol (n : Nat) : String := String.ofList (List.replicate (n + 5) 'A')

/-- A stock quote for a symbol. -/
def quoteFor (symbol : String) : Arrival String :=
  { quote with message := quote.message.set "S" (.str symbol) }

/-- Quotes for some of these symbols. -/
def longQuotes (numbers : List Nat) : List (StreamEvent String) :=
  numbers.map fun n => .message (quoteFor (longSymbol n))

/-- The key of a quote. -/
def quoteKey (symbol : String) : Value String × DataType := (.str symbol, .quotes)

theorem length_longSymbol (n : Nat) : (longSymbol n).toList.length = n + 5 := by
  rw [longSymbol, String.toList_ofList, List.length_replicate]

theorem ne_longSymbol {symbol : String} (short : symbol.toList.length < 5) (n : Nat) :
    symbol ≠ longSymbol n := by
  rintro rfl
  rw [length_longSymbol] at short
  omega

theorem quoteKey_injective : Function.Injective fun n => quoteKey (longSymbol n) := by
  intro m n same
  have symbols : longSymbol m = longSymbol n :=
    Scalar.str.inj (Value.scalar.inj (congrArg Prod.fst same))
  have lengths := congrArg (fun symbol => symbol.toList.length) symbols
  simp only [length_longSymbol] at lengths
  omega

theorem countedUnder_quoteFor {symbol : String} (named : symbol ≠ "") :
    countedUnder (quoteFor symbol).message = some (quoteKey symbol).swap := by
  have kind : messageDataType (quoteFor symbol).message = some .quotes := rfl
  have symbols : messageSymbols .quotes (quoteFor symbol).message = [.str symbol] := by
    have truthy : ((quoteFor symbol).message.get "S").truthy = true := decide_eq_true named
    simp only [messageSymbols, truthy, if_true]
    rfl
  simp only [countedUnder, kind, symbols]
  rfl

section Quotes

variable [Unicode] [DateTimes String] {state : StreamState String}

/-- A quote is delivered and counted while the transport has not failed. -/
theorem quote_counted (alive : state.transportFailed = false) {symbol : String}
    (named : symbol ≠ "") :
    state.countedKey (.message (quoteFor symbol)) = some (quoteKey symbol) ∧
      (state.step (id : ByteArray → ByteArray)
        (.message (quoteFor symbol))).transportFailed = false ∧
      ∃ envelope : EventEnvelope String ByteArray,
        (handleMessage id state (quoteFor symbol)).1 = some envelope := by
  have fresh : ¬(state.transportFailed = true ∨ (!(quoteFor symbol).connected) = true ∨
      (!(quoteFor symbol).valid) = true) := by simp [alive, quoteFor, quote]
  refine ⟨?_, ?_, ?_⟩
  · rw [StreamState.countedKey, if_neg fresh, countedUnder_quoteFor named]
    rfl
  · simp only [StreamState.step, handleMessage, if_neg fresh, countedUnder_quoteFor named]
    exact alive
  · simp only [handleMessage, if_neg fresh, countedUnder_quoteFor named]
    exact ⟨_, rfl⟩

/-- The quotes are all counted. -/
theorem countedKeys_longQuotes (alive : state.transportFailed = false) (numbers : List Nat) :
    state.countedKeys (id : ByteArray → ByteArray) (longQuotes numbers) =
        (numbers.map fun n => quoteKey (longSymbol n)).reverse ∧
      ((longQuotes numbers).foldl (StreamState.step (id : ByteArray → ByteArray))
        state).transportFailed = false := by
  induction numbers generalizing state with
  | nil => exact ⟨rfl, alive⟩
  | cons n numbers ih =>
      obtain ⟨counted, still, -⟩ := quote_counted alive (ne_longSymbol (by decide) n).symm
      obtain ⟨keys, alive⟩ := ih still
      refine ⟨?_, alive⟩
      change state.countedKeys id (.message _ :: longQuotes numbers) = _
      rw [StreamState.countedKeys, keys, counted, List.map_cons, List.reverse_cons]
      rfl

/-- The count of a short symbol starts again after quotes for as many other symbols as there are
counters. -/
theorem count_starts_again {numbers : List Nat} (nodup : numbers.Nodup)
    (full : numbers.length = maxCounters) (alive : state.transportFailed = false) {symbol : String}
    (named : symbol ≠ "") (short : symbol.toList.length < 5) :
    SequenceCounters.callsSinceEviction maxCounters (quoteKey symbol)
      (state.countedKeys (id : ByteArray → ByteArray)
        (.message (quoteFor symbol) :: longQuotes numbers)) = 0 := by
  obtain ⟨counted, still, -⟩ := quote_counted alive named
  have apart : quoteKey symbol ∉ (numbers.map fun n => quoteKey (longSymbol n)).reverse := by
    rw [List.mem_reverse, List.mem_map]
    rintro ⟨n, -, same⟩
    exact ne_longSymbol short n (Scalar.str.inj (Value.scalar.inj (congrArg Prod.fst same))).symm
  rw [StreamState.countedKeys, (countedKeys_longQuotes still numbers).1, counted]
  apply SequenceCounters.callsSinceEviction_of_stale
  rw [Option.toList_some, mem_recent_iff apart, List.toFinset_card_of_nodup]
  · rw [List.length_reverse, List.length_map, full]
    exact Nat.lt_irrefl _
  · exact List.nodup_reverse.mpr (nodup.map quoteKey_injective)

end Quotes

/-- A quote that is not valid is not counted, and after quotes for fifty thousand other symbols the
count of a symbol starts again. -/
theorem second_quote_is_counted :
    let _ := asciiUnicode
    let _ := isoTimes
    let first : StreamEvent String := .message (quoteFor "AAPL")
    let invalid : StreamEvent String := .message { quoteFor "AAPL" with valid := false }
    (∃ envelope : EventEnvelope String ByteArray,
      (handleMessage id ([first, invalid].foldl (StreamState.step id) ⟨.empty, false⟩)
        (quoteFor "AAPL")).1 = some envelope ∧ envelope.seq = some 2) ∧
    ∃ envelope : EventEnvelope String ByteArray,
      (handleMessage id ((first :: longQuotes (List.range maxCounters)).foldl (StreamState.step id)
        ⟨.empty, false⟩) (quoteFor "AAPL")).1 = some envelope ∧ envelope.seq = some 1 := by
  intro unicode times first invalid
  constructor
  · obtain ⟨envelope, delivered⟩ : ∃ envelope : EventEnvelope String ByteArray,
        (handleMessage id ([first, invalid].foldl (StreamState.step id) ⟨.empty, false⟩)
          (quoteFor "AAPL")).1 = some envelope := ⟨_, rfl⟩
    obtain ⟨_, _, counted, seq⟩ := delivered_seq id [first, invalid] delivered
    obtain ⟨rfl, rfl⟩ := Prod.mk.inj (Option.some.inj counted)
    exact ⟨envelope, delivered, seq⟩
  · have nodup : (List.range maxCounters).Nodup := List.nodup_range
    have full : (List.range maxCounters).length = maxCounters := List.length_range
    generalize List.range maxCounters = numbers at nodup full ⊢
    have start : (⟨.empty, false⟩ : StreamState String).transportFailed = false := rfl
    have named : "AAPL" ≠ "" := by decide
    have alive := (countedKeys_longQuotes (quote_counted start named).2.1 numbers).2
    rw [← List.foldl_cons] at alive
    obtain ⟨envelope, delivered⟩ := (quote_counted alive named).2.2
    obtain ⟨_, _, counted, seq⟩ := delivered_seq id (first :: longQuotes numbers) delivered
    rw [show countedUnder (quoteFor "AAPL").message = some (quoteKey "AAPL").swap from
      rfl] at counted
    obtain ⟨rfl, rfl⟩ := Prod.mk.inj (Option.some.inj counted)
    have again := count_starts_again nodup full start named (by decide)
    exact ⟨envelope, delivered, seq.trans (congrArg (fun n => some (n + 1)) again)⟩

end Streaming
end DataGateway
