import DataGateway.Pollers.SeenIds

/-!
# Polled batches follow what the sink accepted

The pollers mark an id and call `on_published` behind the sink's answer, for the envelopes that
the answer names.  A count below the size of the batch names none, and neither does an
exception, so the batch is offered again by a later poll.  Envelopes that repeat an id inside
one batch are all offered.
-/

namespace DataGateway
namespace Pollers

/-- A topic and the envelope that goes there. -/
abbrev Message (Body : Type) := String × Envelope Body

/-- What a poller uses of a sink registry; `none` for a method that it does not have, and for an
answer when the call raises. -/
structure SinkRegistry (Body : Type) where
  /-- `has_durable_admission_for`, when it is a plain function. -/
  hasDurableAdmissionFor : Option (String → Option Bool)
  publishFlowWithWatchBatchIndexed : Option (List (Message Body) → Option (Finset Nat))
  publishAllBatchIndexed : Option (List (Message Body) → Option (Finset Nat))
  publishAllBatchResults : Option (List (Message Body) → Option (List Bool))
  publishAllBatch : Option (List (Message Body) → Option Nat)
  /-- Whether `publish_all` of the message at a position returns. -/
  publishAll : Nat → Message Body → Bool

/-- How the sink answered a batch. -/
inductive Report (Exact : Type) where
  /-- It says which messages landed. -/
  | exact_ (answer : Exact)
  /-- It says how many landed. -/
  | count (published : Nat)
  /-- Every single call returned. -/
  | finished
  | raised

/-- The answer of a method that may raise. -/
def Report.ofAnswer {Exact Answer : Type} (report : Answer → Report Exact) :
    Option Answer → Report Exact
  | none => .raised
  | some answer => report answer

variable {Body : Type}

/-- The messages offered one by one up to the first that raises, and whether none did. -/
def publishEach (registry : SinkRegistry Body) : Nat → List (Message Body) →
    List (Message Body) × Bool
  | _, [] => ([], true)
  | position, message :: messages =>
      if registry.publishAll position message then
        let later := publishEach registry (position + 1) messages
        (message :: later.1, later.2)
      else ([message], false)

/-- `publish_all_batch`, or one call for each message. -/
def SinkRegistry.offerCounted {Exact : Type} (registry : SinkRegistry Body)
    (messages : List (Message Body)) : List (Message Body) × Report Exact :=
  match registry.publishAllBatch with
  | some publish => (messages, .ofAnswer .count (publish messages))
  | none =>
      let offered := publishEach registry 0 messages
      (offered.1, if offered.2 then .finished else .raised)

/-- `publish_all_batch_indexed`, or what is left without it. -/
def SinkRegistry.offerIndexed (registry : SinkRegistry Body) (messages : List (Message Body)) :
    List (Message Body) × Report (Finset Nat) :=
  match registry.publishAllBatchIndexed with
  | some publish => (messages, .ofAnswer .exact_ (publish messages))
  | none => registry.offerCounted messages

/-- `HEBER_STREAM`. -/
def heberStream : String := "heber:events"

/-- The calls on the sink in `UWPoller._publish_envelopes`. -/
def SinkRegistry.offerFlow (registry : SinkRegistry Body) (topic : String)
    (messages : List (Message Body)) : List (Message Body) × Report (Finset Nat) :=
  let isLiveFlowAlertBatch := topic = heberStream ∧
    ∀ message ∈ messages, message.2.feed = some "flow_alerts"
  if isLiveFlowAlertBatch then
    match registry.hasDurableAdmissionFor with
    | none => registry.offerIndexed messages
    | some durableLive =>
        match durableLive topic with
        | none => ([], .raised)
        | some false => registry.offerIndexed messages
        | some true =>
            match registry.publishFlowWithWatchBatchIndexed with
            | some publish => (messages, .ofAnswer .exact_ (publish messages))
            | none => registry.offerIndexed messages
  else registry.offerIndexed messages

/-- The calls on the sink in `AlpacaQuotesPoller._publish_envelopes`. -/
def SinkRegistry.offerQuotes (registry : SinkRegistry Body) (messages : List (Message Body)) :
    List (Message Body) × Report (List Bool) :=
  match registry.publishAllBatchResults with
  | some publish => (messages, .ofAnswer .exact_ (publish messages))
  | none => registry.offerCounted messages

/-- `published_indices` and `published` of the UW poller. -/
def publishedIndices (size : Nat) : Report (Finset Nat) → Option (Finset Nat) × Nat
  | .exact_ positions => (some positions, positions.card)
  | .count published => (if size ≤ published then some (.range size) else none, published)
  | .finished => (some (.range size), size)
  | .raised => (some ∅, 0)

/-- `results` of the quotes poller. -/
def publishedResults (size : Nat) : Report (List Bool) → List Bool
  | .exact_ flags => flags
  | .count published => List.replicate size (published = size)
  | .finished => List.replicate size true
  | .raised => List.replicate size false

/-- What the loop over the accepted envelopes has done. -/
structure Marks (Body : Type) where
  seen : SeenIds
  /-- The ids given to `_mark_seen`. -/
  marked : List String
  redisItems : List String
  /-- The envelopes given to `on_published`. -/
  tapped : List (Envelope Body)

/-- An accepted envelope; the clock tells the time at each mark. -/
def Marks.mark (clock : Nat → Int) (redis : Option RedisDedupe) (marks : Marks Body)
    (pending : Pending Body) : Marks Body :=
  if pending.eventId = "" then marks
  else
    { marks with
      seen := markSeen (clock marks.marked.length) marks.seen pending.eventId
      marked := marks.marked ++ [pending.eventId]
      redisItems := marks.redisItems ++ if redis.isSome then pending.cacheKey.toList else [] }

/-- An envelope given to `on_published`, whose exceptions are logged. -/
def Marks.tap (taps : Bool) (marks : Marks Body) (pending : Pending Body) : Marks Body :=
  if taps then { marks with tapped := marks.tapped ++ [pending.envelope] } else marks

/-- The loop of the UW poller over the sorted positions; `false` is an `IndexError`. -/
def markIndices (clock : Nat → Int) (redis : Option RedisDedupe) (taps : Bool)
    (toPublish : List (Pending Body)) : List Nat → Marks Body → Marks Body × Bool
  | [], marks => (marks, true)
  | idx :: positions, marks =>
      match toPublish[idx]? with
      | none => (marks, false)
      | some pending =>
          markIndices clock redis taps toPublish positions
            ((marks.mark clock redis pending).tap taps pending)

/-- The loop of the quotes poller over the results; `false` is the `ValueError`
of the strict `zip`. -/
def markResults (clock : Nat → Int) (redis : Option RedisDedupe) :
    List (Pending Body) → List Bool → Marks Body → Marks Body × Bool
  | [], [], marks => (marks, true)
  | pending :: toPublish, ok :: results, marks =>
      markResults clock redis toPublish results
        (if ok then marks.mark clock redis pending else marks)
  | _, _, marks => (marks, false)

/-- The keys of the marked ids written to Redis; `false` raises. -/
def setMany (redis : Option RedisDedupe) (redisItems : List String) : Bool :=
  match redis with
  | none => true
  | some store => redisItems.isEmpty || store.setMany redisItems

/-- What a call of `_publish_envelopes` did; `answer` is `none` when it raised. -/
structure Publishing (Body : Type) where
  offered : List (Message Body)
  marks : Marks Body
  /-- The published and the duplicates. -/
  answer : Option (Nat × Nat)

/-- What a call is given and what it reads. -/
structure Surroundings where
  clock : Nat → Int
  redis : Option RedisDedupe

/-- `UWPoller._publish_envelopes`. -/
def UWPoller.publishEnvelopes (env : Surroundings) (seen : SeenIds) (registry : SinkRegistry Body)
    (envelopes : List (Envelope Body)) (dedupePrefix topic : String) (taps : Bool) :
    Publishing Body :=
  let start : Marks Body := ⟨seen, [], [], []⟩
  if envelopes.isEmpty then ⟨[], start, some (0, 0)⟩
  else
    let (pendings, duplicates) := toPublish seen env.redis dedupePrefix envelopes
    if pendings.isEmpty then ⟨[], start, some (0, duplicates)⟩
    else
      let messages := pendings.map fun pending => (topic, pending.envelope)
      let (offered, report) := registry.offerFlow topic messages
      let (positions, published) := publishedIndices pendings.length report
      match positions with
      | none => ⟨offered, start, some (published, duplicates)⟩
      | some positions =>
          let (marks, returned) :=
            markIndices env.clock env.redis taps pendings (positions.sort (· ≤ ·)) start
          ⟨offered, marks,
            if returned && setMany env.redis marks.redisItems then some (published, duplicates)
            else none⟩

/-- `AlpacaQuotesPoller._publish_envelopes`. -/
def AlpacaQuotesPoller.publishEnvelopes (env : Surroundings) (seen : SeenIds)
    (registry : SinkRegistry Body) (envelopes : List (Envelope Body)) : Publishing Body :=
  let start : Marks Body := ⟨seen, [], [], []⟩
  if envelopes.isEmpty then ⟨[], start, some (0, 0)⟩
  else
    let (pendings, duplicates) := toPublish seen env.redis "alpaca:quotes" envelopes
    if pendings.isEmpty then ⟨[], start, some (0, duplicates)⟩
    else
      let messages := pendings.map fun pending => (heberStream, pending.envelope)
      let (offered, report) := registry.offerQuotes messages
      let results := publishedResults pendings.length report
      let published := results.count true
      if 0 < published then
        let (marks, returned) := markResults env.clock env.redis pendings results start
        ⟨offered, marks,
          if returned && setMany env.redis marks.redisItems then some (published, duplicates)
          else none⟩
      else ⟨offered, start, some (0, duplicates)⟩

end Pollers
end DataGateway
