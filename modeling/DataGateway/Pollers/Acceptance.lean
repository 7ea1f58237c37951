import DataGateway.Pollers.Publish

/-!
# Marks and taps follow acceptance

A sink accepts some of the messages of a batch, and its answers are true.  When an answer names the
messages landed, the poller marks and taps exactly those, in order; otherwise it marks and taps
none.  What a poller remembers was accepted by the sink in an earlier call.
-/

namespace DataGateway
namespace Pollers

/-- A sink and what it accepts of a batch; its answers are true. -/
structure Sink (Body : Type) where
  registry : SinkRegistry Body
  /-- The positions of the messages that land. -/
  accepted : List (Message Body) → Finset Nat
  inside : ∀ messages, accepted messages ⊆ Finset.range messages.length
  flow : ∀ publish ∈ registry.publishFlowWithWatchBatchIndexed, ∀ messages,
    ∀ positions ∈ publish messages, positions = accepted messages
  indexed : ∀ publish ∈ registry.publishAllBatchIndexed, ∀ messages,
    ∀ positions ∈ publish messages, positions = accepted messages
  results : ∀ publish ∈ registry.publishAllBatchResults, ∀ messages,
    ∀ flags ∈ publish messages,
      flags = (List.range messages.length).map (decide <| · ∈ accepted messages)
  counted : ∀ publish ∈ registry.publishAllBatch, ∀ messages,
    ∀ published ∈ publish messages, published = (accepted messages).card
  each : ∀ messages, (publishEach registry 0 messages).2 = true →
    accepted messages = Finset.range messages.length

variable {Body Exact : Type}

/-- The answer says of every message of the batch whether it landed. -/
def Report.names (size : Nat) : Report Exact → Bool
  | .exact_ _ | .finished => true
  | .count published => size ≤ published
  | .raised => false

/-- What was offered of a batch, and an answer that is true of it. -/
structure Honest (meaning : Exact → Prop) (accepted : Finset Nat) (messages : List (Message Body))
    (offer : List (Message Body) × Report Exact) : Prop where
  front : offer.1 <+: messages
  whole : offer.2.names messages.length = true → offer.1 = messages
  exact_ : ∀ answer, offer.2 = .exact_ answer → meaning answer
  count : ∀ published, offer.2 = .count published → published = accepted.card
  finished : offer.2 = .finished → accepted = Finset.range messages.length

section Offers

variable {meaning : Exact → Prop} {messages : List (Message Body)}

theorem publishEach_front (registry : SinkRegistry Body) (position : Nat)
    (messages : List (Message Body)) :
    (publishEach registry position messages).1 <+: messages ∧
      ((publishEach registry position messages).2 = true →
        (publishEach registry position messages).1 = messages) := by
  induction messages generalizing position with
  | nil => exact ⟨List.prefix_rfl, fun _ => rfl⟩
  | cons message messages ih =>
      obtain ⟨front, whole⟩ := ih (position + 1)
      unfold publishEach
      dsimp only
      split
      · exact ⟨List.cons_prefix_cons.mpr ⟨rfl, front⟩, fun returned => by rw [whole returned]⟩
      · exact ⟨List.cons_prefix_cons.mpr ⟨rfl, List.nil_prefix⟩,
          fun returned => by cases returned⟩

/-- A method that is given the whole batch answers truthfully. -/
theorem honest_ofAnswer {Answer : Type} {accepted : Finset Nat} {report : Answer → Report Exact}
    {answer : Option Answer}
    (true_ : ∀ given ∈ answer, Honest meaning accepted messages (messages, report given)) :
    Honest meaning accepted messages (messages, Report.ofAnswer report answer) := by
  cases answer with
  | some given => exact true_ given rfl
  | none =>
      exact ⟨List.prefix_rfl, fun _ => rfl, by rintro _ ⟨⟩, by rintro _ ⟨⟩, by rintro ⟨⟩⟩

theorem honest_exact {accepted : Finset Nat} {answer : Exact} (true_ : meaning answer) :
    Honest meaning accepted messages (messages, .exact_ answer) :=
  ⟨List.prefix_rfl, fun _ => rfl,
    by rintro _ ⟨⟩; exact true_, by rintro _ ⟨⟩, by rintro ⟨⟩⟩

theorem Sink.offerCounted_honest (sink : Sink Body) (messages : List (Message Body)) :
    Honest meaning (sink.accepted messages) messages (sink.registry.offerCounted messages) := by
  unfold SinkRegistry.offerCounted
  split
  next publish method =>
    refine honest_ofAnswer fun published answered => ?_
    have count := sink.counted publish method messages published answered
    exact ⟨List.prefix_rfl, fun _ => rfl,
      by rintro _ ⟨⟩, by rintro _ ⟨⟩; exact count, by rintro ⟨⟩⟩
  next =>
    obtain ⟨front, whole⟩ := publishEach_front sink.registry 0 messages
    have each := sink.each messages
    dsimp only
    split
    next returned =>
      exact ⟨front, fun _ => whole returned, by rintro _ ⟨⟩, by rintro _ ⟨⟩,
        fun _ => each returned⟩
    next =>
      exact ⟨front, (by rintro ⟨⟩), by rintro _ ⟨⟩, by rintro _ ⟨⟩, by rintro ⟨⟩⟩

theorem Sink.offerIndexed_honest (sink : Sink Body) (messages : List (Message Body)) :
    Honest (· = sink.accepted messages) (sink.accepted messages) messages
      (sink.registry.offerIndexed messages) := by
  unfold SinkRegistry.offerIndexed
  split
  next publish method =>
    exact honest_ofAnswer fun positions answered =>
      honest_exact (sink.indexed publish method messages positions answered)
  next => exact sink.offerCounted_honest messages

theorem Sink.offerFlow_honest (sink : Sink Body) (topic : String)
    (messages : List (Message Body)) :
    Honest (· = sink.accepted messages) (sink.accepted messages) messages
      (sink.registry.offerFlow topic messages) := by
  unfold SinkRegistry.offerFlow
  dsimp only
  split
  · split
    · exact sink.offerIndexed_honest messages
    · split
      · exact ⟨List.nil_prefix, (by rintro ⟨⟩),
          by rintro _ ⟨⟩, by rintro _ ⟨⟩, by rintro ⟨⟩⟩
      · exact sink.offerIndexed_honest messages
      · split
        next publish method =>
          exact honest_ofAnswer fun positions answered =>
            honest_exact (sink.flow publish method messages positions answered)
        next => exact sink.offerIndexed_honest messages
  · exact sink.offerIndexed_honest messages

theorem Sink.offerQuotes_honest (sink : Sink Body) (messages : List (Message Body)) :
    Honest (· = (List.range messages.length).map (decide <| · ∈ sink.accepted messages))
      (sink.accepted messages) messages (sink.registry.offerQuotes messages) := by
  unfold SinkRegistry.offerQuotes
  split
  next publish method =>
    exact honest_ofAnswer fun flags answered =>
      honest_exact (sink.results publish method messages flags answered)
  next => exact sink.offerCounted_honest messages

end Offers

section Named

variable {accepted : Finset Nat} {messages offered : List (Message Body)}

/-- A full count means that all of the batch landed. -/
theorem Honest.all_of_count {meaning : Exact → Prop} {published : Nat}
    (honest : Honest meaning accepted messages (offered, .count published))
    (inside : accepted ⊆ Finset.range messages.length) (full : messages.length ≤ published) :
    accepted = Finset.range messages.length := by
  refine Finset.eq_of_subset_of_card_le inside ?_
  rw [Finset.card_range, ← honest.count published rfl]
  exact full

/-- The UW poller goes through the accepted positions, or through none. -/
theorem publishedIndices_eq {report : Report (Finset Nat)}
    (honest : Honest (· = accepted) accepted messages (offered, report))
    (inside : accepted ⊆ Finset.range messages.length) :
    (publishedIndices messages.length report).1.getD ∅ =
      if report.names messages.length then accepted else ∅ := by
  cases report with
  | exact_ positions => exact honest.exact_ positions rfl
  | count published =>
      simp only [publishedIndices, Report.names, decide_eq_true_eq]
      split
      next full => exact (honest.all_of_count inside full).symm
      next => rfl
  | finished => exact (honest.finished rfl).symm
  | raised => rfl

/-- The quotes poller goes through the flags of the accepted positions, or through none. -/
theorem publishedResults_eq {report : Report (List Bool)}
    (honest : Honest (· = (List.range messages.length).map (decide <| · ∈ accepted)) accepted
      messages (offered, report))
    (inside : accepted ⊆ Finset.range messages.length) :
    publishedResults messages.length report = (List.range messages.length).map
      (decide <| · ∈ if report.names messages.length then accepted else ∅) := by
  have constant (flag : Bool) (positions : Finset Nat)
      (same : ∀ i < messages.length, decide (i ∈ positions) = flag) :
      List.replicate messages.length flag =
        (List.range messages.length).map (decide <| · ∈ positions) := by
    refine (List.eq_replicate_iff.mpr ⟨by simp, fun other mem => ?_⟩).symm
    obtain ⟨i, place, rfl⟩ := List.mem_map.mp mem
    exact same i (List.mem_range.mp place)
  cases report with
  | exact_ flags => exact honest.exact_ flags rfl
  | count published =>
      have count := honest.count published rfl
      have most := Finset.card_le_card inside
      rw [Finset.card_range, ← count] at most
      refine constant _ _ fun i place => ?_
      simp only [Report.names, decide_eq_true_eq]
      by_cases full : messages.length ≤ published
      · rw [if_pos full, honest.all_of_count inside full]
        simp [place, le_antisymm most full]
      · rw [if_neg full]
        simp only [Finset.notMem_empty, decide_false, Bool.false_eq, decide_eq_false_iff_not]
        omega
  | finished =>
      refine constant _ _ fun i place => ?_
      simp [Report.names, honest.finished rfl, place]
  | raised =>
      refine constant _ _ fun i place => ?_
      simp [Report.names]

end Named

section Loops

variable {clock : Nat → Int} {redis : Option RedisDedupe} {taps : Bool}

/-- What the loops do with an accepted envelope. -/
def Marks.accept (clock : Nat → Int) (redis : Option RedisDedupe) (taps : Bool) (marks : Marks Body)
    (pending : Pending Body) : Marks Body :=
  (marks.mark clock redis pending).tap taps pending

/-- The loop over positions goes through the envelopes there. -/
theorem markIndices_eq {toPublish : List (Pending Body)} (positions : List Nat)
    (inside : ∀ i ∈ positions, i < toPublish.length) (marks : Marks Body) :
    markIndices clock redis taps toPublish positions marks =
      ((positions.filterMap (toPublish[·]?)).foldl (Marks.accept clock redis taps) marks,
        true) := by
  induction positions generalizing marks with
  | nil => rfl
  | cons idx positions ih =>
      obtain ⟨pending, place⟩ : ∃ pending, toPublish[idx]? = some pending :=
        ⟨_, List.getElem?_eq_getElem (inside idx List.mem_cons_self)⟩
      unfold markIndices
      rw [place, List.filterMap_cons, place, List.foldl_cons]
      exact ih (fun i mem => inside i (List.mem_cons_of_mem idx mem)) _

/-- The loop over as many flags as envelopes goes through those whose flag is set. -/
theorem markResults_eq (toPublish : List (Pending Body)) (landed : Nat → Bool)
    (marks : Marks Body) :
    markResults clock redis toPublish ((List.range toPublish.length).map landed) marks =
      ((((List.range toPublish.length).filter landed).filterMap (toPublish[·]?)).foldl
        (Marks.accept clock redis false) marks, true) := by
  induction toPublish generalizing landed marks with
  | nil => rfl
  | cons pending toPublish ih =>
      have rest := ih (fun i => landed (i + 1))
      rw [List.length_cons, List.range_succ_eq_map, List.map_cons, List.map_map, markResults]
      refine (rest _).trans ?_
      rw [List.filter_cons, List.filter_map]
      split
      next => simp [Function.comp_def, List.filterMap_map, Marks.accept, Marks.tap]
      next => simp [Function.comp_def, List.filterMap_map]

/-- Without a set flag the loop marks nothing. -/
theorem markResults_of_none (toPublish : List (Pending Body)) (results : List Bool)
    (nothing : results.count true = 0) (marks : Marks Body) :
    (markResults clock redis toPublish results marks).1 = marks := by
  induction toPublish generalizing results with
  | nil => cases results <;> rfl
  | cons pending toPublish ih =>
      cases results with
      | nil => rfl
      | cons ok results =>
          cases ok with
          | true => simp at nothing
          | false => exact ih results (by simpa using nothing)

/-- Accepted positions in order. -/
theorem sort_eq_filter {accepted : Finset Nat} {size : Nat}
    (inside : accepted ⊆ Finset.range size) :
    accepted.sort (· ≤ ·) = (List.range size).filter (decide <| · ∈ accepted) := by
  have same : ((List.range size).filter (decide <| · ∈ accepted)).toFinset = accepted := by
    ext i
    simpa using fun mem => Finset.mem_range.mp (inside mem)
  rw [← (List.toFinset_sort (· ≤ ·) (List.nodup_range.filter _)).mpr, same]
  exact (List.pairwise_lt_range.imp le_of_lt).filter _

theorem Marks.accept_marked (marks : Marks Body) (pending : Pending Body) :
    (marks.accept clock redis taps pending).marked =
      marks.marked ++ [pending.eventId].filter (· ≠ "") := by
  unfold Marks.accept Marks.mark Marks.tap
  by_cases unnamed : pending.eventId = "" <;> cases taps <;> simp [unnamed]

theorem Marks.accept_tapped (marks : Marks Body) (pending : Pending Body) :
    (marks.accept clock redis taps pending).tapped =
      marks.tapped ++ if taps then [pending.envelope] else [] := by
  unfold Marks.accept Marks.mark Marks.tap
  by_cases unnamed : pending.eventId = "" <;> cases taps <;> simp [unnamed]

theorem Marks.accept_seen {marks : Marks Body} {pending : Pending Body} {id : String}
    (held : (marks.accept clock redis taps pending).seen.contains id = true) :
    id ∈ (marks.accept clock redis taps pending).marked ∨ marks.seen.contains id = true := by
  rw [Marks.accept_marked]
  unfold Marks.accept Marks.mark Marks.tap at held
  by_cases unnamed : pending.eventId = ""
  · right
    cases taps <;> simpa [unnamed] using held
  · have marked : (markSeen (clock marks.marked.length) marks.seen pending.eventId).contains id
        = true := by
      cases taps <;> simpa [unnamed] using held
    refine (mem_of_contains_markSeen marked).imp_left ?_
    rintro rfl
    simp [unnamed]

/-- What the loop over accepted envelopes leaves behind. -/
theorem Marks.foldl_accept (pendings : List (Pending Body)) (marks : Marks Body) :
    let after := pendings.foldl (Marks.accept clock redis taps) marks
    after.marked = marks.marked ++ (pendings.map Pending.eventId).filter (· ≠ "") ∧
      after.tapped = marks.tapped ++ (if taps then pendings.map Pending.envelope else []) ∧
      ∀ id, after.seen.contains id = true → id ∈ after.marked ∨
        marks.seen.contains id = true := by
  induction pendings generalizing marks with
  | nil => exact ⟨by simp, by simp, fun id held => .inr held⟩
  | cons pending pendings ih =>
      obtain ⟨marked, tapped, seen⟩ := ih (marks.accept clock redis taps pending)
      rw [Marks.accept_marked, List.append_assoc, ← List.filter_append] at marked
      rw [Marks.accept_tapped, List.append_assoc] at tapped
      refine ⟨marked, tapped.trans ?_, fun id held => ?_⟩
      · cases taps <;> rfl
      · rcases seen id held with there | before
        · exact .inl there
        · refine (Marks.accept_seen before).imp_left fun mem => ?_
          rw [Marks.accept_marked] at mem
          dsimp only [List.foldl_cons]
          rw [marked, List.filter_append, ← List.append_assoc]
          exact List.mem_append_left _ mem

end Loops

/-- A poller, with what its caller passes to `_publish_envelopes`. -/
inductive Poller where
  /-- `taps` when there is an `on_published`. -/
  | uw (dedupePrefix topic : String) (taps : Bool)
  | quotes
  deriving DecidableEq

def Poller.dedupePrefix : Poller → String
  | .uw dedupePrefix _ _ => dedupePrefix
  | .quotes => "alpaca:quotes"

def Poller.topic : Poller → String
  | .uw _ topic _ => topic
  | .quotes => heberStream

def Poller.taps : Poller → Bool
  | .uw _ _ taps => taps
  | .quotes => false

/-- A batch on its way to a sink. -/
structure Call (Body : Type) where
  poller : Poller
  env : Surroundings
  sink : Sink Body
  envelopes : List (Envelope Body)

namespace Call

variable (call : Call Body) (seen : SeenIds)

def publishEnvelopes : Publishing Body :=
  match call.poller with
  | .uw dedupePrefix topic taps =>
      UWPoller.publishEnvelopes call.env seen call.sink.registry call.envelopes dedupePrefix topic
        taps
  | .quotes =>
      AlpacaQuotesPoller.publishEnvelopes call.env seen call.sink.registry call.envelopes

/-- The messages of the envelopes that are left of the batch. -/
def messages : List (Message Body) :=
  (toPublish seen call.env.redis call.poller.dedupePrefix call.envelopes).1.map
    fun pending => (call.poller.topic, pending.envelope)

/-- The sink's answer says of every message whether it landed. -/
def named : Bool :=
  match call.poller with
  | .uw _ topic _ =>
      (call.sink.registry.offerFlow topic (call.messages seen)).2.names (call.messages seen).length
  | .quotes =>
      (call.sink.registry.offerQuotes (call.messages seen)).2.names (call.messages seen).length

/-- The envelopes that the sink accepts, in the order of the batch. -/
def acceptedEnvelopes : List (Envelope Body) :=
  ((call.sink.accepted (call.messages seen)).sort (· ≤ ·)).filterMap fun i =>
    ((call.messages seen)[i]?).map Prod.snd

/-- Offers are fresh, marks and taps are for the accepted envelopes. -/
structure FollowsAcceptance : Prop where
  offered : (call.publishEnvelopes seen).offered <+: call.messages seen
  order : ((call.messages seen).map Prod.snd).Sublist call.envelopes
  fresh : ∀ message ∈ call.messages seen, message.2.idText ≠ "" →
    seen.contains message.2.idText = false ∧
      ¬RedisReports call.env.redis seen call.poller.dedupePrefix call.envelopes message.2.idText
  whole : call.named seen = true → (call.publishEnvelopes seen).offered = call.messages seen
  marked : (call.publishEnvelopes seen).marks.marked =
    if call.named seen then ((call.acceptedEnvelopes seen).map Envelope.idText).filter (· ≠ "")
    else []
  tapped : (call.publishEnvelopes seen).marks.tapped =
    if call.named seen && call.poller.taps then call.acceptedEnvelopes seen else []
  remembered : ∀ id, (call.publishEnvelopes seen).marks.seen.contains id = true →
    id ∈ (call.publishEnvelopes seen).marks.marked ∨ seen.contains id = true

variable {call seen}

/-- The ends of a call: nothing was left to offer, or the loop went through the accepted envelopes,
or through none. -/
structure Ends (call : Call Body) (seen : SeenIds) : Prop where
  offered : (call.publishEnvelopes seen).offered <+: call.messages seen
  whole : call.named seen = true → (call.publishEnvelopes seen).offered = call.messages seen
  marks : (call.publishEnvelopes seen).marks =
    ((if call.named seen then (call.sink.accepted (call.messages seen)).sort (· ≤ ·)
      else []).filterMap
      ((toPublish seen call.env.redis call.poller.dedupePrefix call.envelopes).1[·]?)).foldl
        (Marks.accept call.env.clock call.env.redis call.poller.taps) ⟨seen, [], [], []⟩

/-- When nothing is left to offer, nothing is done. -/
theorem ends_of_nothing (nothing : (toPublish seen call.env.redis call.poller.dedupePrefix
    call.envelopes).1 = []) (offered : (call.publishEnvelopes seen).offered = [])
    (marks : (call.publishEnvelopes seen).marks = ⟨seen, [], [], []⟩) : call.Ends seen := by
  have messages : call.messages seen = [] := by rw [Call.messages, nothing, List.map_nil]
  refine ⟨offered ▸ List.nil_prefix, fun _ => offered.trans messages.symm, ?_⟩
  simp [marks, nothing]

theorem toPublish_isEmpty {redis : Option RedisDedupe} {dedupePrefix : String}
    {envelopes : List (Envelope Body)} (empty : envelopes.isEmpty = true) :
    (toPublish seen redis dedupePrefix envelopes).1 = [] := by
  rw [List.isEmpty_iff.mp empty]
  rfl

theorem ends_uw {env : Surroundings} {sink : Sink Body} {envelopes : List (Envelope Body)}
    (dedupePrefix topic : String) (taps : Bool) :
    Ends ⟨.uw dedupePrefix topic taps, env, sink, envelopes⟩ seen := by
  by_cases empty : envelopes.isEmpty = true
  · refine ends_of_nothing (toPublish_isEmpty empty) ?_ ?_ <;>
      simp [Call.publishEnvelopes, UWPoller.publishEnvelopes, empty]
  obtain ⟨⟨pendings, duplicates⟩, selected⟩ :
      ∃ selection, toPublish seen env.redis dedupePrefix envelopes = selection := ⟨_, rfl⟩
  by_cases none_ : pendings.isEmpty = true
  · refine ends_of_nothing (by simpa [Poller.dedupePrefix, selected] using none_) ?_ ?_ <;>
      simp [Call.publishEnvelopes, UWPoller.publishEnvelopes, empty, selected, none_]
  have messages : Call.messages ⟨.uw dedupePrefix topic taps, env, sink, envelopes⟩ seen =
      pendings.map fun pending => (topic, pending.envelope) := by
    simp only [Call.messages, Poller.dedupePrefix, Poller.topic, selected]
  have honest := sink.offerFlow_honest topic
    (pendings.map fun pending => (topic, pending.envelope))
  have inside := sink.inside (pendings.map fun pending => (topic, pending.envelope))
  obtain ⟨⟨offered, report⟩, offer⟩ : ∃ offer, sink.registry.offerFlow topic
      (pendings.map fun pending => (topic, pending.envelope)) = offer := ⟨_, rfl⟩
  rw [offer] at honest
  have walked := publishedIndices_eq honest inside
  rw [List.length_map] at walked inside
  obtain ⟨⟨positions, published⟩, indices⟩ :
      ∃ indices, publishedIndices pendings.length report = indices := ⟨_, rfl⟩
  rw [indices] at walked
  have named : Call.named ⟨.uw dedupePrefix topic taps, env, sink, envelopes⟩ seen =
      report.names pendings.length := by
    simp only [Call.named, messages, offer, List.length_map]
  have ran :
      (Call.publishEnvelopes ⟨.uw dedupePrefix topic taps, env, sink, envelopes⟩ seen).offered
        = offered ∧
      (Call.publishEnvelopes ⟨.uw dedupePrefix topic taps, env, sink, envelopes⟩ seen).marks =
        (markIndices env.clock env.redis taps pendings ((positions.getD ∅).sort (· ≤ ·))
          ⟨seen, [], [], []⟩).1 := by
    cases positions <;>
      simp [Call.publishEnvelopes, UWPoller.publishEnvelopes, empty, selected, none_,
        offer, indices, markIndices]
  refine ⟨?_, ?_, ?_⟩
  · rw [ran.1, messages]
    exact honest.front
  · rw [ran.1, messages, named]
    intro all
    exact honest.whole (by rwa [List.length_map])
  · rw [ran.2, named, messages, walked, markIndices_eq]
    · simp only [Poller.dedupePrefix, Poller.taps, selected]
      split <;> simp
    · intro i mem
      split at mem
      · exact Finset.mem_range.mp (inside (by simpa using mem))
      · simp at mem

theorem ends_quotes {env : Surroundings} {sink : Sink Body} {envelopes : List (Envelope Body)} :
    Ends ⟨.quotes, env, sink, envelopes⟩ seen := by
  by_cases empty : envelopes.isEmpty = true
  · refine ends_of_nothing (toPublish_isEmpty empty) ?_ ?_ <;>
      simp [Call.publishEnvelopes, AlpacaQuotesPoller.publishEnvelopes, empty]
  obtain ⟨⟨pendings, duplicates⟩, selected⟩ :
      ∃ selection, toPublish seen env.redis "alpaca:quotes" envelopes = selection := ⟨_, rfl⟩
  by_cases none_ : pendings.isEmpty = true
  · refine ends_of_nothing (by simpa [Poller.dedupePrefix, selected] using none_) ?_ ?_ <;>
      simp [Call.publishEnvelopes, AlpacaQuotesPoller.publishEnvelopes, empty, selected, none_]
  have messages : Call.messages ⟨.quotes, env, sink, envelopes⟩ seen =
      pendings.map fun pending => (heberStream, pending.envelope) := by
    simp only [Call.messages, Poller.dedupePrefix, Poller.topic, selected]
  have honest := sink.offerQuotes_honest
    (pendings.map fun pending => (heberStream, pending.envelope))
  have inside := sink.inside (pendings.map fun pending => (heberStream, pending.envelope))
  obtain ⟨⟨offered, report⟩, offer⟩ : ∃ offer, sink.registry.offerQuotes
      (pendings.map fun pending => (heberStream, pending.envelope)) = offer := ⟨_, rfl⟩
  rw [offer] at honest
  have flags := publishedResults_eq honest inside
  rw [List.length_map] at flags inside
  have named : Call.named ⟨.quotes, env, sink, envelopes⟩ seen = report.names pendings.length := by
    simp only [Call.named, messages, offer, List.length_map]
  have ran : (Call.publishEnvelopes ⟨.quotes, env, sink, envelopes⟩ seen).offered = offered ∧
      (Call.publishEnvelopes ⟨.quotes, env, sink, envelopes⟩ seen).marks =
        (markResults env.clock env.redis pendings (publishedResults pendings.length report)
          ⟨seen, [], [], []⟩).1 := by
    by_cases published : 0 < (publishedResults pendings.length report).count true
    · simp [Call.publishEnvelopes, AlpacaQuotesPoller.publishEnvelopes, empty,
        selected, none_, offer, published]
    · rw [markResults_of_none _ _ (Nat.eq_zero_of_not_pos published)]
      simp [Call.publishEnvelopes, AlpacaQuotesPoller.publishEnvelopes, empty,
        selected, none_, offer, published]
  refine ⟨?_, ?_, ?_⟩
  · rw [ran.1, messages]
    exact honest.front
  · rw [ran.1, messages, named]
    intro all
    exact honest.whole (by rwa [List.length_map])
  · rw [ran.2, named, messages, flags, markResults_eq]
    simp only [Poller.dedupePrefix, Poller.taps, selected]
    split
    · rw [sort_eq_filter inside]
    · simp

theorem ends (call : Call Body) (seen : SeenIds) : call.Ends seen := by
  obtain ⟨poller, env, sink, envelopes⟩ := call
  cases poller with
  | uw dedupePrefix topic taps => exact ends_uw dedupePrefix topic taps
  | quotes => exact ends_quotes

theorem followsAcceptance (call : Call Body) (seen : SeenIds) : call.FollowsAcceptance seen := by
  obtain ⟨offered, whole, marks⟩ := call.ends seen
  obtain ⟨pendings, selected⟩ : ∃ pendings,
      (toPublish seen call.env.redis call.poller.dedupePrefix call.envelopes).1 = pendings :=
        ⟨_, rfl⟩
  have messages : call.messages seen =
      pendings.map fun pending => (call.poller.topic, pending.envelope) := by
    rw [Call.messages, selected]
  have fits : ∀ pending ∈ pendings, pending.eventId = pending.envelope.idText :=
    fun pending mem => (fresh_of_mem_toPublish (selected ▸ mem)).1
  have accepted : call.acceptedEnvelopes seen =
      (((call.sink.accepted (call.messages seen)).sort (· ≤ ·)).filterMap (pendings[·]?)).map
        Pending.envelope := by
    rw [Call.acceptedEnvelopes, List.map_filterMap]
    refine List.filterMap_congr fun i _ => ?_
    rw [messages, List.getElem?_map, Option.map_map]
    rfl
  have ids : ∀ positions : List Nat, (positions.filterMap (pendings[·]?)).map Pending.eventId =
      ((positions.filterMap (pendings[·]?)).map Pending.envelope).map Envelope.idText := by
    intro positions
    rw [List.map_map]
    refine List.map_congr_left fun pending mem => ?_
    obtain ⟨i, -, place⟩ := List.mem_filterMap.mp mem
    exact fits pending (List.mem_of_getElem? place)
  rw [selected] at marks
  obtain ⟨marked, tapped, remembered⟩ := @Marks.foldl_accept Body call.env.clock call.env.redis
    call.poller.taps
    ((if call.named seen then (call.sink.accepted (call.messages seen)).sort (· ≤ ·)
      else []).filterMap
      (pendings[·]?)) ⟨seen, [], [], []⟩
  rw [← marks] at marked tapped remembered
  refine ⟨offered, ?_, ?_, whole, ?_, ?_, remembered⟩
  · rw [messages, List.map_map]
    exact selected ▸ sublist_toPublish call.envelopes
  · intro message mem
    rw [messages] at mem
    obtain ⟨pending, inside, rfl⟩ := List.mem_map.mp mem
    exact (fresh_of_mem_toPublish (selected ▸ inside)).2
  · rw [marked, ids, accepted]
    split <;> simp
  · rw [tapped, accepted]
    cases call.named seen <;> cases call.poller.taps <;> simp

end Call

/-! ## Sequences of batches -/

/-- What happens to a poller's memory. -/
inductive Step (Body : Type) where
  | publish (call : Call Body)
  | cleanup (cacheTtlSeconds now : Int)

def Step.apply (seen : SeenIds) : Step Body → SeenIds
  | .publish call => (call.publishEnvelopes seen).marks.seen
  | .cleanup cacheTtlSeconds now => cleanupCache cacheTtlSeconds now seen

/-- The ids remembered behind a sequence of steps. -/
def remembered (history : List (Step Body)) : SeenIds := history.foldl Step.apply .empty

/-- Offers are fresh, marks and taps are exactly for the envelopes that the sink's answer names as
accepted, and a remembered id was accepted in an earlier call. -/
theorem publishing_follows_acceptance (history : List (Step Body)) :
    (∀ call : Call Body, call.FollowsAcceptance (remembered history)) ∧
      ∀ id, (remembered history).contains id = true → ∃ before call after,
        history = before ++ .publish call :: after ∧ call.named (remembered before) = true ∧
          ∃ envelope ∈ call.acceptedEnvelopes (remembered before), envelope.idText = id := by
  refine ⟨fun call => call.followsAcceptance _, ?_⟩
  induction history using List.reverseRecOn with
  | nil => exact fun id held => by cases held
  | append_singleton history step ih =>
      intro id held
      have earlier : (remembered history).contains id = true → ∃ before call after,
          history ++ [step] = before ++ .publish call :: after ∧
            call.named (remembered before) = true ∧
            ∃ envelope ∈ call.acceptedEnvelopes (remembered before), envelope.idText = id := by
        intro held
        obtain ⟨before, call, after, rfl, accepted⟩ := ih id held
        exact ⟨before, call, after ++ [step], by simp, accepted⟩
      rw [remembered, List.foldl_concat] at held
      cases step with
      | cleanup cacheTtlSeconds now => exact earlier (contains_of_contains_cleanupCache held)
      | publish call =>
          have follows := call.followsAcceptance (remembered history)
          rcases follows.remembered id held with marked | before
          · rw [follows.marked] at marked
            split at marked
            next named =>
              obtain ⟨envelope, accepted, same⟩ := List.mem_map.mp (List.mem_filter.mp marked).1
              exact ⟨history, call, [], rfl, named, envelope, accepted, same⟩
            next => exact absurd marked List.not_mem_nil
          · exact earlier before

/-- A sink that accepts the first message of a batch, and says which one it accepted or, without the
methods for that, how many. -/
def firstOnly (names : Bool) : Sink Unit where
  registry :=
    { hasDurableAdmissionFor := some fun _ => some true
      publishFlowWithWatchBatchIndexed :=
        if names then some fun messages => some (Finset.range (min 1 messages.length)) else none
      publishAllBatchIndexed :=
        if names then some fun messages => some (Finset.range (min 1 messages.length)) else none
      publishAllBatchResults :=
        if names then
          some fun messages => some ((List.range messages.length).map (decide <| · = 0))
        else none
      publishAllBatch := some fun messages => some (min 1 messages.length)
      publishAll := fun position _ => position = 0 }
  accepted messages := Finset.range (min 1 messages.length)
  inside messages := Finset.range_subset_range.mpr (Nat.min_le_right _ _)
  flow publish method messages positions answered := by
    cases names
    · cases method
    · obtain rfl := Option.some.inj method
      exact (Option.some.inj answered).symm
  indexed publish method messages positions answered := by
    cases names
    · cases method
    · obtain rfl := Option.some.inj method
      exact (Option.some.inj answered).symm
  results publish method messages flags answered := by
    cases names
    · cases method
    · obtain rfl := Option.some.inj method
      obtain rfl := Option.some.inj answered
      refine List.map_congr_left fun i mem => ?_
      rw [List.mem_range] at mem
      simp only [Finset.mem_range, decide_eq_decide]
      omega
  counted publish method messages published answered := by
    obtain rfl := Option.some.inj method
    obtain rfl := Option.some.inj answered
    rw [Finset.card_range]
  each messages returned := by
    match messages with
    | [] | [_] => rfl
    | _ :: _ :: _ => cases returned

/-- A batch that holds one envelope twice. -/
def offeredTwice (poller : Poller) (names : Bool) (feed : Option String) : Call Unit :=
  ⟨poller, ⟨fun _ => 0, none⟩, firstOnly names,
    [⟨some "a", feed, ()⟩, ⟨some "a", feed, ()⟩]⟩

/-- A batch that repeats an id is offered as it is, on every path to the sink; the accepted envelope
is marked and tapped when the sink names it, and neither when it only says that it accepted one of
two. -/
theorem repeated_id_is_offered_twice :
    (∀ poller ∈ [.uw "uw" heberStream true, .quotes], ∀ names,
      ∀ feed ∈ [some "flow_alerts", none],
        let after := (offeredTwice poller names feed).publishEnvelopes .empty
        after.offered.map (fun message => message.2.idText) = ["a", "a"] ∧
          after.marks.marked = (if names then ["a"] else []) ∧
          after.marks.tapped.map Envelope.idText =
            if names && poller.taps then ["a"] else []) ∧
      (offeredTwice (.uw "uw" heberStream true) false none).acceptedEnvelopes .empty =
        [⟨some "a", none, ()⟩] := by
  refine ⟨by decide +kernel, ?_⟩
  have inside := (firstOnly false).inside [("heber:events", ⟨some "a", none, ()⟩),
    ("heber:events", ⟨some "a", none, ()⟩)]
  rw [Call.acceptedEnvelopes]
  exact (congrArg _ (sort_eq_filter inside)).trans (by decide +kernel)

end Pollers
end DataGateway
