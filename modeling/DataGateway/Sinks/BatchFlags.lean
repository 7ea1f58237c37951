import DataGateway.Sinks.Registry

/-!
# What one batch call reports

The flags of a batch call through a breaker, told by the events of the call: which messages were
given to the sink, what it reported of them, and which went to its retry buffer.
-/

namespace DataGateway
namespace Sinks

open Coroutine Breaker Indexed

variable {Time Data : Type}

/-! ## Normalized results -/

/-- A result of a method reports that the message at a place, of so many, was accepted. -/
def BatchMethod.Reports : BatchMethod → BatchResult → Nat → Nat → Prop
  | .results, .items flags, _, place => flags[place]? = some true
  | .indexed, .set members, _, place => some (place : Int) ∈ members
  | .count, raw, size, _ => (size : Int) ≤ raw.count
  | _, _, _, _ => False

@[simp]
theorem markIndex_length (n : Nat) (flags : List Bool) (member : Option Int) :
    (markIndex n flags member).length = flags.length := by
  unfold markIndex
  split
  · split <;> simp
  · rfl

theorem markIndex_true {n j : Nat} {flags : List Bool} {member : Option Int}
    (marked : (markIndex n flags member)[j]? = some true) :
    flags[j]? = some true ∨ member = some (j : Int) := by
  unfold markIndex at marked
  split at marked
  next index =>
    split at marked
    next inside =>
      by_cases own : index.toNat = j
      · exact .inr (by rw [← own, Int.toNat_of_nonneg inside.1])
      · exact .inl ((List.getElem?_set_ne own).symm.trans marked)
    · exact .inl marked
  · exact .inl marked

theorem foldl_markIndex (members : List (Option Int)) (n : Nat) (flags : List Bool) :
    (members.foldl (markIndex n) flags).length = flags.length ∧
      ∀ j : Nat, (members.foldl (markIndex n) flags)[j]? = some true →
        flags[j]? = some true ∨ some (j : Int) ∈ members := by
  induction members generalizing flags with
  | nil => exact ⟨rfl, fun _ marked => .inl marked⟩
  | cons member rest ih =>
      obtain ⟨length, marks⟩ := ih (markIndex n flags member)
      refine ⟨length.trans (markIndex_length ..), fun j marked => ?_⟩
      rcases marks j marked with here | later
      · exact (markIndex_true here).imp_right fun own : member = some (j : Int) => own ▸ .head _
      · exact .inr (.tail _ later)

@[simp]
theorem BatchMethod.toFlags_length (method : BatchMethod) (raw : BatchResult) (n : Nat) :
    (method.toFlags raw n).length = n := by
  cases method with
  | results => simp [toFlags, flagsFromResults]
  | indexed =>
      simp only [toFlags, flagsFromIndices]
      split
      · rw [(foldl_markIndex ..).1, List.length_replicate]
      · exact List.length_replicate
  | count =>
      simp only [toFlags, flagsFromCount]
      split <;> exact List.length_replicate

theorem BatchMethod.reports_of_toFlags {method : BatchMethod} {raw : BatchResult} {n j : Nat}
    (marked : (method.toFlags raw n)[j]? = some true) : method.Reports raw n j := by
  have lt : j < n := by
    simpa using (List.getElem?_eq_some_iff.mp marked).1
  cases method with
  | results =>
      cases raw with
      | items flags =>
          simp only [toFlags, flagsFromResults, List.getElem?_take, lt, if_true,
            List.getElem?_append] at marked
          split at marked
          · exact marked
          · simp [List.getElem?_replicate] at marked
      | _ => simp [toFlags, flagsFromResults, lt] at marked
  | indexed =>
      cases raw with
      | set members =>
          exact ((foldl_markIndex ..).2 j marked).resolve_left (by simp [lt])
      | _ => simp [toFlags, flagsFromIndices, lt] at marked
  | count =>
      simp only [toFlags, flagsFromCount] at marked
      split at marked
      · assumption
      · simp [lt] at marked

/-! ## Events -/

/-- What a publish has asked and heard, the newest first. -/
abbrev Log (Time Data : Type) := List ((command : RegistryCommand Data) × command.Reply Time)

/-- The sink was given the message of an index, and reported it accepted. -/
def Accepted (turn : Log Time Data) (sink : RegisteredSink) (method : BatchMethod)
    (messages : List (Message Data)) (i : Nat) : Prop :=
  ∃ picked raw place, ⟨.publishBatch sink method picked, .ok raw⟩ ∈ turn ∧
    Picks picked messages place i ∧ method.Reports raw picked.length place

/-- The sink was given the message of an index. -/
def Offered (turn : Log Time Data) (sink : RegisteredSink) (method : BatchMethod)
    (messages : List (Message Data)) (i : Nat) : Prop :=
  ∃ picked reply place, ⟨.publishBatch sink method picked, reply⟩ ∈ turn ∧
    Picks picked messages place i

/-- The message was given to the retry buffer of the sink. -/
def Buffered (turn : Log Time Data) (sink : RegisteredSink) (message : Message Data) : Prop :=
  ∃ reply, ⟨.bufferEvent sink message, reply⟩ ∈ turn

@[simp]
theorem buffered_append {first second : Log Time Data} {sink : RegisteredSink}
    {message : Message Data} : Buffered (first ++ second) sink message ↔
      Buffered first sink message ∨ Buffered second sink message := by
  simp [Buffered, exists_or]

section Monotone

variable {turn wider : Log Time Data} {sink : RegisteredSink} {method : BatchMethod}
variable {messages : List (Message Data)} {i : Nat}

theorem Accepted.mono (accepted : Accepted turn sink method messages i)
    (sub : ∀ event ∈ turn, event ∈ wider) : Accepted wider sink method messages i := by
  obtain ⟨picked, raw, place, mem, rest⟩ := accepted
  exact ⟨picked, raw, place, sub _ mem, rest⟩

theorem Offered.mono (offered : Offered turn sink method messages i)
    (sub : ∀ event ∈ turn, event ∈ wider) : Offered wider sink method messages i := by
  obtain ⟨picked, reply, place, mem, rest⟩ := offered
  exact ⟨picked, reply, place, sub _ mem, rest⟩

/-- What was accepted of a part of the messages was accepted of the messages. -/
theorem Accepted.picks {part : List (Message Data)} {place : Nat}
    (accepted : Accepted turn sink method part place) (picks : Picks part messages place i) :
    Accepted turn sink method messages i := by
  obtain ⟨picked, raw, inner, mem, chosen, reports⟩ := accepted
  exact ⟨picked, raw, inner, mem, chosen.trans picks, reports⟩

theorem Offered.picks {part : List (Message Data)} {place : Nat}
    (offered : Offered turn sink method part place) (picks : Picks part messages place i) :
    Offered turn sink method messages i := by
  obtain ⟨picked, reply, inner, mem, chosen⟩ := offered
  exact ⟨picked, reply, inner, mem, chosen.trans picks⟩

end Monotone

/-! ## One call -/

/-- What the flags of a batch call say about its events. -/
structure FlagsExact (turn : Log Time Data) (sink : RegisteredSink) (method : BatchMethod)
    (messages : List (Message Data)) (flags : List Bool) : Prop where
  length : flags.length = messages.length
  accepted : ∀ j, flags[j]? = some true → Accepted turn sink method messages j
  unbuffered : ∀ (j : Nat) (message : Message Data), messages[j]? = some message →
    Buffered turn sink message → flags[j]? = some false
  offered : ∀ (j : Nat) (message : Message Data), messages[j]? = some message →
    sink.keeps message → Offered turn sink method messages j

variable {sink : RegisteredSink} {method : BatchMethod} {messages : List (Message Data)}

/-- Every run of a part of a publish ends, with what it asked and heard, in the postcondition. -/
abbrev Writes {α : Type} (post : Except (RegistryError Time) α → Log Time Data → Prop)
    (body : Publish Time Data α) : Prop :=
  Meets (Contract.logged (RegistryCommand.Reply Time Data)) post [] body

/-- The admitted call: it ends with flags only if the sink has returned them, and it fails otherwise
only after the sink was called. -/
theorem writes_call :
    Writes (fun outcome (turn : Log Time Data) =>
      (∀ message, ¬ Buffered turn sink message) ∧
      match outcome with
      | .ok flags => ∃ raw, ⟨.publishBatch sink method messages, .ok raw⟩ ∈ turn ∧
          flags = method.toFlags raw messages.length
      | .error (.circuitOpen _) => True
      | .error _ => ∃ reply, ⟨.publishBatch sink method messages, reply⟩ ∈ turn)
    (Breaker.call (runSection sink) .circuitOpen RegistryError.isException
      (probe sink method messages)) := by
  simp only [Writes, Breaker.call, runSection, Coroutine.bind, resolve_suspend, resolve_finish,
    meets_logged_suspend]
  rintro (rejection | holdingHalfOpenSlot)
  · simp [Buffered]
  · simp only [probe, resolve_suspend, meets_logged_suspend]
    rintro (error | raw)
    · dsimp only [raise, resolve_finish]
      cases error <;> cases holdingHalfOpenSlot <;>
        simp [RegistryError.isException, Buffered]
    · dsimp only
      split <;> simp [RegistryError.isException, Buffered, raise]

/-- A loop over messages that only buffers them buffers no other message. -/
theorem writes_buffering {α : Type} (sink : RegisteredSink) (messages : List (Message Data))
    {body : Publish Time Data α}
    (uses : body.Uses fun command => ∃ message ∈ messages, command = .bufferEvent sink message) :
    Writes (fun _ turn => ∀ message, Buffered turn sink message → message ∈ messages) body := by
  refine (uses.logged []).mono ?_
  rintro _ _ ⟨turn, rfl, only⟩ message ⟨reply, mem⟩
  obtain ⟨other, inside, same⟩ := only _ (by simpa using mem)
  obtain ⟨-, rfl⟩ := RegistryCommand.bufferEvent.inj same
  exact inside

theorem uses_safeBuffering :
    (forEach messages (safeBufferEvent sink) : Publish Time Data Unit).Uses fun command =>
      ∃ message ∈ messages, command = .bufferEvent sink message :=
  Uses.foldEach fun _ message mem => by
    unfold safeBufferEvent
    split
    · exact ⟨⟨message, mem, rfl⟩, fun _ => trivial⟩
    · trivial

/-- What the flags of the direct path say: volatile messages are not confirmed, durable ones are
offered. -/
structure DirectFlags (turn : Log Time Data) (sink : RegisteredSink) (method : BatchMethod)
    (messages : List (Message Data)) (flags : List Bool) : Prop where
  length : flags.length = messages.length
  accepted : ∀ j : Nat, flags[j]? = some true → Accepted turn sink method messages j
  volatile : ∀ (j : Nat) (message : Message Data), messages[j]? = some message →
    ¬ sink.keeps message → flags[j]? = some false
  offered : ∀ (j : Nat) (message : Message Data), messages[j]? = some message →
    sink.keeps message → Offered turn sink method messages j

/-- The flags of the durable messages, put back at their places in the batch. -/
theorem directFlags_assign {reply : Except (RegistryError Time) BatchResult} {values : List Bool}
    (sized : values.length = (messages.filter sink.keeps).length)
    (reported : ∀ k : Nat, values[k]? = some true →
      ∃ raw, reply = .ok raw ∧ method.Reports raw (messages.filter sink.keeps).length k) :
    DirectFlags [⟨.publishBatch sink method (messages.filter sink.keeps), reply⟩] sink
      method messages
      (assign (List.replicate messages.length false)
      (enumerateWhere sink.keeps messages) values) := by
  have place := fun (j : Nat) message (here : messages[j]? = some message) =>
    assign_enumerateWhere here (List.length_replicate (a := false)) sized
  refine ⟨by
      simp, fun j marked => ?_, fun j message here skipped => ?_, fun j message here kept => ?_⟩
  · have lt : j < messages.length := by simpa using (List.getElem?_eq_some_iff.mp marked).1
    obtain ⟨message, here⟩ : ∃ message, messages[j]? = some message :=
      ⟨_, List.getElem?_eq_getElem lt⟩
    rw [place j message here] at marked
    split at marked
    next kept =>
      obtain ⟨raw, rfl, reports⟩ := reported _ marked
      exact ⟨_, raw, _, .head _, picks_filter here kept, reports⟩
    · simp [List.getElem?_replicate] at marked
  · rw [place j message here, if_neg skipped]
    simp [(List.getElem?_eq_some_iff.mp here).1]
  · exact ⟨_, reply, _, .head _, picks_filter here kept⟩

theorem writes_publishDurable :
    Writes (fun outcome (turn : Log Time Data) => (∀ message, ¬ Buffered turn sink message) ∧
      ∀ flags, outcome = .ok flags → DirectFlags turn sink method messages flags)
    (publishDurable sink method messages) := by
  unfold publishDurable
  extract_lets flags durableIndexed durableMessages
  have values : durableMessages = messages.filter sink.keeps := enumerateWhere_values ..
  split
  next empty =>
    refine ⟨by simp [Buffered], fun _ same => ?_⟩
    obtain rfl := Except.ok.inj same
    have volatile (j : Nat) (message : Message Data) (here : messages[j]? = some message) :
        ¬ sink.keeps message := fun kept => by
      have mem : (message, j) ∈ durableIndexed := mem_enumerateWhere.mpr ⟨here, kept⟩
      simp [List.isEmpty_iff.mp empty] at mem
    refine ⟨List.length_replicate, fun j marked => ?_, fun j message here _ => ?_,
      fun j message here kept => (volatile j message here kept).elim⟩
    · simp [flags, List.getElem?_replicate] at marked
    · simp [flags, (List.getElem?_eq_some_iff.mp here).1]
  next some =>
    rw [Writes, meets_logged_suspend, values]
    rintro (error | raw)
    · dsimp only
      split
      · refine ⟨by simp [Buffered], fun _ same => ?_⟩
        obtain rfl := Except.ok.inj same
        exact directFlags_assign List.length_replicate fun k marked => by
          simp [List.getElem?_replicate] at marked
      · exact ⟨by simp [Buffered], nofun⟩
    · refine ⟨by simp [Buffered], fun _ same => ?_⟩
      obtain rfl := Except.ok.inj same
      exact directFlags_assign (BatchMethod.toFlags_length ..) fun k marked =>
        ⟨raw, rfl, BatchMethod.reports_of_toFlags marked⟩

section Exact

variable {turn : Log Time Data} {flags : List Bool}

/-- The sink has returned a result. -/
theorem flagsExact_returned {raw : BatchResult}
    (called : ⟨.publishBatch sink method messages, .ok raw⟩ ∈ turn)
    (unbuffered : ∀ message, ¬ Buffered turn sink message) :
    FlagsExact turn sink method messages (method.toFlags raw messages.length) := by
  refine ⟨BatchMethod.toFlags_length .., fun j marked => ?_,
    fun j message _ buffered => (unbuffered message buffered).elim,
    fun j message here _ => ⟨messages, .ok raw, j, called, picks_self here⟩⟩
  have lt : j < messages.length := by simpa using (List.getElem?_eq_some_iff.mp marked).1
  exact ⟨messages, raw, j, called, picks_self (List.getElem?_eq_getElem lt),
    BatchMethod.reports_of_toFlags marked⟩

/-- The admitted call has failed. -/
theorem flagsExact_failed
    (called : ∃ reply, ⟨.publishBatch sink method messages, reply⟩ ∈ turn) :
    FlagsExact turn sink method messages (List.replicate messages.length false) := by
  obtain ⟨reply, called⟩ := called
  refine ⟨List.length_replicate, fun j marked => ?_, fun j message here _ => ?_,
    fun j message here _ => ⟨messages, reply, j, called, picks_self here⟩⟩
  · simp [List.getElem?_replicate] at marked
  · simp [(List.getElem?_eq_some_iff.mp here).1]

/-- The call was rejected: only volatile messages are buffered. -/
theorem DirectFlags.exact {direct : Log Time Data}
    (flagged : DirectFlags direct sink method messages flags) (sub : ∀ event ∈ direct, event ∈ turn)
    (volatile : ∀ message, Buffered turn sink message → ¬ sink.keeps message) :
    FlagsExact turn sink method messages flags :=
  ⟨flagged.length, fun j marked => (flagged.accepted j marked).mono sub,
    fun j message here buffered => flagged.volatile j message here (volatile message buffered),
    fun j message here kept => (flagged.offered j message here kept).mono sub⟩

end Exact

/-- The flags of a batch call are exact, whatever the breaker and the sink answer. -/
theorem writes_batchPublishFlags :
    Writes (fun outcome (turn : Log Time Data) =>
      ∀ flags, outcome = .ok flags → FlagsExact turn sink method messages flags)
    (batchPublishFlags sink method messages) := by
  unfold batchPublishFlags
  split
  next empty =>
    obtain rfl := List.isEmpty_iff.mp empty
    intro _ same
    obtain rfl := Except.ok.inj same
    exact ⟨rfl, by simp, by simp, by simp⟩
  next some =>
    rw [Writes, meets_logged_suspend]
    rintro (message | state)
    · exact nofun
    have quiet (message : Message Data) :
        ¬ Buffered ([⟨.breaker sink, .ok state⟩] : Log Time Data) sink message := by simp [Buffered]
    refine Meets.logged_after (meets_resolve.mpr (writes_call.mono ?_))
    rintro (error | flags) turn ⟨unbuffered, ended⟩
    · refine Meets.logged_after ?_
      have failed (called : ∃ reply, ⟨.publishBatch sink method messages, reply⟩ ∈ turn) :
          Writes (fun outcome later => ∀ flags, outcome = .ok flags →
            FlagsExact (later ++ turn ++ [⟨.breaker sink, .ok state⟩]) sink method messages flags)
          ((forEach messages (safeBufferEvent sink) : Publish Time Data Unit).bind fun _ =>
            .finish (.ok (List.replicate messages.length false))) := by
        refine (writes_buffering sink _ uses_safeBuffering).logged_bind
          (fun _ buffering _ _ same => ?_) (fun _ _ _ => nofun)
        obtain rfl := Except.ok.inj same
        exact flagsExact_failed (called.imp fun _ mem => by simp [mem])
      cases error with
      | circuitOpen rejection =>
          refine (writes_buffering sink _ uses_safeBuffering).logged_bind
            (fun _ buffering only => ?_) (fun _ _ _ => nofun)
          refine writes_publishDurable.mono fun outcome direct ⟨still, exact⟩ flags same => ?_
          refine (exact flags same).exact (fun event mem => by simp [mem])
            fun message buffered => ?_
          have inside : Buffered buffering sink message := by
            simpa [still, unbuffered, quiet] using buffered
          simpa using (List.mem_filter.mp (only message inside)).2
      | cancelled => exact nofun
      | _ => exact failed ended
    · obtain ⟨raw, called, rfl⟩ := ended
      intro _ same
      obtain rfl := Except.ok.inj same
      exact flagsExact_returned (by simp [called]) fun message => by simp [unbuffered, quiet]

end Sinks
end DataGateway
