import DataGateway.Streaming.Multiplexer

/-!
# Disconnecting

A client that leaves is taken out of one stream after the other, each with its own frames.  A send
that raises ends the loop: the streams behind it keep the client.
-/

namespace DataGateway
namespace Streaming

open Coroutine Machine

variable {Client : Type} [DecidableEq Client]

/-- The manager has the client in its table or in an index. -/
def SubscriptionManager.Names (manager : SubscriptionManager Client) (client : Client) : Prop :=
  manager.subscriptions.contains client = true ∨
    ∃ name symbol, client ∈ (manager.index name).clients symbol

theorem SubscriptionManager.names_iff {manager : SubscriptionManager Client} {client : Client} :
    manager.Names client ↔ manager.subscriptions.contains client = true := by
  refine ⟨?_, .inl⟩
  rintro (listed | ⟨name, symbol, mem⟩)
  · exact listed
  · have held := ((manager.lists name).mem_clients symbol client).mp mem
    unfold OrderedDict.contains
    cases found : manager.subscriptions.get? client with
    | none =>
        rw [found] at held
        cases held
    | some feeds => rfl

/-- What `client_disconnect` has done after some of the streams. -/
def leftAll (start : Registration) (done : List AlpacaStreamType) (raised : List AlpacaStreamType)
    (last : Registration) : Prop :=
  last.raised = raised ++ start.raised ∧
    ∀ streamType, last.listed streamType =
      if streamType ∈ done then false else start.listed streamType

theorem clientDisconnect_meets (multiplexer : StreamMultiplexer) (start : Registration) :
    Meets (recording .free) (fun outcome last => match outcome with
      | .ok _ => leftAll start multiplexer.streams [] last
      | .error _ => ∃ before streamType after,
          multiplexer.streams = before ++ streamType :: after ∧
            leftAll start (before ++ [streamType]) [streamType] last)
      start multiplexer.clientDisconnect := by
  let Inv : List AlpacaStreamType → Unit → Registration → Prop := fun rest _ last =>
    ∃ done, multiplexer.streams = done ++ rest ∧ leftAll start done [] last
  have first : Inv multiplexer.streams () start := ⟨[], rfl, rfl, fun _ => by simp⟩
  refine (Meets.foldEach Inv (fun _ last => ∃ before streamType after,
    multiplexer.streams = before ++ streamType :: after ∧
      leftAll start (before ++ [streamType]) [streamType] last) first ?_).mono ?_
  · rintro streamType rest _ record ⟨done, split, raised, listed⟩
    refine ⟨trivial, fun sent next recorded => ?_⟩
    obtain rfl : next = _ := recorded.1
    have failed (error : StreamError) (_ : sent = .error error) :
        Raises (fun _ _ _ => True) error :=
      ⟨.sendAncillary streamType .unsubscribe ∅, record, .error error, trivial, rfl⟩
    refine (finishSent_meets sent failed).mono fun outcome last ended => ?_
    have gone : ∀ other, (record.setHeld streamType false fun _ => ∅).listed other =
        if other ∈ done ++ [streamType] then false else start.listed other := by
      intro other
      change Function.update record.listed streamType false other = _
      rw [Function.update_apply, listed]
      by_cases same : other = streamType
      · simp [same]
      · simp [same]
    cases outcome with
    | ok _ =>
        obtain rfl : last = _ := ended.1
        exact ⟨done ++ [streamType], by simp [split], raised, gone⟩
    | error error =>
        obtain rfl : last = _ := ended.1
        exact ⟨done, streamType, rest, split, congrArg (streamType :: ·) raised, gone⟩
  · rintro outcome last ended
    cases outcome with
    | ok _ =>
        obtain ⟨done, split, left⟩ := ended
        rw [List.append_nil] at split
        rwa [← split] at left
    | error error => exact ended

section Runs

variable [Unicode] {P : Policy (streaming Client)}
  {initial final : Config Client StreamCommand.Reply StreamError Unit (StreamWorld Client)}

/-- A client that has disconnected, with or without an exception, is forgotten by every manager just
when no send raised at a stream with a later stream that listed it. -/
theorem disconnect_leaves_no_trace_iff {multiplexer : StreamMultiplexer} {client : Client}
    {outcome : Except StreamError Unit} (run : Reaches P initial final)
    (task : initial.tasks client = multiplexer.clientDisconnect)
    (ended : final.tasks client = .finish outcome) :
    ∃ raised, final.world.raised client = raised ++ initial.world.raised client ∧
      ((∀ streamType ∈ multiplexer.streams,
          ¬ (final.world.connections streamType).subscriptions.Names client) ↔
        ∀ before streamType after, multiplexer.streams = before ++ streamType :: after →
          streamType ∈ raised → ∀ later ∈ after,
            ¬ (initial.world.connections later).subscriptions.Names client) := by
  have records := reaches_recorded run client
    (task ▸ clientDisconnect_meets multiplexer (initial.world.registration client))
  rw [ended] at records
  have names (world : StreamWorld Client) (streamType : AlpacaStreamType) :
      ¬ (world.connections streamType).subscriptions.Names client ↔
        (world.registration client).listed streamType = false := by
    rw [SubscriptionManager.names_iff, Bool.not_eq_true]
    rfl
  simp only [names]
  cases outcome with
  | ok _ =>
      obtain ⟨raised, listed⟩ := records
      refine ⟨[], raised, iff_of_true (fun streamType mem => ?_) fun _ _ _ _ none => by cases none⟩
      rw [listed, if_pos mem]
  | error error =>
      obtain ⟨before, failed, after, split, raised, listed⟩ := records
      have nodup := multiplexer.nodup
      rw [split, List.nodup_append, List.nodup_cons] at nodup
      obtain ⟨_, ⟨notAfter, _⟩, apart⟩ := nodup
      have notBefore : failed ∉ before := fun mem => apart failed mem failed (.head _) rfl
      refine ⟨[failed], raised, ?_, ?_⟩
      · intro forgotten before' failed' after' same mem later here
        obtain rfl := List.mem_singleton.mp mem
        obtain ⟨rfl, _, rfl⟩ :=
          (List.append_cons_inj_of_notMem notBefore notAfter).mp (split.symm.trans same)
        have unseen : later ∉ before ++ [failed'] := by
          rw [List.mem_append, List.mem_singleton]
          rintro (mem | rfl)
          · exact apart later mem later (.tail _ here) rfl
          · exact notAfter here
        have kept := forgotten later (split ▸ by simp [here])
        rwa [listed, if_neg unseen] at kept
      · intro clean streamType mem
        rw [listed]
        split
        · rfl
        next unseen =>
          rw [split, List.mem_append, List.mem_cons] at mem
          rw [List.mem_append, List.mem_singleton, not_or] at unseen
          have here := (mem.resolve_left unseen.1).resolve_left unseen.2
          exact clean before failed after split (.head _) streamType here

end Runs

/-- A stream that has just connected, with one client's quotes. -/
def connectedWith (streamType : AlpacaStreamType) (symbol : String) (world : StreamWorld Unit) :
    StreamWorld Unit :=
  let _ := asciiUnicode
  let ready := (world.disturb (.connect streamType)).disturb (.authenticate streamType none)
  let requested (name : FeedName) := if name = .quotes then [symbol] else []
  (ready.change () streamType .subscribe
    ((ready.connections streamType).subscriptions.subscribe () requested) none).2

/-- One client with quotes of a stock and of an option, about to leave. -/
def leaving : Config Unit StreamCommand.Reply StreamError Unit (StreamWorld Unit) where
  world := connectedWith .options "AAPL260116C00200000" (connectedWith .stocksSip "AAPL" .initial)
  tasks _ := StreamMultiplexer.sip.clientDisconnect

/-- Every send raises, or none does. -/
def sends (failure : Option StreamError) : (command : StreamCommand) → command.Outcome
  | .receive => none
  | .sendJson _ | .subscribe _ _ | .unsubscribe _ _ | .removeClient _ |
      .sendAncillary _ _ _ => failure
  | .getMultiplexer | .ensureConnected _ | .getFlowFanout | .producerWired => true
  | .highWatermark => none
  | .flowSubscribe _ | .flowUnsubscribe _ | .flowDisconnect => ()

/-- The first send raises: the stream of options keeps the client. -/
theorem failed_send_keeps_the_client : ∃ final,
    Reaches (Policy.free (asciiStreaming Unit)) leaving final ∧
      final.tasks () = .finish (.error .connectionClosed) ∧
      (final.world.connections .options).subscriptions.Names () := by
  have played : ∃ final, leaving.play (Policy.free (asciiStreaming Unit))
      [.run () (sends (some .connectionClosed))] = some final ∧
        final.tasks () = .finish (.error .connectionClosed) ∧
        (final.world.connections .options).subscriptions.subscriptions.contains () = true :=
    ⟨_, rfl, rfl, rfl⟩
  obtain ⟨final, ran, ended, listed⟩ := played
  exact ⟨final, Config.play_reaches ran, ended, .inl listed⟩

/-- Without a failure the client is forgotten by both streams. -/
theorem leaving_is_forgotten : ∃ final,
    Reaches (Policy.free (asciiStreaming Unit)) leaving final ∧
      ∀ streamType ∈ StreamMultiplexer.sip.streams,
        ¬ (final.world.connections streamType).subscriptions.Names () := by
  have played : ∃ final, leaving.play (Policy.free (asciiStreaming Unit))
      [.run () (sends none), .run () (sends none), .run () (sends none), .run () (sends none),
        .run () (sends none), .run () (sends none)] = some final ∧
        final.tasks () = .finish (.ok ()) ∧ final.world.raised () = [] :=
    ⟨_, rfl, rfl, rfl⟩
  obtain ⟨final, ran, ended, none⟩ := played
  obtain ⟨raised, records, forgotten⟩ := @disconnect_leaves_no_trace_iff Unit _ asciiUnicode _ _ _
    .sip () _ (Config.play_reaches ran) rfl ended
  refine ⟨final, Config.play_reaches ran, forgotten.mpr fun _ failed _ _ mem => ?_⟩
  have both := records.symm.trans none
  rw [(List.append_eq_nil_iff.mp both).1] at mem
  cases mem

end Streaming
end DataGateway
