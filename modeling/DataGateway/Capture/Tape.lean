import DataGateway.Capture.OptionCapture

/-!
# What is on the tape

A call of the multiplexer registers before it sends.  When the send raises, the service does not
record what was registered, and only the next comparison can make up for it.
-/

namespace DataGateway
namespace Capture

open Coroutine Machine Streaming

/-! ## One reconciliation -/

/-- The feeds that the service subscribes. -/
def OnTape (name : FeedName) : Prop := name = .quotes ∨ name = .trades

theorem OnTape.tape {name : FeedName} (onTape : OnTape name) (contracts : List String) :
    tape contracts name = contracts := by
  rcases onTape with rfl | rfl
  · rfl
  · rfl

/-- Nothing that is wanted and believed subscribed is missing, and nothing that is registered and
not wanted is unknown to the service. -/
def Comparison.Sound (before : Comparison) : Prop :=
  ∀ name, OnTape name →
    before.service.desiredContracts ∩ before.service.subscribedContracts ⊆ before.registered name ∧
      before.registered name \ before.service.desiredContracts ⊆ before.service.subscribedContracts

/-- What is registered for quotes and for trades is what the latest snapshots have. -/
def Reconciliation.Exact (reconciliation : Reconciliation) : Prop :=
  ∀ name, OnTape name →
    reconciliation.registered name = reconciliation.service.desiredContracts

/-- It is exact if and only if its comparison was sound, and certainly when no send had raised. -/
def Reconciliation.Settled (reconciliation : Reconciliation) : Prop :=
  (reconciliation.Exact ↔ reconciliation.before.Sound) ∧
    (reconciliation.raised = [] → reconciliation.Exact)

/-- Adding what is missing in one record and removing what is too much in it is exact when the other
record was right about both. -/
theorem reconciled_eq_iff {desired subscribed registered : Finset String} :
    (registered ∪ (desired \ subscribed)) \ (subscribed \ desired) = desired ↔
      desired ∩ subscribed ⊆ registered ∧ registered \ desired ⊆ subscribed := by
  constructor
  · intro exact_
    constructor
    · intro contract both
      obtain ⟨wanted, had⟩ := Finset.mem_inter.mp both
      rw [← exact_] at wanted
      rcases Finset.mem_union.mp (Finset.mem_sdiff.mp wanted).1 with registered | missing
      · exact registered
      · exact absurd had (Finset.mem_sdiff.mp missing).2
    · intro contract extra
      obtain ⟨registered, unwanted⟩ := Finset.mem_sdiff.mp extra
      by_contra unknown
      apply unwanted
      rw [← exact_]
      simp [registered, unknown]
  · rintro ⟨kept, known⟩
    ext contract
    have wanted := @kept contract
    have extra := @known contract
    simp only [Finset.mem_inter, Finset.mem_sdiff, Finset.mem_union] at wanted extra ⊢
    tauto

/-! ## What the service sees -/

/-- What is recorded of the service's subscriptions, and the service's own part of the world. -/
structure CaptureView where
  record : Registration
  service : OptionCaptureService
  comparison : Option Comparison
  reconciliations : List Reconciliation

namespace CaptureView

/-- What a command of the service makes of what it sees. -/
def next (view : CaptureView) : (command : CaptureCommand) → command.Reply → CaptureView
  | .captureSymbol symbol, contracts =>
      { view with service := view.service.recordSnapshot symbol contracts }
  | .compare, _ =>
      { view with comparison := some ⟨view.service, view.record.held .options⟩ }
  | .stream command, reply => { view with record := view.record.next command reply }
  | .noteSubscribed added, _ => { view with service := view.service.noteSubscribed added }
  | .noteUnsubscribed removed, _ => { view with service := view.service.noteUnsubscribed removed }
  | .reconciled, _ =>
      { view with
        reconciliations := match view.comparison with
          | none => view.reconciliations
          | some before =>
              ⟨before, view.service, view.record.held .options, view.record.raised⟩ ::
                view.reconciliations }
  | .marketOpen, _ | .publish, _ => view

/-- A reconciliation returns what its comparison allows. -/
def returns : CaptureCommand → CaptureView → Prop
  | .reconciled, view => ∀ before, view.comparison = some before →
      (⟨before, view.service, view.record.held .options, view.record.raised⟩ :
        Reconciliation).Settled
  | _, _ => True

/-- The service is told what it compared. -/
def compares : (command : CaptureCommand) → CaptureView → command.Reply → Prop
  | .compare, view, reply => reply = (view.service.toAdd, view.service.toRemove)
  | _, _, _ => True

end CaptureView

/-- The contract of the service. -/
abbrev captures : Contract CaptureCommand.Reply CaptureView :=
  .tracking CaptureView.next ⟨CaptureView.returns, CaptureView.compares⟩

/-! ## Calls of the multiplexer -/

section Calls

variable {multiplexer : StreamMultiplexer} {requested : PerFeed (List String)}
variable {record : Registration}

theorem getConnection_options {target : AlpacaStreamType}
    (found : multiplexer.getConnection .options = some target) : target = .options := by
  unfold StreamMultiplexer.getConnection at found
  split at found
  · exact (Option.some.inj found).symm
  · simp [AlpacaStreamType.isStocks] at found

/-- How a subscription ends: it is registered and answered, refused before it is registered,
or a send raised. -/
def Subscribed (multiplexer : StreamMultiplexer) (requested : PerFeed (List String))
    (record : Registration) : Except StreamError ClientAck → Registration → Prop
  | .ok (.ok _ _), last => (multiplexer.getConnection .options).isSome ∧
      last.held = record.held.add requested (some .options) ∧ last.raised = record.raised
  | .ok (.error _ _), last => last = record
  | .error _, last => last.raised ≠ []

/-- How the removal of a subscription ends. -/
def Unsubscribed (multiplexer : StreamMultiplexer) (requested : PerFeed (List String))
    (record : Registration) : Except StreamError Unit → Registration → Prop
  | .ok _, last =>
      last.held = record.held.remove requested (multiplexer.getConnection .options) ∧
        last.raised = record.raised
  | .error _, last => last.raised ≠ []

theorem subscribeConnected_meets (found : multiplexer.getConnection .options = some .options) :
    Meets (recording .free) (Subscribed multiplexer requested record) record
      (StreamMultiplexer.subscribeConnected .options requested) := by
  refine ⟨trivial, ?_⟩
  rintro sent _ ⟨rfl, -⟩
  cases sent with
  | error error => exact List.cons_ne_nil _ _
  | ok first =>
      refine finishRequest_meets.bind ?_ ?_
      · rintro _ _ ⟨rfl, -⟩
        exact ⟨by rw [found]; rfl, rfl, rfl⟩
      · rintro error _ ⟨rfl, -⟩
        exact List.cons_ne_nil _ _

theorem clientSubscribe_meets : Meets (recording .free) (Subscribed multiplexer requested record)
    record (multiplexer.clientSubscribe .options requested) := by
  unfold StreamMultiplexer.clientSubscribe
  cases found : multiplexer.getConnection .options with
  | none => rfl
  | some target =>
      obtain rfl := getConnection_options found
      dsimp only
      split
      · refine ⟨trivial, ?_⟩
        rintro ready _ ⟨rfl, -⟩
        cases ready with
        | true => exact subscribeConnected_meets found
        | false => rfl
      · exact subscribeConnected_meets found

theorem clientUnsubscribe_meets : Meets (recording .free)
    (Unsubscribed multiplexer requested record)
    record (multiplexer.clientUnsubscribe .options requested) := by
  unfold StreamMultiplexer.clientUnsubscribe
  cases found : multiplexer.getConnection .options with
  | none =>
      dsimp only
      exact ⟨by rw [found]; rfl, rfl⟩
  | some target =>
      obtain rfl := getConnection_options found
      refine ⟨trivial, ?_⟩
      rintro sent _ ⟨rfl, -⟩
      cases sent with
      | error error => exact List.cons_ne_nil _ _
      | ok first =>
          refine finishRequest_meets.mono ?_
          rintro (error | _) _ ⟨rfl, -⟩
          · exact List.cons_ne_nil _ _
          · exact ⟨by rw [found]; rfl, rfl⟩

end Calls

/-! ## What every cycle keeps -/

section Cycles

variable {multiplexer : StreamMultiplexer} {start last : CaptureView}

/-- As long as no send raised, what is registered is what the service believes. -/
structure InLine (multiplexer : StreamMultiplexer) (view : CaptureView) : Prop where
  absent : multiplexer.getConnection .options = none → view.service.subscribedContracts = ∅
  believed : view.record.raised = [] → ∀ name, OnTape name →
    view.record.held .options name = view.service.subscribedContracts

/-- A failure changes what is registered only with a send that raised. -/
theorem InLine.failed (inLine : InLine multiplexer start)
    (subscribed : last.service.subscribedContracts = start.service.subscribedContracts)
    (record : last.record.raised ≠ [] ∨ last.record = start.record) : InLine multiplexer last where
  absent none := subscribed.trans (inLine.absent none)
  believed silent name onTape := by
    rcases record with raised | same
    · exact absurd silent raised
    · rw [same] at silent ⊢
      rw [subscribed]
      exact inLine.believed silent name onTape

/-- One call changed what is registered and what is believed in the same way. -/
structure Moved (change : Finset String → Finset String) (start last : CaptureView) : Prop where
  comparison : last.comparison = start.comparison
  symbolContracts : last.service.symbolContracts = start.service.symbolContracts
  subscribed : last.service.subscribedContracts = change start.service.subscribedContracts
  registered : ∀ name, OnTape name →
    last.record.held .options name = change (start.record.held .options name)
  raised : last.record.raised = start.record.raised

theorem Moved.refl {change : Finset String → Finset String}
    (same : ∀ contracts, change contracts = contracts) :
    Moved change start start :=
  ⟨rfl, rfl, (same _).symm, fun _ _ => (same _).symm, rfl⟩

theorem Moved.inLine {change : Finset String → Finset String} (moved : Moved change start last)
    (inLine : InLine multiplexer start)
    (absent : multiplexer.getConnection .options = none → change ∅ = ∅) :
    InLine multiplexer last where
  absent none := by rw [moved.subscribed, inLine.absent none, absent none]
  believed silent name onTape := by
    rw [moved.raised] at silent
    rw [moved.registered name onTape, moved.subscribed, inLine.believed silent name onTape]

/-- A call of the multiplexer changes only what is recorded of the service's subscriptions. -/
theorem callMultiplexer_meets {α : Type} {call : Handler α}
    {post : Except StreamError α → Registration → Prop}
    (meets : Meets (recording .free) post start.record call) :
    Meets captures (fun outcome last => ∃ inner, outcome = inner.mapError .stream ∧
      post inner last.record ∧ last = { start with record := last.record }) start
      (callMultiplexer call) := by
  have kept : { start with record := start.record } = start := rfl
  refine Meets.embed meets kept (fun _ _ _ _ => trivial) ?_
  rintro command state reply _ kept ⟨rfl, -⟩
  refine ⟨⟨rfl, trivial⟩, ?_⟩
  rw [kept]
  rfl

theorem addContracts_meets {added : List String} (inLine : InLine multiplexer start) :
    Meets captures (fun outcome last => InLine multiplexer last ∧
      (outcome = .ok () → Moved (· ∪ added.toFinset) start last)) start
      (addContracts multiplexer added) := by
  unfold addContracts
  split
  next none =>
    subst none
    exact ⟨inLine, fun _ => .refl fun contracts => by simp⟩
  · refine (callMultiplexer_meets clientSubscribe_meets).bind ?_ ?_
    · rintro ack called ⟨inner, outcome, ended, kept⟩
      cases inner with
      | error error => cases outcome
      | ok inner =>
          obtain rfl := Except.ok.inj outcome
          cases ack with
          | error code message =>
              refine ⟨inLine.failed ?_ (.inr ended), by rintro ⟨⟩⟩
              rw [kept]
          | ok subscribed warnings =>
              obtain ⟨present, held, raised⟩ := ended
              refine ⟨trivial, ?_⟩
              rintro _ _ ⟨rfl, -⟩
              have moved : Moved (· ∪ added.toFinset) start
                  { called with service := called.service.noteSubscribed added } := by
                refine ⟨?_, ?_, ?_, fun name onTape => ?_, raised⟩
                · rw [kept]
                · rw [kept]
                  rfl
                · rw [kept]
                  rfl
                · simp only [held]
                  ext contract
                  rw [Holdings.mem_add, onTape.tape]
                  simp
              refine ⟨moved.inLine inLine fun none => ?_, fun _ => moved⟩
              rw [none] at present
              cases present
    · rintro error called ⟨inner, outcome, ended, kept⟩
      cases inner with
      | ok inner => cases outcome
      | error failure =>
          refine ⟨inLine.failed ?_ (.inl ended), by rintro ⟨⟩⟩
          rw [kept]

theorem removeContracts_meets {removed : List String} (inLine : InLine multiplexer start)
    (absent : multiplexer.getConnection .options = none → removed = []) :
    Meets captures (fun outcome last => InLine multiplexer last ∧
      (outcome = .ok () → Moved (· \ removed.toFinset) start last)) start
      (removeContracts multiplexer removed) := by
  unfold removeContracts
  split
  next none =>
    subst none
    exact ⟨inLine, fun _ => .refl fun contracts => by simp⟩
  next some =>
    refine (callMultiplexer_meets clientUnsubscribe_meets).bind ?_ ?_
    · rintro done called ⟨inner, outcome, ended, kept⟩
      cases inner with
      | error error => cases outcome
      | ok inner =>
          obtain ⟨held, raised⟩ := ended
          refine ⟨trivial, ?_⟩
          rintro _ _ ⟨rfl, -⟩
          have moved : Moved (· \ removed.toFinset) start
              { called with service := called.service.noteUnsubscribed removed } := by
            refine ⟨?_, ?_, ?_, fun name onTape => ?_, raised⟩
            · rw [kept]
            · rw [kept]
              rfl
            · rw [kept]
              rfl
            · obtain ⟨target, found⟩ := Option.ne_none_iff_exists'.mp fun none => some (absent none)
              obtain rfl := getConnection_options found
              simp only [held, found]
              ext contract
              rw [Holdings.mem_remove, onTape.tape]
              simp
          exact ⟨moved.inLine inLine fun _ => Finset.empty_sdiff _, fun _ => moved⟩
    · rintro error called ⟨inner, outcome, ended, kept⟩
      cases inner with
      | ok inner => cases outcome
      | error failure =>
          refine ⟨inLine.failed ?_ (.inl ended), by rintro ⟨⟩⟩
          rw [kept]

/-- The reconciliation of one comparison is exact when the comparison was sound. -/
theorem exact_iff_sound {before : Comparison} {service : OptionCaptureService}
    {registered : PerFeed (Finset String)} {raised : List AlpacaStreamType}
    (symbolContracts : service.symbolContracts = before.service.symbolContracts)
    (moved : ∀ name, OnTape name → registered name =
      (before.registered name ∪ before.service.toAdd.toFinset) \ before.service.toRemove.toFinset) :
    (⟨before, service, registered, raised⟩ : Reconciliation).Exact ↔ before.Sound := by
  have desired : service.desiredContracts = before.service.desiredContracts := by
    rw [OptionCaptureService.desiredContracts, symbolContracts]
    rfl
  refine forall₂_congr fun name onTape => ?_
  dsimp only
  rw [moved name onTape, desired, OptionCaptureService.toAdd, OptionCaptureService.toRemove,
    toFinset_sorted, toFinset_sorted]
  exact reconciled_eq_iff

/-- A reconciliation that begins in line ends in line, however its calls end. -/
theorem reconcile_meets (inLine : InLine multiplexer start) :
    Meets captures (fun _ last => InLine multiplexer last) start
      (reconcileWsSubscriptions multiplexer) := by
  refine ⟨trivial, ?_⟩
  rintro ⟨added, removed⟩ compared ⟨same, reply⟩
  obtain ⟨rfl, rfl⟩ := Prod.mk.inj reply
  have began : InLine multiplexer compared :=
    inLine.failed (by rw [same]; rfl) (.inr (by rw [same]; rfl))
  refine (addContracts_meets began).bind ?_ fun _ _ failed => failed.1
  rintro _ middle ⟨middleInLine, addedTo⟩
  have grown := addedTo rfl
  have absent : multiplexer.getConnection .options = none → start.service.toRemove = [] := by
    intro none
    rw [OptionCaptureService.toRemove, inLine.absent none, Finset.empty_sdiff]
    exact Finset.sort_empty _
  refine (removeContracts_meets middleInLine absent).bind ?_ fun _ _ failed => failed.1
  rintro _ ended ⟨endedInLine, removedFrom⟩
  have shrunk := removedFrom rfl
  refine ⟨?_, ?_⟩
  · intro before comparison
    rw [shrunk.comparison, grown.comparison, same] at comparison
    obtain rfl := Option.some.inj comparison
    have symbolContracts : ended.service.symbolContracts = start.service.symbolContracts := by
      rw [shrunk.symbolContracts, grown.symbolContracts, same]
      rfl
    have exact_iff :
        Reconciliation.Exact ⟨⟨start.service, start.record.held .options⟩, ended.service,
        ended.record.held .options, ended.record.raised⟩ ↔ _ := exact_iff_sound symbolContracts
      fun name onTape => by
        rw [shrunk.registered name onTape, grown.registered name onTape, same]
        rfl
    refine ⟨exact_iff, fun quiet => exact_iff.mpr fun name onTape => ?_⟩
    dsimp only at quiet ⊢
    rw [shrunk.raised, grown.raised, same] at quiet
    rw [inLine.believed quiet name onTape]
    exact ⟨Finset.inter_subset_right, Finset.sdiff_subset⟩
  · rintro _ last ⟨rfl, -⟩
    exact ⟨endedInLine.absent, endedInLine.believed⟩

/-- A snapshot changes neither what is registered nor what is believed. -/
theorem captureSymbols_meets {symbols : List String} (inLine : InLine multiplexer start) :
    Meets captures (fun _ last => InLine multiplexer last) start (captureSymbols symbols) := by
  have kept : ∀ symbol (_ : List String) (failed : List String) view, InLine multiplexer view →
      Meets captures (fun outcome last => match outcome with
        | .ok _ => InLine multiplexer last
        | .error _ => InLine multiplexer last) view
        (.suspend (.captureSymbol symbol) fun captured =>
          .finish (.ok (if captured.isSome then failed else failed ++ [symbol])) :
            Capturing _) := by
    intro symbol _ failed view inLine
    refine ⟨trivial, ?_⟩
    rintro captured _ ⟨rfl, -⟩
    refine inLine.failed ?_ (.inr rfl)
    cases captured with
    | none => rfl
    | some contracts => rfl
  refine (Meets.foldEach (fun _ _ => InLine multiplexer) (fun _ => InLine multiplexer) inLine
    kept).mono ?_
  rintro (error | failed) last inLine
  · exact inLine
  · exact inLine

/-- Every cycle, however it ends, leaves the service in line. -/
theorem runCycle_meets {symbols : List String} {websocketEnabled : Bool}
    (inLine : InLine multiplexer start) :
    Meets captures (fun _ last => InLine multiplexer last) start
      (runCycle multiplexer symbols websocketEnabled) := by
  refine ⟨trivial, ?_⟩
  rintro marketOpen _ ⟨rfl, -⟩
  cases marketOpen with
  | false => exact inLine
  | true =>
      refine (captureSymbols_meets inLine).bind_kept fun failed captured inLine => ?_
      refine ⟨trivial, ?_⟩
      rintro published _ ⟨rfl, -⟩
      cases published with
      | none => exact inLine
      | some published =>
          cases websocketEnabled with
          | true => exact (reconcile_meets inLine).bind_kept fun _ _ kept => kept
          | false => exact inLine

theorem runLoop_meets {symbols : List String} {websocketEnabled : Bool} {cycles : Nat}
    (inLine : InLine multiplexer start) :
    Meets captures (fun _ last => InLine multiplexer last) start
      (runLoop multiplexer symbols websocketEnabled cycles) := by
  induction cycles generalizing start with
  | zero => exact inLine
  | succ cycles ih => exact (runCycle_meets inLine).resolve fun _ _ kept => ih kept

end Cycles

/-! ## Every run -/

section Runs

variable {Client : Type} [DecidableEq Client]

/-- What the service sees of the world. -/
def CaptureWorld.view (captureClient : Client) (world : CaptureWorld Client) : CaptureView :=
  ⟨world.stream.registration captureClient, world.service, world.comparison, world.reconciliations⟩

variable [Unicode] {captureClient : Client} {world after : CaptureWorld Client}

/-- A command of the service changes what it sees as its program expects. -/
theorem view_perform {command : CaptureCommand} {outcome : command.Outcome} {reply : command.Reply}
    (performed : world.perform captureClient command outcome = some (reply, after)) :
    after.view captureClient = (world.view captureClient).next command reply ∧
      CaptureView.compares command (world.view captureClient) reply := by
  cases command with
  | stream command =>
      obtain ⟨⟨answer, stream⟩, made, same⟩ := Option.map_eq_some_iff.mp performed
      cases same
      refine ⟨?_, trivial⟩
      have recorded := StreamWorld.registration_perform made captureClient
      rw [if_pos rfl] at recorded
      rw [CaptureWorld.view, recorded]
      rfl
  | compare =>
      cases performed
      exact ⟨rfl, rfl⟩
  | marketOpen | captureSymbol _ | publish | noteSubscribed _ | noteUnsubscribed _ | reconciled =>
      cases performed
      exact ⟨rfl, trivial⟩

/-- What happens besides the service changes nothing that it sees. -/
theorem view_disturb (move : CaptureMove Client) :
    (world.disturb captureClient move).view captureClient = world.view captureClient := by
  cases move with
  | other client command outcome =>
      simp only [CaptureWorld.disturb]
      split
      · rfl
      next apart =>
        split
        next answer stream made =>
          have recorded := StreamWorld.registration_perform made captureClient
          rw [if_neg (Ne.symm apart)] at recorded
          rw [CaptureWorld.view, recorded]
          rfl
        · rfl
  | stream move =>
      rw [CaptureWorld.view, CaptureWorld.disturb, StreamWorld.registration_disturb]
      rfl

/-- What a command adds to the reconciliations is settled. -/
theorem settled_perform {command : CaptureCommand} {outcome : command.Outcome}
    {reply : command.Reply}
    (held : ∀ reconciliation ∈ world.reconciliations, reconciliation.Settled)
    (returns : CaptureView.returns command (world.view captureClient))
    (performed : world.perform captureClient command outcome = some (reply, after)) :
    ∀ reconciliation ∈ after.reconciliations, reconciliation.Settled := by
  have seen := congrArg CaptureView.reconciliations (view_perform performed).1
  change after.reconciliations = _ at seen
  rw [seen]
  cases command with
  | reconciled =>
      simp only [CaptureView.next]
      split
      · exact held
      next before began =>
        intro reconciliation mem
        rcases List.mem_cons.mp mem with rfl | earlier
        · exact returns before began
        · exact held reconciliation earlier
  | marketOpen | captureSymbol _ | publish | compare | stream _ | noteSubscribed _
  | noteUnsubscribed _ =>
      exact held

variable {multiplexer : StreamMultiplexer} {symbols : List String} {websocketEnabled : Bool}
  {cycles : Nat}
  {final : Config Unit CaptureCommand.Reply CaptureError Unit (CaptureWorld Client)}

/-- In every run, whatever the other clients do and whichever calls fail, a reconciliation that
returns is exact if and only if it began with a sound comparison, and it is as long as no call of
the service has raised out of a send. -/
theorem tape_is_exact_iff (reach : Reaches (.free (optionCapture captureClient))
      (capturing multiplexer symbols websocketEnabled cycles) final) :
    ∀ reconciliation ∈ final.world.reconciliations,
      (reconciliation.Exact ↔ reconciliation.before.Sound) ∧
        (reconciliation.raised = [] → reconciliation.Exact) := by
  let Held : CaptureWorld Client → Prop := fun world =>
    ∀ reconciliation ∈ world.reconciliations, reconciliation.Settled
  have own : ∀ (command : CaptureCommand) (outcome : command.Outcome) (reply : command.Reply)
      (world after : CaptureWorld Client), True →
      world.perform captureClient command outcome = some (reply, after) →
      after.view captureClient = (world.view captureClient).next command reply ∧
        CaptureView.compares command (world.view captureClient) reply :=
    fun _ _ _ _ _ _ performed => view_perform performed
  have keeps : ∀ (i : Unit) (command : CaptureCommand) (outcome : command.Outcome)
      (reply : command.Reply) (world after : CaptureWorld Client), Held world →
      (i = () → CaptureView.returns command (world.view captureClient)) →
      world.perform captureClient command outcome = some (reply, after) → Held after :=
    fun _ _ _ _ _ _ held returns performed => settled_perform held (returns rfl) performed
  have calm : ∀ (move : CaptureMove Client) (world : CaptureWorld Client), Held world →
      Held (world.disturb captureClient move) := by
    intro move world held
    have seen : (world.disturb captureClient move).view captureClient = world.view captureClient :=
      view_disturb move
    have same : (world.disturb captureClient move).reconciliations = world.reconciliations :=
      congrArg CaptureView.reconciliations seen
    intro reconciliation mem
    rw [same] at mem
    exact held reconciliation mem
  have inLine :
      InLine multiplexer (CaptureWorld.view captureClient (.initial : CaptureWorld Client)) :=
    ⟨fun _ => rfl, fun _ _ _ => rfl⟩
  have start : Held (.initial : CaptureWorld Client) := by rintro _ ⟨⟩
  let terms : Terms CaptureCommand.Reply CaptureView := ⟨CaptureView.returns, CaptureView.compares⟩
  have tracked := @Reaches.tracked _ _ _ _ _ _ _ _ _ _ CaptureView.next terms
    (CaptureWorld.view captureClient) Held _ _ () _ reach own
    (fun _ _ _ _ _ _ apart => absurd rfl apart) (fun move _ _ => view_disturb move) keeps calm start
    (runLoop_meets inLine)
  exact tracked.1

end Runs

/-! ## A contract that stays behind -/

/-- The connection comes up, a snapshot has these contracts, and a subscription's send may raise. -/
def captureAnswer (contracts : Finset String) (failure : Option StreamError) :
    (command : CaptureCommand) → command.Outcome
  | .marketOpen => true
  | .captureSymbol _ => some contracts
  | .publish => some 1
  | .compare => ()
  | .stream command => match command with
    | .receive => none
    | .sendJson _ => none
    | .getMultiplexer => true
    | .ensureConnected _ => true
    | .subscribe _ _ => failure
    | .unsubscribe _ _ => none
    | .removeClient _ => none
    | .sendAncillary _ _ _ => none
    | .getFlowFanout => true
    | .producerWired => true
    | .flowSubscribe _ => ()
    | .flowUnsubscribe _ => ()
    | .flowDisconnect => ()
    | .highWatermark => none
  | .noteSubscribed _ => ()
  | .noteUnsubscribed _ => ()
  | .reconciled => ()

/-- The service alone, with the letters of ASCII. -/
@[reducible] def asciiCapture : Machine Unit CaptureCommand.Reply (CaptureWorld Unit) :=
  @optionCapture Unit _ asciiUnicode ()

/-- The options stream comes up. -/
def connected : List (Turn asciiCapture) :=
  [.disturb (.stream (.connect .options)), .disturb (.stream (.authenticate .options none))]

/-- Steps of the service, whose snapshots have one contract. -/
def steps (count : Nat) (contract : String) (failure : Option StreamError) :
    List (Turn asciiCapture) :=
  List.replicate count (.run () (captureAnswer {contract} failure))

/-- A call and a later one on the same underlying. -/
def januaryCall : String := "AAPL240119C00150000"

def februaryCall : String := "AAPL240216C00150000"

/-- The send of the first subscription raises, the next snapshot has another contract, and the first
one stays registered although the reconciliation returns. -/
theorem failed_subscription_stays :
    ∃ final, Reaches (.free asciiCapture) (capturing .sip ["AAPL"] true 2) final ∧
      ∃ reconciliation ∈ final.world.reconciliations, ¬reconciliation.Exact := by
  have played : ((capturing .sip ["AAPL"] true 2).play (.free asciiCapture)
      (connected ++ steps 6 januaryCall (some .other) ++ steps 9 februaryCall none)).map
        (fun final => final.world.reconciliations.map fun reconciliation =>
          (reconciliation.registered .quotes, reconciliation.service.desiredContracts)) =
      some [({januaryCall, februaryCall}, {februaryCall})] := by decide +kernel
  obtain ⟨final, ran, seen⟩ := Option.map_eq_some_iff.mp played
  obtain ⟨reconciliation, only, same⟩ := List.map_eq_singleton_iff.mp seen
  obtain ⟨registered, desired⟩ := Prod.mk.inj same
  refine ⟨final, Config.play_reaches ran, reconciliation,
    by rw [only]; exact List.mem_singleton_self _,
    fun exact_ => ?_⟩
  have claimed := exact_ .quotes (.inl rfl)
  rw [registered, desired] at claimed
  exact absurd claimed (by decide)

/-- Without a failure the first snapshot's contract is what is registered. -/
theorem first_snapshot_is_on_the_tape :
    ∃ final, Reaches (.free asciiCapture) (capturing .sip ["AAPL"] true 1) final ∧
      ∃ reconciliation ∈ final.world.reconciliations, reconciliation.Exact := by
  have played : ((capturing .sip ["AAPL"] true 1).play (.free asciiCapture)
      (connected ++ steps 9 januaryCall none)).map
        (fun final => final.world.reconciliations.map Reconciliation.raised) = some [[]] := by
    decide +kernel
  obtain ⟨final, ran, seen⟩ := Option.map_eq_some_iff.mp played
  obtain ⟨reconciliation, only, quiet⟩ := List.map_eq_singleton_iff.mp seen
  have mem : reconciliation ∈ final.world.reconciliations := by
    rw [only]
    exact List.mem_singleton_self _
  have reach := Config.play_reaches ran
  exact ⟨final, reach, reconciliation, mem,
    (@tape_is_exact_iff Unit _ asciiUnicode () _ _ _ _ _ reach
    reconciliation mem).2 quiet⟩

end Capture
end DataGateway
