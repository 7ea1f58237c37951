import DataGateway.Trading.Session

/-!
# Mutual exclusion of broker writes

A mutation token is outstanding from the `begin_mutation` that took effect to its
`complete_mutation`.  The marker in the stored claim is the lock: begin refuses a marked claim and
no release removes one.  A freeze, however, writes back a copy that it read earlier, and can erase a
marker that was set in between.
-/

namespace DataGateway
namespace Trading

open Coroutine Machine

variable {ι Raw : Type} [DecidableEq Raw]

/-- The outstanding tokens after a command that took effect. -/
def Event.tokens (event : Event ι Raw) (before : List (ι × String)) : List (ι × String) :=
  match event.command with
  | .store _ (.beginMutation token) => (event.actor, token) :: before
  | .store _ (.completeMutation token) => before.filter fun entry => entry.2 ≠ token
  | _ => before

/-- The tokens that were set on a symbol and not yet completed, with the tasks that set them. -/
def outstanding (symbol : String) : List (Event ι Raw) → List (ι × String)
  | [] => []
  | event :: earlier =>
      if event.Took symbol then event.tokens (outstanding symbol earlier)
      else outstanding symbol earlier

theorem outstanding_idle {symbol : String} {event : Event ι Raw} {earlier : List (Event ι Raw)}
    (idle : ¬ event.Took symbol) :
    outstanding symbol (event :: earlier) = outstanding symbol earlier := if_neg idle

theorem outstanding_took {symbol : String} {event : Event ι Raw} {earlier : List (Event ι Raw)}
    (took : event.Took symbol) :
    outstanding symbol (event :: earlier) = event.tokens (outstanding symbol earlier) := if_pos took

variable [ClaimText Raw]

/-- The lock: an outstanding token is the marker of the stored claim. -/
def Locks (cell : Cell Raw) (tokens : List (ι × String)) : Prop :=
  tokens = [] ∨ ∃ i token, tokens = [(i, token)] ∧ cell.marker = some token

/-- A freeze does not write back a copy of the claim that lacks the outstanding token. -/
def keepsMarkers [DecidableEq ι] :
    Policy (gateway : Machine ι (@Command.Reply Raw) (World ι Raw)) where
  allows _ command _ world := ∀ copy ∈ command.frozenCopy,
    ∀ entry ∈ outstanding copy.1 world.history,
      (ClaimText.decode copy.2).bind Claim.mutationPending = some entry.2
  permits _ _ := True

instance [DecidableEq ι] :
    (keepsMarkers : Policy (gateway : Machine ι (@Command.Reply Raw) (World ι Raw))).Decides :=
  ⟨fun _ _ _ _ => inferInstanceAs (Decidable (∀ _ ∈ _, ∀ _ ∈ _, _ = _)),
    fun _ _ => inferInstanceAs (Decidable True)⟩

omit [DecidableEq Raw] in
theorem Locks.unmarked {cell : Cell Raw} {tokens : List (ι × String)} (locks : Locks cell tokens)
    (unmarked : cell.marker = none) : tokens = [] := by
  rcases locks with empty | ⟨i, token, -, marked⟩
  · exact empty
  · rw [unmarked] at marked
    cases marked

omit [DecidableEq Raw] in
theorem Locks.congr {left right : Cell Raw} {tokens : List (ι × String)} (locks : Locks left tokens)
    (same : right.claim = left.claim) : Locks right tokens := by
  rwa [Locks, Cell.marker, Cell.stored_congr same]

omit [DecidableEq Raw] in
/-- A command that takes effect keeps the lock. -/
theorem Locks.took {event : Event ι Raw} {symbol : String} {op : StoreOp Raw} {ok : Bool}
    {tokens : List (ι × String)} (locks : Locks (event.before symbol) tokens)
    (command : event.command = .store symbol op)
    (effect : ClaimEffect op (event.before symbol) ok (event.after symbol))
    (took : event.Took symbol)
    (noThaw : ∀ expected delete owner, op ≠ .thawClaim expected delete owner)
    (keeps : ∀ raw, op = .setClaim raw → ∀ entry ∈ tokens,
      (ClaimText.decode raw).bind Claim.mutationPending = some entry.2) :
    Locks (event.after symbol) (event.tokens tokens) := by
  rw [Event.tokens, command]
  cases effect with
  | kept same idle => exact absurd same took
  | created absent now =>
      exact .inl (locks.unmarked (by simp [Cell.marker, Cell.stored, absent]))
  | @released op owner cell after claim release stored owned free now =>
      have unmarked : claim.mutationPending = none :=
        Option.not_isSome_iff_eq_none.mp fun marked => free (.inl marked)
      have none := locks.unmarked (by simp [Cell.marker, stored, unmarked])
      cases release <;> exact .inl none
  | @begun token cell after claim stored unmarked now =>
      have none := locks.unmarked (by simp [Cell.marker, stored, unmarked])
      exact .inr ⟨event.actor, token, by simp [none], by simp [Cell.marker, Cell.stored_encode now]⟩
  | @completed token cell after claim stored marked now =>
      left
      rcases locks with empty | ⟨i, other, single, held⟩
      · simp [empty]
      · have same : other = token := by simpa [Cell.marker, stored, marked] using held.symm
        simp [single, same]
  | thawed reviewed => exact absurd rfl (noThaw _ _ _)
  | @written raw cell after now =>
      rcases locks with empty | ⟨i, token, single, held⟩
      · exact .inl empty
      · have kept := keeps raw rfl (i, token) (by simp [single])
        exact .inr ⟨i, token, single, by simpa [Cell.marker, Cell.stored, now] using kept⟩

section Runs

variable [DecidableEq ι]

/-- A command of a client's request keeps the lock. -/
theorem Locks.step {i : ι} {command : Command Raw} {outcome : command.Outcome}
    {reply : command.Reply} {world after : World ι Raw} {symbol clientId : String}
    {session : Session} (locks : Locks (world.cells symbol) (outstanding symbol world.history))
    (permitted : session.may (.client clientId) command)
    (allowed : keepsMarkers.allows i command outcome world)
    (performed : performCommand i command outcome world = some (reply, after)) :
    Locks (after.cells symbol) (outstanding symbol after.history) := by
  obtain ⟨recorded, step⟩ := performCommand_record performed
  rw [recorded]
  let event : Event ι Raw := ⟨i, command, reply, world.cells, after.cells⟩
  change Locks _ (outstanding symbol (event :: _))
  by_cases took : event.Took symbol
  · obtain ⟨op, ok, rfl, effect⟩ := (step.claim symbol).resolve_left took
    rw [outstanding_took took]
    refine Locks.took locks rfl effect took ?_ fun raw same => ?_
    · rintro expected delete owner rfl
      exact absurd permitted.1 nofun
    · subst same
      exact allowed (symbol, raw) rfl
  · rw [outstanding_idle took]
    exact locks.congr (not_not.mp took)

/-- The requests of the clients, started with nothing outstanding. -/
def serving [Unicode] (settings : Settings) (requests : ι → String × WriteRequest)
    (cells : String → Cell Raw) (issued : List Uuid) :
    Config ι (@Command.Reply Raw) PyError Answer (World ι Raw) :=
  ⟨⟨cells, issued, [], []⟩, fun i => (requests i).2.serve settings (requests i).1⟩

/-- While every freeze keeps the outstanding token, at most one token is outstanding on a symbol, in
every interleaving of any requests and with leases that expire at any point. -/
theorem outstanding_le_one [Unicode] {settings : Settings} {requests : ι → String × WriteRequest}
    {cells : String → Cell Raw} {issued : List Uuid}
    {final : Config ι (@Command.Reply Raw) PyError Answer (World ι Raw)}
    (run : Reaches keepsMarkers (serving settings requests cells issued) final) (symbol : String) :
    (outstanding symbol final.world.history).length ≤ 1 := by
  let Held : World ι Raw → (ι → Session) → Prop := fun world _ =>
    Locks (world.cells symbol) (outstanding symbol world.history)
  have calm : ∀ world locals (move : Disturbance ι), Held world locals →
      keepsMarkers.permits move world → Held (Disturbance.apply move world) locals := by
    intro world locals move locks _
    change Locks _ (outstanding symbol (Disturbance.apply move world).history)
    rw [Disturbance.history]
    exact Locks.congr locks Disturbance.claim
  obtain ⟨_, locks, -⟩ := Reaches.sessions
    (fun _ _ _ _ _ _ _ locks permitted allowed performed =>
      Locks.step locks permitted allowed performed)
    calm (.inl rfl) (fun i => (requests i).2.serve_session) run
  rcases locks with empty | ⟨i, token, single, -⟩
  · simp [empty]
  · simp [single]

end Runs

/-! ## A freeze that erases a marker -/

section Rivals

/-- Turns of three requests. -/
abbrev RivalTurn :=
  Turn (gateway : Machine (Fin 3) (@Command.Reply PlainText) (World (Fin 3) PlainText))

/-- Three requests of the client `atlas`, which owns the symbol and has an open order on it. -/
def rivals : Config (Fin 3) (@Command.Reply PlainText) PyError Answer (World (Fin 3) PlainText) :=
  let _ := asciiUnicode
  serving ⟨100, ["atlas"]⟩ (fun _ => ("atlas", .create "AAPL" (some "retry")))
    (fun _ => ⟨some (.python ⟨"atlas", none, none, none⟩), none, ["atlas"]⟩) []

/-- The open orders of the client `atlas`. -/
def atlasOrders : List BrokerRecord := [⟨some "AAPL", some "c-atlas-1"⟩]

/-- Consecutive calm turns of one request, which draws one identifier. -/
def calmTurns (count : Nat) (i : Fin 3) (digit : Char) : List RivalTurn :=
  List.replicate count (.run i (calmly (Uuid.repeating digit) atlasOrders))

/-- A turn at which the provider is missing. -/
def missingProvider : RivalTurn := .run 0 fun
  | .provider => false
  | command => calmly (Uuid.repeating '0') [] command

/-- A turn at which the wait for the broker times out. -/
def timesOut (i : Fin 3) : RivalTurn := .run i fun
  | .awaitReply _ => .timedOut
  | command => calmly (Uuid.repeating '0') [] command

set_option maxRecDepth 4000 in
/-- The request marks the claim, times out at the broker and freezes the claim with its marker. -/
theorem outstanding_le_one_timeout :
    ∃ final, rivals.play keepsMarkers (calmTurns 16 0 '1' ++ calmTurns 4 0 '2' ++ [timesOut 0] ++
      calmTurns 2 0 '2') = some final ∧ (outstanding "AAPL" final.world.history).length ≤ 1 := by
  have played : (rivals.play keepsMarkers (calmTurns 16 0 '1' ++ calmTurns 4 0 '2' ++
      [timesOut 0] ++ calmTurns 2 0 '2')).isSome := by decide
  obtain ⟨final, ran⟩ := Option.isSome_iff_exists.mp played
  let _ := asciiUnicode
  exact ⟨final, ran, outstanding_le_one (Config.play_reaches ran) "AAPL"⟩

/-- Request 0 fails before it takes the fence and reads the unmarked claim for its freeze.  Request
1 is authorized and loses its lease; request 2 marks the claim.  The freeze then erases the marker
and request 1 marks the claim again. -/
def erasure : List RivalTurn :=
  calmTurns 2 0 '0' ++ [missingProvider] ++ calmTurns 1 0 '0' ++ calmTurns 16 1 '1' ++
    calmTurns 1 1 '2' ++ [.disturb (.lapse "AAPL")] ++ calmTurns 16 2 '3' ++ calmTurns 2 2 '4' ++
    calmTurns 1 0 '0' ++ calmTurns 1 1 '2'

set_option maxRecDepth 4000 in
theorem two_outstanding :
    ∃ final, Reaches (Policy.free gateway) rivals final ∧
      (outstanding "AAPL" final.world.history).map Prod.fst = [1, 2] := by
  have played : (rivals.play (Policy.free gateway) erasure).map (fun final =>
      (outstanding "AAPL" final.world.history).map Prod.fst) = some [1, 2] := by decide
  obtain ⟨final, ran, both⟩ := Option.map_eq_some_iff.mp played
  exact ⟨final, Config.play_reaches ran, both⟩

end Rivals

end Trading
end DataGateway
