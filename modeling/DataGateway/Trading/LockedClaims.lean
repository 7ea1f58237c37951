import DataGateway.Trading.Footprint

/-!
# Locked claims

A claim that carries a freeze or a marker is locked.  The release scripts refuse a locked claim and
the mutation scripts keep the freeze, so no operation but the operator's thaw should move one.  The
freeze itself is the exception: it stores a copy that was read earlier over whatever is there.
-/

namespace DataGateway
namespace Trading

open Coroutine Machine

variable {ι Raw : Type} [ClaimText Raw]

/-! ## Tasks made of guard operations -/

/-- One call of a guard method, with any arguments. -/
inductive GuardOperation (Raw : Type) [ClaimText Raw]
  /-- `acquire_fence`. -/
  | acquireFence (symbol : String)
  /-- `renew_fence`. -/
  | renewFence (symbol token : String)
  /-- `release_fence`. -/
  | releaseFence (symbol token : String)
  /-- `authorize_submission`. -/
  | authorizeSubmission (clientId symbol : String) (brokerState : BrokerSymbolState)
  /-- `authorize_close`. -/
  | authorizeClose (clientId symbol : String) (brokerState : BrokerSymbolState)
  /-- `begin_mutation`. -/
  | beginMutation (symbol operation : String)
  /-- `complete_mutation`. -/
  | completeMutation (symbol token : String)
  /-- `release_claim_if_broker_is_clear`. -/
  | releaseClaimIfBrokerIsClear (clientId symbol token : String) (brokerState : BrokerSymbolState)
  /-- `verify_reconciliation`. -/
  | verifyReconciliation (clientId symbol : String) (brokerState : BrokerSymbolState)
  /-- `freeze`. -/
  | freeze (symbol reason : String)
  /-- `thaw`. -/
  | thaw (symbol : String) (expected : StoredClaim Raw) (delete : Bool)

/-- Call the method; what it returns is not used. -/
def GuardOperation.run : GuardOperation Raw → Route Raw PyError Unit
  | .acquireFence symbol => (Trading.acquireFence symbol).bind fun _ => .finish (.ok ())
  | .renewFence symbol token => Trading.renewFence symbol token
  | .releaseFence symbol token => Trading.releaseFence symbol token
  | .authorizeSubmission clientId symbol brokerState =>
      Trading.authorizeSubmission clientId symbol brokerState
  | .authorizeClose clientId symbol brokerState =>
      Trading.authorizeClose clientId symbol brokerState
  | .beginMutation symbol operation =>
      (Trading.beginMutation symbol operation).bind fun _ => .finish (.ok ())
  | .completeMutation symbol token => Trading.completeMutation symbol token
  | .releaseClaimIfBrokerIsClear clientId symbol token brokerState =>
      Trading.releaseClaimIfBrokerIsClear clientId symbol token brokerState
  | .verifyReconciliation clientId symbol brokerState =>
      Trading.verifyReconciliation clientId symbol brokerState
  | .freeze symbol reason => Trading.freeze symbol reason
  | .thaw symbol expected delete => Trading.thaw symbol expected delete

/-- Any number of calls in sequence, whether they succeed or raise. -/
def runAll : List (GuardOperation Raw) → Route Raw PyError Unit
  | [] => .finish (.ok ())
  | operation :: rest => operation.run.resolve fun _ => runAll rest

/-- A claim is only overwritten by a frozen copy. -/
def WritesFrozen : Command Raw → Prop
  | .store _ (.setClaim raw) =>
      ∃ (claim : Claim) (reason : String),
        raw = ClaimText.dumps { claim with frozenReason := some reason }
  | _ => True

theorem GuardOperation.run_writesFrozen (operation : GuardOperation Raw) :
    operation.run.Uses WritesFrozen := by
  cases operation with
  | acquireFence symbol =>
      exact Uses.bind (uses_acquireFence trivial fun _ => trivial) fun _ => trivial
  | renewFence symbol token => exact uses_renewFence trivial
  | releaseFence symbol token => exact uses_releaseFence trivial
  | authorizeSubmission clientId symbol brokerState =>
      exact uses_authorizeSubmission trivial trivial (fun _ => trivial) (fun _ => trivial)
        fun _ => trivial
  | authorizeClose clientId symbol brokerState => exact uses_authorizeClose trivial
  | beginMutation symbol operation =>
      exact Uses.bind (uses_beginMutation trivial trivial fun _ => trivial) fun _ => trivial
  | completeMutation symbol token => exact uses_completeMutation trivial
  | releaseClaimIfBrokerIsClear clientId symbol token brokerState =>
      exact uses_releaseClaimIfBrokerIsClear trivial trivial
  | verifyReconciliation clientId symbol brokerState => exact uses_verifyReconciliation trivial
  | freeze symbol reason => exact uses_freeze trivial fun claim => ⟨claim, reason, rfl⟩
  | thaw symbol expected delete => exact uses_thaw trivial

theorem runAll_writesFrozen (operations : List (GuardOperation Raw)) :
    (runAll operations).Uses WritesFrozen := by
  induction operations with
  | nil => trivial
  | cons operation rest ih => exact operation.run_writesFrozen.resolve fun _ => ih

/-! ## What a lock promises -/

/-- The command thaws a claim of the symbol. -/
def Command.thaws (symbol : String) : Command Raw → Bool
  | .store target (.thawClaim _ _ _) => target = symbol
  | _ => false

/-- The marker that the command completes. -/
def Command.completes (symbol : String) : Command Raw → Option String
  | .store target (.completeMutation token) => if target = symbol then some token else none
  | _ => none

/-- The frozen claim is still there, frozen and with the same owner. -/
def KeepsFreeze (claim : Claim) (after : Cell Raw) : Prop :=
  claim.frozenReason.isSome → ∃ now ∈ after.stored,
    now.owner = claim.owner ∧ now.frozenReason.isSome

/-- The marked claim is still there with the same owner, and its marker is
unless it was completed. -/
def KeepsMarker (claim : Claim) (completed : Option String) (after : Cell Raw) : Prop :=
  ∀ token ∈ claim.mutationPending, ∃ now ∈ after.stored, now.owner = claim.owner ∧
    (now.mutationPending = some token ∨ now.mutationPending = none ∧ completed = some token)

/-- A command other than a thaw does not move a locked claim of the symbol. -/
def Event.KeepsLocks (event : Event ι Raw) (symbol : String) : Prop :=
  event.command.thaws symbol = false → ∀ claim ∈ (event.before symbol).stored,
    KeepsFreeze claim (event.after symbol) ∧
      KeepsMarker claim (event.command.completes symbol) (event.after symbol)

instance (claim : Claim) (after : Cell Raw) : Decidable (KeepsFreeze claim after) :=
  inferInstanceAs (Decidable (_ → ∃ _ ∈ _, _ ∧ _))

instance (claim : Claim) (completed : Option String) (after : Cell Raw) :
    Decidable (KeepsMarker claim completed after) :=
  inferInstanceAs (Decidable (∀ _ ∈ _, ∃ _ ∈ _, _ ∧ (_ ∨ _)))

instance (event : Event ι Raw) (symbol : String) : Decidable (event.KeepsLocks symbol) :=
  inferInstanceAs (Decidable (_ → ∀ _ ∈ _, _ ∧ _))

/-- A thaw changes the claim only over the reviewed text. -/
def Event.ThawsReviewed (event : Event ι Raw) (symbol : String) : Prop :=
  ∀ expected delete owner, event.command = .store symbol (.thawClaim expected delete owner) →
    (event.after symbol).claim ≠ (event.before symbol).claim →
    (event.before symbol).claim = some expected

/-- A copy that a freeze stores over a locked claim has its owner and, if any, its marker. -/
def copyFits (claim copy : Claim) : Prop :=
  claim.locked → copy.owner = claim.owner ∧
    ∀ token ∈ claim.mutationPending, copy.mutationPending = some token

instance (claim copy : Claim) : Decidable (copyFits claim copy) :=
  inferInstanceAs (Decidable (_ → _ ∧ ∀ _ ∈ _, _ = _))

variable [DecidableEq ι] [DecidableEq Raw]

/-- A freeze stores a copy only over a claim that it fits. -/
def freezesFit : Policy (gateway : Machine ι (@Command.Reply Raw) (World ι Raw)) where
  allows _ command _ world := ∀ written ∈ command.frozenCopy,
    ∀ claim ∈ (world.cells written.1).stored, ∀ copy ∈ ClaimText.decode written.2,
      copyFits claim copy
  permits _ _ := True

instance : (freezesFit : Policy (gateway : Machine ι (@Command.Reply Raw) (World ι Raw))).Decides :=
  ⟨fun _ _ _ _ => inferInstanceAs (Decidable (∀ _ ∈ _, ∀ _ ∈ _, ∀ _ ∈ _, copyFits _ _)),
    fun _ _ => inferInstanceAs (Decidable True)⟩

omit [DecidableEq ι] [DecidableEq Raw] in
theorem keepsLocks_of_same {event : Event ι Raw} {symbol : String}
    (same : (event.after symbol).claim = (event.before symbol).claim) :
    event.KeepsLocks symbol := by
  intro _ claim stored
  rw [← Cell.stored_congr same] at stored
  exact ⟨fun frozen => ⟨claim, stored, rfl, frozen⟩,
    fun token marked => ⟨claim, stored, rfl, .inl marked⟩⟩

omit [DecidableEq ι] [DecidableEq Raw] in
/-- Every effect on the claim but a thaw keeps a lock. -/
theorem keepsLocks_of_effect {event : Event ι Raw} {symbol : String} {op : StoreOp Raw} {ok : Bool}
    (command : event.command = .store symbol op)
    (effect : ClaimEffect op (event.before symbol) ok (event.after symbol))
    (frozen : WritesFrozen event.command)
    (fits : ∀ raw, op = .setClaim raw → ∀ claim ∈ (event.before symbol).stored,
      ∀ copy ∈ ClaimText.decode raw, copyFits claim copy) : event.KeepsLocks symbol := by
  rw [command] at frozen
  cases effect with
  | kept same idle => exact keepsLocks_of_same same
  | created absent now =>
      intro _ claim stored
      simp [Cell.stored, absent] at stored
  | @released op owner cell after free release stored owned unlocked now =>
      intro _ claim found
      obtain rfl : free = claim := Option.some.inj (stored.symm.trans found)
      exact ⟨fun isFrozen => absurd (.inr isFrozen) unlocked,
        fun token marked => absurd (.inl (by simp [Option.mem_def.mp marked])) unlocked⟩
  | @begun token cell after claim stored unmarked now =>
      intro _ found foundEq
      obtain rfl : claim = found := Option.some.inj (stored.symm.trans foundEq)
      refine ⟨fun isFrozen => ⟨_, Cell.stored_encode now, rfl, isFrozen⟩, fun other marked => ?_⟩
      rw [unmarked] at marked
      cases marked
  | @completed token cell after claim stored marked now =>
      intro _ found foundEq
      obtain rfl : claim = found := Option.some.inj (stored.symm.trans foundEq)
      refine ⟨fun isFrozen => ⟨_, Cell.stored_encode now, rfl, isFrozen⟩, fun other held => ?_⟩
      obtain rfl : token = other := Option.some.inj (marked.symm.trans held)
      exact ⟨_, Cell.stored_encode now, rfl, .inr ⟨rfl, by simp [Command.completes, command]⟩⟩
  | thawed reviewed =>
      intro thaws
      simp [Command.thaws, command] at thaws
  | @written raw cell after now =>
      intro _ claim stored
      obtain ⟨source, reason, rfl⟩ := frozen
      have copied : (event.after symbol).stored =
          some { source with frozenReason := some reason } := Cell.stored_dumps now
      have fitting := fits _ rfl claim stored _ (ClaimText.decode_dumps _)
      refine ⟨fun isFrozen => ⟨_, copied, (fitting (.inr isFrozen)).1, rfl⟩,
        fun token marked => ?_⟩
      have locked : claim.locked := .inl (by simp [Option.mem_def.mp marked])
      exact ⟨_, copied, (fitting locked).1, .inl ((fitting locked).2 token marked)⟩

omit [DecidableEq ι] in
/-- A performed command keeps every lock, and a thaw is performed over the reviewed text. -/
theorem CellStep.keepsLocks {i : ι} {command : Command Raw} {reply : command.Reply}
    {before after : String → Cell Raw} (step : CellStep before after command reply)
    (frozen : WritesFrozen command)
    (fits : ∀ written ∈ command.frozenCopy, ∀ claim ∈ (before written.1).stored,
      ∀ copy ∈ ClaimText.decode written.2, copyFits claim copy) (symbol : String) :
    Event.KeepsLocks ⟨i, command, reply, before, after⟩ symbol ∧
      Event.ThawsReviewed ⟨i, command, reply, before, after⟩ symbol := by
  rcases step.claim symbol with same | ⟨op, ok, rfl, effect⟩
  · exact ⟨keepsLocks_of_same same, fun _ _ _ _ changed => absurd same changed⟩
  · refine ⟨keepsLocks_of_effect rfl effect frozen fun raw write => ?_, ?_⟩
    · subst write
      exact fits (symbol, raw) rfl
    · intro expected delete owner thaw changed
      obtain rfl : op = .thawClaim expected delete owner := by injection thaw
      cases effect with
      | kept same _ => exact absurd same changed
      | released release => cases release
      | thawed reviewed => exact reviewed

/-- In every interleaving of any guard operations in which freezes store fitting copies, no command
but a thaw moves a locked claim, and a thaw changes a claim only over the text that was reviewed. -/
theorem locked_claims_stay {tasks : ι → List (GuardOperation Raw)} {cells : String → Cell Raw}
    {issued : List Uuid} {final : Config ι (@Command.Reply Raw) PyError Unit (World ι Raw)}
    (run : Reaches freezesFit
      ⟨⟨cells, issued, [], []⟩, fun i => runAll (tasks i)⟩ final) :
    ∀ event ∈ final.world.history, ∀ symbol,
      event.KeepsLocks symbol ∧ event.ThawsReviewed symbol := by
  let Kept : World ι Raw → Prop := fun world => ∀ event ∈ world.history, ∀ symbol,
    event.KeepsLocks symbol ∧ event.ThawsReviewed symbol
  have act : ∀ world i command outcome reply after, Kept world → WritesFrozen command →
      freezesFit.allows i command outcome world →
      performCommand i command outcome world = some (reply, after) → Kept after := by
    intro world i command outcome reply after kept frozen fits performed
    obtain ⟨recorded, step⟩ := performCommand_record performed
    intro event mem symbol
    rw [recorded] at mem
    rcases List.mem_cons.mp mem with rfl | earlier
    · exact step.keepsLocks frozen fits symbol
    · exact kept event earlier symbol
  have calm : ∀ world (move : Disturbance ι), Kept world → freezesFit.permits move world →
      Kept (Disturbance.apply move world) := by
    intro world move kept _ event mem
    rw [Disturbance.history] at mem
    exact kept event mem
  exact run.world act calm (fun event mem => absurd mem List.not_mem_nil)
    fun i => runAll_writesFrozen (tasks i)

/-! ## A freeze that unlocks a claim -/

section Stale

/-- One task freezes the claim that another task marks. -/
def freezeAndMark :
    Config (Fin 2) (@Command.Reply PlainText) PyError Unit (World (Fin 2) PlainText) :=
  ⟨⟨fun _ => ⟨some (.python ⟨"atlas", none, none, none⟩), none, ["atlas"]⟩, [], [], []⟩,
    fun i =>
    runAll [if i.val = 0 then .freeze "AAPL" "broker_mutation_503"
      else .beginMutation "AAPL" "create_order"]⟩

/-- A turn of one task. -/
def guardTurn (i : Fin 2) :
    Turn (gateway : Machine (Fin 2) (@Command.Reply PlainText) (World (Fin 2) PlainText)) :=
  .run i (calmly (Uuid.repeating '1') [])

/-- The freeze reads the claim after it was marked. -/
theorem locked_claims_stay_fresh :
    ∃ final, freezeAndMark.play freezesFit [guardTurn 1, guardTurn 1, guardTurn 0, guardTurn 0] =
        some final ∧
      ∀ event ∈ final.world.history, ∀ symbol,
        event.KeepsLocks symbol ∧ event.ThawsReviewed symbol := by
  have played : (freezeAndMark.play freezesFit
      [guardTurn 1, guardTurn 1, guardTurn 0, guardTurn 0]).isSome := by decide
  obtain ⟨final, ran⟩ := Option.isSome_iff_exists.mp played
  have run : Reaches freezesFit freezeAndMark final := Config.play_reaches ran
  exact ⟨final, ran, locked_claims_stay run⟩

/-- The freeze reads the claim before it was marked, and its write removes the marker. -/
theorem freeze_removes_marker :
    ∃ final, Reaches (Policy.free gateway) freezeAndMark final ∧
      ¬ ∀ event ∈ final.world.history, ∀ symbol, event.KeepsLocks symbol := by
  have played : (freezeAndMark.play (Policy.free gateway)
      [guardTurn 0, guardTurn 1, guardTurn 1, guardTurn 0]).map (fun final =>
        final.world.history.all fun event => event.KeepsLocks "AAPL") = some false := by decide
  obtain ⟨final, ran, moved⟩ := Option.map_eq_some_iff.mp played
  refine ⟨final, Config.play_reaches ran, fun kept => ?_⟩
  rw [List.all_eq_false] at moved
  obtain ⟨event, mem, lost⟩ := moved
  exact lost (decide_eq_true (kept event mem "AAPL"))

end Stale

end Trading
end DataGateway
