import DataGateway.Trading.Footprint
import DataGateway.Trading.History

/-!
# One request alone

A request that nobody interferes with: only leases expire under it.  Its store may answer or fail as
a policy says.  Where the store answers, reading, freezing and completing have one outcome each,
read off the stored claim.
-/

namespace DataGateway
namespace Trading

open Coroutine Machine

variable {ι Raw : Type} [DecidableEq ι] [DecidableEq Raw] [ClaimText Raw]
variable {P : Policy (gateway : Machine ι (@Command.Reply Raw) (World ι Raw))} {i : ι}
variable {ε α : Type} {symbol : String} {world last after : World ι Raw}

/-- A step alone: some leases may have expired, then the command is performed. -/
theorem alone_after {command : Command Raw} {reply : command.Reply}
    (step : (Machine.solo P i).after command world reply after) :
    ∃ (drifted : World ι Raw) (outcome : command.Outcome),
      (∀ symbol, (drifted.cells symbol).claim = (world.cells symbol).claim) ∧
      drifted.history = world.history ∧ P.allows i command outcome drifted ∧
      performCommand i command outcome drifted = some (reply, after) := by
  obtain ⟨drifted, outcome, drift, allowed, performed⟩ := step
  suffices kept : (∀ symbol, (drifted.cells symbol).claim = (world.cells symbol).claim) ∧
      drifted.history = world.history from ⟨drifted, outcome, kept.1, kept.2, allowed, performed⟩
  clear allowed performed
  induction drift with
  | refl => exact ⟨fun _ => rfl, rfl⟩
  | tail _ move ih =>
      obtain ⟨move, -, rfl⟩ := move
      exact ⟨fun symbol => Disturbance.claim.trans (ih.1 symbol), Disturbance.history.trans ih.2⟩

/-- A step alone records its command. -/
theorem alone_history {command : Command Raw} {reply : command.Reply}
    (step : (Machine.solo P i).after command world reply after) :
    ∃ before, after.history = ⟨i, command, reply, before, after.cells⟩ :: world.history := by
  obtain ⟨drifted, outcome, -, history, -, performed⟩ := alone_after step
  exact ⟨drifted.cells, by rw [(performCommand_record performed).1, history]⟩

/-- The machine admits every computation. -/
theorem alone_meets {body : Route Raw ε α} :
    Meets (Machine.solo P i) (fun _ _ => True) world body := by
  induction body generalizing world with
  | finish outcome => trivial
  | suspend command resume ih => exact ⟨trivial, fun reply next _ => ih reply⟩

/-! ## Commands that leave the claim alone -/

/-- The command cannot change a claim. -/
def Command.spares : Command Raw → Prop
  | .store _ (.acquireFence _) | .store _ (.renewFence _) | .store _ (.compareAndDeleteFence _)
  | .store _ (.ensureIndex _) => True
  | .store _ _ => False
  | _ => True

theorem claim_of_spares {command : Command Raw} {reply : command.Reply} (spares : command.spares)
    (step : (Machine.solo P i).after command world reply after) :
    (after.cells symbol).claim = (world.cells symbol).claim := by
  obtain ⟨drifted, outcome, claims, -, -, performed⟩ := alone_after step
  rw [← claims]
  rcases (performCommand_record performed).2.claim symbol with same | ⟨op, ok, rfl, effect⟩
  · exact same
  · cases effect with
    | kept same => exact same
    | released release => cases release <;> exact spares.elim
    | created | begun | completed | thawed | written => exact spares.elim

/-- A computation that spares claims keeps the claim of every symbol. -/
theorem uses_spares (symbol : String) {body : Route Raw ε α} (uses : body.Uses Command.spares) :
    Meets (Machine.solo P i) (fun _ last =>
      (last.cells symbol).claim = (world.cells symbol).claim) world body :=
  uses.meets_inv rfl fun _ _ spares same =>
    ⟨trivial, fun _ _ step => (claim_of_spares spares step).trans same⟩

/-! ## A store that answers -/

/-- From here on the store answers every command of the task. -/
def Serving (P : Policy (gateway : Machine ι (@Command.Reply Raw) (World ι Raw))) (i : ι)
    (world : World ι Raw) : Prop :=
  ∀ later : World ι Raw, world.history <:+ later.history →
    (∀ symbol op outcome, P.allows i (.store symbol op) outcome later → outcome = .served) ∧
      ∀ symbol outcome, P.allows i (.getClaim symbol) outcome later → outcome = .served

theorem Serving.mono (serving : Serving P i world) (grown : world.history <:+ last.history) :
    Serving P i last := fun later further => serving later (grown.trans further)

theorem Serving.getClaim {reply : StoreReply (Option Raw)} (serving : Serving P i world)
    (step : (Machine.solo P i).after (.getClaim symbol) world reply after) :
    reply = .served (world.cells symbol).claim := by
  obtain ⟨drifted, outcome, claims, history, allowed, performed⟩ := alone_after step
  obtain rfl := (serving drifted (by rw [history])).2 symbol outcome allowed
  rw [← claims]
  exact (Prod.mk.inj (Option.some.inj performed)).1.symm

theorem performCommand_store {op : StoreOp Raw} {outcome : StoreOutcome} {reply : StoreReply Bool}
    (performed : performCommand i (.store symbol op) outcome world = some (reply, after)) :
    reply = (performStore symbol op outcome world.cells).1 ∧
      after.cells = (performStore symbol op outcome world.cells).2 := by
  obtain ⟨rfl, rfl⟩ := Prod.mk.inj (Option.some.inj performed)
  exact ⟨rfl, rfl⟩

/-- A store command runs on the cell, whose fence may have expired. -/
theorem Serving.store {op : StoreOp Raw} {reply : StoreReply Bool} (serving : Serving P i world)
    (step : (Machine.solo P i).after (.store symbol op) world reply after) :
    ∃ cell : Cell Raw, cell.claim = (world.cells symbol).claim ∧
      ((∃ ok, op.apply cell = some (ok, after.cells symbol) ∧ reply = .served ok) ∨
        op.apply cell = none ∧ reply = .failed) := by
  obtain ⟨drifted, outcome, claims, history, allowed, performed⟩ := alone_after step
  obtain rfl := (serving drifted (by rw [history])).1 symbol op outcome allowed
  obtain ⟨replied, moved⟩ := performCommand_store performed
  refine ⟨drifted.cells symbol, claims symbol, ?_⟩
  cases applied : op.apply (drifted.cells symbol) with
  | none => exact .inr ⟨rfl, by rw [replied]; simp only [performStore, applied]⟩
  | some result =>
      obtain ⟨ok, cell⟩ := result
      refine .inl ⟨ok, ?_, by rw [replied]; simp only [performStore, applied]⟩
      rw [moved]
      simp [performStore, applied]

/-- Whatever a computation does, the store goes on answering. -/
theorem Serving.carry {post : Except ε α → World ι Raw → Prop} {body : Route Raw ε α}
    (serving : Serving P i world) (meets : Meets (Machine.solo P i) post world body) :
    Meets (Machine.solo P i) (fun outcome last => post outcome last ∧ Serving P i last) world
      body := by
  induction body generalizing world with
  | finish outcome => exact ⟨meets, serving⟩
  | suspend command resume ih =>
      refine ⟨meets.1, fun reply next step => ih reply (serving.mono ?_) (meets.2 reply next step)⟩
      obtain ⟨before, history⟩ := alone_history step
      exact history ▸ List.suffix_cons _ _

/-! ## The stored claim -/

/-- What `_load_claim` makes of the stored text. -/
def loadResult (symbol : String) : Option Raw → Except PyError (Option Claim)
  | none => .ok none
  | some raw =>
      match loads raw with
      | some claim => .ok (some claim)
      | none => .error (.ownershipConflict ("corrupt_claim:" ++ symbol))

/-- The stored text loads as this claim. -/
def Cell.Loads (cell : Cell Raw) (claim : Claim) : Prop :=
  ∃ raw, cell.claim = some raw ∧ loads raw = some claim

omit [DecidableEq Raw] in
theorem loads_dumps {claim : Claim} (owned : claim.owner ≠ "") :
    loads (ClaimText.dumps claim : Raw) = some claim := by simp [loads, owned]

omit [DecidableEq Raw] in
theorem loads_encode {claim : Claim} (owned : claim.owner ≠ "") :
    loads (ClaimText.encode claim : Raw) = some claim := by simp [loads, owned]

omit [DecidableEq Raw] in
theorem Cell.Loads.owned {cell : Cell Raw} {claim : Claim} (loaded : cell.Loads claim) :
    claim.owner ≠ "" := by
  obtain ⟨raw, -, loaded⟩ := loaded
  simpa using (Option.filter_eq_some_iff.mp loaded).2

omit [DecidableEq Raw] in
theorem Cell.Loads.congr {left right : Cell Raw} {claim : Claim} (loaded : left.Loads claim)
    (same : right.claim = left.claim) : right.Loads claim := by
  obtain ⟨raw, key, loaded⟩ := loaded
  exact ⟨raw, same.trans key, loaded⟩

omit [DecidableEq Raw] in
theorem Cell.Loads.stored {cell : Cell Raw} {claim : Claim} (loaded : cell.Loads claim) :
    cell.stored = some claim := by
  obtain ⟨raw, key, loaded⟩ := loaded
  exact Cell.stored_of_claim key (decode_of_loads loaded)

omit [DecidableEq Raw] in
theorem Cell.Loads.result {cell : Cell Raw} {claim : Claim} (loaded : cell.Loads claim) :
    loadResult symbol cell.claim = .ok (some claim) := by
  obtain ⟨raw, key, loaded⟩ := loaded
  simp [loadResult, key, loaded]

omit [DecidableEq Raw] in
theorem Cell.loads_of_result {cell : Cell Raw} {claim : Claim}
    (found : loadResult symbol cell.claim = .ok (some claim)) : cell.Loads claim := by
  cases key : cell.claim with
  | none => simp [loadResult, key] at found
  | some raw =>
      simp only [loadResult, key] at found
      split at found
      · rename_i loaded
        obtain rfl := Option.some.inj (Except.ok.inj found)
        exact ⟨raw, key, loaded⟩
      · cases found

omit [DecidableEq Raw] in
theorem absent_of_result {cell : Cell Raw} (found : loadResult symbol cell.claim = .ok none) :
    cell.claim = none := by
  cases key : cell.claim with
  | none => rfl
  | some raw =>
      simp only [loadResult, key] at found
      split at found
      · cases found
      · cases found

theorem loadClaim_alone (serving : Serving P i world) :
    Meets (Machine.solo P i) (fun outcome last =>
      outcome = loadResult symbol (world.cells symbol).claim ∧
        (last.cells symbol).claim = (world.cells symbol).claim) world
      (loadClaim symbol : Route Raw PyError _) := by
  refine ⟨trivial, fun reply last step => ?_⟩
  have same : (last.cells symbol).claim = (world.cells symbol).claim :=
    claim_of_spares (show Command.spares (.getClaim symbol) from trivial) step
  obtain rfl := serving.getClaim step
  cases claim : (world.cells symbol).claim with
  | none => exact ⟨rfl, same.trans claim⟩
  | some raw =>
      rw [claim] at same
      simp only [awaitStore, resolve_finish, loadResult]
      split
      · rename_i found loaded
        split
        · rename_i again loadedAgain
          obtain rfl := Option.some.inj (loaded.symm.trans loadedAgain)
          exact ⟨rfl, same⟩
        · rename_i failed
          rw [loaded] at failed
          cases failed
      · rename_i loaded
        split
        · rename_i found failed
          rw [loaded] at failed
          cases failed
        · exact ⟨rfl, same⟩

/-- The outcome of a freeze and the claim key after it. -/
def freezeResult (symbol reason : String) (stored : Option Raw) :
    Except PyError Unit × Option Raw :=
  match loadResult symbol stored with
  | .error error => (.error error, stored)
  | .ok none =>
      (.error (.ownershipStoreUnavailable ("missing_claim_to_freeze:" ++ symbol)), stored)
  | .ok (some claim) =>
      (.ok (), some (ClaimText.dumps { claim with frozenReason := some reason }))

/-- A freeze writes back what it loaded, or fails and leaves the claim alone. -/
theorem freeze_alone {reason : String} (serving : Serving P i world) :
    Meets (Machine.solo P i) (fun outcome last =>
      (outcome, (last.cells symbol).claim) = freezeResult symbol reason (world.cells symbol).claim ∧
        (outcome = .ok () → Recorded Event.froze last.history symbol)) world
      (freeze symbol reason) := by
  refine Meets.bind (serving.carry (loadClaim_alone serving)) (fun found last loaded => ?_)
    fun error last loaded => ?_
  · obtain ⟨⟨outcome, same⟩, serving⟩ := loaded
    cases found with
    | none =>
        simp only [freezeResult, ← outcome, meets_raise, same]
        exact ⟨trivial, by simp⟩
    | some claim =>
        refine ⟨trivial, fun reply after step => ?_⟩
        obtain ⟨cell, -, applied | ⟨applied, -⟩⟩ := serving.store step
        · obtain ⟨ok, applied, rfl⟩ := applied
          obtain ⟨rfl, frozen⟩ := Prod.mk.inj (Option.some.inj applied)
          obtain ⟨before, history⟩ := alone_history step
          refine ⟨?_, fun _ => ?_⟩
          · simp only [freezeResult, ← outcome, ← frozen]
          · rw [history]
            exact recorded_cons.mpr (.inl rfl)
        · cases applied
  · obtain ⟨⟨failed, same⟩, -⟩ := loaded
    simp only [freezeResult, ← failed, same]
    exact ⟨trivial, by simp⟩

/-- Completing the marker of a stored claim removes it. -/
theorem completeMutation_alone {token : String} {claim : Claim} (serving : Serving P i world)
    (stored : (world.cells symbol).stored = some claim)
    (marked : claim.mutationPending = some token) :
    Meets (Machine.solo P i) (fun outcome last => outcome = .ok () ∧ (last.cells symbol).claim =
      some (ClaimText.encode { claim with mutationPending := none })) world
      (completeMutation symbol token) := by
  refine ⟨trivial, fun reply after step => ?_⟩
  obtain ⟨cell, same, applied⟩ := serving.store step
  have found := (Cell.stored_congr same).trans stored
  obtain ⟨raw, key, decoded⟩ := Option.bind_eq_some_iff.mp found
  rcases applied with ⟨ok, applied, rfl⟩ | ⟨applied, -⟩
  · simp only [StoreOp.apply, key, decoded, marked, ne_eq, not_true_eq_false, if_false] at applied
    obtain ⟨rfl, cleared⟩ := Prod.mk.inj (Option.some.inj applied)
    exact ⟨rfl, by rw [← cleared]⟩
  · simp [StoreOp.apply, key, decoded, marked] at applied

/-- A marker is set on a stored claim that can be read and has none. -/
theorem beginMutation_alone {operation : String} {claim : Claim} (serving : Serving P i world)
    (stored : (world.cells symbol).stored = some claim) :
    Meets (Machine.solo P i) (fun outcome last => ∀ token, outcome = .ok token →
      (last.cells symbol).claim =
          some (ClaimText.encode { claim with mutationPending := some token }) ∧
        ∃ uuid drawn before, (Machine.solo P i).after .uuid4 world uuid drawn ∧ last.history =
          ⟨i, .store symbol (.beginMutation token), .served true, before, last.cells⟩ ::
            drawn.history) world
      (beginMutation symbol operation) := by
  refine ⟨trivial, fun uuid drawn draw => ⟨trivial, fun reply after step => ?_⟩⟩
  have same : (drawn.cells symbol).claim = (world.cells symbol).claim :=
    claim_of_spares (show Command.spares .uuid4 from trivial) draw
  have serving : Serving P i drawn := by
    obtain ⟨before, history⟩ := alone_history draw
    exact serving.mono (history ▸ List.suffix_cons _ _)
  obtain ⟨cell, kept, applied | ⟨-, rfl⟩⟩ := serving.store step
  · obtain ⟨started, applied, rfl⟩ := applied
    have found : cell.stored = some claim := (Cell.stored_congr (kept.trans same)).trans stored
    cases started with
    | true =>
        rintro token ⟨⟩
        cases StoreOp.apply_claim applied with
        | kept unmoved idle =>
            rcases idle (mutationToken operation uuid) with ⟨other, -⟩ | refused
            · exact absurd rfl other
            · cases refused
        | released release => cases release
        | begun marks unmarked now =>
            obtain rfl := Option.some.inj (marks.symm.trans found)
            obtain ⟨before, history⟩ := alone_history step
            exact ⟨now, uuid, drawn, before, draw, history⟩
    | false =>
        change Meets _ _ _ (Coroutine.bind (loadClaim symbol) _)
        refine Meets.bind alone_meets (fun claim last _ => ?_) fun error last _ => nofun
        cases claim <;> rintro token ⟨⟩
  · rintro token ⟨⟩

/-- Giving up a fence raises nothing. -/
theorem releaseFence_alone {token : String} (serving : Serving P i world) :
    Meets (Machine.solo P i) (fun outcome _ => outcome = .ok ()) world
      (releaseFence symbol token) := by
  refine ⟨trivial, fun reply after step => ?_⟩
  obtain ⟨cell, -, ⟨ok, -, rfl⟩ | ⟨-, rfl⟩⟩ := serving.store step <;> rfl

/-! ## Authorization -/

/-- The client may write: the stored claim is its own and is not frozen. -/
def Cell.Writable (clientId : String) (cell : Cell Raw) : Prop :=
  ∃ claim, cell.Loads claim ∧ claim.owner = clientId ∧ Claim.truthy claim.frozenReason = false

omit [DecidableEq Raw] in
theorem Cell.Writable.congr {clientId : String} {left right : Cell Raw}
    (writable : left.Writable clientId) (same : right.claim = left.claim) :
    right.Writable clientId := by
  obtain ⟨claim, loaded, kept⟩ := writable
  exact ⟨claim, loaded.congr same, kept⟩

/-- A frozen claim is ambiguous. -/
theorem unfrozen_of_unambiguous {claim : Claim} {brokerState : BrokerSymbolState} {pending : Bool}
    (passed : assertBrokerStateIsUnambiguous symbol (some claim) brokerState pending = .ok ()) :
    Claim.truthy claim.frozenReason = false := by
  cases frozen : Claim.truthy claim.frozenReason with
  | false => rfl
  | true =>
      simp only [assertBrokerStateIsUnambiguous, Option.any_some, frozen, if_true] at passed
      split_ifs at passed

variable {clientId : String} {brokerState : BrokerSymbolState}

/-- A submission that is authorized leaves a claim under which the client may write. -/
theorem authorizeSubmission_alone (serving : ∀ world, Serving P i world) (named : clientId ≠ "") :
    Meets (Machine.solo P i) (fun outcome last =>
      outcome = .ok () → (last.cells symbol).Writable clientId) world
      (authorizeSubmission clientId symbol brokerState) := by
  refine Meets.bind alone_meets (fun _ _ _ => ?_) fun _ _ _ => by simp
  refine Meets.finish_bind (fun _ _ => ?_) fun _ _ => by simp
  refine Meets.bind alone_meets (fun _ _ _ => ?_) fun _ _ _ => by simp
  refine Meets.bind (loadClaim_alone (serving _)) (fun found last loaded => ?_) fun _ _ _ => by simp
  refine Meets.finish_bind (fun _ passed => ?_) fun _ _ => by simp
  rename_i middle
  obtain ⟨outcome, same⟩ := loaded
  cases found with
  | some claim =>
      dsimp only
      split_ifs with foreign
      · intro ended
        cases ended
      · refine (uses_spares symbol (uses_ensureIndex trivial)).mono fun _ ended kept _ => ?_
        refine ⟨claim, ?_, not_not.mp foreign, unfrozen_of_unambiguous passed⟩
        exact (Cell.loads_of_result outcome.symm).congr (kept.trans same)
  | none =>
      refine Meets.bind (uses_spares symbol (uses_utcNow.mpr trivial)) (fun now timed kept => ?_)
        fun _ _ _ => by simp
      have absent : (timed.cells symbol).claim = none :=
        kept.trans (same.trans (absent_of_result outcome.symm))
      refine ⟨trivial, fun reply after step => ?_⟩
      obtain ⟨cell, key, applied | ⟨-, rfl⟩⟩ := (serving timed).store step
      · obtain ⟨acquired, applied, rfl⟩ := applied
        simp only [StoreOp.apply, key.trans absent] at applied
        obtain ⟨rfl, created⟩ := Prod.mk.inj (Option.some.inj applied)
        intro _
        refine ⟨⟨clientId, some now, none, none⟩, ⟨_, ?_, loads_dumps named⟩, rfl, rfl⟩
        rw [← created]
        rfl
      · intro ended
        cases ended

/-- A close that is authorized finds a claim under which the client may write. -/
theorem authorizeClose_alone (serving : Serving P i world) :
    Meets (Machine.solo P i) (fun outcome last =>
      outcome = .ok () → (last.cells symbol).Writable clientId) world
      (authorizeClose clientId symbol brokerState) := by
  refine Meets.bind (loadClaim_alone serving) (fun found last loaded => ?_) fun _ _ _ => nofun
  obtain ⟨outcome, same⟩ := loaded
  refine Meets.finish_bind (fun _ passed => ?_) fun _ _ => nofun
  split_ifs
  · exact nofun
  · exact nofun
  · cases found with
    | none => exact nofun
    | some claim =>
        dsimp only
        split_ifs with foreign
        · exact nofun
        · intro _
          refine ⟨claim, ?_, not_not.mp foreign, unfrozen_of_unambiguous passed⟩
          exact (Cell.loads_of_result outcome.symm).congr same

end Trading
end DataGateway
