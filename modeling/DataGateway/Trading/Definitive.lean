import DataGateway.Trading.Alone

/-!
# Definitive answers

A broker write that ends in an exception leaves the claim frozen or its marker cleared, unless the
answer is definitive: then nothing is frozen, and whether the marker is cleared depends on the
classifier of the route.  Two kinds of exceptions are answered below 500 and classified as unknown.
-/

namespace DataGateway
namespace Trading

open Coroutine Machine

variable {ι Raw : Type}

/-- The status the caller is answered with. -/
def answeredStatus : Except PyError Answer → Option Int
  | .ok _ => some 200
  | .error error => error.answer

/-- A request that is answered below 500 and froze nothing leaves no marker of its own. -/
def Definitive [ClaimText Raw] (i : ι) (outcome : Except PyError Answer) (last : World ι Raw) :
    Prop :=
  (∃ status ∈ answeredStatus outcome, status < 500) →
    ∀ symbol token, Recorded Event.begun last.history (i, symbol, token) →
      ¬ Recorded Event.froze last.history symbol → (last.cells symbol).marker ≠ some token

/-- The exceptions of the SDK call that the route answers below 500 without clearing the marker. -/
def FencedWrite.strands (w : FencedWrite Raw) : BrokerError → Bool
  | .value _ => w.valueErrorIsClientFault
  | .http status detail => status < 500 && !w.httpRefusal ⟨.plain, status, detail⟩
  | _ => false

/-- The same for a request. -/
def WriteRequest.strands : WriteRequest → BrokerError → Bool
  | .create _ _, .value _ | .replace _ _, .value _ => true
  | .replace _ _, .http status _ | .cancel _, .http status _ => status < 500
  | _, _ => false

/-- The store answers this command. -/
def Command.Answered : (command : Command Raw) → command.Outcome → Prop
  | .store _ _, outcome => outcome = StoreOutcome.served
  | .getClaim _, outcome => outcome = StoreOutcome.served
  | _, _ => True

instance Command.decideAnswered : (command : Command Raw) → (outcome : command.Outcome) →
    Decidable (command.Answered outcome)
  | .store _ _, outcome => inferInstanceAs (Decidable (outcome = StoreOutcome.served))
  | .getClaim _, outcome => inferInstanceAs (Decidable (outcome = StoreOutcome.served))
  | .uuid4, _ | .utcnow, _ | .today, _ | .ownershipGuard, _ | .provider, _ | .rateLimit, _
  | .permit, _ | .inflightFull, _ | .getOrders _, _ | .getPositions, _ | .getOrder _, _
  | .submit _, _ | .awaitReply _, _ => inferInstanceAs (Decidable True)

variable [DecidableEq ι] [DecidableEq Raw] [ClaimText Raw]

/-- The store answers every command; everything else may go wrong. -/
def healthy : Policy (gateway : Machine ι (@Command.Reply Raw) (World ι Raw)) where
  allows _ command outcome _ := command.Answered outcome
  permits _ _ := True

instance : (healthy : Policy (gateway : Machine ι (@Command.Reply Raw) (World ι Raw))).Decides :=
  ⟨fun _ command outcome _ => Command.decideAnswered command outcome,
    fun _ _ => inferInstanceAs (Decidable True)⟩

variable {i : ι} {world last after : World ι Raw} {symbol token : String} {ε α : Type}

theorem serving_healthy (world : World ι Raw) : Serving healthy i world := fun _ _ =>
  ⟨fun _ _ _ allowed => allowed, fun _ _ allowed => allowed⟩

/-! ## What the history says about the write -/

/-- The command does not end a broker write. -/
def Command.mute : Command Raw → Prop
  | .awaitReply _ => False
  | _ => True

/-- The command neither ends a broker write nor sets a marker or a freeze. -/
def Command.quiet : Command Raw → Prop
  | .store _ (.beginMutation _) | .store _ (.setClaim _) | .awaitReply _ => False
  | _ => True

/-- The command neither ends a broker write nor brings a marker back. -/
def Command.closing : Command Raw → Prop
  | .store _ (.beginMutation _) | .store _ (.claimAndIndex _ _) | .store _ (.thawClaim _ _ _)
  | .awaitReply _ => False
  | _ => True

/-- No broker write has raised. -/
def Silent (world : World ι Raw) : Prop :=
  ∀ error, ¬ Recorded Event.brokerRaised world.history error

/-- One broker write has raised, and this was its exception. -/
def RaisedOnly (error : BrokerError) (world : World ι Raw) : Prop :=
  ∀ other, Recorded Event.brokerRaised world.history other ↔ other = error

/-- One marker has been set. -/
def BegunOnly (i : ι) (symbol token : String) (world : World ι Raw) : Prop :=
  ∀ mark, Recorded Event.begun world.history mark ↔ mark = (i, symbol, token)

/-- Nothing has been written, marked or frozen. -/
structure Pristine (world : World ι Raw) : Prop where
  silent : Silent world
  unbegun : ∀ mark, ¬ Recorded Event.begun world.history mark
  unfrozen : ∀ target, ¬ Recorded Event.froze world.history target

/-- What the history tells about a write that raised. -/
structure Told (i : ι) (symbol token : String) (error : BrokerError) (world : World ι Raw) :
    Prop where
  raised : RaisedOnly error world
  begun : BegunOnly i symbol token world

/-- The marker is in place and nothing is frozen. -/
structure Marked (symbol token : String) (world : World ι Raw) : Prop where
  claim : ∃ claim, (world.cells symbol).Loads claim ∧ claim.mutationPending = some token
  unfrozen : ∀ target, ¬ Recorded Event.froze world.history target

/-- The claim was frozen or the marker is gone. -/
def Settled (symbol token : String) (world : World ι Raw) : Prop :=
  Recorded Event.froze world.history symbol ∨ (world.cells symbol).marker ≠ some token

section Steps

variable {P : Policy (gateway : Machine ι (@Command.Reply Raw) (World ι Raw))}
variable {command : Command Raw} {reply : command.Reply}

theorem recorded_step {β : Type} {reading : Event ι Raw → Option β} {value : β}
    (step : (Machine.solo P i).after command world reply after)
    (blind : ∀ before after value, reading ⟨i, command, reply, before, after⟩ ≠ some value) :
    Recorded reading after.history value ↔ Recorded reading world.history value := by
  obtain ⟨before, history⟩ := alone_history step
  rw [history, recorded_cons]
  exact or_iff_right (blind _ _ _)

theorem mute_step {error : BrokerError} (mute : command.mute)
    (step : (Machine.solo P i).after command world reply after) :
    Recorded Event.brokerRaised after.history error ↔
      Recorded Event.brokerRaised world.history error := by
  refine recorded_step step fun before after value raised => ?_
  obtain ⟨write, rfl⟩ := Event.brokerRaised_command raised
  exact mute

theorem unmarking_step {mark : ι × String × String}
    (other : ∀ target token, command ≠ .store target (.beginMutation token))
    (step : (Machine.solo P i).after command world reply after) :
    Recorded Event.begun after.history mark ↔ Recorded Event.begun world.history mark :=
  recorded_step step fun _ _ _ begun => other _ _ (Event.begun_command begun).2

theorem unfreezing_step {target : String}
    (other : ∀ target raw, command ≠ .store target (.setClaim raw))
    (step : (Machine.solo P i).after command world reply after) :
    Recorded Event.froze after.history target ↔ Recorded Event.froze world.history target := by
  refine recorded_step step fun before after value froze => ?_
  obtain ⟨raw, rfl⟩ := Event.froze_command froze
  exact other _ _ rfl

theorem Pristine.step (pristine : Pristine world)
    (step : (Machine.solo P i).after command world reply after) (quiet : command.quiet) :
    Pristine after := by
  have mute : command.mute := by
    cases command with
    | awaitReply write => exact quiet.elim
    | _ => trivial
  refine ⟨fun error => ?_, fun mark => ?_, fun target => ?_⟩
  · rw [mute_step mute step]
    exact pristine.silent error
  · rw [unmarking_step ?_ step]
    · exact pristine.unbegun mark
    · rintro target token rfl
      exact quiet
  · rw [unfreezing_step ?_ step]
    · exact pristine.unfrozen target
    · rintro target raw rfl
      exact quiet

theorem BegunOnly.step (begun : BegunOnly i symbol token world)
    (step : (Machine.solo P i).after command world reply after)
    (other : ∀ target token, command ≠ .store target (.beginMutation token)) :
      BegunOnly i symbol token after :=
  fun mark => (unmarking_step other step).trans (begun mark)

theorem Marked.step (marked : Marked symbol token world)
    (step : (Machine.solo P i).after command world reply after) (spares : command.spares) :
    Marked symbol token after := by
  obtain ⟨claim, loaded, pending⟩ := marked.claim
  refine ⟨⟨claim, loaded.congr (claim_of_spares spares step), pending⟩, fun target => ?_⟩
  rw [unfreezing_step ?_ step]
  · exact marked.unfrozen target
  · rintro target raw rfl
    exact spares

end Steps

/-- A closing command brings no marker back unless it freezes. -/
theorem marker_step {command : Command Raw} {reply : command.Reply} (closing : command.closing)
    (step : (Machine.solo healthy i).after command world reply after)
    (gone : (world.cells symbol).marker ≠ some token) :
    Recorded Event.froze after.history symbol ∨ (after.cells symbol).marker ≠ some token := by
  obtain ⟨drifted, outcome, claims, -, allowed, performed⟩ := alone_after step
  have before : (drifted.cells symbol).marker ≠ some token := by
    rwa [Cell.marker, Cell.stored_congr (claims symbol)]
  rcases (performCommand_record performed).2.claim symbol with same | ⟨op, ok, rfl, effect⟩
  · exact .inr (by rwa [Cell.marker, Cell.stored_congr same])
  · cases effect with
    | kept same => exact .inr (by rwa [Cell.marker, Cell.stored_congr same])
    | released release stored owned free now =>
        exact .inr (by simp [Cell.marker, Cell.stored, now])
    | completed stored marked now => exact .inr (by simp [Cell.marker, Cell.stored_encode now])
    | written now =>
        obtain ⟨before, history⟩ := alone_history step
        obtain ⟨cell, -, ⟨ok, -, rfl⟩ | ⟨applied, -⟩⟩ := (serving_healthy world).store step
        · exact .inl (by rw [history]; exact recorded_cons.mpr (.inl rfl))
        · cases applied
    | created | begun | thawed => exact closing.elim

theorem Settled.step {command : Command Raw} {reply : command.Reply}
    (settled : Settled symbol token world)
    (step : (Machine.solo healthy i).after command world reply after) (closing : command.closing) :
    Settled symbol token after := by
  rcases settled with froze | gone
  · obtain ⟨before, history⟩ := alone_history step
    exact .inl (by rw [history]; exact recorded_cons.mpr (.inr froze))
  · exact marker_step closing step gone

theorem Told.step {command : Command Raw} {reply : command.Reply} {error : BrokerError}
    (told : Told i symbol token error world)
    (step : (Machine.solo healthy i).after command world reply after) (closing : command.closing) :
    Told i symbol token error after := by
  refine ⟨fun other => (mute_step ?_ step).trans (told.raised other), told.begun.step step ?_⟩
  · cases command with
    | awaitReply write => exact closing.elim
    | _ => trivial
  · rintro target token rfl
    exact closing

/-! ## Computations that keep what the history says -/

theorem Pristine.keep {body : Route Raw ε α} (pristine : Pristine world)
    (uses : body.Uses Command.quiet) :
    Meets (Machine.solo healthy i) (fun _ last => Pristine last) world body :=
  uses.meets_inv pristine fun _ _ quiet holds => ⟨trivial, fun _ _ step => holds.step step quiet⟩

theorem Silent.keep {body : Route Raw ε α} (silent : Silent world) (uses : body.Uses Command.mute) :
    Meets (Machine.solo healthy i) (fun _ last => Silent last) world body :=
  uses.meets_inv silent fun _ _ mute holds =>
    ⟨trivial, fun _ _ step error => (mute_step mute step).not.mpr (holds error)⟩

theorem Told.keep {error : BrokerError} {body : Route Raw ε α}
    (told : Told i symbol token error world) (uses : body.Uses Command.closing) :
    Meets (Machine.solo healthy i) (fun _ last => Told i symbol token error last) world body :=
  uses.meets_inv told fun _ _ closing holds => ⟨trivial, fun _ _ step => holds.step step closing⟩

theorem Settled.keep {body : Route Raw ε α} (settled : Settled symbol token world)
    (uses : body.Uses Command.closing) :
    Meets (Machine.solo healthy i) (fun _ last => Settled symbol token last) world body :=
  uses.meets_inv settled fun _ _ closing holds =>
    ⟨trivial, fun _ _ step => holds.step step closing⟩

/-! ## The handlers -/

section Protocol

variable {w : FencedWrite Raw} {error : BrokerError} {fence reason : String}

/-- What a computation may leave behind once the write has raised: a settled claim, unless the
exception strands it, or a marked claim, where `left` allows it. -/
def Judged (w : FencedWrite Raw) (i : ι) (symbol : String) (left : BrokerError → Prop)
    (world : World ι Raw) : Prop :=
  Silent world ∨ ∃ token error, Told i symbol token error world ∧
    (Settled symbol token world ∧ w.strands error = false ∨ Marked symbol token world ∧ left error)

omit [DecidableEq ι] [DecidableEq Raw] in
theorem Judged.mono {left wider : BrokerError → Prop} (judged : Judged w i symbol left world)
    (implies : ∀ error, left error → wider error) : Judged w i symbol wider world := by
  rcases judged with silent | ⟨token, error, told, settled | ⟨marked, allowed⟩⟩
  · exact .inl silent
  · exact .inr ⟨token, error, told, .inl settled⟩
  · exact .inr ⟨token, error, told, .inr ⟨marked, implies error allowed⟩⟩

/-- Once the claim is settled, nothing that follows changes the judgement. -/
theorem rest_judged {left : Except ε α → BrokerError → Prop} {body : Route Raw ε α}
    (judged : Judged w i symbol (fun _ => False) world) (uses : body.Uses Command.closing) :
    Meets (Machine.solo healthy i) (fun outcome last => Judged w i symbol (left outcome) last) world
      body := by
  rcases judged with silent | ⟨token, error, told, ⟨settled, harmless⟩ | ⟨-, never⟩⟩
  · refine (silent.keep (uses.mono fun command closing => ?_)).mono fun _ _ kept => .inl kept
    cases command with
    | awaitReply write => exact closing.elim
    | _ => trivial
  · exact ((told.keep uses).and (settled.keep uses)).mono fun _ _ kept =>
      .inr ⟨token, error, kept.1, .inl ⟨kept.2, harmless⟩⟩
  · exact never.elim

/-- A freeze of the marked claim succeeds and settles it. -/
theorem freeze_settles (told : Told i symbol token error world)
    (marked : Marked symbol token world) :
    Meets (Machine.solo healthy i) (fun outcome last => outcome = .ok () ∧
      Told i symbol token error last ∧ Settled symbol token last) world
      (freezeBeforeFenceRelease symbol reason) := by
  obtain ⟨claim, loaded, -⟩ := marked.claim
  have uses : (freeze symbol reason : Route Raw PyError Unit).Uses Command.closing :=
    uses_freeze trivial fun _ => trivial
  have frozen := (freeze_alone (serving_healthy (i := i) world)).and (told.keep uses)
  have served : ∀ outcome claimAfter,
      (outcome, claimAfter) = freezeResult symbol reason (world.cells symbol).claim →
      outcome = .ok () := fun outcome claimAfter same => by
    rw [freezeResult, loaded.result] at same
    exact (Prod.mk.inj same).1
  refine Meets.catching frozen (fun _ last kept => ?_) fun failure last kept => ?_
  · exact ⟨rfl, kept.2, .inl (kept.1.2 rfl)⟩
  · cases served _ _ kept.1.1

/-- Clearing the marker succeeds and settles the claim. -/
theorem clear_settles {failure : PyError} (told : Told i symbol token error world)
    (marked : Marked symbol token world) :
    Meets (Machine.solo healthy i) (fun outcome last => outcome = .ok () ∧
      Told i symbol token error last ∧ Settled symbol token last) world
      (clearMutationAfterUnappliedWrite symbol token failure) := by
  obtain ⟨claim, loaded, pending⟩ := marked.claim
  have cleared :=
    (completeMutation_alone (serving_healthy (i := i) world) loaded.stored pending).and
    (told.keep (uses_completeMutation trivial))
  refine Meets.catching cleared (fun _ last kept => ?_) fun failure last kept => ?_
  · refine ⟨rfl, kept.2, .inr ?_⟩
    simp [Cell.marker, Cell.stored_encode kept.1.2]
  · cases kept.1.1

/-- Clearing the marker and cleaning up settle the claim, whatever the clean-up does. -/
theorem clearing_settles {failure : PyError} (cleanUp : (w.cleanUp fence).Uses Command.closing)
    (told : Told i symbol token error world) (marked : Marked symbol token world) :
    Meets (Machine.solo healthy i) (fun _ last =>
      Told i symbol token error last ∧ Settled symbol token last) world
      (do
        clearMutationAfterUnappliedWrite symbol token failure
        w.cleanUp fence) :=
  (clear_settles told marked).bind
    (fun _ _ kept => (kept.2.1.keep cleanUp).and (kept.2.2.keep cleanUp)) fun _ _ kept => kept.2

/-- The error of the SDK call when the write raises. -/
def FencedWrite.dispatchError (w : FencedWrite Raw) : BrokerError → PyError
  | .timeout _ => httpCoded 504 "GW-E5004"
      s!"Timed out waiting for Alpaca trading API during {w.operation}" w.context
  | error => .ofBroker error

/-- The errors that leave the protected block with the marker in place: a definitive one, or one
that the outer handler answers with a freeze. -/
def FencedWrite.Escapes (w : FencedWrite Raw) (error : BrokerError) : WriteError → Prop
  | (.http http, _) => w.strands error = true ∧ http.statusCode < 500
  | (.cancelled, _) => False
  | (.value _, unapplied) => w.strands error = w.valueErrorIsClientFault ∧ unapplied = false
  | (_, unapplied) => w.strands error = false ∧ unapplied = false

/-- What the protected block leaves behind. -/
def FencedWrite.BlockLeaves (w : FencedWrite Raw) (i : ι) (symbol : String) :
    Except WriteError α → World ι Raw → Prop :=
  fun outcome => Judged w i symbol fun error => ∃ failure, outcome = .error failure ∧
    w.Escapes error failure

/-- What the handlers of the SDK call rely on. -/
structure FencedWrite.Classifies (w : FencedWrite Raw) : Prop where
  cleanUp : ∀ fence, (w.cleanUp fence).Uses Command.closing
  value : ∀ message, w.provenUnapplied (.value message) = false

/-- A step of the block that settles the claim before its error is raised. -/
theorem tagged_settled {body : Route Raw PyError Unit} {failure : WriteError}
    (harmless : w.strands error = false)
    (settles : Meets (Machine.solo healthy i) (fun _ last =>
      Told i symbol token error last ∧ Settled symbol token last) world body) :
    Meets (Machine.solo healthy i) (w.BlockLeaves i symbol) world
      ((tagged body).bind fun _ => raise failure : Route Raw WriteError String) := by
  have kept : Meets (Machine.solo healthy i) (fun _ last =>
      Told i symbol token error last ∧ Settled symbol token last) world (tagged body) :=
    settles.catching_kept fun _ _ kept => kept
  exact kept.bind (fun _ _ kept => .inr ⟨token, error, kept.1, .inl ⟨kept.2, harmless⟩⟩)
    fun _ _ kept => .inr ⟨token, error, kept.1, .inl ⟨kept.2, harmless⟩⟩

theorem afterFailedHttp_judged {http : HttpError} (classifies : w.Classifies)
    (plain : http.kind = .plain)
    (strands : w.strands error = (decide (http.statusCode < 500) && !w.httpRefusal http))
    (told : Told i symbol token error world) (marked : Marked symbol token world) :
    Meets (Machine.solo healthy i) (w.BlockLeaves i symbol) world
      (afterFailedWrite w symbol fence token (.http http)) := by
  have clears : (if w.httpRefusal http then do
        clearMutationAfterUnappliedWrite symbol token (.http http)
        w.cleanUp fence
      else pure () : Route Raw PyError Unit).Uses Command.closing := by
    split_ifs
    · exact Uses.bind (uses_clearMutation trivial) fun _ => classifies.cleanUp fence
    · trivial
  by_cases low : http.statusCode < 500
  · have skips : (freezeAfterAmbiguousMutation symbol http : Route Raw PyError Unit) = pure () :=
      if_pos (.inr low)
    simp only [afterFailedWrite, skips]
    by_cases refused : w.httpRefusal http = true
    · have harmless : w.strands error = false := by simp [strands, refused]
      simp only [refused, if_true]
      exact tagged_settled harmless (clearing_settles (classifies.cleanUp fence) told marked)
    · have stranded : w.strands error = true := by simp [strands, low, refused]
      simp only [refused]
      exact .inr ⟨token, error, told, .inr ⟨marked, _, rfl, stranded, low⟩⟩
  · have freezes : (freezeAfterAmbiguousMutation symbol http : Route Raw PyError Unit) =
        freezeBeforeFenceRelease symbol s!"broker_mutation_{http.statusCode}" :=
      if_neg (by simp [plain, low])
    have harmless : w.strands error = false := by simp [strands, low]
    simp only [afterFailedWrite, freezes]
    exact tagged_settled harmless ((freeze_settles told marked).bind
      (fun _ _ kept => (kept.2.1.keep clears).and (kept.2.2.keep clears)) fun _ _ kept => kept.2)

/-- The handlers of the SDK call, on an exception that is neither an HTTP error nor a
cancellation. -/
theorem afterFailedOther_judged {failure : PyError} (classifies : w.Classifies)
    (harmless : w.provenUnapplied failure = true → w.strands error = false)
    (escapes : w.Escapes error (failure, false)) (told : Told i symbol token error world)
    (marked : Marked symbol token world) :
    Meets (Machine.solo healthy i) (w.BlockLeaves i symbol) world
      (if w.provenUnapplied failure then
        (tagged (do
          clearMutationAfterUnappliedWrite symbol token failure
          w.cleanUp fence)).bind fun _ => raise (failure, true)
      else raise (failure, false) : Route Raw WriteError String) := by
  split_ifs with proven
  · exact tagged_settled (harmless proven)
      (clearing_settles (classifies.cleanUp fence) told marked)
  · exact .inr ⟨token, error, told, .inr ⟨marked, _, rfl, escapes⟩⟩

/-- The handlers of the SDK call after the write has raised. -/
theorem afterFailedWrite_judged (classifies : w.Classifies)
    (told : Told i symbol token error world) (marked : Marked symbol token world) :
    Meets (Machine.solo healthy i) (w.BlockLeaves i symbol) world
      (afterFailedWrite w symbol fence token (w.dispatchError error)) := by
  cases error with
  | http status detail => exact afterFailedHttp_judged classifies rfl rfl told marked
  | timeout message => exact afterFailedHttp_judged classifies rfl (by simp [FencedWrite.strands,
      HttpError.coded]) told marked
  | value message =>
      refine afterFailedOther_judged classifies (fun proven => ?_) ⟨rfl, rfl⟩ told marked
      exact absurd ((classifies.value message).symm.trans proven) Bool.false_ne_true
  | api error =>
      exact afterFailedOther_judged classifies (fun _ => rfl) ⟨rfl, rfl⟩ told marked
  | httpStatus status =>
      exact afterFailedOther_judged classifies (fun _ => rfl) ⟨rfl, rfl⟩ told marked
  | other message =>
      exact afterFailedOther_judged classifies (fun _ => rfl) ⟨rfl, rfl⟩ told marked

/-! ## Up to the write -/

variable {settings : Settings} {clientId : String}

/-- The marker has been set and the write has not ended. -/
structure Begun (i : ι) (symbol token : String) (world : World ι Raw) : Prop where
  silent : Silent world
  begun : BegunOnly i symbol token world
  marked : Marked symbol token world

theorem Begun.step {command : Command Raw} {reply : command.Reply}
    (begun : Begun i symbol token world)
    (step : (Machine.solo healthy i).after command world reply after) (spares : command.spares)
    (mute : command.mute) : Begun i symbol token after := by
  refine ⟨fun error => (mute_step mute step).not.mpr (begun.silent error),
    begun.begun.step step ?_, begun.marked.step step spares⟩
  rintro target token rfl
  exact spares

/-- The SDK call: the write has not raised, or the error tells what it raised. -/
theorem dispatchWrite_told (begun : Begun i symbol token world) :
    Meets (Machine.solo healthy i) (fun outcome last => Silent last ∨ ∃ error,
      outcome = .error (w.dispatchError error) ∧ Told i symbol token error last ∧
        Marked symbol token last) world (dispatchWrite settings w) := by
  refine ⟨trivial, fun full admitted step => ?_⟩
  have begun := begun.step step trivial trivial
  cases full with
  | true => exact .inl begun.silent
  | false =>
      refine ⟨trivial, fun _ submitted step => ⟨trivial, fun reply ended awaited => ?_⟩⟩
      have begun := begun.step step trivial trivial
      have marked := begun.marked.step awaited trivial
      have only := begun.begun.step awaited fun _ _ => nofun
      have silent : (∀ before after error,
          (⟨i, .awaitReply w.write, reply, before, after⟩ : Event ι Raw).brokerRaised ≠
            some error) → Silent ended :=
        fun blind error => (recorded_step awaited blind).not.mpr (begun.silent error)
      cases reply with
      | raised error =>
          have told : Told i symbol token error ended := by
            refine ⟨fun other => ?_, only⟩
            obtain ⟨before, history⟩ := alone_history awaited
            rw [history, recorded_cons, or_iff_left (begun.silent other)]
            exact ⟨fun same => (Option.some.inj same).symm, fun same => by rw [same]; rfl⟩
          cases error <;> exact .inr ⟨_, rfl, told, marked⟩
      | returned data => exact .inl (silent fun _ _ _ => nofun)
      | timedOut => exact .inl (silent fun _ _ _ => nofun)
      | cancelled => exact .inl (silent fun _ _ _ => nofun)

/-- Setting the marker. -/
theorem beginMutation_begun {operation : String} {claim : Claim} (pristine : Pristine world)
    (loaded : (world.cells symbol).Loads claim) :
    Meets (Machine.solo healthy i) (fun outcome last => Silent last ∧
      ∀ token, outcome = .ok token → Begun i symbol token last) world
      (beginMutation symbol operation) := by
  have silent : Meets (Machine.solo healthy i) (fun _ last => Silent last) world
      (beginMutation symbol operation) :=
    pristine.silent.keep (uses_beginMutation trivial trivial fun _ => trivial)
  refine (silent.and (beginMutation_alone (serving_healthy world) loaded.stored)).mono
    fun outcome last kept => ⟨kept.1, fun token success => ?_⟩
  obtain ⟨now, uuid, drawn, before, draw, history⟩ := kept.2 token success
  have earlier : Pristine drawn := pristine.step draw trivial
  refine ⟨kept.1, fun mark => ?_,
    ⟨⟨_, ⟨_, now, loads_encode loaded.owned⟩, rfl⟩, fun target => ?_⟩⟩
  · rw [history, recorded_cons, or_iff_left (earlier.unbegun mark)]
    exact ⟨fun same => (Option.some.inj same).symm, fun same => by rw [same]; rfl⟩
  · rw [history, recorded_cons, or_iff_right (nofun)]
    exact earlier.unfrozen target

/-! ## The route -/

variable [Unicode]

/-- What the protocol relies on in the values that a route fills in. -/
structure FencedWrite.Serves (w : FencedWrite Raw) (clientId symbol : String) : Prop
    extends w.Classifies where
  quiet : ∀ brokerState, (w.authorize brokerState).Uses Command.quiet
  authorize : ∀ {ι : Type} [DecidableEq ι] {i : ι} {world : World ι Raw} brokerState,
    Meets (Machine.solo healthy i) (fun outcome last =>
      outcome = .ok () → (last.cells symbol).Writable clientId) world (w.authorize brokerState)

theorem prepareWrite_begun (serves : w.Serves clientId symbol) (pristine : Pristine world) :
    Meets (Machine.solo healthy i) (fun outcome last => Silent last ∧
      ∀ token, outcome = .ok token → Begun i symbol token last) world
      (prepareWrite settings w symbol fence) := by
  have failed : ∀ {error : PyError} {last : World ι Raw}, Pristine last → Silent last ∧
      ∀ token, (.error error : Except PyError String) = .ok token → Begun i symbol token last :=
    fun pristine => ⟨pristine.silent, fun _ => nofun⟩
  refine Meets.bind (pristine.keep (uses_reconcile trivial trivial trivial trivial))
    (fun brokerState reconciled pristine => ?_) fun _ _ pristine => failed pristine
  refine Meets.bind ((pristine.keep (serves.quiet brokerState)).and (serves.authorize brokerState))
    (fun _ authorized kept => ?_) fun _ _ kept => failed kept.1
  have writable := kept.2 rfl
  refine Meets.bind ((kept.1.keep (uses_renewFence trivial)).and
    (uses_spares symbol (uses_renewFence trivial))) (fun _ renewed kept => ?_)
    fun _ _ kept => failed kept.1
  obtain ⟨claim, loaded, -⟩ := writable.congr kept.2
  exact beginMutation_begun kept.1 loaded

theorem guardedWrite_judged (serves : w.Serves clientId symbol) (pristine : Pristine world) :
    Meets (Machine.solo healthy i) (w.BlockLeaves i symbol) world
      (guardedWrite settings w clientId symbol fence) := by
  have rejected : Meets (Machine.solo healthy i) (fun outcome last => Silent last ∧
      ∀ token, outcome = .ok token → Begun i symbol token last) world
      ((prepareWrite settings w symbol fence).catching fun error =>
        raise (rejectOwnership false [] error)) :=
    Meets.catching (prepareWrite_begun serves pristine) (fun _ _ kept => kept) fun _ _ kept =>
      ⟨kept.1, fun _ => nofun⟩
  have prepared : Meets (Machine.solo healthy i) (fun outcome last => Silent last ∧
      ∀ token, outcome = .ok token → Begun i symbol token last) world
      (tagged ((prepareWrite settings w symbol fence).catching fun error =>
        raise (rejectOwnership false [] error))) :=
    Meets.catching rejected (fun _ _ kept => ⟨kept.1, fun token same => kept.2 token (by
      rw [Except.ok.inj same])⟩) fun _ _ kept => ⟨kept.1, fun _ => nofun⟩
  refine prepared.bind (fun token marked kept => ?_) fun _ _ kept => .inl kept.1
  have dispatched : Meets (Machine.solo healthy i) (w.BlockLeaves i symbol) marked
      ((dispatchWrite settings w).catching (afterFailedWrite w symbol fence token)) := by
    refine Meets.catching (dispatchWrite_told (kept.2 token rfl)) (fun data last told => ?_)
      fun failure last told => ?_
    · rcases told with silent | ⟨error, never, -⟩
      · exact .inl silent
      · cases never
    · rcases told with silent | ⟨error, failed, told, marked⟩
      · exact rest_judged (.inl silent) (uses_afterFailedWrite trivial (fun _ _ => trivial) trivial
          (serves.cleanUp fence))
      · obtain rfl := Except.error.inj failed
        exact afterFailedWrite_judged serves.toClassifies told marked
  refine dispatched.bind (fun data last judged => ?_) fun failure last judged => ?_
  · refine rest_judged (judged.mono fun error ⟨failure, never, _⟩ => nomatch never) ?_
    refine Uses.bind (uses_tagged (Uses.catching
      (uses_confirmWrite trivial trivial trivial trivial trivial trivial) fun _ => ?_))
      fun _ => trivial
    exact uses_afterFailedConfirmation trivial fun _ _ => trivial
  · exact judged.mono fun error ⟨failed, same, escapes⟩ => ⟨failed, by rw [Except.error.inj same],
      escapes⟩

/-- What the route leaves behind: a marked claim only under a definitive answer. -/
def FencedWrite.Leaves (w : FencedWrite Raw) (i : ι) (symbol : String)
    (outcome : Except PyError α) :
    World ι Raw → Prop :=
  Judged w i symbol fun error => w.strands error = true ∧
    ∃ http, outcome = .error (.http http) ∧ http.statusCode < 500

omit [DecidableEq ι] [DecidableEq Raw] [Unicode] in
theorem Judged.leaves {outcome : Except PyError α}
    (judged : Judged w i symbol (fun _ => False) world) : w.Leaves i symbol outcome world :=
  judged.mono fun _ never => never.elim

omit [Unicode] in
theorem freezeUnclassified_leaves {failure : PyError} (told : Told i symbol token error world)
    (marked : Marked symbol token world) (harmless : w.strands error = false) :
    Meets (Machine.solo healthy i) (w.Leaves i symbol) world
      (freezeUnclassified symbol failure false) :=
  (freeze_settles told marked).bind
    (fun _ _ kept => .inr ⟨token, error, kept.2.1, .inl ⟨kept.2.2, harmless⟩⟩)
    fun _ _ kept => .inr ⟨token, error, kept.2.1, .inl ⟨kept.2.2, harmless⟩⟩

omit [Unicode] in
theorem afterFailedBlock_leaves {failure : WriteError}
    (judged : Judged w i symbol (fun error => w.Escapes error failure) world) :
    Meets (Machine.solo healthy i)
    (w.Leaves i symbol) world (afterFailedBlock w symbol failure) := by
  have rest : Judged w i symbol (fun _ => False) world →
      Meets (Machine.solo healthy i) (w.Leaves i symbol) world
        (afterFailedBlock w symbol failure) := fun judged =>
    rest_judged judged (uses_afterFailedBlock trivial fun _ _ => trivial)
  rcases judged with silent | ⟨token, error, told, settled | ⟨marked, escapes⟩⟩
  · exact rest (.inl silent)
  · exact rest (.inr ⟨token, error, told, .inl settled⟩)
  · obtain ⟨failure, unapplied⟩ := failure
    cases failure with
    | http http =>
        exact .inr ⟨token, error, told, .inr ⟨marked, escapes.1, http, rfl, escapes.2⟩⟩
    | cancelled => exact escapes.elim
    | value message =>
        obtain ⟨strands, rfl⟩ := escapes
        by_cases fault : w.valueErrorIsClientFault = true
        · simp only [afterFailedBlock, fault, if_true]
          exact .inr ⟨token, error, told, .inr ⟨marked, strands.trans fault, _, rfl,
            (by decide : (400 : Int) < 500)⟩⟩
        · simp only [afterFailedBlock, fault]
          exact freezeUnclassified_leaves told marked (strands.trans (Bool.not_eq_true _ ▸ fault))
    | ownershipConflict reason =>
        obtain ⟨harmless, rfl⟩ := escapes
        exact freezeUnclassified_leaves told marked harmless
    | ownershipStoreUnavailable reason =>
        obtain ⟨harmless, rfl⟩ := escapes
        exact freezeUnclassified_leaves told marked harmless
    | api error =>
        obtain ⟨harmless, rfl⟩ := escapes
        exact freezeUnclassified_leaves told marked harmless
    | httpStatus status =>
        obtain ⟨harmless, rfl⟩ := escapes
        exact freezeUnclassified_leaves told marked harmless
    | other message =>
        obtain ⟨harmless, rfl⟩ := escapes
        exact freezeUnclassified_leaves told marked harmless

omit [Unicode] in
/-- Giving up the fence keeps what was left behind. -/
theorem releaseFence_leaves {outcome : Except PyError α}
    (leaves : w.Leaves i symbol outcome world) :
    Meets (Machine.solo healthy i) (fun released last =>
      Judged w i symbol (fun _ => False) last ∨ released = .ok () ∧ w.Leaves i symbol outcome last)
      world (releaseFence symbol fence) := by
  have rest : Judged w i symbol (fun _ => False) world → Meets (Machine.solo healthy i)
      (fun _ last => Judged w i symbol (fun _ => False) last) world (releaseFence symbol fence) :=
    fun judged => rest_judged judged (uses_releaseFence trivial)
  rcases leaves with silent | ⟨token, error, told, settled | ⟨marked, answered⟩⟩
  · exact (rest (.inl silent)).mono fun _ _ kept => .inl kept
  · exact (rest (.inr ⟨token, error, told, .inl settled⟩)).mono fun _ _ kept => .inl kept
  · have spares : (releaseFence symbol fence : Route Raw PyError Unit).Uses Command.spares :=
      uses_releaseFence trivial
    have still : Meets (Machine.solo healthy i) (fun _ last => Marked symbol token last) world
        (releaseFence symbol fence) :=
      spares.meets_inv marked fun _ _ spares holds =>
        ⟨trivial, fun _ _ step => holds.step step spares⟩
    refine ((releaseFence_alone (serving_healthy world)).and
      (still.and (told.keep (uses_releaseFence trivial)))).mono fun released _ kept => ?_
    exact .inr ⟨kept.1, .inr ⟨token, error, kept.2.2, .inr ⟨kept.2.1, answered⟩⟩⟩

theorem fencedCall_leaves (serves : w.Serves clientId symbol) (pristine : Pristine world) :
    Meets (Machine.solo healthy i) (w.Leaves i symbol) world
      (fencedCall settings w clientId symbol) := by
  have fenced : Meets (Machine.solo healthy i) (fun _ last => Pristine last) world
      ((acquireFence symbol : Route Raw PyError String).catching fun error =>
        raise (rejectOwnership false [] error)) :=
    (pristine.keep (uses_acquireFence trivial fun _ => trivial)).catching_kept fun _ _ kept => kept
  refine fenced.bind (fun fence held pristine => ?_) fun _ _ pristine => .inl pristine.silent
  have handled : Meets (Machine.solo healthy i) (w.Leaves i symbol) held
      ((guardedWrite settings w clientId symbol fence).catching (afterFailedBlock w symbol)) := by
    refine Meets.catching (guardedWrite_judged serves pristine) (fun data last judged => ?_)
      fun failure last judged => ?_
    · exact (judged.mono fun error ⟨failure, never, _⟩ => nomatch never).leaves
    · exact afterFailedBlock_leaves (judged.mono fun error ⟨failed, same, escapes⟩ => by
        rwa [Except.error.inj same])
  refine handled.ensuring fun outcome last leaves =>
    (releaseFence_leaves leaves).mono fun released _ kept => ?_
  rcases kept with judged | ⟨rfl, leaves⟩
  · cases released <;> exact judged.leaves
  · exact leaves

theorem fencedRoute_leaves (serves : w.Serves clientId symbol) (pristine : Pristine world) :
    Meets (Machine.solo healthy i) (w.Leaves i symbol) world
      (fencedRoute settings w clientId symbol) := by
  have admitted : Meets (Machine.solo healthy i) (w.Leaves i symbol) world
      (executeAlpacaProviderCall (fencedCall settings w clientId symbol)) := by
    refine ⟨trivial, fun found last step => ?_⟩
    have pristine := pristine.step step trivial
    cases found with
    | false => exact .inl pristine.silent
    | true =>
        refine Meets.catching (Meets.bind (pristine.keep (uses_admission trivial trivial))
          (fun _ _ pristine => fencedCall_leaves serves pristine)
          fun _ _ pristine => .inl pristine.silent) (fun _ _ leaves => leaves) fun _ _ leaves => ?_
        exact leaves.mono fun error ⟨strands, http, same, low⟩ =>
          ⟨strands, http, by rw [Except.error.inj same]; rfl, low⟩
  refine Meets.catching admitted (fun _ _ leaves => leaves) fun failure last leaves => ?_
  have rest : Judged w i symbol (fun _ => False) last → Meets (Machine.solo healthy i)
      (w.Leaves i symbol) last (afterFailedGate w symbol failure) := fun judged =>
    rest_judged judged (uses_afterFailedGate trivial fun _ _ => trivial)
  rcases leaves with silent | ⟨token, error, told, settled | ⟨marked, strands, http, same, low⟩⟩
  · exact rest (.inl silent)
  · exact rest (.inr ⟨token, error, told, .inl settled⟩)
  · obtain rfl := Except.error.inj same
    have skips : (freezeAfterAmbiguousMutation symbol http : Route Raw PyError Unit) = pure () :=
      if_pos (.inr low)
    have unmerged : mergeIdempotencyContextInto5xx http w.context = http := if_pos (.inr low)
    simp only [afterFailedGate, skips, unmerged, ite_self]
    exact .inr ⟨token, error, told, .inr ⟨marked, strands, http, rfl, low⟩⟩

end Protocol

/-! ## The requests -/

section Requests

variable [Unicode] {settings : Settings} {clientId : String} {w : FencedWrite Raw}
variable {request : WriteRequest} {error : BrokerError}

theorem WriteRequest.Fills.serves (named : clientId ≠ "")
    (fills : request.Fills settings clientId symbol w) : w.Serves clientId symbol := by
  have undo : ∀ fence, (releaseClaimAfterUnappliedSubmission settings symbol fence clientId).Uses
      (Command.closing : Command Raw → Prop) := fun _ =>
    uses_releaseAfterUnapplied trivial trivial trivial trivial trivial trivial trivial
  have submits : ∀ brokerState, (authorizeSubmission clientId symbol brokerState).Uses
      (Command.quiet : Command Raw → Prop) := fun _ =>
    uses_authorizeSubmission trivial trivial (fun _ => trivial) (fun _ => trivial) fun _ => trivial
  have authorized : ∀ {ι : Type} [DecidableEq ι] {i : ι} {world : World ι Raw} brokerState,
      Meets (Machine.solo healthy i) (fun outcome last =>
        outcome = .ok () → (last.cells symbol).Writable clientId) world
        (authorizeSubmission clientId symbol brokerState) := fun _ =>
    authorizeSubmission_alone serving_healthy named
  cases fills with
  | create => exact ⟨⟨undo, fun _ => rfl⟩, submits, authorized⟩
  | replace => exact ⟨⟨fun _ => trivial, fun _ => rfl⟩, submits, authorized⟩
  | cancel => exact ⟨⟨fun _ => trivial, fun _ => rfl⟩, submits, authorized⟩
  | close => exact ⟨⟨undo, fun _ => rfl⟩, fun _ => uses_authorizeClose trivial,
      fun _ => authorizeClose_alone (serving_healthy _)⟩

omit [DecidableEq ι] [DecidableEq Raw] in
theorem WriteRequest.Fills.strands (fills : request.Fills settings clientId symbol w) :
    w.strands error = request.strands error := by
  cases fills <;> cases error <;>
    simp [FencedWrite.strands, WriteRequest.strands, createOrderWrite, replaceOrderWrite,
      cancelOrderWrite, closePositionWrite, brokerSubmissionProvenUnapplied]

omit [DecidableEq ι] [DecidableEq Raw] [Unicode] in
/-- What the route leaves behind decides whether the answer was definitive. -/
theorem definitive_of_leaves {outcome : Except PyError Answer}
    (leaves : w.Leaves i symbol outcome last)
    (raised : Recorded Event.brokerRaised last.history error) :
    Definitive i outcome last ↔ w.strands error = false := by
  rcases leaves with silent |
    ⟨token, first, told, ⟨settled, harmless⟩ | ⟨marked, strands, http, same, low⟩⟩
  · exact absurd raised (silent error)
  · obtain rfl := (told.raised error).mp raised
    refine iff_of_true (fun _ target mark begun unfrozen => ?_) harmless
    obtain ⟨-, rfl, rfl⟩ : i = i ∧ target = symbol ∧ mark = token := by
      simpa using (told.begun (i, target, mark)).mp begun
    exact settled.resolve_left unfrozen
  · obtain rfl := (told.raised error).mp raised
    refine iff_of_false (fun definitive => ?_) (by simp [strands])
    obtain ⟨claim, loaded, pending⟩ := marked.claim
    have begun : Recorded Event.begun last.history (i, symbol, token) := (told.begun _).mpr rfl
    refine definitive ⟨http.statusCode, by rw [same]; rfl, low⟩ symbol token begun
      (marked.unfrozen symbol) ?_
    simp [Cell.marker, loaded.stored, pending]

/-- A request whose broker write raises answers definitively exactly when the exception is not one
that its route strands. -/
theorem definitive_iff (named : clientId ≠ "") {outcome : Except PyError Answer}
    (fresh : world.history = [])
    (run : Ends (Machine.solo healthy i) world (request.serve settings clientId) outcome last)
    (raised : Recorded Event.brokerRaised last.history error) :
    Definitive i outcome last ↔ request.strands error = false := by
  have pristine : Pristine world := by
    refine ⟨fun error => ?_, fun mark => ?_, fun target => ?_⟩ <;> simp [Recorded, fresh]
  let Post : Except PyError Answer → World ι Raw → Prop := fun outcome last =>
    ∀ error, Recorded Event.brokerRaised last.history error →
      (Definitive i outcome last ↔ request.strands error = false)
  have quiet : ∀ command (world : World ι Raw), Command.quiet command → Pristine world →
      (Machine.solo healthy i).may command world ∧ ∀ reply next,
        (Machine.solo healthy i).after command world reply next → Pristine next :=
    fun _ _ quiet pristine => ⟨trivial, fun _ _ step => pristine.step step quiet⟩
  have judged : Meets (Machine.solo healthy i) Post world (request.serve settings clientId) := by
    refine WriteRequest.serve_meets (A := Pristine) (B := Pristine)
      (fun command world preliminary _ pristine => quiet command world ?_ pristine)
      (fun world pristine => ⟨trivial, fun found next step => ?_⟩)
      (fun world pristine => quiet _ world trivial pristine)
      (fun _ world pristine error raised => ?_)
      (fun symbol w world fills pristine => ?_) pristine
    · cases command with
      | store symbol op => exact preliminary.elim
      | awaitReply write => exact preliminary.elim
      | _ => trivial
    · cases found <;> exact pristine.step step trivial
    · exact absurd raised ((pristine.elim id id).silent error)
    · refine (fencedRoute_leaves (fills.serves named) pristine).mono fun outcome last leaves => ?_
      cases outcome with
      | ok data =>
          intro answer error raised
          have settled : w.Leaves i symbol (.ok answer : Except PyError Answer) last :=
            leaves.mono fun _ ends => by simp at ends
          rw [← fills.strands]
          exact definitive_of_leaves settled raised
      | error failure =>
          intro error raised
          have settled : w.Leaves i symbol (.error failure : Except PyError Answer) last :=
            leaves.mono fun _ ends => by simpa using ends
          rw [← fills.strands]
          exact definitive_of_leaves settled raised
  exact run.meets judged error raised

end Requests

/-! ## A rejected input -/

section Rejection

/-- The choices of one request alone. -/
abbrev Choices := List ((command : Command PlainText) → command.Outcome)

/-- `atlas` owns `AAPL` and has an open order on it. -/
def atlasAlone : World Unit PlainText :=
  ⟨fun _ => ⟨some (.python ⟨"atlas", none, none, none⟩), none, ["atlas"]⟩, [], [], []⟩

/-- `create_order` of `atlas`. -/
def atlasCreates : Route PlainText PyError Answer :=
  let _ := asciiUnicode
  (WriteRequest.create "AAPL" (some "retry")).serve ⟨100, ["atlas"]⟩ "atlas"

/-- Everything succeeds but the write, which raises. -/
def raising (error : BrokerError) : Choices :=
  let orders : List BrokerRecord := [⟨some "AAPL", some "c-atlas-1"⟩]
  List.replicate 16 (calmly (Uuid.repeating '1') orders) ++
    List.replicate 14 fun
      | .awaitReply _ => .raised error
      | command => calmly (Uuid.repeating '2') orders command

/-- The broker's refusal for want of buying power. -/
def refusal : BrokerError := .api ⟨.known 403, some 40310000, some "insufficient", "insufficient"⟩

set_option maxRecDepth 4000 in
theorem definitive_iff_refused :
    ∃ outcome last, playAlone healthy () (raising refusal) atlasCreates atlasAlone =
      some (outcome, last) ∧ (Definitive () outcome last ↔
        (WriteRequest.create "AAPL" (some "retry")).strands refusal = false) := by
  have played : (playAlone healthy () (raising refusal) atlasCreates atlasAlone).map (fun run =>
      decide (Recorded Event.brokerRaised run.2.history refusal)) = some true := by decide
  obtain ⟨⟨outcome, last⟩, ran, raised⟩ := Option.map_eq_some_iff.mp played
  let _ := asciiUnicode
  have ends : Ends (Machine.solo healthy ()) atlasAlone
      ((WriteRequest.create "AAPL" (some "retry")).serve ⟨100, ["atlas"]⟩ "atlas") outcome last :=
    playAlone_ends ran
  exact ⟨outcome, last, ran, definitive_iff (by decide) rfl ends (of_decide_eq_true raised)⟩

set_option maxRecDepth 4000 in
/-- A rejected input is answered with 400 and leaves the marker on an unfrozen claim. -/
theorem rejected_input_strands :
    ∃ outcome last, Ends (Machine.solo healthy ()) atlasAlone atlasCreates outcome last ∧
      Recorded Event.brokerRaised last.history (.value "bad qty") ∧
      ¬ Definitive () outcome last := by
  let token := mutationToken "create_order" (Uuid.repeating '2')
  have played : (playAlone healthy () (raising (.value "bad qty")) atlasCreates atlasAlone).map
      (fun run => decide (Recorded Event.brokerRaised run.2.history (.value "bad qty") ∧
        answeredStatus run.1 = some 400 ∧
        Recorded Event.begun run.2.history ((), "AAPL", token) ∧
        ¬ Recorded Event.froze run.2.history "AAPL" ∧
        (run.2.cells "AAPL").marker = some token)) = some true := by decide
  obtain ⟨⟨outcome, last⟩, ran, facts⟩ := Option.map_eq_some_iff.mp played
  obtain ⟨raised, answered, begun, unfrozen, marked⟩ := of_decide_eq_true facts
  exact ⟨outcome, last, playAlone_ends ran, raised, fun definitive =>
    definitive ⟨400, answered, by decide⟩ "AAPL" token begun unfrozen marked⟩

end Rejection

end Trading
end DataGateway
