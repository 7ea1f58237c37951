import DataGateway.Trading.MutualExclusion

/-!
# Writing under one's own unfrozen claim

Owner and freeze are checked when a submission is authorized; the marker is set several commands
later and compares neither.  Whatever happens to the claim in between is not seen, and neither is
the freeze of a claim that won the race of the authorization.
-/

namespace DataGateway
namespace Trading

open Coroutine Machine

variable {ι Raw : Type} [ClaimText Raw]

/-- The owner and the freeze of the stored claim. -/
def Cell.standing (cell : Cell Raw) : Option (String × Option String) :=
  cell.stored.map Claim.standing

/-- The stored claim, if any, carries no freeze. -/
def Cell.Unfrozen (cell : Cell Raw) : Prop := ∀ claim ∈ cell.stored, claim.frozenReason = none

instance (cell : Cell Raw) : Decidable cell.Unfrozen :=
  inferInstanceAs (Decidable (∀ _ ∈ _, _ = _))

/-- The symbol whose claim the command marks. -/
def Command.begins : Command Raw → Option String
  | .store symbol (.beginMutation _) => some symbol
  | _ => none

omit [ClaimText Raw] in
theorem Command.eq_of_begins {command : Command Raw} {symbol : String}
    (begins : symbol ∈ command.begins) :
    ∃ token, command = .store symbol (.beginMutation token) := by
  cases command with
  | store target op =>
      cases op with
      | beginMutation token =>
          obtain rfl : target = symbol := Option.some.inj begins
          exact ⟨token, rfl⟩
      | _ => cases begins
  | _ => cases begins

/-- The reply shows the task the claim of the symbol: it was read, or the task created it. -/
def Event.shows (symbol : String) : Event ι Raw → Bool
  | ⟨_, .getClaim target, .served _, _, _⟩ => target = symbol
  | ⟨_, .store target (.claimAndIndex _ _), .served true, _, _⟩ => target = symbol
  | _ => false

variable [DecidableEq ι]

/-- The task has looked at the claim, it was unfrozen then, and no command has changed its owner or
its freeze since. -/
def UnmovedSinceLook (i : ι) (symbol : String) : List (Event ι Raw) → Prop
  | [] => False
  | event :: earlier =>
      if event.actor = i ∧ event.shows symbol then (event.after symbol).Unfrozen
      else (event.after symbol).standing = (event.before symbol).standing ∧
        UnmovedSinceLook i symbol earlier

instance UnmovedSinceLook.decide (i : ι) (symbol : String) :
    (history : List (Event ι Raw)) → Decidable (UnmovedSinceLook i symbol history)
  | [] => inferInstanceAs (Decidable False)
  | event :: earlier =>
      have := UnmovedSinceLook.decide i symbol earlier
      inferInstanceAs (Decidable (if event.actor = i ∧ event.shows symbol then _ else _ ∧ _))

variable [DecidableEq Raw]

/-- A mutation begins only on a claim that has not moved since its task looked at it. -/
def unmovedBegins : Policy (gateway : Machine ι (@Command.Reply Raw) (World ι Raw)) where
  allows i command _ world := ∀ symbol ∈ command.begins, UnmovedSinceLook i symbol world.history
  permits _ _ := True

instance :
    (unmovedBegins : Policy (gateway : Machine ι (@Command.Reply Raw) (World ι Raw))).Decides :=
  ⟨fun _ _ _ _ => inferInstanceAs (Decidable (∀ _ ∈ _, UnmovedSinceLook _ _ _)),
    fun _ _ => inferInstanceAs (Decidable True)⟩

/-- What a task saw is what is stored, as far as owner and freeze are concerned. -/
def SeesStanding (world : World ι Raw) (locals : ι → Session) : Prop :=
  ∀ i symbol claim, UnmovedSinceLook i symbol world.history →
    (locals i).look = some (symbol, claim) →
    (world.cells symbol).standing = some (claim.owner, none)

omit [DecidableEq ι] [DecidableEq Raw] in
/-- A look at another symbol, or no look at all, does not show the claim. -/
theorem Session.next_look {session : Session} {command : Command Raw} {reply : command.Reply}
    {symbol : String} {claim : Claim} {i : ι} {before after : String → Cell Raw}
    (hidden : Event.shows symbol ⟨i, command, reply, before, after⟩ = false)
    (look : (session.next command reply).look = some (symbol, claim)) :
    session.look = some (symbol, claim) := by
  cases command with
  | getClaim target =>
      cases reply with
      | served raw =>
          have other : target ≠ symbol := by simpa [Event.shows] using hidden
          obtain ⟨seen, -, same⟩ := Option.map_eq_some_iff.mp look
          exact absurd (Prod.mk.inj same).1 other
      | failed => exact look
      | cancelled => exact look
  | store target op =>
      cases op with
      | claimAndIndex owner raw =>
          cases reply with
          | served ok =>
              cases ok with
              | true =>
                  have other : target ≠ symbol := by simpa [Event.shows] using hidden
                  obtain ⟨seen, -, same⟩ := Option.map_eq_some_iff.mp look
                  exact absurd (Prod.mk.inj same).1 other
              | false => exact look
          | failed => exact look
          | cancelled => exact look
      | acquireFence token | thawClaim expected delete owner =>
          cases reply with
          | served ok => cases ok <;> exact look
          | failed => exact look
          | cancelled => exact look
      | _ => exact look
  | _ => exact look

/-- A look shows the stored claim. -/
theorem look_stored {session : Session} {command : Command Raw} {reply : command.Reply}
    {symbol : String} {claim : Claim} {i : ι} {outcome : command.Outcome}
    {world after : World ι Raw}
    (shown : Event.shows symbol ⟨i, command, reply, world.cells, after.cells⟩ = true)
    (look : (session.next command reply).look = some (symbol, claim))
    (performed : performCommand i command outcome world = some (reply, after)) :
    (after.cells symbol).stored = some claim := by
  obtain ⟨-, step⟩ := performCommand_record performed
  cases command with
  | getClaim target =>
      cases reply with
      | served raw =>
          obtain rfl : target = symbol := by simpa [Event.shows] using shown
          obtain ⟨seen, decoded, same⟩ := Option.map_eq_some_iff.mp look
          obtain rfl := (Prod.mk.inj same).2
          cases step with
          | other notStore unchanged =>
              rw [unchanged, Cell.stored, ← performCommand_getClaim performed]
              exact decoded
      | failed => cases shown
      | cancelled => cases shown
  | store target op =>
      cases op with
      | claimAndIndex owner raw =>
          cases reply with
          | served ok =>
              cases ok with
              | true =>
                  obtain rfl : target = symbol := by simpa [Event.shows] using shown
                  obtain ⟨seen, decoded, same⟩ := Option.map_eq_some_iff.mp look
                  obtain rfl := (Prod.mk.inj same).2
                  cases step with
                  | other notStore unchanged => exact absurd rfl (notStore _ _)
                  | unexecuted unchanged lost => exact absurd rfl (lost true)
                  | executed applied now answer =>
                      obtain rfl := answer true rfl
                      refine Cell.stored_of_claim ?_ decoded
                      rw [now, Function.update_self]
                      exact StoreOp.apply_claimAndIndex applied
              | false => cases shown
          | failed => cases shown
          | cancelled => cases shown
      | _ => cases shown
  | _ => cases shown

/-- One command keeps what the tasks see. -/
theorem SeesStanding.step {i : ι} {command : Command Raw} {outcome : command.Outcome}
    {reply : command.Reply} {world after : World ι Raw} {locals : ι → Session}
    (sees : SeesStanding world locals)
    (performed : performCommand i command outcome world = some (reply, after)) :
    SeesStanding after (Function.update locals i ((locals i).next command reply)) := by
  obtain ⟨recorded, -⟩ := performCommand_record performed
  intro j symbol claim unmoved look
  rw [recorded] at unmoved
  simp only [UnmovedSinceLook] at unmoved
  split_ifs at unmoved with shown
  · obtain ⟨rfl, shown⟩ := shown
    rw [Function.update_self] at look
    have stored := look_stored shown look performed
    simp [Cell.standing, stored, Claim.standing, unmoved claim stored]
  · obtain ⟨same, earlier⟩ := unmoved
    rw [show (after.cells symbol).standing = (world.cells symbol).standing from same]
    refine sees j symbol claim earlier ?_
    by_cases mine : j = i
    · subst mine
      rw [Function.update_self] at look
      exact Session.next_look (by simpa using shown) look
    · rwa [Function.update_of_ne mine] at look

/-- A mutation that begins marks an unfrozen claim of the client whose request it is. -/
def Event.BeginsOwn (clients : ι → String) (event : Event ι Raw) : Prop :=
  ∀ symbol ∈ event.command.begins, event.Took symbol →
    ∃ claim ∈ (event.before symbol).stored,
      claim.owner = clients event.actor ∧ claim.frozenReason = none

instance (clients : ι → String) (event : Event ι Raw) : Decidable (event.BeginsOwn clients) :=
  inferInstanceAs (Decidable (∀ symbol ∈ _, _ → ∃ claim ∈ _, _ ∧ _))

omit [DecidableEq Raw] in
/-- A claim that has not moved since a client's look at it is the client's own unfrozen claim. -/
theorem SeesStanding.owns {i : ι} {symbol clientId : String} {world : World ι Raw}
    {locals : ι → Session} (sees : SeesStanding world locals)
    (owns : (locals i).Owns symbol clientId) (unmoved : UnmovedSinceLook i symbol world.history) :
    ∃ claim ∈ (world.cells symbol).stored, claim.owner = clientId ∧ claim.frozenReason = none := by
  obtain ⟨claim, look, rfl⟩ := owns
  obtain ⟨stored, found, same⟩ := Option.map_eq_some_iff.mp (sees i symbol claim unmoved look)
  obtain ⟨owner, unfrozen⟩ := Prod.mk.inj same
  exact ⟨stored, found, owner, unfrozen⟩

/-- A permitted begin marks the client's own unfrozen claim. -/
theorem SeesStanding.beginsOwn {i : ι} {command : Command Raw} {outcome : command.Outcome}
    {reply : command.Reply} {world : World ι Raw} {after : String → Cell Raw}
    {locals : ι → Session} {clients : ι → String} (sees : SeesStanding world locals)
    (permitted : (locals i).may (.client (clients i)) command)
    (allowed : unmovedBegins.allows i command outcome world) :
    Event.BeginsOwn clients ⟨i, command, reply, world.cells, after⟩ := by
  intro symbol begins _
  obtain ⟨token, rfl⟩ := Command.eq_of_begins begins
  obtain ⟨-, client, role, owns⟩ := permitted
  obtain rfl := Role.client.inj role
  exact sees.owns owns (allowed symbol rfl)

/-- While no mutation begins on a claim that has moved since its request looked at it, every
mutation that begins marks an unfrozen claim of its own client, in every interleaving. -/
theorem begins_on_own_claim [Unicode] {settings : Settings}
    {requests : ι → String × WriteRequest} {cells : String → Cell Raw} {issued : List Uuid}
    {final : Config ι (@Command.Reply Raw) PyError Answer (World ι Raw)}
    (run : Reaches unmovedBegins (serving settings requests cells issued) final) :
    ∀ event ∈ final.world.history, event.BeginsOwn fun i => (requests i).1 := by
  let Held : World ι Raw → (ι → Session) → Prop := fun world locals =>
    SeesStanding world locals ∧ ∀ event ∈ world.history, event.BeginsOwn fun i => (requests i).1
  have act : ∀ world locals i command outcome reply after, Held world locals →
      (locals i).may (.client (requests i).1) command →
      unmovedBegins.allows i command outcome world →
      performCommand i command outcome world = some (reply, after) →
      Held after (Function.update locals i ((locals i).next command reply)) := by
    intro world locals i command outcome reply after held permitted allowed performed
    refine ⟨held.1.step performed, ?_⟩
    rw [(performCommand_record performed).1]
    rintro event (_ | ⟨_, earlier⟩)
    · exact held.1.beginsOwn permitted allowed
    · exact held.2 event earlier
  have calm : ∀ world locals (move : Disturbance ι), Held world locals →
      unmovedBegins.permits move world → Held (Disturbance.apply move world) locals := by
    intro world locals move held _
    refine ⟨fun i symbol claim unmoved look => ?_, by rw [Disturbance.history]; exact held.2⟩
    rw [Disturbance.history] at unmoved
    rw [← held.1 i symbol claim unmoved look, Cell.standing, Cell.standing]
    exact congrArg _ (Cell.stored_congr Disturbance.claim)
  have start : Held ⟨cells, issued, [], []⟩ fun _ => Session.start := by
    refine ⟨fun i symbol claim unmoved _ => ?_, fun event mem => ?_⟩
    · cases unmoved
    · cases mem
  obtain ⟨_, ⟨-, own⟩, -⟩ := Reaches.sessions act calm start
    (fun i => (requests i).2.serve_session) run
  exact own

/-! ## A freeze between authorization and marker -/

set_option maxRecDepth 4000 in
theorem begins_on_own_claim_atlas :
    ∃ final, rivals.play unmovedBegins (calmTurns 16 0 '1' ++ calmTurns 2 0 '2') = some final ∧
      ∀ event ∈ final.world.history, event.BeginsOwn fun _ => "atlas" := by
  have played : (rivals.play unmovedBegins (calmTurns 16 0 '1' ++ calmTurns 2 0 '2')).isSome := by
    decide
  obtain ⟨final, ran⟩ := Option.isSome_iff_exists.mp played
  let _ := asciiUnicode
  have run : Reaches unmovedBegins rivals final := Config.play_reaches ran
  have own := begins_on_own_claim run
  exact ⟨final, ran, own⟩

/-- One request is authorized and renews its lease; request 0 fails before it takes the fence and
freezes the claim; the first request marks the frozen claim. -/
def frozenBegin (authorized failing : Fin 3) : List RivalTurn :=
  calmTurns 16 authorized '1' ++ calmTurns 1 authorized '2' ++ calmTurns 2 failing '0' ++
    [missingProvider] ++ calmTurns 2 failing '0' ++ calmTurns 1 authorized '2'

set_option maxRecDepth 4000 in
theorem marks_frozen_claim :
    ∃ final, Reaches (Policy.free gateway) rivals final ∧
      ¬ ∀ event ∈ final.world.history, event.BeginsOwn fun _ => "atlas" := by
  have played : (rivals.play (Policy.free gateway) (frozenBegin 1 0)).map (fun final =>
      final.world.history.all fun event => event.BeginsOwn fun _ => "atlas") = some false := by
    decide
  obtain ⟨final, ran, marked⟩ := Option.map_eq_some_iff.mp played
  refine ⟨final, Config.play_reaches ran, fun own => ?_⟩
  rw [List.all_eq_false] at marked
  obtain ⟨event, mem, foreign⟩ := marked
  exact foreign (decide_eq_true (own event mem))

end Trading
end DataGateway
