import DataGateway.Trading.Footprint

/-!
# What one request does

A session is what a request knows from the replies it has received: the identifier it drew last, the
fence it took, the claim it looked at last and the claim it thawed.  The session contract says which
commands a request issues in which session; every write route and the operator's command keep it.
-/

namespace DataGateway
namespace Trading

open Coroutine

variable {Raw : Type}

/-- What a request knows from its replies. -/
structure Session where
  /-- The identifier it drew last. -/
  uuid : Option Uuid
  /-- The symbol and token of the fence it took. -/
  fence : Option (String × String)
  /-- The claim it read or created last, with its symbol. -/
  look : Option (String × Claim)
  /-- The symbol whose claim it thawed. -/
  thawed : Option String

/-- The session of a request that has not done anything. -/
def Session.start : Session := ⟨none, none, none, none⟩

/-- Who runs a computation. -/
inductive Role
  /-- A request of a client. -/
  | client (id : String)
  /-- The operator's command. -/
  | operator
  deriving DecidableEq

section Contract

variable [ClaimText Raw]

/-- How a reply changes the session. -/
def Session.next (session : Session) : (command : Command Raw) → command.Reply → Session
  | .uuid4, uuid => { session with uuid := some uuid }
  | .getClaim symbol, .served raw =>
      { session with look := (raw.bind ClaimText.decode).map fun claim => (symbol, claim) }
  | .store symbol (.acquireFence token), .served true =>
      { session with fence := some (symbol, token) }
  | .store symbol (.claimAndIndex _ raw), .served true =>
      { session with look := (ClaimText.decode raw).map fun claim => (symbol, claim) }
  | .store symbol (.thawClaim _ _ _), .served true => { session with thawed := some symbol }
  | _, _ => session

/-- The request took the fence of the symbol. -/
def Session.Took (session : Session) (symbol : String) : Prop :=
  ∃ token, session.fence = some (symbol, token)

/-- The claim it looked at last is the client's own claim of the symbol. -/
def Session.Owns (session : Session) (symbol clientId : String) : Prop :=
  ∃ claim, session.look = some (symbol, claim) ∧ claim.owner = clientId

/-- The commands that a session allows. -/
def Session.may (role : Role) (session : Session) : Command Raw → Prop
  | .store _ (.acquireFence token) =>
      session.fence = none ∧ ∃ uuid, session.uuid = some uuid ∧ token = uuid.hex
  | .store symbol (.compareAndDeleteFence token) => session.fence = some (symbol, token)
  | .store _ (.claimAndIndex owner raw) =>
      role = .client owner ∧ ∃ now, raw = serializeClaim owner now
  | .store symbol (.beginMutation _) =>
      session.Took symbol ∧ ∃ client, role = .client client ∧ session.Owns symbol client
  | .store symbol (.thawClaim _ _ _) => role = .operator ∧ session.Took symbol
  | .getOrders symbol => session.Took symbol
  | _ => True

/-- The session contract. -/
def sessionOf (role : Role) : Contract (@Command.Reply Raw) Session where
  may command session := session.may role command
  after command session reply next := next = session.next command reply

/-! ## Code that needs nothing but the fence -/

/-- Commands that a request may issue whenever it has taken this fence. -/
def Routine (role : Role) (symbol fence : String) : Command Raw → Prop
  | .store _ (.acquireFence _) | .store _ (.beginMutation _) => False
  | .store target (.compareAndDeleteFence token) => target = symbol ∧ token = fence
  | .store _ (.claimAndIndex owner raw) =>
      role = .client owner ∧ ∃ now, raw = serializeClaim owner now
  | .store target (.thawClaim _ _ _) => role = .operator ∧ target = symbol
  | .getOrders target => target = symbol
  | _ => True

variable {role : Role} {symbol fence : String} {session : Session} {ε α : Type}

theorem Routine.may {command : Command Raw} (routine : Routine role symbol fence command)
    (taken : session.fence = some (symbol, fence)) : session.may role command := by
  cases command with
  | store target op =>
      cases op with
      | acquireFence token => exact routine.elim
      | beginMutation token => exact routine.elim
      | compareAndDeleteFence token =>
          obtain ⟨rfl, rfl⟩ := routine
          exact taken
      | claimAndIndex owner raw => exact routine
      | thawClaim expected delete owner =>
          obtain ⟨operates, rfl⟩ := routine
          exact ⟨operates, fence, taken⟩
      | _ => trivial
  | getOrders target =>
      obtain rfl : target = symbol := routine
      exact ⟨fence, taken⟩
  | _ => trivial

/-- Only taking a fence changes the fence of a session. -/
theorem Session.next_fence {command : Command Raw} {reply : command.Reply}
    (other : ∀ target token, command ≠ .store target (.acquireFence token)) :
    (session.next command reply).fence = session.fence := by
  cases command with
  | store target op =>
      cases op with
      | acquireFence token => exact absurd rfl (other target token)
      | claimAndIndex owner raw =>
          cases reply with
          | served ok => cases ok <;> rfl
          | failed => rfl
          | cancelled => rfl
      | thawClaim expected delete owner =>
          cases reply with
          | served ok => cases ok <;> rfl
          | failed => rfl
          | cancelled => rfl
      | _ => rfl
  | getClaim target => cases reply <;> rfl
  | _ => rfl

/-- Routine code keeps the contract and the fence. -/
theorem routine_meets {body : Route Raw ε α} (uses : body.Uses (Routine role symbol fence))
    (taken : session.fence = some (symbol, fence)) :
    Meets (sessionOf role) (fun _ last => last.fence = some (symbol, fence)) session body := by
  refine uses.meets_inv taken fun command current routine held => ?_
  refine ⟨routine.may held, fun reply next eq => ?_⟩
  subst eq
  rw [Session.next_fence ?_, held]
  rintro target token rfl
  exact routine

/-- Preliminary code keeps the contract and takes no fence. -/
theorem preliminary_meets {body : Route Raw ε α} (uses : body.Uses Preliminary)
    (free : session.fence = none) :
    Meets (sessionOf role) (fun _ last => last.fence = none) session body := by
  refine uses.meets_inv free fun command current preliminary held => ?_
  have other : ∀ target token, command ≠ .store target (.acquireFence token) := by
    rintro target token rfl
    exact preliminary
  refine ⟨?_, fun reply next eq => by rw [eq, Session.next_fence other, held]⟩
  cases command with
  | store target op => exact preliminary.elim
  | getOrders target => exact preliminary.elim
  | _ => trivial

/-- Code that is allowed in every session keeps the contract. -/
theorem anytime_meets {body : Route Raw ε α}
    (uses : body.Uses fun command => ∀ session : Session, session.may role command) :
    Meets (sessionOf role) (fun _ _ => True) session body :=
  uses.meets_inv (Q := fun _ => True) trivial fun _ current always _ =>
    ⟨always current, fun _ _ _ => trivial⟩

/-- A token that is returned is the token of the fence that was taken. -/
def Fencing (symbol : String) : Except PyError String → Session → Prop :=
  fun outcome last => ∀ token, outcome = .ok token → last.fence = some (symbol, token)

theorem acquireFence_meets (free : session.fence = none) :
    Meets (sessionOf role) (Fencing symbol) session
      (acquireFence symbol : Route Raw PyError String) := by
  refine ⟨trivial, fun uuid drawn eq => ?_⟩
  subst eq
  refine ⟨⟨free, uuid, rfl, rfl⟩, fun reply last eq => ?_⟩
  subst eq
  cases reply with
  | served acquired =>
      cases acquired with
      | true =>
          intro token same
          rw [← Except.ok.inj same]
          rfl
      | false => exact nofun
  | failed => exact nofun
  | cancelled => exact nofun

/-! ## From the authorization to the marker -/

/-- The fence is held, and a successful outcome leaves the client's own claim in view. -/
def Authorized (symbol fence clientId : String) : Except PyError Unit → Session → Prop :=
  fun outcome last => last.fence = some (symbol, fence) ∧
    (outcome = .ok () → last.Owns symbol clientId)

theorem loadStoredClaim_meets (taken : session.fence = some (symbol, fence)) :
    Meets (sessionOf role) (fun outcome last => last.fence = some (symbol, fence) ∧
      ∀ stored, outcome = .ok (some stored) → last.look = some (symbol, stored.claim)) session
      (loadStoredClaim symbol : Route Raw PyError _) := by
  refine ⟨trivial, fun reply last eq => ?_⟩
  subst eq
  cases reply with
  | failed => exact ⟨taken, nofun⟩
  | cancelled => exact ⟨taken, nofun⟩
  | served raw =>
      cases raw with
      | none => exact ⟨taken, nofun⟩
      | some raw =>
          simp only [awaitStore, resolve_finish]
          split
          · rename_i claim loaded
            refine ⟨taken, fun stored same => ?_⟩
            obtain rfl := Option.some.inj (Except.ok.inj same)
            simp [Session.next, decode_of_loads loaded]
          · exact ⟨taken, nofun⟩

theorem loadClaim_meets (taken : session.fence = some (symbol, fence)) :
    Meets (sessionOf role) (fun outcome last => last.fence = some (symbol, fence) ∧
      ∀ claim, outcome = .ok (some claim) → last.look = some (symbol, claim)) session
      (loadClaim symbol : Route Raw PyError _) := by
  refine Meets.bind (loadStoredClaim_meets taken) (fun stored last seen => ?_)
    fun _ _ seen => ⟨seen.1, nofun⟩
  refine ⟨seen.1, fun claim same => ?_⟩
  cases stored with
  | none => cases same
  | some stored =>
      obtain rfl := Option.some.inj (Except.ok.inj same)
      exact seen.2 stored rfl

theorem ensureIndex_meets {owner clientId : String} (held : session.fence = some (symbol, fence))
    (owns : session.Owns symbol clientId) :
    Meets (sessionOf role) (Authorized symbol fence clientId) session
      (ensureIndex owner symbol : Route Raw PyError Unit) := by
  refine ⟨trivial, fun reply last eq => ?_⟩
  subst eq
  cases reply <;> exact ⟨held, fun _ => owns⟩

theorem authorizeSubmission_meets {clientId : String} {brokerState : BrokerSymbolState}
    (taken : session.fence = some (symbol, fence)) :
    Meets (sessionOf (.client clientId)) (Authorized symbol fence clientId) session
      (authorizeSubmission clientId symbol brokerState : Route Raw PyError Unit) := by
  refine Meets.bind (loadClaim_meets taken) (fun claim first seen => ?_)
    fun _ _ seen => ⟨seen.1, nofun⟩
  refine Meets.finish_bind (fun _ _ => ?_) fun _ _ => ⟨seen.1, nofun⟩
  refine Meets.bind (routine_meets (uses_releaseIfClear fun _ => trivial) seen.1)
    (fun _ released held => ?_) fun _ _ held => ⟨held, nofun⟩
  refine Meets.bind (loadClaim_meets held) (fun found second seen => ?_)
    fun _ _ seen => ⟨seen.1, nofun⟩
  refine Meets.finish_bind (fun _ _ => ?_) fun _ _ => ⟨seen.1, nofun⟩
  cases found with
  | some found =>
      dsimp only
      split_ifs with foreign
      · exact ⟨seen.1, nofun⟩
      · exact ensureIndex_meets seen.1 ⟨found, seen.2 found rfl, not_not.mp foreign⟩
  | none =>
      refine ⟨trivial, fun now clock eq => ?_⟩
      subst eq
      refine ⟨⟨rfl, now, rfl⟩, fun reply last eq => ?_⟩
      subst eq
      cases reply with
      | failed => exact ⟨seen.1, nofun⟩
      | cancelled => exact ⟨seen.1, nofun⟩
      | served acquired =>
          cases acquired with
          | true =>
              refine ⟨seen.1, fun _ => ⟨⟨clientId, some now, none, none⟩, ?_, rfl⟩⟩
              simp [Session.next, serializeClaim]
          | false =>
              change Meets _ _ _ (Coroutine.bind (loadClaim symbol) _)
              refine Meets.bind (loadClaim_meets seen.1) (fun winner third seen => ?_)
                fun _ _ seen => ⟨seen.1, nofun⟩
              cases winner with
              | none => exact ⟨seen.1, nofun⟩
              | some winner =>
                  dsimp only
                  split_ifs with foreign
                  · exact ⟨seen.1, nofun⟩
                  · exact ensureIndex_meets seen.1 ⟨winner, seen.2 winner rfl, not_not.mp foreign⟩

theorem authorizeClose_meets {clientId : String} {brokerState : BrokerSymbolState}
    (taken : session.fence = some (symbol, fence)) :
    Meets (sessionOf (.client clientId)) (Authorized symbol fence clientId) session
      (authorizeClose clientId symbol brokerState : Route Raw PyError Unit) := by
  refine Meets.bind (loadClaim_meets taken) (fun claim first seen => ?_)
    fun _ _ seen => ⟨seen.1, nofun⟩
  refine Meets.finish_bind (fun _ _ => ?_) fun _ _ => ⟨seen.1, nofun⟩
  split_ifs
  · exact ⟨seen.1, nofun⟩
  · exact ⟨seen.1, nofun⟩
  · cases claim with
    | none => exact ⟨seen.1, nofun⟩
    | some claim =>
        dsimp only
        split_ifs with foreign
        · exact ⟨seen.1, nofun⟩
        · exact ⟨seen.1, fun _ => ⟨claim, seen.2 claim rfl, not_not.mp foreign⟩⟩

theorem beginMutation_meets {clientId operation : String}
    (held : session.fence = some (symbol, fence)) (owns : session.Owns symbol clientId) :
    Meets (sessionOf (.client clientId)) (fun _ last => last.fence = some (symbol, fence)) session
      (beginMutation symbol operation : Route Raw PyError String) := by
  refine ⟨trivial, fun uuid drawn eq => ?_⟩
  subst eq
  refine ⟨⟨⟨fence, held⟩, clientId, rfl, owns⟩, fun reply last eq => ?_⟩
  subst eq
  cases reply with
  | failed => exact held
  | cancelled => exact held
  | served started =>
      cases started with
      | true => exact held
      | false =>
          change Meets _ _ _ (Coroutine.bind (loadClaim symbol) _)
          refine Meets.bind (loadClaim_meets held) (fun claim last seen => ?_)
            fun _ _ seen => seen.1
          cases claim <;> exact seen.1

theorem renewFence_meets {clientId token : String} (held : session.fence = some (symbol, fence))
    (owns : session.Owns symbol clientId) :
    Meets (sessionOf role) (fun _ last => last.fence = some (symbol, fence) ∧
      last.Owns symbol clientId) session
      (renewFence symbol token : Route Raw PyError Unit) := by
  refine ⟨trivial, fun reply last eq => ?_⟩
  subst eq
  cases reply with
  | served renewed => cases renewed <;> exact ⟨held, owns⟩
  | failed => exact ⟨held, owns⟩
  | cancelled => exact ⟨held, owns⟩

end Contract

/-! ## The write routes -/

section Routes

variable [ClaimText Raw] [Unicode] {settings : Settings} {w : FencedWrite Raw} {role : Role}
  {clientId symbol fence : String} {session : Session}

theorem uses_reconcile_routine :
    (reconcileBrokerSymbolState settings symbol).Uses
      (Routine role symbol fence : Command Raw → Prop) :=
  uses_reconcile trivial rfl trivial trivial

/-- What the protocol relies on in the values that a route fills in. -/
structure FencedWrite.Conforms (w : FencedWrite Raw) (clientId symbol : String) : Prop where
  /-- A successful authorization has seen the client's own claim. -/
  authorize : ∀ {fence session} brokerState, session.fence = some (symbol, fence) →
    Meets (sessionOf (.client clientId)) (Authorized symbol fence clientId) session
      (w.authorize brokerState)
  /-- The clean-up is routine. -/
  cleanUp : ∀ fence, (w.cleanUp fence).Uses (Routine (.client clientId) symbol fence)

theorem prepareWrite_meets (conforms : w.Conforms clientId symbol)
    (held : session.fence = some (symbol, fence)) :
    Meets (sessionOf (.client clientId)) (fun _ last => last.fence = some (symbol, fence)) session
      (prepareWrite settings w symbol fence) := by
  refine Meets.bind (routine_meets uses_reconcile_routine held) (fun brokerState _ held => ?_)
    fun _ _ held => held
  refine Meets.bind (conforms.authorize brokerState held) (fun _ _ authorized => ?_)
    fun _ _ authorized => authorized.1
  refine Meets.bind (renewFence_meets authorized.1 (authorized.2 rfl)) (fun _ _ renewed => ?_)
    fun _ _ renewed => renewed.1
  exact beginMutation_meets renewed.1 renewed.2

/-- The protocol after the marker is routine. -/
theorem guardedWrite_meets (conforms : w.Conforms clientId symbol)
    (held : session.fence = some (symbol, fence)) :
    Meets (sessionOf (.client clientId)) (fun _ last => last.fence = some (symbol, fence)) session
      (guardedWrite settings w clientId symbol fence) := by
  refine Meets.bind_kept (Meets.catching_kept (Meets.catching_kept
    (prepareWrite_meets conforms held) fun _ _ held => held) fun _ _ held => held)
    fun mutation _ held => ?_
  refine Meets.bind_kept (Meets.catching_kept
    (routine_meets (uses_dispatchWrite trivial trivial trivial) held) fun _ _ held => ?_)
    fun data _ held => ?_
  · exact routine_meets (uses_afterFailedWrite trivial (fun _ _ => trivial) trivial
      (conforms.cleanUp fence)) held
  · refine Meets.bind_kept (Meets.catching_kept (Meets.catching_kept (routine_meets
      (uses_confirmWrite trivial rfl trivial trivial trivial trivial) held) fun _ _ held => ?_)
      fun _ _ held => held) fun _ _ held => held
    exact routine_meets (uses_afterFailedConfirmation trivial fun _ _ => trivial) held

theorem fencedCall_meets (conforms : w.Conforms clientId symbol) (free : session.fence = none) :
    Meets (sessionOf (.client clientId)) (fun _ _ => True) session
      (fencedCall settings w clientId symbol) := by
  have fenced : Meets (sessionOf (.client clientId)) (Fencing symbol) session
      ((acquireFence symbol : Route Raw PyError String).catching fun error =>
        raise (rejectOwnership false [] error)) :=
    Meets.catching (acquireFence_meets free) (fun _ _ held => held) fun _ _ _ => nofun
  refine Meets.bind fenced (fun fence _ held => ?_) fun _ _ _ => trivial
  refine Meets.ensuring (Meets.catching_kept (guardedWrite_meets conforms (held fence rfl))
    fun _ _ held => routine_meets (uses_afterFailedBlock trivial fun _ _ => trivial) held)
    fun _ _ held => ?_
  refine (routine_meets (uses_releaseFence ⟨rfl, rfl⟩) held).mono fun outcome _ _ => ?_
  cases outcome <;> trivial

theorem fencedRoute_meets (conforms : w.Conforms clientId symbol) (free : session.fence = none) :
    Meets (sessionOf (.client clientId)) (fun _ _ => True) session
      (fencedRoute settings w clientId symbol) := by
  have admitted : Meets (sessionOf (.client clientId)) (fun _ last => last.fence = none) session
      (admission : Route Raw PyError Unit) :=
    preliminary_meets (uses_admission trivial trivial) free
  have inner : Meets (sessionOf (.client clientId)) (fun _ _ => True) session
      (executeAlpacaProviderCall (fencedCall settings w clientId symbol)) := by
    refine ⟨trivial, fun found last eq => ?_⟩
    subst eq
    cases found with
    | false => trivial
    | true =>
        exact Meets.catching_kept (Meets.bind admitted
          (fun _ _ free => fencedCall_meets conforms free) fun _ _ _ =>
            trivial) fun _ _ _ => trivial
  exact Meets.catching_kept inner fun _ _ _ =>
    anytime_meets (uses_afterFailedGate (fun _ => trivial) fun _ _ _ => trivial)

/-! ## The requests -/

theorem WriteRequest.Fills.conforms {request : WriteRequest}
    (fills : request.Fills settings clientId symbol w) : w.Conforms clientId symbol := by
  have undo : ∀ fence, (releaseClaimAfterUnappliedSubmission settings symbol fence clientId).Uses
      (Routine (.client clientId) symbol fence : Command Raw → Prop) := fun _ =>
    uses_releaseAfterUnapplied trivial rfl trivial trivial trivial trivial trivial
  cases fills with
  | create => exact ⟨fun _ held => authorizeSubmission_meets held, undo⟩
  | replace => exact ⟨fun _ held => authorizeSubmission_meets held, fun _ => trivial⟩
  | cancel => exact ⟨fun _ held => authorizeSubmission_meets held, fun _ => trivial⟩
  | close => exact ⟨fun _ held => authorizeClose_meets held, undo⟩

omit [Unicode] in
/-- A preliminary command is always allowed and takes no fence. -/
theorem Preliminary.free {command : Command Raw} (preliminary : Preliminary command)
    (free : session.fence = none) : session.may role command ∧
      ∀ reply next, next = session.next command reply → next.fence = none := by
  refine ⟨?_, fun reply next eq => ?_⟩
  · cases command with
    | store target op => exact preliminary.elim
    | getOrders target => exact preliminary.elim
    | _ => trivial
  · rw [eq, Session.next_fence ?_, free]
    rintro target token rfl
    exact preliminary

/-- Every request keeps the session contract. -/
theorem WriteRequest.serve_session (request : WriteRequest) :
    Meets (sessionOf (.client clientId)) (fun _ _ => True) Session.start
      (request.serve settings clientId : Route Raw PyError Answer) := by
  refine WriteRequest.serve_meets (A := fun session : Session => session.fence = none)
    (B := fun session => session.fence = none)
    (fun _ _ preliminary _ free => Preliminary.free preliminary free)
    (fun _ free => ⟨trivial, fun found next eq => ?_⟩)
    (fun _ free => ⟨trivial, fun _ _ eq => by rw [eq]; exact free⟩)
    (fun _ _ _ => trivial)
    (fun symbol w _ fills free =>
      (fencedRoute_meets fills.conforms free).mono fun outcome _ _ => ?_)
    rfl
  · subst eq
    cases found <;> exact free
  · cases outcome with
    | ok data => exact fun _ => trivial
    | error error => trivial

/-! ## The operator's command -/

/-- The fence is held, and a reported success has thawed the claim. -/
def Reporting (symbol fence : String) : Except PyError Nat → Session → Prop :=
  fun outcome last => last.fence = some (symbol, fence) ∧
    (outcome = .ok 0 → last.thawed = some symbol)

omit [Unicode] in
theorem thaw_meets {expected : StoredClaim Raw} {delete : Bool}
    (held : session.fence = some (symbol, fence)) :
    Meets (sessionOf .operator) (fun outcome last => last.fence = some (symbol, fence) ∧
      (outcome = .ok () → last.thawed = some symbol)) session
      (thaw symbol expected delete : Route Raw PyError Unit) := by
  refine ⟨⟨rfl, fence, held⟩, fun reply last eq => ?_⟩
  subst eq
  cases reply with
  | served thawed =>
      cases thawed with
      | true => exact ⟨held, fun _ => rfl⟩
      | false => exact ⟨held, nofun⟩
  | failed => exact ⟨held, nofun⟩
  | cancelled => exact ⟨held, nofun⟩

/-- Commands that end the operator's command. -/
def Closing (symbol fence : String) : Command Raw → Prop
  | .getClaim _ => True
  | .store target (.compareAndDeleteFence token) => target = symbol ∧ token = fence
  | _ => False

omit [Unicode] in
theorem closing_meets {α : Type} {body : Route Raw PyError α}
    (uses : body.Uses (Closing symbol fence)) (held : session.fence = some (symbol, fence)) :
    Meets (sessionOf role) (fun _ last => last.fence = some (symbol, fence) ∧
      last.thawed = session.thawed) session body := by
  refine uses.meets_inv ⟨held, rfl⟩ fun command current closing kept => ?_
  cases command with
  | getClaim target =>
      refine ⟨trivial, fun reply next eq => ?_⟩
      subst eq
      cases reply <;> exact kept
  | store target op =>
      cases op with
      | compareAndDeleteFence token =>
          obtain ⟨rfl, rfl⟩ := closing
          exact ⟨kept.1, fun reply next eq => eq ▸ kept⟩
      | _ => exact closing.elim
  | _ => exact closing.elim

theorem thawHeldClaim_meets {delete : Bool} (held : session.fence = some (symbol, fence)) :
    Meets (sessionOf .operator) (Reporting symbol fence) session
      (thawHeldClaim settings symbol fence delete : Route Raw PyError Nat) := by
  have keeps : ∀ {session : Session} {α : Type} {body : Route Raw PyError α},
      session.fence = some (symbol, fence) → body.Uses (Routine .operator symbol fence) →
      Meets (sessionOf .operator) (fun _ last => last.fence = some (symbol, fence)) session body :=
    fun held uses => routine_meets uses held
  refine Meets.bind (keeps held (uses_loadStoredClaim trivial)) (fun stored _ held => ?_)
    fun _ _ held => ⟨held, nofun⟩
  cases stored with
  | none => exact ⟨held, nofun⟩
  | some stored =>
      dsimp only
      split_ifs
      · exact ⟨held, nofun⟩
      · refine Meets.bind (keeps held uses_reconcile_routine) (fun brokerState _ held => ?_)
          fun _ _ held => ⟨held, nofun⟩
        split_ifs
        · refine Meets.bind (keeps held (uses_renewFence trivial)) (fun _ _ held => ?_)
            fun _ _ held => ⟨held, nofun⟩
          refine Meets.bind (thaw_meets held) (fun _ _ thawed => ?_)
            fun _ _ thawed => ⟨thawed.1, nofun⟩
          refine Meets.bind (closing_meets (uses_loadStoredClaim trivial) thawed.1)
            (fun _ _ kept => ⟨kept.1, fun _ => kept.2.trans (thawed.2 rfl)⟩)
            fun _ _ kept => ⟨kept.1, nofun⟩
        · exact ⟨held, nofun⟩

/-- The operator's command keeps the session contract, and only a thaw is reported as a success. -/
theorem thawClaim_session {given : String} {delete : Bool} :
    Meets (sessionOf .operator) (fun outcome last =>
      outcome = .ok 0 → ∃ symbol, last.thawed = some symbol) Session.start
      (thawClaim settings given delete : Route Raw PyError Nat) := by
  have refused : ∀ {error} {session : Session} {post : Except PyError Nat → Session → Prop},
      post (.ok 1) session → post (.error error) session →
      Meets (sessionOf .operator) post session (refuseThaw error : Route Raw PyError Nat) := by
    intro error session post answered raised
    unfold refuseThaw
    split_ifs
    · exact answered
    · exact raised
  refine ⟨trivial, fun date session eq => ?_⟩
  subst eq
  dsimp only
  split
  · exact nofun
  · rename_i canonical _
    refine Meets.resolve (acquireFence_meets rfl) fun outcome last fencing => ?_
    cases outcome with
    | error error => exact refused nofun nofun
    | ok fence =>
        have body : Meets (sessionOf .operator) (Reporting canonical fence) last
            ((thawHeldClaim settings canonical fence delete).catching refuseThaw) :=
          Meets.catching (thawHeldClaim_meets (fencing fence rfl)) (fun _ _ reported => reported)
            fun _ _ reported => refused ⟨reported.1, nofun⟩ ⟨reported.1, nofun⟩
        refine body.ensuring fun outcome last reported => ?_
        refine (closing_meets (uses_releaseFence ⟨rfl, rfl⟩) reported.1).mono
          fun released _ kept => ?_
        cases released with
        | ok _ => exact fun success => ⟨canonical, kept.2.trans (reported.2 success)⟩
        | error error => exact nofun

end Routes

/-! ## Runs of many requests -/

section Runs

variable {ι : Type} [DecidableEq ι] [DecidableEq Raw] [ClaimText Raw] {α : Type}

/-- The invariant rule for computations that keep the session contract. -/
theorem Reaches.sessions {P : Machine.Policy gateway} {role : ι → Role}
    {Inv : World ι Raw → (ι → Session) → Prop} {post : Except PyError α → Session → Prop}
    {initial final : Machine.Config ι (@Command.Reply Raw) PyError α (World ι Raw)}
    (act : ∀ world locals i command outcome reply after, Inv world locals →
      (locals i).may (role i) command → P.allows i command outcome world →
      performCommand i command outcome world = some (reply, after) →
      Inv after (Function.update locals i ((locals i).next command reply)))
    (calm : ∀ world locals move, Inv world locals → P.permits move world →
      Inv (Disturbance.apply move world) locals)
    (start : Inv initial.world fun _ => Session.start)
    (meets : ∀ i, Meets (sessionOf (role i)) post Session.start (initial.tasks i))
    (run : Machine.Reaches P initial final) : ∃ locals, Inv final.world locals ∧
      ∀ i, Meets (sessionOf (role i)) post (locals i) (final.tasks i) := by
  have step : ∀ world locals i command outcome reply after, Inv world locals →
      (sessionOf (role i)).may command (locals i) → P.allows i command outcome world →
      performCommand i command outcome world = some (reply, after) →
      ∃ next, (sessionOf (role i)).after command (locals i) reply next ∧
        Inv after (Function.update locals i next) :=
    fun world locals i command outcome reply after holds permitted allowed performed =>
      ⟨_, rfl, act world locals i command outcome reply after holds permitted allowed performed⟩
  exact run.invariant step calm start meets

end Runs

end Trading
end DataGateway
