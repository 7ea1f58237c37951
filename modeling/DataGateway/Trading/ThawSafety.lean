import DataGateway.Trading.Fencing
import DataGateway.Trading.MutualExclusion

/-!
# A thaw and the writes it could overtake

The operator's thaw takes the symbol's fence, which every write takes as well.  The fence protects a
write only as long as its lease lasts and its request keeps it: a request gives the fence back while
a timed-out or cancelled call is still running, and neither the call nor the thaw compares the fence
when it takes effect.
-/

namespace DataGateway
namespace Trading

open Coroutine Machine

variable {ι Raw : Type}

/-- The token holds the fence of the symbol before and after the command. -/
def Event.Under (event : Event ι Raw) (symbol token : String) : Prop :=
  (event.before symbol).fence = some token ∧ (event.after symbol).fence = some token

/-! ## When a thaw is safe -/

/-- No write dispatched under a marker that the thaw lifted is running. -/
def NothingOvertaken [ClaimText Raw] (running : List (ι × BrokerWrite)) (thaw : Event ι Raw)
    (earlier : List (Event ι Raw)) (symbol : String) : Prop :=
  ∀ marker ∈ (thaw.before symbol).marker, ∀ entry ∈ running, entry.2.symbol = symbol →
    ¬ Recorded Event.begun earlier (entry.1, symbol, marker)

/-- The fence has held one token of the task since before its reconciliation. -/
def HeldSince (history : List (Event ι Raw)) (i : ι) (symbol token : String) : Prop :=
  ∃ since before, history = since ++ before ∧
    Recorded Event.acquired before (i, symbol, token) ∧
    (∀ event ∈ since, event.Under symbol token) ∧
    ¬ Recorded Event.reconciles before (i, symbol)

/-- From the reconciliation to the thaw, the fence held the token with which the task took it. -/
def HeldThroughout (thaw : Event ι Raw) (earlier : List (Event ι Raw)) (symbol : String) : Prop :=
  ∃ token, (thaw.before symbol).fence = some token ∧ HeldSince earlier thaw.actor symbol token

/-- Every thaw of the history is safe. -/
def ThawsSafe [ClaimText Raw] (world : World ι Raw) : Prop :=
  ∀ later thaw earlier symbol, world.history = later ++ thaw :: earlier →
    thaw.thawed = some (thaw.actor, symbol) →
    NothingOvertaken world.running thaw earlier symbol ∧ HeldThroughout thaw earlier symbol

/-! ## Keeping the fence -/

/-- The symbol whose fence the command relies on. -/
def Command.reliesOn : Command Raw → Option String
  | .submit write => some write.symbol
  | .store symbol (.thawClaim _ _ _) => some symbol
  | _ => none

/-- The symbol whose fence the command gives up. -/
def Command.givesUp : Command Raw → Option String
  | .store symbol (.compareAndDeleteFence _) => some symbol
  | _ => none

/-- The symbol whose lease expires. -/
def Disturbance.lapses : Disturbance ι → Option String
  | .lapse symbol => some symbol
  | .settle _ _ => none

/-- A write and a thaw start under a fence that their task still holds, no lease expires under a
running write, and no task gives up the fence of its own running write. -/
def keepsFences [DecidableEq ι] [DecidableEq Raw] [ClaimText Raw] :
    Policy (gateway : Machine ι (@Command.Reply Raw) (World ι Raw)) where
  allows i command _ world :=
    (∀ symbol ∈ command.reliesOn, world.Holds i symbol) ∧
      ∀ symbol ∈ command.givesUp, ∀ entry ∈ world.running, entry.1 = i →
        entry.2.symbol ≠ symbol
  permits move world :=
    ∀ symbol ∈ Disturbance.lapses move, ∀ entry ∈ world.running, entry.2.symbol ≠ symbol

variable [DecidableEq ι] [DecidableEq Raw] [ClaimText Raw]

instance (world : World ι Raw) (i : ι) (symbol : String) : Decidable (world.Holds i symbol) :=
  inferInstanceAs (Decidable (∃ _ ∈ _, Recorded _ _ _))

instance :
    (keepsFences : Policy (gateway : Machine ι (@Command.Reply Raw) (World ι Raw))).Decides :=
  ⟨fun _ _ _ _ => inferInstanceAs (Decidable ((∀ _ ∈ _, World.Holds _ _ _) ∧
      ∀ _ ∈ _, ∀ _ ∈ _, _ → _ ≠ _)),
    fun _ _ => inferInstanceAs (Decidable (∀ _ ∈ _, ∀ _ ∈ _, _ ≠ _))⟩

/-- What every state keeps about fences, running writes and thaws. -/
structure Protected (role : ι → Role) (world : World ι Raw) (locals : ι → Session) : Prop where
  /-- Tokens belong to tasks. -/
  owned : TokensOwned world locals
  /-- A task reconciles under a fence it took. -/
  reconciled : ∀ i symbol, Recorded Event.reconciles world.history (i, symbol) →
    (locals i).Took symbol
  /-- Only clients set markers, under a fence they took. -/
  marked : ∀ i symbol token, Recorded Event.begun world.history (i, symbol, token) →
    (locals i).Took symbol ∧ role i ≠ .operator
  /-- A fence that is held has been held since before the reconciliation. -/
  held : ∀ i symbol token, Recorded Event.acquired world.history (i, symbol, token) →
    (world.cells symbol).fence = some token → HeldSince world.history i symbol token
  /-- A running write is protected by the fence of its task. -/
  running : ∀ entry ∈ world.running, world.Holds entry.1 entry.2.symbol
  /-- Whoever set a marker before a thaw has lost its fence. -/
  lost : ∀ later thaw earlier symbol, world.history = later ++ thaw :: earlier →
    thaw.thawed = some (thaw.actor, symbol) →
    ∀ i token, Recorded Event.begun earlier (i, symbol, token) → ¬ world.Holds i symbol
  /-- Every thaw happened under its own fence. -/
  thaws : ∀ later thaw earlier symbol, world.history = later ++ thaw :: earlier →
    thaw.thawed = some (thaw.actor, symbol) → HeldThroughout thaw earlier symbol
  /-- A session that knows of a thaw performed it. -/
  reported : ∀ i symbol, (locals i).thawed = some symbol →
    Recorded Event.thawed world.history (i, symbol)

omit [DecidableEq ι] [DecidableEq Raw] in
theorem Protected.safe {role : ι → Role} {world : World ι Raw} {locals : ι → Session}
    (keeps : Protected role world locals) : ThawsSafe world := by
  intro later thaw earlier symbol split thawed
  refine ⟨fun marker _ entry running on begun => ?_,
    keeps.thaws later thaw earlier symbol split thawed⟩
  refine keeps.lost later thaw earlier symbol split thawed entry.1 marker begun ?_
  rw [← on]
  exact keeps.running entry running

omit [ClaimText Raw] in
/-- Only a submission adds a running write. -/
theorem performCommand_running [ClaimText Raw] {i : ι} {command : Command Raw}
    {outcome : command.Outcome} {world after : World ι Raw} {reply : command.Reply}
    (performed : performCommand i command outcome world = some (reply, after))
    {entry : ι × BrokerWrite} (running : entry ∈ after.running) :
    entry ∈ world.running ∨ ∃ write, command = .submit write ∧ entry = (i, write) := by
  cases command with
  | uuid4 =>
      simp only [performCommand] at performed
      split at performed
      · cases performed
      · obtain ⟨-, rfl⟩ := Prod.mk.inj (Option.some.inj performed)
        exact .inl running
  | submit write =>
      obtain ⟨-, rfl⟩ := Prod.mk.inj (Option.some.inj performed)
      rcases List.mem_cons.mp running with rfl | old
      · exact .inr ⟨write, rfl, rfl⟩
      · exact .inl old
  | awaitReply write =>
      obtain ⟨-, rfl⟩ := Prod.mk.inj (Option.some.inj performed)
      simp only at running
      split_ifs at running
      · exact .inl (List.mem_of_mem_erase running)
      · exact .inl running
  | _ =>
      obtain ⟨-, rfl⟩ := Prod.mk.inj (Option.some.inj performed)
      exact .inl running

namespace Protected

variable {role : ι → Role} {world after : World ι Raw} {locals : ι → Session} {i : ι}
  {command : Command Raw} {outcome : command.Outcome} {reply : command.Reply}

omit [DecidableEq ι] [DecidableEq Raw] [ClaimText Raw] in
/-- A fence that is still in the key is still held. -/
theorem holds_mono {event : Event ι Raw} (recorded : after.history = event :: world.history)
    {j : ι} {symbol : String} (holds : world.Holds j symbol)
    (same : (after.cells symbol).fence = (world.cells symbol).fence) : after.Holds j symbol := by
  obtain ⟨token, now, taken⟩ := holds
  refine ⟨token, by rw [same]; exact now, ?_⟩
  rw [recorded, recorded_cons]
  exact .inr taken

/-- A running write stays protected: nobody else can give up its fence, and its task may not. -/
theorem running_step (keeps : Protected role world locals)
    (permitted : (locals i).may (role i) command)
    (allowed : keepsFences.allows i command outcome world)
    (performed : performCommand i command outcome world = some (reply, after)) :
    ∀ entry ∈ after.running, after.Holds entry.1 entry.2.symbol := by
  obtain ⟨recorded, step⟩ := performCommand_record performed
  intro entry running
  rcases performCommand_running performed running with old | ⟨write, rfl, rfl⟩
  · have holds := keeps.running entry old
    refine holds_mono recorded holds ?_
    obtain ⟨token, now, taken⟩ := holds
    have effect := step.fence entry.2.symbol
    generalize after.cells entry.2.symbol = cell at *
    generalize symbolEq : entry.2.symbol = symbol at *
    cases effect with
    | kept same => exact same
    | taken free _ =>
        rw [free] at now
        cases now
    | @released given held _ =>
        obtain rfl : given = token := by simpa [held] using now
        have mine := keeps.owned.unique ((keeps.owned.fence i _).mp permitted) taken
        exact absurd symbolEq (allowed.2 symbol rfl entry old mine.symm)
  · refine holds_mono recorded (allowed.1 write.symbol rfl) ?_
    cases step with
    | other _ same => rw [same]

/-- Holding a fence since before the reconciliation goes on as long as the fence does. -/
theorem held_step (keeps : Protected role world locals)
    (permitted : (locals i).may (role i) command)
    (performed : performCommand i command outcome world = some (reply, after)) (j : ι)
    (symbol token : String)
    (taken : Recorded Event.acquired after.history (j, symbol, token))
    (now : (after.cells symbol).fence = some token) : HeldSince after.history j symbol token := by
  obtain ⟨recorded, step⟩ := performCommand_record performed
  rw [recorded] at taken ⊢
  rcases recorded_cons.mp taken with new | old
  · -- the fence was just taken, and its task has not reconciled yet
    obtain ⟨rfl, rfl⟩ := Event.acquired_actor new
    refine ⟨[], _, rfl, taken, nofun, fun reconciled => ?_⟩
    rcases recorded_cons.mp reconciled with here | before
    · cases (Event.reconciles_command here).2
    · obtain ⟨other, fenced⟩ := keeps.reconciled _ _ before
      rw [permitted.1] at fenced
      cases fenced
  · have held := keeps.owned.lost permitted step old now
    obtain ⟨since, before, split, acquired, under, fresh⟩ := keeps.held j symbol token old held
    refine ⟨_ :: since, before, by rw [split]; rfl, acquired, ?_, fresh⟩
    rintro event (_ | ⟨_, earlier⟩)
    · exact ⟨held, now⟩
    · exact under event earlier

/-- Who lost its fence to a thaw does not get it back. -/
theorem lost_step (keeps : Protected role world locals)
    (permitted : (locals i).may (role i) command)
    (allowed : keepsFences.allows i command outcome world)
    (performed : performCommand i command outcome world = some (reply, after))
    (later : List (Event ι Raw)) (thaw : Event ι Raw) (earlier : List (Event ι Raw))
    (symbol : String) (split : after.history = later ++ thaw :: earlier)
    (thawed : thaw.thawed = some (thaw.actor, symbol)) (j : ι) (token : String)
    (begun : Recorded Event.begun earlier (j, symbol, token)) : ¬ after.Holds j symbol := by
  obtain ⟨recorded, step⟩ := performCommand_record performed
  rw [recorded] at split
  rintro ⟨held, now, taken⟩
  rw [recorded] at taken
  cases later with
  | nil =>
      -- the thaw itself: the operator holds the fence, and the marker is a client's
      obtain ⟨rfl, rfl⟩ := List.cons.inj split
      obtain ⟨-, expected, delete, owner, rfl⟩ := Event.thawed_command thawed
      obtain ⟨mine, nowMine, takenMine⟩ := allowed.1 symbol rfl
      have same : (after.cells symbol).fence = (world.cells symbol).fence := by
        have effect := step.fence symbol
        generalize after.cells symbol = cell at *
        cases effect with
        | kept same => exact same
      obtain rfl : held = mine := by
        rw [same] at now
        exact Option.some.inj (now.symm.trans nowMine)
      rcases recorded_cons.mp taken with new | old
      · cases new
      · exact (keeps.marked j symbol token begun).2
          (keeps.owned.unique takenMine old ▸ permitted.1)
  | cons event later =>
      have rest : world.history = later ++ thaw :: earlier := (List.cons.inj split).2
      have before : Recorded Event.begun world.history (j, symbol, token) := by
        obtain ⟨event, mem, reading⟩ := begun
        exact ⟨event, by rw [rest]; simp [mem], reading⟩
      rcases recorded_cons.mp taken with new | old
      · obtain ⟨rfl, rfl⟩ := Event.acquired_actor new
        obtain ⟨other, fenced⟩ := (keeps.marked _ _ _ before).1
        rw [permitted.1] at fenced
        cases fenced
      · exact keeps.lost later thaw earlier symbol rest thawed j token begun
          ⟨held, keeps.owned.lost permitted step old now, old⟩

/-- A thaw is performed under a fence that has been held since before the reconciliation. -/
theorem thaws_step (keeps : Protected role world locals)
    (allowed : keepsFences.allows i command outcome world)
    (performed : performCommand i command outcome world = some (reply, after))
    (later : List (Event ι Raw)) (thaw : Event ι Raw) (earlier : List (Event ι Raw))
    (symbol : String) (split : after.history = later ++ thaw :: earlier)
    (thawed : thaw.thawed = some (thaw.actor, symbol)) : HeldThroughout thaw earlier symbol := by
  rw [(performCommand_record performed).1] at split
  cases later with
  | nil =>
      obtain ⟨rfl, rfl⟩ := List.cons.inj split
      obtain ⟨-, expected, delete, owner, rfl⟩ := Event.thawed_command thawed
      obtain ⟨token, now, taken⟩ := allowed.1 symbol rfl
      exact ⟨token, now, keeps.held i symbol token taken now⟩
  | cons event later =>
      exact keeps.thaws later thaw earlier symbol (List.cons.inj split).2 thawed

omit [DecidableEq ι] [DecidableEq Raw] in
theorem next_thawed {session : Session} {symbol : String} {before after : String → Cell Raw}
    (known : (session.next command reply).thawed = some symbol) :
    session.thawed = some symbol ∨
      Event.thawed ⟨i, command, reply, before, after⟩ = some (i, symbol) := by
  cases command with
  | store target op =>
      cases op with
      | acquireFence token | claimAndIndex owner raw =>
          cases reply with
          | served ok => cases ok <;> exact .inl known
          | failed => exact .inl known
          | cancelled => exact .inl known
      | thawClaim expected delete owner =>
          cases reply with
          | served ok =>
              cases ok with
              | true => exact .inr (congrArg (Option.map (Prod.mk i)) known)
              | false => exact .inl known
          | failed => exact .inl known
          | cancelled => exact .inl known
      | _ => exact .inl known
  | getClaim target => cases reply <;> exact .inl known
  | _ => exact .inl known

/-- One command keeps everything protected. -/
theorem step (keeps : Protected role world locals)
    (permitted : (locals i).may (role i) command)
    (allowed : keepsFences.allows i command outcome world)
    (performed : performCommand i command outcome world = some (reply, after)) :
    Protected role after (Function.update locals i ((locals i).next command reply)) := by
  have owned := keeps.owned.step permitted performed
  have recorded := (performCommand_record performed).1
  have took : ∀ {j symbol}, (locals j).Took symbol →
      (Function.update locals i ((locals i).next command reply) j).Took symbol :=
    keeps.owned.took_mono owned recorded
  refine ⟨owned, fun j symbol reconciled => ?_, fun j symbol token begun => ?_,
    keeps.held_step permitted performed, keeps.running_step permitted allowed performed,
    keeps.lost_step permitted allowed performed, keeps.thaws_step allowed performed,
    fun j symbol known => ?_⟩
  · rw [recorded, recorded_cons] at reconciled
    rcases reconciled with new | old
    · obtain ⟨rfl, rfl⟩ := Event.reconciles_command new
      exact took permitted
    · exact took (keeps.reconciled j symbol old)
  · rw [recorded, recorded_cons] at begun
    rcases begun with new | old
    · obtain ⟨rfl, rfl⟩ := Event.begun_command new
      obtain ⟨fenced, client, isClient, -⟩ := permitted
      exact ⟨took fenced, by rw [isClient]; exact nofun⟩
    · exact ⟨took (keeps.marked j symbol token old).1, (keeps.marked j symbol token old).2⟩
  · rw [recorded, recorded_cons]
    by_cases mine : j = i
    · subst mine
      rw [Function.update_self] at known
      rcases next_thawed known with old | new
      · exact .inr (keeps.reported j symbol old)
      · exact .inl new
    · rw [Function.update_of_ne mine] at known
      exact .inr (keeps.reported j symbol known)

omit [DecidableEq Raw] [ClaimText Raw] in
/-- An expired lease only frees fences. -/
theorem fence_of_disturb {move : Disturbance ι} {symbol token : String}
    (now : ((Disturbance.apply move world).cells symbol).fence = some token) :
    (world.cells symbol).fence = some token := by
  cases move with
  | lapse target =>
      by_cases same : symbol = target
      · subst same
        simp [Disturbance.apply] at now
      · simpa [Disturbance.apply, Function.update_of_ne same] using now
  | settle actor write => exact now

/-- The environment keeps everything protected. -/
theorem disturb (keeps : Protected role world locals) {move : Disturbance ι}
    (permitted : keepsFences.permits move world) :
    Protected role (Disturbance.apply move world) locals := by
  have history : (Disturbance.apply move world).history = world.history := Disturbance.history
  have issued : (Disturbance.apply move world).issued = world.issued := by cases move <;> rfl
  have holds : ∀ {j symbol}, (Disturbance.apply move world).Holds j symbol →
      world.Holds j symbol := by
    rintro j symbol ⟨token, now, taken⟩
    exact ⟨token, fence_of_disturb now, history ▸ taken⟩
  refine ⟨⟨?_, ?_, ?_, ?_, ?_⟩, ?_, ?_, fun j symbol token taken now => ?_,
    fun entry running => ?_,
    fun later thaw earlier symbol split thawed j token begun held => ?_, ?_, ?_⟩
  · simpa only [history, issued] using keeps.owned.issued
  · simpa only [history] using keeps.owned.once
  · simpa only [history] using keeps.owned.uuid
  · simpa only [history] using keeps.owned.fence
  · simpa only [history] using keeps.owned.token
  · simpa only [history] using keeps.reconciled
  · simpa only [history] using keeps.marked
  · rw [history] at taken ⊢
    exact keeps.held j symbol token taken (fence_of_disturb now)
  · cases move with
    | lapse target =>
        obtain ⟨token, now, taken⟩ := keeps.running entry running
        have other : entry.2.symbol ≠ target := permitted target rfl entry running
        exact ⟨token, by simpa [Disturbance.apply, Function.update_of_ne other] using now, taken⟩
    | settle actor write => exact keeps.running entry (List.mem_of_mem_erase running)
  · rw [history] at split
    exact keeps.lost later thaw earlier symbol split thawed j token begun (holds held)
  · simpa only [history] using keeps.thaws
  · simpa only [history] using keeps.reported

end Protected

/-! ## Requests and thaws together -/

/-- A request of a client, or the operator's command. -/
inductive Job
  /-- A client's request. -/
  | write (clientId : String) (request : WriteRequest)
  /-- `thaw_claim`. -/
  | thaw (symbol : String) (delete : Bool)
  deriving DecidableEq

/-- Who runs the job. -/
def Job.role : Job → Role
  | .write clientId _ => .client clientId
  | .thaw _ _ => .operator

/-- The job: an answer, or the exit status of the command. -/
def Job.run [Unicode] (settings : Settings) : Job → Route Raw PyError (Answer ⊕ Nat)
  | .write clientId request =>
      (request.serve settings clientId).bind fun answer => .finish (.ok (.inl answer))
  | .thaw symbol delete =>
      (thawClaim settings symbol delete).bind fun status => .finish (.ok (.inr status))

omit [DecidableEq Raw] in
/-- Every job keeps the session contract, and only a thaw is reported as a success. -/
theorem Job.session [Unicode] {settings : Settings} (job : Job) :
    Meets (sessionOf job.role) (fun outcome last =>
      outcome = .ok (.inr 0) → ∃ symbol, last.thawed = some symbol) Session.start
      (job.run settings : Route Raw PyError (Answer ⊕ Nat)) := by
  cases job with
  | write clientId request =>
      change Meets _ _ _ (Coroutine.bind _ _)
      exact Meets.bind request.serve_session (fun _ _ _ same => by cases same)
        fun _ _ _ same => by cases same
  | thaw symbol delete =>
      change Meets _ _ _ (Coroutine.bind _ _)
      refine Meets.bind thawClaim_session (fun status last reported => ?_)
        fun _ _ _ same => by cases same
      exact fun same => reported (by rw [Sum.inr.inj (Except.ok.inj same)])

/-- The jobs, started with nothing recorded and no write running. -/
def working [Unicode] (settings : Settings) (jobs : ι → Job) (cells : String → Cell Raw)
    (issued : List Uuid) : Config ι (@Command.Reply Raw) PyError (Answer ⊕ Nat) (World ι Raw) :=
  ⟨⟨cells, issued, [], []⟩, fun i => (jobs i).run settings⟩

/-- While writes and thaws start under a fence that is still held and no fence is lost under a
running write, every thaw is safe in every interleaving of any requests and thaws; and a command
that reports success has thawed a claim. -/
theorem thaws_are_safe [Unicode] {settings : Settings} {jobs : ι → Job} {cells : String → Cell Raw}
    {issued : List Uuid}
    {final : Config ι (@Command.Reply Raw) PyError (Answer ⊕ Nat) (World ι Raw)}
    (run : Reaches keepsFences (working settings jobs cells issued) final) :
    ThawsSafe final.world ∧ ∀ i, final.tasks i = .finish (.ok (.inr 0)) →
      ∃ symbol, Recorded Event.thawed final.world.history (i, symbol) := by
  have start : Protected (fun i => (jobs i).role)
      (⟨cells, issued, [], []⟩ : World ι Raw) fun _ => Session.start := by
    have none : ∀ {β : Type} {reading : Event ι Raw → Option β} {value : β},
        ¬ Recorded reading [] value := fun ⟨_, mem, _⟩ => nomatch mem
    refine ⟨⟨fun _ _ drew => absurd drew none, fun _ _ _ drew => absurd drew none, nofun,
      fun _ _ => ⟨nofun, fun taken => absurd taken none⟩, fun _ _ _ taken => absurd taken none⟩,
      fun _ _ read => absurd read none, fun _ _ _ begun => absurd begun none,
      fun _ _ _ taken => absurd taken none, nofun, fun later _ _ _ split => ?_,
      fun later _ _ _ split => ?_, nofun⟩ <;> cases later <;> cases split
  obtain ⟨locals, keeps, ends⟩ := Reaches.sessions
    (fun _ _ _ _ _ _ _ keeps permitted allowed performed => keeps.step permitted allowed performed)
    (fun _ _ _ keeps permitted => keeps.disturb permitted) start (fun i => (jobs i).session) run
  refine ⟨keeps.safe, fun i finished => ?_⟩
  have ended := ends i
  rw [finished] at ended
  obtain ⟨symbol, thawed⟩ := ended rfl
  exact ⟨symbol, keeps.reported i symbol thawed⟩

/-! ## A thaw over a running write -/

/-- Turns of a request and a thaw. -/
abbrev JobTurn :=
  Turn (gateway : Machine (Fin 2) (@Command.Reply PlainText) (World (Fin 2) PlainText))

/-- A request of the client `atlas` on its own symbol, and the operator's thaw of that symbol. -/
def writeAndThaw :
    Config (Fin 2) (@Command.Reply PlainText) PyError (Answer ⊕ Nat) (World (Fin 2) PlainText) :=
  let _ := asciiUnicode
  working ⟨100, ["atlas"]⟩
    (fun i => if i = 0 then .write "atlas" (.create "AAPL" (some "retry")) else .thaw "AAPL" false)
    (fun _ => ⟨some (.python ⟨"atlas", none, none, none⟩), none, ["atlas"]⟩) []

/-- Consecutive calm turns of one job, which draws one identifier. -/
def jobTurns (count : Nat) (i : Fin 2) (digit : Char) : List JobTurn :=
  List.replicate count (.run i (calmly (Uuid.repeating digit) atlasOrders))

/-- The request sets its marker, submits and is answered; it freezes the claim and gives the fence
back, and the operator thaws the claim. -/
def thawAfter (answer : SdkReply String) : List JobTurn :=
  let answered : JobTurn := .run 0 fun
    | .awaitReply _ => answer
    | command => calmly (Uuid.repeating '0') [] command
  jobTurns 16 0 '1' ++ jobTurns 4 0 '2' ++ [answered] ++ jobTurns 5 0 '2' ++ jobTurns 13 1 '3'

set_option maxRecDepth 4000 in
/-- The call ended with an exception before the thaw. -/
theorem thaws_are_safe_raised :
    ∃ final, writeAndThaw.play keepsFences (thawAfter (.raised (.other "reset"))) = some final ∧
      ThawsSafe final.world ∧ ∀ i, final.tasks i = .finish (.ok (.inr 0)) →
        ∃ symbol, Recorded Event.thawed final.world.history (i, symbol) := by
  have played : (writeAndThaw.play keepsFences
      (thawAfter (.raised (.other "reset")))).isSome := by decide
  obtain ⟨final, ran⟩ := Option.isSome_iff_exists.mp played
  let _ := asciiUnicode
  exact ⟨final, ran, thaws_are_safe (Config.play_reaches ran)⟩

/-- The newest thaw of the symbol lifted the marker of a write that is running. -/
def overtakes (world : World (Fin 2) PlainText) (symbol : String) : Bool :=
  match world.history.dropWhile fun event => event.thawed.isNone with
  | [] => false
  | thaw :: earlier => thaw.thawed = some (thaw.actor, symbol) ∧
      ∃ marker ∈ (thaw.before symbol).marker, ∃ entry ∈ world.running,
        entry.2.symbol = symbol ∧ Recorded Event.begun earlier (entry.1, symbol, marker)

theorem not_thawsSafe_of_overtakes {world : World (Fin 2) PlainText} {symbol : String}
    (overtaken : overtakes world symbol = true) : ¬ ThawsSafe world := by
  intro safe
  unfold overtakes at overtaken
  split at overtaken
  · cases overtaken
  · rename_i thaw earlier dropped
    obtain ⟨thawed, marker, marked, entry, running, on, begun⟩ := of_decide_eq_true overtaken
    have split := List.takeWhile_append_dropWhile (p := fun event => event.thawed.isNone)
      (l := world.history)
    rw [dropped] at split
    exact (safe _ thaw earlier symbol split.symm thawed).1 marker marked entry running on begun

/-- The thaw command exits with success. -/
def exitsWithSuccess : Coroutine (@Command.Reply PlainText) PyError (Answer ⊕ Nat) → Bool
  | .finish (.ok (.inr code)) => code = 0
  | _ => false

theorem eq_of_exitsWithSuccess {task : Coroutine (@Command.Reply PlainText) PyError (Answer ⊕ Nat)}
    (success : exitsWithSuccess task = true) : task = .finish (.ok (.inr 0)) := by
  unfold exitsWithSuccess at success
  split at success
  · rw [of_decide_eq_true success]
  · cases success

set_option maxRecDepth 4000 in
/-- The wait timed out, and the call was running when the thaw lifted its marker. -/
theorem thaw_overtakes_write :
    ∃ final, Reaches (Policy.free gateway) writeAndThaw final ∧
      final.tasks 1 = .finish (.ok (.inr 0)) ∧ ¬ ThawsSafe final.world := by
  have played : (writeAndThaw.play (Policy.free gateway) (thawAfter .timedOut)).map (fun final =>
      exitsWithSuccess (final.tasks 1) && overtakes final.world "AAPL") = some true := by decide
  obtain ⟨final, ran, both⟩ := Option.map_eq_some_iff.mp played
  obtain ⟨success, overtaken⟩ := (Bool.and_eq_true ..).mp both
  exact ⟨final, Config.play_reaches ran, eq_of_exitsWithSuccess success,
    not_thawsSafe_of_overtakes overtaken⟩

end Trading
end DataGateway
