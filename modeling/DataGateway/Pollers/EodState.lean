import DataGateway.Coroutine.Interleaving

/-!
# End-of-day runs over one state file

Pollers that share a state file claim a trading date before they poll it, and mark it completed
afterwards.  The claim is made by a worker thread, which goes on when the run that waits for it is
cancelled.  A run that fails or is cancelled releases the date that the wall clock then shows,
whether or not it had claimed that date.
-/

namespace DataGateway
namespace Pollers

/-- `status`. -/
inductive EodStatus
  | running
  | completed
  deriving DecidableEq

/-- `UwEodRunState`, with the trading dates numbered in order and the times in microseconds. -/
structure UwEodRunState where
  tradingDate : Nat
  status : EodStatus
  startedAt : Int
  completedAt : Option Int
  deriving DecidableEq

/-- What stays the same: when a running state is stale, and the date in New York at an instant. -/
structure EodSettings where
  staleAfterSeconds : Int
  day : Int → Nat

/-- A time has passed that makes a running state stale. -/
abbrev EodSettings.StaleSince (settings : EodSettings) (now startedAt : Int) : Prop :=
  settings.staleAfterSeconds * 1000000 < now - startedAt

/-- What `claim` decides from the state that it reads. -/
def EodSettings.mayClaim (settings : EodSettings) (now : Int) (tradingDate : Nat) :
    Option UwEodRunState → Bool
  | none => true
  | some state =>
      if state.tradingDate = tradingDate then
        if state.status = .completed then false else settings.StaleSince now state.startedAt
      else true

/-- What `release` decides from the state that it reads. -/
def releases (tradingDate : Nat) (state : UwEodRunState) : Bool :=
  state.tradingDate = tradingDate ∧ state.status = .running

/-- What `mark_completed` writes. -/
def completedState (now : Int) (tradingDate : Nat) (state : Option UwEodRunState) : UwEodRunState :=
  let startedAt := match state with
    | some state => if state.tradingDate = tradingDate then state.startedAt else now
    | none => now
  ⟨tradingDate, .completed, startedAt, some now⟩

/-- How a run or a claim ends other than by returning. -/
inductive EodError
  | cancelled
  | failed
  deriving DecidableEq

/-- A claim given to a worker thread, with what it came to. -/
structure ClaimThread (Poller : Type) where
  poller : Poller
  tradingDate : Nat
  result : Option (Except EodError Bool)

/-- What happens to the state file. -/
inductive EodEvent (Poller : Type)
  | granted (poller : Poller) (tradingDate : Nat) (now : Int)
  /-- A release, with the poller whose state it removed. -/
  | released (poller : Poller) (tradingDate : Nat) (removed : Option Poller)
  | completed (poller : Poller) (tradingDate : Nat)
  deriving DecidableEq

/-- The state file, the threads and the clock. -/
structure EodWorld (Poller : Type) where
  clock : Int
  /-- The state, with the poller that wrote it. -/
  file : Option (UwEodRunState × Poller)
  threads : List (ClaimThread Poller)
  /-- The newest first. -/
  history : List (EodEvent Poller)

/-- What a run does at once, up to its next wait. -/
inductive EodCommand
  /-- `datetime.now(ET)`. -/
  | today
  /-- Whether there are a provider and a ticker universe. -/
  | initialized
  /-- `asyncio.to_thread(self._eod_state.claim, today_str)`. -/
  | submitClaim (tradingDate : Nat)
  | awaitClaim (thread : Nat)
  /-- Everything between the claim and the mark. -/
  | pollTickers
  | markCompleted (tradingDate : Nat)
  | release (tradingDate : Nat)

/-- What the run learns. -/
@[reducible] def EodCommand.Reply : EodCommand → Type
  | .today => Nat
  | .initialized => Bool
  | .submitClaim _ => Nat
  | .awaitClaim _ => Except EodError Bool
  | .pollTickers | .markCompleted _ | .release _ => Except EodError Unit

/-- What the surroundings decide: an error, that the run is cancelled, or whether the state file can
be read where a call of the store does not raise. -/
@[reducible] def EodCommand.Outcome : EodCommand → Type
  | .initialized => Bool
  | .awaitClaim _ => Bool
  | .pollTickers => Option EodError
  | .markCompleted _ | .release _ => Option Bool
  | _ => Unit

/-- A moment passes, or a thread runs its claim: `none` raises, and `some false` cannot read a file
that is there. -/
inductive EodDisturbance
  | tick (microseconds : Nat)
  | runClaim (thread : Nat) (outcome : Option Bool)

namespace EodWorld

variable {Poller : Type}

/-- `_read_state`. -/
def readState (world : EodWorld Poller) (readable : Bool) : Option UwEodRunState :=
  if readable then world.file.map Prod.fst else none

/-- A thread has come to an end. -/
def settle (world : EodWorld Poller) (thread : Nat) (result : Except EodError Bool) :
    EodWorld Poller :=
  { world with threads := world.threads.modify thread fun entry => { entry with result := result } }

/-- A running state is written. -/
def grant (world : EodWorld Poller) (poller : Poller) (tradingDate : Nat) : EodWorld Poller :=
  { world with
    file := some (⟨tradingDate, .running, world.clock, none⟩, poller)
    history := .granted poller tradingDate world.clock :: world.history }

/-- Perform a command of a run. -/
def act {Job : Type} (settings : EodSettings) (run : Poller × Job) (world : EodWorld Poller) :
    (command : EodCommand) → command.Outcome → Option (command.Reply × EodWorld Poller)
  | .today, _ => some (settings.day world.clock, world)
  | .initialized, ready => some (ready, world)
  | .submitClaim tradingDate, _ =>
      some (world.threads.length,
        { world with threads := world.threads ++ [⟨run.1, tradingDate, none⟩] })
  | .awaitClaim thread, cancelled =>
      if cancelled then some (.error .cancelled, world)
      else (world.threads[thread]?.bind ClaimThread.result).map fun result => (result, world)
  | .pollTickers, none => some (.ok (), world)
  | .pollTickers, some error => some (.error error, world)
  | .markCompleted _, none => some (.error .failed, world)
  | .markCompleted tradingDate, some readable =>
      some (.ok (),
        { world with
          file := some (completedState world.clock tradingDate (world.readState readable), run.1)
          history := .completed run.1 tradingDate :: world.history })
  | .release _, none => some (.error .failed, world)
  | .release tradingDate, some readable =>
      some (.ok (),
        if (world.readState readable).any (releases tradingDate) then
          { world with
            file := none
            history := .released run.1 tradingDate (world.file.map Prod.snd) :: world.history }
        else { world with history := .released run.1 tradingDate none :: world.history })

/-- A thread that has not come to an end runs `claim`. -/
def runClaim (settings : EodSettings) (world : EodWorld Poller) (thread : Nat)
    (outcome : Option Bool) : EodWorld Poller :=
  match world.threads[thread]? with
  | some ⟨poller, tradingDate, none⟩ =>
      match outcome with
      | none => world.settle thread (.error .failed)
      | some readable =>
          if settings.mayClaim world.clock tradingDate (world.readState readable) then
            (world.grant poller tradingDate).settle thread (.ok true)
          else world.settle thread (.ok false)
  | _ => world

/-- What the surroundings do. -/
def disturb (settings : EodSettings) : EodDisturbance → EodWorld Poller → EodWorld Poller
  | .tick microseconds, world => { world with clock := world.clock + microseconds }
  | .runClaim thread outcome, world => world.runClaim settings thread outcome

end EodWorld

/-- Any number of runs of any number of pollers. -/
def eodRuns (Poller Job : Type) (settings : EodSettings) :
    Machine (Poller × Job) EodCommand.Reply (EodWorld Poller) where
  Outcome := EodCommand.Outcome
  perform run command outcome world := world.act settings run command outcome
  Disturbance := EodDisturbance
  disturb := EodWorld.disturb settings

/-- A run of an end-of-day poll. -/
abbrev EodRun := Coroutine EodCommand.Reply EodError Unit

/-- `_poll_eod_snapshots`. -/
def pollEodSnapshots : EodRun := do
  let today ← .call .today
  let initialized ← .call .initialized
  if !initialized then .raise .failed
  else
    let thread ← .call (.submitClaim today)
    let answer ← .call (.awaitClaim thread)
    let claimed ← .finish answer
    if !claimed then pure ()
    else
      let polled ← .call .pollTickers
      let _ ← .finish polled
      let marked ← .call (.markCompleted today)
      .finish marked

/-- `_run_eod_with_logging`. -/
def runEodWithLogging : EodRun :=
  pollEodSnapshots.catching fun error => do
    let today ← .call .today
    let released ← .call (.release today)
    let _ ← .finish released
    if error = .cancelled then .raise .cancelled else pure ()

end Pollers
end DataGateway
