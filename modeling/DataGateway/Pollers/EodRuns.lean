import DataGateway.Pollers.EodState

/-!
# One end-of-day run for a date

Claims come in the order of their dates.  As long as a release that finds its date running comes
from the poller whose claim is the latest, nothing is marked completed under a later state, and a
claim can read the file, releases remove only a poller's own claims, a date is claimed again only
after its claims were released or are stale, and never after it was completed.
-/

namespace DataGateway
namespace Pollers

variable {Poller Job : Type}

/-- A claim that was granted. -/
structure Grant (Poller : Type) where
  poller : Poller
  tradingDate : Nat
  now : Int
  deriving DecidableEq

/-- The grants of a history, the newest first. -/
def grants (history : List (EodEvent Poller)) : List (Grant Poller) :=
  history.filterMap fun
    | .granted poller tradingDate now => some ⟨poller, tradingDate, now⟩
    | _ => none

/-! ## The property -/

/-- A release only removes a claim of the poller that releases. -/
def OwnReleases (history : List (EodEvent Poller)) : Prop :=
  ∀ poller tradingDate owner, .released poller tradingDate (some owner) ∈ history → owner = poller

/-- When a date is granted, earlier grants of it have been released by their
pollers or are stale. -/
def GrantedAlone (settings : EodSettings) (history : List (EodEvent Poller)) : Prop :=
  ∀ later poller tradingDate now between first since before,
    history = later ++ .granted poller tradingDate now ::
      (between ++ .granted first tradingDate since :: before) →
    .released first tradingDate (some first) ∈ between ∨ settings.StaleSince now since

/-- A date that was marked completed is not granted again. -/
def CompletedForGood (history : List (EodEvent Poller)) : Prop :=
  ∀ later poller tradingDate now earlier, history = later ++
    .granted poller tradingDate now :: earlier → ∀ other, .completed other tradingDate ∉ earlier

/-- One end-of-day run for a date. -/
structure RunsOnce (settings : EodSettings) (history : List (EodEvent Poller)) : Prop where
  own : OwnReleases history
  alone : GrantedAlone settings history
  forGood : CompletedForGood history

/-! ## The condition -/

namespace EodWorld

/-- The file says that the date is running, and the latest grant went to another poller. -/
def RunningForOthers (world : EodWorld Poller) (poller : Poller) (tradingDate : Nat) : Prop :=
  (∃ entry ∈ world.file, releases tradingDate entry.1 = true) ∧
    ((grants world.history).head?.map Grant.poller) ≠ some poller

/-- The file is about a later date. -/
def HoldsLater (world : EodWorld Poller) (tradingDate : Nat) : Prop :=
  ∃ entry ∈ world.file, tradingDate < entry.1.tradingDate

/-- The thread's date is no earlier than those granted. -/
def InOrder (world : EodWorld Poller) (thread : Nat) : Prop :=
  ∀ entry ∈ world.threads[thread]?, ∀ grant ∈ grants world.history,
    grant.tradingDate ≤ entry.tradingDate

end EodWorld

/-- Claims come in the order of their dates. -/
def claimsInOrder (settings : EodSettings) : (eodRuns Poller Job settings).Policy where
  allows _ _ _ _ := True
  permits
    | .tick _, _ => True
    | .runClaim thread _, world => world.InOrder thread

/-- Moreover no release finds its date running when the latest grant went to another poller, no mark
is set on a later date, and no claim is made on a file that it cannot read.  The condition is on the
grants so far: that the file holds the latest one is part of the invariant. -/
def careful (settings : EodSettings) : (eodRuns Poller Job settings).Policy where
  allows
    | (poller, _), .release tradingDate, outcome, world =>
        outcome = some true → ¬world.RunningForOthers poller tradingDate
    | _, .markCompleted tradingDate, outcome, world => outcome ≠ none →
        ¬world.HoldsLater tradingDate
    | _, _, _, _ => True
  permits
    | .tick _, _ => True
    | .runClaim thread outcome, world =>
        world.InOrder thread ∧ (outcome = some false → world.file = none)

/-! ## The invariant -/

section History

variable {settings : EodSettings} {history : List (EodEvent Poller)} {event : EodEvent Poller}

/-- The event is not a grant. -/
def EodEvent.NoGrant : EodEvent Poller → Prop
  | .granted _ _ _ => False
  | _ => True

theorem mem_grants {grant : Grant Poller} :
    grant ∈ grants history ↔ .granted grant.poller grant.tradingDate grant.now ∈ history := by
  rw [grants, List.mem_filterMap]
  constructor
  · rintro ⟨event, mem, eq⟩
    cases event with
    | granted poller tradingDate now =>
        obtain rfl := Option.some.inj eq
        exact mem
    | _ => cases eq
  · exact fun mem => ⟨_, mem, rfl⟩

/-- A grant below an event that is none lies in the history below. -/
theorem granted_below {later earlier : List (EodEvent Poller)} {poller : Poller} {tradingDate : Nat}
    {now : Int} (split_ : event :: history = later ++ .granted poller tradingDate now :: earlier)
    (other : event.NoGrant) :
    ∃ rest, later = event :: rest ∧
      history = rest ++ .granted poller tradingDate now :: earlier := by
  rcases List.cons_eq_append_iff.mp split_ with ⟨-, eq⟩ | below
  · obtain ⟨rfl, -⟩ := List.cons.inj eq
    cases other
  · exact below

/-- An event that is no grant keeps the property, when it removes no claim of another poller. -/
theorem RunsOnce.cons (runs : RunsOnce settings history) (other : event.NoGrant)
    (own : ∀ poller tradingDate owner, event = .released poller tradingDate (some owner) →
      owner = poller) : RunsOnce settings (event :: history) := by
  refine ⟨?_, ?_, ?_⟩
  · intro poller tradingDate owner mem
    rcases List.mem_cons.mp mem with eq | before
    · exact own poller tradingDate owner eq.symm
    · exact runs.own poller tradingDate owner before
  · intro later poller tradingDate now between first since before split_
    obtain ⟨rest, -, eq⟩ := granted_below split_ other
    exact runs.alone rest poller tradingDate now between first since before eq
  · intro later poller tradingDate now earlier split_
    obtain ⟨rest, -, eq⟩ := granted_below split_ other
    exact runs.forGood rest poller tradingDate now earlier eq

end History

/-- What the state file says of the latest date. -/
structure Held (settings : EodSettings) (world : EodWorld Poller) : Prop where
  once : RunsOnce settings world.history
  /-- A running state is the latest grant. -/
  latest : ∀ entry ∈ world.file, entry.1.status = .running →
    (grants world.history).head? = some ⟨entry.2, entry.1.tradingDate, entry.1.startedAt⟩
  inOrder : ∀ newest ∈ (grants world.history).head?, ∀ grant ∈ grants world.history,
    grant.tradingDate ≤ newest.tradingDate
  /-- A grant of the latest date that was not released is stale, completed, or in the file. -/
  held : ∀ newest ∈ (grants world.history).head?, ∀ between first since before,
    world.history = between ++ .granted first newest.tradingDate since :: before →
    .released first newest.tradingDate (some first) ∉ between →
    settings.StaleSince world.clock since ∨ ∃ entry ∈ world.file,
      entry.1.tradingDate = newest.tradingDate ∧ (entry.1.status = .completed ∨
        entry.1.status = .running ∧ entry.1.startedAt = since ∧ entry.2 = first)
  /-- A completed date was granted, and the file says so as long as it is the latest. -/
  completed : ∀ poller tradingDate, .completed poller tradingDate ∈ world.history →
    (∃ grant ∈ grants world.history, grant.tradingDate = tradingDate) ∧
      ∀ newest ∈ (grants world.history).head?, newest.tradingDate = tradingDate →
        ∃ entry ∈ world.file, entry.1.tradingDate = tradingDate ∧ entry.1.status = .completed
  threads : ∀ entry ∈ world.threads, entry.result = some (.ok true) →
    ∃ grant ∈ grants world.history, grant.tradingDate = entry.tradingDate

namespace Held

variable {settings : EodSettings} {world : EodWorld Poller}

theorem tick (kept : Held settings world) (microseconds : Nat) :
    Held settings { world with clock := world.clock + microseconds } := by
  obtain ⟨once, latest, inOrder, held, completed, threads⟩ := kept
  refine ⟨once, latest, inOrder, ?_, completed, threads⟩
  intro newest top between first since before eq open_
  refine (held newest top between first since before eq open_).imp_left fun stale => ?_
  simp only [EodSettings.StaleSince] at stale ⊢
  omega

/-- New threads, and ends of threads other than grants. -/
theorem setThreads (kept : Held settings world) {threads : List (ClaimThread Poller)}
    (granted : ∀ entry ∈ threads, entry.result = some (.ok true) →
      ∃ grant ∈ grants world.history, grant.tradingDate = entry.tradingDate) :
    Held settings { world with threads := threads } :=
  ⟨kept.once, kept.latest, kept.inOrder, kept.held, kept.completed, granted⟩

/-- A release that removes nothing. -/
theorem release (kept : Held settings world) (poller : Poller) (tradingDate : Nat) :
    Held settings
      { world with history := .released poller tradingDate none :: world.history } := by
  obtain ⟨once, latest, inOrder, held, completed, threads⟩ := kept
  have same : grants (.released poller tradingDate none :: world.history) =
      grants world.history := rfl
  refine ⟨once.cons trivial (by rintro _ _ _ ⟨⟩), latest, inOrder, ?_, ?_, threads⟩
  · intro newest top between first since before eq open_
    obtain ⟨rest, rfl, below⟩ := granted_below eq trivial
    exact held newest top rest first since before below
      fun mem => open_ (List.mem_cons_of_mem _ mem)
  · intro other date mem
    rcases List.mem_cons.mp mem with eq | before
    · cases eq
    · exact completed other date before

/-- A release by the poller of the latest grant. -/
theorem remove (kept : Held settings world) {poller : Poller} {tradingDate : Nat}
    {entry : UwEodRunState × Poller} (there : world.file = some entry)
    (running : releases tradingDate entry.1 = true)
    (own : ((grants world.history).head?.map Grant.poller) = some poller) :
    Held settings
      { world with
        file := none
        history := .released poller tradingDate (some entry.2) :: world.history } := by
  obtain ⟨once, latest, inOrder, held, completed, threads⟩ := kept
  obtain ⟨date, status⟩ := of_decide_eq_true running
  have newestIs := latest entry there status
  rw [newestIs] at own
  obtain rfl : entry.2 = poller := Option.some.inj own
  refine ⟨once.cons trivial ?_, by rintro _ ⟨⟩, inOrder, ?_, ?_, threads⟩
  · rintro _ _ _ ⟨⟩
    rfl
  · intro newest top between first since before eq open_
    obtain ⟨rest, rfl, below⟩ := granted_below eq trivial
    rcases held newest top rest first since before below
      (fun mem => open_ (List.mem_cons_of_mem _ mem)) with stale | ⟨other, here, same, state⟩
    · exact .inl stale
    · -- the grant in the file is the one that was released
      obtain rfl := Option.some.inj (there.symm.trans here)
      rcases state with done | ⟨-, -, rfl⟩
      · rw [status] at done
        cases done
      · exact absurd (by rw [← same, date]; exact List.mem_cons_self) open_
  · intro other completedDate mem
    rcases List.mem_cons.mp mem with eq | before
    · cases eq
    · obtain ⟨granted, said⟩ := completed other completedDate before
      refine ⟨granted, fun newest top same => ?_⟩
      obtain ⟨state, here, -, done⟩ := said newest top same
      obtain rfl := Option.some.inj (there.symm.trans here)
      rw [status] at done
      cases done

/-- A mark for a granted date, when the file is not about a later one. -/
theorem complete (kept : Held settings world) {poller : Poller} {tradingDate : Nat}
    {state : UwEodRunState} (date : state.tradingDate = tradingDate)
    (done : state.status = .completed)
    (granted : ∃ grant ∈ grants world.history, grant.tradingDate = tradingDate)
    (early : ¬world.HoldsLater tradingDate) :
    Held settings
      { world with
        file := some (state, poller)
        history := .completed poller tradingDate :: world.history } := by
  obtain ⟨once, latest, inOrder, held, completed, threads⟩ := kept
  -- what the file said of a latest date other than this one
  have bound : ∀ newest ∈ (grants world.history).head?, ∀ entry ∈ world.file,
      entry.1.tradingDate = newest.tradingDate → newest.tradingDate = tradingDate := by
    intro newest top entry there same
    obtain ⟨grant, mem, rfl⟩ := granted
    refine Nat.le_antisymm ?_ (inOrder newest top grant mem)
    exact Nat.le_of_not_lt fun later => early ⟨entry, there, same ▸ later⟩
  refine ⟨once.cons trivial (by rintro _ _ _ ⟨⟩), ?_, inOrder, ?_, ?_, threads⟩
  · rintro entry here running
    obtain rfl := Option.some.inj here
    rw [done] at running
    cases running
  · intro newest top between first since before eq open_
    obtain ⟨rest, rfl, below⟩ := granted_below eq trivial
    rcases held newest top rest first since before below
      (fun mem => open_ (List.mem_cons_of_mem _ mem)) with stale | ⟨entry, there, same, -⟩
    · exact .inl stale
    · exact .inr ⟨_, rfl, date.trans (bound newest top entry there same).symm, .inl done⟩
  · intro other completedDate mem
    rcases List.mem_cons.mp mem with eq | before
    · obtain ⟨rfl, rfl⟩ := EodEvent.completed.inj eq
      exact ⟨granted, fun newest top same => ⟨_, rfl, date, done⟩⟩
    · obtain ⟨known, said⟩ := completed other completedDate before
      refine ⟨known, fun newest top same => ?_⟩
      obtain ⟨entry, there, entryDate, -⟩ := said newest top same
      have this_ := bound newest top entry there (entryDate.trans same.symm)
      exact ⟨_, rfl, by rw [date, ← this_, same], done⟩

/-- A grant in order, for a state that was read. -/
theorem grant (kept : Held settings world) {poller : Poller} {tradingDate : Nat}
    (may : settings.mayClaim world.clock tradingDate (world.file.map Prod.fst) = true)
    (order : ∀ grant ∈ grants world.history, grant.tradingDate ≤ tradingDate) :
    Held settings (world.grant poller tradingDate) := by
  obtain ⟨once, latest, inOrder, held, completed, threads⟩ := kept
  have newestOf : ∀ grant ∈ grants world.history, grant.tradingDate = tradingDate →
      ∃ newest ∈ (grants world.history).head?, newest.tradingDate = tradingDate := by
    intro grant mem same
    obtain ⟨newest, rest, eq⟩ := List.exists_cons_of_ne_nil (List.ne_nil_of_mem mem)
    have top : newest ∈ (grants world.history).head? := by rw [eq]; rfl
    refine ⟨newest, top, Nat.le_antisymm (order newest (by rw [eq]; exact List.mem_cons_self)) ?_⟩
    exact same ▸ inOrder newest top grant mem
  -- a state of this date that lets the claim through is running and stale
  have through : ∀ entry ∈ world.file, entry.1.tradingDate = tradingDate →
      entry.1.status ≠ .completed ∧ settings.StaleSince world.clock entry.1.startedAt := by
    intro entry there same
    rw [show world.file = some entry from there] at may
    simpa [EodSettings.mayClaim, same] using may
  have stale : ∀ between first since before,
      world.history = between ++ .granted first tradingDate since :: before →
      .released first tradingDate (some first) ∉ between →
      settings.StaleSince world.clock since := by
    intro between first since before eq open_
    have mem : (⟨first, tradingDate, since⟩ : Grant Poller) ∈ grants world.history :=
      mem_grants.mpr (by simp [eq])
    obtain ⟨newest, top, rfl⟩ := newestOf _ mem rfl
    rcases held newest top between first since before eq open_ with stale |
      ⟨entry, there, same, state⟩
    · exact stale
    · obtain ⟨unfinished, old⟩ := through entry there same
      rcases state with done | ⟨-, rfl, -⟩
      · exact absurd done unfinished
      · exact old
  have fresh : ∀ other, .completed other tradingDate ∉ world.history := by
    intro other mem
    obtain ⟨⟨grant, granted, same⟩, said⟩ := completed other tradingDate mem
    obtain ⟨newest, top, date⟩ := newestOf grant granted same
    obtain ⟨entry, there, entryDate, done⟩ := said newest top date
    exact (through entry there entryDate).1 done
  refine ⟨⟨?_, ?_, ?_⟩, ?_, ?_, ?_, ?_, ?_⟩
  · intro other date owner mem
    rcases List.mem_cons.mp mem with eq | before
    · cases eq
    · exact once.own other date owner before
  · intro later other date now between first since before split_
    rcases List.cons_eq_append_iff.mp split_ with ⟨-, eq⟩ | ⟨rest, -, below⟩
    · obtain ⟨event, below⟩ := List.cons.inj eq
      obtain ⟨-, rfl, rfl⟩ := EodEvent.granted.inj event
      by_cases released : .released first date (some first) ∈ between
      · exact .inl released
      · exact .inr (stale between first since before below.symm released)
    · exact once.alone rest other date now between first since before below
  · intro later other date now earlier split_
    rcases List.cons_eq_append_iff.mp split_ with ⟨-, eq⟩ | ⟨rest, -, below⟩
    · obtain ⟨event, rfl⟩ := List.cons.inj eq
      obtain ⟨-, rfl, -⟩ := EodEvent.granted.inj event
      exact fresh
    · exact once.forGood rest other date now earlier below
  · rintro entry here -
    obtain rfl := Option.some.inj here
    rfl
  · intro newest top grant mem
    obtain rfl := Option.some.inj top
    rcases List.mem_cons.mp mem with rfl | before
    · exact Nat.le_refl _
    · exact order grant before
  · intro newest top between first since before eq open_
    obtain rfl := Option.some.inj top
    rcases List.cons_eq_append_iff.mp eq with ⟨-, eq⟩ | ⟨rest, rfl, below⟩
    · obtain ⟨event, -⟩ := List.cons.inj eq
      obtain ⟨rfl, -, rfl⟩ := EodEvent.granted.inj event
      exact .inr ⟨_, rfl, rfl, .inr ⟨rfl, rfl, rfl⟩⟩
    · exact .inl (stale rest first since before below fun mem => open_ (List.mem_cons_of_mem _ mem))
  · intro other date mem
    rcases List.mem_cons.mp mem with eq | before
    · cases eq
    · obtain ⟨⟨grant, granted, rfl⟩, -⟩ := completed other date before
      refine ⟨⟨grant, List.mem_cons_of_mem _ granted, rfl⟩, fun newest top same => ?_⟩
      obtain rfl := Option.some.inj top
      obtain rfl : tradingDate = grant.tradingDate := same
      exact absurd before (fresh other)
  · intro entry mem result
    obtain ⟨grant, granted, same⟩ := threads entry mem result
    exact ⟨grant, List.mem_cons_of_mem _ granted, same⟩

end Held

/-! ## Runs -/

/-- How far a run has come. -/
inductive EodStage
  | idle
  /-- It waits for the claim of a date. -/
  | submitted (thread tradingDate : Nat)
  | granted (tradingDate : Nat)

/-- What a command makes of the stage. -/
def EodStage.next : EodStage → (command : EodCommand) → command.Reply → EodStage
  | _, .submitClaim tradingDate, thread => .submitted thread tradingDate
  | .submitted _ tradingDate, .awaitClaim _, .ok true => .granted tradingDate
  | stage, _, _ => stage

/-- A run waits for the thread that it started, and marks the date that it was granted. -/
def eodTerms : Terms EodCommand.Reply EodStage where
  guarantee
    | .awaitClaim thread, stage => ∃ tradingDate, stage = .submitted thread tradingDate
    | .markCompleted tradingDate, stage => stage = .granted tradingDate
    | _, _ => True
  rely _ _ _ := True

/-- A run keeps to its promises. -/
theorem runEodWithLogging_meets :
    Coroutine.Meets (.tracking EodStage.next eodTerms)
    (fun _ _ => True) .idle runEodWithLogging := by
  have handled : ∀ (error : EodError) (stage : EodStage),
      Coroutine.Meets (.tracking EodStage.next eodTerms) (fun _ _ => True) stage
        ((do
          let today ← .call .today
          let released ← .call (.release today)
          let _ ← .finish released
          if error = .cancelled then .raise .cancelled else pure () : EodRun)) := by
    intro error stage
    refine ⟨trivial, fun today _ _ => ⟨trivial, fun released _ _ => ?_⟩⟩
    cases released with
    | error failure => trivial
    | ok _ =>
        dsimp only [bind, Coroutine.bind, Coroutine.resolve]
        split <;> trivial
  have body : Coroutine.Meets (.tracking EodStage.next eodTerms) (fun _ _ => True) .idle
      pollEodSnapshots := by
    refine ⟨trivial, fun today _ _ => ⟨trivial, fun initialized _ _ => ?_⟩⟩
    cases initialized with
    | false => trivial
    | true =>
        refine ⟨trivial, fun thread stage submitted => ?_⟩
        obtain ⟨rfl, -⟩ := submitted
        refine ⟨⟨today, rfl⟩, fun answer stage answered => ?_⟩
        obtain ⟨rfl, -⟩ := answered
        cases answer with
        | error failure => trivial
        | ok claimed =>
            cases claimed with
            | false => trivial
            | true =>
                refine ⟨trivial, fun polled stage done => ?_⟩
                obtain ⟨rfl, -⟩ := done
                cases polled with
                | error failure => trivial
                | ok _ => exact ⟨rfl, fun _ _ _ => trivial⟩
  exact body.catching (fun _ _ _ => trivial) fun error stage _ => handled error stage

/-- The stages of the runs fit the threads and the grants. -/
structure Staged (world : EodWorld Poller) (stages : Poller × Job → EodStage) : Prop where
  submitted : ∀ run thread tradingDate, stages run = .submitted thread tradingDate →
    ∃ entry ∈ world.threads[thread]?, entry.tradingDate = tradingDate
  granted : ∀ run tradingDate, stages run = .granted tradingDate →
    ∃ grant ∈ grants world.history, grant.tradingDate = tradingDate

namespace Staged

variable {settings : EodSettings} {world after : EodWorld Poller} {stages : Poller × Job → EodStage}

/-- Threads keep their dates and grants stay. -/
theorem grow (staged : Staged world stages)
    (threads : ∀ (thread : Nat) entry, world.threads[thread]? = some entry →
      ∃ later ∈ after.threads[thread]?, later.tradingDate = entry.tradingDate)
    (kept : ∀ grant ∈ grants world.history, grant ∈ grants after.history) :
    Staged after stages := by
  refine ⟨fun run thread tradingDate stage => ?_, fun run tradingDate stage => ?_⟩
  · obtain ⟨entry, there, rfl⟩ := staged.submitted run thread tradingDate stage
    exact threads thread entry there
  · obtain ⟨grant, mem, same⟩ := staged.granted run tradingDate stage
    exact ⟨grant, kept grant mem, same⟩

theorem update [DecidableEq Poller] [DecidableEq Job] (staged : Staged world stages)
    {run : Poller × Job} {stage : EodStage}
    (submitted : ∀ thread tradingDate, stage = .submitted thread tradingDate →
      ∃ entry ∈ world.threads[thread]?, entry.tradingDate = tradingDate)
    (granted : ∀ tradingDate, stage = .granted tradingDate →
      ∃ grant ∈ grants world.history, grant.tradingDate = tradingDate) :
    Staged world (Function.update stages run stage) := by
  refine ⟨fun other => ?_, fun other => ?_⟩ <;> by_cases same : other = run
  · subst same
    rwa [Function.update_self]
  · rw [Function.update_of_ne same]
    exact staged.submitted other
  · subst same
    rwa [Function.update_self]
  · rw [Function.update_of_ne same]
    exact staged.granted other

end Staged

/-- A release that removes a state has read it. -/
theorem EodWorld.exists_of_removes (world : EodWorld Poller) {readable : Bool} {tradingDate : Nat}
    (removes : (world.readState readable).any (releases tradingDate) = true) :
    ∃ entry, world.file = some entry ∧ releases tradingDate entry.1 = true ∧ readable = true := by
  cases readable with
  | false => cases removes
  | true =>
      cases there : world.file with
      | none =>
          rw [EodWorld.readState, there] at removes
          cases removes
      | some entry =>
          rw [EodWorld.readState, there] at removes
          exact ⟨entry, rfl, removes, rfl⟩

section Steps

variable [DecidableEq Poller] [DecidableEq Job] {settings : EodSettings}
variable {world after : EodWorld Poller} {stages : Poller × Job → EodStage}

/-- A command of a run. -/
theorem Held.act {run : Poller × Job} {command : EodCommand} {outcome : command.Outcome}
    {reply : command.Reply} (kept : Held settings world) (staged : Staged world stages)
    (promised : eodTerms.guarantee command (stages run))
    (allowed : (@careful Poller Job settings).allows run command outcome world)
    (performed : world.act settings run command outcome = some (reply, after)) :
    Held settings after ∧
      Staged after (Function.update stages run ((stages run).next command reply)) := by
  have still : ∀ {next : EodWorld Poller}, Staged next stages → (stages run).next command reply =
      stages run → Staged next (Function.update stages run ((stages run).next command reply)) :=
    fun staged same => by rwa [same, Function.update_eq_self]
  have unmoved : ∀ (thread : Nat) (entry : ClaimThread Poller),
      world.threads[thread]? = some entry →
      ∃ later ∈ world.threads[thread]?, later.tradingDate = entry.tradingDate :=
    fun _ entry there => ⟨entry, there, rfl⟩
  cases command with
  | today | initialized =>
      obtain ⟨rfl, rfl⟩ := Prod.mk.inj (Option.some.inj performed)
      exact ⟨kept, still staged (by cases stages run <;> rfl)⟩
  | submitClaim tradingDate =>
      obtain ⟨rfl, rfl⟩ := Prod.mk.inj (Option.some.inj performed)
      refine ⟨kept.setThreads fun entry mem result => ?_, ?_⟩
      · rcases List.mem_append.mp mem with before | new
        · exact kept.threads entry before result
        · obtain rfl := List.mem_singleton.mp new
          cases result
      · have grown : Staged { world with
            threads := world.threads ++ [⟨run.1, tradingDate, none⟩] } stages := by
          refine staged.grow (fun thread entry there => ⟨entry, ?_, rfl⟩) fun _ mem => mem
          exact (List.getElem?_append_left (List.getElem?_eq_some_iff.mp there).1).trans there
        refine grown.update ?_ ?_
        · rintro thread date stage
          have next : EodStage.submitted world.threads.length tradingDate =
              .submitted thread date := by
            cases running : stages run <;> rw [running] at stage <;> exact stage
          obtain ⟨rfl, rfl⟩ := EodStage.submitted.inj next
          exact ⟨⟨run.1, tradingDate, none⟩, by simp, rfl⟩
        · rintro date stage
          cases running : stages run <;> rw [running] at stage <;> cases stage
  | awaitClaim thread =>
      obtain ⟨tradingDate, waiting⟩ := promised
      dsimp only [EodWorld.act] at performed
      split at performed
      · obtain ⟨rfl, rfl⟩ := Prod.mk.inj (Option.some.inj performed)
        exact ⟨kept, still staged (by rw [waiting]; rfl)⟩
      · obtain ⟨result, known, eq⟩ := Option.map_eq_some_iff.mp performed
        obtain ⟨rfl, rfl⟩ := Prod.mk.inj eq
        refine ⟨kept, ?_⟩
        obtain ⟨entry, there, ended⟩ := Option.bind_eq_some_iff.mp known
        obtain ⟨other, here, rfl⟩ := staged.submitted run thread tradingDate waiting
        obtain rfl := Option.some.inj (there.symm.trans here)
        rcases result with failure | _ | _
        · exact still staged (by rw [waiting]; rfl)
        · exact still staged (by rw [waiting]; rfl)
        · have granted := kept.threads entry (List.mem_of_getElem? there) ended
          rw [waiting]
          refine staged.update (by rintro _ _ ⟨⟩) ?_
          rintro _ ⟨⟩
          exact granted
  | pollTickers =>
      cases outcome <;> obtain ⟨rfl, rfl⟩ := Prod.mk.inj (Option.some.inj performed) <;>
        exact ⟨kept, still staged (by cases stages run <;> rfl)⟩
  | markCompleted tradingDate =>
      cases outcome with
      | none =>
          obtain ⟨rfl, rfl⟩ := Prod.mk.inj (Option.some.inj performed)
          exact ⟨kept, still staged (by cases stages run <;> rfl)⟩
      | some readable =>
          obtain ⟨rfl, rfl⟩ := Prod.mk.inj (Option.some.inj performed)
          have granted := staged.granted run tradingDate promised
          refine ⟨kept.complete rfl rfl granted (allowed (by rintro ⟨⟩)), still ?_ ?_⟩
          · exact staged.grow unmoved fun _ mem => mem
          · cases stages run <;> rfl
  | release tradingDate =>
      cases outcome with
      | none =>
          obtain ⟨rfl, rfl⟩ := Prod.mk.inj (Option.some.inj performed)
          exact ⟨kept, still staged (by cases stages run <;> rfl)⟩
      | some readable =>
          obtain ⟨rfl, rfl⟩ := Prod.mk.inj (Option.some.inj performed)
          split
          next removes =>
            obtain ⟨entry, there, running, rfl⟩ := world.exists_of_removes removes
            rw [there]
            refine ⟨kept.remove there running (not_not.mp fun other => ?_), still ?_ ?_⟩
            · exact allowed rfl ⟨⟨entry, there, running⟩, other⟩
            · exact staged.grow unmoved fun _ mem => mem
            · cases stages run <;> rfl
          next => exact ⟨kept.release run.1 tradingDate,
              still (staged.grow unmoved fun _ mem => mem) (by cases stages run <;> rfl)⟩

omit [DecidableEq Poller] [DecidableEq Job] in
/-- A thread comes to an end; what it says of a grant is so. -/
theorem Held.settle (kept : Held settings world) (staged : Staged world stages) {thread : Nat}
    {entry : ClaimThread Poller} (there : world.threads[thread]? = some entry)
    {result : Except EodError Bool} (granted : result = .ok true →
      ∃ grant ∈ grants world.history, grant.tradingDate = entry.tradingDate) :
    Held settings (world.settle thread result) ∧ Staged (world.settle thread result) stages := by
  refine ⟨kept.setThreads fun other mem ended => ?_,
    staged.grow (fun i other here => ?_) fun _ mem => mem⟩
  · obtain ⟨i, here⟩ := List.mem_iff_getElem?.mp mem
    rw [List.getElem?_modify] at here
    obtain ⟨before, found, rfl⟩ := Option.map_eq_some_iff.mp here
    by_cases same : thread = i
    · subst same
      obtain rfl := Option.some.inj (there.symm.trans found)
      rw [if_pos rfl] at ended ⊢
      exact granted (Option.some.inj ended)
    · rw [if_neg same] at ended ⊢
      exact kept.threads before (List.mem_of_getElem? found) ended
  · refine ⟨if thread = i then { other with result := result } else other, ?_, by split <;> rfl⟩
    simp only [EodWorld.settle, List.getElem?_modify, here]
    split <;> rfl

omit [DecidableEq Poller] [DecidableEq Job] in
/-- A move of the surroundings. -/
theorem Held.disturb {move : EodDisturbance} (kept : Held settings world)
    (staged : Staged world stages)
    (permitted : (@careful Poller Job settings).permits move world) :
    Held settings (EodWorld.disturb settings move world) ∧
      Staged (EodWorld.disturb settings move world) stages := by
  cases move with
  | tick microseconds => exact ⟨kept.tick microseconds, staged.submitted, staged.granted⟩
  | runClaim thread outcome =>
      obtain ⟨order, readable⟩ := permitted
      dsimp only [EodWorld.disturb, EodWorld.runClaim]
      split
      next poller tradingDate there =>
        cases outcome with
        | none => exact kept.settle staged there (by rintro ⟨⟩)
        | some read =>
            dsimp only
            split
            next may =>
              have state : world.readState read = world.file.map Prod.fst := by
                cases read with
                | true => rfl
                | false => rw [readable rfl]; rfl
              have given : Held settings (world.grant poller tradingDate) :=
                kept.grant (state ▸ may) (order _ there)
              have wider : Staged (world.grant poller tradingDate) stages :=
                staged.grow (fun _ entry here => ⟨entry, here, rfl⟩)
                  fun _ mem => List.mem_cons_of_mem _ mem
              refine given.settle wider there fun _ => ?_
              exact ⟨_, List.mem_cons_self, rfl⟩
            next => exact kept.settle staged there (by rintro ⟨⟩)
      next => exact ⟨kept, staged⟩

/-- A state file that does not exist yet. -/
def EodWorld.start (clock : Int) : EodWorld Poller := ⟨clock, none, [], []⟩

/-- One end-of-day run for a date, in every run of any number of pollers in which no release meets
another poller's claim, no mark a later date and no claim a file that it cannot read. -/
theorem eod_runs_once {clock : Int}
    {final : Machine.Config (Poller × Job) EodCommand.Reply EodError Unit (EodWorld Poller)}
    (reach : Machine.Reaches (careful settings) ⟨.start clock, fun _ => runEodWithLogging⟩ final) :
    RunsOnce settings final.world.history := by
  have start : Held settings (.start clock : EodWorld Poller) ∧
      Staged (.start clock) fun _ : Poller × Job => EodStage.idle := by
    refine ⟨⟨⟨by rintro _ _ _ ⟨⟩, ?_, ?_⟩,
      by rintro _ ⟨⟩, by rintro _ ⟨⟩, by rintro _ ⟨⟩,
      by rintro _ _ ⟨⟩, by rintro _ ⟨⟩⟩, by rintro _ _ _ ⟨⟩, by rintro _ _ ⟨⟩⟩
    · intro later poller tradingDate now between first since before eq
      exact absurd eq.symm (List.append_ne_nil_of_right_ne_nil _ (List.cons_ne_nil _ _))
    · intro later poller tradingDate now earlier eq
      exact absurd eq.symm (List.append_ne_nil_of_right_ne_nil _ (List.cons_ne_nil _ _))
  let Kept (world : EodWorld Poller) (stages : Poller × Job → EodStage) : Prop :=
    Held settings world ∧ Staged world stages
  have calm : ∀ world stages move, Kept world stages →
      (@careful Poller Job settings).permits move world →
      Kept (EodWorld.disturb settings move world) stages :=
    fun world stages move holds permitted => holds.1.disturb holds.2 permitted
  obtain ⟨stages, ⟨kept, -⟩, -⟩ := reach.invariant
    (K := fun _ => .tracking EodStage.next eodTerms)
    (fun world stages run command outcome reply after holds promised allowed performed =>
      ⟨_, ⟨rfl, trivial⟩, Held.act holds.1 holds.2 promised allowed performed⟩)
    calm start (fun _ => runEodWithLogging_meets)
  exact kept.once

end Steps

/-! ## Schedules -/

section Decisions

variable [DecidableEq Poller]

instance (world : EodWorld Poller) (poller : Poller) (tradingDate : Nat) :
    Decidable (world.RunningForOthers poller tradingDate) :=
  inferInstanceAs (Decidable ((∃ entry ∈ world.file, releases tradingDate entry.1 = true) ∧
    ((grants world.history).head?.map Grant.poller) ≠ some poller))

instance (world : EodWorld Poller) (tradingDate : Nat) : Decidable (world.HoldsLater tradingDate) :=
  inferInstanceAs (Decidable (∃ entry ∈ world.file, tradingDate < entry.1.tradingDate))

instance (world : EodWorld Poller) (thread : Nat) : Decidable (world.InOrder thread) :=
  inferInstanceAs (Decidable (∀ entry ∈ world.threads[thread]?,
    ∀ grant ∈ grants world.history, grant.tradingDate ≤ entry.tradingDate))

instance (settings : EodSettings) :
    (claimsInOrder settings : (eodRuns Poller Job settings).Policy).Decides :=
  ⟨fun _ _ _ _ => inferInstanceAs (Decidable True), fun (move : EodDisturbance) world =>
    match move with
    | .tick _ => inferInstanceAs (Decidable True)
    | .runClaim thread _ => inferInstanceAs (Decidable (world.InOrder thread))⟩

instance (settings : EodSettings) :
    (careful settings : (eodRuns Poller Job settings).Policy).Decides :=
  ⟨fun run command outcome world =>
    match command, outcome with
    | .release tradingDate, (outcome : Option Bool) =>
        inferInstanceAs
          (Decidable (outcome = some true → ¬world.RunningForOthers run.1 tradingDate))
    | .markCompleted tradingDate, (outcome : Option Bool) =>
        inferInstanceAs (Decidable (outcome ≠ none → ¬world.HoldsLater tradingDate))
    | .today, _ | .initialized, _ | .submitClaim _, _ | .awaitClaim _, _ | .pollTickers, _ =>
        inferInstanceAs (Decidable True),
  fun (move : EodDisturbance) world =>
    match move with
    | .tick _ => inferInstanceAs (Decidable True)
    | .runClaim thread outcome => inferInstanceAs
        (Decidable (world.InOrder thread ∧ (outcome = some false → world.file = none)))⟩

end Decisions

/-- Claims are stale after two hours, and every instant is on one date. -/
def oneDay : EodSettings := ⟨7200, fun _ => 20⟩

/-- Everything goes well, for runs that find a provider. -/
def goingWell (initialized : Bool) : (command : EodCommand) → command.Outcome
  | .initialized => initialized
  | .awaitClaim _ => false
  | .pollTickers => none
  | .markCompleted _ | .release _ => some true
  | .today | .submitClaim _ => ()

/-- A run of a poller takes some of its steps. -/
def eodTurns (poller count : Nat) (initialized : Bool) :
    List (Machine.Turn (eodRuns Nat Unit oneDay)) :=
  List.replicate count (.run (poller, ()) (goingWell initialized))

/-- The first poller claims the date, the second one has no provider and releases it, and the third
one claims it at once. -/
def releasedByAnother : List (Machine.Turn (eodRuns Nat Unit oneDay)) :=
  eodTurns 0 3 true ++ [.disturb (.runClaim 0 (some true))] ++ eodTurns 0 1 true ++
    eodTurns 1 4 false ++ eodTurns 2 3 true ++ [.disturb (.runClaim 1 (some true))]

/-- The first poller claims the date, is cancelled and releases it; the second one claims it and
completes it, and the third one is refused. -/
def retriedAfterCancel : List (Machine.Turn (eodRuns Nat Unit oneDay)) :=
  eodTurns 0 3 true ++ [.disturb (.runClaim 0 (some true))] ++ eodTurns 0 1 true ++
    [.run (0, ()) fun
      | .pollTickers => some .cancelled
      | command => goingWell true command] ++ eodTurns 0 2 true ++
    eodTurns 1 3 true ++ [.disturb (.runClaim 1 (some true))] ++ eodTurns 1 3 true ++
    eodTurns 2 3 true ++ [.disturb (.runClaim 2 (some true))] ++ eodTurns 2 1 true

/-- A run that fails before it claims removes another poller's claim, and a third poller is granted
the date while that claim is not stale. -/
theorem failed_run_releases_anothers_claim :
    ∃ final, Machine.Reaches (claimsInOrder oneDay)
        ⟨(.start 0 : EodWorld Nat), fun _ : Nat × Unit => runEodWithLogging⟩ final ∧
      ¬OwnReleases final.world.history ∧ ¬GrantedAlone oneDay final.world.history := by
  have played : ∃ final, Machine.Config.play (claimsInOrder oneDay) releasedByAnother
        ⟨(.start 0 : EodWorld Nat), fun _ : Nat × Unit => runEodWithLogging⟩ = some final ∧
      final.world.history = [.granted 2 20 0, .released 1 20 (some 0), .granted 0 20 0] :=
    ⟨_, rfl, rfl⟩
  obtain ⟨final, ran, history⟩ := played
  refine ⟨final, Machine.Config.play_reaches ran, ?_, ?_⟩
  · intro own
    exact absurd (own 1 20 0 (by simp [history])) (by decide)
  · intro alone
    rcases alone [] 2 20 0 [.released 1 20 (some 0)] 0 0 [] history with released | stale
    · exact absurd released (by decide)
    · exact absurd stale (by decide)

/-- A date whose first run was cancelled is claimed once more, and not again
when it is completed. -/
theorem completed_date_runs_once :
    ∃ final, Machine.Config.play (careful oneDay) retriedAfterCancel
        ⟨(.start 0 : EodWorld Nat), fun _ : Nat × Unit => runEodWithLogging⟩ = some final ∧
      final.tasks (0, ()) = .finish (.error .cancelled) ∧
      final.tasks (2, ()) = .finish (.ok ()) ∧
      final.world.history =
        [.completed 1 20, .granted 1 20 0, .released 0 20 (some 0), .granted 0 20 0] ∧
      RunsOnce oneDay final.world.history := by
  have played : ∃ final, Machine.Config.play (careful oneDay) retriedAfterCancel
        ⟨(.start 0 : EodWorld Nat), fun _ : Nat × Unit => runEodWithLogging⟩ = some final ∧
      final.tasks (0, ()) = .finish (.error .cancelled) ∧
      final.tasks (2, ()) = .finish (.ok ()) ∧
      final.world.history =
        [.completed 1 20, .granted 1 20 0, .released 0 20 (some 0), .granted 0 20 0] :=
    ⟨_, rfl, rfl, rfl, rfl⟩
  obtain ⟨final, ran, cancelled, refused, history⟩ := played
  exact ⟨final, ran, cancelled, refused, history, eod_runs_once (Machine.Config.play_reaches ran)⟩

end Pollers
end DataGateway
