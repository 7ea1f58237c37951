import DataGateway.Coroutine.Fairness
import DataGateway.Dedup.SingleFlight

/-!
# Every caller is answered

A leader whose fetch ended settles its future, and then every call that waits for it can go on.
-/

namespace DataGateway
namespace Dedup

open Coroutine Machine

variable {ι Key Value Error : Type}

/-! ## Every interleaving -/

section Runs

variable [DecidableEq ι] [DecidableEq Key] {keys : ι → Key}
variable {stages : ι → CallStage Value Error}

/-- Every call is in its stage, in the world and in its program. -/
structure InFlight (keys : ι → Key)
    (config : Config ι (@DedupeStep.Reply Key Value Error) (Raised Error) Value
      (DedupWorld ι Key Value Error)) (stages : ι → CallStage Value Error) : Prop where
  flying : Flying keys config.world stages
  meets : ∀ i, Meets (callStages (keys i)) Finished (stages i) (config.tasks i)

variable {config after final : Config ι (@DedupeStep.Reply Key Value Error) (Raised Error) Value
  (DedupWorld ι Key Value Error)}
variable {P : Policy (deduplicator ι Key Value Error)}

/-- In every reachable state every call is in some stage. -/
theorem inFlight_of_reaches (reach : Reaches P (manyCalls keys) final) :
    ∃ stages, InFlight keys final stages := by
  have start : Flying keys (.initial : DedupWorld ι Key Value Error) fun _ => .asking := by
    refine ⟨fun _ => ⟨rfl, rfl, rfl⟩, fun _ _ led => ?_, fun _ _ flew => ?_⟩
    · cases led
    · cases flew
  have act : ∀ (world : DedupWorld ι Key Value Error) (stages : ι → CallStage Value Error) i
      (step : DedupeStep Key Value Error) (choice : step.Choice) (reply : step.Reply) after,
      Flying keys world stages → (callStages (keys i)).may step (stages i) →
      P.allows i step choice world → world.perform i step choice = some (reply, after) →
      ∃ next, (callStages (keys i)).after step (stages i) reply next ∧
        Flying keys after (Function.update stages i next) :=
    fun _ _ _ _ _ _ _ flying may _ performed => flying.step may performed
  have calm : ∀ (world : DedupWorld ι Key Value Error) (stages : ι → CallStage Value Error)
      (move : (deduplicator ι Key Value Error).Disturbance), Flying keys world stages →
      P.permits move world →
      Flying keys ((deduplicator ι Key Value Error).disturb move world) stages :=
    fun _ _ move => Empty.elim move
  obtain ⟨stages, flying, meets⟩ := reach.invariant act calm start fun i => dedupe_meets
  exact ⟨stages, flying, meets⟩

/-- A call that acts moves to the next stage of its contract. -/
theorem InFlight.acts {i : ι} {step : DedupeStep Key Value Error}
    {resume : step.Reply → DedupeCall Key Value Error} (here : InFlight keys config stages)
    (acts : Acts P i config after) (suspended : config.tasks i = .suspend step resume) :
    ∃ reply next, (callStages (keys i)).may step (stages i) ∧
      (callStages (keys i)).after step (stages i) reply next ∧
      InFlight keys after (Function.update stages i next) := by
  obtain ⟨_, _, choice, reply, acting, performed, -, tasks⟩ := acts
  rw [suspended] at acting
  cases acting
  have meets := here.meets i
  rw [suspended] at meets
  obtain ⟨next, moved, flying⟩ := here.flying.step meets.1 performed
  refine ⟨reply, next, meets.1, moved, flying, fun j => ?_⟩
  rw [tasks]
  by_cases same : j = i
  · subst same
    simpa using meets.2 reply next moved
  · simpa [Function.update_of_ne same] using here.meets j

/-- Nothing that was known is lost in a run. -/
theorem InFlight.onward (here : InFlight keys config stages) (reach : Reaches P config after) :
    Onward config.world after.world := by
  suffices ∃ stages, InFlight keys after stages ∧ Onward config.world after.world from this.elim
    fun _ held => held.2
  induction reach with
  | refl => exact ⟨stages, here, .refl⟩
  | tail _ step ih =>
      obtain ⟨stages, held, onward⟩ := ih
      cases step with
      | @act world after tasks i command resume choice reply suspended performed allowed =>
          have meets := held.meets i
          simp only [suspended] at meets
          have acts : Acts P i ⟨world, tasks⟩ ⟨after, Function.update tasks i (resume reply)⟩ :=
            ⟨command, resume, choice, reply, suspended, performed, allowed, rfl⟩
          obtain ⟨_, next, -, -, moved⟩ := held.acts acts suspended
          exact ⟨Function.update stages i next, moved,
            onward.trans (held.flying.onward meets.1 performed)⟩
      | @calm _ _ move _ => exact Empty.elim move

/-! ## What holds in every reachable state -/

/-- One fetch for each key, and everybody has what the leader's fetch ended with. -/
structure Shared (keys : ι → Key)
    (config : Config ι (@DedupeStep.Reply Key Value Error) (Raised Error) Value
      (DedupWorld ι Key Value Error)) : Prop where
  single : ∀ i j, config.world.fetching i = true → config.world.fetching j = true →
    keys i = keys j → i = j
  joined : ∀ i outcome, config.tasks i = .finish outcome →
    ∃ future j, config.world.joined i = some future ∧ config.world.leader future = some j ∧
      keys j = keys i
  same : ∀ i j future outcome, config.world.joined i = some future →
    config.world.leader future = some j → config.world.cancelled i = false →
    config.tasks i = .finish outcome → config.world.fetched j = some outcome
  cleared : ∀ key future, config.world.pending key = some future →
    ∃ j, keys j = key ∧ config.world.leader future = some j ∧
      ∀ outcome, config.tasks j ≠ .finish outcome
  again : ∀ i, (∀ j future, config.world.leader future = some j → keys j = keys i →
      ∃ outcome, config.tasks j = .finish outcome) →
    (config.world.enter i (keys i)).1.1 = .leader ∧
      (config.world.enter i (keys i)).2.fetching i = true

namespace InFlight

variable {i j : ι} {future : Nat} {outcome : Outcome Value Error}

omit [DecidableEq ι] [DecidableEq Key] in
/-- Who is fetching leads what is pending for its key. -/
theorem fetching_leads (here : InFlight keys config stages)
    (fetching : config.world.fetching i = true) : ∃ future, (stages i).Leads future := by
  have known := here.flying.known i
  cases stage : stages i with
  | fetching future => exact ⟨future, rfl⟩
  | asking | following _ | received _ _ | gone | fetched _ _ | settled _ _ | done _ _ =>
      rw [stage] at known
      simp_all [Known]

omit [DecidableEq ι] [DecidableEq Key] in
/-- A call that has ended is in a last stage. -/
theorem finished (here : InFlight keys config stages) (ended : config.tasks i = .finish outcome) :
    Finished outcome (stages i) := by
  have meets := here.meets i
  rwa [ended] at meets

omit [DecidableEq ι] [DecidableEq Key] in
/-- A leader under way has not ended. -/
theorem not_finished (here : InFlight keys config stages) (leads : (stages i).Leads future) :
    config.tasks i ≠ .finish outcome := by
  intro ended
  have last := here.finished ended
  cases stage : stages i with
  | fetching _ | fetched _ _ | settled _ _ =>
      rw [stage] at last
      exact last
  | asking | following _ | received _ _ | gone | done _ _ =>
      rw [stage] at leads
      exact leads

omit [DecidableEq ι] [DecidableEq Key] in
/-- What is pending has a leader that has not ended. -/
theorem cleared {key : Key} (here : InFlight keys config stages)
    (pending : config.world.pending key = some future) :
    ∃ j, keys j = key ∧ config.world.leader future = some j ∧
      ∀ outcome, config.tasks j ≠ .finish outcome := by
  obtain ⟨j, own, led, leads⟩ := here.flying.pending key future pending
  exact ⟨j, own, led, fun _ => here.not_finished leads⟩

/-- In every reachable state the calls share their fetches. -/
theorem shared (here : InFlight keys config stages) : Shared keys config where
  single i j first second key := by
    obtain ⟨_, one⟩ := here.fetching_leads first
    obtain ⟨_, other⟩ := here.fetching_leads second
    exact here.flying.leader_unique one other key
  joined i outcome ended := by
    have last := here.finished ended
    have known := here.flying.known i
    cases stage : stages i with
    | received future _ =>
        rw [stage] at known
        obtain ⟨⟨joined, j, -, led, key⟩, -⟩ := known
        exact ⟨future, j, joined, led, key⟩
    | gone =>
        rw [stage] at known
        obtain ⟨⟨future, joined, j, -, led, key⟩, -⟩ := known
        exact ⟨future, j, joined, led, key⟩
    | done future _ =>
        rw [stage] at known
        exact ⟨future, i, known.1.1, known.1.2.1, rfl⟩
    | asking | following _ | fetching _ | fetched _ _ | settled _ _ =>
        rw [stage] at last
        exact last.elim
  same i j future outcome joined leader stays ended := by
    have last := here.finished ended
    have known := here.flying.known i
    cases stage : stages i with
    | received own received =>
        rw [stage] at last known
        obtain rfl : outcome = received := last
        obtain rfl := Option.some.inj (joined.symm.trans known.1.1)
        exact here.flying.settled leader known.2.1
    | gone =>
        rw [stage] at known
        rw [known.2.1] at stays
        cases stays
    | done own received =>
        rw [stage] at last known
        obtain rfl : outcome = received := last
        obtain rfl := Option.some.inj (joined.symm.trans known.1.1)
        obtain rfl := Option.some.inj (leader.symm.trans known.1.2.1)
        exact known.2.1
    | asking | following _ | fetching _ | fetched _ _ | settled _ _ =>
        rw [stage] at last
        exact last.elim
  cleared key future pending := here.cleared pending
  again i ended := by
    unfold DedupWorld.enter
    cases pending : config.world.pending (keys i) with
    | none => exact ⟨rfl, Function.update_self _ _ _⟩
    | some future =>
        obtain ⟨j, own, led, running⟩ := here.cleared pending
        obtain ⟨outcome, last⟩ := ended j future led own
        exact absurd last (running outcome)

end InFlight

/-! ## What happens in the end -/

/-- The end of a fetch and a cancellation are not owed to a call; everything else is. -/
def owed : (step : DedupeStep Key Value Error) → step.Choice → Prop
  | .fetch, _ => False
  | .awaitFuture _, cancelled => cancelled = false
  | _, _ => True

/-- What is known of a leader whose fetch ended, and of a call that has its future. -/
structure Answered (world : DedupWorld ι Key Value Error) (i j : ι) (future : Nat)
    (outcome : Outcome Value Error) : Prop where
  joined : world.joined i = some future
  leader : world.leader future = some j
  fetched : world.fetched j = some outcome

section Answers

variable {i j : ι} {future : Nat} {outcome : Outcome Value Error}

omit [DecidableEq ι] [DecidableEq Key] in
theorem Answered.onward {world after : DedupWorld ι Key Value Error}
    (answered : Answered world i j future outcome) (onward : Onward world after) :
    Answered after i j future outcome :=
  ⟨onward.joined i future answered.joined, onward.leader future j answered.leader,
    onward.fetched j outcome answered.fetched⟩

omit [DecidableEq ι] [DecidableEq Key] in
/-- A leader whose fetch ended has its last steps before it or behind it. -/
theorem Answered.leader_stage (here : InFlight keys config stages)
    (answered : Answered config.world i j future outcome) :
    stages j = .fetched future outcome ∨ stages j = .settled future outcome ∨
      stages j = .done future outcome := by
  have known := here.flying.known j
  rcases (here.flying.led future j answered.leader).2 with leads | ⟨ended, done⟩
  · cases stage : stages j with
    | fetching own =>
        rw [stage] at known
        have nothing := answered.fetched
        rw [known.2.2] at nothing
        cases nothing
    | fetched own got | settled own got =>
        rw [stage] at leads known
        obtain rfl : own = future := leads
        obtain rfl := Option.some.inj (known.2.2.1.symm.trans answered.fetched)
        simp
    | asking | following _ | received _ _ | gone | done _ _ =>
        rw [stage] at leads
        exact leads.elim
  · rw [done] at known
    obtain rfl := Option.some.inj (known.2.1.symm.trans answered.fetched)
    exact .inr (.inr done)

omit [DecidableEq ι] [DecidableEq Key] in
/-- Who has the future of another leader waits for it, or has been given an outcome. -/
theorem Answered.follower_stage (here : InFlight keys config stages)
    (answered : Answered config.world i j future outcome) (other : i ≠ j) :
    stages i = .following future ∨ (∃ got, stages i = .received future got) ∨
      stages i = .gone := by
  have known := here.flying.known i
  have apart {own : Nat} {state} (owns : Owns config.world i own state) : False := by
    obtain rfl := Option.some.inj (owns.1.symm.trans answered.joined)
    exact other (Option.some.inj (owns.2.1.symm.trans answered.leader))
  cases stage : stages i with
  | asking =>
      rw [stage] at known
      have nothing := answered.joined
      rw [known.1] at nothing
      cases nothing
  | following own =>
      rw [stage] at known
      obtain rfl := Option.some.inj (known.1.1.symm.trans answered.joined)
      exact .inl rfl
  | received own got =>
      rw [stage] at known
      obtain rfl := Option.some.inj (known.1.1.symm.trans answered.joined)
      exact .inr (.inl ⟨got, rfl⟩)
  | gone => exact .inr (.inr rfl)
  | fetching _ | fetched _ _ | settled _ _ | done _ _ =>
      rw [stage] at known
      exact (apart known.1).elim

omit [DecidableEq ι] [DecidableEq Key] in
/-- A call in a last stage has ended. -/
theorem InFlight.ended (here : InFlight keys config stages) (last : Finished outcome (stages i)) :
    config.tasks i = .finish outcome := by
  have meets := here.meets i
  cases task : config.tasks i with
  | finish got =>
      rw [task] at meets
      have same : Finished got (stages i) := meets
      cases stage : stages i with
      | received _ _ | gone | done _ _ =>
          rw [stage] at last same
          rw [show got = outcome from same.trans last.symm]
      | asking | following _ | fetching _ | fetched _ _ | settled _ _ =>
          rw [stage] at last
          exact last.elim
  | suspend command resume =>
      rw [task] at meets
      have may := meets.1
      cases stage : stages i with
      | received _ _ | gone | done _ _ =>
          rw [stage] at may
          cases command <;> simp [callStages] at may
      | asking | following _ | fetching _ | fetched _ _ | settled _ _ =>
          rw [stage] at last
          exact last.elim

omit [DecidableEq ι] [DecidableEq Key] in
/-- A call that is not in a last stage is at a step that its stage allows. -/
theorem InFlight.suspended (here : InFlight keys config stages)
    (runs : ∀ outcome, ¬Finished outcome (stages i)) :
    ∃ step resume, config.tasks i = .suspend step resume ∧
      (callStages (keys i)).may step (stages i) := by
  have meets := here.meets i
  cases task : config.tasks i with
  | finish got =>
      rw [task] at meets
      exact absurd meets (runs got)
  | suspend command resume =>
      rw [task] at meets
      exact ⟨command, resume, rfl, meets.1⟩

/-! ### In a fair run -/

variable (run : FairRun (.free (deduplicator ι Key Value Error)) owed (manyCalls keys)) {n m : Nat}

/-- What is known at one moment is known at every later one. -/
theorem Answered.later (answered : Answered (run.config n).world i j future outcome)
    (later : n ≤ m) :
    Answered (run.config m).world i j future outcome := by
  obtain ⟨stages, here⟩ := inFlight_of_reaches (run.reaches n)
  exact answered.onward (here.onward (run.reaches_between later))

/-- A call that can perform its step whenever it is asked does perform it. -/
theorem call_acts {step : DedupeStep Key Value Error}
    {resume : step.Reply → DedupeCall Key Value Error}
    (suspended : (run.config n).tasks i = .suspend step resume)
    (ready : ∀ m, n ≤ m → ∃ choice, owed step choice ∧
      ((run.config m).world.perform i step choice).isSome) :
    ∃ m, n ≤ m ∧ ∃ stages reply next, (callStages (keys i)).may step (stages i) ∧
      (callStages (keys i)).after step (stages i) reply next ∧
      InFlight keys (run.config (m + 1)) (Function.update stages i next) := by
  obtain ⟨m, later, same, acts⟩ := run.acts fun m later same => by
    obtain ⟨choice, due, performs⟩ := ready m later
    obtain ⟨⟨reply, after⟩, performed⟩ := Option.isSome_iff_exists.mp performs
    exact ⟨step, resume, choice, reply, after, same.trans suspended, due, trivial, performed⟩
  obtain ⟨stages, here⟩ := inFlight_of_reaches (run.reaches m)
  obtain ⟨reply, next, may, moved, flight⟩ := here.acts acts (same.trans suspended)
  exact ⟨m, later, stages, reply, next, may, moved, flight⟩

/-- A future can be settled at any time. -/
theorem settle_performs {world : DedupWorld ι Key Value Error} :
    (world.perform i (.settle future outcome) ()).isSome := by
  rw [DedupWorld.perform]
  split <;> rfl

/-- The future of a leader whose fetch ended is settled in the end. -/
theorem Answered.settles (answered : Answered (run.config n).world i j future outcome) :
    ∃ m, n ≤ m ∧ (run.config m).world.futures[future]? = some (some outcome) := by
  obtain ⟨stages, here⟩ := inFlight_of_reaches (run.reaches n)
  have known := here.flying.known j
  rcases answered.leader_stage here with stage | stage | stage
  · obtain ⟨step, resume, suspended, may⟩ := here.suspended (i := j) fun _ => by
      simp [stage, Finished]
    rw [stage] at may
    cases step with
    | settle own got =>
        cases may
        obtain ⟨m, later, stages, pending, next, may, ⟨-, rfl⟩, flight⟩ :=
          call_acts run suspended
          fun _ _ => ⟨(), trivial, settle_performs⟩
        have settled := flight.flying.known j
        rw [Function.update_self] at settled
        exact ⟨m + 1, Nat.le_succ_of_le later, settled.1.2.2⟩
    | enter _ | fetch | awaitFuture _ | remove _ _ => simp [callStages] at may
  · rw [stage] at known
    exact ⟨n, Nat.le_refl _, known.1.2.2⟩
  · rw [stage] at known
    exact ⟨n, Nat.le_refl _, known.1.2.2⟩

/-- A leader whose fetch ended ends in the end. -/
theorem Answered.leader_ends (answered : Answered (run.config n).world i j future outcome) :
    ∃ m, n ≤ m ∧ (run.config m).tasks j = .finish outcome := by
  obtain ⟨k, later, state⟩ := answered.settles run
  obtain ⟨stages, here⟩ := inFlight_of_reaches (run.reaches k)
  have known := here.flying.known j
  rcases (answered.later run later).leader_stage here with stage | stage | stage
  · rw [stage] at known
    cases known.1.2.2.symm.trans state
  · obtain ⟨step, resume, suspended, may⟩ := here.suspended (i := j) fun _ => by
      simp [stage, Finished]
    rw [stage] at may
    cases step with
    | remove key own =>
        obtain ⟨rfl, _, same⟩ := may
        cases same
        obtain ⟨m, latest, stages, _, next, -, ⟨got, -, rfl⟩, flight⟩ :=
          call_acts run suspended fun _ _ => ⟨(), trivial, rfl⟩
        have known := flight.flying.known j
        rw [Function.update_self] at known
        have reached : n ≤ m + 1 := by omega
        have still := (answered.later run reached).fetched
        obtain rfl := Option.some.inj (known.2.1.symm.trans still)
        have ended : Finished got (Function.update stages j (.done future got) j) := by
          rw [Function.update_self]
          rfl
        exact ⟨m + 1, reached, flight.ended ended⟩
    | enter _ | fetch | awaitFuture _ | settle _ _ => simp [callStages] at may
  · exact ⟨k, later, here.ended (stage ▸ rfl)⟩

/-- Who has the future of another leader whose fetch ended is given the same outcome in the end,
or has been cancelled. -/
theorem Answered.follower_ends (answered : Answered (run.config n).world i j future outcome)
    (other : i ≠ j) : ∃ m, n ≤ m ∧ ((run.config m).tasks i = .finish outcome ∨
      (run.config m).world.cancelled i = true ∧
        (run.config m).tasks i = .finish (.error .cancelled)) := by
  obtain ⟨k, later, state⟩ := answered.settles run
  obtain ⟨stages, here⟩ := inFlight_of_reaches (run.reaches k)
  have given {stages : ι → CallStage Value Error} {m : Nat} {got : Outcome Value Error}
      (latest : k ≤ m) (there : InFlight keys (run.config m) stages)
      (last : stages i = .received future got) : (run.config m).tasks i = .finish outcome := by
    have known := there.flying.known i
    rw [last] at known
    have settled := (here.onward (run.reaches_between latest)).settled future outcome state
    obtain rfl := Option.some.inj (Option.some.inj (known.2.1.symm.trans settled))
    exact there.ended (last ▸ rfl)
  have left {stages : ι → CallStage Value Error} {m : Nat}
      (there : InFlight keys (run.config m) stages)
      (last : stages i = .gone) : (run.config m).world.cancelled i = true ∧
        (run.config m).tasks i = .finish (.error .cancelled) := by
    have known := there.flying.known i
    rw [last] at known
    exact ⟨known.2.1, there.ended (last ▸ rfl)⟩
  rcases (answered.later run later).follower_stage here other with stage | ⟨got, stage⟩ | stage
  · obtain ⟨step, resume, suspended, may⟩ := here.suspended (i := i) fun _ => by
      simp [stage, Finished]
    rw [stage] at may
    cases step with
    | awaitFuture own =>
        cases may
        obtain ⟨m, latest, stages, got, next, -, moved, flight⟩ :=
          call_acts run suspended fun m latest => ⟨false, rfl, by
            have settled := (here.onward (run.reaches_between latest)).settled future outcome state
            simp [DedupWorld.perform, settled]⟩
        have reached : n ≤ m + 1 := by omega
        rcases moved with rfl | ⟨-, rfl⟩
        · exact ⟨m + 1, reached,
            .inl (given (Nat.le_succ_of_le latest) flight (Function.update_self _ _ _))⟩
        · exact ⟨m + 1, reached, .inr (left flight (Function.update_self _ _ _))⟩
    | enter _ | fetch | remove _ _ | settle _ _ => simp [callStages] at may
  · exact ⟨k, later, .inl (given (Nat.le_refl k) here stage)⟩
  · exact ⟨k, later, .inr (left here stage)⟩

end Answers

/-- Every interleaving of any calls: at most one fetch for a key is in flight, a call that was not
cancelled ends with what its leader's fetch ended with, and what is pending has a leader that has
not ended, so that the next call after it fetches.  Where only fetches may take for ever, everybody
whose leader's fetch ended has ended in the end. -/
theorem dedupe_is_single_flight_and_live (keys : ι → Key) :
    (∀ final : Config ι (@DedupeStep.Reply Key Value Error) (Raised Error) Value
        (DedupWorld ι Key Value Error),
      Reaches (.free (deduplicator ι Key Value Error)) (manyCalls keys) final → Shared keys final) ∧
    ∀ (run : FairRun (.free (deduplicator ι Key Value Error)) owed (manyCalls keys)) n i j future
      outcome, Answered (run.config n).world i j future outcome →
      ∃ m, n ≤ m ∧ ((run.config m).tasks i = .finish outcome ∨
        (run.config m).world.cancelled i = true ∧
          (run.config m).tasks i = .finish (.error .cancelled)) := by
  constructor
  · intro final reach
    obtain ⟨stages, here⟩ := inFlight_of_reaches reach
    exact here.shared
  · intro run n i j future outcome answered
    by_cases leads : i = j
    · subst leads
      obtain ⟨m, later, ended⟩ := answered.leader_ends run
      exact ⟨m, later, .inl ended⟩
    · exact answered.follower_ends run leads

end Runs

/-- A fetch that gives `7`, and a wait that is not cancelled. -/
def plainAnswer : (step : DedupeStep Unit Nat Unit) → step.Choice
  | .enter _ => ()
  | .fetch => .ok 7
  | .awaitFuture _ => false
  | .settle _ _ => ()
  | .remove _ _ => ()

/-- The four steps of the leader around the two of the follower. -/
def sharedFetch : List (Turn (deduplicator Bool Unit Nat Unit)) :=
  [.run true plainAnswer, .run false plainAnswer, .run true plainAnswer, .run true plainAnswer,
    .run false plainAnswer, .run true plainAnswer]

/-- A follower ends with what its leader fetched, in a state that is part of a fair run. -/
theorem follower_shares_the_fetch :
    ∃ (run : FairRun (.free (deduplicator Bool Unit Nat Unit)) owed (manyCalls fun _ : Bool => ()))
      (n : Nat), (run.config n).tasks false = .finish (.ok 7) ∧
        Shared (fun _ : Bool => ()) (run.config n) ∧
        ∃ m, n ≤ m ∧ ((run.config m).tasks false = .finish (.ok 7) ∨
          (run.config m).world.cancelled false = true ∧
            (run.config m).tasks false = .finish (.error .cancelled)) := by
  have played : ∃ final,
      (manyCalls fun _ : Bool => ()).play (.free (deduplicator Bool Unit Nat Unit)) sharedFetch =
        some final ∧
      final.tasks true = .finish (.ok 7) ∧ final.tasks false = .finish (.ok 7) ∧
        final.world.joined false = some 0 ∧ final.world.leader 0 = some true ∧
        final.world.fetched true = some (.ok 7) := ⟨_, rfl, rfl, rfl, rfl, rfl, rfl⟩
  obtain ⟨final, ran, leader, follower, joined, led, fetched⟩ := played
  have ended (i : Bool) : ∃ outcome, final.tasks i = .finish outcome := by
    cases i with
    | false => exact ⟨.ok 7, follower⟩
    | true => exact ⟨.ok 7, leader⟩
  have fair : ∃ (run : FairRun _ owed _) (n : Nat), run.config n = final :=
    FairRun.exists_of_reaches (Config.play_reaches ran) ended
  obtain ⟨run, n, rfl⟩ := fair
  have both := @dedupe_is_single_flight_and_live Bool Unit Nat Unit _ _ fun _ => ()
  exact ⟨run, n, follower, both.1 _ (run.reaches n),
    both.2 run n false true 0 (.ok 7) ⟨joined, led, fetched⟩⟩

end Dedup
end DataGateway
