import DataGateway.Cache.CachedCall

/-!
# Who receives a shared fetch

As long as no caller is cancelled while the fetch it waits for is unfinished, everyone who shares
the fetch receives what the provider call returned or raised.  A fetch in flight has an owner that
shares it and is still going to take it out.
-/

namespace DataGateway
namespace Cache

open Coroutine Machine

variable {ι Key Value Error : Type}

/-- How far a caller has come. -/
inductive CallPhase (Value Error : Type)
  | asking
  | waiting (fetch : Nat)
  | received (fetch : Nat) (result : Except Error Value)
  /-- The caller was cancelled. -/
  | gone

/-- How far a caller has come, and the fetch it still has to take out of flight. -/
structure CallStage (Key Value Error : Type) where
  phase : CallPhase Value Error
  owned : Option (Key × Nat)

/-- The contract of a caller with this key. -/
def callStages (key : Key) :
    Contract (@CallStep.Reply Key Value Error) (CallStage Key Value Error) where
  may command stage := match command with
    | .cacheGet _ => stage.phase = .asking
    | .join other => other = key ∧ stage = ⟨.asking, none⟩
    | .awaitFetch fetch => stage.phase = .waiting fetch
    | .cacheSet _ _ => ∃ fetch result, stage.phase = .received fetch (.ok result)
    | .release other fetch => stage.owned = some (other, fetch)
  after command stage reply next := match command, reply with
    | .cacheGet _, .error .cancelled => next = ⟨.gone, stage.owned⟩
    | .cacheGet _, .error (.provider _) => False
    | .cacheGet _, _ => next = stage
    | .join key, reply => next = ⟨.waiting reply.1, if reply.2 then some (key, reply.1) else none⟩
    | .awaitFetch fetch, .ok value => next = ⟨.received fetch (.ok value), stage.owned⟩
    | .awaitFetch fetch, .error (.provider error) =>
        next = ⟨.received fetch (.error error), stage.owned⟩
    | .awaitFetch _, .error .cancelled => next = ⟨.gone, stage.owned⟩
    | .awaitFetch _, .error (.cache _) => False
    | .cacheSet _ _, .error .cancelled => next = ⟨.gone, stage.owned⟩
    | .cacheSet _ _, .error (.provider _) => False
    | .cacheSet _ _, _ => next = stage
    | .release _ _, _ => next = ⟨stage.phase, none⟩

/-- What a caller in this phase may end with. -/
def Ended (outcome : Except (CallError Error) Value) : CallPhase Value Error → Prop
  | .asking => outcome ≠ .error .cancelled ∧ ∀ error, outcome ≠ .error (.provider error)
  | .waiting _ => False
  | .received _ result => outcome = result.mapError .provider ∨
      ∃ value error, result = .ok value ∧ outcome = .error (.cache error)
  | .gone => outcome = .error .cancelled

/-- A caller ends without owning a fetch. -/
def Finished (outcome : Except (CallError Error) Value)
    (stage : CallStage Key Value Error) : Prop :=
  Ended outcome stage.phase ∧ stage.owned = none

section Program

variable {key : Key} {fetch : Nat} {owner : Bool}

/-- The second block under the lock takes the fetch out. -/
theorem release_meets {phase : CallPhase Value Error} (post : CallStage Key Value Error → Prop)
    (done : post ⟨phase, none⟩) :
    Meets (callStages key) (fun outcome last => outcome = .ok () ∧ post last)
      (⟨phase, if owner then some (key, fetch) else none⟩ : CallStage Key Value Error)
      (Caller.release owner key fetch) := by
  cases owner with
  | false => exact ⟨rfl, done⟩
  | true =>
      refine ⟨rfl, fun _ next moved => ⟨rfl, ?_⟩⟩
      rw [moved]
      exact done

/-- The wait returns what the provider call returned, or raises what it raised. -/
theorem awaitFetch_meets {owned : Option (Key × Nat)} :
    Meets (callStages key) (fun outcome last => last.owned = owned ∧ match outcome with
        | .ok value => last.phase = .received fetch (.ok value)
        | .error _ => Ended outcome last.phase)
      (⟨.waiting fetch, owned⟩ : CallStage Key Value Error) (Caller.awaitFetch fetch) := by
  refine ⟨rfl, fun reply next moved => ?_⟩
  rcases reply with (_ | error | error) | value
  · obtain rfl : next = ⟨.gone, owned⟩ := moved
    exact ⟨rfl, rfl⟩
  · obtain rfl : next = ⟨.received fetch (.error error), owned⟩ := moved
    exact ⟨rfl, .inl rfl⟩
  · exact moved.elim
  · obtain rfl : next = ⟨.received fetch (.ok value), owned⟩ := moved
    exact ⟨rfl, rfl⟩

/-- Storing the result keeps it, or raises an exception of its own. -/
theorem store_meets {owned : Option (Key × Nat)} {result : Value} :
    Meets (callStages key) (fun outcome last => last.owned = owned ∧ match outcome with
        | .ok _ => last.phase = .received fetch (.ok result)
        | .error error => Ended (.error error : Except _ Value) last.phase)
      (⟨.received fetch (.ok result), owned⟩ : CallStage Key Value Error)
      (Caller.store owner key result) := by
  cases owner with
  | false => exact ⟨rfl, rfl⟩
  | true =>
      refine ⟨⟨fetch, result, rfl⟩, fun reply next moved => ?_⟩
      rcases reply with (_ | error | error) | _
      · obtain rfl : next = ⟨.gone, owned⟩ := moved
        exact ⟨rfl, rfl⟩
      · exact moved.elim
      · obtain rfl : next = ⟨.received fetch (.ok result), owned⟩ := moved
        exact ⟨rfl, .inr ⟨result, error, rfl, rfl⟩⟩
      · obtain rfl : next = ⟨.received fetch (.ok result), owned⟩ := moved
        exact ⟨rfl, rfl⟩

/-- The shared part of the call receives what the fetch ended with. -/
theorem sharedFetch_meets :
    Meets (callStages key) Finished
      (⟨.waiting fetch, if owner then some (key, fetch) else none⟩ : CallStage Key Value Error)
      (sharedFetch key fetch owner) := by
  have body : Meets (callStages key)
      (fun outcome last => last.owned = (if owner then some (key, fetch) else none) ∧
        Ended outcome last.phase)
      (⟨.waiting fetch, if owner then some (key, fetch) else none⟩ : CallStage Key Value Error)
      ((Caller.awaitFetch fetch).bind fun result =>
        (Caller.store owner key result).bind fun _ => finish (.ok result)) := by
    refine awaitFetch_meets.bind (fun result last ⟨owned, phase⟩ => ?_) fun _ _ kept => kept
    obtain ⟨_, _⟩ := last
    subst owned phase
    exact store_meets.bind (fun _ last ⟨owned, phase⟩ => ⟨owned, phase ▸ .inl rfl⟩)
      fun _ _ kept => kept
  refine body.ensuring fun outcome last ⟨owned, ended⟩ => ?_
  obtain ⟨phase, _⟩ := last
  subst owned
  refine (release_meets (Finished outcome) ⟨ended, rfl⟩).mono fun _ _ ⟨done, kept⟩ => ?_
  subst done
  exact kept

/-- A caller keeps the contract of its key. -/
theorem executeAlpacaCachedCall_meets :
    Meets (callStages key) Finished (⟨.asking, none⟩ : CallStage Key Value Error)
      (executeAlpacaCachedCall key) := by
  refine ⟨rfl, fun reply next moved => ?_⟩
  rcases reply with (_ | error | error) | _ | cached
  · obtain rfl : next = ⟨.gone, none⟩ := moved
    exact ⟨rfl, rfl⟩
  · exact moved.elim
  · obtain rfl : next = ⟨.asking, none⟩ := moved
    exact ⟨⟨by simp, by simp⟩, rfl⟩
  · obtain rfl : next = ⟨.asking, none⟩ := moved
    refine ⟨⟨rfl, rfl⟩, fun joined next moved => ?_⟩
    rw [moved]
    exact sharedFetch_meets
  · obtain rfl : next = ⟨.asking, none⟩ := moved
    exact ⟨⟨by simp, by simp⟩, rfl⟩

end Program

section Invariant

variable {keys : ι → Key} {world after : FlightWorld ι Key Value Error}
variable {stages : ι → CallStage Key Value Error} {i : ι}

/-- What the world knows of a caller in a phase. -/
def Tracked (keys : ι → Key) (world : FlightWorld ι Key Value Error) (i : ι) :
    CallPhase Value Error → Prop
  | .asking => world.joined i = none
  | .waiting fetch => world.joined i = some fetch ∧ world.startedFor fetch = some (keys i) ∧
      fetch < world.fetches.length
  | .received fetch result => world.joined i = some fetch ∧ world.startedFor fetch = some (keys i) ∧
      world.fetches[fetch]? = some (Fetch.ended result)
  | .gone => world.cancelled i = true

/-- No fetch is cancelled, every fetch in flight has an owner among the callers that share it, and
every caller is where it was. -/
structure Shared (keys : ι → Key) (world : FlightWorld ι Key Value Error)
    (stages : ι → CallStage Key Value Error) : Prop where
  intact : ∀ (fetch : Nat) state, world.fetches[fetch]? = some state →
    state = Fetch.running ∨ ∃ result, state = Fetch.ended result
  owned : ∀ key fetch, world.inflight key = some fetch →
    (world.startedFor fetch = some key ∧ fetch < world.fetches.length) ∧
      ∃ i, keys i = key ∧ world.joined i = some fetch ∧ (stages i).owned = some (key, fetch)
  tracked : ∀ i, Tracked keys world i (stages i).phase

/-- What a caller knows stays true when its own entries stay and the fetches only go on. -/
theorem Tracked.mono {phase : CallPhase Value Error} (tracked : Tracked keys world i phase)
    (joined : after.joined i = world.joined i)
    (cancelled : world.cancelled i = true → after.cancelled i = true)
    (length : world.fetches.length ≤ after.fetches.length)
    (started : ∀ fetch < world.fetches.length, after.startedFor fetch = world.startedFor fetch)
    (finished : ∀ (fetch : Nat) result, world.fetches[fetch]? = some (Fetch.ended result) →
      after.fetches[fetch]? = some (Fetch.ended result)) : Tracked keys after i phase := by
  cases phase with
  | asking => exact joined.trans tracked
  | waiting fetch =>
      obtain ⟨own, key, present⟩ := tracked
      exact ⟨joined.trans own, (started fetch present).trans key, Nat.lt_of_lt_of_le present length⟩
  | received fetch result =>
      obtain ⟨own, key, done⟩ := tracked
      have present : fetch < world.fetches.length := (List.getElem?_eq_some_iff.mp done).1
      exact ⟨joined.trans own, (started fetch present).trans key, finished fetch result done⟩
  | gone => exact cancelled tracked

variable [DecidableEq ι]

/-- A caller moves without touching the fetches. -/
theorem Shared.move {next : CallStage Key Value Error} (shared : Shared keys world stages)
    (inflight : after.inflight = world.inflight) (fetches : after.fetches = world.fetches)
    (started : after.startedFor = world.startedFor)
    (others : ∀ j, j ≠ i →
      after.joined j = world.joined j ∧ after.cancelled j = world.cancelled j)
    (own : (stages i).owned ≠ none → after.joined i = world.joined i)
    (owned : next.owned = (stages i).owned) (tracked : Tracked keys after i next.phase) :
    Shared keys after (Function.update stages i next) := by
  refine ⟨fetches ▸ shared.intact, fun key fetch flying => ?_, fun j => ?_⟩
  · rw [inflight] at flying
    obtain ⟨present, j, named, joined, owner⟩ := shared.owned key fetch flying
    refine ⟨by rwa [started, fetches], j, named, ?_⟩
    by_cases same : j = i
    · subst same
      rw [Function.update_self, owned, own (by simp [owner])]
      exact ⟨joined, owner⟩
    · rw [Function.update_of_ne same, (others j same).1]
      exact ⟨joined, owner⟩
  · by_cases same : j = i
    · subst same
      rwa [Function.update_self]
    · obtain ⟨joined, cancelled⟩ := others j same
      rw [Function.update_of_ne same]
      exact (shared.tracked j).mono joined (by simp [cancelled])
        (Nat.le_of_eq (by rw [fetches])) (by simp [started]) (by simp [fetches])

/-- A cancelled wait is known to the world, any other one leaves it alone. -/
theorem Shared.mark {cancelled : Bool} {next : CallStage Key Value Error}
    (shared : Shared keys world stages) (owned : next.owned = (stages i).owned)
    (phase : if cancelled then next.phase = .gone else next.phase = (stages i).phase) :
    Shared keys (world.marking i cancelled) (Function.update stages i next) := by
  refine shared.move rfl rfl rfl (fun j other => ⟨rfl, Function.update_of_ne other _ _⟩)
    (fun _ => rfl) owned ?_
  cases cancelled with
  | true =>
      rw [if_pos rfl] at phase
      rw [phase]
      exact Function.update_self _ _ _
  | false =>
      rw [if_neg Bool.false_ne_true] at phase
      rw [phase]
      exact (shared.tracked i).mono rfl (fun before => by simp [FlightWorld.marking, before])
        (Nat.le_refl _) (fun _ _ => rfl) fun _ _ => id

/-- Another caller keeps track when a fetch is started. -/
theorem Tracked.start [DecidableEq Key] {j : ι} {phase : CallPhase Value Error}
    (tracked : Tracked keys world j phase) (other : j ≠ i)
    (flying : world.inflight (keys i) = none) : Tracked keys (world.join i (keys i)).2 j phase := by
  unfold FlightWorld.join
  rw [flying]
  refine tracked.mono (Function.update_of_ne other _ _) id (by simp) (fun fetch present => ?_)
    fun fetch result done => ?_
  · exact Function.update_of_ne (Nat.ne_of_lt present) _ _
  · have present := (List.getElem?_eq_some_iff.mp done).1
    exact (List.getElem?_append_left present).trans done

/-- A caller that starts a fetch owns it. -/
theorem Shared.start [DecidableEq Key] (shared : Shared keys world stages)
    (asking : stages i = ⟨.asking, none⟩) (flying : world.inflight (keys i) = none) :
    Shared keys (world.join i (keys i)).2 (Function.update stages i
      ⟨.waiting world.fetches.length, some (keys i, world.fetches.length)⟩) := by
  have others : ∀ j, j ≠ i → Tracked keys (world.join i (keys i)).2 j (stages j).phase :=
    fun j other => (shared.tracked j).start other flying
  unfold FlightWorld.join at others ⊢
  rw [flying] at others ⊢
  refine ⟨fun fetch state found => ?_, fun key fetch taken => ?_, fun j => ?_⟩
  · rw [List.getElem?_append] at found
    split at found
    · exact shared.intact fetch state found
    · exact .inl (List.mem_singleton.mp (List.mem_of_getElem? found))
  · by_cases same : key = keys i
    · subst same
      obtain rfl : world.fetches.length = fetch := by simpa using taken
      exact ⟨⟨Function.update_self _ _ _, by simp⟩, i, rfl, Function.update_self _ _ _,
        by rw [Function.update_self]⟩
    · dsimp only at taken
      rw [Function.update_of_ne same] at taken
      obtain ⟨⟨started, present⟩, j, named, joined, owner⟩ := shared.owned key fetch taken
      have other : j ≠ i := by
        rintro rfl
        rw [asking] at owner
        cases owner
      refine ⟨⟨?_, ?_⟩, j, named, ?_, ?_⟩
      · exact (Function.update_of_ne (Nat.ne_of_lt present) _ _).trans started
      · exact Nat.lt_of_lt_of_le present (by simp)
      · exact (Function.update_of_ne other _ _).trans joined
      · rw [Function.update_of_ne other, owner]
  · by_cases same : j = i
    · subst same
      rw [Function.update_self]
      exact ⟨Function.update_self _ _ _, Function.update_self _ _ _, by simp⟩
    · rw [Function.update_of_ne same]
      exact others j same

/-- A caller waits for the fetch in flight, or for one that it starts. -/
theorem Shared.join [DecidableEq Key] (shared : Shared keys world stages)
    (asking : stages i = ⟨.asking, none⟩) :
    Shared keys (world.join i (keys i)).2 (Function.update stages i
      ⟨.waiting (world.join i (keys i)).1.1,
        if (world.join i (keys i)).1.2 then some (keys i, (world.join i (keys i)).1.1)
          else none⟩) := by
  cases flying : world.inflight (keys i) with
  | some fetch =>
      unfold FlightWorld.join
      rw [flying]
      obtain ⟨⟨started, present⟩, _⟩ := shared.owned (keys i) fetch flying
      refine shared.move rfl rfl rfl (fun j other => ⟨Function.update_of_ne other _ _, rfl⟩)
        (fun owns => absurd (congrArg CallStage.owned asking) owns) ?_ ?_
      · rw [asking]
        rfl
      · exact ⟨Function.update_self _ _ _, started, present⟩
  | none =>
      have started := shared.start asking flying
      unfold FlightWorld.join at started ⊢
      rw [flying] at started ⊢
      exact started

/-- A caller that resumes has what the provider call ended with, unless it was cancelled. -/
theorem Shared.resume {fetch : Nat} {cancelled : Bool} {reply : Except (CallError Error) Value}
    (shared : Shared keys world stages) (waiting : (stages i).phase = .waiting fetch)
    (resumed : world.resume i fetch cancelled = some (reply, after)) :
    ∃ next, (callStages (keys i)).after (CallStep.awaitFetch fetch) (stages i) reply next ∧
      Shared keys after (Function.update stages i next) := by
  have tracked := shared.tracked i
  rw [waiting] at tracked
  obtain ⟨joined, started, _⟩ := tracked
  unfold FlightWorld.resume at resumed
  dsimp only at resumed
  split at resumed
  next result found =>
    obtain ⟨rfl, rfl⟩ := Prod.mk.inj (Option.some.inj resumed)
    have moves (phase : CallPhase Value Error)
        (here : Tracked keys
          { world.marking i cancelled with awaiting := Function.update world.awaiting i none }
          i phase) :
        Shared keys
          { world.marking i cancelled with awaiting := Function.update world.awaiting i none }
          (Function.update stages i ⟨phase, (stages i).owned⟩) :=
      shared.move rfl rfl rfl (fun j other => ⟨rfl, Function.update_of_ne other _ _⟩)
        (fun _ => rfl) rfl here
    cases cancelled with
    | true => exact ⟨_, rfl, moves .gone (Function.update_self _ _ _)⟩
    | false =>
        cases result with
        | ok value =>
            exact ⟨_, rfl, moves (.received fetch (.ok value)) ⟨joined, started, found⟩⟩
        | error error =>
            exact ⟨_, rfl, moves (.received fetch (.error error)) ⟨joined, started, found⟩⟩
  next found =>
    rcases shared.intact fetch _ found with running | ⟨result, ended⟩
    · cases running
    · cases ended
  · cases resumed

/-- An owner takes its fetch out of flight. -/
theorem Shared.release [DecidableEq Key] {key : Key} {fetch : Nat}
    (shared : Shared keys world stages) (owner : (stages i).owned = some (key, fetch)) :
    Shared keys (world.release key fetch) (Function.update stages i ⟨(stages i).phase, none⟩) := by
  have kept : ∀ other taken, (world.release key fetch).inflight other = some taken →
      world.inflight other = some taken ∧ (other, taken) ≠ (key, fetch) := by
    intro other taken flying
    unfold FlightWorld.release at flying
    split at flying
    · by_cases same : other = key
      · subst same
        simp at flying
      · dsimp only at flying
        rw [Function.update_of_ne same] at flying
        exact ⟨flying, fun eq => same (congrArg Prod.fst eq)⟩
    next gone =>
      refine ⟨flying, fun eq => gone ?_⟩
      obtain ⟨rfl, rfl⟩ := Prod.mk.inj eq
      exact flying
  have rest : (world.release key fetch).fetches = world.fetches ∧
      (world.release key fetch).startedFor = world.startedFor ∧
      (world.release key fetch).joined = world.joined ∧
      (world.release key fetch).cancelled = world.cancelled := by
    unfold FlightWorld.release
    split <;> exact ⟨rfl, rfl, rfl, rfl⟩
  obtain ⟨fetches, startedFor, joined, cancelled⟩ := rest
  refine ⟨fetches ▸ shared.intact, fun other taken flying => ?_, fun j => ?_⟩
  · obtain ⟨before, apart⟩ := kept other taken flying
    obtain ⟨present, j, named, shares, holder⟩ := shared.owned other taken before
    refine ⟨by rwa [startedFor, fetches], j, named, by rwa [joined], ?_⟩
    rw [Function.update_of_ne, holder]
    rintro rfl
    exact apart (Option.some.inj (holder.symm.trans owner))
  · have same : (Function.update stages i ⟨(stages i).phase, none⟩ j).phase = (stages j).phase := by
      by_cases here : j = i
      · subst here
        rw [Function.update_self]
      · rw [Function.update_of_ne here]
    rw [same]
    exact (shared.tracked j).mono (by rw [joined]) (by rw [cancelled]; exact id)
      (Nat.le_of_eq (by rw [fetches])) (by simp [startedFor]) (by simp [fetches])

variable [DecidableEq Key]

/-- One step of a caller that keeps its contract. -/
theorem Shared.step {step : CallStep Key Value} {choice : step.Outcome Error}
    {reply : step.Reply Error} (shared : Shared keys world stages)
    (permitted : (callStages (keys i)).may step (stages i))
    (performed : FlightWorld.perform i step choice world = some (reply, after)) :
    ∃ next, (callStages (keys i)).after step (stages i) reply next ∧
      Shared keys after (Function.update stages i next) := by
  cases step with
  | cacheGet key =>
      obtain ⟨rfl, rfl⟩ := Prod.mk.inj (Option.some.inj performed)
      cases choice with
      | cancelled => exact ⟨_, rfl, shared.mark rfl rfl⟩
      | returned value => exact ⟨_, rfl, shared.mark rfl rfl⟩
      | raised error => exact ⟨_, rfl, shared.mark rfl rfl⟩
  | join key =>
      obtain ⟨rfl, rfl⟩ := Prod.mk.inj (Option.some.inj performed)
      obtain ⟨rfl, asking⟩ := permitted
      exact ⟨_, rfl, shared.join asking⟩
  | awaitFetch fetch => exact shared.resume permitted performed
  | cacheSet key value =>
      obtain ⟨rfl, rfl⟩ := Prod.mk.inj (Option.some.inj performed)
      cases choice with
      | cancelled => exact ⟨_, rfl, shared.mark rfl rfl⟩
      | returned value => exact ⟨_, rfl, shared.mark rfl rfl⟩
      | raised error => exact ⟨_, rfl, shared.mark rfl rfl⟩
  | release key fetch =>
      obtain ⟨rfl, rfl⟩ := Prod.mk.inj (Option.some.inj performed)
      exact ⟨_, rfl, shared.release permitted⟩

omit [DecidableEq ι] [DecidableEq Key] in
/-- A fetch that ends was seen by nobody before. -/
theorem Shared.set {fetch : Nat} {result : Except Error Value} (shared : Shared keys world stages)
    (unfinished : world.fetches[fetch]? = some .running) :
    Shared keys { world with fetches := world.fetches.set fetch (.ended result) } stages := by
  refine ⟨fun other state found => ?_, fun key taken flying => ?_, fun j => ?_⟩
  · rw [List.getElem?_set] at found
    split at found
    · split at found
      · exact .inr ⟨result, (Option.some.inj found).symm⟩
      · cases found
    · exact shared.intact other state found
  · obtain ⟨⟨started, present⟩, owner⟩ := shared.owned key taken flying
    exact ⟨⟨started, by simpa using present⟩, owner⟩
  · refine (shared.tracked j).mono rfl id (by simp) (fun _ _ => rfl) fun other ended found => ?_
    have apart : fetch ≠ other := by
      rintro rfl
      rw [unfinished] at found
      cases found
    exact (List.getElem?_set_ne apart).trans found

/-- What happens without a caller, when no waiting caller is cancelled. -/
theorem Shared.disturb {move : FlightMove ι Value Error} (shared : Shared keys world stages)
    (permitted : (noWaiterCancelled ι Key Value Error).permits move world) :
    Shared keys (FlightWorld.disturb move world) stages := by
  cases move with
  | cancel j =>
      unfold FlightWorld.disturb
      dsimp only
      split
      · exact shared
      next fetch awaiting =>
        have finished := permitted fetch awaiting
        split
        next running => exact absurd finished (by simp [running, Fetch.unfinished])
        next cancelling => exact absurd finished (by simp [cancelling, Fetch.unfinished])
        · exact shared
  | complete fetch result =>
      unfold FlightWorld.disturb
      dsimp only
      split
      next running => exact shared.set running
      next cancelling =>
        rcases shared.intact fetch _ cancelling with running | ⟨result, ended⟩
        · cases running
        · cases ended
      · exact shared
  | abort fetch =>
      unfold FlightWorld.disturb
      dsimp only
      split
      next cancelling =>
        rcases shared.intact fetch _ cancelling with running | ⟨result, ended⟩
        · cases running
        · cases ended
      · exact shared

end Invariant

/-! ## Runs -/

section Runs

variable [DecidableEq ι] [DecidableEq Key]

/-- Any number of callers, each with its key. -/
def manyCalls (Value Error : Type) (keys : ι → Key) :
    Config ι (@CallStep.Reply Key Value Error) (CallError Error) Value
      (FlightWorld ι Key Value Error) :=
  ⟨⟨fun _ => none, [], fun _ => none, fun _ => none, fun _ => none, fun _ => false⟩,
    fun i => executeAlpacaCachedCall (keys i)⟩

/-- What a caller that was not cancelled gets: without a fetch, a cached value or an exception
of the cache; with a fetch, what the provider call returned or raised for its key, unless
storing the result raised. -/
def ServedWith (keys : ι → Key) (world : FlightWorld ι Key Value Error) (i : ι)
    (outcome : Except (CallError Error) Value) : Prop :=
  match world.joined i with
  | none => outcome ≠ .error .cancelled ∧ ∀ error, outcome ≠ .error (.provider error)
  | some fetch => world.startedFor fetch = some (keys i) ∧
      ∃ result, world.fetches[fetch]? = some (.ended result) ∧
        (outcome = result.mapError .provider ∨
          ∃ value error, result = .ok value ∧ outcome = .error (.cache error))

omit [DecidableEq ι] [DecidableEq Key] in
/-- A caller that has ended has been served, or was cancelled. -/
theorem Tracked.served {keys : ι → Key} {world : FlightWorld ι Key Value Error} {i : ι}
    {phase : CallPhase Value Error} {outcome : Except (CallError Error) Value}
    (tracked : Tracked keys world i phase) (ended : Ended outcome phase)
    (spared : world.cancelled i = false) : ServedWith keys world i outcome := by
  unfold ServedWith
  cases phase with
  | asking =>
      rw [show world.joined i = none from tracked]
      exact ended
  | waiting fetch => exact ended.elim
  | received fetch result =>
      obtain ⟨joined, started, done⟩ := tracked
      rw [joined]
      exact ⟨started, result, done, ended⟩
  | gone => exact absurd (spared.symm.trans tracked) Bool.false_ne_true

/-- Whatever a caller is about to do, it can do, or it waits for a provider call. -/
theorem Shared.proceeds {keys : ι → Key} {world : FlightWorld ι Key Value Error}
    {stages : ι → CallStage Key Value Error} {i : ι} {step : CallStep Key Value}
    (shared : Shared keys world stages) (permitted : (callStages (keys i)).may step (stages i)) :
    (∃ (choice : step.Outcome Error) (served : step.Reply Error × FlightWorld ι Key Value Error),
        FlightWorld.perform i step choice world = some served) ∨
      ∃ fetch, step = .awaitFetch fetch ∧ world.fetches[fetch]? = some .running := by
  cases step with
  | cacheGet key => exact .inl ⟨.cancelled, _, rfl⟩
  | join key => exact .inl ⟨(), _, rfl⟩
  | cacheSet key value => exact .inl ⟨.cancelled, _, rfl⟩
  | release key fetch => exact .inl ⟨(), _, rfl⟩
  | awaitFetch fetch =>
      have tracked := shared.tracked i
      rw [show (stages i).phase = .waiting fetch from permitted] at tracked
      obtain ⟨_, _, present⟩ := tracked
      have found := List.getElem?_eq_getElem present
      rcases shared.intact fetch _ found with running | ⟨result, ended⟩
      · exact .inr ⟨fetch, rfl, found.trans (congrArg some running)⟩
      · refine .inl ⟨false, ?_⟩
        show ∃ served, world.resume i fetch false = some served
        rw [FlightWorld.resume, found, ended]
        exact ⟨_, rfl⟩

/-- What the owner of a fetch may still have to do before it has taken the fetch out of flight. -/
def Serves (key : Key) (fetch : Nat) : CallStep Key Value → Prop
  | .awaitFetch other => other = fetch
  | .cacheSet _ _ => True
  | .release other taken => other = key ∧ taken = fetch
  | .cacheGet _ | .join _ => False

omit [DecidableEq ι] [DecidableEq Key] in
/-- An owner waits for its fetch, stores the result or takes the fetch out. -/
theorem Shared.serves {keys : ι → Key} {world : FlightWorld ι Key Value Error}
    {stages : ι → CallStage Key Value Error} {i : ι} {key : Key} {fetch : Nat}
    {step : CallStep Key Value} (shared : Shared keys world stages)
    (joined : world.joined i = some fetch) (owner : (stages i).owned = some (key, fetch))
    (permitted : (callStages (keys i)).may step (stages i)) : Serves key fetch step := by
  have tracked := shared.tracked i
  cases step with
  | cacheGet _ =>
      rw [show (stages i).phase = .asking from permitted] at tracked
      cases joined.symm.trans tracked
  | join _ =>
      rw [permitted.2] at owner
      cases owner
  | awaitFetch other =>
      rw [show (stages i).phase = .waiting other from permitted] at tracked
      exact Option.some.inj (tracked.1.symm.trans joined)
  | cacheSet _ _ => trivial
  | release other taken => exact Prod.mk.inj (Option.some.inj (permitted.symm.trans owner))

/-- While no caller is cancelled as it waits for an unfinished fetch: every caller that was not
cancelled itself is served, a caller only ever waits for a provider call, a fetch in flight has an
owner among the callers of its key that is still on its way to take it out, and once the callers of
a key have ended none of its fetches is in flight and the next miss starts one. -/
theorem cancelled_caller_spares_the_others {keys : ι → Key}
    {final : Config ι (@CallStep.Reply Key Value Error) (CallError Error) Value
      (FlightWorld ι Key Value Error)}
    (run : Reaches (noWaiterCancelled ι Key Value Error) (manyCalls Value Error keys) final) :
    (∀ i outcome, final.tasks i = .finish outcome → final.world.cancelled i = false →
      ServedWith keys final.world i outcome) ∧
    (∀ i step resume, final.tasks i = .suspend step resume →
      (∃ choice served, (flightMachine ι Key Value Error).perform i step choice final.world =
        some served) ∨
      ∃ fetch, step = .awaitFetch fetch ∧ final.world.fetches[fetch]? = some .running) ∧
    (∀ key fetch, final.world.inflight key = some fetch →
      ∃ i step resume, keys i = key ∧ final.world.joined i = some fetch ∧
        final.tasks i = .suspend step resume ∧ Serves key fetch step) ∧
    (∀ key, (∀ i, keys i = key → ∃ outcome, final.tasks i = .finish outcome) →
      final.world.inflight key = none ∧
        ∀ i, (final.world.join i key).1 = (final.world.fetches.length, true)) := by
  have start : Shared keys (manyCalls Value Error keys).world fun _ => ⟨.asking, none⟩ :=
    ⟨by simp [manyCalls], by simp [manyCalls], fun _ => rfl⟩
  obtain ⟨stages, shared, meets⟩ := run.invariant
    (fun _ _ _ _ _ _ _ kept permitted _ performed => kept.step permitted performed)
    (fun _ _ _ kept permitted => kept.disturb permitted) start
    fun i => executeAlpacaCachedCall_meets
  have owners (key : Key) (fetch : Nat) (flying : final.world.inflight key = some fetch) :
      ∃ i step resume, keys i = key ∧ final.world.joined i = some fetch ∧
        final.tasks i = .suspend step resume ∧ Serves key fetch step := by
    obtain ⟨_, i, named, joined, owner⟩ := shared.owned key fetch flying
    have keeps := meets i
    cases task : final.tasks i with
    | finish outcome =>
        rw [task] at keeps
        cases keeps.2.symm.trans owner
    | suspend step resume =>
        rw [task] at keeps
        exact ⟨i, step, resume, named, joined, task, shared.serves joined owner keeps.1⟩
  refine ⟨fun i outcome finished spared => ?_, fun i step resume suspended => ?_, owners,
    fun key done => ?_⟩
  · have ended := meets i
    rw [finished] at ended
    exact (shared.tracked i).served ended.1 spared
  · have keeps := meets i
    rw [suspended] at keeps
    exact shared.proceeds keeps.1
  · have free : final.world.inflight key = none := by
      rw [Option.eq_none_iff_forall_not_mem]
      intro fetch flying
      obtain ⟨j, _, _, named, -, task, -⟩ := owners key fetch flying
      obtain ⟨outcome, ended⟩ := done j named
      cases ended.symm.trans task
    exact ⟨free, fun i => by rw [FlightWorld.join, free]⟩

end Runs

/-- A miss, a wait that goes on, and a result that is stored. -/
def plainAnswer : (step : CallStep Unit Nat) → step.Outcome Nat
  | .cacheGet _ => .returned none
  | .join _ => ()
  | .awaitFetch _ => false
  | .cacheSet _ _ => .returned ()
  | .release _ _ => ()

/-- A turn of the owner (`true`) or of the follower (`false`). -/
def plainTurn (i : Bool) : Turn (flightMachine Bool Unit Nat Nat) := .run i plainAnswer

/-- The follower is cancelled while the fetch runs; the owner, whom nobody cancelled, ends with a
`CancelledError`. -/
theorem cancelled_follower_fails_the_owner :
    ∃ final, Reaches (Policy.free (flightMachine Bool Unit Nat Nat))
        (manyCalls Nat Nat fun _ : Bool => ()) final ∧
      final.tasks true = .finish (.error .cancelled) ∧ final.world.cancelled true = false := by
  have played : ∃ final, (manyCalls Nat Nat fun _ : Bool => ()).play
      (Policy.free (flightMachine Bool Unit Nat Nat))
      [plainTurn true, plainTurn true, plainTurn false, plainTurn false, .disturb (.cancel false),
        .disturb (.abort 0), plainTurn true, plainTurn true] = some final ∧
      final.tasks true = .finish (.error .cancelled) ∧ final.world.cancelled true = false :=
    ⟨_, rfl, rfl, rfl⟩
  obtain ⟨final, ran, ended⟩ := played
  exact ⟨final, Config.play_reaches ran, ended⟩

/-- Owner and follower receive one result; the follower's cancellation comes too late to matter.
While the provider is called the owner waits. -/
theorem owner_and_follower_are_served :
    (∃ begun : Config Bool (@CallStep.Reply Unit Nat Nat) (CallError Nat) Nat
        (FlightWorld Bool Unit Nat Nat),
      begun.world.inflight () = some 0 ∧ ∃ (i : Bool) (step : CallStep Unit Nat) (resume : _),
        begun.world.joined i = some 0 ∧ begun.tasks i = .suspend step resume ∧
          Serves () 0 step) ∧
    ∃ final, Reaches (noWaiterCancelled Bool Unit Nat Nat)
        (manyCalls Nat Nat fun _ : Bool => ()) final ∧
      final.tasks true = .finish (.ok 7) ∧ ServedWith (fun _ => ()) final.world true (.ok 7) := by
  have begins : ∃ begun, (manyCalls Nat Nat fun _ : Bool => ()).play
      (noWaiterCancelled Bool Unit Nat Nat) [plainTurn true, plainTurn true, plainTurn false,
        plainTurn false] = some begun ∧ begun.world.inflight () = some 0 := ⟨_, rfl, rfl⟩
  obtain ⟨begun, reached, flying⟩ := begins
  obtain ⟨i, step, resume, -, owner⟩ :=
    (cancelled_caller_spares_the_others (Config.play_reaches reached)).2.2.1 () 0 flying
  refine ⟨⟨begun, flying, i, step, resume, owner⟩, ?_⟩
  have played : ∃ final, (manyCalls Nat Nat fun _ : Bool => ()).play
      (noWaiterCancelled Bool Unit Nat Nat)
      [plainTurn true, plainTurn true, plainTurn false, plainTurn false,
        .disturb (.complete 0 (.ok 7)), .disturb (.cancel false), plainTurn true, plainTurn true,
        plainTurn true] = some final ∧
      final.tasks true = .finish (.ok 7) ∧ final.world.cancelled true = false := ⟨_, rfl, rfl, rfl⟩
  obtain ⟨final, ran, ended, spared⟩ := played
  have served :=
    (cancelled_caller_spares_the_others (Config.play_reaches ran)).1 true _ ended spared
  exact ⟨final, Config.play_reaches ran, ended, served⟩

end Cache
end DataGateway
