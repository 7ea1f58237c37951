import DataGateway.Dedup.RequestDeduplicator

/-!
# One fetch for each key

A future is pending exactly while its leader is under way.  The leader of a future is the only
call that settles it, with what its own fetch ended with, so every follower that is not cancelled
ends the same way.
-/

namespace DataGateway
namespace Dedup

open Coroutine Machine

variable {ι Key Value Error : Type}

/-! ## What a call does -/

/-- How far a call has come; the last stages of a leader carry what its fetch ended with. -/
inductive CallStage (Value Error : Type)
  | asking
  | following (future : Nat)
  | received (future : Nat) (outcome : Outcome Value Error)
  /-- The wait for the future was cancelled. -/
  | gone
  | fetching (future : Nat)
  | fetched (future : Nat) (outcome : Outcome Value Error)
  | settled (future : Nat) (outcome : Outcome Value Error)
  | done (future : Nat) (outcome : Outcome Value Error)

/-- The contract of a call for this key. -/
def callStages (key : Key) :
    Contract (@DedupeStep.Reply Key Value Error) (CallStage Value Error) where
  may step stage := match step with
    | .enter other => other = key ∧ stage = .asking
    | .fetch => ∃ future, stage = .fetching future
    | .awaitFuture future => stage = .following future
    | .settle future outcome => stage = .fetched future outcome
    | .remove other future => other = key ∧ ∃ outcome, stage = .settled future outcome
  after step stage reply next := match step, reply with
    | .enter _, (.leader, future) => next = .fetching future
    | .enter _, (.follower, future) => next = .following future
    | .fetch, outcome => ∃ future, stage = .fetching future ∧ next = .fetched future outcome
    | .awaitFuture future, outcome =>
        next = .received future outcome ∨ outcome = .error .cancelled ∧ next = .gone
    | .settle future outcome, pending => pending = true ∧ next = .settled future outcome
    | .remove _ future, _ => ∃ outcome, stage = .settled future outcome ∧
        next = .done future outcome

/-- What a call in this stage may end with. -/
def Finished (outcome : Outcome Value Error) : CallStage Value Error → Prop
  | .received _ received | .done _ received => outcome = received
  | .gone => outcome = .error .cancelled
  | _ => False

section Program

variable {key : Key} {future : Nat}

/-- The end of a leader whose future is settled. -/
theorem remove_meets {outcome : Outcome Value Error} :
    Meets (callStages key) Finished (.settled future outcome)
      (.suspend (.remove key future) fun _ => .finish outcome : DedupeCall Key Value Error) := by
  refine ⟨⟨rfl, outcome, rfl⟩, ?_⟩
  rintro _ _ ⟨settled, same, rfl⟩
  cases same
  rfl

/-- A leader settles its future with what its fetch ended with. -/
theorem lead_meets :
    Meets (callStages key) Finished (.fetching future)
      (lead key future : DedupeCall Key Value Error) := by
  refine ⟨⟨future, rfl⟩, ?_⟩
  rintro outcome _ ⟨_, same, rfl⟩
  cases same
  cases outcome with
  | ok result =>
      refine ⟨rfl, ?_⟩
      rintro _ _ ⟨rfl, rfl⟩
      exact remove_meets
  | error error =>
      refine ⟨rfl, ?_⟩
      rintro _ _ ⟨rfl, rfl⟩
      exact remove_meets

/-- A call keeps the contract of its key. -/
theorem dedupe_meets :
    Meets (callStages key) Finished .asking (dedupe key : DedupeCall Key Value Error) := by
  refine ⟨⟨rfl, rfl⟩, ?_⟩
  rintro ⟨role, future⟩ next moved
  cases role with
  | leader =>
      obtain rfl := moved
      exact lead_meets
  | follower =>
      obtain rfl := moved
      refine ⟨rfl, ?_⟩
      rintro outcome _ (rfl | ⟨rfl, rfl⟩)
      · rfl
      · rfl

end Program

/-! ## Where each call is -/

/-- A leader of this future is under way. -/
def CallStage.Leads (future : Nat) : CallStage Value Error → Prop
  | .fetching own | .fetched own _ | .settled own _ => own = future
  | _ => False

/-- The stage belongs to the leader of this future, under way or at its end. -/
def CallStage.HasLed (future : Nat) (stage : CallStage Value Error) : Prop :=
  stage.Leads future ∨ ∃ outcome, stage = .done future outcome

/-- Another call with the same key leads this future. -/
def Follows (keys : ι → Key) (world : DedupWorld ι Key Value Error) (i : ι) (future : Nat) : Prop :=
  world.joined i = some future ∧ ∃ j, j ≠ i ∧ world.leader future = some j ∧ keys j = keys i

/-- The call leads this future, which is in this state. -/
def Owns (world : DedupWorld ι Key Value Error) (i : ι) (future : Nat)
    (state : Option (Outcome Value Error)) : Prop :=
  world.joined i = some future ∧ world.leader future = some i ∧ world.futures[future]? = some state

/-- What the world knows of a call in a stage. -/
def Known (keys : ι → Key) (world : DedupWorld ι Key Value Error) (i : ι) :
    CallStage Value Error → Prop
  | .asking => world.joined i = none ∧ world.fetched i = none ∧ world.fetching i = false
  | .following future => Follows keys world i future ∧ world.fetching i = false
  | .received future outcome =>
      Follows keys world i future ∧ world.futures[future]? = some (some outcome) ∧
        world.fetching i = false
  | .gone =>
      (∃ future, Follows keys world i future) ∧ world.cancelled i = true ∧ world.fetching i = false
  | .fetching future =>
      Owns world i future none ∧ world.pending (keys i) = some future ∧ world.fetched i = none
  | .fetched future outcome =>
      Owns world i future none ∧ world.pending (keys i) = some future ∧
        world.fetched i = some outcome ∧ world.fetching i = false
  | .settled future outcome =>
      Owns world i future (some outcome) ∧ world.pending (keys i) = some future ∧
        world.fetched i = some outcome ∧ world.fetching i = false
  | .done future outcome =>
      Owns world i future (some outcome) ∧ world.fetched i = some outcome ∧ world.fetching i = false

/-- Every call is where it should be, and what is pending has a leader under way. -/
structure Flying (keys : ι → Key) (world : DedupWorld ι Key Value Error)
    (stages : ι → CallStage Value Error) : Prop where
  known : ∀ i, Known keys world i (stages i)
  led : ∀ future j, world.leader future = some j →
    future < world.futures.length ∧ (stages j).HasLed future
  pending : ∀ key future, world.pending key = some future →
    ∃ j, keys j = key ∧ world.leader future = some j ∧ (stages j).Leads future

section Invariant

variable {keys : ι → Key} {world after : DedupWorld ι Key Value Error}
variable {stages : ι → CallStage Value Error} {stage : CallStage Value Error} {i j : ι}

/-- What is known of a call stays known when its own entries stay and the futures only go on. -/
theorem Known.mono (known : Known keys world j stage) (joined : after.joined j = world.joined j)
    (fetching : after.fetching j = world.fetching j) (fetched : after.fetched j = world.fetched j)
    (cancelled : world.cancelled j = true → after.cancelled j = true)
    (leader : ∀ future k, world.leader future = some k → after.leader future = some k)
    (settled : ∀ (future : Nat) outcome, world.futures[future]? = some (some outcome) →
      after.futures[future]? = some (some outcome))
    (own : ∀ future, world.leader future = some j → stage.Leads future →
      world.pending (keys j) = some future →
      after.pending (keys j) = some future ∧ after.futures[future]? = world.futures[future]?) :
    Known keys after j stage := by
  have follows {future : Nat} (before : Follows keys world j future) :
      Follows keys after j future := by
    obtain ⟨mine, k, other, led, key⟩ := before
    exact ⟨joined.trans mine, k, other, leader future k led, key⟩
  cases stage with
  | asking => exact ⟨joined.trans known.1, fetched.trans known.2.1, fetching.trans known.2.2⟩
  | following future => exact ⟨follows known.1, fetching.trans known.2⟩
  | received future outcome =>
      exact ⟨follows known.1, settled future outcome known.2.1, fetching.trans known.2.2⟩
  | gone =>
      obtain ⟨⟨future, joined⟩, left, idle⟩ := known
      exact ⟨⟨future, follows joined⟩, cancelled left, fetching.trans idle⟩
  | fetching future =>
      obtain ⟨⟨mine, led, state⟩, flying, waits⟩ := known
      obtain ⟨still, same⟩ := own future led rfl flying
      exact ⟨⟨joined.trans mine, leader future j led, same.trans state⟩, still,
        fetched.trans waits⟩
  | fetched future outcome =>
      obtain ⟨⟨mine, led, state⟩, flying, ended, idle⟩ := known
      obtain ⟨still, same⟩ := own future led rfl flying
      exact ⟨⟨joined.trans mine, leader future j led, same.trans state⟩, still,
        fetched.trans ended, fetching.trans idle⟩
  | settled future outcome =>
      obtain ⟨⟨mine, led, state⟩, flying, ended, idle⟩ := known
      obtain ⟨still, same⟩ := own future led rfl flying
      exact ⟨⟨joined.trans mine, leader future j led, same.trans state⟩, still,
        fetched.trans ended, fetching.trans idle⟩
  | done future outcome =>
      obtain ⟨⟨mine, led, state⟩, ended, idle⟩ := known
      exact ⟨⟨joined.trans mine, leader future j led, settled future outcome state⟩,
        fetched.trans ended, fetching.trans idle⟩

/-- Nobody has two futures. -/
theorem Flying.leads_unique (flying : Flying keys world stages) {future : Nat}
    (leads : (stages i).Leads future) :
    world.joined i = some future ∧ world.leader future = some i ∧
      world.pending (keys i) = some future := by
  have known := flying.known i
  cases here : stages i with
  | fetching own | fetched own outcome | settled own outcome =>
      rw [here] at leads known
      obtain rfl : own = future := leads
      exact ⟨known.1.1, known.1.2.1, known.2.1⟩
  | asking | following _ | received _ _ | gone | done _ _ =>
      rw [here] at leads
      exact leads.elim

/-- Two leaders under way with the same key are one. -/
theorem Flying.leader_unique (flying : Flying keys world stages) {first second : Nat}
    (one : (stages i).Leads first) (other : (stages j).Leads second) (key : keys i = keys j) :
    i = j := by
  obtain ⟨-, leader, pending⟩ := flying.leads_unique one
  obtain ⟨-, leader', pending'⟩ := flying.leads_unique other
  rw [key, pending'] at pending
  obtain rfl := Option.some.inj pending
  exact Option.some.inj (leader.symm.trans leader')

/-- A settled future has what its leader's fetch ended with. -/
theorem Flying.settled (flying : Flying keys world stages) {future : Nat}
    {outcome : Outcome Value Error} (led : world.leader future = some j)
    (state : world.futures[future]? = some (some outcome)) : world.fetched j = some outcome := by
  have known := flying.known j
  rcases (flying.led future j led).2 with leads | ⟨ended, done⟩
  · cases here : stages j with
    | fetching own | fetched own _ =>
        rw [here] at leads known
        obtain rfl : own = future := leads
        have open_ := known.1.2.2
        rw [state] at open_
        cases open_
    | settled own ended =>
        rw [here] at leads known
        obtain rfl : own = future := leads
        have closed := known.1.2.2
        rw [state] at closed
        cases closed
        exact known.2.2.1
    | asking | following _ | received _ _ | gone | done _ _ =>
        rw [here] at leads
        exact leads.elim
  · rw [done] at known
    have closed := known.1.2.2
    rw [state] at closed
    cases closed
    exact known.2.1

variable [DecidableEq ι]

/-- One call moves on, and whoever led a future still does. -/
theorem Flying.led_update {next : CallStage Value Error} (flying : Flying keys world stages)
    (keeps : ∀ future, (stages i).HasLed future → next.HasLed future) :
    ∀ future j, world.leader future = some j →
      future < world.futures.length ∧ (Function.update stages i next j).HasLed future := by
  intro future j led
  obtain ⟨present, leads⟩ := flying.led future j led
  refine ⟨present, ?_⟩
  by_cases same : j = i
  · subst same
    rw [Function.update_self]
    exact keeps future leads
  · rwa [Function.update_of_ne same]

/-- One call moves on, and what is pending still has its leader under way. -/
theorem Flying.pending_update {next : CallStage Value Error} (flying : Flying keys world stages)
    (keeps : ∀ future, (stages i).Leads future → world.pending (keys i) = some future →
      next.Leads future) :
    ∀ key future, world.pending key = some future →
      ∃ j, keys j = key ∧ world.leader future = some j ∧
        (Function.update stages i next j).Leads future := by
  intro key future taken
  obtain ⟨j, own, led, leads⟩ := flying.pending key future taken
  refine ⟨j, own, led, ?_⟩
  by_cases same : j = i
  · subst same
    rw [Function.update_self]
    exact keeps future leads (own ▸ taken)
  · rwa [Function.update_of_ne same]

/-- What is known of every call after one of them moved on. -/
theorem known_update {next : CallStage Value Error} (here : Known keys after i next)
    (others : ∀ j, j ≠ i → Known keys after j (stages j)) :
    ∀ j, Known keys after j (Function.update stages i next j) := by
  intro j
  by_cases same : j = i
  · subst same
    rwa [Function.update_self]
  · rw [Function.update_of_ne same]
    exact others j same

/-- A stage that leads nothing has led nothing. -/
theorem CallStage.not_hasLed {future : Nat} {stage : CallStage Value Error}
    (aside : stage = .asking ∨ ∃ own, stage = .following own) : ¬stage.HasLed future := by
  rcases aside with rfl | ⟨own, rfl⟩
  · rintro (leads | ⟨_, same⟩)
    · exact leads
    · cases same
  · rintro (leads | ⟨_, same⟩)
    · exact leads
    · cases same

variable [DecidableEq Key]

/-- A call joins the pending future of its key or leads with a new one. -/
theorem Flying.enter (flying : Flying keys world stages) (asking : stages i = .asking) :
    ∃ next, (callStages (keys i)).after (.enter (keys i)) (stages i)
      (world.enter i (keys i)).1 next ∧
      Flying keys (world.enter i (keys i)).2 (Function.update stages i next) := by
  have known := flying.known i
  rw [asking] at known
  have nothing (future : Nat) : ¬(stages i).HasLed future := CallStage.not_hasLed (.inl asking)
  unfold DedupWorld.enter
  cases taken : world.pending (keys i) with
  | some future =>
      obtain ⟨leader, own, led, leads⟩ := flying.pending (keys i) future taken
      have apart : leader ≠ i := by
        rintro rfl
        exact nothing future (.inl leads)
      refine ⟨.following future, rfl, known_update ?_ ?_, ?_, ?_⟩
      · exact ⟨⟨Function.update_self _ _ _, leader, apart, led, own⟩, known.2.2⟩
      · intro j other
        exact (flying.known j).mono (Function.update_of_ne other _ _) rfl rfl id (fun _ _ => id)
          (fun _ _ => id) fun _ _ _ flying => ⟨flying, rfl⟩
      · exact flying.led_update fun future had => absurd had (nothing future)
      · exact flying.pending_update fun future had _ => absurd (.inl had) (nothing future)
  | none =>
      have fresh {old : Nat} {k : ι} (led : world.leader old = some k) :
          old ≠ world.futures.length := Nat.ne_of_lt (flying.led old k led).1
      refine ⟨.fetching world.futures.length, rfl, known_update ?_ ?_, ?_, ?_⟩
      · exact ⟨⟨Function.update_self _ _ _, Function.update_self _ _ _,
          List.getElem?_concat_length⟩, Function.update_self _ _ _, known.2.1⟩
      · intro j other
        refine (flying.known j).mono (Function.update_of_ne other _ _)
          (Function.update_of_ne other _ _) rfl id (fun old k led => ?_)
          (fun old outcome state => ?_)
          fun old led leads flew => ⟨?_, ?_⟩
        · exact (Function.update_of_ne (fresh led) _ _).trans led
        · have present := (List.getElem?_eq_some_iff.mp state).1
          exact (List.getElem?_append_left present).trans state
        · have apart : keys j ≠ keys i := by
            intro same
            rw [same, taken] at flew
            cases flew
          exact (Function.update_of_ne apart _ _).trans flew
        · exact List.getElem?_append_left (flying.led old j led).1
      · intro old j led
        dsimp only at led ⊢
        rw [List.length_append, List.length_singleton]
        by_cases new : old = world.futures.length
        · subst new
          rw [Function.update_self] at led
          obtain rfl := Option.some.inj led
          rw [Function.update_self]
          exact ⟨Nat.lt_succ_self _, .inl rfl⟩
        · rw [Function.update_of_ne new] at led
          have kept (future : Nat) (had : (stages i).HasLed future) :
              (CallStage.fetching world.futures.length : CallStage Value Error).HasLed future :=
            absurd had (nothing future)
          obtain ⟨present, leads⟩ := flying.led_update kept old j led
          exact ⟨Nat.lt_succ_of_lt present, leads⟩
      · intro key old flew
        dsimp only at flew ⊢
        by_cases own : key = keys i
        · subst own
          rw [Function.update_self] at flew
          obtain rfl := Option.some.inj flew
          exact ⟨i, rfl, Function.update_self _ _ _, by rw [Function.update_self]; rfl⟩
        · rw [Function.update_of_ne own] at flew
          obtain ⟨j, mine, led, leads⟩ := flying.pending key old flew
          refine ⟨j, mine, (Function.update_of_ne (fresh led) _ _).trans led, ?_⟩
          rw [Function.update_of_ne]
          · exact leads
          · rintro rfl
            exact nothing old (.inl leads)

omit [DecidableEq Key] in
/-- A leader's fetch ends. -/
theorem Flying.fetch {future : Nat} (flying : Flying keys world stages)
    (here : stages i = .fetching future) (outcome : Outcome Value Error) :
    Flying keys { world with
        fetching := Function.update world.fetching i false
        fetched := Function.update world.fetched i (some outcome) }
      (Function.update stages i (.fetched future outcome)) := by
  have known := flying.known i
  rw [here] at known
  refine ⟨known_update ?_ ?_, flying.led_update ?_, flying.pending_update ?_⟩
  · exact ⟨known.1, known.2.1, Function.update_self _ _ _, Function.update_self _ _ _⟩
  · intro j other
    exact (flying.known j).mono rfl (Function.update_of_ne other _ _)
      (Function.update_of_ne other _ _) id (fun _ _ => id) (fun _ _ => id)
      fun _ _ _ flew => ⟨flew, rfl⟩
  · rw [here]
    rintro led (leads | ⟨_, ended⟩)
    · exact .inl leads
    · cases ended
  · rw [here]
    exact fun _ leads _ => leads

omit [DecidableEq Key] in
/-- A follower moves on without touching a future. -/
theorem Flying.received {future : Nat} {next : CallStage Value Error}
    (flying : Flying keys world stages) (here : stages i = .following future)
    (known : Known keys after i next) (joined : after.joined = world.joined)
    (fetching : after.fetching = world.fetching) (fetched : after.fetched = world.fetched)
    (cancelled : ∀ j, world.cancelled j = true → after.cancelled j = true)
    (leader : after.leader = world.leader) (futures : after.futures = world.futures)
    (pending : after.pending = world.pending) :
    Flying keys after (Function.update stages i next) := by
  have nothing (future : Nat) : ¬(stages i).HasLed future :=
    CallStage.not_hasLed (.inr ⟨_, here⟩)
  refine ⟨known_update known ?_, ?_, ?_⟩
  · intro j other
    exact (flying.known j).mono (congrFun joined j) (congrFun fetching j) (congrFun fetched j)
      (cancelled j) (fun _ _ led => leader ▸ led) (fun _ _ state => futures ▸ state)
      fun _ _ _ flew => ⟨pending ▸ flew, by rw [futures]⟩
  · rw [leader, futures]
    exact flying.led_update fun future had => absurd had (nothing future)
  · rw [leader, pending]
    exact flying.pending_update fun future had _ => absurd (.inl had) (nothing future)

omit [DecidableEq Key] in
/-- A leader settles its future. -/
theorem Flying.settle {future : Nat} {outcome : Outcome Value Error}
    (flying : Flying keys world stages) (here : stages i = .fetched future outcome) :
    world.isPending future = true ∧
      Flying keys { world with futures := world.futures.set future (some outcome) }
        (Function.update stages i (.settled future outcome)) := by
  have known := flying.known i
  rw [here] at known
  obtain ⟨⟨joined, leader, open_⟩, flew, fetched, idle⟩ := known
  have present : future < world.futures.length := (List.getElem?_eq_some_iff.mp open_).1
  refine ⟨by simp only [DedupWorld.isPending, open_], known_update ?_ ?_, ?_, ?_⟩
  · exact ⟨⟨joined, leader, List.getElem?_set_self present⟩, flew, fetched, idle⟩
  · intro j other
    refine (flying.known j).mono rfl rfl rfl id (fun _ _ => id) (fun old outcome state => ?_)
      fun old led _ flew => ⟨flew, ?_⟩
    · have apart : future ≠ old := by
        rintro rfl
        rw [open_] at state
        cases state
      exact (List.getElem?_set_ne apart).trans state
    · have apart : future ≠ old := by
        rintro rfl
        exact other (Option.some.inj (led.symm.trans leader))
      exact List.getElem?_set_ne apart
  · intro old j led
    rw [List.length_set]
    refine flying.led_update (fun led had => ?_) old j led
    rw [here] at had
    rcases had with leads | ⟨_, ended⟩
    · exact .inl leads
    · cases ended
  · refine flying.pending_update fun led leads _ => ?_
    rw [here] at leads
    exact leads

/-- A leader removes the entry of its future. -/
theorem Flying.remove {future : Nat} {outcome : Outcome Value Error}
    (flying : Flying keys world stages) (here : stages i = .settled future outcome) :
    world.pending (keys i) = some future ∧
      Flying keys { world with pending := Function.update world.pending (keys i) none }
        (Function.update stages i (.done future outcome)) := by
  have known := flying.known i
  rw [here] at known
  obtain ⟨⟨joined, leader, state⟩, flew, fetched, idle⟩ := known
  have leads : (stages i).Leads future := by
    rw [here]
    rfl
  refine ⟨flew, known_update ?_ ?_, flying.led_update ?_, ?_⟩
  · exact ⟨⟨joined, leader, state⟩, fetched, idle⟩
  · intro j other
    refine (flying.known j).mono rfl rfl rfl id (fun _ _ => id) (fun _ _ => id)
      fun old _ others _ => ?_
    have apart : keys j ≠ keys i := fun same => other (flying.leader_unique others leads same)
    exact ⟨(Function.update_of_ne apart _ _).trans ‹_›, rfl⟩
  · rw [here]
    rintro led (own | ⟨_, ended⟩)
    · obtain rfl : future = led := own
      exact .inr ⟨outcome, rfl⟩
    · cases ended
  · intro key old flew
    dsimp only at flew
    have apart : key ≠ keys i := by
      rintro rfl
      rw [Function.update_self] at flew
      cases flew
    rw [Function.update_of_ne apart] at flew
    obtain ⟨j, mine, led, leading⟩ := flying.pending key old flew
    refine ⟨j, mine, led, ?_⟩
    rw [Function.update_of_ne]
    · exact leading
    · rintro rfl
      exact apart mine.symm

/-- Whatever a call does next, every call stays where it should be. -/
theorem Flying.step (flying : Flying keys world stages) {step : DedupeStep Key Value Error}
    {choice : step.Choice} {reply : step.Reply} (may : (callStages (keys i)).may step (stages i))
    (performed : world.perform i step choice = some (reply, after)) :
    ∃ next, (callStages (keys i)).after step (stages i) reply next ∧
      Flying keys after (Function.update stages i next) := by
  cases step with
  | enter key =>
      obtain ⟨rfl, asking⟩ := may
      have same : world.enter i (keys i) = (reply, after) := Option.some.inj performed
      have entered := flying.enter asking
      rwa [same] at entered
  | fetch =>
      obtain ⟨future, here⟩ := may
      cases performed
      exact ⟨.fetched future choice, ⟨future, here, rfl⟩, flying.fetch here choice⟩
  | awaitFuture future =>
      have here : stages i = .following future := may
      have known := flying.known i
      rw [here] at known
      cases choice with
      | true =>
          cases performed
          refine ⟨.gone, .inr ⟨rfl, rfl⟩, flying.received here ?_ rfl rfl rfl ?_ rfl rfl rfl⟩
          · exact ⟨⟨future, known.1⟩, Function.update_self _ _ _, known.2⟩
          · intro j already
            by_cases same : j = i
            · exact same ▸ Function.update_self _ _ _
            · exact (Function.update_of_ne same _ _).trans already
      | false =>
          obtain ⟨_, done, same⟩ := Option.map_eq_some_iff.mp performed
          cases same
          have state := Option.join_eq_some_iff.mp done
          refine ⟨.received future reply, .inl rfl,
            flying.received here ?_ rfl rfl rfl (fun _ => id) rfl rfl rfl⟩
          exact ⟨known.1, state, known.2⟩
  | settle future outcome =>
      obtain ⟨pending, settled⟩ := flying.settle may
      rw [DedupWorld.perform, if_pos pending] at performed
      cases performed
      exact ⟨.settled future outcome, ⟨rfl, rfl⟩, settled⟩
  | remove key future =>
      obtain ⟨rfl, outcome, here⟩ := may
      obtain ⟨pending, removed⟩ := flying.remove here
      rw [DedupWorld.perform, if_pos pending] at performed
      cases performed
      exact ⟨.done future outcome, ⟨outcome, here, rfl⟩, removed⟩

/-- What a step leaves as it was. -/
structure Onward (world after : DedupWorld ι Key Value Error) : Prop where
  joined : ∀ i future, world.joined i = some future → after.joined i = some future
  leader : ∀ future i, world.leader future = some i → after.leader future = some i
  fetched : ∀ i outcome, world.fetched i = some outcome → after.fetched i = some outcome
  settled : ∀ (future : Nat) outcome, world.futures[future]? = some (some outcome) →
    after.futures[future]? = some (some outcome)

omit [DecidableEq ι] [DecidableEq Key] in
theorem Onward.refl : Onward world world :=
  ⟨fun _ _ => id, fun _ _ => id, fun _ _ => id, fun _ _ => id⟩

omit [DecidableEq ι] [DecidableEq Key] in
theorem Onward.trans {later : DedupWorld ι Key Value Error} (first : Onward world after)
    (rest : Onward after later) : Onward world later :=
  ⟨fun i future had => rest.joined i future (first.joined i future had),
    fun future i had => rest.leader future i (first.leader future i had),
    fun i outcome had => rest.fetched i outcome (first.fetched i outcome had),
    fun future outcome had => rest.settled future outcome (first.settled future outcome had)⟩

omit [DecidableEq Key] in
/-- An entry that was empty keeps what the others have. -/
theorem kept_of_empty {α : Type} {entries : ι → Option α} {value : α} (empty : entries i = none) :
    ∀ j old, entries j = some old → Function.update entries i (some value) j = some old := by
  intro j old had
  have apart : j ≠ i := by
    rintro rfl
    rw [empty] at had
    cases had
  exact (Function.update_of_ne apart _ _).trans had

/-- Nothing that was known is lost in a step. -/
theorem Flying.onward (flying : Flying keys world stages) {step : DedupeStep Key Value Error}
    {choice : step.Choice} {reply : step.Reply} (may : (callStages (keys i)).may step (stages i))
    (performed : world.perform i step choice = some (reply, after)) : Onward world after := by
  have known := flying.known i
  cases step with
  | enter key =>
      obtain ⟨rfl, asking⟩ := may
      rw [asking] at known
      have same : world.enter i (keys i) = (reply, after) := Option.some.inj performed
      unfold DedupWorld.enter at same
      split at same
      · cases same
        exact ⟨kept_of_empty known.1, fun _ _ => id, fun _ _ => id, fun _ _ => id⟩
      · cases same
        refine ⟨kept_of_empty known.1, fun future j led => ?_, fun _ _ => id,
          fun future _ state => ?_⟩
        · have fresh := Nat.ne_of_lt (flying.led future j led).1
          exact (Function.update_of_ne fresh _ _).trans led
        · have present := (List.getElem?_eq_some_iff.mp state).1
          exact (List.getElem?_append_left present).trans state
  | fetch =>
      obtain ⟨future, here⟩ := may
      rw [here] at known
      cases performed
      exact ⟨fun _ _ => id, fun _ _ => id, kept_of_empty known.2.2, fun _ _ => id⟩
  | awaitFuture future =>
      cases choice with
      | true =>
          cases performed
          exact ⟨fun _ _ => id, fun _ _ => id, fun _ _ => id, fun _ _ => id⟩
      | false =>
          obtain ⟨_, _, same⟩ := Option.map_eq_some_iff.mp performed
          cases same
          exact .refl
  | settle future outcome =>
      have here : stages i = .fetched future outcome := may
      rw [here] at known
      rw [DedupWorld.perform, if_pos (flying.settle may).1] at performed
      cases performed
      refine ⟨fun _ _ => id, fun _ _ => id, fun _ _ => id, fun old _ state => ?_⟩
      have apart : future ≠ old := by
        rintro rfl
        rw [known.1.2.2] at state
        cases state
      exact (List.getElem?_set_ne apart).trans state
  | remove key future =>
      cases performed
      split
      · exact ⟨fun _ _ => id, fun _ _ => id, fun _ _ => id, fun _ _ => id⟩
      · exact .refl

end Invariant

end Dedup
end DataGateway
