import DataGateway.Sinks.Dedup

/-!
# Skipped events are somewhere

The key of an event is set before any sink has the event.  A skipped call finds its event with a
sink when calls that went on do not give their events up, and when no call is checked while such a
call is still on its way.
-/

namespace DataGateway
namespace Sinks
namespace Dedup

open Coroutine Machine

variable {ι Id Time : Type}

/-- The answer lets a call go on that no sink has taken yet: it does not end the call, and the last
sink takes the event. -/
def goesOn (sinks : Nat) : (command : PublishCommand Id) → command.Reply Time → Bool
  | .admission _, .ok true => true
  | .admission _, _ => false
  | .precheck _, .ok _ => true
  | .precheck _, .error (.runtime _) => true
  | .precheck _, .error _ => false
  | .bufferEvent _ _, .ok true => true
  | .bufferEvent _ sink, .ok false => sink + 1 < sinks
  | .bufferEvent site _, .error .runtime => site = .precheck
  | .bufferEvent _ _, .error .other => false
  | .put _, .cancelled => false
  | _, _ => true

/-- How far a call has come. -/
structure Publishing where
  /-- The call was checked and went on. -/
  passed : Bool
  /-- A sink has taken its event. -/
  held : Bool
  left : Bool
  deriving DecidableEq

/-- A call that went on has not lost its event. -/
def Publishing.safe (state : Publishing) : Prop := state.passed = true → state.held = true

/-- The contract of a call. -/
def publishing (Time : Type) (sinks : Nat) (call : PublishCall Id) :
    Contract (PublishCommand.Reply Time Id) Publishing where
  may command state := match command with
    | .setNx eventId => call.eventId = some eventId ∧ state = ⟨false, false, false⟩
    | .leave => state.safe
    | _ => True
  after command state reply next := match command, reply with
    | .setNx _, .ok (some false) => next = state
    | .setNx _, .error .cancelled => next = state
    | .setNx _, _ => next = { state with passed := true }
    | .leave, _ => next = { state with left := true }
    | command, reply => next = { state with held := takes command reply || state.held } ∧
        (goesOn sinks command reply = false → next.safe)

section Program

variable {sinks sink : Nat} {call : PublishCall Id} {state : Publishing}

/-- What an offer to one sink comes to: past the last sink the event is not lost. -/
def Offered (sinks sink : Nat) (outcome : Except (WorkError Time) Unit)
    (state : Publishing) : Prop :=
  match outcome with
  | .ok _ => sink + 1 < sinks ∨ state.safe
  | .error _ => state.safe

theorem enqueueForSink_meets :
    Meets (publishing Time sinks call) (Offered sinks sink) state (enqueueForSink sink) := by
  refine ⟨trivial, fun ended next ⟨moved, gave⟩ => ?_⟩
  cases ended with
  | queued => exact .inr fun _ => by rw [moved]; rfl
  | cancelled => exact gave rfl
  | timedOut =>
      refine ⟨trivial, fun reply next ⟨moved, gave⟩ => ?_⟩
      rcases reply with (_ | _) | _ | _
      · exact gave rfl
      · exact gave rfl
      · by_cases more : sink + 1 < sinks
        · exact .inl more
        · exact .inr (gave (by simp [goesOn, more]))
      · exact .inr fun _ => by rw [moved]; rfl

theorem publishTo_meets :
    Meets (publishing Time sinks call) (Offered sinks sink) state (publishTo call sink) := by
  unfold publishTo
  split
  · refine ⟨trivial, fun reply next ⟨moved, gave⟩ => ?_⟩
    rcases reply with _ | _ | _
    · exact gave rfl
    · exact gave rfl
    · exact .inr fun _ => by rw [moved]; rfl
  · refine ⟨trivial, fun reply next ⟨_, gave⟩ => ?_⟩
    rcases reply with (_ | _ | _ | _) | _ | _
    · exact gave rfl
    · exact enqueueForSink_meets
    · exact gave rfl
    · exact gave rfl
    · exact enqueueForSink_meets
    · refine ⟨trivial, fun reply next ⟨moved, gave⟩ => ?_⟩
      rcases reply with (_ | _) | _ | _
      · exact enqueueForSink_meets
      · exact gave rfl
      · by_cases more : sink + 1 < sinks
        · exact .inl more
        · exact .inr (gave (by simp [goesOn, more]))
      · exact .inr fun _ => by rw [moved]; rfl

/-- A call that has been offered to all sinks is not lost. -/
theorem publishToAll_meets (some : sinks ≠ 0) :
    Meets (publishing Time sinks call)
    (fun _ last => last.safe) state (publishToAll sinks call) := by
  -- what is left of the sinks ends with the last one
  let Inv : List Nat → Unit → Publishing → Prop := fun items _ last =>
    items <:+ List.range sinks ∧ (items = [] → last.safe)
  have start : Inv (List.range sinks) () state :=
    ⟨List.suffix_rfl, fun none => absurd (List.range_eq_nil.mp none) some⟩
  refine (Meets.foldEach Inv (fun _ last => last.safe) start ?_).mono fun outcome last holds => ?_
  · rintro sink rest _ last ⟨suffix, _⟩
    refine publishTo_meets.mono fun outcome last offered => ?_
    cases outcome with
    | error error => exact offered
    | ok _ =>
        refine ⟨(List.suffix_cons sink rest).trans suffix, fun none => ?_⟩
        subst none
        refine offered.resolve_left fun more => ?_
        obtain ⟨front, split⟩ := suffix
        have length := congrArg List.length split
        have last : (List.range sinks)[front.length]? = Option.some sink := by
          rw [← split]
          simp
        obtain ⟨_, here⟩ := List.getElem?_eq_some_iff.mp last
        rw [List.getElem_range] at here
        simp at length
        omega
  · cases outcome with
    | ok _ => exact holds.2 rfl
    | error error => exact holds

theorem checkAndPublish_meets {deduplicates : Bool} (some : sinks ≠ 0) :
    Meets (publishing Time sinks call) (fun _ last => last.safe)
    (⟨false, false, false⟩ : Publishing) (checkAndPublish sinks deduplicates call) := by
  unfold checkAndPublish
  split
  · exact publishToAll_meets some
  next eventId checked =>
    have known : call.eventId = Option.some eventId := by
      unfold checkedId at checked
      split at checked
      · exact checked
      · cases checked
    refine ⟨⟨known, rfl⟩, fun reply next moved => ?_⟩
    rcases reply with error | _ | _ | _
    · cases error with
      | cancelled =>
          obtain rfl : next = ⟨false, false, false⟩ := moved
          exact fun passed => by cases passed
      | circuitOpen rejection => exact publishToAll_meets some
      | runtime message => exact publishToAll_meets some
      | raised message => exact publishToAll_meets some
    · exact publishToAll_meets some
    · obtain rfl : next = ⟨false, false, false⟩ := moved
      exact fun passed => by cases passed
    · exact publishToAll_meets some

theorem publishAll_meets {deduplicates : Bool} :
    Meets (publishing Time sinks call) (fun _ _ => True) (⟨false, false, false⟩ : Publishing)
      (publishAll sinks deduplicates call) := by
  have safe : Meets (publishing Time sinks call) (fun _ last => last.safe)
      (⟨false, false, false⟩ : Publishing)
      (Coroutine.suspend .start fun enabled =>
        if enabled ∧ sinks ≠ 0 then checkAndPublish sinks deduplicates call
        else .finish (.ok ())) := by
    refine ⟨trivial, fun enabled next ⟨moved, _⟩ => ?_⟩
    obtain rfl : next = ⟨false, false, false⟩ := moved
    dsimp only
    split
    next run => exact checkAndPublish_meets run.2
    · exact fun passed => by cases passed
  exact safe.resolve fun _ _ kept => ⟨kept, fun _ _ _ => trivial⟩

end Program

/-! ## Runs -/

section Runs

variable [DecidableEq ι] [DecidableEq Id]

/-- While no sink has taken the event of a call that went on, the call gets no answer that makes it
give the event up. -/
def Clings (Time : Type) (sinks : Nat) (world : DedupWorld ι Id) (i : ι)
    (command : PublishCommand Id) (reply : command.Reply Time) : Prop :=
  i ∈ world.passed → (∀ entry ∈ world.taken, entry.1 ≠ i) → goesOn sinks command reply = true

/-- `set_nx` has found the key. -/
def saysDuplicate : Except (WorkError Time) (Option Bool) → Bool
  | .ok (some false) => true
  | _ => false

/-- The call was cancelled while it waited for `set_nx`. -/
def saysCancelled : Except (WorkError Time) (Option Bool) → Bool
  | .error .cancelled => true
  | _ => false

/-- No call is found a duplicate while another call with its id is on its way; a call is not
cancelled while it sets a new key; and the calls that went on do not give their events up. -/
def keepsEvents (Time : Type) (sinks : Nat) (calls : ι → PublishCall Id) :
    Policy (dedupMachine ι Id Time) where
  allows
    | _, .setNx eventId, outcome, world =>
        (saysDuplicate outcome.reply = true →
          ∀ j ∈ world.passed, (calls j).eventId = some eventId → j ∈ world.left) ∧
        (saysCancelled outcome.reply = true → outcome.applied = true → world.marked eventId = true)
    | i, .admission sink, reply, world => Clings Time sinks world i (.admission sink) reply
    | i, .precheck sink, reply, world => Clings Time sinks world i (.precheck sink) reply
    | i, .bufferEvent site sink, reply, world =>
        Clings Time sinks world i (.bufferEvent site sink) reply
    | i, .put sink, reply, world => Clings Time sinks world i (.put sink) reply
    | _, _, _, _ => True
  permits _ _ := True

instance decidableClings (sinks : Nat) (world : DedupWorld ι Id) (i : ι)
    (command : PublishCommand Id) (reply : command.Reply Time) :
    Decidable (Clings Time sinks world i command reply) :=
  inferInstanceAs (Decidable (i ∈ world.passed → (∀ entry ∈ world.taken, entry.1 ≠ i) →
    goesOn sinks command reply = true))

instance (sinks : Nat) (calls : ι → PublishCall Id) : (keepsEvents Time sinks calls).Decides where
  act
    | _, .setNx eventId, outcome, world => inferInstanceAs (Decidable
        ((saysDuplicate outcome.reply = true →
          ∀ j ∈ world.passed, (calls j).eventId = some eventId → j ∈ world.left) ∧
        (saysCancelled outcome.reply = true → outcome.applied = true →
          world.marked eventId = true)))
    | i, .admission sink, reply, world => decidableClings sinks world i (.admission sink) reply
    | i, .precheck sink, reply, world => decidableClings sinks world i (.precheck sink) reply
    | i, .bufferEvent site sink, reply, world =>
        decidableClings sinks world i (.bufferEvent site sink) reply
    | i, .put sink, reply, world => decidableClings sinks world i (.put sink) reply
    | _, .start, _, _ => inferInstanceAs (Decidable True)
    | _, .leave, _, _ => inferInstanceAs (Decidable True)
  calm _ _ := inferInstanceAs (Decidable True)

/-- What the calls know of themselves is so, every key belongs to a call that went on, and every
skipped event was with a sink. -/
structure EventsKept (calls : ι → PublishCall Id) (world : DedupWorld ι Id)
    (states : ι → Publishing) : Prop where
  passed : ∀ j, (states j).passed = true ↔ j ∈ world.passed
  held : ∀ j, (states j).held = true ↔ ∃ sink, (j, sink) ∈ world.taken
  marked : ∀ eventId, world.marked eventId = true →
    ∃ j ∈ world.passed, (calls j).eventId = some eventId
  left : ∀ j ∈ world.left, (states j).left = true ∧ (states j).safe
  skipped : ∀ skip ∈ world.skipped, ∃ j sink, (j, sink) ∈ skip.taken ∧ j ≠ skip.call ∧
    (calls j).eventId = (calls skip.call).eventId

variable {calls : ι → PublishCall Id} {world after : DedupWorld ι Id} {states : ι → Publishing}
variable {i : ι} {sinks : Nat}

omit [DecidableEq Id] in
/-- A call is offered to a sink. -/
theorem EventsKept.offer {sink : Nat} {takes : Bool} (kept : EventsKept calls world states) :
    EventsKept calls (world.offer i sink takes)
      (Function.update states i { states i with held := takes || (states i).held }) := by
  cases takes with
  | false =>
      rw [show { states i with held := false || (states i).held } = states i from rfl,
        Function.update_eq_self]
      exact kept
  | true =>
      refine ⟨fun j => ?_, fun j => ?_, kept.marked, fun j mem => ?_, kept.skipped⟩
      · by_cases same : j = i
        · subst same
          rw [Function.update_self]
          exact kept.passed j
        · rw [Function.update_of_ne same]
          exact kept.passed j
      · by_cases same : j = i
        · subst same
          rw [Function.update_self]
          exact ⟨fun _ => ⟨sink, .head _⟩, fun _ => rfl⟩
        · rw [Function.update_of_ne same, kept.held]
          simp [DedupWorld.offer, same]
      · obtain ⟨gone, safe⟩ := kept.left j mem
        by_cases same : j = i
        · subst same
          rw [Function.update_self]
          exact ⟨gone, fun _ => rfl⟩
        · rw [Function.update_of_ne same]
          exact ⟨gone, safe⟩

omit [DecidableEq Id] in
/-- A call has left. -/
theorem EventsKept.leave (kept : EventsKept calls world states) (safe : (states i).safe) :
    EventsKept calls { world with left := i :: world.left }
      (Function.update states i { states i with left := true }) := by
  have same (j : ι) :
      (Function.update states i { states i with left := true } j).passed = (states j).passed ∧
      (Function.update states i { states i with left := true } j).held = (states j).held := by
    by_cases here : j = i
    · subst here
      rw [Function.update_self]
      exact ⟨rfl, rfl⟩
    · rw [Function.update_of_ne here]
      exact ⟨rfl, rfl⟩
  refine ⟨fun j => (same j).1 ▸ kept.passed j, fun j => (same j).2 ▸ kept.held j, kept.marked,
    fun j mem => ?_, kept.skipped⟩
  by_cases here : j = i
  · subst here
    rw [Function.update_self]
    exact ⟨rfl, safe⟩
  · rw [Function.update_of_ne here]
    exact kept.left j ((List.mem_cons.mp mem).resolve_left here)

omit [DecidableEq Id] in
/-- A call goes on, with its key or without one. -/
theorem EventsKept.pass {eventId : Id} {marked : Id → Bool} (kept : EventsKept calls world states)
    (known : (calls i).eventId = some eventId) (fresh : states i = ⟨false, false, false⟩)
    (keys : ∀ other, marked other = true → world.marked other = true ∨ other = eventId) :
    EventsKept calls { world with marked := marked, passed := i :: world.passed }
      (Function.update states i ⟨true, false, false⟩) := by
  have others (j : ι) (other : j ≠ i) :
      Function.update states i ⟨true, false, false⟩ j = states j := Function.update_of_ne other _ _
  refine ⟨fun j => ?_, fun j => ?_, fun other here => ?_, fun j mem => ?_, kept.skipped⟩
  · by_cases same : j = i
    · subst same
      simp
    · rw [others j same, kept.passed, List.mem_cons, or_iff_right same]
  · by_cases same : j = i
    · subst same
      rw [Function.update_self, ← kept.held, fresh]
    · rw [others j same, kept.held]
  · rcases keys other here with old | rfl
    · obtain ⟨j, mem, id⟩ := kept.marked other old
      exact ⟨j, .tail _ mem, id⟩
    · exact ⟨i, .head _, known⟩
  · rw [others j]
    · exact kept.left j mem
    · rintro rfl
      have gone := (kept.left j mem).1
      rw [fresh] at gone
      cases gone

/-- A call is checked. -/
theorem EventsKept.check {eventId : Id} {outcome : SetNx Time}
    (kept : EventsKept calls world states)
    (permitted : (publishing Time sinks (calls i)).may (.setNx eventId) (states i))
    (allowed : (keepsEvents Time sinks calls).allows i (.setNx eventId) outcome world)
    (checked : world.check i eventId outcome = some after) :
    ∃ next, (publishing Time sinks (calls i)).after (.setNx eventId) (states i) outcome.reply next ∧
      EventsKept calls after (Function.update states i next) := by
  obtain ⟨known, fresh⟩ := permitted
  obtain ⟨alone, spared⟩ := allowed
  obtain ⟨reply, applied⟩ := outcome
  have set (other : Id) (here : Function.update world.marked eventId true other = true) :
      world.marked other = true ∨ other = eventId := by
    by_cases same : other = eventId
    · exact .inr same
    · rw [Function.update_of_ne same] at here
      exact .inl here
  have keys (other : Id) (here : (if applied then Function.update world.marked eventId true
      else world.marked) other = true) : world.marked other = true ∨ other = eventId := by
    cases applied with
    | false => exact .inl here
    | true => exact set other here
  unfold DedupWorld.check at checked
  rcases reply with error | _ | _ | _
  · obtain rfl := Option.some.inj checked
    cases error with
    | cancelled =>
        refine ⟨states i, rfl, ?_⟩
        rw [Function.update_eq_self]
        refine ⟨kept.passed, kept.held, fun other here => ?_, kept.left, kept.skipped⟩
        refine kept.marked other ?_
        cases applied with
        | false => exact here
        | true =>
            rcases keys other here with old | rfl
            · exact old
            · exact spared rfl rfl
    | circuitOpen rejection =>
        exact ⟨_, rfl, by rw [fresh]; exact kept.pass known fresh keys⟩
    | runtime message => exact ⟨_, rfl, by rw [fresh]; exact kept.pass known fresh keys⟩
    | raised message => exact ⟨_, rfl, by rw [fresh]; exact kept.pass known fresh keys⟩
  · obtain rfl := Option.some.inj checked
    exact ⟨_, rfl, by rw [fresh]; exact kept.pass known fresh keys⟩
  · dsimp only at checked
    split at checked
    next here =>
      obtain rfl := Option.some.inj checked
      refine ⟨states i, rfl, ?_⟩
      rw [Function.update_eq_self]
      refine ⟨kept.passed, kept.held, kept.marked, kept.left, fun skip mem => ?_⟩
      rcases List.mem_cons.mp mem with rfl | earlier
      · obtain ⟨j, passed, id⟩ := kept.marked eventId here
        have safe := (kept.left j (alone rfl j passed id)).2
        obtain ⟨sink, taken⟩ := (kept.held j).mp (safe ((kept.passed j).mpr passed))
        refine ⟨j, sink, taken, ?_, id.trans known.symm⟩
        rintro rfl
        have went := (kept.passed j).mpr passed
        rw [fresh] at went
        cases went
      · exact kept.skipped skip earlier
    · cases checked
  · dsimp only at checked
    split at checked
    · cases checked
    · obtain rfl := Option.some.inj checked
      refine ⟨_, rfl, ?_⟩
      rw [fresh]
      exact kept.pass known fresh set

/-- One command of a call that keeps its contract. -/
theorem EventsKept.step {command : PublishCommand Id} {outcome : command.Outcome Time}
    {reply : command.Reply Time} (kept : EventsKept calls world states)
    (permitted : (publishing Time sinks (calls i)).may command (states i))
    (allowed : (keepsEvents Time sinks calls).allows i command outcome world)
    (performed : performPublish i command outcome world = some (reply, after)) :
    ∃ next, (publishing Time sinks (calls i)).after command (states i) reply next ∧
      EventsKept calls after (Function.update states i next) := by
  -- a call that has not gone on, or whose event was taken, has nothing to lose
  have clinging {command : PublishCommand Id} {reply : command.Reply Time}
      (clings : Clings Time sinks world i command reply)
      (gave : goesOn sinks command reply = false) : (states i).safe := by
    intro went
    by_contra none
    rw [kept.held, not_exists] at none
    have goes := clings ((kept.passed i).mp went) fun entry mem same =>
      none entry.2 (same ▸ mem)
    rw [gave] at goes
    cases goes
  have holding {taken : Bool} (safe : (states i).safe) :
      Publishing.safe { states i with held := taken || (states i).held } := fun went => by
    rw [show (states i).held = true from safe went, Bool.or_true]
  cases command with
  | start =>
      obtain ⟨rfl, rfl⟩ := Prod.mk.inj (Option.some.inj performed)
      refine ⟨_, ⟨rfl, fun gave => by cases gave⟩, ?_⟩
      exact (kept.offer : EventsKept calls (world.offer i 0 false) _)
  | setNx eventId =>
      obtain ⟨next, checked, same⟩ := Option.map_eq_some_iff.mp performed
      obtain ⟨rfl, rfl⟩ := Prod.mk.inj same
      exact kept.check permitted allowed checked
  | admission sink =>
      obtain ⟨rfl, rfl⟩ := Prod.mk.inj (Option.some.inj performed)
      exact ⟨_, ⟨rfl, fun gave => holding (clinging allowed gave)⟩, kept.offer⟩
  | precheck sink =>
      obtain ⟨rfl, rfl⟩ := Prod.mk.inj (Option.some.inj performed)
      refine ⟨_, ⟨rfl, fun gave => holding (clinging allowed gave)⟩, ?_⟩
      exact (kept.offer : EventsKept calls (world.offer i sink false) _)
  | bufferEvent site sink =>
      obtain ⟨rfl, rfl⟩ := Prod.mk.inj (Option.some.inj performed)
      exact ⟨_, ⟨rfl, fun gave => holding (clinging allowed gave)⟩, kept.offer⟩
  | put sink =>
      obtain ⟨rfl, rfl⟩ := Prod.mk.inj (Option.some.inj performed)
      exact ⟨_, ⟨rfl, fun gave => holding (clinging allowed gave)⟩, kept.offer⟩
  | leave =>
      obtain ⟨rfl, rfl⟩ := Prod.mk.inj (Option.some.inj performed)
      exact ⟨_, rfl, kept.leave permitted⟩

/-- Any number of calls on a registry with this many sinks. -/
def manyPublishes (Time : Type) (sinks : Nat) (deduplicates : Bool) (calls : ι → PublishCall Id) :
    Config ι (PublishCommand.Reply Time Id) (WorkError Time) Unit (DedupWorld ι Id) :=
  ⟨⟨true, fun _ => false, [], [], [], []⟩, fun i => publishAll sinks deduplicates (calls i)⟩

/-- As long as calls that went on do not give their events up and no call is checked while another
one with its id is on its way: when a call is skipped, a sink has already published, queued or
buffered the event of another call with its id. -/
theorem skipped_event_is_taken {deduplicates : Bool}
    {final : Config ι (PublishCommand.Reply Time Id) (WorkError Time) Unit (DedupWorld ι Id)}
    (run : Reaches (keepsEvents Time sinks calls) (manyPublishes Time sinks deduplicates calls)
      final) :
    ∀ skip ∈ final.world.skipped, ∃ j sink, (j, sink) ∈ skip.taken ∧ j ≠ skip.call ∧
      (calls j).eventId = (calls skip.call).eventId := by
  have start : EventsKept calls (manyPublishes Time sinks deduplicates calls).world
      fun _ => ⟨false, false, false⟩ :=
    ⟨by simp [manyPublishes], by simp [manyPublishes], by simp [manyPublishes],
      by simp [manyPublishes], by simp [manyPublishes]⟩
  have calm : ∀ world states move, EventsKept calls world states →
      (keepsEvents Time sinks calls).permits move world →
      EventsKept calls ((dedupMachine ι Id Time).disturb move world) states := by
    intro world states move kept _
    cases move with
    | expire eventId =>
        refine ⟨kept.passed, kept.held, fun other here => kept.marked other ?_,
          kept.left, kept.skipped⟩
        by_cases same : other = eventId
        · subst same
          simp [dedupMachine] at here
        · simpa [dedupMachine, same] using here
    | enabled value => exact ⟨kept.passed, kept.held, kept.marked, kept.left, kept.skipped⟩
  obtain ⟨states, kept, _⟩ := run.invariant
    (fun _ _ _ _ _ _ _ kept permitted allowed performed => kept.step permitted allowed performed)
    calm start fun i => publishAll_meets
  exact kept.skipped

end Runs

/-- Two calls with one event, on volatile sinks. -/
def sameEvent : Bool → PublishCall Unit := fun _ => ⟨some (), fun _ => false⟩

/-- Answers of a cache, a closed breaker and a put that ends like this. -/
def cacheAnswers (seen : Bool) (ended : PutEnd) :
    (command : PublishCommand Unit) → command.Outcome Int
  | .start => ()
  | .setNx _ => ⟨.ok (some !seen), !seen⟩
  | .admission _ => .ok true
  | .precheck _ => .ok false
  | .bufferEvent _ _ => .ok false
  | .put _ => ended
  | .leave => ()

/-- A turn of the first call (`false`) or of the second one, which finds the key. -/
def publishTurn (i : Bool) (ended : PutEnd) : Turn (dedupMachine Bool Unit Int) :=
  .run i (cacheAnswers i ended)

/-- The first call is cancelled while it waits for a slot; the second one, with the same event, is
skipped although no sink has the event. -/
theorem cancelled_call_suppresses_the_event :
    ∃ final, Reaches (Policy.free (dedupMachine Bool Unit Int))
        (manyPublishes Int 1 true sameEvent) final ∧
      ∃ skip ∈ final.world.skipped, ∀ j sink, (j, sink) ∉ skip.taken := by
  have played : ∃ final, (manyPublishes Int 1 true sameEvent).play
      (Policy.free (dedupMachine Bool Unit Int))
      [publishTurn false .cancelled, publishTurn false .cancelled, publishTurn false .cancelled,
        publishTurn false .cancelled, publishTurn false .cancelled, publishTurn true .queued,
        publishTurn true .queued] = some final ∧ final.world.skipped = [⟨true, []⟩] :=
          ⟨_, rfl, rfl⟩
  obtain ⟨final, ran, skipped⟩ := played
  exact ⟨final, Config.play_reaches ran, ⟨true, []⟩, by rw [skipped]; exact .head _, by simp⟩

/-- The first call queues the event before the second one is skipped. -/
theorem queued_event_is_skipped :
    ∃ final, Reaches (keepsEvents Int 1 sameEvent) (manyPublishes Int 1 true sameEvent) final ∧
      final.world.skipped = [⟨true, [(false, 0)]⟩] ∧
      ∃ j sink, (j, sink) ∈ [(false, 0)] ∧ j ≠ true := by
  have played : ∃ final, (manyPublishes Int 1 true sameEvent).play (keepsEvents Int 1 sameEvent)
      [publishTurn false .queued, publishTurn false .queued, publishTurn false .queued,
        publishTurn false .queued, publishTurn false .queued, publishTurn true .queued,
        publishTurn true .queued] = some final ∧ final.world.skipped = [⟨true, [(false, 0)]⟩] :=
    ⟨_, rfl, rfl⟩
  obtain ⟨final, ran, skipped⟩ := played
  obtain ⟨j, sink, taken, other, _⟩ := skipped_event_is_taken (Config.play_reaches ran)
    ⟨true, [(false, 0)]⟩ (by rw [skipped]; exact .head _)
  exact ⟨final, Config.play_reaches ran, skipped, j, sink, taken, other⟩

end Dedup
end Sinks
end DataGateway
