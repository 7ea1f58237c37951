import DataGateway.Trading.History
import DataGateway.Trading.Session

/-!
# Fence tokens

A fence token is the text of an identifier that was drawn once, so it belongs to one task, and it is
written to the fence key once: a lease that was lost does not come back.  These facts hold in every
run, whatever expires.
-/

namespace DataGateway
namespace Trading

open Coroutine Machine

variable {ι Raw : Type}

/-- The fence key still holds a token with which the task took it. -/
def World.Holds (world : World ι Raw) (i : ι) (symbol : String) : Prop :=
  ∃ token ∈ (world.cells symbol).fence, Recorded Event.acquired world.history (i, symbol, token)

theorem Session.next_fence_eq [ClaimText Raw] {session : Session} {command : Command Raw}
    {reply : command.Reply} {i : ι} {before after : String → Cell Raw} :
    (session.next command reply).fence =
      ((Event.acquired ⟨i, command, reply, before, after⟩).map Prod.snd).or session.fence := by
  cases command with
  | store symbol op =>
      cases op with
      | acquireFence token | claimAndIndex owner raw | thawClaim expected delete owner =>
          cases reply with
          | served ok => cases ok <;> rfl
          | failed => rfl
          | cancelled => rfl
      | _ => rfl
  | getClaim symbol => cases reply <;> rfl
  | _ => rfl

theorem Session.next_uuid_eq [ClaimText Raw] {session : Session} {command : Command Raw}
    {reply : command.Reply} {i : ι} {before after : String → Cell Raw} :
    (session.next command reply).uuid =
      ((Event.drawn ⟨i, command, reply, before, after⟩).map Prod.snd).or session.uuid := by
  cases command with
  | store symbol op =>
      cases op with
      | acquireFence token | claimAndIndex owner raw | thawClaim expected delete owner =>
          cases reply with
          | served ok => cases ok <;> rfl
          | failed => rfl
          | cancelled => rfl
      | _ => rfl
  | getClaim symbol => cases reply <;> rfl
  | _ => rfl

section Effects

variable [DecidableEq ι] [DecidableEq Raw] [ClaimText Raw]

/-- How a command can change the fence key of a symbol. -/
inductive FenceEffect (symbol : String) (before after : Cell Raw) : Command Raw → Prop
  /-- The fence is as it was. -/
  | kept {command} (same : after.fence = before.fence) : FenceEffect symbol before after command
  /-- A free fence is taken. -/
  | taken {token} (free : before.fence = none) (now : after.fence = some token) :
      FenceEffect symbol before after (.store symbol (.acquireFence token))
  /-- The matching fence is given up. -/
  | released {token} (held : before.fence = some token) (now : after.fence = none) :
      FenceEffect symbol before after (.store symbol (.compareAndDeleteFence token))

omit [DecidableEq Raw] in
theorem releaseIfUnlocked_fence {owner : String} {cell after : Cell Raw} {ok : Bool}
    (applied : releaseIfUnlocked owner cell = some (ok, after)) : after.fence = cell.fence := by
  unfold releaseIfUnlocked at applied
  split at applied
  · obtain ⟨-, rfl⟩ := Prod.mk.inj (Option.some.inj applied)
    rfl
  · split at applied
    · simp at applied
    · split_ifs at applied <;> obtain ⟨-, rfl⟩ := Prod.mk.inj (Option.some.inj applied) <;> rfl

/-- The inversion rule for the fence key. -/
theorem StoreOp.apply_fence {symbol : String} {op : StoreOp Raw} {cell after : Cell Raw} {ok : Bool}
    (applied : op.apply cell = some (ok, after)) :
    FenceEffect symbol cell after (.store symbol op) := by
  cases op with
  | acquireFence token =>
      simp only [StoreOp.apply] at applied
      split at applied
      · rename_i free
        obtain ⟨-, rfl⟩ := Prod.mk.inj (Option.some.inj applied)
        exact .taken free rfl
      · obtain ⟨-, rfl⟩ := Prod.mk.inj (Option.some.inj applied)
        exact .kept rfl
  | compareAndDeleteFence token =>
      simp only [StoreOp.apply] at applied
      split at applied
      · rename_i held
        obtain ⟨-, rfl⟩ := Prod.mk.inj (Option.some.inj applied)
        exact .released held rfl
      · obtain ⟨-, rfl⟩ := Prod.mk.inj (Option.some.inj applied)
        exact .kept rfl
  | compareAndDelete owner => exact .kept (releaseIfUnlocked_fence applied)
  | releaseClaimUnderFence owner token =>
      simp only [StoreOp.apply] at applied
      split at applied
      · obtain ⟨-, rfl⟩ := Prod.mk.inj (Option.some.inj applied)
        exact .kept rfl
      · exact .kept (releaseIfUnlocked_fence applied)
  | _ =>
      -- the other commands leave the fence key alone on every path
      simp only [StoreOp.apply] at applied
      refine .kept ?_
      repeat' split at applied
      all_goals cases applied
      all_goals rfl

omit [DecidableEq ι] in
theorem CellStep.fence {before after : String → Cell Raw} {command : Command Raw}
    {reply : command.Reply} (step : CellStep before after command reply) (symbol : String) :
    FenceEffect symbol (before symbol) (after symbol) command := by
  cases step with
  | other notStore same => exact .kept (by rw [same])
  | unexecuted same lost => exact .kept (by rw [same])
  | @executed target op ok cell reply applied now answer =>
      by_cases same : symbol = target
      · subst same
        simpa [now] using StoreOp.apply_fence applied
      · exact .kept (by rw [now, Function.update_of_ne same])

/-! ## Tokens belong to tasks -/

omit [ClaimText Raw] in
/-- Only drawing an identifier hands one out, and it is a new one. -/
theorem performCommand_issued [ClaimText Raw] {i : ι} {command : Command Raw}
    {outcome : command.Outcome} {world after : World ι Raw} {reply : command.Reply}
    (performed : performCommand i command outcome world = some (reply, after)) :
    (∀ uuid ∈ world.issued, uuid ∈ after.issued) ∧ ∀ j uuid,
      Event.drawn ⟨i, command, reply, world.cells, after.cells⟩ = some (j, uuid) →
        uuid ∉ world.issued ∧ uuid ∈ after.issued := by
  cases command with
  | uuid4 =>
      simp only [performCommand] at performed
      split at performed
      · cases performed
      · rename_i fresh
        obtain ⟨rfl, rfl⟩ := Prod.mk.inj (Option.some.inj performed)
        refine ⟨fun uuid mem => List.mem_cons_of_mem _ mem, fun j uuid same => ?_⟩
        obtain ⟨-, rfl⟩ := Prod.mk.inj (Option.some.inj same)
        exact ⟨fresh, List.mem_cons_self ..⟩
  | store symbol op =>
      obtain ⟨rfl, rfl⟩ := Prod.mk.inj (Option.some.inj performed)
      refine ⟨fun _ mem => mem, fun j uuid same => ?_⟩
      cases op <;> cases same
  | _ =>
      obtain ⟨rfl, rfl⟩ := Prod.mk.inj (Option.some.inj performed)
      exact ⟨fun _ mem => mem, fun _ _ same => by cases same⟩

/-- Tokens are texts of identifiers that one task drew, and a session knows its own. -/
structure TokensOwned (world : World ι Raw) (locals : ι → Session) : Prop where
  /-- Everything that was drawn was handed out. -/
  issued : ∀ i uuid, Recorded Event.drawn world.history (i, uuid) → uuid ∈ world.issued
  /-- An identifier is drawn by one task. -/
  once : ∀ i j uuid, Recorded Event.drawn world.history (i, uuid) →
    Recorded Event.drawn world.history (j, uuid) → i = j
  /-- A session's identifier was drawn by its task. -/
  uuid : ∀ i uuid, (locals i).uuid = some uuid → Recorded Event.drawn world.history (i, uuid)
  /-- A session knows which fence its task took. -/
  fence : ∀ i taken, (locals i).fence = some taken ↔
    Recorded Event.acquired world.history (i, taken)
  /-- A token is the text of an identifier that its task drew. -/
  token : ∀ i symbol token, Recorded Event.acquired world.history (i, symbol, token) →
    ∃ uuid, Recorded Event.drawn world.history (i, uuid) ∧ token = uuid.hex

namespace TokensOwned

variable {world after : World ι Raw} {locals : ι → Session} {i j : ι} {role : Role}
  {command : Command Raw} {outcome : command.Outcome} {reply : command.Reply}
  {symbol other token : String}

omit [DecidableEq ι] [DecidableEq Raw] [ClaimText Raw] in
/-- Two tasks do not take fences with one token. -/
theorem unique (owned : TokensOwned world locals)
    (left : Recorded Event.acquired world.history (i, symbol, token))
    (right : Recorded Event.acquired world.history (j, other, token)) : i = j := by
  obtain ⟨first, drewFirst, same⟩ := owned.token i symbol token left
  obtain ⟨second, drewSecond, rfl⟩ := owned.token j other token right
  obtain rfl : second = first := by
    cases first
    cases second
    simpa using same
  exact owned.once i j second drewFirst drewSecond

omit [DecidableEq ι] in
/-- A lease that was lost does not come back. -/
theorem lost (owned : TokensOwned world locals) (permitted : (locals j).may role command)
    (step : CellStep world.cells after.cells command reply)
    (taken : Recorded Event.acquired world.history (i, symbol, token))
    (now : (after.cells symbol).fence = some token) :
    (world.cells symbol).fence = some token := by
  have effect := step.fence symbol
  generalize changed : after.cells symbol = cell at *
  cases effect with
  | kept same => rwa [same] at now
  | @taken given free set =>
      obtain ⟨unfenced, uuid, drawn, rfl⟩ := permitted
      obtain ⟨mine, drew, same⟩ := owned.token i symbol token taken
      obtain rfl : mine = uuid := by
        rw [set] at now
        cases mine
        cases uuid
        simpa [same] using (Option.some.inj now).symm
      obtain rfl := owned.once i j mine drew (owned.uuid j mine drawn)
      rw [(owned.fence i _).mpr taken] at unfenced
      cases unfenced
  | released held gone =>
      rw [gone] at now
      cases now

theorem step (owned : TokensOwned world locals) (permitted : (locals i).may role command)
    (performed : performCommand i command outcome world = some (reply, after)) :
    TokensOwned after (Function.update locals i ((locals i).next command reply)) := by
  obtain ⟨recorded, -⟩ := performCommand_record performed
  obtain ⟨handed, fresh⟩ := performCommand_issued performed
  generalize appended : (⟨i, command, reply, world.cells, after.cells⟩ : Event ι Raw) = event at *
  have actor : event.actor = i := by rw [← appended]
  have acquires : ∀ {j taken}, event.acquired = some (j, taken) →
      j = i ∧ (locals i).fence = none ∧ ∃ uuid, (locals i).uuid = some uuid ∧
        taken.2 = uuid.hex := by
    intro j taken acquired
    obtain ⟨mine, issued⟩ := Event.acquired_actor acquired
    subst appended
    subst issued
    exact ⟨mine.symm, permitted⟩
  refine ⟨fun j uuid drew => ?_, fun j k uuid left right => ?_, fun j uuid known => ?_,
    fun j taken => ?_, fun j target token acquired => ?_⟩
  · rw [recorded, recorded_cons] at drew
    rcases drew with new | old
    · exact (fresh j uuid new).2
    · exact handed uuid (owned.issued j uuid old)
  · rw [recorded, recorded_cons] at left right
    rcases left with newLeft | oldLeft <;> rcases right with newRight | oldRight
    · rw [← Event.drawn_actor newLeft, ← Event.drawn_actor newRight]
    · exact absurd (owned.issued k uuid oldRight) (fresh j uuid newLeft).1
    · exact absurd (owned.issued j uuid oldLeft) (fresh k uuid newRight).1
    · exact owned.once j k uuid oldLeft oldRight
  · rw [recorded, recorded_cons]
    by_cases mine : j = i
    · subst mine
      rw [Function.update_self, Session.next_uuid_eq, appended] at known
      rcases Option.or_eq_some_iff.mp known with new | ⟨-, old⟩
      · obtain ⟨⟨k, drew⟩, drawn, rfl⟩ := Option.map_eq_some_iff.mp new
        obtain rfl : k = j := (Event.drawn_actor drawn).symm.trans actor
        exact .inl drawn
      · exact .inr (owned.uuid j uuid old)
    · rw [Function.update_of_ne mine] at known
      exact .inr (owned.uuid j uuid known)
  · rw [recorded, recorded_cons]
    by_cases mine : j = i
    · subst mine
      rw [Function.update_self, Session.next_fence_eq, appended, Option.or_eq_some_iff]
      constructor
      · rintro (new | ⟨-, old⟩)
        · obtain ⟨⟨k, took⟩, acquired, rfl⟩ := Option.map_eq_some_iff.mp new
          obtain rfl := (acquires acquired).1
          exact .inl acquired
        · exact .inr ((owned.fence j taken).mp old)
      · rintro (new | old)
        · exact .inl (by rw [new]; rfl)
        · have held := (owned.fence j taken).mpr old
          refine .inr ⟨?_, held⟩
          cases acquired : event.acquired with
          | none => rfl
          | some took =>
              rw [(acquires acquired).2.1] at held
              cases held
    · rw [Function.update_of_ne mine, owned.fence j taken]
      exact ⟨.inr, fun either => either.resolve_left fun new => mine (acquires new).1⟩
  · rw [recorded, recorded_cons] at acquired
    rcases acquired with new | old
    · obtain ⟨rfl, -, uuid, known, same⟩ := acquires new
      exact ⟨uuid, by rw [recorded, recorded_cons]; exact .inr (owned.uuid j uuid known), same⟩
    · obtain ⟨uuid, drew, same⟩ := owned.token j target token old
      exact ⟨uuid, by rw [recorded, recorded_cons]; exact .inr drew, same⟩

omit [DecidableEq ι] [DecidableEq Raw] [ClaimText Raw] in
/-- The fences a task took stay its fences. -/
theorem took_mono {locals' : ι → Session} {event : Event ι Raw} (owned : TokensOwned world locals)
    (owned' : TokensOwned after locals') (recorded : after.history = event :: world.history)
    (took : (locals i).Took symbol) : (locals' i).Took symbol := by
  obtain ⟨token, held⟩ := took
  refine ⟨token, (owned'.fence i _).mpr ?_⟩
  rw [recorded, recorded_cons]
  exact .inr ((owned.fence i _).mp held)

end TokensOwned

end Effects

end Trading
end DataGateway
