import DataGateway.Coroutine.Basic

/-!
# Contracts for coroutines

A contract says which commands a computation may issue in a local state and how a reply moves that
state.  `Meets` is the weakest precondition of a computation under a contract: it quantifies over
every reply the contract admits, so one proof covers every answer the outside can give.
-/

/-- The rules a computation keeps: permitted commands, and the local effect of their replies. -/
structure Contract {Cmd : Type} (Reply : Cmd → Type) (γ : Type) where
  /-- The command may be issued in this local state. -/
  may : Cmd → γ → Prop
  /-- A reply can move the local state this way. -/
  after : (command : Cmd) → γ → Reply command → γ → Prop

/-- The contract that only writes down every command with its reply, the newest first. -/
def Contract.logged {Cmd : Type} (Reply : Cmd → Type) :
    Contract Reply (List ((command : Cmd) × Reply command)) where
  may _ _ := True
  after command log reply next := next = ⟨command, reply⟩ :: log

/-- What a computation promises of its commands and is promised of the replies, in view of its local
state. -/
structure Terms {Cmd : Type} (Reply : Cmd → Type) (γ : Type) where
  /-- The command is one that was promised. -/
  guarantee : Cmd → γ → Prop
  /-- The reply is one that was promised. -/
  rely : (command : Cmd) → γ → Reply command → Prop

namespace Terms

variable {Cmd γ : Type} {Reply : Cmd → Type}

/-- Nothing is promised but what the replies are. -/
def relying (rely : (command : Cmd) → γ → Reply command → Prop) : Terms Reply γ :=
  ⟨fun _ _ => True, rely⟩

/-- Nothing is promised. -/
def free : Terms Reply γ := relying fun _ _ _ => True

end Terms

/-- The contract of a computation whose local state is what its own commands make of it. -/
def Contract.tracking {Cmd γ : Type} {Reply : Cmd → Type}
    (next : γ → (command : Cmd) → Reply command → γ) (terms : Terms Reply γ) :
    Contract Reply γ where
  may := terms.guarantee
  after command state reply last := last = next state command reply ∧ terms.rely command state reply

namespace Coroutine

variable {Cmd : Type} {Reply : Cmd → Type} {ε ε' α β γ : Type} {K : Contract Reply γ}

/-- From this local state the computation keeps the contract and ends in the postcondition. -/
def Meets (K : Contract Reply γ) (post : Except ε α → γ → Prop) (local_ : γ) :
    Coroutine Reply ε α → Prop
  | .finish outcome => post outcome local_
  | .suspend command resume =>
      K.may command local_ ∧
        ∀ reply next, K.after command local_ reply next → Meets K post next (resume reply)

variable {post : Except ε α → γ → Prop} {g : γ}

@[simp]
theorem meets_finish (outcome : Except ε α) :
    Meets K post g (finish outcome) ↔ post outcome g := Iff.rfl

@[simp]
theorem meets_raise (error : ε) : Meets K post g (raise error) ↔ post (.error error) g := Iff.rfl

theorem meets_suspend (command : Cmd) (resume : Reply command → Coroutine Reply ε α) :
    Meets K post g (suspend command resume) ↔
      K.may command g ∧
        ∀ reply next, K.after command g reply next → Meets K post next (resume reply) := Iff.rfl

theorem Meets.mono {wider : Except ε α → γ → Prop} {body : Coroutine Reply ε α}
    (meets : Meets K post g body)
    (implies : ∀ outcome last, post outcome last → wider outcome last) :
    Meets K wider g body := by
  induction body generalizing g with
  | finish outcome => exact implies _ _ meets
  | suspend command resume ih =>
      exact ⟨meets.1, fun reply next step => ih reply (meets.2 reply next step)⟩

/-- The contract of a continued computation is the contract of its two parts. -/
theorem meets_resolve {post : Except ε' β → γ → Prop} {body : Coroutine Reply ε α}
    {next : Except ε α → Coroutine Reply ε' β} :
    Meets K post g (body.resolve next) ↔
      Meets K (fun outcome last => Meets K post last (next outcome)) g body := by
  induction body generalizing g with
  | finish outcome => rfl
  | suspend command resume ih =>
      simp only [resolve_suspend, meets_suspend]
      exact and_congr_right fun _ => forall_congr' fun reply => forall_congr' fun last =>
        imp_congr_right fun _ => ih reply

theorem Meets.resolve {middle : Except ε α → γ → Prop} {post : Except ε' β → γ → Prop}
    {body : Coroutine Reply ε α} {next : Except ε α → Coroutine Reply ε' β}
    (first : Meets K middle g body)
    (rest : ∀ outcome last, middle outcome last → Meets K post last (next outcome)) :
    Meets K post g (body.resolve next) :=
  meets_resolve.mpr (first.mono rest)

theorem Meets.bind {middle : Except ε α → γ → Prop} {post : Except ε β → γ → Prop}
    {body : Coroutine Reply ε α} {next : α → Coroutine Reply ε β} (first : Meets K middle g body)
    (value : ∀ value last, middle (.ok value) last → Meets K post last (next value))
    (error : ∀ error last, middle (.error error) last → post (.error error) last) :
    Meets K post g (body.bind next) :=
  first.resolve fun
    | .ok _ => fun _ holds => value _ _ holds
    | .error _ => fun _ holds => error _ _ holds

/-- Sequencing after a pure step. -/
theorem Meets.finish_bind {post : Except ε β → γ → Prop} {outcome : Except ε α}
    {next : α → Coroutine Reply ε β} (value : ∀ value, outcome = .ok value →
      Meets K post g (next value)) (error : ∀ error, outcome = .error error →
        post (.error error) g) :
    Meets K post g ((finish outcome).bind next) := by
  cases outcome with
  | ok result => exact value result rfl
  | error failure => exact error failure rfl

theorem Meets.catching {middle : Except ε α → γ → Prop} {post : Except ε' α → γ → Prop}
    {body : Coroutine Reply ε α} {handler : ε → Coroutine Reply ε' α}
    (first : Meets K middle g body)
    (value : ∀ value last, middle (.ok value) last → post (.ok value) last)
    (error : ∀ error last, middle (.error error) last → Meets K post last (handler error)) :
    Meets K post g (body.catching handler) :=
  first.resolve fun
    | .ok _ => fun _ holds => value _ _ holds
    | .error _ => fun _ holds => error _ _ holds

theorem Meets.ensuring {middle : Except ε α → γ → Prop} {post : Except ε α → γ → Prop}
    {body : Coroutine Reply ε α} {cleanup : Coroutine Reply ε Unit}
    (first : Meets K middle g body)
    (rest : ∀ outcome last, middle outcome last →
      Meets K (fun
        | .ok _ => post outcome
        | .error error => post (.error error)) last cleanup) :
    Meets K post g (body.ensuring cleanup) :=
  first.resolve fun outcome last holds =>
    (rest outcome last holds).resolve fun
      | .ok _ => fun _ kept => kept
      | .error _ => fun _ kept => kept

theorem Meets.and {other : Except ε α → γ → Prop} {body : Coroutine Reply ε α}
    (left : Meets K post g body) (right : Meets K other g body) :
    Meets K (fun outcome last => post outcome last ∧ other outcome last) g body := by
  induction body generalizing g with
  | finish outcome => exact ⟨left, right⟩
  | suspend command resume ih =>
      exact ⟨left.1, fun reply next step => ih reply (left.2 reply next step)
        (right.2 reply next step)⟩

/-- A loop: the invariant speaks of what is left, and a failure ends the loop. -/
theorem Meets.foldEach (Inv : List α → β → γ → Prop) (fail : ε → γ → Prop)
    {body : β → α → Coroutine Reply ε β} {state : β} {items : List α}
    (start : Inv items state g) (step : ∀ item rest state last, Inv (item :: rest) state last →
      Meets K (fun outcome after => match outcome with
        | .ok next => Inv rest next after
        | .error error => fail error after) last (body state item)) :
    Meets K (fun outcome after => match outcome with
      | .ok final => Inv [] final after
      | .error error => fail error after) g (Coroutine.foldEach body state items) := by
  induction items generalizing state g with
  | nil => exact start
  | cons item rest ih =>
      exact (step item rest state g start).bind (fun next last holds => ih holds)
        fun _ _ failed => failed

/-- The computation ends in a value. -/
def Returns (K : Contract Reply γ) (result : α → γ → Prop) (g : γ)
    (body : Coroutine Reply ε α) : Prop :=
  Meets K (fun outcome last => ∃ value, outcome = .ok value ∧ result value last) g body

section Values

variable {result : α → γ → Prop}

theorem Returns.mono {wider : α → γ → Prop} {body : Coroutine Reply ε α}
    (returns : Returns K result g body)
    (implies : ∀ value last, result value last → wider value last) :
    Returns K wider g body :=
  Meets.mono returns fun _ last ⟨value, same, holds⟩ => ⟨value, same, implies value last holds⟩

theorem Returns.resolve {post : Except ε' β → γ → Prop} {body : Coroutine Reply ε α}
    {next : Except ε α → Coroutine Reply ε' β} (first : Returns K result g body)
    (rest : ∀ value last, result value last → Meets K post last (next (.ok value))) :
    Meets K post g (body.resolve next) :=
  Meets.resolve first fun _ last ⟨value, same, holds⟩ => same ▸ rest value last holds

theorem Returns.bind {post : Except ε β → γ → Prop} {body : Coroutine Reply ε α}
    {next : α → Coroutine Reply ε β} (first : Returns K result g body)
    (rest : ∀ value last, result value last → Meets K post last (next value)) :
    Meets K post g (body.bind next) :=
  first.resolve rest

/-- Nothing is left to a handler. -/
theorem Returns.catching {body : Coroutine Reply ε α} {handler : ε → Coroutine Reply ε' α}
    (returns : Returns K result g body) : Returns K result g (body.catching handler) :=
  returns.resolve fun value _ holds => ⟨value, rfl, holds⟩

end Values

section Kept

variable {A : γ → Prop}

/-- Sequencing of parts that keep one assertion on the local state. -/
theorem Meets.bind_kept {body : Coroutine Reply ε α} {next : α → Coroutine Reply ε β}
    (first : Meets K (fun _ last => A last) g body)
    (rest : ∀ value last, A last → Meets K (fun _ last => A last) last (next value)) :
    Meets K (fun _ last => A last) g (body.bind next) :=
  first.bind rest fun _ _ kept => kept

/-- Handling an exception between parts that keep one assertion on the local state. -/
theorem Meets.catching_kept {body : Coroutine Reply ε α} {handler : ε → Coroutine Reply ε' α}
    (first : Meets K (fun _ last => A last) g body)
    (rest : ∀ error last, A last → Meets K (fun _ last => A last) last (handler error)) :
    Meets K (fun _ last => A last) g (body.catching handler) :=
  first.catching (fun _ _ kept => kept) rest

end Kept

/-- An embedded computation keeps its contract on what its commands see of the state, and
keeps what they keep. -/
theorem Meets.embed {Cmd' γ' : Type} {Reply' : Cmd' → Type} {K' : Contract Reply' γ'}
    {view : γ' → γ} {Kept : γ' → Prop} {g' : γ'} {into : Cmd → Cmd'}
    {back : ∀ command, Reply' (into command) → Reply command} {raises : ε → ε'}
    {body : Coroutine Reply ε α} (meets : Meets K post (view g') body) (kept : Kept g')
    (may : ∀ command state, Kept state → K.may command (view state) → K'.may (into command) state)
    (after : ∀ command state reply next, Kept state → K'.after (into command) state reply next →
      K.after command (view state) (back command reply) (view next) ∧ Kept next) :
    Meets K' (fun outcome last => ∃ inner, outcome = inner.mapError raises ∧
      post inner (view last) ∧ Kept last) g' (body.embed into back raises) := by
  induction body generalizing g' with
  | finish outcome => exact ⟨outcome, rfl, meets, kept⟩
  | suspend command resume ih =>
      refine ⟨may command g' kept meets.1, fun reply next moved => ?_⟩
      obtain ⟨seen, still⟩ := after command g' reply next kept moved
      exact ih (back command reply) (meets.2 (back command reply) (view next) seen) still

/-- A computation that only issues neutral commands leaves the local state alone. -/
theorem Uses.meets {allowed : Cmd → Prop} {body : Coroutine Reply ε α} (uses : body.Uses allowed)
    (neutral : ∀ command, allowed command →
      K.may command g ∧ ∀ reply next, K.after command g reply next → next = g) :
    Meets K (fun _ last => last = g) g body := by
  induction body with
  | finish outcome => rfl
  | suspend command resume ih =>
      obtain ⟨permitted, still⟩ := neutral command uses.1
      refine ⟨permitted, fun reply next step => ?_⟩
      rw [still reply next step]
      exact ih reply (uses.2 reply)

/-- A property of the local state that every allowed command keeps holds at the end. -/
theorem Uses.meets_inv {allowed : Cmd → Prop} {Q : γ → Prop} {body : Coroutine Reply ε α}
    (uses : body.Uses allowed) (start : Q g)
    (keeps : ∀ command current, allowed command → Q current →
      K.may command current ∧ ∀ reply next, K.after command current reply next → Q next) :
    Meets K (fun _ last => Q last) g body := by
  induction body generalizing g with
  | finish outcome => exact start
  | suspend command resume ih =>
      obtain ⟨permitted, moves⟩ := keeps command g uses.1 start
      exact ⟨permitted, fun reply next step => ih reply (uses.2 reply) (moves reply next step)⟩

/-- A result proved under a contract on a part of the local state, together with what every command
keeps, under a contract on the whole of it. -/
theorem Uses.through {γ' : Type} {K' : Contract Reply γ'} (view : γ' → γ) {g' : γ'}
    {allowed : Cmd → Prop} {Q : γ' → Prop} {body : Coroutine Reply ε α} (uses : body.Uses allowed)
    (meets : Meets K post (view g') body) (start : Q g')
    (step : ∀ command current, allowed command → Q current → K.may command (view current) →
      K'.may command current ∧ ∀ reply next, K'.after command current reply next →
        K.after command (view current) reply (view next) ∧ Q next) :
    Meets K' (fun outcome last => post outcome (view last) ∧ Q last) g' body := by
  induction body generalizing g' with
  | finish outcome => exact ⟨meets, start⟩
  | suspend command resume ih =>
      obtain ⟨permitted, moves⟩ := step command g' uses.1 start meets.1
      refine ⟨permitted, fun reply next moved => ?_⟩
      obtain ⟨admitted, kept⟩ := moves reply next moved
      exact ih reply (uses.2 reply) (meets.2 reply (view next) admitted) kept

/-- A result proved under one contract, together with what every command keeps, under a second
contract whose replies the first one admits. -/
theorem Uses.strengthen {K' : Contract Reply γ} {allowed : Cmd → Prop} {Q : γ → Prop}
    {body : Coroutine Reply ε α} (uses : body.Uses allowed)
    (meets : Meets K post g body) (start : Q g)
    (step : ∀ command current, allowed command → Q current → K'.may command current ∧
      ∀ reply next, K'.after command current reply next →
        K.after command current reply next ∧ Q next) :
    Meets K' (fun outcome last => post outcome last ∧ Q last) g body :=
  uses.through (fun state => state) meets start fun command current permitted kept _ =>
    step command current permitted kept

/-- What a part of the local state tells about the outcome is added to what the contract tells. -/
theorem Meets.both {γ' : Type} {K' : Contract Reply γ'} (view : γ → γ')
    {other : Except ε α → γ' → Prop} {body : Coroutine Reply ε α} (left : Meets K post g body)
    (right : Meets K' other (view g) body)
    (seen : ∀ command state reply next, K.after command state reply next →
      K'.after command (view state) reply (view next)) :
    Meets K (fun outcome last => post outcome last ∧ other outcome (view last)) g body := by
  induction body generalizing g with
  | finish outcome => exact ⟨left, right⟩
  | suspend command resume ih =>
      exact ⟨left.1, fun reply next moved => ih reply (left.2 reply next moved)
        (right.2 reply (view next) (seen command g reply next moved))⟩

section Logged

variable {log : List ((command : Cmd) × Reply command)}
variable {written : Except ε α → List ((command : Cmd) × Reply command) → Prop}

@[simp]
theorem meets_logged_suspend (command : Cmd) (resume : Reply command → Coroutine Reply ε α) :
    Meets (Contract.logged Reply) written log (suspend command resume) ↔
      ∀ reply, Meets (Contract.logged Reply) written (⟨command, reply⟩ :: log) (resume reply) := by
  simp [meets_suspend, Contract.logged]

/-- Every computation may be written down. -/
theorem meets_logged {body : Coroutine Reply ε α} :
    Meets (Contract.logged Reply) (fun _ _ => True) log body := by
  induction body generalizing log with
  | finish outcome => trivial
  | suspend command resume ih => exact ⟨trivial, fun reply _ _ => ih reply⟩

/-- What a computation writes down does not depend on what was written before. -/
theorem Meets.logged_after {body : Coroutine Reply ε α}
    (alone : Meets (Contract.logged Reply) (fun outcome later => written outcome (later ++ log)) []
      body) : Meets (Contract.logged Reply) written log body := by
  have general : ∀ (body : Coroutine Reply ε α) earlier,
      Meets (Contract.logged Reply) (fun outcome later => written outcome (later ++ log)) earlier
        body → Meets (Contract.logged Reply) written (earlier ++ log) body := by
    intro body
    induction body with
    | finish outcome => exact fun _ holds => holds
    | suspend command resume ih =>
        intro earlier meets
        rw [meets_logged_suspend] at meets ⊢
        exact fun reply => ih reply _ (meets reply)
  exact general body [] alone

/-- Sequencing, where the parts write one after the other. -/
theorem Meets.logged_bind {first : Except ε α → List ((command : Cmd) × Reply command) → Prop}
    {post : Except ε β → List ((command : Cmd) × Reply command) → Prop}
    {body : Coroutine Reply ε α} {next : α → Coroutine Reply ε β}
    (starts : Meets (Contract.logged Reply) first [] body)
    (value : ∀ value log, first (.ok value) log →
      Meets (Contract.logged Reply) (fun outcome later => post outcome (later ++ log))
      [] (next value)) (error : ∀ error log, first (.error error) log → post (.error error) log) :
    Meets (Contract.logged Reply) post [] (body.bind next) :=
  starts.bind (fun result log holds => (value result log holds).logged_after) error

/-- The turns of a loop, each with what it wrote. -/
inductive Turns {Event : Type} (Turn : α → β → List Event → β → Prop) :
    List α → β → List Event → β → Prop
  | nil {state} : Turns Turn [] state [] state
  | cons {item rest state log next later final} (turn : Turn item state log next)
      (others : Turns Turn rest next later final) :
      Turns Turn (item :: rest) state (later ++ log) final

/-- A loop that ends has taken one turn for every item. -/
theorem Meets.logged_foldEach
    {Turn : α → β → List ((command : Cmd) × Reply command) → β → Prop}
    {body : β → α → Coroutine Reply ε β} {state : β} {items : List α}
    (each : ∀ item state, Meets (Contract.logged Reply)
      (fun outcome log => ∀ next, outcome = .ok next → Turn item state log next) []
        (body state item)) :
    Meets (Contract.logged Reply)
      (fun outcome log => ∀ final, outcome = .ok final → Turns Turn items state log final) []
      (Coroutine.foldEach body state items) := by
  induction items generalizing state with
  | nil =>
      intro _ same
      exact Except.ok.inj same ▸ .nil
  | cons item rest ih =>
      exact (each item state).logged_bind
        (fun next log turn => ih.mono fun _ later others final same =>
          .cons (turn next rfl) (others final same)) fun _ _ _ => nofun

end Logged

/-- The log of a computation grows by allowed commands. -/
theorem Uses.logged {allowed : Cmd → Prop} {body : Coroutine Reply ε α} (uses : body.Uses allowed)
    (log : List ((command : Cmd) × Reply command)) :
    Meets (Contract.logged Reply) (fun _ last => ∃ new, last = new ++ log ∧
      ∀ event ∈ new, allowed event.1) log body := by
  refine uses.meets_inv ⟨[], rfl, nofun⟩ ?_
  rintro command _ permitted ⟨new, rfl, old⟩
  refine ⟨trivial, ?_⟩
  rintro reply _ rfl
  exact ⟨⟨command, reply⟩ :: new, rfl, fun event mem => (List.mem_cons.mp mem).elim
    (fun same => same ▸ permitted) (old event)⟩

/-- One run of a computation under a contract: the local state moves as the contract allows. -/
inductive Ends (K : Contract Reply γ) : γ → Coroutine Reply ε α → Except ε α → γ → Prop
  /-- The computation has ended. -/
  | finish {state outcome} : Ends K state (.finish outcome) outcome state
  /-- One command is answered and the run goes on. -/
  | suspend {state command resume outcome last} (reply : Reply command) (next : γ)
      (answered : K.after command state reply next)
      (rest : Ends K next (resume reply) outcome last) :
      Ends K state (.suspend command resume) outcome last

/-- A run of a computation and a run of what follows its outcome make one run. -/
theorem Ends.resolve {body : Coroutine Reply ε α} {next : Except ε α → Coroutine Reply ε' β}
    {outcome : Except ε α} {final : Except ε' β} {middle last : γ}
    (first : Ends K g body outcome middle) (rest : Ends K middle (next outcome) final last) :
    Ends K g (body.resolve next) final last := by
  induction first with
  | finish => exact rest
  | suspend reply next answered _ ih => exact .suspend reply next answered (ih rest)

theorem Ends.bind_raised {body : Coroutine Reply ε α}
    {next : α → Coroutine Reply ε β} {error : ε}
    {last : γ} (raised : Ends K g body (.error error) last) :
    Ends K g (body.bind next) (.error error) last :=
  raised.resolve .finish

theorem Ends.catching_raised {body : Coroutine Reply ε α} {handler : ε → Coroutine Reply ε' α}
    {error : ε} {outcome : Except ε' α} {middle last : γ}
    (raised : Ends K g body (.error error) middle)
    (rest : Ends K middle (handler error) outcome last) :
    Ends K g (body.catching handler) outcome last :=
  raised.resolve rest

/-- A computation whose commands always have an answer has a run. -/
theorem Ends.exists_of_answered (body : Coroutine Reply ε α)
    (answered : ∀ command state, ∃ reply next, K.after command state reply next) :
    ∃ outcome last, Ends K g body outcome last := by
  induction body generalizing g with
  | finish outcome => exact ⟨outcome, g, .finish⟩
  | suspend command resume ih =>
      obtain ⟨reply, next, moved⟩ := answered command g
      obtain ⟨outcome, last, rest⟩ := ih reply (g := next)
      exact ⟨outcome, last, .suspend reply next moved rest⟩

/-- Every run of a computation that keeps its contract ends in the postcondition. -/
theorem Ends.meets {body : Coroutine Reply ε α} {outcome : Except ε α} {last : γ}
    (ends : Ends K g body outcome last) (keeps : Meets K post g body) : post outcome last := by
  induction ends with
  | finish => exact keeps
  | suspend reply next answered _ ih => exact ih (keeps.2 _ _ answered)

end Coroutine
