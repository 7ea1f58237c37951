import Mathlib.Logic.Function.Basic

/-!
# Finite coroutines

A coroutine either finishes with a value or an exception, or suspends at a command and resumes on
whatever reply it is given.  Every sequencing form of an asynchronous function (sequencing,
`except`, `finally`) continues from the outcome of its body, so all of them are instances of one
operation, `resolve`.
-/

/-- A finite computation that suspends at commands and may end in an exception. -/
inductive Coroutine {Cmd : Type} (Reply : Cmd → Type) (ε α : Type)
  /-- The computation has ended. -/
  | finish (outcome : Except ε α)
  /-- The computation waits for the reply to one command. -/
  | suspend (command : Cmd) (resume : Reply command → Coroutine Reply ε α)

namespace Coroutine

variable {Cmd : Type} {Reply : Cmd → Type} {ε ε' ε'' α β δ : Type}

/-- Continue from the outcome of a computation, whether it is a value or an exception. -/
def resolve : Coroutine Reply ε α → (Except ε α → Coroutine Reply ε' β) →
    Coroutine Reply ε' β
  | .finish outcome, next => next outcome
  | .suspend command resume, next => .suspend command fun reply => (resume reply).resolve next

/-- End with an exception. -/
def raise (error : ε) : Coroutine Reply ε α := .finish (.error error)

/-- Issue one command and return its reply. -/
def call (command : Cmd) : Coroutine Reply ε (Reply command) :=
  .suspend command fun reply => .finish (.ok reply)

/-- Sequencing: an exception skips the continuation. -/
def bind (body : Coroutine Reply ε α) (next : α → Coroutine Reply ε β) : Coroutine Reply ε β :=
  body.resolve fun
    | .ok value => next value
    | .error error => .finish (.error error)

/-- Exception handling, where the handler may change the kind of exception that leaves it. -/
def catching (body : Coroutine Reply ε α) (handler : ε → Coroutine Reply ε' α) :
    Coroutine Reply ε' α :=
  body.resolve fun
    | .ok value => .finish (.ok value)
    | .error error => handler error

/-- Run a clean-up on every exit; an exception of the clean-up replaces the body's outcome. -/
def ensuring (body : Coroutine Reply ε α) (cleanup : Coroutine Reply ε Unit) :
    Coroutine Reply ε α :=
  body.resolve fun outcome => cleanup.bind fun _ => .finish outcome

/-- A loop over a list that carries a state. -/
def foldEach (body : β → α → Coroutine Reply ε β) : β → List α → Coroutine Reply ε β
  | state, [] => .finish (.ok state)
  | state, item :: rest => (body state item).bind fun next => foldEach body next rest

/-- A loop over a list. -/
def forEach (items : List α) (body : α → Coroutine Reply ε Unit) : Coroutine Reply ε Unit :=
  foldEach (fun _ item => body item) () items

instance : Monad (Coroutine Reply ε) where
  pure value := .finish (.ok value)
  bind := bind

@[simp]
theorem pure_eq (value : α) : (pure value : Coroutine Reply ε α) = .finish (.ok value) := rfl

@[simp]
theorem bind_eq (body : Coroutine Reply ε α) (next : α → Coroutine Reply ε β) :
    body >>= next = body.bind next := rfl

@[simp]
theorem resolve_finish (outcome : Except ε α) (next : Except ε α → Coroutine Reply ε' β) :
    (finish outcome : Coroutine Reply ε α).resolve next = next outcome := rfl

@[simp]
theorem resolve_suspend (command : Cmd) (resume : Reply command → Coroutine Reply ε α)
    (next : Except ε α → Coroutine Reply ε' β) :
    (suspend command resume).resolve next =
      suspend command fun reply => (resume reply).resolve next := rfl

/-- A computation over other commands and exceptions. -/
def embed {Cmd' : Type} {Reply' : Cmd' → Type} (into : Cmd → Cmd')
    (back : ∀ command, Reply' (into command) → Reply command) (raises : ε → ε') :
    Coroutine Reply ε α → Coroutine Reply' ε' α
  | .finish outcome => .finish (outcome.mapError raises)
  | .suspend command resume =>
      .suspend (into command) fun reply => (resume (back command reply)).embed into back raises

/-- Every command the computation can still issue is allowed. -/
def Uses (allowed : Cmd → Prop) : Coroutine Reply ε α → Prop
  | .finish _ => True
  | .suspend command resume => allowed command ∧ ∀ reply, (resume reply).Uses allowed

variable {allowed : Cmd → Prop}

@[simp]
theorem uses_finish (outcome : Except ε α) :
    (finish outcome : Coroutine Reply ε α).Uses allowed := trivial

@[simp]
theorem uses_raise (error : ε) : (raise error : Coroutine Reply ε α).Uses allowed := trivial

@[simp]
theorem uses_call (command : Cmd) :
    (call command : Coroutine Reply ε (Reply command)).Uses allowed ↔ allowed command := by
  simp [call, Uses]

theorem Uses.resolve {body : Coroutine Reply ε α} {next : Except ε α → Coroutine Reply ε' β}
    (first : body.Uses allowed) (rest : ∀ outcome, (next outcome).Uses allowed) :
    (body.resolve next).Uses allowed := by
  induction body with
  | finish outcome => exact rest outcome
  | suspend command resume ih => exact ⟨first.1, fun reply => ih reply (first.2 reply)⟩

theorem Uses.bind {body : Coroutine Reply ε α} {next : α → Coroutine Reply ε β}
    (first : body.Uses allowed) (rest : ∀ value, (next value).Uses allowed) :
    (body.bind next).Uses allowed :=
  first.resolve fun
    | .ok value => rest value
    | .error _ => trivial

theorem Uses.catching {body : Coroutine Reply ε α} {handler : ε → Coroutine Reply ε' α}
    (first : body.Uses allowed) (rest : ∀ error, (handler error).Uses allowed) :
    (body.catching handler).Uses allowed :=
  first.resolve fun
    | .ok _ => trivial
    | .error error => rest error

theorem Uses.foldEach {body : β → α → Coroutine Reply ε β} {state : β} {items : List α}
    (each : ∀ state, ∀ item ∈ items, (body state item).Uses allowed) :
    (foldEach body state items).Uses allowed := by
  induction items generalizing state with
  | nil => trivial
  | cons item rest ih =>
      exact (each state item (.head _)).bind fun _ =>
        ih fun state other mem => each state other (.tail _ mem)

theorem Uses.mono {wider : Cmd → Prop} {body : Coroutine Reply ε α} (uses : body.Uses allowed)
    (implies : ∀ command, allowed command → wider command) : body.Uses wider := by
  induction body with
  | finish outcome => trivial
  | suspend command resume ih =>
      exact ⟨implies command uses.1, fun reply => ih reply (uses.2 reply)⟩

end Coroutine
