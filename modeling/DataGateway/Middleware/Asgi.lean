import Mathlib.Data.List.Basic

/-!
# Messages of a response

An application answers with the head of a response and then its body in any number of
chunks.  A middleware that stands before it is a step from message to messages, which may
raise into the application.
-/

namespace DataGateway
namespace Middleware

/-- `bytes`. -/
abbrev Bytes := List UInt8

/-- A literal of ASCII letters. -/
def ascii (text : String) : Bytes := text.toList.map fun c => UInt8.ofNat c.toNat

/-- `bytes.decode()`; `none` is a `UnicodeDecodeError`. -/
def decodeUtf8 (bytes : Bytes) : Option String := String.fromUTF8? ⟨bytes.toArray⟩

/-- `bytes.lower()`. -/
def lowerBytes (bytes : Bytes) : Bytes :=
  bytes.map fun byte => if 65 ≤ byte.toNat ∧ byte.toNat ≤ 90 then byte + 32 else byte

/-! ## Numbers -/

/-- The bytes that `int` strips. -/
def isSpaceByte (byte : UInt8) : Bool := (9 ≤ byte.toNat && byte.toNat ≤ 13) || byte.toNat == 32

def isDigitByte (byte : UInt8) : Bool := 48 ≤ byte.toNat && byte.toNat ≤ 57

/-- The digits of a number with single underscores between them, after a value and a count. -/
def readDigits (value count : Nat) (afterDigit : Bool) : Bytes → Option (Nat × Nat)
  | [] => if afterDigit then some (value, count) else none
  | byte :: rest =>
      if isDigitByte byte then readDigits (value * 10 + (byte.toNat - 48)) (count + 1) true rest
      else if byte.toNat = 95 ∧ afterDigit then readDigits value count false rest
      else none

/-- The most digits that `int` reads. -/
def maxStrDigits : Nat := 4300

/-- `int` of bytes; `none` is a `ValueError`. -/
def intOfBytes (bytes : Bytes) : Option Int :=
  let trimmed := ((bytes.dropWhile isSpaceByte).reverse.dropWhile isSpaceByte).reverse
  let (negative, digits) := match trimmed with
    | 45 :: rest => (true, rest)
    | 43 :: rest => (false, rest)
    | other => (false, other)
  match readDigits 0 0 false digits with
  | some (value, count) =>
      if maxStrDigits < count then none else some (if negative then -value else value)
  | none => none

/-! ## Responses -/

/-- `http.response.start`. -/
structure ResponseHead where
  status : Int
  headers : List (Bytes × Bytes)

/-- `dict(headers).get(name)`: the last one of its name. -/
def ResponseHead.header (head : ResponseHead) (name : String) : Option Bytes :=
  (head.headers.reverse.find? fun header => header.1 = ascii name).map Prod.snd

/-- `MutableHeaders.append`. -/
def ResponseHead.append (head : ResponseHead) (name value : String) : ResponseHead :=
  { head with headers := head.headers ++ [(lowerBytes (ascii name), ascii value)] }

/-- A message of a response. -/
inductive Message
  | start (head : ResponseHead)
  | body (chunk : Bytes) (moreBody : Bool)

/-- A complete response: every chunk but the last one announces more. -/
structure AppResponse where
  head : ResponseHead
  chunks : List Bytes
  last : Bytes

namespace AppResponse

/-- The messages with which the application sends it. -/
def messages (response : AppResponse) : List Message :=
  .start response.head :: (response.chunks.map (.body · true) ++ [.body response.last false])

/-- The body that the application sends. -/
def content (response : AppResponse) : Bytes := response.chunks.flatten ++ response.last

end AppResponse

/-- The bytes of the bodies in these messages. -/
def bodyBytes : List Message → Bytes
  | [] => []
  | .start _ :: rest => bodyBytes rest
  | .body chunk _ :: rest => chunk ++ bodyBytes rest

@[simp]
theorem bodyBytes_append (front back : List Message) :
    bodyBytes (front ++ back) = bodyBytes front ++ bodyBytes back := by
  induction front with
  | nil => rfl
  | cons message front ih =>
      cases message with
      | start head => exact ih
      | body chunk moreBody => simp [bodyBytes, ih]

@[simp]
theorem bodyBytes_messages (response : AppResponse) :
    bodyBytes response.messages = response.content := by
  have chunks (list : List Bytes) : bodyBytes (list.map (.body · true)) = list.flatten := by
    induction list with
    | nil => rfl
    | cons chunk list ih => simp [bodyBytes, ih]
  rw [AppResponse.messages, bodyBytes, bodyBytes_append, chunks]
  simp [bodyBytes, AppResponse.content]

/-! ## Senders -/

section Senders

variable {σ ε Effect : Type}

/-- What a sender does with the messages of an application, until it raises. -/
def feed (step : σ → Message → Except ε (σ × List Effect)) : σ → List Message →
    List Effect × Option ε
  | _, [] => ([], none)
  | state, message :: rest =>
      match step state message with
      | .error error => ([], some error)
      | .ok (next, effects) =>
          let (more, raised) := feed step next rest
          (effects ++ more, raised)

variable {step : σ → Message → Except ε (σ × List Effect)} {state next : σ} {message : Message}
  {rest : List Message} {effects : List Effect}

theorem feed_cons (stepped : step state message = .ok (next, effects)) :
    feed step state (message :: rest) =
      (effects ++ (feed step next rest).1, (feed step next rest).2) := by
  rw [feed, stepped]

theorem feed_error {error : ε} (raised : step state message = .error error) :
    feed step state (message :: rest) = ([], some error) := by
  rw [feed, raised]

/-- A sender that hands every chunk on as it comes. -/
theorem feed_passing {pass : Message → Effect} {bodies : List Message}
    (passes : ∀ message ∈ bodies, step state message = .ok (state, [pass message])) :
    feed step state bodies = (bodies.map pass, none) := by
  induction bodies with
  | nil => rfl
  | cons message bodies ih =>
      rw [feed_cons (passes message List.mem_cons_self),
        ih fun later mem => passes later (List.mem_cons_of_mem _ mem)]
      rfl

/-- A sender that keeps chunks until one of them is the last. -/
theorem feed_keeping {kept : List Bytes → σ} {before chunks : List Bytes}
    (keeps : ∀ chunks chunk, step (kept chunks) (.body chunk true) =
      .ok (kept (chunks ++ [chunk]), [])) :
    feed step (kept before) (chunks.map (.body · true) ++ rest) =
      feed step (kept (before ++ chunks)) rest := by
  induction chunks generalizing before with
  | nil => rw [List.append_nil]; rfl
  | cons chunk chunks ih =>
      rw [List.map_cons, List.cons_append, feed_cons (keeps before chunk), ih, List.append_assoc]
      rfl

end Senders

end Middleware
end DataGateway
