import DataGateway.Middleware.Asgi
import DataGateway.Python.Text
import Mathlib.Algebra.Ring.Nat

/-!
# Limits of requests

`InputValidationMiddleware`: the length of the URL and a `Content-Length` are checked before the
application runs.  Of any other body the chunks are counted while the application receives them, and
what the application sends after too many bytes is replaced.
-/

namespace DataGateway
namespace Middleware

/-- The parts of an ASGI scope that are checked. -/
structure RequestScope where
  type : String
  path : String
  queryString : Bytes
  headers : List (Bytes × Bytes)

/-- `dict(headers).get(name)`. -/
def RequestScope.header (scope : RequestScope) (name : String) : Option Bytes :=
  (scope.headers.reverse.find? fun header => header.1 = ascii name).map Prod.snd

/-- A message of a request. -/
inductive RequestMessage
  | request (body : Bytes) (moreBody : Bool)
  | disconnect
  deriving DecidableEq, Repr

/-- `PARAM_LIMITS["url_max_bytes"]`. -/
def urlMaxBytes : Nat := 8 * 1024

/-- `PARAM_LIMITS["request_body_max_bytes"]`. -/
def requestBodyMaxBytes : Nat := 1024 * 1024

/-- `InputValidationError.to_dict()`, for the errors of this middleware. -/
structure ErrorDetail where
  code : String
  message : String
  field : Option String
  value : Option Int
  deriving DecidableEq, Repr

/-- `validate_request_size(content_length, endpoint_type="rest")`. -/
def validateRequestSize (contentLength : Int) : Option ErrorDetail :=
  if (requestBodyMaxBytes : Int) < contentLength then
    some ⟨"GW-E8005", "Request body exceeds 1024KB limit", some "content-length",
      some contentLength⟩
  else none

/-- `_SKIP_EXACT`. -/
def skipExact : List String := ["/metrics", "/openapi.json", "/docs", "/redoc"]

/-- `JSONResponse(status_code, content={"detail": detail})`, for a way to write JSON. -/
def jsonResponse (dumps : ErrorDetail → Bytes) (status : Int) (detail : ErrorDetail) :
    AppResponse :=
  let body := dumps detail
  ⟨⟨status, [(ascii "content-length", ascii (toString body.length)),
    (ascii "content-type", ascii "application/json")]⟩, [], body⟩

/-- What `__call__` does before the application runs. -/
inductive Entrance
  /-- The application talks to the client itself. -/
  | passed
  /-- The middleware answers. -/
  | rejected (status : Int) (detail : ErrorDetail)
  /-- The application runs with counted chunks. -/
  | counted
  deriving DecidableEq, Repr

/-- The checks of `__call__`. -/
def entrance (scope : RequestScope) : Entrance :=
  if scope.type ≠ "http" then .passed
  else if Text.startsWith scope.path "/health" ∨ scope.path ∈ skipExact then .passed
  else if urlMaxBytes < scope.path.utf8ByteSize + scope.queryString.length then
    .rejected 414 ⟨"GW-E8003", "Request URI too long", none, none⟩
  else
    match scope.header "content-length" with
    | none => .counted
    | some contentLengthRaw =>
        match if contentLengthRaw = [] then none else intOfBytes contentLengthRaw with
        | none => .counted
        | some contentLength =>
            match validateRequestSize contentLength with
            | some error => .rejected 413 error
            | none => .counted

/-! ## Counted chunks -/

/-- `bytes_seen`, `oversize_error` and `sent_413`. -/
structure BodyGate where
  bytesSeen : Nat
  oversizeError : Option ErrorDetail
  sent413 : Bool
  deriving DecidableEq, Repr

namespace BodyGate

/-- The variables before the application runs. -/
def new : BodyGate := ⟨0, none, false⟩

/-- `_byte_counting_receive`, for a message of the client. -/
def receive (gate : BodyGate) (message : RequestMessage) : BodyGate × RequestMessage :=
  match message with
  | .request body _ =>
      let gate := { gate with bytesSeen := gate.bytesSeen + body.length }
      match gate.oversizeError with
      | none =>
          match validateRequestSize gate.bytesSeen with
          | some error => ({ gate with oversizeError := some error }, .request [] false)
          | none => (gate, message)
      | some _ => (gate, message)
  | .disconnect => (gate, message)

/-- `_wrapped_send`: the messages that reach the client. -/
def send (dumps : ErrorDetail → Bytes) (gate : BodyGate) (message : Message) :
    BodyGate × List Message :=
  match gate.oversizeError, gate.sent413 with
  | some error, false => ({ gate with sent413 := true }, (jsonResponse dumps 413 error).messages)
  | _, true => (gate, [])
  | none, false => (gate, [message])

end BodyGate

/-! ## Runs of an application -/

/-- What an application does next. -/
inductive AppStep
  | receive
  | send (message : Message)

/-- An application in the middle of a request: what the client has not been asked for yet, what the
application observed and what reached the client. -/
structure Exchange where
  gate : BodyGate
  incoming : List RequestMessage
  observed : List RequestMessage
  delivered : List Message

namespace Exchange

variable (dumps : ErrorDetail → Bytes)

/-- One step behind the counting functions; a receive waits when nothing comes. -/
def step (exchange : Exchange) : AppStep → Exchange
  | .receive =>
      match exchange.incoming with
      | [] => exchange
      | message :: rest =>
          let (gate, seen) := exchange.gate.receive message
          { exchange with gate, incoming := rest, observed := exchange.observed ++ [seen] }
  | .send message =>
      let (gate, messages) := exchange.gate.send dumps message
      { exchange with gate, delivered := exchange.delivered ++ messages }

/-- One step of an application that talks to the client itself. -/
def directStep (exchange : Exchange) : AppStep → Exchange
  | .receive =>
      match exchange.incoming with
      | [] => exchange
      | message :: rest =>
          { exchange with incoming := rest, observed := exchange.observed ++ [message] }
  | .send message => { exchange with delivered := exchange.delivered ++ [message] }

/-- `__call__`, with the messages of the client and the steps of the application. -/
def serve (scope : RequestScope) (incoming : List RequestMessage)
    (steps : List AppStep) : Exchange :=
  let start : Exchange := ⟨.new, incoming, [], []⟩
  match entrance scope with
  | .passed => steps.foldl directStep start
  | .rejected status detail =>
      { start with delivered := (jsonResponse dumps status detail).messages }
  | .counted => steps.foldl (step dumps) start

end Exchange

/-! ## Too many bytes -/

/-- A body that the client sends in chunks. -/
def requestMessages (chunks : List (Bytes × Bool)) : List RequestMessage :=
  chunks.map fun chunk => .request chunk.1 chunk.2

/-- The bytes of some chunks. -/
def chunkBytes (chunks : List (Bytes × Bool)) : Nat := (chunks.map fun chunk => chunk.1.length).sum

/-- A request without a length that can be read is counted. -/
theorem entrance_eq_counted {scope : RequestScope} (http : scope.type = "http")
    (health : Text.startsWith scope.path "/health" = false) (checked : scope.path ∉ skipExact)
    (short : scope.path.utf8ByteSize + scope.queryString.length ≤ urlMaxBytes)
    (unusable : ∀ raw, scope.header "content-length" = some raw → raw = [] ∨
      intOfBytes raw = none) :
    entrance scope = .counted := by
  rw [entrance, if_neg (not_not.mpr http), if_neg (by simp [health, checked]), if_neg (by omega)]
  cases held : scope.header "content-length" with
  | none => rfl
  | some raw => rcases unusable raw held with rfl | none_ <;> simp [*]

namespace Exchange

variable {dumps : ErrorDetail → Bytes} {front rest : List (Bytes × Bool)} {crossing : Bytes × Bool}

/-- What the application observes of a body that is too long: the chunks up to the limit, an end of
the body instead of the next one, and whatever it asks for after that. -/
def cut (front rest : List (Bytes × Bool)) : List RequestMessage :=
  requestMessages front ++ .request [] false :: requestMessages rest

/-- How far an application is in a body that is too long. -/
structure Cutting (front rest : List (Bytes × Bool)) (crossing : Bytes × Bool) (received : Nat)
    (exchange : Exchange) : Prop where
  observed : exchange.observed = (cut front rest).take received
  incoming : exchange.incoming = (requestMessages (front ++ crossing :: rest)).drop received
  counting : received ≤ front.length →
    exchange.gate.bytesSeen = chunkBytes (front.take received) ∧ exchange.gate.oversizeError = none
  exceeded : front.length < received → exchange.gate.oversizeError =
    validateRequestSize (chunkBytes front + crossing.1.length)

theorem chunkBytes_take_succ {chunk : Bytes × Bool} {received : Nat}
    (at_ : front[received]? = some chunk) :
    chunkBytes (front.take (received + 1)) = chunkBytes (front.take received) + chunk.1.length := by
  rw [List.take_add_one, at_]
  simp [chunkBytes]

theorem chunkBytes_take_le (front : List (Bytes × Bool)) (received : Nat) :
    chunkBytes (front.take received) ≤ chunkBytes front := by
  have parts : chunkBytes front = chunkBytes (front.take received) +
      chunkBytes (front.drop received) := by
    unfold chunkBytes
    rw [← List.sum_append, ← List.map_append, List.take_append_drop]
  omega

/-- The messages by their place, with one of them replaced. -/
theorem getElem?_replaced (message : RequestMessage) (place : Nat) :
    (requestMessages front ++ message :: requestMessages rest)[place]? =
      if place < front.length then front[place]?.map fun chunk => .request chunk.1 chunk.2
      else if place = front.length then some message
      else rest[place - front.length - 1]?.map fun chunk => .request chunk.1 chunk.2 := by
  have length : (requestMessages front).length = front.length := List.length_map _
  rcases lt_trichotomy place front.length with before | rfl | later
  · rw [List.getElem?_append_left (by omega), if_pos before, requestMessages, List.getElem?_map]
  · rw [List.getElem?_append_right (by omega), length]
    simp
  · rw [List.getElem?_append_right (by omega), length, if_neg (by omega), if_neg (by omega),
      List.getElem?_cons, if_neg (by omega), requestMessages, List.getElem?_map]

theorem requestMessages_append (front rest : List (Bytes × Bool)) (crossing : Bytes × Bool) :
    requestMessages (front ++ crossing :: rest) =
      requestMessages front ++ .request crossing.1 crossing.2 :: requestMessages rest := by
  simp [requestMessages]

/-- The next message, by its place. -/
theorem getElem?_of_drop {α : Type} {list tail : List α} {item : α} {count : Nat}
    (dropped : list.drop count = item :: tail) :
    list[count]? = some item ∧ list.drop (count + 1) = tail := by
  constructor
  · simpa using congrArg List.head? dropped
  · simpa using congrArg List.tail dropped

/-- The gate hands on a chunk that fits. -/
theorem receive_fits (gate : BodyGate) (chunk : Bytes × Bool) (none_ : gate.oversizeError = none)
    (fits : gate.bytesSeen + chunk.1.length ≤ requestBodyMaxBytes) :
    gate.receive (.request chunk.1 chunk.2) =
      ({ gate with bytesSeen := gate.bytesSeen + chunk.1.length }, .request chunk.1 chunk.2) := by
  have valid : validateRequestSize ((gate.bytesSeen + chunk.1.length : Nat) : Int) = none :=
    if_neg (by omega)
  push_cast at valid
  simp [BodyGate.receive, none_, valid]

/-- The gate ends the body at the chunk that does not fit. -/
theorem receive_crossing (gate : BodyGate) (chunk : Bytes × Bool)
    (none_ : gate.oversizeError = none)
    (exceeds : requestBodyMaxBytes < gate.bytesSeen + chunk.1.length) :
    (gate.receive (.request chunk.1 chunk.2)).2 = .request [] false ∧
      (gate.receive (.request chunk.1 chunk.2)).1.oversizeError =
        validateRequestSize (gate.bytesSeen + chunk.1.length) := by
  obtain ⟨error, invalid⟩ : ∃ error,
      validateRequestSize ((gate.bytesSeen + chunk.1.length : Nat) : Int) = some error :=
    ⟨_, if_pos (by omega)⟩
  push_cast at invalid
  simp [BodyGate.receive, none_, invalid]

/-- After that the gate hands on whatever is asked for. -/
theorem receive_over (gate : BodyGate) (chunk : Bytes × Bool) {error : ErrorDetail}
    (exceeded : gate.oversizeError = some error) :
    (gate.receive (.request chunk.1 chunk.2)).2 = .request chunk.1 chunk.2 ∧
      (gate.receive (.request chunk.1 chunk.2)).1.oversizeError = some error := by
  simp [BodyGate.receive, exceeded]

/-- One more message is received. -/
theorem Cutting.receive (dumps : ErrorDetail → Bytes) {received : Nat} {exchange : Exchange}
    (cutting : Cutting front rest crossing received exchange)
    (fits : chunkBytes front ≤ requestBodyMaxBytes)
    (exceeds : requestBodyMaxBytes < chunkBytes front + crossing.1.length) :
    Cutting front rest crossing (received + 1) (exchange.step dumps .receive) := by
  unfold step
  dsimp only
  split
  next nothing =>
    have short : (requestMessages (front ++ crossing :: rest)).length ≤ received := by
      rw [← List.drop_eq_nil_iff, ← cutting.incoming, nothing]
    have length :
        (cut front rest).length = (requestMessages (front ++ crossing :: rest)).length := by
      simp [cut, requestMessages]
    have exceeded : front.length < received := by
      simp [requestMessages] at short
      omega
    refine ⟨?_, ?_, fun upTo => absurd upTo (by omega), fun _ => cutting.exceeded exceeded⟩
    · rw [cutting.observed, List.take_of_length_le (by omega), List.take_of_length_le (by omega)]
    · rw [nothing, List.drop_eq_nil_iff.mpr (by omega)]
  next message tail next_ =>
    obtain ⟨at_, left⟩ := getElem?_of_drop (cutting.incoming.symm.trans next_)
    rw [requestMessages_append, getElem?_replaced] at at_
    have taken (seen : RequestMessage) (same : (cut front rest)[received]? = some seen) :
        exchange.observed ++ [seen] = (cut front rest).take (received + 1) := by
      rw [List.take_add_one, same, cutting.observed]
      rfl
    rw [cut] at taken
    simp only [getElem?_replaced] at taken
    rcases lt_trichotomy received front.length with before | here | later
    · obtain ⟨seen, none_⟩ := cutting.counting before.le
      have chunk : front[received]? = some front[received] := List.getElem?_eq_getElem before
      have upTo := chunkBytes_take_succ chunk
      have most := chunkBytes_take_le front (received + 1)
      rw [if_pos before, chunk] at at_ taken
      obtain rfl := Option.some.inj at_
      have handed := receive_fits exchange.gate front[received] none_ (by omega)
      rw [handed]
      exact ⟨taken _ rfl, left.symm, fun _ => ⟨by rw [upTo, seen], none_⟩,
        fun exceeded => absurd exceeded (by omega)⟩
    · subst here
      obtain ⟨seen, none_⟩ := cutting.counting le_rfl
      rw [List.take_length] at seen
      rw [if_neg (lt_irrefl _), if_pos rfl] at at_ taken
      obtain rfl := Option.some.inj at_
      obtain ⟨ended, error⟩ := receive_crossing exchange.gate crossing none_
        (by omega)
      exact ⟨taken _ (by rw [ended]), left.symm, fun upTo => absurd upTo (by omega),
        fun _ => by rw [error, seen]⟩
    · obtain ⟨error, exceeded⟩ : ∃ error, exchange.gate.oversizeError = some error := by
        rw [cutting.exceeded later]
        exact ⟨_, if_pos (by omega)⟩
      rw [if_neg (by omega), if_neg (by omega)] at at_ taken
      obtain ⟨chunk, listed, rfl⟩ := Option.map_eq_some_iff.mp at_
      obtain ⟨handed, still⟩ := receive_over exchange.gate chunk exceeded
      refine ⟨taken _ ?_, left.symm, fun upTo => absurd upTo (by omega), fun _ => ?_⟩
      · rw [listed, handed]
        rfl
      · rw [still, ← exceeded, cutting.exceeded later]

/-- Sending leaves what is received alone. -/
theorem Cutting.send {received : Nat} {exchange : Exchange}
    (cutting : Cutting front rest crossing received exchange) (message : Message) :
    Cutting front rest crossing received (exchange.step dumps (.send message)) := by
  have same : (exchange.gate.send dumps message).1.bytesSeen = exchange.gate.bytesSeen ∧
      (exchange.gate.send dumps message).1.oversizeError = exchange.gate.oversizeError := by
    unfold BodyGate.send
    split <;> exact ⟨rfl, rfl⟩
  exact ⟨cutting.observed, cutting.incoming,
    fun upTo => ⟨same.1.trans (cutting.counting upTo).1, same.2.trans (cutting.counting upTo).2⟩,
    fun exceeded => same.2.trans (cutting.exceeded exceeded)⟩

/-- How often the application receives. -/
def receives (steps : List AppStep) : Nat := steps.countP fun
  | .receive => true
  | .send _ => false

/-- Whether the application sends. -/
def sends (steps : List AppStep) : Bool := steps.any fun
  | .receive => false
  | .send _ => true

/-- Along a run. -/
theorem Cutting.run (dumps : ErrorDetail → Bytes) {received : Nat} {exchange : Exchange}
    (cutting : Cutting front rest crossing received exchange)
    (fits : chunkBytes front ≤ requestBodyMaxBytes)
    (exceeds : requestBodyMaxBytes < chunkBytes front + crossing.1.length) (steps : List AppStep) :
    Cutting front rest crossing (received + receives steps)
    (steps.foldl (step dumps) exchange) := by
  induction steps generalizing received exchange with
  | nil => exact cutting
  | cons step steps ih =>
      cases step with
      | receive =>
          have next := ih (cutting.receive dumps fits exceeds)
          have count : receives (.receive :: steps) = receives steps + 1 := by simp [receives]
          rwa [Nat.add_right_comm, Nat.add_assoc, ← count] at next
      | send message => exact ih (cutting.send message)

/-- A gate that has seen too many bytes keeps its error and what it has sent. -/
theorem receive_keeps {gate : BodyGate} {error : ErrorDetail}
    (exceeded : gate.oversizeError = some error)
    (message : RequestMessage) : (gate.receive message).1.oversizeError = some error ∧
      (gate.receive message).1.sent413 = gate.sent413 := by
  cases message with
  | request body moreBody => simp [BodyGate.receive, exceeded]
  | disconnect => exact ⟨exceeded, rfl⟩

/-- After too many bytes the first message of the application is replaced and
the others are dropped. -/
theorem delivered_over {exchange : Exchange} {error : ErrorDetail}
    (exceeded : exchange.gate.oversizeError = some error) (steps : List AppStep) :
    (steps.foldl (step dumps) exchange).delivered = exchange.delivered ++
      if !exchange.gate.sent413 && sends steps then
        (jsonResponse dumps 413 error).messages else [] := by
  induction steps generalizing exchange with
  | nil => simp [sends]
  | cons next steps ih =>
      rw [List.foldl_cons]
      cases next with
      | receive =>
          have quiet : sends (.receive :: steps) = sends steps := rfl
          have kept : (exchange.step dumps .receive).gate.oversizeError = some error ∧
              (exchange.step dumps .receive).gate.sent413 = exchange.gate.sent413 ∧
              (exchange.step dumps .receive).delivered = exchange.delivered := by
            unfold step
            dsimp only
            split
            · exact ⟨exceeded, rfl, rfl⟩
            next message tail _ =>
              exact ⟨(receive_keeps exceeded message).1, (receive_keeps exceeded message).2, rfl⟩
          rw [ih kept.1, kept.2.1, kept.2.2, quiet]
      | send message =>
          have loud : sends (.send message :: steps) = true := rfl
          rw [loud, Bool.and_true]
          cases sent : exchange.gate.sent413 with
          | true =>
              have stepped : exchange.step dumps (.send message) = exchange := by
                simp [step, BodyGate.send, exceeded, sent]
              rw [stepped, ih exceeded, sent]
              simp
          | false =>
              have stepped : exchange.step dumps (.send message) =
                  { exchange with
                    gate := { exchange.gate with sent413 := true }
                    delivered :=
                      exchange.delivered ++ (jsonResponse dumps 413 error).messages } := by
                simp [step, BodyGate.send, exceeded, sent]
              rw [stepped, ih (by exact exceeded)]
              simp

/-- An application that only receives sends nothing. -/
theorem delivered_silent (dumps : ErrorDetail → Bytes) (exchange : Exchange) {steps : List AppStep}
    (silent : sends steps = false) :
    (steps.foldl (step dumps) exchange).delivered = exchange.delivered ∧
      (steps.foldl (step dumps) exchange).gate.sent413 = exchange.gate.sent413 := by
  induction steps generalizing exchange with
  | nil => exact ⟨rfl, rfl⟩
  | cons next steps ih =>
      cases next with
      | send message => cases silent
      | receive =>
          have kept : (exchange.step dumps .receive).delivered = exchange.delivered ∧
              (exchange.step dumps .receive).gate.sent413 = exchange.gate.sent413 := by
            unfold step
            dsimp only
            split
            · exact ⟨rfl, rfl⟩
            next message tail _ =>
              refine ⟨rfl, ?_⟩
              unfold BodyGate.receive
              dsimp only
              repeat' split
              all_goals rfl
          rw [List.foldl_cons, (ih _ silent).1, (ih _ silent).2]
          exact kept

/-- An application that starts on a body that is too long. -/
theorem cutting_serve (dumps : ErrorDetail → Bytes) {scope : RequestScope}
    (counted : entrance scope = .counted) (fits : chunkBytes front ≤ requestBodyMaxBytes)
    (exceeds : requestBodyMaxBytes < chunkBytes front + crossing.1.length) (steps : List AppStep) :
    Cutting front rest crossing (receives steps)
      (serve dumps scope (requestMessages (front ++ crossing :: rest)) steps) := by
  have start : Cutting front rest crossing 0
      ⟨.new, requestMessages (front ++ crossing :: rest), [], []⟩ :=
    ⟨rfl, rfl, fun _ => ⟨rfl, rfl⟩, fun exceeded => absurd exceeded (by omega)⟩
  have cutting := start.run dumps fits exceeds steps
  rw [Nat.zero_add] at cutting
  unfold serve
  rw [counted]
  exact cutting

/-- Of a body that is too long the application observes the chunks that fit and then the
end of a body; if it sends nothing before, the client gets the rejection and nothing else
once it sends something. -/
theorem oversize_body_is_cut (dumps : ErrorDetail → Bytes) (scope : RequestScope)
    (counted : entrance scope = .counted) (front rest : List (Bytes × Bool))
    (crossing : Bytes × Bool) (fits : chunkBytes front ≤ requestBodyMaxBytes)
    (exceeds : requestBodyMaxBytes < chunkBytes front + crossing.1.length) :
    (∀ steps, (serve dumps scope (requestMessages (front ++ crossing :: rest)) steps).observed =
      (requestMessages front ++ .request [] false :: requestMessages rest).take (receives steps)) ∧
      ∃ error, validateRequestSize (chunkBytes front + crossing.1.length) = some error ∧
        ∀ before after, sends before = false → receives before = front.length + 1 →
          (serve dumps scope (requestMessages (front ++ crossing :: rest))
          (before ++ after)).delivered =
            if sends after then (jsonResponse dumps 413 error).messages else [] := by
  refine ⟨fun steps => (cutting_serve dumps counted fits exceeds steps).observed, _,
    if_pos (by omega), fun before after silent received => ?_⟩
  have cutting : Cutting front rest crossing _ _ := cutting_serve dumps counted fits exceeds before
  have exceeded := (cutting.exceeded (by omega)).trans (if_pos (by omega))
  unfold serve at exceeded ⊢
  rw [counted] at exceeded ⊢
  obtain ⟨delivered, sent⟩ := delivered_silent dumps
    ⟨.new, requestMessages (front ++ crossing :: rest), [], []⟩ silent
  dsimp only at exceeded ⊢
  rw [List.foldl_append, delivered_over exceeded, delivered, sent]
  rfl

/-- A request whose length is not known. -/
def streamedRequest : RequestScope := ⟨"http", "/api/v1/backfill", [], []⟩

theorem entrance_streamedRequest : entrance streamedRequest = .counted :=
  entrance_eq_counted rfl (by decide) (by decide) (by decide) fun _ held => by cases held

/-- A small chunk and one that fills the limit alone. -/
theorem rejected_once : (serve (fun _ => []) streamedRequest
      (requestMessages [(ascii "1", true), (List.replicate requestBodyMaxBytes 0, false)])
      [.receive, .receive, .send (.body [] false),
        .send (.body [] false)]).delivered.length = 2 := by
  obtain ⟨-, error, -, delivered⟩ := oversize_body_is_cut (fun _ => []) streamedRequest
    entrance_streamedRequest [(ascii "1", true)] [] (List.replicate requestBodyMaxBytes 0, false)
    (by decide) (by simp [chunkBytes, ascii])
  have answer :=
    delivered [.receive, .receive] [.send (.body [] false), .send (.body [] false)] rfl rfl
  exact congrArg List.length answer

/-- The same request: the application observes a complete body of one byte. -/
theorem prefix_is_observed_as_a_body :
    requestBodyMaxBytes <
        chunkBytes [(ascii "1", true), (List.replicate requestBodyMaxBytes 0, false)] ∧
      (serve (fun _ => []) streamedRequest
        (requestMessages [(ascii "1", true), (List.replicate requestBodyMaxBytes 0, false)])
        [.receive, .receive]).observed = [.request (ascii "1") true, .request [] false] := by
  refine ⟨by simp [chunkBytes, ascii], ?_⟩
  have cutting : Cutting [(ascii "1", true)] [] (List.replicate requestBodyMaxBytes 0, false) 2 _ :=
    cutting_serve (fun _ => []) entrance_streamedRequest (by decide) (by simp [chunkBytes, ascii])
      [.receive, .receive]
  exact cutting.observed

end Exchange

end Middleware
end DataGateway
