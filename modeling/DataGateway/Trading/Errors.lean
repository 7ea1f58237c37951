import Mathlib.Logic.Basic

/-!
# Errors of the trading endpoints

The HTTP errors the routes build, the errors the broker's SDK raises, and the exceptions that travel
through the route bodies.  Reply codes the SDK may fail to read are part of the data.
-/

namespace DataGateway
namespace Trading

/-- An ordered JSON object whose values are texts. -/
abbrev Fields := List (String × String)

/-- `{**left, **right}`: keys of `right` win and new ones come last. -/
def Fields.merge (left right : Fields) : Fields :=
  left.map (fun (key, value) => (key, (right.lookup key).getD value)) ++
    right.filter fun (key, _) => (left.lookup key).isNone

/-- The `detail` of an HTTP error: a plain text or an object. -/
inductive Detail
  /-- A plain text. -/
  | text (message : String)
  /-- An object with a code, a message and context fields. -/
  | fields (entries : Fields)
  deriving DecidableEq, Repr

/-- A detail with a gateway code and a message. -/
def Detail.coded (code message : String) (context : Fields := []) : Detail :=
  .fields (Fields.merge [("code", code), ("message", message)] context)

/-- `str(detail)`, for entries whose texts need no escapes. -/
def Detail.render : Detail → String
  | .text message => message
  | .fields entries =>
      "\x7b" ++ ", ".intercalate (entries.map fun (key, value) => s!"'{key}': '{value}'") ++ "\x7d"

/-- Subclasses of `HTTPException` that the routes tell apart. -/
inductive HttpKind
  /-- A plain `HTTPException`. -/
  | plain
  /-- `_UnappliedWriteOwnershipError`. -/
  | unappliedWriteOwnership
  /-- `_FenceLostBeforeWrite`. -/
  | fenceLostBeforeWrite
  deriving DecidableEq, Repr

/-- An `HTTPException`. -/
structure HttpError where
  /-- Which class of HTTP error it is. -/
  kind : HttpKind
  /-- The status the caller is answered with. -/
  statusCode : Int
  /-- The body of the answer. -/
  detail : Detail
  deriving DecidableEq, Repr

/-- A plain HTTP error with a gateway code. -/
def HttpError.coded (statusCode : Int) (code message : String) (context : Fields := []) :
    HttpError :=
  ⟨.plain, statusCode, .coded code message context⟩

/-- What reading `status_code` from an `APIError` yields. -/
inductive StatusCode
  /-- The wrapped response has a status. -/
  | known (code : Int)
  /-- The property is `None`: the error wraps no response. -/
  | absent
  /-- Reading the property raises `AttributeError`. -/
  | missing
  /-- Reading the property raises another exception. -/
  | unreadable
  deriving DecidableEq, Repr

/-- The SDK's `APIError`. -/
structure ApiError where
  /-- What reading `status_code` yields. -/
  statusCode : StatusCode
  /-- `code`, when the body parses and the code is an integer. -/
  code : Option Int
  /-- `message`, when the body parses and the message is a text. -/
  message : Option String
  /-- `str(exc)`: the body as it came. -/
  body : String
  deriving DecidableEq, Repr

/-- An exception that a call to the broker's SDK can end in. -/
inductive BrokerError
  /-- An `HTTPException` the provider raises itself. -/
  | http (statusCode : Int) (detail : Detail)
  /-- An `APIError`. -/
  | api (error : ApiError)
  /-- An `httpx.HTTPStatusError`. -/
  | httpStatus (statusCode : Int)
  /-- A `ValueError`, such as a rejected input. -/
  | value (message : String)
  /-- A `TimeoutError`. -/
  | timeout (message : String)
  /-- Any other `Exception`. -/
  | other (message : String)
  deriving DecidableEq, Repr

/-- An exception in flight in a route body. -/
inductive PyError
  /-- `OwnershipConflict`. -/
  | ownershipConflict (reason : String)
  /-- `OwnershipStoreUnavailable`. -/
  | ownershipStoreUnavailable (reason : String)
  /-- `HTTPException` or a subclass. -/
  | http (error : HttpError)
  /-- `APIError`. -/
  | api (error : ApiError)
  /-- `httpx.HTTPStatusError`. -/
  | httpStatus (statusCode : Int)
  /-- `ValueError`. -/
  | value (message : String)
  /-- Any other `Exception`. -/
  | other (message : String)
  /-- `asyncio.CancelledError`, which is not an `Exception`. -/
  | cancelled
  deriving DecidableEq, Repr

/-- A broker error as the exception it is.  A `TimeoutError` is an ordinary exception here; the
provider call replaces it before any route sees it. -/
def PyError.ofBroker : BrokerError → PyError
  | .http statusCode detail => .http ⟨.plain, statusCode, detail⟩
  | .api error => .api error
  | .httpStatus statusCode => .httpStatus statusCode
  | .value message => .value message
  | .timeout message => .other message
  | .other message => .other message

/-- `str(exc)`. -/
def PyError.text : PyError → String
  | .ownershipConflict reason => reason
  | .ownershipStoreUnavailable reason => reason
  | .http error => s!"{error.statusCode}: {error.detail.render}"
  | .api error => error.body
  | .httpStatus statusCode => s!"{statusCode}"
  | .value message => message
  | .other message => message
  | .cancelled => ""

/-- `isinstance(exc, Exception)`. -/
def PyError.isException : PyError → Bool
  | .cancelled => false
  | _ => true

/-- The status the server answers with when this exception leaves the route. -/
def PyError.answer : PyError → Option Int
  | .http error => some error.statusCode
  | .cancelled => none
  | _ => some 500

end Trading
end DataGateway
