import DataGateway.Middleware.Asgi
import DataGateway.Python.Base64
import DataGateway.Python.OrderedDict
import DataGateway.Python.Text
import DataGateway.Python.Unicode

/-!
# Buffered responses

`CacheMiddleware` and `EventEnvelopeMiddleware` look at the head of a response and either hand its
messages on as they come or keep the chunks until the body is complete.
-/

namespace DataGateway
namespace Middleware

/-! ## Cached responses -/

/-- `CacheEntry`, with times in whole units. -/
structure CacheEntry where
  content : Bytes
  mediaType : String
  headers : OrderedDict String String
  createdAt : Nat
  ttl : Nat

/-- What is stored of an entry. -/
structure CachedDict where
  content : List Char
  mediaType : String
  headers : OrderedDict String String
  createdAt : Nat
  ttl : Nat

namespace CacheEntry

/-- `is_expired`. -/
def isExpired (entry : CacheEntry) (now : Nat) : Bool := entry.ttl < now - entry.createdAt

/-- `to_dict`. -/
def toDict (entry : CacheEntry) : CachedDict :=
  ⟨Base64.encode entry.content, entry.mediaType, entry.headers, entry.createdAt, entry.ttl⟩

/-- `from_dict`; `none` is an exception. -/
def fromDict (data : CachedDict) : Option CacheEntry :=
  (Base64.decode data.content).map fun content =>
    ⟨content, data.mediaType, data.headers, data.createdAt, data.ttl⟩

/-- What was stored is read back. -/
@[simp]
theorem fromDict_toDict (entry : CacheEntry) : fromDict entry.toDict = some entry := by
  rw [fromDict, toDict, Base64.decode_encode]
  rfl

end CacheEntry

/-- The body that is served from what is stored, if it is served. -/
def serveCached (data : CachedDict) (now : Nat) : Option Bytes :=
  match CacheEntry.fromDict data with
  | none => none
  | some entry => if entry.isExpired now then none else some entry.content

/-! ## The head of a response -/

section Heads

variable [Lowercase]

/-- `"text/event-stream" in ct or "application/x-ndjson" in ct`. -/
def isStreaming (contentType : String) : Bool :=
  Text.contains contentType "text/event-stream" || Text.contains contentType "application/x-ndjson"

/-- `raw_headers.get(b"content-type", b"").decode().lower()`. -/
def contentType (head : ResponseHead) : Option String :=
  (decodeUtf8 ((head.header "content-type").getD [])).map fun text =>
    String.ofList (Lowercase.lower text.toList)

/-- The content length is given and within a limit. -/
def fitsLimit (head : ResponseHead) (maxBodyBytes : Nat) : Bool :=
  match head.header "content-length" with
  | none => false
  | some [] => false
  | some length => match intOfBytes length with
    | none => false
    | some length => length ≤ maxBodyBytes

end Heads

/-- What a sender raises. -/
inductive SendError
  /-- `UnicodeDecodeError`. -/
  | decode
  /-- The exception of a wrap in strict mode. -/
  | strict
  deriving DecidableEq

/-! ## The cache -/

/-- `CacheMiddleware`. -/
structure CacheMiddleware where
  defaultTtl : Nat
  maxBodyBytes : Nat

namespace CacheMiddleware

/-- `_HOP_BY_HOP`. -/
def hopByHop : List Bytes :=
  [ascii "content-length", ascii "set-cookie", ascii "connection", ascii "keep-alive"]

/-- What `buffering_send` does. -/
inductive Effect
  | send (message : Message)
  /-- `cache.set`, whose exceptions are caught. -/
  | store (entry : CacheEntry)

/-- The variables that `buffering_send` shares with its calls. -/
structure Buffer where
  responseStarted : Bool
  initialMessage : Option ResponseHead
  bodyChunks : List Bytes
  statusCode : Int
  shouldCache : Bool

/-- Before the first message. -/
def Buffer.initial : Buffer := ⟨false, none, [], 0, false⟩

variable [Lowercase] (middleware : CacheMiddleware)

/-- `should_cache` after the head of a response; `none` is a `UnicodeDecodeError`. -/
def shouldCache (head : ResponseHead) : Option Bool :=
  if head.status = 200 then
    (contentType head).map fun contentType =>
      if isStreaming contentType then false else fitsLimit head middleware.maxBodyBytes
  else some false

/-- The headers that are cached: the last one of a name counts. -/
def cachedHeaders (headers : List (Bytes × Bytes)) : Option (OrderedDict String String) :=
  headers.foldlM (fun cached header =>
    if lowerBytes header.1 ∈ hopByHop then some cached
    else
      match decodeUtf8 header.1, decodeUtf8 header.2 with
      | some name, some value => some (cached.set name value)
      | _, _ => none) .empty

/-- The entry for a complete body. -/
def entryFor (now : Nat) (head : ResponseHead) (body : Bytes) : Option CacheEntry :=
  match cachedHeaders head.headers,
    decodeUtf8 ((head.header "content-type").getD (ascii "application/json")) with
  | some headers, some mediaType => some ⟨body, mediaType, headers, now, middleware.defaultTtl⟩
  | _, _ => none

/-- The head of a response that was kept. -/
def missHead (head : ResponseHead) : ResponseHead :=
  ((head.append "X-Gateway-Cache" "MISS").append "X-Gateway-Cache-Age" "0").append
    "X-Gateway-Cache-TTL" (toString (middleware.defaultTtl * 1000))

/-- `buffering_send`. -/
def bufferingSend (now : Nat) (buffer : Buffer) : Message → Except SendError (Buffer × List Effect)
  | .start head =>
      match middleware.shouldCache head with
      | none => .error .decode
      | some shouldCache =>
          let started : Buffer := { buffer with
            responseStarted := true
            initialMessage := some head
            statusCode := head.status
            shouldCache := shouldCache }
          if shouldCache then .ok (started, [])
          else
            let cacheHeader := if head.status = 200 then "BYPASS" else "MISS"
            .ok (started, [.send (.start (head.append "X-Gateway-Cache" cacheHeader))])
  | .body chunk moreBody =>
      match buffer.shouldCache, buffer.initialMessage with
      | true, some head =>
          let kept := { buffer with bodyChunks := buffer.bodyChunks ++ [chunk] }
          if moreBody then .ok (kept, [])
          else
            match middleware.entryFor now head kept.bodyChunks.flatten with
            | none => .error .decode
            | some entry =>
                .ok (kept, [.store entry, .send (.start (middleware.missHead head)),
                  .send (.body chunk false)])
      | _, _ => .ok (buffer, [.send (.body chunk moreBody)])

/-- What a response makes the middleware do. -/
def respond (now : Nat) (response : AppResponse) : List Effect × Option SendError :=
  feed (middleware.bufferingSend now) .initial response.messages

/-- The messages that are sent. -/
def sent (effects : List Effect) : List Message :=
  effects.filterMap fun
    | .send message => some message
    | .store _ => none

/-- The entries that are stored. -/
def stored (effects : List Effect) : List CacheEntry :=
  effects.filterMap fun
    | .send _ => none
    | .store entry => some entry

end CacheMiddleware

/-! ## The envelope -/

/-- A value that `json.loads` gives; of a number only its truth is read. -/
inductive Json
  | null
  | bool (value : Bool)
  | number (truth : Bool)
  | string (text : String)
  | array (items : List Json)
  | object (members : List (String × Json))

namespace Json

/-- `bool(value)`. -/
def truthy : Json → Bool
  | .null => false
  | .bool value => value
  | .number truth => truth
  | .string text => text ≠ ""
  | .array items => !items.isEmpty
  | .object members => !members.isEmpty

def isString (text : String) : Json → Bool
  | .string other => other = text
  | _ => false

/-- `text in value`; `none` is a `TypeError`. -/
def includes (text : String) : Json → Option Bool
  | .array items => some (items.any (isString text))
  | .object members => some (members.any fun member => member.1 = text)
  | .string whole => some (Text.contains whole text)
  | _ => none

/-- `value.get(key, default)`; `none` is an `AttributeError`. -/
def get (key : String) (default : Json) : Json → Option Json
  | .object members => some ((members.lookup key).getD default)
  | _ => none

end Json

/-- What is sent in place of a wrapped body. -/
structure Wrapped where
  headers : List (Bytes × Bytes)
  body : Bytes

/-- `EventEnvelopeMiddleware`, with the parser, and the wrap of a payload, which includes its
publication and may raise. -/
structure EventEnvelopeMiddleware where
  maxBodyBytes : Nat
  strictEnvelopes : Bool
  loads : Bytes → Option Json
  wrap : (path : String) → (data payload : Json) → ResponseHead → Option Wrapped

namespace EventEnvelopeMiddleware

/-- The variables that `buffering_send` shares with its calls. -/
structure Buffer where
  initialMessage : Option ResponseHead
  bodyChunks : List Bytes
  shouldWrap : Bool

/-- Before the first message. -/
def Buffer.initial : Buffer := ⟨none, [], false⟩

/-- What `buffering_send` sends, with whether it is a wrapped response. -/
structure Effect where
  message : Message
  wrapped : Bool

variable (middleware : EventEnvelopeMiddleware)

/-- What becomes of a parsed body: handed on, wrapped, or an exception. -/
inductive Verdict
  | handOn
  | wrapped (response : Wrapped)
  | raised

/-- The part of `_wrap_and_send` that may raise. -/
def verdict (path : String) (body : Bytes) (head : ResponseHead) : Verdict :=
  match middleware.loads body with
  | none => .raised
  | some data =>
      match data.includes "envelope" with
      | none => .raised
      | some true => .handOn
      | some false =>
          match data.get "success" (.bool true), data.get "data" data with
          | some success, some payload =>
              if success.truthy then
                match payload with
                | .array [] => .handOn
                | .array _ | .object _ =>
                    match middleware.wrap path data payload head with
                    | some response => .wrapped response
                    | none => .raised
                | _ => .handOn
              else .handOn
          | _, _ => .raised

/-- A response with one chunk. -/
def plain (head : ResponseHead) (body : Bytes) : List Effect :=
  [⟨.start head, false⟩, ⟨.body body false, false⟩]

/-- `_wrap_and_send`. -/
def wrapAndSend (path : String) (body : Bytes) (head : ResponseHead) :
    Except SendError (List Effect) :=
  if middleware.maxBodyBytes < body.length then .ok (plain head body)
  else
    match middleware.verdict path body head with
    | .handOn => .ok (plain head body)
    | .wrapped response =>
        .ok [⟨.start ⟨200, response.headers⟩, true⟩, ⟨.body response.body false, true⟩]
    | .raised =>
        if middleware.strictEnvelopes then .error .strict
        else .ok (plain { head with
          headers := head.headers ++ [(ascii "x-gateway-envelope", ascii "false")] } body)

variable [Lowercase]

/-- `should_wrap` after the head of a response; `none` is a `UnicodeDecodeError`. -/
def shouldWrap (head : ResponseHead) : Option Bool :=
  if head.status = 200 then
    (contentType head).map fun contentType =>
      if Text.contains contentType "application/json" && !isStreaming contentType then
        fitsLimit head middleware.maxBodyBytes
      else false
  else some false

/-- `buffering_send`. -/
def bufferingSend (path : String) (buffer : Buffer) :
    Message → Except SendError (Buffer × List Effect)
  | .start head =>
      match middleware.shouldWrap head with
      | none => .error .decode
      | some shouldWrap =>
          let started : Buffer :=
            { buffer with initialMessage := some head, shouldWrap := shouldWrap }
          .ok (started, if shouldWrap then [] else [⟨.start head, false⟩])
  | .body chunk moreBody =>
      match buffer.shouldWrap, buffer.initialMessage with
      | true, some head =>
          let kept := { buffer with bodyChunks := buffer.bodyChunks ++ [chunk] }
          if moreBody then .ok (kept, [])
          else (middleware.wrapAndSend path kept.bodyChunks.flatten head).map (kept, ·)
      | _, _ => .ok (buffer, [⟨.body chunk moreBody, false⟩])

/-- What a response makes the middleware send. -/
def respond (path : String) (response : AppResponse) : List Effect × Option SendError :=
  feed (middleware.bufferingSend path) .initial response.messages

end EventEnvelopeMiddleware

end Middleware
end DataGateway
