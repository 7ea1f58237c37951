import DataGateway.Cache.Consistency
import DataGateway.Coroutine.Interleaving
import DataGateway.Middleware.CacheKey
import Mathlib.Data.Finset.Basic

/-!
# Writes and the cache

A write takes the reads it may have changed out of the cache, once its own response has been sent.
Any number of reads and writes of one client are under way at once.
-/

namespace DataGateway
namespace Middleware

open Coroutine Machine

/-! ## What a write invalidates -/

/-- `_WRITE_INVALIDATION_NAMESPACES`. -/
def writeInvalidationNamespaces : List (String × List String) :=
  [("/api/v1/alpaca/orders", ["/api/v1/alpaca/orders", "/api/v1/alpaca/positions",
      "/api/v1/alpaca/account", "/api/v1/alpaca/portfolio"]),
    ("/api/v1/alpaca/positions", ["/api/v1/alpaca/positions", "/api/v1/alpaca/orders",
      "/api/v1/alpaca/account", "/api/v1/alpaca/portfolio"]),
    ("/api/v1/alpaca/watchlists", ["/api/v1/alpaca/watchlists"]),
    ("/api/v1/alpaca/account", ["/api/v1/alpaca/account"])]

/-- `_invalidation_prefixes_for_write`. -/
def invalidationPrefixesForWrite (path : String) : List String :=
  ((writeInvalidationNamespaces.find? fun entry => Text.startsWith path entry.1).map
    Prod.snd).getD []

/-- `str.endswith`. -/
def endsWith (text back : String) : Bool := back.toList.isSuffixOf text.toList

/-- The predicate of `_invalidate_for_write`, for a client that is authenticated. -/
def invalidates [PermissionDigest] (client : ClientInfo) (path key : String) : Bool :=
  endsWith key (":" ++ clientCacheScope ⟨path, "", client⟩) &&
    (invalidationPrefixesForWrite path).any fun front => Text.startsWith key ("GET:" ++ front)

/-! ## Reads and writes -/

/-- A request of the client. -/
inductive ClientRequest
  | get (path query : String) (bypass : Bool)
  | write (path : String)

section Requests

variable (ι : Type)

/-- A body, with the writes that had taken effect when it was computed. -/
structure Body where
  content : Bytes
  seen : Finset ι

/-- A response, with the writes that had taken effect when its body was computed. -/
structure Computed where
  response : AppResponse
  seen : Finset ι

/-- What is stored under a key. -/
structure Kept where
  data : CachedDict
  seen : Finset ι

/-- What a request does at once, up to its next wait. -/
inductive CacheCommand
  | start
  /-- `cache.get`. -/
  | lookup (key : String)
  /-- The application computes the body of a read, or it raises. -/
  | compute
  /-- The response goes through `buffering_send`. -/
  | respond (key : String) (computed : Computed ι)
  /-- The client has received this body. -/
  | receive (body : Body ι)
  /-- A write takes effect. -/
  | takeEffect
  /-- The response of a write is sent, fully or not. -/
  | answer
  /-- The application returns from a write, or it raises. -/
  | handled
  /-- `_invalidate_for_write`, whose exceptions are caught. -/
  | invalidate (keyPredicate : String → Bool)

variable {ι}

/-- What a request learns. -/
@[reducible] def CacheCommand.Reply : CacheCommand ι → Type
  | .start => Unit
  | .lookup _ => Option (Body ι)
  | .compute => Option (Computed ι)
  | .respond _ _ => Option (Body ι)
  | .receive _ => Unit
  | .takeEffect => Unit
  | .answer => Int
  | .handled => Bool
  | .invalidate _ => Unit

/-- What the application decides. -/
@[reducible] def CacheCommand.Outcome : CacheCommand ι → Type
  | .start => Unit
  | .lookup _ => Unit
  | .compute => Option AppResponse
  | .respond _ _ => Unit
  | .receive _ => Unit
  | .takeEffect => Unit
  | .answer => Int × Bool
  | .handled => Bool
  | .invalidate _ => Bool

/-- A request under way; an exception is the application's. -/
abbrev Requesting (ι : Type) := Coroutine (CacheCommand.Reply (ι := ι)) Unit Unit

/-- The client receives a body. -/
def received (body : Body ι) : Requesting ι := .suspend (.receive body) fun _ => .finish (.ok ())

/-- `CacheMiddleware.__call__` for a read of an authenticated client. -/
def getRequest [PermissionDigest] (request : GetRequest) (bypass : Bool) : Requesting ι :=
  .suspend .start fun _ =>
    if isDynamicPath request.path || bypass then
      .suspend .compute fun
        | none => raise ()
        | some computed => received ⟨computed.response.content, computed.seen⟩
    else
      .suspend (.lookup (cacheKey request)) fun
        | some body => received body
        | none => .suspend .compute fun
          | none => raise ()
          | some computed => .suspend (.respond (cacheKey request) computed) fun
            | none => raise ()
            | some body => received body

/-- `CacheMiddleware.__call__` for a write. -/
def writeRequest [PermissionDigest] (client : ClientInfo) (path : String) : Requesting ι :=
  .suspend .start fun _ => .suspend .takeEffect fun _ => .suspend .answer fun code =>
    .suspend .handled fun
      | false => raise ()
      | true =>
          if invalidationPrefixesForWrite path = [] then .finish (.ok ())
          else if 200 ≤ code ∧ code < 300 then
            .suspend (.invalidate (invalidates client path)) fun _ => .finish (.ok ())
          else .finish (.ok ())

/-- A request of the client. -/
def clientRequest [PermissionDigest] (client : ClientInfo) : ClientRequest → Requesting ι
  | .get path query bypass => getRequest ⟨path, query, client⟩ bypass
  | .write path => writeRequest client path

end Requests

/-! ## The cache among the requests -/

section Worlds

variable {ι : Type} [DecidableEq ι] {maxSize defaultTtl : Nat}

/-- The calls of the cache so far, with what became of the writes and of the reads. -/
structure ReadWorld (ι : Type) where
  now : Nat
  history : Cache.History String (Kept ι) Nat
  /-- The writes that have taken effect. -/
  effected : Finset ι
  /-- The writes whose 2xx response has been sent. -/
  answered : Finset ι
  /-- The writes whose invalidation has run. -/
  settled : Finset ι
  /-- The writes that had been answered when a read started. -/
  due : ι → Finset ι
  received : List (ι × Body ι)

namespace ReadWorld

def initial : ReadWorld ι := ⟨0, [], ∅, ∅, ∅, fun _ => ∅, []⟩

variable [Lowercase] (T : Cache.TTLCache String (Kept ι) Nat maxSize defaultTtl)
  (middleware : CacheMiddleware)

/-- The cache of the gateway. -/
def cache (world : ReadWorld ι) : Cache.InMemoryCache T :=
  Cache.InMemoryCache.cacheAfter T world.history

/-- The calls of the cache with one more. -/
def call (world : ReadWorld ι) (operation : Cache.Operation String (Kept ι) Nat) : ReadWorld ι :=
  { world with history := (world.now, operation) :: world.history }

/-- What is stored of a response. -/
def storeAll (key : String) (seen : Finset ι) (entries : List CacheEntry) (world : ReadWorld ι) :
    ReadWorld ι :=
  entries.foldl (fun world entry =>
    world.call (.set key ⟨entry.toDict, seen⟩ (some middleware.defaultTtl))) world

/-- Perform a command of a request. -/
def perform (i : ι) : (command : CacheCommand ι) → command.Outcome → ReadWorld ι →
    Option (command.Reply × ReadWorld ι)
  | .start, _, world => some ((), { world with due := Function.update world.due i world.answered })
  | .lookup key, _, world =>
      let found := ((world.cache T).get world.now key).1.bind fun kept =>
        (serveCached kept.data world.now).map fun content => ⟨content, kept.seen⟩
      some (found, world.call (.get key))
  | .compute, response,
      world => some (response.map fun response => ⟨response, world.effected⟩, world)
  | .respond key computed, _, world =>
      let (effects, raised) := middleware.respond world.now computed.response
      some (if raised.isSome then none
          else some ⟨bodyBytes (CacheMiddleware.sent effects), computed.seen⟩,
        storeAll middleware key computed.seen (CacheMiddleware.stored effects) world)
  | .receive body, _, world => some ((), { world with received := (i, body) :: world.received })
  | .takeEffect, _, world => some ((), { world with effected := insert i world.effected })
  | .answer, (code, sent), world =>
      some (code, if sent ∧ 200 ≤ code ∧ code < 300 then
        { world with answered := insert i world.answered } else world)
  | .handled, returned, world => some (returned, world)
  | .invalidate keyPredicate, ran, world =>
      some ((), if ran then
        { world.call (.invalidateMatching keyPredicate) with settled := insert i world.settled }
          else world)

end ReadWorld

/-- The gateway, whose clock goes on. -/
@[reducible] def readsAndWrites [Lowercase]
    (T : Cache.TTLCache String (Kept ι) Nat maxSize defaultTtl)
    (middleware : CacheMiddleware) : Machine ι (CacheCommand.Reply (ι := ι)) (ReadWorld ι) where
  Outcome := CacheCommand.Outcome
  perform := ReadWorld.perform T middleware
  Disturbance := Nat
  disturb passed world := { world with now := world.now + passed }

/-- Requests of one client. -/
def requesting [PermissionDigest] (client : ClientInfo) (requests : ι → ClientRequest) :
    Config ι (CacheCommand.Reply (ι := ι)) Unit Unit (ReadWorld ι) where
  world := .initial
  tasks i := clientRequest client (requests i)

end Worlds

end Middleware
end DataGateway
