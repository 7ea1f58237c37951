import DataGateway.Middleware.Buffering
import DataGateway.Python.Join

/-!
# Cache keys

The key of a request is one text that joins the method, the path, the query and the
scope of the client.
-/

namespace DataGateway
namespace Middleware

/-! ## Clients -/

/-- What `_permissions_hash` makes of a client. -/
structure PermissionPayload where
  providers : List String
  feeds : List String
  maxSymbols : Int
  rateLimit : Int
  wsSubscriptionsMax : Int
  role : String

/-- An authenticated client. -/
structure ClientInfo where
  id : String
  permissions : PermissionPayload

/-- A digit of a hash. -/
def isHexDigit (c : Char) : Bool := Text.isDigit c || ('a' ≤ c && c ≤ 'f')

/-- `hashlib.sha256(json.dumps(payload, sort_keys=True).encode()).hexdigest()`. -/
class PermissionDigest where
  hexdigest : PermissionPayload → String
  length_hexdigest : ∀ payload, (hexdigest payload).toList.length = 64
  hexdigest_hex : ∀ payload, ∀ c ∈ (hexdigest payload).toList, isHexDigit c = true

/-- `sorted` of texts. -/
def sortedTexts (texts : List String) : List String := texts.mergeSort (· ≤ ·)

section Keys

variable [PermissionDigest]

/-- `_permissions_hash`. -/
def permissionsHash (client : ClientInfo) : String :=
  String.ofList ((PermissionDigest.hexdigest { client.permissions with
    providers := sortedTexts client.permissions.providers
    feeds := sortedTexts client.permissions.feeds }).toList.take 8)

/-! ## Requests -/

/-- A GET request that has been authenticated, unless its path is public. -/
structure GetRequest where
  path : String
  query : String
  client : ClientInfo

/-- `_PUBLIC_EXACT`. -/
def publicExact : List String := ["/", "/openapi.json", "/docs", "/redoc"]

/-- `_is_public_path`. -/
def isPublicPath (path : String) : Bool := path ∈ publicExact || Text.startsWith path "/health"

/-- The paths that are not cached. -/
def isDynamicPath (path : String) : Bool := Text.startsWith path "/api/v1/backfill"

/-- `_client_cache_scope`, for a client that was authenticated where the path is not public. -/
def clientCacheScope (request : GetRequest) : String :=
  if isPublicPath request.path then "public"
  else "client:" ++ request.client.id ++ ":" ++ permissionsHash request.client

/-- `_cache_key`. -/
def cacheKey (request : GetRequest) : String :=
  "GET" ++ ":" ++ request.path ++ ":" ++ request.query ++ ":" ++ clientCacheScope request

/-! ## Sequences of requests -/

/-- What is stored under a key, with the request it is the answer to. -/
structure Stored where
  request : GetRequest
  data : CachedDict

/-- What the gateway does; any number of requests may be between their lookup and their answer. -/
inductive CacheEvent
  /-- `cache.get` of a request. -/
  | lookup (request : GetRequest) (now : Nat)
  /-- The application's answer to a request that missed. -/
  | complete (request : GetRequest) (response : AppResponse) (now : Nat)
  /-- The backend drops an entry. -/
  | evict (key : String)

/-- The cache, with the hits so far: who asked, and whose answer was served. -/
structure CacheWorld where
  entries : OrderedDict String Stored
  hits : List (GetRequest × GetRequest)

namespace CacheWorld

def initial : CacheWorld := ⟨.empty, []⟩

variable [Lowercase] (middleware : CacheMiddleware)

/-- What an event does. -/
def step (world : CacheWorld) : CacheEvent → CacheWorld
  | .lookup request now =>
      if isDynamicPath request.path then world
      else match world.entries.get? (cacheKey request) with
        | none => world
        | some stored =>
            if (serveCached stored.data now).isSome then
              { world with hits := (request, stored.request) :: world.hits }
            else world
  | .complete request response now =>
      if isDynamicPath request.path then world
      else
        { world with
          entries := (CacheMiddleware.stored (middleware.respond now response).1).foldl
            (fun entries entry => entries.set (cacheKey request) ⟨request, entry.toDict⟩)
            world.entries }
  | .evict key => { world with entries := world.entries.erase key }

/-- The world after these events. -/
def after (events : List CacheEvent) : CacheWorld :=
  events.foldl (step middleware) initial

end CacheWorld

/-! ## The same question -/

/-- Two requests ask for the same path with the same query, as the same client with the same
permission hash or as nobody. -/
structure SameQuestion (left right : GetRequest) : Prop where
  path : left.path = right.path
  query : left.query = right.query
  scope : isPublicPath left.path = true ∧ isPublicPath right.path = true ∨
    left.client.id = right.client.id ∧ permissionsHash left.client = permissionsHash right.client

/-- The parts of a text between its colons. -/
def colonParts (text : String) : List (List Char) := text.toList.splitOn ':'

/-- The key of the request can be read in one way only, as far as other keys exist. -/
def Unambiguous (request : GetRequest) : Prop :=
  isDynamicPath request.path = true ∨
    if isPublicPath request.path then
      Text.startsWith request.path "/health" = true →
        (colonParts request.path).length = 1 ∧ (colonParts request.query).length = 1
    else
      ((colonParts request.path).length = 1 ∨
        ∃ front back, colonParts request.path = [front, back] ∧
          isPublicPath (String.ofList front) = true) ∧
      (colonParts request.query).length = 1 ∧
      "client".toList ∉ (colonParts request.client.id).dropLast

section Hits

variable [Lowercase] {middleware : CacheMiddleware} {world : CacheWorld}

/-- Everything is stored under the key of its request, and was served to requests with that key. -/
structure KeyedByRequest (world : CacheWorld) : Prop where
  entries : ∀ key stored, world.entries.get? key = some stored →
    key = cacheKey stored.request ∧ isDynamicPath stored.request.path = false
  hits : ∀ asked served, (asked, served) ∈ world.hits →
    cacheKey asked = cacheKey served ∧ isDynamicPath asked.path = false ∧
      isDynamicPath served.path = false

theorem KeyedByRequest.step (keyed : KeyedByRequest world) (event : CacheEvent) :
    KeyedByRequest (world.step middleware event) := by
  cases event with
  | lookup request now =>
      simp only [CacheWorld.step]
      split
      · exact keyed
      next cached =>
        split
        · exact keyed
        next stored found =>
          split
          · refine ⟨keyed.entries, fun asked served mem => ?_⟩
            rcases List.mem_cons.mp mem with same | earlier
            · cases same
              obtain ⟨key, kept⟩ := keyed.entries _ _ found
              exact ⟨key, eq_false_of_ne_true cached, kept⟩
            · exact keyed.hits asked served earlier
          · exact keyed
  | complete request response now =>
      simp only [CacheWorld.step]
      split
      · exact keyed
      next cached =>
        refine ⟨?_, keyed.hits⟩
        have kept := keyed.entries
        generalize world.entries = entries at kept ⊢
        induction CacheMiddleware.stored
          (middleware.respond now response).1 generalizing entries with
        | nil => exact kept
        | cons entry rest ih =>
            refine ih _ fun key stored found => ?_
            rw [OrderedDict.get?_set] at found
            split at found
            next own =>
              obtain rfl := Option.some.inj found
              exact ⟨own, eq_false_of_ne_true cached⟩
            · exact kept key stored found
  | evict key =>
      refine ⟨fun other stored found => ?_, keyed.hits⟩
      rw [CacheWorld.step, OrderedDict.get?_erase] at found
      split at found
      · cases found
      · exact keyed.entries other stored found

/-- Every hit was stored under the key it was asked with. -/
theorem keyed_after (events : List CacheEvent) :
    KeyedByRequest (CacheWorld.after middleware events) := by
  have from_ (events : List CacheEvent) (world : CacheWorld) (keyed : KeyedByRequest world) :
      KeyedByRequest (events.foldl (CacheWorld.step middleware) world) := by
    induction events generalizing world with
    | nil => exact keyed
    | cons event events ih => exact ih _ (keyed.step event)
  refine from_ events .initial ⟨?_, ?_⟩
  · rintro key stored ⟨⟩
  · rintro asked served ⟨⟩

end Hits

/-! ## How a key is read -/

section Parts

omit [PermissionDigest]

theorem colonParts_ne_nil (text : String) : colonParts text ≠ [] := List.splitOn_ne_nil _ _

theorem colonParts_injective {left right : String} (same : colonParts left = colonParts right) :
    left = right := by
  apply String.toList_injective
  calc left.toList = [':'].intercalate (colonParts left) := (List.intercalate_splitOn ':').symm
    _ = [':'].intercalate (colonParts right) := by rw [same]
    _ = right.toList := List.intercalate_splitOn ':'

/-- A colon between two texts separates their parts. -/
theorem colonParts_append (left right : String) :
    colonParts (left ++ ":" ++ right) = colonParts left ++ colonParts right := by
  simp [colonParts, List.splitOn_append_cons_self]

theorem colonParts_of_notMem {text : String} (clean : ':' ∉ text.toList) :
    colonParts text = [text.toList] := List.splitOn_eq_singleton clean

end Parts

theorem permissionsHash_hex (client : ClientInfo) :
    (permissionsHash client).toList.length = 8 ∧
      ∀ c ∈ (permissionsHash client).toList, isHexDigit c = true := by
  simp only [permissionsHash, String.toList_ofList, List.length_take,
    PermissionDigest.length_hexdigest]
  exact ⟨rfl, fun c mem => PermissionDigest.hexdigest_hex _ c (List.mem_of_mem_take mem)⟩

theorem colonParts_hash (client : ClientInfo) :
    colonParts (permissionsHash client) = [(permissionsHash client).toList] := by
  refine colonParts_of_notMem fun mem => ?_
  have hex := (permissionsHash_hex client).2 ':' mem
  exact absurd hex (by decide)

/-- The key of a public request is its path and its query. -/
theorem colonParts_key_public {request : GetRequest} (free : isPublicPath request.path = true) :
    colonParts (cacheKey request) = "GET".toList :: (colonParts request.path ++
      (colonParts request.query ++ ["public".toList])) := by
  have get : colonParts "GET" = ["GET".toList] := colonParts_of_notMem (by decide +kernel)
  have scope : colonParts "public" = ["public".toList] := colonParts_of_notMem (by decide +kernel)
  rw [cacheKey, clientCacheScope, if_pos free, colonParts_append, colonParts_append,
    colonParts_append, get, scope]
  simp

/-- The key of any other request names the client behind them. -/
theorem colonParts_key_private {request : GetRequest}
    (guarded : isPublicPath request.path = false) :
    colonParts (cacheKey request) = "GET".toList :: (colonParts request.path ++
      (colonParts request.query ++ ("client".toList :: colonParts request.client.id ++
        [(permissionsHash request.client).toList]))) := by
  have get : colonParts "GET" = ["GET".toList] := colonParts_of_notMem (by decide +kernel)
  have client : colonParts "client" = ["client".toList] := colonParts_of_notMem (by decide +kernel)
  have scope :
      colonParts ("client:" ++ request.client.id ++ ":" ++ permissionsHash request.client) =
      "client".toList :: colonParts request.client.id ++
        [(permissionsHash request.client).toList] := by
    rw [show "client:" = "client" ++ ":" from rfl, colonParts_append, colonParts_append,
      colonParts_hash, client]
    rfl
  rw [cacheKey, clientCacheScope, guarded, if_neg Bool.false_ne_true, colonParts_append,
    colonParts_append, colonParts_append, get, scope]
  simp

/-- A public and another request never have the same key. -/
theorem key_public_ne {free guarded : GetRequest} (isFree : isPublicPath free.path = true)
    (isGuarded : isPublicPath guarded.path = false) : cacheKey free ≠ cacheKey guarded := by
  intro same
  have parts := congrArg (fun key => (colonParts key).getLast?) same
  simp only [colonParts_key_public isFree, colonParts_key_private isGuarded, List.getLast?_cons,
    List.getLast?_append] at parts
  have named : "public".toList = (permissionsHash guarded.client).toList := by simpa using parts
  have length := congrArg List.length named
  rw [(permissionsHash_hex guarded.client).1] at length
  exact absurd length (by decide +kernel)

end Keys

end Middleware
end DataGateway
