import DataGateway.Python.Day
import DataGateway.Python.OrderedDict

/-!
# API keys

`APIKeyManager`: a table of keys by id, and an index of the hashes of the keys that are not revoked.
Times are microseconds, counted from the day before 0001-01-01.
-/

namespace DataGateway
namespace Security

/-- `Role`. -/
inductive Role
  | client
  | admin
  | superAdmin
  deriving DecidableEq, Repr

/-- `Permission`. -/
structure Permission where
  providers : List String := ["alpaca", "uw"]
  feeds : List String := ["bars", "quotes", "trades"]
  symbols : List String := ["*"]
  maxSymbols : Int := 1000
  rateLimitRequestsPerMinute : Int := 600
  allowedIps : List String := []
  features : List (String × Bool) := [("replay", true), ("bulk_download", true), ("admin", false)]
  deriving DecidableEq, Repr

/-- The microseconds of a day. -/
def dayMicros : Int := 86400000000

/-- `now + timedelta(days=days)`; `none` is an `OverflowError`. -/
def plusDays (now days : Int) : Option Int :=
  let later := now + days * dayMicros
  if -999999999 ≤ days ∧ days ≤ 999999999 ∧ 1 ≤ later / dayMicros ∧
    later / dayMicros ≤ maxOrdinal then
    some later
  else none

/-- `APIKey`, for a type of hashes. -/
structure APIKey (Digest : Type) where
  keyId : String
  clientId : String
  keyHash : Digest
  permissions : Permission
  role : Role
  expiresAt : Option Int
  createdAt : Int
  lastUsedAt : Option Int
  revoked : Bool
  deriving DecidableEq

namespace APIKey

variable {Digest : Type} (key : APIKey Digest)

/-- `is_expired`. -/
def isExpired (now : Int) : Bool := key.expiresAt.any fun expiresAt => expiresAt < now

/-- `is_valid`. -/
def isValid (now : Int) : Bool := !key.revoked && !key.isExpired now

/-- `key.revoked = True`. -/
def revoke : APIKey Digest := { key with revoked := true }

/-- `api_key.last_used_at = datetime.now(UTC)`. -/
def use (now : Int) : APIKey Digest := { key with lastUsedAt := some now }

end APIKey

/-- What `generate_key` draws and reads: `secrets.token_hex(6)`, `secrets.token_urlsafe(32)`, and
the clock for the expiry and for the creation. -/
structure KeyDraw where
  tokenHex : String
  tokenUrlsafe : String
  expiryNow : Int
  createdNow : Int
  deriving DecidableEq

/-- What a method raises. -/
inductive KeyManagerError
  /-- `KeyError`. -/
  | keyError
  /-- `OverflowError`. -/
  | overflowError
  deriving DecidableEq, Repr

/-- `KEY_PREFIX`. -/
def keyPrefix : String := "gw_"

/-- The id of a new key. -/
def KeyDraw.keyId (draw : KeyDraw) : String := "key_" ++ draw.tokenHex

/-- A new key, which is handed out once. -/
def KeyDraw.rawKey (draw : KeyDraw) (clientId : String) : String :=
  keyPrefix ++ clientId ++ "_" ++ draw.tokenUrlsafe

/-- `APIKeyManager`: the keys by their ids, and the ids by the hashes. -/
structure APIKeyManager (Digest : Type) where
  keys : OrderedDict String (APIKey Digest)
  keyByHash : OrderedDict Digest String

namespace APIKeyManager

variable {Digest : Type}

/-- A manager without keys. -/
def new : APIKeyManager Digest := ⟨.empty, .empty⟩

variable [DecidableEq Digest] (sha256 : String → Digest) (manager : APIKeyManager Digest)

/-- `generate_key`, for `_hash_key`. -/
def generateKey (clientId : String) (permissions : Option Permission) (role : Role)
    (expiresInDays : Int) (draw : KeyDraw) :
    Except KeyManagerError (String × APIKey Digest) × APIKeyManager Digest :=
  let rawKey := draw.rawKey clientId
  let keyHash := sha256 rawKey
  match plusDays draw.expiryNow expiresInDays with
  | none => (.error .overflowError, manager)
  | some expiresAt =>
      let apiKey : APIKey Digest :=
        { keyId := draw.keyId
          clientId := clientId
          keyHash := keyHash
          permissions := permissions.getD {}
          role := role
          expiresAt := some expiresAt
          createdAt := draw.createdNow
          lastUsedAt := none
          revoked := false }
      (.ok (rawKey, apiKey),
        { keys := manager.keys.set draw.keyId apiKey
          keyByHash := manager.keyByHash.set keyHash draw.keyId })

/-- `validate_key`, which reads the clock for the expiry and for the use. -/
def validateKey (rawKey : String) (now used : Int) :
    Option (APIKey Digest) × APIKeyManager Digest :=
  if rawKey = "" ∨ Text.startsWith rawKey keyPrefix = false then (none, manager)
  else
    match manager.keyByHash.get? (sha256 rawKey) with
    | none => (none, manager)
    | some keyId =>
        if keyId = "" then (none, manager)
        else
          match manager.keys.get? keyId with
          | none => (none, manager)
          | some apiKey =>
              if apiKey.isValid now then
                (some (apiKey.use used),
                  { manager with keys := manager.keys.modify keyId fun key => key.use used })
              else (none, manager)

/-- `rotate_key`; the result is `None` for an unknown key. -/
def rotateKey (keyId : String) (expiresInDays : Int) (draw : KeyDraw) :
    Except KeyManagerError (Option (String × APIKey Digest)) × APIKeyManager Digest :=
  match manager.keys.get? keyId with
  | none => (.ok none, manager)
  | some oldKey =>
      let revoked := { manager with keys := manager.keys.modify keyId APIKey.revoke }
      -- `del` on a hash that is not in the index
      if revoked.keyByHash.contains oldKey.keyHash = false then (.error .keyError, revoked)
      else
        let unindexed := { revoked with keyByHash := revoked.keyByHash.erase oldKey.keyHash }
        match unindexed.generateKey sha256 oldKey.clientId (some oldKey.permissions) oldKey.role
            expiresInDays draw with
        | (.error error, after) => (.error error, after)
        | (.ok result, after) => (.ok (some result), after)

/-- `revoke_key`. -/
def revokeKey (keyId : String) : Bool × APIKeyManager Digest :=
  match manager.keys.get? keyId with
  | none => (false, manager)
  | some apiKey =>
      let revoked := { manager with keys := manager.keys.modify keyId APIKey.revoke }
      (true, if revoked.keyByHash.contains apiKey.keyHash then
        { revoked with keyByHash := revoked.keyByHash.erase apiKey.keyHash } else revoked)

end APIKeyManager

/-! ## Calls -/

/-- A call of a method, with what it draws and reads of the clock. -/
inductive KeyCall
  | generateKey (clientId : String) (permissions : Option Permission) (role : Role)
      (expiresInDays : Int) (draw : KeyDraw)
  | rotateKey (keyId : String) (expiresInDays : Int) (draw : KeyDraw)
  | revokeKey (keyId : String)
  | validateKey (rawKey : String) (now used : Int)
  deriving DecidableEq

/-- How a call ends. -/
inductive KeyReply (Digest : Type)
  | generated (rawKey : String) (apiKey : APIKey Digest)
  | rotated (result : Option (String × APIKey Digest))
  | revoked (found : Bool)
  | validated (apiKey : Option (APIKey Digest))
  | raised (error : KeyManagerError)
  deriving DecidableEq

variable {Digest : Type} [DecidableEq Digest]

/-- The effect of a call. -/
def APIKeyManager.call (sha256 : String → Digest) (manager : APIKeyManager Digest) :
    KeyCall → KeyReply Digest × APIKeyManager Digest
  | .generateKey clientId permissions role expiresInDays draw =>
      match manager.generateKey sha256 clientId permissions role expiresInDays draw with
      | (.ok (rawKey, apiKey), after) => (.generated rawKey apiKey, after)
      | (.error error, after) => (.raised error, after)
  | .rotateKey keyId expiresInDays draw =>
      match manager.rotateKey sha256 keyId expiresInDays draw with
      | (.ok result, after) => (.rotated result, after)
      | (.error error, after) => (.raised error, after)
  | .revokeKey keyId =>
      let (found, after) := manager.revokeKey keyId
      (.revoked found, after)
  | .validateKey rawKey now used =>
      let (apiKey, after) := manager.validateKey sha256 rawKey now used
      (.validated apiKey, after)

/-- A run of calls: the manager, the raw keys that were handed out with their ids, and the rotated
keys with their successors, the latest first. -/
structure KeyHistory (Digest : Type) where
  manager : APIKeyManager Digest
  issued : List (String × String)
  rotations : List (String × String)

namespace KeyHistory

/-- Before the first call. -/
def start : KeyHistory Digest := ⟨.new, [], []⟩

/-- The key that a reply hands out. -/
def handedOut : KeyReply Digest → Option (String × String)
  | .generated rawKey apiKey => some (rawKey, apiKey.keyId)
  | .rotated (some (rawKey, apiKey)) => some (rawKey, apiKey.keyId)
  | _ => none

/-- The key that a call rotates, with its successor. -/
def rotation : KeyCall → KeyReply Digest → Option (String × String)
  | .rotateKey keyId _ _, .rotated (some (_, apiKey)) => some (keyId, apiKey.keyId)
  | _, _ => none

/-- One more call. -/
def step (sha256 : String → Digest) (history : KeyHistory Digest) (call : KeyCall) :
    KeyHistory Digest :=
  let (reply, manager) := history.manager.call sha256 call
  ⟨manager, (handedOut reply).toList ++ history.issued,
    (rotation call reply).toList ++ history.rotations⟩

/-- A run of calls from the start. -/
def run (sha256 : String → Digest) (calls : List KeyCall) : KeyHistory Digest :=
  calls.foldl (step sha256) start

end KeyHistory

end Security
end DataGateway
