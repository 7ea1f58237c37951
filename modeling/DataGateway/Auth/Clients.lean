import DataGateway.Python.OrderedDict
import DataGateway.Trading.ClientOrderId

/-!
# The table of clients

`ClientAuthenticator`: clients and their keys, loaded entry by entry from a YAML file and reloaded
with a way back.
-/

namespace DataGateway
namespace Auth

open Trading (InvalidClientId clientIdSafe hyphenConflict)

/-- A hashable value of a YAML file. -/
inductive YamlKey (Scalar : Type)
  | text (text : String)
  | scalar (scalar : Scalar)
  deriving DecidableEq

/-- What `yaml.safe_load` gives.  A list also stands for the sets and pairs of the special tags, and
equal scalars are those that the host language compares as equal. -/
inductive Yaml (Scalar : Type)
  | text (text : String)
  | scalar (scalar : Scalar)
  | list (items : List (Yaml Scalar))
  | map (entries : List (YamlKey Scalar × Yaml Scalar))

/-- What the host language does with the values of a file. -/
class YamlValues (Scalar : Type) where
  /-- `bool`. -/
  truthy : Scalar → Bool
  /-- The items of a scalar that can be iterated. -/
  items : Scalar → Option (List Scalar)
  /-- `str(value).lower()`. -/
  strLower : Yaml Scalar → String

/-- An exception of `_load_clients`. -/
inductive LoadError
  | unreadable
  | attributeError
  | typeError
  | keyError
  | invalidClientId (error : InvalidClientId)
  deriving DecidableEq, Repr

namespace Yaml

variable {Scalar : Type}

/-- `dict.get(name)` of the entries of a mapping. -/
def entry (entries : List (YamlKey Scalar × Yaml Scalar)) (name : String) : Option (Yaml Scalar) :=
  (entries.find? fun item => match item.1 with
    | .text key => key = name
    | .scalar _ => false).map Prod.snd

/-- `value.get(name)`. -/
def get (value : Yaml Scalar) (name : String) : Except LoadError (Option (Yaml Scalar)) :=
  match value with
  | .map entries => .ok (entry entries name)
  | _ => .error .attributeError

/-- `value[name]`. -/
def getItem (value : Yaml Scalar) (name : String) : Except LoadError (Yaml Scalar) :=
  match value with
  | .map entries =>
      match entry entries name with
      | some item => .ok item
      | none => .error .keyError
  | _ => .error .typeError

/-- A value as the key of a dictionary. -/
def hashed : Yaml Scalar → Except LoadError (YamlKey Scalar)
  | .text value => .ok (.text value)
  | .scalar value => .ok (.scalar value)
  | _ => .error .typeError

/-- The key of a dictionary as a value. -/
def ofKey : YamlKey Scalar → Yaml Scalar
  | .text value => .text value
  | .scalar value => .scalar value

variable [YamlValues Scalar]

/-- `bool(value)`. -/
def truthy : Yaml Scalar → Bool
  | .text value => value ≠ ""
  | .scalar value => YamlValues.truthy value
  | .list items => !items.isEmpty
  | .map entries => !entries.isEmpty

/-- `for item in value`. -/
def iterated : Yaml Scalar → Except LoadError (List (Yaml Scalar))
  | .text value => .ok (value.toList.map fun c => .text c.toString)
  | .scalar value =>
      match YamlValues.items value with
      | some items => .ok (items.map .scalar)
      | none => .error .typeError
  | .list items => .ok items
  | .map entries => .ok (entries.map fun item => ofKey item.1)

end Yaml

/-- `ClientPermissions`.  The values are the ones of the file; a missing number is the
default of its field. -/
structure ClientPermissions (Scalar : Type) where
  providers : Yaml Scalar
  feeds : Yaml Scalar
  maxSymbols : Option (Yaml Scalar)
  rateLimit : Option (Yaml Scalar)
  trading : Bool

/-- `Client`; a missing `enabled` is `True`. -/
structure Client (Scalar : Type) where
  id : String
  permissions : ClientPermissions Scalar
  role : String
  enabled : Option (Yaml Scalar)

/-- The three maps of `ClientAuthenticator`. -/
structure ClientAuthenticator (Scalar : Type) where
  clients : OrderedDict String (Client Scalar)
  plaintextKeys : OrderedDict (YamlKey Scalar) String
  hashedKeys : OrderedDict String String

/-- The configuration file when it is read. -/
inductive ConfigFile (Scalar : Type)
  | absent
  | unreadable
  | document (config : Yaml Scalar)

namespace ClientAuthenticator

variable {Scalar : Type}

/-- The maps before anything is loaded. -/
def empty : ClientAuthenticator Scalar := ⟨.empty, .empty, .empty⟩

variable [YamlValues Scalar]

/-- `client_data["id"]` and its check. -/
def readClientId (clientData : Yaml Scalar) : Except LoadError String :=
  match clientData.getItem "id" with
  | .error error => .error error
  | .ok (.text id) =>
      if clientIdSafe id then .ok id else .error (.invalidClientId (.unsafeId (some id)))
  | .ok _ => .error (.invalidClientId (.unsafeId none))

/-- `ClientPermissions(...)` and `Client(...)` of an entry. -/
def readClient (clientData : Yaml Scalar) (id : String) : Except LoadError (Client Scalar) := do
  let permissions := (← clientData.get "permissions").getD (.map [])
  let providers := (← permissions.get "providers").getD (.list [])
  let feeds := (← permissions.get "feeds").getD (.list [])
  let maxSymbols ← permissions.get "max_symbols"
  let rateLimit ← permissions.get "rate_limit"
  let trading := match ← permissions.get "trading" with
    | some value => value.truthy
    | none => false
  let role := YamlValues.strLower ((← clientData.get "role").getD (.text "client"))
  let enabled ← clientData.get "enabled"
  return ⟨id, ⟨providers, feeds, maxSymbols, rateLimit, trading⟩, role, enabled⟩

/-- `client_data["key"]`, if it is there. -/
def readKey (clientData : Yaml Scalar) : Except LoadError (Option (YamlKey Scalar)) := do
  match ← clientData.get "key" with
  | some value => return some (← value.hashed)
  | none => return none

/-- The hash portion of `client_data["key_hash"]`, if it is there. -/
def readKeyHash (clientData : Yaml Scalar) : Except LoadError (Option String) := do
  match ← clientData.get "key_hash" with
  | some (.text keyHash) =>
      return some (if Text.startsWith keyHash "sha256:" then String.ofList (keyHash.toList.drop 7)
        else keyHash)
  | some _ => .error .attributeError
  | none => return none

/-- `self._plaintext_keys[key] = client_id`. -/
def setPlaintextKey (auth : ClientAuthenticator Scalar)
    (key : Option (YamlKey Scalar)) (id : String)
    [DecidableEq Scalar] : ClientAuthenticator Scalar :=
  match key with
  | some key => { auth with plaintextKeys := auth.plaintextKeys.set key id }
  | none => auth

/-- `self._hashed_keys[key_hash] = client_id`. -/
def setHashedKey (auth : ClientAuthenticator Scalar) (keyHash : Option String) (id : String) :
    ClientAuthenticator Scalar :=
  match keyHash with
  | some keyHash => { auth with hashedKeys := auth.hashedKeys.set keyHash id }
  | none => auth

variable [DecidableEq Scalar]

/-- The body of the loop of `_load_clients`: the maps when it ends or raises, and what it raises. -/
def loadEntry (auth : ClientAuthenticator Scalar) (clientData : Yaml Scalar) :
    ClientAuthenticator Scalar × Option LoadError :=
  match readClientId clientData with
  | .error error => (auth, some error)
  | .ok id =>
      match readClient clientData id with
      | .error error => (auth, some error)
      | .ok client =>
          let auth := { auth with clients := auth.clients.set id client }
          match readKey clientData with
          | .error error => (auth, some error)
          | .ok key =>
              let auth := auth.setPlaintextKey key id
              match readKeyHash clientData with
              | .error error => (auth, some error)
              | .ok keyHash => (auth.setHashedKey keyHash id, none)

/-- The loop of `_load_clients`. -/
def loadEntries (auth : ClientAuthenticator Scalar) :
    List (Yaml Scalar) → ClientAuthenticator Scalar × Option LoadError
  | [] => (auth, none)
  | clientData :: rest =>
      match loadEntry auth clientData with
      | (auth, none) => loadEntries auth rest
      | (auth, some error) => (auth, some error)

/-- `_load_clients`. -/
def loadClients (auth : ClientAuthenticator Scalar) :
    ConfigFile Scalar → ClientAuthenticator Scalar × Option LoadError
  | .absent => (auth, none)
  | .unreadable => (auth, some .unreadable)
  | .document config =>
      match config.get "clients" with
      | .error error => (auth, some error)
      | .ok clients =>
          match (clients.getD (.list [])).iterated with
          | .error error => (auth, some error)
          | .ok entries =>
              match auth.loadEntries entries with
              | (auth, some error) => (auth, some error)
              | (auth, none) =>
                  match hyphenConflict (auth.clients.items.map Prod.fst) with
                  | some (a, b) => (auth, some (.invalidClientId (.prefixOf a b)))
                  | none => (auth, none)

/-- `reload`. -/
def reload (auth : ClientAuthenticator Scalar) (file : ConfigFile Scalar) :
    ClientAuthenticator Scalar × Option LoadError :=
  match empty.loadClients file with
  | (loaded, none) => (loaded, none)
  | (_, some error) => (auth, some error)

end ClientAuthenticator

end Auth
end DataGateway
