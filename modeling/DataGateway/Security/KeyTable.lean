import DataGateway.Security.ApiKeys

/-!
# The two tables of the API keys

A call retires a key, takes a new one in, notes a use, or changes nothing.  Each of these keeps the
index exact: it maps the hashes of the keys that are not revoked to their ids, and no other hash.
-/

namespace DataGateway
namespace Security

variable {Digest : Type} [DecidableEq Digest]

/-! ## The two tables -/

namespace APIKeyManager

/-- The index maps exactly the hashes of the keys that are not revoked to their ids. -/
def IndexExact (manager : APIKeyManager Digest) : Prop :=
  ∀ hash keyId, manager.keyByHash.get? hash = some keyId ↔
    ∃ key, manager.keys.get? keyId = some key ∧ key.revoked = false ∧ key.keyHash = hash

/-- No two keys of the table have one hash. -/
def HashesDiffer (manager : APIKeyManager Digest) : Prop :=
  ∀ first second key other, manager.keys.get? first = some key →
    manager.keys.get? second = some other → key.keyHash = other.keyHash → first = second

/-- The key is in the table and not revoked. -/
def Active (manager : APIKeyManager Digest) (keyId : String) : Prop :=
  ∃ key, manager.keys.get? keyId = some key ∧ key.revoked = false

/-- A key is revoked and its hash leaves the index. -/
def retire (manager : APIKeyManager Digest) (keyId : String) (hash : Digest) :
    APIKeyManager Digest :=
  ⟨manager.keys.modify keyId APIKey.revoke, manager.keyByHash.erase hash⟩

/-- A key comes in, with its hash. -/
def install (manager : APIKeyManager Digest) (key : APIKey Digest) : APIKeyManager Digest :=
  ⟨manager.keys.set key.keyId key, manager.keyByHash.set key.keyHash key.keyId⟩

/-- The use of a key is noted. -/
def noteUse (manager : APIKeyManager Digest) (keyId : String) (now : Int) : APIKeyManager Digest :=
  { manager with keys := manager.keys.modify keyId fun key => key.use now }

variable {manager : APIKeyManager Digest} {keyId other : String} {key : APIKey Digest}

theorem get?_retire (hash : Digest) : (manager.retire keyId hash).keys.get? other =
    if other = keyId then (manager.keys.get? keyId).map APIKey.revoke
      else manager.keys.get? other :=
  manager.keys.get?_modify keyId other APIKey.revoke

theorem get?_install : (manager.install key).keys.get? other =
    if other = key.keyId then some key else manager.keys.get? other :=
  manager.keys.get?_set key.keyId other key

omit [DecidableEq Digest] in
theorem get?_noteUse (now : Int) : (manager.noteUse keyId now).keys.get? other =
    if other = keyId then (manager.keys.get? keyId).map fun key => key.use now
    else manager.keys.get? other :=
  manager.keys.get?_modify keyId other _

/-- The hash of a key is in the index until the key is revoked. -/
theorem contains_keyByHash (exact_ : manager.IndexExact) (differ : manager.HashesDiffer)
    (there : manager.keys.get? keyId = some key) :
    manager.keyByHash.contains key.keyHash = !key.revoked := by
  rw [Bool.eq_iff_iff, OrderedDict.contains_iff, Bool.not_eq_true']
  constructor
  · rintro ⟨found, indexed⟩
    obtain ⟨held, stored, active, same⟩ := (exact_ _ _).mp indexed
    obtain rfl := differ _ _ _ _ stored there same
    obtain rfl := Option.some.inj (stored.symm.trans there)
    exact active
  · intro active
    exact ⟨keyId, (exact_ _ _).mpr ⟨key, there, active, rfl⟩⟩

theorem IndexExact.retire (exact_ : manager.IndexExact) (differ : manager.HashesDiffer)
    (there : manager.keys.get? keyId = some key) :
    (manager.retire keyId key.keyHash).IndexExact := by
  intro hash other
  have index : (manager.retire keyId key.keyHash).keyByHash.get? hash =
      if hash = key.keyHash then none else manager.keyByHash.get? hash :=
    manager.keyByHash.get?_erase key.keyHash hash
  rw [index, get?_retire, there]
  constructor
  · intro indexed
    split at indexed
    next => cases indexed
    next apart =>
      obtain ⟨held, stored, active, rfl⟩ := (exact_ _ _).mp indexed
      have different : other ≠ keyId := by
        rintro rfl
        obtain rfl := Option.some.inj (stored.symm.trans there)
        exact apart rfl
      exact ⟨held, by rw [if_neg different, stored], active, rfl⟩
  · rintro ⟨held, stored, active, rfl⟩
    split at stored
    next =>
      obtain rfl := Option.some.inj stored
      cases active
    next different =>
      rw [if_neg]
      · exact (exact_ _ _).mpr ⟨held, stored, active, rfl⟩
      · intro same
        exact different (differ _ _ _ _ stored there same)

theorem IndexExact.install (exact_ : manager.IndexExact) (active : key.revoked = false)
    (newId : manager.keys.get? key.keyId = none)
    (newHash : ∀ other held, manager.keys.get? other = some held → held.keyHash ≠ key.keyHash) :
    (manager.install key).IndexExact := by
  intro hash other
  have index : (manager.install key).keyByHash.get? hash =
      if hash = key.keyHash then some key.keyId else manager.keyByHash.get? hash :=
    manager.keyByHash.get?_set key.keyHash hash key.keyId
  rw [index, get?_install]
  constructor
  · intro indexed
    split at indexed
    next same =>
      obtain rfl := Option.some.inj indexed
      exact ⟨key, if_pos rfl, active, same.symm⟩
    next apart =>
      obtain ⟨held, stored, live, same⟩ := (exact_ _ _).mp indexed
      have different : other ≠ key.keyId := by
        rintro rfl
        rw [newId] at stored
        cases stored
      exact ⟨held, by rw [if_neg different, stored], live, same⟩
  · rintro ⟨held, stored, live, rfl⟩
    split at stored
    next same =>
      obtain rfl := Option.some.inj stored
      rw [if_pos rfl, same]
    next different =>
      rw [if_neg (newHash other held stored)]
      exact (exact_ _ _).mpr ⟨held, stored, live, rfl⟩

omit [DecidableEq Digest] in
theorem get?_noteUse_some {now : Int} {held : APIKey Digest}
    (stored : (manager.noteUse keyId now).keys.get? other = some held) :
    ∃ before, manager.keys.get? other = some before ∧ held.keyHash = before.keyHash ∧
      held.revoked = before.revoked := by
  rw [get?_noteUse] at stored
  split at stored
  next same =>
    subst same
    obtain ⟨before, there, rfl⟩ := Option.map_eq_some_iff.mp stored
    exact ⟨before, there, rfl, rfl⟩
  next => exact ⟨held, stored, rfl, rfl⟩

omit [DecidableEq Digest] in
theorem get?_noteUse_of_some (now : Int) {before : APIKey Digest}
    (there : manager.keys.get? other = some before) :
    ∃ held, (manager.noteUse keyId now).keys.get? other = some held ∧
      held.keyHash = before.keyHash ∧ held.revoked = before.revoked := by
  rw [get?_noteUse]
  split
  next same =>
    subst same
    exact ⟨before.use now, by rw [there]; rfl, rfl, rfl⟩
  next => exact ⟨before, there, rfl, rfl⟩

theorem IndexExact.noteUse (exact_ : manager.IndexExact) (keyId : String) (now : Int) :
    (manager.noteUse keyId now).IndexExact := by
  intro hash other
  have index : (manager.noteUse keyId now).keyByHash = manager.keyByHash := rfl
  rw [index, exact_]
  constructor
  · rintro ⟨before, there, active, rfl⟩
    obtain ⟨held, stored, hash, revoked⟩ := get?_noteUse_of_some now there
    exact ⟨held, stored, revoked.trans active, hash⟩
  · rintro ⟨held, stored, active, rfl⟩
    obtain ⟨before, there, hash, revoked⟩ := get?_noteUse_some stored
    exact ⟨before, there, revoked.symm.trans active, hash.symm⟩

/-- Erasing a hash that may not be there. -/
theorem revokeKey_eq (there : manager.keys.get? keyId = some key) :
    manager.revokeKey keyId = (true, manager.retire keyId key.keyHash) := by
  rw [revokeKey, there]
  dsimp only
  split
  next => rfl
  next absent =>
    have same := OrderedDict.erase_of_not_contains (Bool.eq_false_of_not_eq_true absent)
    rw [retire, same]

/-- A key that is revoked already cannot be rotated, and the attempt changes nothing. -/
theorem rotateKey_revoked (sha256 : String → Digest) (exact_ : manager.IndexExact)
    (differ : manager.HashesDiffer) (there : manager.keys.get? keyId = some key)
    (revoked : key.revoked = true) (days : Int) (draw : KeyDraw) :
    manager.rotateKey sha256 keyId days draw = (.error .keyError, manager) := by
  have same : manager.keys.modify keyId APIKey.revoke = manager.keys := by
    apply OrderedDict.modify_held there
    rw [APIKey.revoke, ← revoked]
  have absent := contains_keyByHash exact_ differ there
  rw [revoked, Bool.not_true] at absent
  rw [rotateKey, there]
  dsimp only
  rw [if_pos absent, same]

/-- A key that is not revoked is retired, and then its successor is made. -/
theorem rotateKey_active (sha256 : String → Digest) (exact_ : manager.IndexExact)
    (differ : manager.HashesDiffer) (there : manager.keys.get? keyId = some key)
    (active : key.revoked = false) (days : Int) (draw : KeyDraw) :
    manager.rotateKey sha256 keyId days draw =
      match (manager.retire keyId key.keyHash).generateKey sha256 key.clientId
          (some key.permissions) key.role days draw with
      | (.error error, after) => (.error error, after)
      | (.ok result, after) => (.ok (some result), after) := by
  have indexed := contains_keyByHash exact_ differ there
  rw [active, Bool.not_false] at indexed
  rw [rotateKey, there]
  dsimp only
  rw [if_neg (by simp [indexed])]
  rfl

/-- A validation notes the use of a key at most. -/
theorem validateKey_after (sha256 : String → Digest)
    (manager : APIKeyManager Digest) (rawKey : String) (now used : Int) :
    (manager.validateKey sha256 rawKey now used).2 = manager ∨
      ∃ keyId, (manager.validateKey sha256 rawKey now used).2 = manager.noteUse keyId used := by
  unfold validateKey
  split
  · exact .inl rfl
  · split
    · exact .inl rfl
    next keyId indexed =>
      split
      · exact .inl rfl
      · split
        · exact .inl rfl
        · split
          · exact .inr ⟨keyId, rfl⟩
          · exact .inl rfl

end APIKeyManager

/-- The key that is made of a draw. -/
def KeyDraw.newKey (sha256 : String → Digest) (draw : KeyDraw) (clientId : String)
    (permissions : Option Permission) (role : Role) (expiresAt : Int) : APIKey Digest where
  keyId := draw.keyId
  clientId := clientId
  keyHash := sha256 (draw.rawKey clientId)
  permissions := permissions.getD {}
  role := role
  expiresAt := some expiresAt
  createdAt := draw.createdNow
  lastUsedAt := none
  revoked := false

theorem generateKey_eq (sha256 : String → Digest) (manager : APIKeyManager Digest)
    (clientId : String)
    (permissions : Option Permission) (role : Role) (days : Int) (draw : KeyDraw) :
    manager.generateKey sha256 clientId permissions role days draw =
      match plusDays draw.expiryNow days with
      | none => (.error .overflowError, manager)
      | some expiresAt =>
          (.ok (draw.rawKey clientId, draw.newKey sha256 clientId permissions role expiresAt),
            manager.install (draw.newKey sha256 clientId permissions role expiresAt)) :=
  rfl

/-! ## What a call can do -/

namespace KeyHistory

/-- A new key is handed out. -/
def handOut (history : KeyHistory Digest) (rawKey : String) (key : APIKey Digest) :
    KeyHistory Digest :=
  { history with
    manager := history.manager.install key
    issued := (rawKey, key.keyId) :: history.issued }

/-- The history after one more call is one of these. -/
inductive KeyStep (sha256 : String → Digest) (history : KeyHistory Digest) :
    KeyHistory Digest → Prop
  /-- Nothing was found, or the call raised before it changed anything. -/
  | kept : KeyStep sha256 history history
  /-- A key was validated. -/
  | used (keyId : String) (now : Int) :
      KeyStep sha256 history { history with manager := history.manager.noteUse keyId now }
  /-- A key was revoked, or its rotation raised when it made the successor. -/
  | retired {keyId : String} {key : APIKey Digest}
      (there : history.manager.keys.get? keyId = some key) :
      KeyStep sha256 history { history with manager := history.manager.retire keyId key.keyHash }
  | generated {draw : KeyDraw} {clientId : String} {key : APIKey Digest}
      (named : key.keyId = draw.keyId)
      (hashed : key.keyHash = sha256 (draw.rawKey clientId)) (active : key.revoked = false) :
      KeyStep sha256 history (history.handOut (draw.rawKey clientId) key)
  | rotated {keyId : String} {old : APIKey Digest} {draw : KeyDraw} {clientId : String}
      {key : APIKey Digest} (there : history.manager.keys.get? keyId = some old)
      (named : key.keyId = draw.keyId) (hashed : key.keyHash = sha256 (draw.rawKey clientId))
      (active : key.revoked = false) :
      KeyStep sha256 history
        { ({ history with manager := history.manager.retire keyId old.keyHash }).handOut
            (draw.rawKey clientId) key with
          rotations := (keyId, key.keyId) :: history.rotations }

variable {sha256 : String → Digest} {history : KeyHistory Digest}

/-- Every call takes one of the steps. -/
theorem keyStep_step (exact_ : history.manager.IndexExact) (differ : history.manager.HashesDiffer)
    (call : KeyCall) : KeyStep sha256 history (history.step sha256 call) := by
  cases call with
  | generateKey clientId permissions role days draw =>
      rw [step, APIKeyManager.call, generateKey_eq]
      cases plusDays draw.expiryNow days with
      | none => exact .kept
      | some expiresAt => exact .generated rfl rfl rfl
  | rotateKey keyId days draw =>
      rw [step, APIKeyManager.call]
      cases there : history.manager.keys.get? keyId with
      | none =>
          rw [APIKeyManager.rotateKey, there]
          exact .kept
      | some key =>
          cases active : key.revoked with
          | true =>
              rw [APIKeyManager.rotateKey_revoked sha256 exact_ differ there active]
              exact .kept
          | false =>
              rw [APIKeyManager.rotateKey_active sha256 exact_ differ there active, generateKey_eq]
              cases plusDays draw.expiryNow days with
              | none => exact .retired there
              | some expiresAt => exact .rotated there rfl rfl rfl
  | revokeKey keyId =>
      rw [step, APIKeyManager.call]
      cases there : history.manager.keys.get? keyId with
      | none =>
          rw [APIKeyManager.revokeKey, there]
          exact .kept
      | some key =>
          rw [APIKeyManager.revokeKey_eq there]
          exact KeyStep.retired there
  | validateKey rawKey now used =>
      have after : history.step sha256 (.validateKey rawKey now used) =
          { history with manager := (history.manager.validateKey sha256 rawKey now used).2 } := rfl
      rw [after]
      rcases APIKeyManager.validateKey_after sha256 history.manager rawKey now used with
        same | ⟨keyId, same⟩
      · rw [same]
        exact .kept
      · rw [same]
        exact .used keyId used

end KeyHistory

end Security
end DataGateway
