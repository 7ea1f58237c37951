import DataGateway.Security.KeyTable

/-!
# The API keys over a whole run

The invariant ties the two tables to the keys that were handed out: each is held under its id with
its hash, and nothing else is.  What a call promises follows from it, and a call that raises is one
that rotates a revoked key or that asks for a date past the calendar.
-/

namespace DataGateway
namespace Security

variable {Digest : Type} [DecidableEq Digest] {sha256 : String → Digest}

/-- No two of these keys have one hash. -/
def CollisionFree (sha256 : String → Digest) (rawKeys : List String) : Prop :=
  ∀ first ∈ rawKeys, ∀ second ∈ rawKeys, sha256 first = sha256 second → first = second

/-- A revoked key is in the table. -/
def APIKeyManager.Revoked (manager : APIKeyManager Digest) (keyId : String) : Prop :=
  ∃ key, manager.keys.get? keyId = some key ∧ key.revoked = true

namespace APIKeyManager

variable {manager : APIKeyManager Digest} {keyId other : String} {key : APIKey Digest}

omit [DecidableEq Digest] in
theorem Revoked.noteUse (revoked : manager.Revoked keyId) (other : String) (now : Int) :
    (manager.noteUse other now).Revoked keyId := by
  obtain ⟨key, there, old⟩ := revoked
  obtain ⟨held, stored, -, same⟩ := get?_noteUse_of_some now there
  exact ⟨held, stored, same.trans old⟩

theorem Revoked.retire (revoked : manager.Revoked keyId) (other : String) (hash : Digest) :
    (manager.retire other hash).Revoked keyId := by
  obtain ⟨key, there, old⟩ := revoked
  rw [Revoked, get?_retire]
  split
  next same =>
    subst same
    exact ⟨key.revoke, by rw [there]; rfl, rfl⟩
  next => exact ⟨key, there, old⟩

theorem Revoked.install (revoked : manager.Revoked keyId)
    (newId : manager.keys.get? key.keyId = none) : (manager.install key).Revoked keyId := by
  obtain ⟨held, there, old⟩ := revoked
  have different : keyId ≠ key.keyId := by
    rintro rfl
    rw [newId] at there
    cases there
  exact ⟨held, by rw [get?_install, if_neg different, there], old⟩

theorem revoked_retire (there : manager.keys.get? keyId = some key) (hash : Digest) :
    (manager.retire keyId hash).Revoked keyId :=
  ⟨key.revoke, by rw [get?_retire, if_pos rfl, there]; rfl, rfl⟩

/-- When a raw key validates. -/
theorem validateKey_isSome (sha256 : String → Digest) (rawKey : String) (now used : Int) :
    (manager.validateKey sha256 rawKey now used).1.isSome ↔
      (rawKey ≠ "" ∧ Text.startsWith rawKey keyPrefix = true) ∧
        ∃ keyId, manager.keyByHash.get? (sha256 rawKey) = some keyId ∧ keyId ≠ "" ∧
          ∃ key, manager.keys.get? keyId = some key ∧ key.isValid now = true := by
  rw [validateKey]
  split
  next refused =>
    constructor
    · intro some
      cases some
    · rintro ⟨⟨filled, starts⟩, -⟩
      rcases refused with empty | other
      · exact absurd empty filled
      · rw [starts] at other
        cases other
  next accepted =>
    obtain ⟨filled, starts⟩ := not_or.mp accepted
    have shape : rawKey ≠ "" ∧ Text.startsWith rawKey keyPrefix = true :=
      ⟨filled, Bool.eq_true_of_not_eq_false starts⟩
    cases indexed : manager.keyByHash.get? (sha256 rawKey) with
    | none => simp
    | some keyId =>
        by_cases blank : keyId = ""
        · simp [blank]
        · cases there : manager.keys.get? keyId with
          | none => simp [blank, there]
          | some key => cases valid : key.isValid now <;> simp [blank, there, valid, shape]

end APIKeyManager

/-! ## The invariant -/

namespace KeyHistory

/-- The raw keys that were handed out. -/
def rawKeys (history : KeyHistory Digest) : List String := history.issued.map Prod.fst

/-- The keys that were drawn are distinct, by their texts and by their ids, and
so are the hashes. -/
structure Fresh (sha256 : String → Digest) (history : KeyHistory Digest) : Prop where
  rawKeys : history.rawKeys.Nodup
  keyIds : (history.issued.map Prod.snd).Nodup
  collisionFree : CollisionFree sha256 history.rawKeys

/-- The tables hold exactly the keys that were handed out. -/
structure KeyTable (sha256 : String → Digest) (history : KeyHistory Digest) : Prop where
  held : ∀ rawKey keyId, (rawKey, keyId) ∈ history.issued →
    ∃ key, history.manager.keys.get? keyId = some key ∧ key.keyHash = sha256 rawKey
  known : ∀ keyId key, history.manager.keys.get? keyId = some key →
    ∃ rawKey, (rawKey, keyId) ∈ history.issued ∧ key.keyHash = sha256 rawKey
  named : ∀ rawKey keyId, (rawKey, keyId) ∈ history.issued →
    (rawKey ≠ "" ∧ Text.startsWith rawKey keyPrefix = true) ∧ keyId ≠ ""
  indexed : history.manager.IndexExact
  rotated : ∀ keyId successor, (keyId, successor) ∈ history.rotations →
    history.manager.Revoked keyId

variable {history next : KeyHistory Digest} {keyId : String} {key : APIKey Digest}

omit [DecidableEq Digest] in
/-- What was drawn for a part of the run is distinct too. -/
theorem Fresh.of_suffix (fresh : Fresh sha256 next) (earlier : history.issued <:+ next.issued) :
    Fresh sha256 history where
  rawKeys := fresh.rawKeys.sublist (earlier.sublist.map Prod.fst)
  keyIds := fresh.keyIds.sublist (earlier.sublist.map Prod.snd)
  collisionFree := by
    have part := (earlier.sublist.map Prod.fst).subset
    intro first first_mem second second_mem
    exact fresh.collisionFree first (part first_mem) second (part second_mem)

theorem get?_handOut (history : KeyHistory Digest) (rawKey : String) (other : String) :
    (history.handOut rawKey key).manager.keys.get? other =
      if other = key.keyId then some key else history.manager.keys.get? other :=
  APIKeyManager.get?_install

theorem KeyTable.hashesDiffer (table : KeyTable sha256 history) (fresh : Fresh sha256 history) :
    history.manager.HashesDiffer := by
  intro first second key other firstThere secondThere same
  obtain ⟨firstRaw, firstIssued, firstHash⟩ := table.known first key firstThere
  obtain ⟨secondRaw, secondIssued, secondHash⟩ := table.known second other secondThere
  have sameRaw : firstRaw = secondRaw := by
    apply fresh.collisionFree firstRaw (List.mem_map_of_mem firstIssued) secondRaw
      (List.mem_map_of_mem secondIssued)
    rw [← firstHash, same, secondHash]
  have samePair := List.inj_on_of_nodup_map fresh.rawKeys firstIssued secondIssued sameRaw
  exact congrArg Prod.snd samePair

theorem keyTable_start : KeyTable sha256 (start : KeyHistory Digest) where
  held := by simp [start]
  known := by
    intro keyId key there
    cases there
  named := by simp [start]
  indexed := by
    intro hash keyId
    constructor
    · intro indexed
      cases indexed
    · rintro ⟨key, there, -⟩
      cases there
  rotated := by simp [start]

theorem KeyTable.noteUse (table : KeyTable sha256 history) (keyId : String) (now : Int) :
    KeyTable sha256 { history with manager := history.manager.noteUse keyId now } where
  held := by
    intro rawKey other issued
    obtain ⟨key, there, hash⟩ := table.held rawKey other issued
    obtain ⟨later, stored, same, -⟩ := APIKeyManager.get?_noteUse_of_some now there
    exact ⟨later, stored, same.trans hash⟩
  known := by
    intro other later stored
    obtain ⟨key, there, same, -⟩ := APIKeyManager.get?_noteUse_some stored
    obtain ⟨rawKey, issued, hash⟩ := table.known other key there
    exact ⟨rawKey, issued, same.trans hash⟩
  named := table.named
  indexed := table.indexed.noteUse keyId now
  rotated := by
    intro old successor pair
    exact (table.rotated old successor pair).noteUse keyId now

theorem KeyTable.retire (table : KeyTable sha256 history) (fresh : Fresh sha256 history)
    (there : history.manager.keys.get? keyId = some key) :
    KeyTable sha256 { history with manager := history.manager.retire keyId key.keyHash } where
  held := by
    intro rawKey other issued
    obtain ⟨before, stored, hash⟩ := table.held rawKey other issued
    rw [APIKeyManager.get?_retire]
    split
    next same =>
      subst same
      exact ⟨before.revoke, by rw [stored]; rfl, hash⟩
    next => exact ⟨before, stored, hash⟩
  known := by
    intro other later stored
    rw [APIKeyManager.get?_retire] at stored
    split at stored
    next same =>
      subst same
      obtain ⟨before, held, rfl⟩ := Option.map_eq_some_iff.mp stored
      exact table.known other before held
    next => exact table.known other later stored
  named := table.named
  indexed := table.indexed.retire (table.hashesDiffer fresh) there
  rotated := by
    intro old successor pair
    exact (table.rotated old successor pair).retire keyId key.keyHash

/-- A key that is handed out has a new id. -/
theorem KeyTable.newId (table : KeyTable sha256 history) {rawKey : String}
    (fresh : Fresh sha256 (history.handOut rawKey key)) :
    history.manager.keys.get? key.keyId = none := by
  cases there : history.manager.keys.get? key.keyId with
  | none => rfl
  | some held =>
      obtain ⟨earlier, issued, -⟩ := table.known key.keyId held there
      exact absurd (List.mem_map_of_mem issued) (List.nodup_cons.mp fresh.keyIds).1

theorem KeyTable.handOut (table : KeyTable sha256 history) {rawKey : String}
    (fresh : Fresh sha256 (history.handOut rawKey key))
    (named : (rawKey ≠ "" ∧ Text.startsWith rawKey keyPrefix = true) ∧ key.keyId ≠ "")
    (hashed : key.keyHash = sha256 rawKey) (active : key.revoked = false) :
    KeyTable sha256 (history.handOut rawKey key) where
  held := by
    intro raw other issued
    rcases List.mem_cons.mp issued with new | earlier
    · obtain ⟨rfl, rfl⟩ := Prod.mk.inj new
      exact ⟨key, by rw [get?_handOut, if_pos rfl], hashed⟩
    · obtain ⟨held, there, hash⟩ := table.held raw other earlier
      have different : other ≠ key.keyId := by
        rintro rfl
        rw [table.newId fresh] at there
        cases there
      exact ⟨held, by rw [get?_handOut, if_neg different, there], hash⟩
  known := by
    intro other later stored
    rw [get?_handOut] at stored
    split at stored
    next same =>
      obtain rfl := Option.some.inj stored
      exact ⟨rawKey, by rw [same]; exact List.mem_cons_self, hashed⟩
    next =>
      obtain ⟨raw, issued, hash⟩ := table.known other later stored
      exact ⟨raw, List.mem_cons_of_mem _ issued, hash⟩
  named := by
    intro raw other issued
    rcases List.mem_cons.mp issued with new | earlier
    · obtain ⟨rfl, rfl⟩ := Prod.mk.inj new
      exact named
    · exact table.named raw other earlier
  indexed := by
    apply table.indexed.install active (table.newId fresh)
    intro other held there same
    obtain ⟨earlier, issued, hash⟩ := table.known other held there
    have sameRaw : earlier = rawKey := by
      apply fresh.collisionFree earlier
        (List.mem_cons_of_mem _ (List.mem_map_of_mem issued)) rawKey List.mem_cons_self
      rw [← hash, same, hashed]
    subst sameRaw
    exact absurd (List.mem_map_of_mem issued) (List.nodup_cons.mp fresh.rawKeys).1
  rotated := by
    intro old successor pair
    exact (table.rotated old successor pair).install (table.newId fresh)

/-! ## One call -/

theorem KeyStep.issued (step : KeyStep sha256 history next) : history.issued <:+ next.issued := by
  cases step with
  | kept => exact List.suffix_rfl
  | used keyId now => exact List.suffix_rfl
  | retired there => exact List.suffix_rfl
  | generated named hashed active => exact List.suffix_cons _ _
  | rotated there named hashed active => exact List.suffix_cons _ _

/-- A raw key has its prefix, and a key has an id. -/
theorem named_draw (draw : KeyDraw) (clientId : String) :
    (draw.rawKey clientId ≠ "" ∧ Text.startsWith (draw.rawKey clientId) keyPrefix = true) ∧
      draw.keyId ≠ "" := by
  have starts : Text.startsWith (draw.rawKey clientId) keyPrefix = true := by
    apply Text.startsWith_iff.mpr
    exact ⟨clientId.toList ++ ("_" ++ draw.tokenUrlsafe).toList, by simp [KeyDraw.rawKey]⟩
  refine ⟨⟨?_, starts⟩, ?_⟩
  · intro empty
    rw [empty] at starts
    exact absurd starts (by decide)
  · intro empty
    have letters := congrArg String.toList empty
    rw [KeyDraw.keyId, String.toList_append] at letters
    cases (List.append_eq_nil_iff.mp letters).1

theorem KeyTable.step (table : KeyTable sha256 history) (fresh : Fresh sha256 next)
    (step : KeyStep sha256 history next) : KeyTable sha256 next := by
  have before := fresh.of_suffix step.issued
  cases step with
  | kept => exact table
  | used keyId now => exact table.noteUse keyId now
  | retired there => exact table.retire before there
  | @generated draw clientId key named hashed active =>
      apply table.handOut fresh _ hashed active
      rw [named]
      exact named_draw draw clientId
  | @rotated keyId old draw clientId key there named hashed active =>
      have retired := table.retire before there
      have drawn : Fresh sha256 (({ history with
          manager :=
            history.manager.retire keyId old.keyHash }).handOut (draw.rawKey clientId) key) :=
        ⟨fresh.rawKeys, fresh.keyIds, fresh.collisionFree⟩
      have name := named_draw draw clientId
      rw [← named] at name
      have handed := retired.handOut drawn name hashed active
      refine ⟨handed.held, handed.known, handed.named, handed.indexed, ?_⟩
      intro rotated successor pair
      rcases List.mem_cons.mp pair with new | earlier
      · obtain ⟨rfl, rfl⟩ := Prod.mk.inj new
        exact (APIKeyManager.revoked_retire there _).install (retired.newId drawn)
      · exact handed.rotated rotated successor earlier

/-- A revoked key stays revoked. -/
theorem KeyTable.revoked_stays (table : KeyTable sha256 history) (fresh : Fresh sha256 next)
    (step : KeyStep sha256 history next) (revoked : history.manager.Revoked keyId) :
    next.manager.Revoked keyId := by
  have before := fresh.of_suffix step.issued
  cases step with
  | kept => exact revoked
  | used other now => exact revoked.noteUse other now
  | @retired other key there => exact revoked.retire other key.keyHash
  | generated named hashed active => exact revoked.install (table.newId fresh)
  | @rotated other old draw clientId key there named hashed active =>
      apply (revoked.retire other old.keyHash).install
      exact (table.retire before there).newId ⟨fresh.rawKeys, fresh.keyIds, fresh.collisionFree⟩

/-! ## Runs -/

@[simp] theorem run_append (calls : List KeyCall) (call : KeyCall) :
    run sha256 (calls ++ [call]) = (run sha256 calls).step sha256 call :=
  List.foldl_concat ..

/-- What was handed out for a part of a run is the oldest part of what the run hands out. -/
theorem issued_run (before after : List KeyCall) :
    (run sha256 before).issued <:+ (run sha256 (before ++ after)).issued := by
  induction after using List.reverseRecOn with
  | nil => simp
  | append_singleton after call ih =>
      rw [← List.append_assoc, run_append]
      exact ih.trans (List.suffix_append _ _)

theorem keyTable_run (calls : List KeyCall) (fresh : Fresh sha256 (run sha256 calls)) :
    KeyTable sha256 (run sha256 calls) := by
  induction calls using List.reverseRecOn with
  | nil => exact keyTable_start
  | append_singleton calls call ih =>
      have before := fresh.of_suffix (issued_run calls [call])
      have table := ih before
      rw [run_append] at fresh ⊢
      exact table.step fresh (keyStep_step table.indexed (table.hashesDiffer before) call)

/-! ## What every call promises -/

/-- The index is exact, and a raw key validates exactly when its key is neither
revoked nor expired. -/
structure Consistent (sha256 : String → Digest) (history : KeyHistory Digest) : Prop where
  indexed : history.manager.IndexExact
  validates : ∀ rawKey now used, CollisionFree sha256 (rawKey :: history.rawKeys) →
    ((history.manager.validateKey sha256 rawKey now used).1.isSome ↔
      ∃ keyId key, (rawKey, keyId) ∈ history.issued ∧
        history.manager.keys.get? keyId = some key ∧
        key.revoked = false ∧ key.isExpired now = false)

/-- A call does not raise, a rotated key has exactly one successor that is not revoked, and no
revoked key comes back. -/
structure Lawful (sha256 : String → Digest) (history : KeyHistory Digest)
    (call : KeyCall) : Prop where
  answers : ∀ error, (history.manager.call sha256 call).1 ≠ .raised error
  rotates : ∀ keyId days draw, call = .rotateKey keyId days draw →
    history.manager.keys.contains keyId = true →
      (history.step sha256 call).manager.Revoked keyId ∧
        ∃! successor, (keyId, successor) ∈ (history.step sha256 call).rotations ∧
          (history.step sha256 call).manager.Active successor
  retires : ∀ keyId, history.manager.Revoked keyId →
    (history.step sha256 call).manager.Revoked keyId

/-- A rotated key is not revoked, and the calendar has the day on which a new key expires. -/
def Proceeds (manager : APIKeyManager Digest) : KeyCall → Prop
  | .generateKey _ _ _ days draw => (plusDays draw.expiryNow days).isSome
  | .rotateKey keyId days draw =>
      ∀ key ∈ manager.keys.get? keyId, key.revoked = false ∧ (plusDays draw.expiryNow days).isSome
  | .revokeKey _ => True
  | .validateKey _ _ _ => True

instance (manager : APIKeyManager Digest) : DecidablePred (Proceeds manager)
  | .generateKey _ _ _ days draw =>
      inferInstanceAs (Decidable ((plusDays draw.expiryNow days).isSome = true))
  | .rotateKey keyId days draw =>
      inferInstanceAs (Decidable (∀ key ∈ manager.keys.get? keyId,
        key.revoked = false ∧ (plusDays draw.expiryNow days).isSome = true))
  | .revokeKey _ => inferInstanceAs (Decidable True)
  | .validateKey _ _ _ => inferInstanceAs (Decidable True)

theorem KeyTable.consistent (table : KeyTable sha256 history) : Consistent sha256 history where
  indexed := table.indexed
  validates := by
    intro rawKey now used collisionFree
    rw [APIKeyManager.validateKey_isSome]
    constructor
    · rintro ⟨-, keyId, found, -, key, there, valid⟩
      obtain ⟨held, stored, -, hash⟩ := (table.indexed _ _).mp found
      obtain rfl := Option.some.inj (stored.symm.trans there)
      obtain ⟨other, issued, same⟩ := table.known keyId held stored
      have sameRaw : rawKey = other := by
        apply collisionFree rawKey List.mem_cons_self other
          (List.mem_cons_of_mem _ (List.mem_map_of_mem issued))
        rw [← hash, same]
      subst sameRaw
      rw [APIKey.isValid, Bool.and_eq_true, Bool.not_eq_true', Bool.not_eq_true'] at valid
      exact ⟨keyId, held, issued, stored, valid⟩
    · rintro ⟨keyId, key, issued, there, active, current⟩
      obtain ⟨shape, filled⟩ := table.named rawKey keyId issued
      obtain ⟨held, stored, hash⟩ := table.held rawKey keyId issued
      obtain rfl := Option.some.inj (stored.symm.trans there)
      have found := (table.indexed (sha256 rawKey) keyId).mpr ⟨held, stored, active, hash⟩
      exact ⟨shape, keyId, found, filled, held, stored, by simp [APIKey.isValid, active, current]⟩

/-- A rotation of a key that is not revoked hands out its successor. -/
theorem KeyTable.step_rotateKey (table : KeyTable sha256 history) (fresh : Fresh sha256 history)
    {old : APIKey Digest} (there : history.manager.keys.get? keyId = some old)
    (active : old.revoked = false) {days : Int} {draw : KeyDraw} {expiresAt : Int}
    (day : plusDays draw.expiryNow days = some expiresAt) :
    let key := draw.newKey sha256 old.clientId (some old.permissions) old.role expiresAt
    (history.manager.call sha256 (.rotateKey keyId days draw)).1 =
        .rotated (some (draw.rawKey old.clientId, key)) ∧
      history.step sha256 (.rotateKey keyId days draw) =
        { ({ history with manager := history.manager.retire keyId old.keyHash }).handOut
            (draw.rawKey old.clientId) key with
          rotations := (keyId, key.keyId) :: history.rotations } := by
  have rotated :=
    APIKeyManager.rotateKey_active sha256 table.indexed (table.hashesDiffer fresh) there
    active days draw
  rw [generateKey_eq, day] at rotated
  constructor
  · rw [APIKeyManager.call, rotated]
  · rw [KeyHistory.step, APIKeyManager.call, rotated]
    rfl

/-- Exactly the calls that proceed do not raise. -/
theorem KeyTable.answers_iff (table : KeyTable sha256 history) (fresh : Fresh sha256 history)
    (call : KeyCall) :
    (∀ error, (history.manager.call sha256 call).1 ≠ .raised error) ↔
      Proceeds history.manager call := by
  cases call with
  | generateKey clientId permissions role days draw =>
      rw [APIKeyManager.call, generateKey_eq, Proceeds]
      cases plusDays draw.expiryNow days <;> simp
  | rotateKey keyId days draw =>
      rw [Proceeds]
      cases there : history.manager.keys.get? keyId with
      | none => simp [APIKeyManager.call, APIKeyManager.rotateKey, there]
      | some old =>
          cases active : old.revoked with
          | true =>
              have raised := APIKeyManager.rotateKey_revoked sha256 table.indexed
                (table.hashesDiffer fresh) there active days draw
              simp [APIKeyManager.call, raised, active]
          | false =>
              cases day : plusDays draw.expiryNow days with
              | none =>
                  have raised := APIKeyManager.rotateKey_active sha256 table.indexed
                    (table.hashesDiffer fresh) there active days draw
                  rw [generateKey_eq, day] at raised
                  simp [APIKeyManager.call, raised]
              | some expiresAt =>
                  rw [(table.step_rotateKey fresh there active day).1]
                  simp [active]
  | revokeKey keyId => simp [APIKeyManager.call, Proceeds]
  | validateKey rawKey now used => simp [APIKeyManager.call, Proceeds]

/-- A call that proceeds keeps all that is promised. -/
theorem KeyTable.lawful (table : KeyTable sha256 history) {call : KeyCall}
    (fresh : Fresh sha256 (history.step sha256 call)) (before : Fresh sha256 history)
    (proceeds : Proceeds history.manager call) : Lawful sha256 history call where
  answers := (table.answers_iff before call).mpr proceeds
  rotates := by
    rintro keyId days draw rfl held
    obtain ⟨old, there⟩ := OrderedDict.contains_iff.mp held
    obtain ⟨active, computable⟩ := proceeds old there
    obtain ⟨expiresAt, day⟩ := Option.isSome_iff_exists.mp computable
    have after := (table.step_rotateKey before there active day).2
    have rotated := table.step fresh (keyStep_step table.indexed (table.hashesDiffer before) _)
    rw [after] at rotated ⊢
    refine ⟨rotated.rotated keyId _ List.mem_cons_self, draw.keyId, ⟨List.mem_cons_self, ?_⟩, ?_⟩
    · exact ⟨_, (get?_handOut _ (draw.rawKey old.clientId) _).trans (if_pos rfl), rfl⟩
    · rintro successor ⟨pair, -⟩
      rcases List.mem_cons.mp pair with new | earlier
      · exact congrArg Prod.snd new
      · obtain ⟨key, stored, revoked⟩ := table.rotated keyId successor earlier
        obtain rfl := Option.some.inj (stored.symm.trans there)
        rw [active] at revoked
        cases revoked
  retires := by
    intro keyId revoked
    exact table.revoked_stays fresh (keyStep_step table.indexed (table.hashesDiffer before) call)
      revoked

/-- A run whose draws are distinct keeps its tables consistent, and its calls keep what they promise
exactly when they proceed. -/
theorem key_table_consistent (calls : List KeyCall) (fresh : Fresh sha256 (run sha256 calls)) :
    ((∀ before after, calls = before ++ after → Consistent sha256 (run sha256 before)) ∧
        ∀ before call after, calls = before ++ call :: after →
          Lawful sha256 (run sha256 before) call) ↔
      ∀ before call after, calls = before ++ call :: after →
        Proceeds (run sha256 before).manager call := by
  have part : ∀ before after, calls = before ++ after → Fresh sha256 (run sha256 before) := by
    rintro before after rfl
    exact fresh.of_suffix (issued_run before after)
  constructor
  · rintro ⟨-, lawful⟩ before call after split
    have drawn := part before (call :: after) split
    exact ((keyTable_run before drawn).answers_iff drawn call).mp
      (lawful before call after split).answers
  · intro proceeds
    constructor
    · intro before after split
      exact (keyTable_run before (part before after split)).consistent
    · intro before call after split
      have drawn := part before (call :: after) split
      have next : Fresh sha256 (run sha256 (before ++ [call])) := by
        apply part _ after
        rw [split, List.append_assoc, List.singleton_append]
      rw [run_append] at next
      exact (keyTable_run before drawn).lawful next drawn (proceeds before call after split)

/-- A key is generated, revoked and then rotated. -/
def revokedThenRotated : List KeyCall :=
  [.generateKey "acme" none .client 365 ⟨"0a1b", "first", 63871977600000000, 63871977600000001⟩,
    .revokeKey "key_0a1b",
    .rotateKey "key_0a1b" 365 ⟨"2c3d", "second", 63871977600000002, 63871977600000003⟩]

/-- The tables are consistent after a generation, a rotation, a rotation of the successor and a
revocation of the key that is left. -/
theorem a_successor_is_rotated :
    let calls : List KeyCall :=
      [.generateKey "acme" none .client 365 ⟨"0a1b", "first", 63871977600000000, 63871977600000001⟩,
        .rotateKey "key_0a1b" 365 ⟨"2c3d", "second", 63871977600000002, 63871977600000003⟩,
        .rotateKey "key_2c3d" 365 ⟨"4e5f", "third", 63871977600000004, 63871977600000005⟩,
        .revokeKey "key_4e5f"]
    (∀ before after, calls = before ++ after → Consistent id (run id before)) ∧
      ∀ before call after, calls = before ++ call :: after → Lawful id (run id before) call := by
  intro calls
  have fresh : Fresh id (run id calls) := by
    refine ⟨by decide, by decide, ?_⟩
    intro first _ second _ same
    exact same
  apply (key_table_consistent calls fresh).mpr
  intro before call after split
  dsimp only [calls] at split
  rcases before with _ | ⟨first, _ | ⟨second, _ | ⟨third, _ | ⟨fourth, rest⟩⟩⟩⟩
  iterate 4
    · cases split
      decide
  · have short := congrArg List.length split
    simp at short

/-- Rotating a revoked key raises. -/
theorem rotating_a_revoked_key_raises :
    Fresh id (run id revokedThenRotated) ∧
      ¬∀ before call after, revokedThenRotated = before ++ call :: after →
        Lawful id (run id before) call := by
  constructor
  · refine ⟨by decide, by decide, ?_⟩
    intro first _ second _ same
    exact same
  · intro lawful
    have last := lawful (revokedThenRotated.take 2) (.rotateKey "key_0a1b" 365
      ⟨"2c3d", "second", 63871977600000002, 63871977600000003⟩) [] rfl
    exact last.answers .keyError (by decide)

end KeyHistory

end Security
end DataGateway
