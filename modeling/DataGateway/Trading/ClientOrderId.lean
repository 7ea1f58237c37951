import DataGateway.Python.Text
import DataGateway.Trading.Errors

/-!
# Ownership prefixes of client order ids

Every order the gateway submits carries `c-{client.id}-` in front of its client order id, and that
prefix is the only record of who owns the order.  The prefix is written by `validateClientOrderId`
and `generateClientOrderId`, read back by a prefix test, by a longest-prefix search and by an audit
parser, and kept unambiguous by the checks the authenticator makes when it loads its clients.
-/

namespace DataGateway
namespace Trading

open Text

/-! ## Loading the clients -/

/-- `[A-Za-z0-9_-]`. -/
def isClientIdChar (c : Char) : Bool :=
  isUpper c || isLower c || isDigit c || c == '_' || c == '-'

/-- `^[A-Za-z0-9_-]+$`, which tolerates one final line break. -/
def clientIdSafe (id : String) : Bool :=
  let body := id.toList.takeWhile isClientIdChar
  body != [] && atEnd (id.toList.drop body.length)

/-- `InvalidClientIdError`. -/
inductive InvalidClientId
  /-- The id is not a text, or has characters the ownership prefix does not allow. -/
  | unsafeId (id : Option String)
  /-- The first id is an order-ownership prefix of the second. -/
  | prefixOf (id other : String)
  deriving DecidableEq, Repr

/-- A dictionary keeps the position of the first entry with a key. -/
def insertKey (keys : List String) (key : String) : List String :=
  if key ∈ keys then keys else keys ++ [key]

/-- The loop of `_load_clients` over the configured entries; an entry whose id is not a text is
`none`. -/
def collectClientIds : List (Option String) → List String → Except InvalidClientId (List String)
  | [], keys => .ok keys
  | none :: _, _ => .error (.unsafeId none)
  | some id :: rest, keys =>
      if clientIdSafe id then collectClientIds rest (insertKey keys id)
      else .error (.unsafeId (some id))

/-- The first pair of ids of which one is a hyphen-prefix of the other. -/
def hyphenConflict (ids : List String) : Option (String × String) :=
  ids.findSome? fun a =>
    (ids.find? fun b => a != b && startsWith b (a ++ "-")).map fun b => (a, b)

/-- `ClientAuthenticator._load_clients`, as far as the ids are concerned. -/
def loadClientIds (entries : List (Option String)) : Except InvalidClientId (List String) := do
  let ids ← collectClientIds entries []
  match hyphenConflict ids with
  | none => .ok ids
  | some (a, b) => .error (.prefixOf a b)

/-! ## Writing the prefix -/

/-- Alpaca's ceiling on the length of a client order id. -/
def clientOrderIdMaxLength : Nat := 128

/-- The text in front of every id the gateway generates. -/
def gatewayClientOrderIdPrefix : String := "dg-"

/-- `_OWNERSHIP_PREFIX_FORMAT` applied to a client id. -/
def ownershipPrefixText (clientId : String) : String := "c-" ++ clientId ++ "-"

/-- `_ownership_prefix`. -/
def ownershipPrefix (clientId : String) : Except HttpError String :=
  if clientId = "" || !clientIdSafe clientId then
    .error (.coded 500 "GW-E5008"
      ("Gateway client id contains characters not allowed in the order-ownership prefix (must " ++
        "match [A-Za-z0-9_-]+). Fix config/clients.yaml and restart the gateway."))
  else .ok (ownershipPrefixText clientId)

/-- `_validate_client_order_id`. -/
def validateClientOrderId (raw : Option String) (clientId : String) :
    Except HttpError (Option String) :=
  match raw with
  | none => .ok none
  | some raw =>
      if blank raw then
        .error (.coded 400 "GW-E4006"
          ("client_order_id, when supplied, must be a non-empty, non-whitespace string. Omit " ++
            "the parameter entirely to let the gateway auto-generate an idempotency key."))
      else
        match ownershipPrefix clientId with
        | .error error => .error error
        | .ok front =>
            if startsWith raw front then
              if raw.length > clientOrderIdMaxLength then
                .error (.coded 400 "GW-E4006"
                  (s!"client_order_id length {raw.length} exceeds Alpaca's " ++
                    s!"{clientOrderIdMaxLength}-char ceiling. Even though the supplied key " ++
                    "already carries this caller's ownership prefix, the final value still " ++
                    "needs to fit. Shorten the key."))
              else .ok (some raw)
            else if startsWith raw "c-" then
              .error (.coded 400 "GW-E4007"
                ("client_order_id carries a foreign gateway-client ownership prefix and cannot " ++
                  "be used by this client. Either omit the parameter to let the gateway " ++
                  "auto-generate one, or supply a key that does NOT start with 'c-' (the " ++
                  "gateway will prefix it for you)."))
            else
              let prefixed := front ++ raw
              if prefixed.length > clientOrderIdMaxLength then
                .error (.coded 400 "GW-E4006"
                  (s!"client_order_id length {raw.length} exceeds the per-client budget of " ++
                    s!"{(clientOrderIdMaxLength : Int) - front.length} chars (Alpaca's " ++
                    s!"{clientOrderIdMaxLength}-char ceiling minus the {front.length}-char " ++
                    s!"ownership prefix '{front}'). Shorten your key or omit the parameter to " ++
                    "let the gateway auto-generate one."))
              else .ok (some prefixed)

/-- The 32 hexadecimal digits of a random UUID. -/
structure Uuid where
  /-- `uuid.uuid4().hex`. -/
  hex : String
  /-- The text always has 32 characters. -/
  length_hex : hex.length = 32
  deriving DecidableEq

/-- `_generate_client_order_id`. -/
def generateClientOrderId (clientId : String) (uuid : Uuid) : Except HttpError String :=
  (ownershipPrefix clientId).map (· ++ gatewayClientOrderIdPrefix ++ uuid.hex)

/-! ## Reading the prefix -/

/-- `_client_order_id_matches_owner`; a value that is not a text is `none`. -/
def clientOrderIdMatchesOwner (clientOrderId : Option String) (clientId : String) :
    Except HttpError Bool :=
  match clientOrderId with
  | none => .ok false
  | some id => (ownershipPrefix clientId).map (startsWith id)

/-- `sorted(client_ids, key=len, reverse=True)`. -/
def longestFirst (clientIds : List String) : List String :=
  clientIds.insertionSort fun a b => b.length ≤ a.length

/-- `owner_from_client_order_id`. -/
def ownerFromClientOrderId (clientOrderId : Option String) (clientIds : List String) :
    Option String :=
  match clientOrderId with
  | none => none
  | some id =>
      if startsWith id "c-" then
        (longestFirst clientIds).find? fun clientId =>
          startsWith (String.ofList (id.toList.drop 2)) (clientId ++ "-")
      else none

/-- `_parse_owner_from_client_order_id`, given the ids `_known_client_ids` returns. -/
def parseOwnerFromClientOrderId (clientOrderId : Option String) (known : List String) :
    Option String :=
  match clientOrderId with
  | none => none
  | some id =>
      if startsWith id "c-" then
        let afterC := id.toList.drop 2
        match (longestFirst known).find? fun candidate =>
            clientIdSafe candidate && startsWith (String.ofList afterC) (candidate ++ "-") with
        | some candidate => some candidate
        | none =>
            -- the first-hyphen split, for a caller without an authenticator
            let candidate := String.ofList (afterC.takeWhile (· != '-'))
            if '-' ∈ afterC ∧ candidate ≠ "" ∧ clientIdSafe candidate then
              some candidate else none
      else none

/-! ## What the load checks buy -/

/-- The ids the authenticator accepted: safe, and none a hyphen-prefix of another. -/
structure AcceptedIds (ids : List String) : Prop where
  /-- Every id has only the allowed characters. -/
  safe : ∀ id ∈ ids, clientIdSafe id = true
  /-- No id followed by a hyphen starts another id. -/
  separate : ∀ a ∈ ids, ∀ b ∈ ids, a ≠ b → startsWith b (a ++ "-") = false

theorem mem_insertKey {keys : List String} {key id : String} :
    id ∈ insertKey keys key ↔ id ∈ keys ∨ id = key := by
  unfold insertKey
  split
  · rename_i found
    exact ⟨Or.inl, fun either => either.elim (fun mem => mem) fun eq => eq ▸ found⟩
  · simp

theorem collectClientIds_safe {entries : List (Option String)} {keys ids : List String}
    (collected : collectClientIds entries keys = .ok ids)
    (safe : ∀ id ∈ keys, clientIdSafe id = true) : ∀ id ∈ ids, clientIdSafe id = true := by
  induction entries generalizing keys with
  | nil =>
      obtain rfl := Except.ok.inj collected
      exact safe
  | cons entry rest ih =>
      cases entry with
      | none => simp [collectClientIds] at collected
      | some id =>
          simp only [collectClientIds] at collected
          split at collected
          · rename_i idSafe
            refine ih collected fun other mem => ?_
            rcases mem_insertKey.mp mem with mem | rfl
            · exact safe other mem
            · exact idSafe
          · simp at collected

theorem separate_of_hyphenConflict {ids : List String} (none_ : hyphenConflict ids = none) :
    ∀ a ∈ ids, ∀ b ∈ ids, a ≠ b → startsWith b (a ++ "-") = false := by
  intro a ha b hb ne
  have row := List.findSome?_eq_none_iff.mp none_ a ha
  rw [Option.map_eq_none_iff, List.find?_eq_none] at row
  simpa [ne] using row b hb

/-- Whatever the authenticator loads satisfies both checks. -/
theorem acceptedIds_of_load {entries : List (Option String)} {ids : List String}
    (loaded : loadClientIds entries = .ok ids) : AcceptedIds ids := by
  unfold loadClientIds at loaded
  cases collected : collectClientIds entries [] with
  | error error => simp [collected, bind, Except.bind] at loaded
  | ok keys =>
      cases conflict : hyphenConflict keys with
      | some pair => simp [collected, conflict, bind, Except.bind] at loaded
      | none =>
          simp only [collected, conflict, bind, Except.bind, Except.ok.injEq] at loaded
          subst loaded
          exact ⟨collectClientIds_safe collected (by simp), separate_of_hyphenConflict conflict⟩

theorem ownershipPrefix_of_safe {clientId : String} (safe : clientIdSafe clientId = true) :
    ownershipPrefix clientId = .ok (ownershipPrefixText clientId) := by
  have nonempty : clientId ≠ "" := by
    rintro rfl
    simp [clientIdSafe] at safe
  simp [ownershipPrefix, safe, nonempty]

/-- The ownership prefixes of two accepted clients never start the same text. -/
theorem prefix_unique {ids : List String} (accepted : AcceptedIds ids) {a b : String}
    (ha : a ∈ ids) (hb : b ∈ ids) {id : String}
    (owned : startsWith id (ownershipPrefixText a) = true)
    (other : startsWith id (ownershipPrefixText b) = true) : a = b := by
  obtain ⟨restA, eqA⟩ := startsWith_iff.mp owned
  obtain ⟨restB, eqB⟩ := startsWith_iff.mp other
  -- behind the common "c-", the hyphenated ids are comparable prefixes of one text
  have tails : a.toList ++ '-' :: restA = b.toList ++ '-' :: restB := by
    have joined := eqA.symm.trans eqB
    simpa [ownershipPrefixText] using joined
  by_contra ne
  have shorter : ∀ {x y : String} {u v : List Char}, x ∈ ids → y ∈ ids → x ≠ y →
      x.toList ++ '-' :: u = y.toList ++ '-' :: v → x.toList.length < y.toList.length → False := by
    intro x y u v hx hy hne eq lt
    have front : startsWith y (x ++ "-") = true := by
      rw [startsWith, List.isPrefixOf_iff_prefix]
      have left : (x ++ "-").toList <+: x.toList ++ '-' :: u := ⟨u, by simp⟩
      have right : y.toList <+: x.toList ++ '-' :: u := ⟨'-' :: v, eq.symm⟩
      exact List.prefix_of_prefix_length_le left right (by simpa using Nat.succ_le_of_lt lt)
    simp [accepted.separate x hx y hy hne] at front
  rcases Nat.lt_trichotomy a.toList.length b.toList.length with lt | eq | gt
  · exact shorter ha hb ne tails lt
  · exact ne (String.toList_inj.mp (List.append_inj_left tails eq))
  · exact shorter hb ha (Ne.symm ne) tails.symm gt

/-! ## One namespace per client -/

/-- Every reader of the id attributes it to one client, and only that client can send it again. -/
structure Namespaced (ids : List String) (owner id : String) : Prop where
  /-- The owner's prefix test accepts the id. -/
  matchesOwner : clientOrderIdMatchesOwner (some id) owner = .ok true
  /-- The prefix test of every other configured client refuses it. -/
  matchesNoOther : ∀ other ∈ ids, other ≠ owner →
    clientOrderIdMatchesOwner (some id) other = .ok false
  /-- Reconciliation attributes the id to the owner. -/
  ownerRead : ownerFromClientOrderId (some id) ids = some owner
  /-- The audit parser attributes the id to the owner. -/
  ownerParsed : parseOwnerFromClientOrderId (some id) ids = some owner
  /-- The owner can supply the id again and gets it back unchanged. -/
  accepted : validateClientOrderId (some id) owner = .ok (some id)
  /-- No other configured client can supply it. -/
  rejected : ∀ other ∈ ids, other ≠ owner →
    ∃ error, validateClientOrderId (some id) other = .error error

/-- The text behind the leading `c-` of a prefixed id. -/
theorem startsWith_drop_two {id front : String} :
    startsWith id (ownershipPrefixText front) = true ↔
      startsWith id "c-" = true ∧ startsWith (String.ofList (id.toList.drop 2))
      (front ++ "-") = true := by
  simp only [startsWith_iff, ownershipPrefixText]
  constructor
  · rintro ⟨rest, eq⟩
    refine ⟨⟨front.toList ++ '-' :: rest, by simpa using eq⟩, ⟨rest, ?_⟩⟩
    simp [eq]
  · rintro ⟨⟨tail, eq⟩, rest, behind⟩
    refine ⟨rest, ?_⟩
    have tails : tail = front.toList ++ '-' :: rest := by simpa [eq] using behind
    simp [eq, tails]

/-- A search for the owner among accepted ids finds the one client whose prefix matches. -/
theorem find_longestFirst_eq {ids : List String} {owner : String} {test : String → Bool}
    (mem : owner ∈ ids) (holds : test owner = true)
    (unique : ∀ other ∈ ids, test other = true → other = owner) :
    (longestFirst ids).find? test = some owner := by
  have perm : ∀ id, id ∈ longestFirst ids ↔ id ∈ ids := fun id =>
    (List.perm_insertionSort _ ids).mem_iff
  cases found : (longestFirst ids).find? test with
  | none => exact absurd holds (List.find?_eq_none.mp found owner ((perm owner).mpr mem))
  | some other =>
      have same := unique other ((perm other).mp (List.mem_of_find?_eq_some found))
        (List.find?_some found)
      rw [same]

/-- An id within the ceiling that carries an accepted client's prefix is that client's alone. -/
theorem namespaced_of_prefix {ids : List String} (accepted : AcceptedIds ids) {owner id : String}
    (mem : owner ∈ ids) (owned : startsWith id (ownershipPrefixText owner) = true)
    (fits : id.length ≤ clientOrderIdMaxLength) : Namespaced ids owner id := by
  have foreign : ∀ other ∈ ids, other ≠ owner →
      startsWith id (ownershipPrefixText other) = false := fun other hother ne =>
    Bool.eq_false_iff.mpr fun also => ne (prefix_unique accepted hother mem also owned)
  obtain ⟨leads, behind⟩ := startsWith_drop_two.mp owned
  have visible : blank id = false := by
    obtain ⟨tail, eq⟩ := startsWith_iff.mp leads
    simp [blank, eq, isSpace]
  have only : ∀ other ∈ ids,
      startsWith (String.ofList (id.toList.drop 2)) (other ++ "-") = true → other = owner :=
    fun other hother also =>
      prefix_unique accepted hother mem (startsWith_drop_two.mpr ⟨leads, also⟩) owned
  constructor
  · simp [clientOrderIdMatchesOwner, ownershipPrefix_of_safe (accepted.safe owner mem), owned,
      Except.map]
  · intro other hother ne
    simp [clientOrderIdMatchesOwner, ownershipPrefix_of_safe (accepted.safe other hother),
      foreign other hother ne, Except.map]
  · simp only [ownerFromClientOrderId, leads, if_true]
    exact find_longestFirst_eq mem behind only
  · have found : (longestFirst ids).find? (fun candidate => clientIdSafe candidate &&
        startsWith (String.ofList (id.toList.drop 2)) (candidate ++ "-")) = some owner :=
      find_longestFirst_eq mem (by simp [accepted.safe owner mem, behind])
        (fun other hother both => only other hother (Bool.and_eq_true_iff.mp both).2)
    simp [parseOwnerFromClientOrderId, leads, found]
  · simp [validateClientOrderId, visible, ownershipPrefix_of_safe (accepted.safe owner mem), owned,
      Nat.not_lt.mpr fits]
  · intro other hother ne
    simp [validateClientOrderId, visible, ownershipPrefix_of_safe (accepted.safe other hother),
      foreign other hother ne, leads]

/-- What validation returns carries the caller's prefix and fits the ceiling. -/
theorem validateClientOrderId_result {raw : Option String} {clientId id : String}
    (safe : clientIdSafe clientId = true)
    (returned : validateClientOrderId raw clientId = .ok (some id)) :
    startsWith id (ownershipPrefixText clientId) = true ∧ id.length ≤ clientOrderIdMaxLength := by
  cases raw with
  | none => simp [validateClientOrderId] at returned
  | some raw =>
      simp only [validateClientOrderId, ownershipPrefix_of_safe safe] at returned
      split at returned
      · simp at returned
      · split at returned
        · rename_i owned
          split at returned
          · simp at returned
          · rename_i fits
            obtain rfl : raw = id := by simpa using returned
            exact ⟨owned, Nat.not_lt.mp fits⟩
        · split at returned
          · simp at returned
          · split at returned
            · simp at returned
            · rename_i fits
              obtain rfl : ownershipPrefixText clientId ++ raw = id := by simpa using returned
              exact ⟨startsWith_append _ _, Nat.not_lt.mp fits⟩

/-- A generated id carries the caller's prefix and is 38 characters longer than the caller's id. -/
theorem generateClientOrderId_result {clientId id : String} {uuid : Uuid}
    (safe : clientIdSafe clientId = true)
    (generated : generateClientOrderId clientId uuid = .ok id) :
    startsWith id (ownershipPrefixText clientId) = true ∧ id.length = clientId.length + 38 := by
  obtain rfl : ownershipPrefixText clientId ++ gatewayClientOrderIdPrefix ++ uuid.hex = id := by
    simpa [generateClientOrderId, ownershipPrefix_of_safe safe, Except.map] using generated
  constructor
  · rw [String.append_assoc]
    exact startsWith_append _ _
  · have lengths : "c-".length = 2 ∧ "-".length = 1 ∧ "dg-".length = 3 := by decide
    simp only [ownershipPrefixText, gatewayClientOrderIdPrefix, String.length_append,
      uuid.length_hex]
    omega

/-- Every id the gateway puts on the wire for a client lies in that client's namespace. -/
def IdsStayNamespaced (ids : List String) (clientId : String) : Prop :=
  (∀ raw id, validateClientOrderId raw clientId = .ok (some id) →
    id.length ≤ clientOrderIdMaxLength ∧ Namespaced ids clientId id) ∧
  ∀ uuid id, generateClientOrderId clientId uuid = .ok id → Namespaced ids clientId id

/-- A generated id that overruns the ceiling is not accepted back from its own client. -/
theorem not_idsStayNamespaced_of_long {ids : List String} {clientId : String}
    (safe : clientIdSafe clientId = true) (long : 90 < clientId.length) :
    ¬ IdsStayNamespaced ids clientId := by
  intro stays
  let uuid : Uuid := ⟨"00000000000000000000000000000000", by decide⟩
  have generated : generateClientOrderId clientId uuid =
      .ok (ownershipPrefixText clientId ++ gatewayClientOrderIdPrefix ++ uuid.hex) := by
    simp [generateClientOrderId, ownershipPrefix_of_safe safe, Except.map]
  have fits := (validateClientOrderId_result safe (stays.2 uuid _ generated).accepted).2
  have longer := (generateClientOrderId_result safe generated).2
  simp only [clientOrderIdMaxLength] at fits
  omega

/-- The namespaces of the loaded clients are disjoint and closed under retry exactly for client ids
of at most 90 characters: a longer one makes generated ids overrun the ceiling. -/
theorem idsStayNamespaced_iff {entries : List (Option String)} {ids : List String}
    (loaded : loadClientIds entries = .ok ids) {clientId : String} (mem : clientId ∈ ids) :
    IdsStayNamespaced ids clientId ↔ clientId.length ≤ 90 := by
  have accepted := acceptedIds_of_load loaded
  have safe := accepted.safe clientId mem
  constructor
  · intro stays
    by_contra long
    exact not_idsStayNamespaced_of_long safe (Nat.not_le.mp long) stays
  · intro short
    refine ⟨fun raw id returned => ?_, fun uuid id generated => ?_⟩
    · obtain ⟨owned, fits⟩ := validateClientOrderId_result safe returned
      exact ⟨fits, namespaced_of_prefix accepted mem owned fits⟩
    · obtain ⟨owned, longer⟩ := generateClientOrderId_result safe generated
      refine namespaced_of_prefix accepted mem owned ?_
      simp only [clientOrderIdMaxLength]
      omega

theorem idsStayNamespaced_iff_atlas :
    IdsStayNamespaced ["atlas", "heber-watch"] "atlas" ↔ "atlas".length ≤ 90 := by
  have loaded : loadClientIds [some "atlas", some "heber-watch"] =
      .ok ["atlas", "heber-watch"] := by
    decide
  exact idsStayNamespaced_iff loaded (by decide)

/-- A client id of 91 characters that the authenticator loads. -/
def longClientId : String := String.ofList (List.replicate 91 'a')

theorem longClientId_toList : longClientId.toList = List.replicate 91 'a' := String.toList_ofList

theorem longClientId_safe : clientIdSafe longClientId = true := by
  have letter : isClientIdChar 'a' = true := by decide
  simp [clientIdSafe, longClientId_toList, letter, atEnd]

theorem longClientId_not_namespaced :
    loadClientIds [some longClientId] = .ok [longClientId] ∧
      ¬ IdsStayNamespaced [longClientId] longClientId := by
  have long : 90 < longClientId.length := by
    rw [← String.length_toList, longClientId_toList, List.length_replicate]
    decide
  have loaded : loadClientIds [some longClientId] = .ok [longClientId] := by
    have alone : hyphenConflict [longClientId] = none := by simp [hyphenConflict]
    simp only [loadClientIds, collectClientIds, longClientId_safe, insertKey, List.not_mem_nil,
      ↓reduceIte, List.nil_append, bind, Except.bind, alone]
  exact ⟨loaded, not_idsStayNamespaced_of_long longClientId_safe long⟩

end Trading
end DataGateway
