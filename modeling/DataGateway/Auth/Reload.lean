import DataGateway.Auth.Clients

/-!
# Reloading the clients

A reload ends with the tables of the whole new file or with the previous ones, except that a
missing file empties them.
-/

namespace DataGateway

namespace Auth

open Trading (hyphenConflict)

variable {Scalar : Type}

/-- What an entry of the file says. -/
structure ClientEntry (Scalar : Type) where
  id : String
  client : Client Scalar
  key : Option (YamlKey Scalar)
  keyHash : Option String

namespace ClientAuthenticator

variable [DecidableEq Scalar]

/-- The maps hold exactly the clients and keys of some entries; of two entries for one client or one
key the last one counts. -/
structure Serves (entries : List (ClientEntry Scalar))
    (auth : ClientAuthenticator Scalar) : Prop where
  clients : ∀ id, auth.clients.get? id = (entries.reverse.find? (·.id = id)).map (·.client)
  plaintextKeys :
  ∀ key, auth.plaintextKeys.get? key = (entries.reverse.find? (·.key = some key)).map (·.id)
  hashedKeys : ∀ keyHash,
    auth.hashedKeys.get? keyHash = (entries.reverse.find? (·.keyHash = some keyHash)).map (·.id)

/-- The maps with one more entry. -/
def install (auth : ClientAuthenticator Scalar) (entry : ClientEntry Scalar) :
    ClientAuthenticator Scalar :=
  (({ auth with clients := auth.clients.set entry.id entry.client }).setPlaintextKey entry.key
    entry.id).setHashedKey entry.keyHash entry.id

@[simp]
theorem clients_install (auth : ClientAuthenticator Scalar) (entry : ClientEntry Scalar) :
    (auth.install entry).clients = auth.clients.set entry.id entry.client := by
  unfold install setHashedKey setPlaintextKey
  cases entry.key <;> cases entry.keyHash <;> rfl

theorem get?_plaintextKeys_install (auth : ClientAuthenticator Scalar) (entry : ClientEntry Scalar)
    (key : YamlKey Scalar) : (auth.install entry).plaintextKeys.get? key =
      if entry.key = some key then some entry.id else auth.plaintextKeys.get? key := by
  unfold install setHashedKey setPlaintextKey
  cases entry.key <;> cases entry.keyHash <;> simp [OrderedDict.get?_set, eq_comm]

theorem get?_hashedKeys_install (auth : ClientAuthenticator Scalar) (entry : ClientEntry Scalar)
    (keyHash : String) : (auth.install entry).hashedKeys.get? keyHash =
      if entry.keyHash = some keyHash then some entry.id else auth.hashedKeys.get? keyHash := by
  unfold install setHashedKey setPlaintextKey
  cases entry.key <;> cases entry.keyHash <;> simp [OrderedDict.get?_set, eq_comm]

/-- One more entry counts before the earlier ones. -/
theorem Serves.install {entries : List (ClientEntry Scalar)} {auth : ClientAuthenticator Scalar}
    (serves : Serves entries auth) (entry : ClientEntry Scalar) :
    Serves (entries ++ [entry]) (auth.install entry) where
  clients id := by
    rw [clients_install, OrderedDict.get?_set, serves.clients, List.reverse_append,
      List.reverse_singleton, List.singleton_append, List.find?_cons]
    by_cases same : entry.id = id
    · simp [same]
    · simp [same, Ne.symm same]
  plaintextKeys key := by
    rw [get?_plaintextKeys_install, serves.plaintextKeys, List.reverse_append,
      List.reverse_singleton, List.singleton_append, List.find?_cons]
    by_cases same : entry.key = some key <;> simp [same]
  hashedKeys keyHash := by
    rw [get?_hashedKeys_install, serves.hashedKeys, List.reverse_append, List.reverse_singleton,
      List.singleton_append, List.find?_cons]
    by_cases same : entry.keyHash = some keyHash <;> simp [same]

theorem serves_empty : Serves [] (empty : ClientAuthenticator Scalar) :=
  ⟨fun _ => rfl, fun _ => rfl, fun _ => rfl⟩

/-- Some pair of ids conflicts; how often and where they are listed does not matter. -/
theorem hyphenConflict_isSome {ids others : List String} (same : ∀ id, id ∈ ids ↔ id ∈ others) :
    (hyphenConflict ids).isSome = (hyphenConflict others).isSome := by
  have pair (list : List String) : (hyphenConflict list).isSome ↔
      ∃ a ∈ list, ∃ b ∈ list, a ≠ b ∧ Text.startsWith b (a ++ "-") := by
    simp [hyphenConflict, List.findSome?_isSome_iff]
  rw [Bool.eq_iff_iff, pair, pair]
  simp only [same]

/-- The ids of the table are those of the entries. -/
theorem Serves.mem_clients {entries : List (ClientEntry Scalar)} {auth : ClientAuthenticator Scalar}
    (serves : Serves entries auth) (id : String) :
    id ∈ auth.clients.items.map Prod.fst ↔ id ∈ entries.map (·.id) := by
  have held : id ∈ auth.clients.items.map Prod.fst ↔ auth.clients.get? id ≠ none := by
    rw [List.mem_map, Option.ne_none_iff_exists']
    constructor
    · rintro ⟨item, mem, rfl⟩
      exact ⟨item.2, OrderedDict.get?_eq_some.mpr mem⟩
    · rintro ⟨client, held⟩
      exact ⟨(id, client), OrderedDict.get?_eq_some.mp held, rfl⟩
  rw [held, serves.clients]
  simp

variable [YamlValues Scalar]

/-- What an entry says, if it is well formed. -/
def readEntry (clientData : Yaml Scalar) : Except LoadError (ClientEntry Scalar) :=
  match readClientId clientData with
  | .error error => .error error
  | .ok id =>
      match readClient clientData id, readKey clientData, readKeyHash clientData with
      | .ok client, .ok key, .ok keyHash => .ok ⟨id, client, key, keyHash⟩
      | .error error, _, _ => .error error
      | .ok _, .error error, _ => .error error
      | .ok _, .ok _, .error error => .error error

/-- The entries of a complete file: each of them is well formed, and no id is a hyphen-prefix of
another. -/
def fileEntries : ConfigFile Scalar → Option (List (ClientEntry Scalar))
  | .absent => none
  | .unreadable => none
  | .document config =>
      match config.get "clients" with
      | .error _ => none
      | .ok clients =>
          match (clients.getD (.list [])).iterated with
          | .error _ => none
          | .ok data =>
              match data.mapM readEntry with
              | .error _ => none
              | .ok entries =>
                  if (hyphenConflict (entries.map (·.id))).isSome then none else some entries

/-- An entry is installed as a whole or raises. -/
theorem loadEntry_eq (auth : ClientAuthenticator Scalar) (clientData : Yaml Scalar) :
    (∃ entry, readEntry clientData = .ok entry ∧
      auth.loadEntry clientData = (auth.install entry, none)) ∨
      ∃ error partial_, readEntry clientData = .error error ∧
        auth.loadEntry clientData = (partial_, some error) := by
  unfold loadEntry readEntry
  cases readClientId clientData with
  | error error => exact .inr ⟨error, _, rfl, rfl⟩
  | ok id =>
      dsimp only
      cases readClient clientData id with
      | error error => exact .inr ⟨error, _, rfl, rfl⟩
      | ok client =>
          cases readKey clientData with
          | error error => exact .inr ⟨error, _, rfl, rfl⟩
          | ok key =>
              cases readKeyHash clientData with
              | error error => exact .inr ⟨error, _, rfl, rfl⟩
              | ok keyHash => exact .inl ⟨_, rfl, rfl⟩

/-- The loop installs all entries or raises. -/
theorem loadEntries_eq {done : List (ClientEntry Scalar)} {auth : ClientAuthenticator Scalar}
    (serves : Serves done auth) (data : List (Yaml Scalar)) :
    (∃ entries loaded, data.mapM readEntry = .ok entries ∧ auth.loadEntries data = (loaded, none) ∧
      Serves (done ++ entries) loaded) ∨
      ∃ error partial_, data.mapM readEntry = .error error ∧
        auth.loadEntries data = (partial_, some error) := by
  induction data generalizing done auth with
  | nil => exact .inl ⟨[], auth, rfl, rfl, by simpa using serves⟩
  | cons clientData rest ih =>
      rw [List.mapM_cons, loadEntries]
      rcases loadEntry_eq auth clientData with ⟨entry, read, loaded⟩ |
        ⟨error, partial_, read, raised⟩
      · rw [read, loaded]
        rcases ih (serves.install entry) with ⟨entries, last, all, run, held⟩ |
          ⟨error, partial_, bad, run⟩
        · exact .inl ⟨entry :: entries, last, by rw [all]; rfl, run, by simpa using held⟩
        · exact .inr ⟨error, partial_, by rw [bad]; rfl, run⟩
      · rw [read, raised]
        exact .inr ⟨error, partial_, rfl, rfl⟩

/-- A file is loaded as a whole, or the loader raises. -/
theorem loadClients_eq (file : ConfigFile Scalar) (there : file ≠ .absent) :
    (∃ entries loaded, fileEntries file = some entries ∧ empty.loadClients file = (loaded, none) ∧
      Serves entries loaded) ∨
      ∃ error partial_, fileEntries file = none ∧
        empty.loadClients file = (partial_, some error) := by
  cases file with
  | absent => exact absurd rfl there
  | unreadable => exact .inr ⟨_, _, rfl, rfl⟩
  | document config =>
      simp only [fileEntries, loadClients]
      cases config.get "clients" with
      | error error => exact .inr ⟨error, _, rfl, rfl⟩
      | ok clients =>
          dsimp only
          cases (clients.getD (.list [])).iterated with
          | error error => exact .inr ⟨error, _, rfl, rfl⟩
          | ok data =>
              dsimp only
              rcases loadEntries_eq serves_empty data with
                ⟨entries, loaded, read, run, serves⟩ | ⟨error, partial_, read, run⟩
              · have conflicts := hyphenConflict_isSome serves.mem_clients
                rw [read, run]
                dsimp only
                rw [List.nil_append] at conflicts serves
                cases found : hyphenConflict (loaded.clients.items.map Prod.fst) with
                | none =>
                    rw [found] at conflicts
                    exact .inl ⟨entries, loaded, if_neg (by simp [← conflicts]), rfl, serves⟩
                | some pair =>
                    rw [found] at conflicts
                    exact .inr ⟨_, loaded, if_pos conflicts.symm, rfl⟩
              · exact .inr ⟨error, partial_, by rw [read], by rw [run]⟩

/-- A reload installs the complete file or keeps the three maps if and only if the file is there or
nothing was loaded before. -/
theorem reload_atomic_iff (auth : ClientAuthenticator Scalar) (file : ConfigFile Scalar) :
    ((∃ entries, fileEntries file = some entries ∧ Serves entries (auth.reload file).1) ∨
        (auth.reload file).1 = auth) ↔
      (file = .absent → auth = empty) := by
  by_cases there : file = .absent
  · subst there
    constructor
    · rintro (⟨entries, none_, -⟩ | kept) _
      · cases none_
      · exact kept.symm
    · intro nothing
      exact .inr (nothing rfl).symm
  · refine ⟨fun _ absent => absurd absent there, fun _ => ?_⟩
    rcases loadClients_eq file there with ⟨entries, loaded, read, run, serves⟩ |
      ⟨error, partial_, -, run⟩
    · exact .inl ⟨entries, read, by rwa [reload, run]⟩
    · exact .inr (by rw [reload, run])

/-- Files whose scalars are all texts. -/
instance textsOnly : YamlValues Empty where
  truthy value := value.elim
  items value := value.elim
  strLower
    | .text value => value.toLower
    | _ => ""

/-- A file with one client. -/
def oneClient : ConfigFile Empty :=
  .document (.map [(.text "clients",
    .list [.map [(.text "id", .text "heber"), (.text "key", .text "secret")]])])

/-- Without its file a loaded client is gone after a reload that reports success. -/
theorem missing_file_empties_the_table :
    let auth := (empty.loadClients oneClient).1
    (auth.clients.get? "heber").isSome ∧ auth.plaintextKeys.get? (.text "secret") = some "heber" ∧
      ((auth.reload .absent).1.clients.get? "heber").isNone ∧
      (auth.reload .absent).1.plaintextKeys.get? (.text "secret") = none ∧
      (auth.reload .absent).2 = none := by
  decide

end ClientAuthenticator

end Auth
end DataGateway
