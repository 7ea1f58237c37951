import DataGateway.Middleware.SameQuestion
import DataGateway.Middleware.Writes

/-!
# Reads after writes

An entry of the cache has seen every write that has invalidated its key, as long as nothing computed
before such a write is stored after its invalidation.
-/

namespace DataGateway
namespace Middleware

open Coroutine Machine

/-! ## Paths -/

theorem startsWith_trans {text front first : String} (long : Text.startsWith text front = true)
    (short : Text.startsWith front first = true) : Text.startsWith text first = true := by
  obtain ⟨rest, text_eq⟩ := Text.startsWith_iff.mp long
  obtain ⟨middle, front_eq⟩ := Text.startsWith_iff.mp short
  exact Text.startsWith_iff.mpr ⟨middle ++ rest, by rw [text_eq, front_eq, List.append_assoc]⟩

/-- Nothing under `/api` is public. -/
theorem isPublicPath_api {path : String} (api : Text.startsWith path "/api" = true) :
    isPublicPath path = false := by
  obtain ⟨rest, path_eq⟩ := Text.startsWith_iff.mp api
  have second : path.toList[1]? = some 'a' := by
    rw [path_eq]
    rfl
  have exact_ : path ∉ publicExact := by
    intro mem
    have others : ∀ free ∈ publicExact, free.toList[1]? ≠ some 'a' := by decide +kernel
    exact others path mem second
  have health : Text.startsWith path "/health" = false := by
    by_contra health
    obtain ⟨rest, path_eq⟩ := Text.startsWith_iff.mp (eq_true_of_ne_false health)
    rw [path_eq] at second
    cases second
  rw [isPublicPath, health]
  simp [exact_]

/-- Every write that invalidates is under `/api`, and so is what it invalidates. -/
theorem api_of_invalidates {path front : String}
    (among : front ∈ invalidationPrefixesForWrite path) :
    Text.startsWith path "/api" = true ∧ Text.startsWith front "/api" = true := by
  have table : ∀ entry ∈ writeInvalidationNamespaces, Text.startsWith entry.1 "/api" = true ∧
      ∀ front ∈ entry.2, Text.startsWith front "/api" = true := by decide +kernel
  unfold invalidationPrefixesForWrite at among
  cases found : writeInvalidationNamespaces.find? fun entry => Text.startsWith path entry.1 with
  | none =>
      rw [found] at among
      cases among
  | some entry =>
      rw [found] at among
      obtain ⟨space, fronts⟩ := table entry (List.mem_of_find?_eq_some found)
      have named : Text.startsWith path entry.1 = true := by
        simpa using List.find?_some found
      exact ⟨startsWith_trans named space, fronts front among⟩

section Reads

variable {ι : Type} [DecidableEq ι] {maxSize defaultTtl : Nat} [PermissionDigest]
  (client : ClientInfo) (requests : ι → ClientRequest)

/-! ## What is claimed, and when it holds -/

/-- The write takes this key out of the cache. -/
def covers (write : ι) (key : String) : Bool :=
  match requests write with
  | .write path => invalidates client path key
  | .get _ _ _ => false

omit [DecidableEq ι] [PermissionDigest] in
/-- The read is under one of the prefixes of the write. -/
def Under (write read : ι) : Prop :=
  ∃ path readPath query bypass, requests write = .write path ∧
    requests read = .get readPath query bypass ∧
    ∃ front ∈ invalidationPrefixesForWrite path, Text.startsWith readPath front = true

/-- The key of a read. -/
def keyOf (read : ι) : String :=
  match requests read with
  | .get path query _ => cacheKey ⟨path, query, client⟩
  | .write _ => ""

/-! ## Where a request is -/

/-- How far a request has come. -/
inductive RequestStage (ι : Type)
  | waiting
  | begun
  | effected
  | holding (seen : Finset ι)

namespace RequestStage

/-- Where a request is after a command. -/
def next (stage : RequestStage ι) : (command : CacheCommand ι) → command.Reply → RequestStage ι
  | .start, _ => .begun
  | .lookup _, some body | .respond _ _, some body => .holding body.seen
  | .compute, some computed => .holding computed.seen
  | .takeEffect, _ => .effected
  | _, _ => stage

/-- What a request does where it is. -/
def promises (i : ι) (command : CacheCommand ι) (stage : RequestStage ι) : Prop :=
  match command with
  | .start => stage = .waiting
  | .lookup key => stage = .begun ∧ key = keyOf client requests i
  | .compute => stage = .begun
  | .respond key computed => stage = .holding computed.seen ∧ key = keyOf client requests i
  | .receive body => stage = .holding body.seen
  | .takeEffect => stage = .begun
  | .answer => stage = .effected
  | .handled => stage ≠ .waiting
  | .invalidate keyPredicate => keyPredicate = covers client requests i ∧ stage ≠ .waiting

end RequestStage

/-- What a request promises. -/
abbrev keepsStages (i : ι) : Contract (CacheCommand.Reply (ι := ι)) (RequestStage ι) :=
  .tracking RequestStage.next ⟨RequestStage.promises client requests i, fun _ _ _ => True⟩

variable {client requests}

omit [DecidableEq ι] in
theorem getRequest_meets {i : ι} {path query : String} {bypass : Bool}
    (request : requests i = .get path query bypass) :
    Meets (keepsStages client requests i) (fun _ _ => True) .waiting
      (getRequest ⟨path, query, client⟩ bypass) := by
  have key : cacheKey ⟨path, query, client⟩ = keyOf client requests i := by rw [keyOf, request]
  refine ⟨rfl, ?_⟩
  rintro _ _ ⟨rfl, -⟩
  split
  · refine ⟨rfl, ?_⟩
    rintro (_ | computed) _ ⟨rfl, -⟩
    · trivial
    · exact ⟨rfl, fun _ _ _ => trivial⟩
  · refine ⟨⟨rfl, key⟩, ?_⟩
    rintro (_ | body) _ ⟨rfl, -⟩
    · refine ⟨rfl, ?_⟩
      rintro (_ | computed) _ ⟨rfl, -⟩
      · trivial
      · refine ⟨⟨rfl, key⟩, ?_⟩
        rintro (_ | body) _ ⟨rfl, -⟩
        · trivial
        · exact ⟨rfl, fun _ _ _ => trivial⟩
    · exact ⟨rfl, fun _ _ _ => trivial⟩

omit [DecidableEq ι] in
theorem writeRequest_meets {i : ι} {path : String} (request : requests i = .write path) :
    Meets (keepsStages client requests i)
    (fun _ _ => True) .waiting (writeRequest client path) := by
  have covered : invalidates client path = covers client requests i := by
    funext key
    rw [covers, request]
  refine ⟨rfl, ?_⟩
  rintro _ _ ⟨rfl, -⟩
  refine ⟨rfl, ?_⟩
  rintro _ _ ⟨rfl, -⟩
  refine ⟨rfl, ?_⟩
  rintro code _ ⟨rfl, -⟩
  refine ⟨by rintro ⟨⟩, ?_⟩
  rintro (_ | _) _ ⟨rfl, -⟩
  · trivial
  · dsimp only
    split
    · trivial
    · split
      · exact ⟨⟨covered, by rintro ⟨⟩⟩, fun _ _ _ => trivial⟩
      · trivial

omit [DecidableEq ι] in
theorem clientRequest_meets (i : ι) :
    Meets (keepsStages client requests i) (fun _ _ => True) .waiting
      (clientRequest client (requests i)) := by
  cases request : requests i with
  | get path query bypass => exact getRequest_meets request
  | write path => exact writeRequest_meets request

/-! ## The invariant -/

variable (client requests) (defaultTtl) in
/-- Everything that was stored has seen the writes that invalidated its key since, and what a read
holds has seen the writes that were answered before it. -/
structure Fresh (world : ReadWorld ι) (stages : ι → RequestStage ι) : Prop where
  past : ∀ event ∈ world.history, event.1 ≤ world.now
  stored : ∀ key kept expires, Cache.LastSet defaultTtl world.history key kept expires →
    ∀ write ∈ world.settled, covers client requests write key = true → write ∈ kept.seen
  answered : world.answered ⊆ world.effected
  due : ∀ i, world.due i ⊆ world.answered
  effected : ∀ i, stages i = .effected → i ∈ world.effected
  holding : ∀ i seen, stages i = .holding seen →
    ∀ write ∈ world.due i, covers client requests write (keyOf client requests i) = true →
      write ∈ seen
  received : ∀ i body, (i, body) ∈ world.received →
    ∀ write ∈ world.due i, covers client requests write (keyOf client requests i) = true →
      write ∈ body.seen
  waiting : ∀ i, stages i = .waiting → ∀ body, (i, body) ∉ world.received

namespace Fresh

variable {world after : ReadWorld ι} {stages : ι → RequestStage ι} {i : ι}

theorem start (fresh : Fresh defaultTtl client requests world stages)
    (waits : stages i = .waiting) :
    Fresh defaultTtl client requests
      { world with due := Function.update world.due i world.answered }
      (Function.update stages i .begun) := by
  refine ⟨fresh.past, fresh.stored, fresh.answered, fun j => ?_, fun j stage => ?_,
    fun j seen stage => ?_, fun j body mem => ?_, fun j stage => ?_⟩
  · by_cases same : j = i
    · subst same
      simp
    · simpa [same] using fresh.due j
  · by_cases same : j = i
    · subst same
      simp at stage
    · exact fresh.effected j (by simpa [same] using stage)
  · by_cases same : j = i
    · subst same
      simp at stage
    · simpa [same] using fresh.holding j seen (by simpa [same] using stage)
  · by_cases same : j = i
    · subst same
      exact absurd mem (fresh.waiting j waits body)
    · simpa [same] using fresh.received j body mem
  · by_cases same : j = i
    · subst same
      simp at stage
    · exact fresh.waiting j (by simpa [same] using stage)

/-- A command that leaves the reads alone moves a request that is on its way. -/
theorem moved {stage : RequestStage ι} (fresh : Fresh defaultTtl client requests world stages)
    (begun : stage ≠ .waiting) (effected : stage = .effected → i ∈ world.effected)
    (holding : ∀ seen, stage = .holding seen → ∀ write ∈ world.due i,
      covers client requests write (keyOf client requests i) = true → write ∈ seen) :
    Fresh defaultTtl client requests world (Function.update stages i stage) := by
  refine ⟨fresh.past, fresh.stored, fresh.answered, fresh.due, fun j stages_j => ?_,
    fun j seen stages_j => ?_, fresh.received, fun j stages_j => ?_⟩
  · by_cases same : j = i
    · subst same
      exact effected (by simpa using stages_j)
    · exact fresh.effected j (by simpa [same] using stages_j)
  · by_cases same : j = i
    · subst same
      exact holding seen (by simpa using stages_j)
    · exact fresh.holding j seen (by simpa [same] using stages_j)
  · by_cases same : j = i
    · subst same
      exact absurd (by simpa using stages_j) begun
    · exact fresh.waiting j (by simpa [same] using stages_j)

/-- A request that stays where it is. -/
theorem stayed (fresh : Fresh defaultTtl client requests world stages) :
    Fresh defaultTtl client requests world (Function.update stages i (stages i)) := by
  rwa [Function.update_eq_self]

omit [DecidableEq ι] in
/-- A call of the cache that sets nothing older. -/
theorem called (fresh : Fresh defaultTtl client requests world stages)
    {operation : Cache.Operation String (Kept ι) Nat}
    (sets : ∀ key kept ttl, operation = .set key kept ttl → ∀ write ∈ world.settled,
      covers client requests write key = true → write ∈ kept.seen) :
    Fresh defaultTtl client requests (world.call operation) stages := by
  refine ⟨?_, fun key kept expires last => ?_, fresh.answered, fresh.due, fresh.effected,
    fresh.holding, fresh.received, fresh.waiting⟩
  · exact List.forall_mem_cons.mpr ⟨le_rfl, fresh.past⟩
  · cases last with
    | here => exact sets _ _ _ rfl
    | earlier _ last => exact fresh.stored key kept expires last

omit [DecidableEq ι] in
theorem storeAll {middleware : CacheMiddleware} {key : String} {seen : Finset ι}
    {entries : List CacheEntry} (fresh : Fresh defaultTtl client requests world stages)
    (since : entries = [] ∨ ∀ write ∈ world.settled,
      covers client requests write key = true → write ∈ seen) :
    Fresh defaultTtl client requests (world.storeAll middleware key seen entries) stages := by
  rcases since with rfl | since
  · exact fresh
  · have from_ (entries : List CacheEntry) (world : ReadWorld ι)
        (fresh : Fresh defaultTtl client requests world stages)
        (since : ∀ write ∈ world.settled, covers client requests write key = true →
          write ∈ seen) :
        Fresh defaultTtl client requests (world.storeAll middleware key seen entries) stages := by
      induction entries generalizing world with
      | nil => exact fresh
      | cons entry entries ih =>
          refine ih _ (fresh.called ?_) since
          rintro _ _ _ ⟨⟩
          exact since
    exact from_ entries world fresh since

/-- After an invalidation nothing is left under the keys that it covers. -/
theorem invalidated (fresh : Fresh defaultTtl client requests world stages) :
    Fresh defaultTtl client requests
      { world.call (.invalidateMatching (covers client requests i)) with
        settled := insert i world.settled } stages := by
  have called : Fresh defaultTtl client requests
      (world.call (.invalidateMatching (covers client requests i))) stages :=
    fresh.called (by rintro _ _ _ ⟨⟩)
  refine ⟨called.past, fun key kept expires last write settled covered => ?_,
    fresh.answered, fresh.due, fresh.effected, fresh.holding, fresh.received, fresh.waiting⟩
  rcases Finset.mem_insert.mp settled with rfl | settled
  · cases last with
    | earlier kept _ => exact absurd covered kept
  · exact called.stored key kept expires last write settled covered

omit [DecidableEq ι] in
/-- What a lookup finds has seen every write that was answered before its read, once they
have all been settled. -/
theorem found [Lowercase] {T : Cache.TTLCache String (Kept ι) Nat maxSize defaultTtl} {key : String}
    {kept : Kept ι} (fresh : Fresh defaultTtl client requests world stages)
    (punctual : ∀ write ∈ world.due i, covers client requests write key = true →
      write ∈ world.settled)
    (held : ((world.cache T).get world.now key).1 = some kept) :
    ∀ write ∈ world.due i, covers client requests write key = true → write ∈ kept.seen := by
  intro write due covered
  obtain ⟨-, -, gets, -⟩ :=
    Cache.InMemoryCache.cache_stays_consistent T world.history world.now fresh.past
  obtain ⟨expires, last, -⟩ := gets key kept held
  exact fresh.stored key kept expires last write (punctual write due covered) covered

end Fresh

/-! ## Reads under a write -/

omit [DecidableEq ι] in
/-- The keys of the reads under a write are among those that it takes out. -/
theorem covers_of_under {write read : ι} (under : Under requests write read) :
    covers client requests write (keyOf client requests read) = true := by
  obtain ⟨path, readPath, query, bypass, written, asked, front, among, starts⟩ := under
  obtain ⟨api, api'⟩ := api_of_invalidates among
  have scope :
      clientCacheScope ⟨path, "", client⟩ = clientCacheScope ⟨readPath, query, client⟩ := by
    rw [clientCacheScope, clientCacheScope, isPublicPath_api api,
      isPublicPath_api (startsWith_trans starts api')]
  rw [covers, written, keyOf, asked]
  simp only [invalidates, Bool.and_eq_true]
  refine ⟨?_, List.any_eq_true.mpr ⟨front, among, ?_⟩⟩
  · rw [endsWith, List.isSuffixOf_iff_suffix, scope]
    refine ⟨("GET" ++ ":" ++ readPath ++ ":" ++ query).toList, ?_⟩
    simp [cacheKey]
  · obtain ⟨rest, same⟩ := Text.startsWith_iff.mp starts
    refine Text.startsWith_iff.mpr ⟨rest ++ (":" ++ query ++ ":" ++
      clientCacheScope ⟨readPath, query, client⟩).toList, ?_⟩
    simp [cacheKey, same]

/-! ## Every run -/

section Runs

variable [Lowercase] (T : Cache.TTLCache String (Kept ι) Nat maxSize defaultTtl)
  (middleware : CacheMiddleware)

variable (client requests) in
/-- A read that started after the response of a write looks up after its invalidation, and what is
stored after an invalidation was computed after the write. -/
def punctual : Policy (readsAndWrites T middleware) where
  allows i command _ world := match command with
    | .lookup key =>
        ∀ write ∈ world.due i, covers client requests write key = true → write ∈ world.settled
    | .respond key computed =>
        CacheMiddleware.stored (middleware.respond world.now computed.response).1 = [] ∨
          ∀ write ∈ world.settled, covers client requests write key = true →
            write ∈ computed.seen
    | _ => True
  permits _ _ := True

variable {T middleware} {world after : ReadWorld ι} {stages : ι → RequestStage ι}

/-- Every command that is punctual keeps the cache fresh. -/
theorem Fresh.perform {i : ι} {command : CacheCommand ι} {outcome : command.Outcome}
    {reply : command.Reply} (fresh : Fresh defaultTtl client requests world stages)
    (promised : RequestStage.promises client requests i command (stages i))
    (allowed : (punctual client requests T middleware).allows i command outcome world)
    (performed : world.perform T middleware i command outcome = some (reply, after)) :
    Fresh defaultTtl client requests after
      (Function.update stages i ((stages i).next command reply)) := by
  cases command with
  | start =>
      cases performed
      exact fresh.start promised
  | lookup key =>
      obtain ⟨begun, rfl⟩ := promised
      obtain ⟨answer, rfl⟩ := Prod.mk.inj (Option.some.inj performed)
      have called :
          Fresh defaultTtl client requests (world.call (.get (keyOf client requests i))) stages :=
        fresh.called (by rintro _ _ _ ⟨⟩)
      cases reply with
      | none => exact called.stayed
      | some body =>
          obtain ⟨kept, got, served⟩ := Option.bind_eq_some_iff.mp answer
          obtain ⟨content, -, rfl⟩ := Option.map_eq_some_iff.mp served
          have found := fresh.found allowed got
          refine called.moved (by rintro ⟨⟩) (by rintro ⟨⟩) ?_
          rintro _ ⟨⟩
          exact found
  | compute =>
      cases performed
      cases outcome with
      | none => exact fresh.stayed
      | some response =>
          refine fresh.moved (by rintro ⟨⟩) (by rintro ⟨⟩) ?_
          rintro _ ⟨⟩ write due -
          exact fresh.answered (fresh.due i due)
  | respond key computed =>
      obtain ⟨holds, rfl⟩ := promised
      have stored : Fresh defaultTtl client requests (world.storeAll middleware _ _ _) stages :=
        fresh.storeAll allowed
      obtain ⟨answer, rfl⟩ := Prod.mk.inj (Option.some.inj performed)
      cases reply with
      | none => exact stored.stayed
      | some body =>
          refine stored.moved (by rintro ⟨⟩) (by rintro ⟨⟩) ?_
          rintro _ ⟨⟩
          obtain ⟨-, same⟩ := Option.ite_none_left_eq_some.mp answer
          obtain rfl := Option.some.inj same
          exact stored.holding i computed.seen holds
  | receive body =>
      cases performed
      refine Fresh.stayed ⟨fresh.past, fresh.stored, fresh.answered, fresh.due, fresh.effected,
        fresh.holding, fun j other mem => ?_, fun j waits other mem => ?_⟩
      · rcases List.mem_cons.mp mem with same | earlier
        · cases same
          exact fresh.holding i body.seen promised
        · exact fresh.received j other earlier
      · rcases List.mem_cons.mp mem with same | earlier
        · cases same
          rw [promised] at waits
          cases waits
        · exact fresh.waiting j waits other earlier
  | takeEffect =>
      cases performed
      have grown : Fresh defaultTtl client requests
          { world with effected := insert i world.effected } stages :=
        ⟨fresh.past, fresh.stored, fresh.answered.trans (Finset.subset_insert _ _), fresh.due,
          fun j stage => Finset.mem_insert_of_mem (fresh.effected j stage), fresh.holding,
          fresh.received, fresh.waiting⟩
      exact grown.moved (by rintro ⟨⟩) (fun _ => Finset.mem_insert_self _ _) (by rintro _ ⟨⟩)
  | answer =>
      cases performed
      refine Fresh.stayed ?_
      split
      · exact ⟨fresh.past, fresh.stored,
          Finset.insert_subset (fresh.effected i promised) fresh.answered,
          fun j => (fresh.due j).trans (Finset.subset_insert _ _), fresh.effected, fresh.holding,
          fresh.received, fresh.waiting⟩
      · exact fresh
  | handled =>
      cases performed
      exact fresh.stayed
  | invalidate keyPredicate =>
      obtain ⟨rfl, -⟩ := promised
      cases performed
      refine Fresh.stayed ?_
      split
      · exact fresh.invalidated
      · exact fresh

/-- In every run in which reads that start after the response of a write look up after its
invalidation, and nothing computed before a write is stored after its invalidation, a read that
starts after the response of a write under whose prefixes it is receives a body that was
computed after the write. -/
theorem no_stale_read_after_write
    {final : Config ι (CacheCommand.Reply (ι := ι)) Unit Unit (ReadWorld ι)}
    (reach : Reaches (punctual client requests T middleware) (requesting client requests) final) :
    ∀ read body, (read, body) ∈ final.world.received →
      ∀ write ∈ final.world.due read, Under requests write read → write ∈ body.seen := by
  have act : ∀ (world : ReadWorld ι) (stages : ι → RequestStage ι) i command outcome reply after,
      Fresh defaultTtl client requests world stages →
      (keepsStages client requests i).may command (stages i) →
      (punctual client requests T middleware).allows i command outcome world →
      (readsAndWrites T middleware).perform i command outcome world = some (reply, after) →
      ∃ next, (keepsStages client requests i).after command (stages i) reply next ∧
        Fresh defaultTtl client requests after (Function.update stages i next) :=
    fun _ _ _ _ _ _ _ fresh promised allowed performed =>
      ⟨_, ⟨rfl, trivial⟩, fresh.perform promised allowed performed⟩
  have calm : ∀ (world : ReadWorld ι) (stages : ι → RequestStage ι) (passed : Nat),
      Fresh defaultTtl client requests world stages → True →
      Fresh defaultTtl client requests { world with now := world.now + passed } stages :=
    fun _ _ passed fresh _ => ⟨fun event mem => (fresh.past event mem).trans (Nat.le_add_right _ _),
      fresh.stored, fresh.answered, fresh.due, fresh.effected, fresh.holding, fresh.received,
      fresh.waiting⟩
  have start : Fresh defaultTtl client requests (.initial : ReadWorld ι) fun _ => .waiting := by
    refine ⟨by rintro _ ⟨⟩, ?_, Finset.Subset.refl _, fun _ => Finset.Subset.refl _,
      by rintro _ ⟨⟩, by rintro _ _ ⟨⟩, by rintro _ _ ⟨⟩, by rintro _ - _ ⟨⟩⟩
    rintro _ _ _ ⟨⟩
  obtain ⟨stages, fresh, -⟩ := reach.invariant act calm start clientRequest_meets
  intro read body mem write due under
  exact fresh.received read body mem write due (covers_of_under under)

instance : (punctual client requests T middleware).Decides where
  act i command _ world := by
    cases command with
    | lookup key =>
        exact inferInstanceAs (Decidable (∀ write ∈ world.due i,
          covers client requests write key = true → write ∈ world.settled))
    | respond key computed =>
        exact inferInstanceAs (Decidable
          (CacheMiddleware.stored (middleware.respond world.now computed.response).1 = [] ∨
            ∀ write ∈ world.settled, covers client requests write key = true →
              write ∈ computed.seen))
    | start | compute | receive _ | takeEffect | answer | handled | invalidate _ =>
        exact inferInstanceAs (Decidable True)
  calm _ _ := inferInstanceAs (Decidable True)

end Runs

end Reads

/-! ## A read between a response and its invalidation -/

/-- Orders are read, placed, and read again. -/
def orderRequests : Nat → ClientRequest
  | 1 => .write "/api/v1/alpaca/orders"
  | _ => .get "/api/v1/alpaca/orders" "" false

/-- The application answers every read, and a write with 201. -/
def orderAnswer : (command : CacheCommand Nat) → command.Outcome
  | .start => ()
  | .lookup _ => ()
  | .compute => some emptyResponse
  | .respond _ _ => ()
  | .receive _ => ()
  | .takeEffect => ()
  | .answer => (201, true)
  | .handled => true
  | .invalidate _ => true

/-- The gateway with a small cache and the letters of ASCII. -/
@[reducible] def orderMachine : Machine Nat (CacheCommand.Reply (ι := Nat)) (ReadWorld Nat) :=
  @readsAndWrites Nat _ 2 300 asciiLowercase
    (Cache.dictTTLCache String (Kept Nat) Nat 2 300) ⟨60, 524288⟩

/-- So many commands of a request. -/
def commands (count request : Nat) : List (Turn orderMachine) :=
  List.replicate count (.run request orderAnswer)

/-- The requests of somebody. -/
def orders : Config Nat (CacheCommand.Reply (ι := Nat)) Unit Unit (ReadWorld Nat) :=
  @requesting Nat zeroDigest someClient orderRequests

/-- The writes that each received body has seen, and the writes that the third
request has to see. -/
def ReadWorld.seen (world : ReadWorld Nat) : List (Nat × Finset Nat) × Finset Nat :=
  (world.received.map fun (read, body) => (read, body.seen), world.due 2)

/-- A read that starts after a write was answered, and before its invalidation has run, is served
what was stored before the write. -/
theorem read_before_invalidation_is_stale :
    ∃ final, Reaches (.free orderMachine) orders final ∧
      ∃ read body, (read, body) ∈ final.world.received ∧
        ∃ write ∈ final.world.due read, Under orderRequests write read ∧ write ∉ body.seen := by
  have played :
      (orders.play (.free orderMachine) (commands 5 0 ++ commands 3 1 ++ commands 3 2)).map
      (fun final => final.world.seen) = some ([(2, ∅), (0, ∅)], {1}) := by decide +kernel
  obtain ⟨final, ran, seen⟩ := Option.map_eq_some_iff.mp played
  obtain ⟨bodies, due⟩ := Prod.mk.inj seen
  obtain ⟨⟨read, body⟩, rest, received, same, -⟩ := List.map_eq_cons_iff.mp bodies
  obtain ⟨rfl, unseen⟩ := Prod.mk.inj same
  refine ⟨final, Config.play_reaches ran, 2, body,
    by rw [received]; exact List.mem_cons_self, 1, ?_, ?_, ?_⟩
  · rw [due]
    exact Finset.mem_singleton_self 1
  · exact ⟨_, _, _, _, rfl, rfl, "/api/v1/alpaca/orders", by decide +kernel, by decide +kernel⟩
  · rw [unseen]
    exact Finset.notMem_empty 1

/-- A read that starts after the invalidation has seen the write. -/
theorem read_after_invalidation_is_fresh :
    ∃ final, Reaches (@punctual Nat _ 2 300 zeroDigest someClient orderRequests asciiLowercase
        (Cache.dictTTLCache String (Kept Nat) Nat 2 300) ⟨60, 524288⟩) orders final ∧
      ∃ body, (2, body) ∈ final.world.received ∧ 1 ∈ body.seen := by
  let _ := zeroDigest
  let _ := asciiLowercase
  have played : (orders.play (punctual someClient orderRequests
      (Cache.dictTTLCache String (Kept Nat) Nat 2 300) ⟨60, 524288⟩)
      (commands 5 0 ++ commands 5 1 ++ commands 5 2)).map
        (fun final => (final.world.received.map Prod.fst, final.world.due 2)) =
      some ([2, 0], {1}) := by decide +kernel
  obtain ⟨final, ran, seen⟩ := Option.map_eq_some_iff.mp played
  obtain ⟨bodies, due⟩ := Prod.mk.inj seen
  obtain ⟨⟨read, body⟩, rest, received, rfl, -⟩ := List.map_eq_cons_iff.mp bodies
  have mem : (2, body) ∈ final.world.received := by
    rw [received]
    exact List.mem_cons_self
  have reach := Config.play_reaches ran
  refine ⟨final, reach, body, mem, no_stale_read_after_write reach 2 body mem 1 ?_ ?_⟩
  · rw [due]
    exact Finset.mem_singleton_self 1
  · exact ⟨_, _, _, _, rfl, rfl, "/api/v1/alpaca/orders", by decide +kernel, by decide +kernel⟩

end Middleware
end DataGateway
