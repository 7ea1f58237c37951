import DataGateway.Middleware.Buffering

/-!
# What a client receives

A response that is handed on arrives as it was sent.  A response that is kept for the cache arrives
with its last chunk only, while the whole body is stored.
-/

namespace DataGateway
namespace Middleware

section Responses

variable [Lowercase]

/-- A content type that is looked at can be read. -/
def ContentTypeReadable (head : ResponseHead) : Prop :=
  head.status = 200 → decodeUtf8 ((head.header "content-type").getD []) ≠ none

theorem contentType_eq_none {head : ResponseHead} :
    contentType head = none ↔ decodeUtf8 ((head.header "content-type").getD []) = none := by
  rw [contentType, Option.map_eq_none_iff]

namespace CacheMiddleware

variable {middleware : CacheMiddleware} {now : Nat} {response : AppResponse}

/-- Every header that is cached can be read. -/
def HeadersReadable (headers : List (Bytes × Bytes)) : Prop :=
  ∀ header ∈ headers, lowerBytes header.1 ∉ hopByHop →
    decodeUtf8 header.1 ≠ none ∧ decodeUtf8 header.2 ≠ none

omit [Lowercase] in
/-- The headers are cached exactly when they can all be read. -/
theorem cachedHeaders_isSome {headers : List (Bytes × Bytes)} :
    (cachedHeaders headers).isSome ↔ HeadersReadable headers := by
  unfold cachedHeaders
  generalize OrderedDict.empty = cached
  induction headers generalizing cached with
  | nil => simp [HeadersReadable]
  | cons header headers ih =>
      rw [HeadersReadable, List.forall_mem_cons, ← HeadersReadable, List.foldlM_cons]
      split
      next hop =>
        rw [Option.bind_eq_bind, Option.bind_some, ih]
        simp [hop]
      next cachedName =>
        split
        next name value readable readable' =>
          rw [Option.bind_eq_bind, Option.bind_some, ih]
          simp [readable, readable']
        next unreadable =>
          have missing : ¬(decodeUtf8 header.1 ≠ none ∧ decodeUtf8 header.2 ≠ none) := by
            rintro ⟨name, value⟩
            obtain ⟨name, named⟩ := Option.ne_none_iff_exists'.mp name
            obtain ⟨value, valued⟩ := Option.ne_none_iff_exists'.mp value
            exact unreadable name value named valued
          simp [cachedName, missing]

omit [Lowercase] in
/-- A body can be stored exactly when the headers can be read, once the content type was. -/
theorem entryFor_isSome {head : ResponseHead} {body : Bytes}
    (readable : decodeUtf8 ((head.header "content-type").getD []) ≠ none) :
    (middleware.entryFor now head body).isSome ↔ HeadersReadable head.headers := by
  have typed :
      (decodeUtf8 ((head.header "content-type").getD (ascii "application/json"))).isSome := by
    cases found : head.header "content-type" with
    | none => decide +kernel
    | some bytes =>
        rw [found] at readable
        exact Option.isSome_iff_ne_none.mpr readable
  rw [← cachedHeaders_isSome, entryFor]
  obtain ⟨mediaType, same⟩ := Option.isSome_iff_exists.mp typed
  rw [same]
  cases cachedHeaders head.headers with
  | none => rfl
  | some headers => rfl

omit [Lowercase] in
theorem entryFor_content {head : ResponseHead} {body : Bytes} {entry : CacheEntry}
    (made : middleware.entryFor now head body = some entry) : entry.content = body := by
  unfold entryFor at made
  split at made
  · obtain rfl := Option.some.inj made
    rfl
  · cases made

/-- A response that is not kept is handed on as it comes. -/
theorem respond_passing (passes : middleware.shouldCache response.head = some false) :
    ∃ head, middleware.respond now response =
      ((Message.start head ::
        (response.chunks.map (.body · true) ++ [.body response.last false])).map
        .send, none) := by
  let started : Buffer := ⟨true, some response.head, [], response.head.status, false⟩
  refine ⟨response.head.append "X-Gateway-Cache"
    (if response.head.status = 200 then "BYPASS" else "MISS"), ?_⟩
  have first : middleware.bufferingSend now .initial (.start response.head) = .ok (started,
      [.send (.start (response.head.append "X-Gateway-Cache"
        (if response.head.status = 200 then "BYPASS" else "MISS")))]) := by
    rw [bufferingSend, passes]
    rfl
  have rest : ∀ message ∈ response.chunks.map (Message.body · true) ++ [.body response.last false],
      middleware.bufferingSend now started message = .ok (started, [.send message]) := by
    intro message mem
    cases message with
    | start head => simp at mem
    | body chunk moreBody => rfl
  rw [respond, AppResponse.messages, feed_cons first, feed_passing rest]
  rfl

/-- A response that is kept is stored whole and sent with its last chunk. -/
theorem respond_keeping (keeps : middleware.shouldCache response.head = some true) :
    (middleware.entryFor now response.head response.content = none ∧
      middleware.respond now response = ([], some .decode)) ∨
    ∃ entry, middleware.entryFor now response.head response.content = some entry ∧
      middleware.respond now response =
        ([.store entry, .send (.start (middleware.missHead response.head)),
          .send (.body response.last false)], none) := by
  let kept (chunks : List Bytes) : Buffer :=
    ⟨true, some response.head, chunks, response.head.status, true⟩
  have first : middleware.bufferingSend now .initial (.start response.head) =
      .ok (kept [], []) := by
    rw [bufferingSend, keeps]
    rfl
  have whole : ((kept response.chunks).bodyChunks ++ [response.last]).flatten =
      response.content := by
    simp [kept, AppResponse.content]
  have fed : middleware.respond now response =
      feed (middleware.bufferingSend now) (kept response.chunks) [.body response.last false] := by
    rw [respond, AppResponse.messages, feed_cons first, feed_keeping fun _ _ => rfl]
    rfl
  rw [fed]
  cases made : middleware.entryFor now response.head response.content with
  | none =>
      have raised :
          middleware.bufferingSend now (kept response.chunks) (.body response.last false) =
          .error .decode := by
        simp only [bufferingSend, kept] at whole ⊢
        rw [whole, made]
        rfl
      exact .inl ⟨rfl, feed_error raised⟩
  | some entry =>
      have finished : middleware.bufferingSend now (kept response.chunks)
          (.body response.last false) = .ok (kept (response.chunks ++ [response.last]),
            [.store entry, .send (.start (middleware.missHead response.head)),
              .send (.body response.last false)]) := by
        simp only [bufferingSend, kept] at whole ⊢
        rw [whole, made]
        rfl
      refine .inr ⟨entry, rfl, ?_⟩
      rw [feed_cons finished]
      rfl

/-! ## Transparency -/

/-- The client receives the body of the application, and so does everybody who is served
from what was stored. -/
structure Transparent (middleware : CacheMiddleware) (now : Nat)
    (response : AppResponse) : Prop where
  completes : (middleware.respond now response).2 = none
  same : bodyBytes (sent (middleware.respond now response).1) = response.content
  hit : ∀ entry ∈ stored (middleware.respond now response).1, ∀ later body,
    serveCached entry.toDict later = some body →
      body = bodyBytes (sent (middleware.respond now response).1)

/-- What is looked at can be read, and a response that is kept has its body in the last chunk. -/
def PassesWhole (middleware : CacheMiddleware) (response : AppResponse) : Prop :=
  ContentTypeReadable response.head ∧
    (middleware.shouldCache response.head = some true →
      HeadersReadable response.head.headers ∧ ∀ chunk ∈ response.chunks, chunk = [])

omit [Lowercase] in
theorem sent_passing (messages : List Message) : sent (messages.map .send) = messages ∧
    stored (messages.map .send) = [] := by
  constructor
  · induction messages with
    | nil => rfl
    | cons message messages ih => exact congrArg (message :: ·) ih
  · induction messages with
    | nil => rfl
    | cons message messages ih => exact ih

omit [Lowercase] in
theorem serveCached_toDict {entry : CacheEntry} {later : Nat} {body : Bytes}
    (served : serveCached entry.toDict later = some body) : body = entry.content := by
  rw [serveCached, CacheEntry.fromDict_toDict] at served
  dsimp only at served
  split at served
  · cases served
  · exact (Option.some.inj served).symm

omit [Lowercase] in
/-- The last chunk is the whole body exactly when the others are empty. -/
theorem last_eq_content : response.last = response.content ↔
    ∀ chunk ∈ response.chunks, chunk = [] := by
  rw [AppResponse.content, List.self_eq_append_left, List.flatten_eq_nil_iff]

theorem shouldCache_eq_none (readable : ContentTypeReadable response.head) :
    middleware.shouldCache response.head ≠ none := by
  unfold shouldCache
  split
  next ok =>
    rw [ne_eq, Option.map_eq_none_iff, contentType_eq_none]
    exact readable ok
  · exact Option.some_ne_none _

/-- Only responses with status 200 are kept. -/
theorem status_of_shouldCache {head : ResponseHead}
    (keeps : middleware.shouldCache head = some true) :
    head.status = 200 := by
  by_contra other
  rw [shouldCache, if_neg other] at keeps
  cases keeps

/-- A response that cannot be read is not sent. -/
theorem respond_unreadable (unreadable : middleware.shouldCache response.head = none) :
    middleware.respond now response = ([], some .decode) := by
  refine feed_error ?_
  rw [bufferingSend, unreadable]

/-- A response arrives whole exactly when what is looked at can be read and no chunk but the last
has a part of a body that is kept. -/
theorem transparent_iff : middleware.Transparent now response ↔
    middleware.PassesWhole response := by
  cases decided : middleware.shouldCache response.head with
  | none =>
      constructor
      · intro transparent
        have raised := transparent.completes
        rw [respond_unreadable decided] at raised
        cases raised
      · exact fun passes => absurd decided (shouldCache_eq_none passes.1)
  | some kept =>
      have readable : ContentTypeReadable response.head := by
        intro ok unreadable
        rw [shouldCache, if_pos ok, contentType_eq_none.mpr unreadable] at decided
        cases decided
      cases kept with
      | false =>
          refine ⟨fun _ => ⟨readable, fun keeps => ?_⟩, fun _ => ?_⟩
          · rw [decided] at keeps
            cases keeps
          · have passed : ∃ head, middleware.respond now response = _ := respond_passing decided
            obtain ⟨head, responded⟩ := passed
            obtain ⟨all, none⟩ := sent_passing
              (.start head :: (response.chunks.map (.body · true) ++ [.body response.last false]))
            constructor
            · rw [responded]
            · rw [responded, all]
              exact bodyBytes_messages { response with head := head }
            · rw [responded, none]
              rintro _ ⟨⟩
      | true =>
          have entered : (middleware.entryFor now response.head response.content).isSome ↔ _ :=
            entryFor_isSome (readable (status_of_shouldCache decided))
          have kept : _ ∧ middleware.respond now response = _ ∨ _ := respond_keeping decided
          rcases kept with ⟨missing, responded⟩ | ⟨entry, made, responded⟩
          · constructor
            · intro transparent
              have raised := transparent.completes
              rw [responded] at raised
              cases raised
            · intro passes
              have made := entered.mpr (passes.2 decided).1
              rw [missing] at made
              cases made
          · have headers := entered.mp (by rw [made]; rfl)
            have arrives : bodyBytes (sent (middleware.respond now response).1) =
                response.last := by
              rw [responded]
              exact List.append_nil _
            constructor
            · intro transparent
              have same := transparent.same
              rw [arrives] at same
              exact ⟨readable, fun _ => ⟨headers, last_eq_content.mp same⟩⟩
            · intro passes
              have same := last_eq_content.mpr (passes.2 decided).2
              refine ⟨by rw [responded], arrives.trans same, ?_⟩
              rw [arrives, same, responded]
              intro stored mem later body served
              obtain rfl := List.mem_singleton.mp mem
              exact (serveCached_toDict served).trans (entryFor_content made)

end CacheMiddleware

namespace EventEnvelopeMiddleware

variable {middleware : EventEnvelopeMiddleware} {path : String} {response : AppResponse}

/-- The head can be read, and a client that is not sent a wrapped response receives the body of the
application, unless the wrap raised in strict mode. -/
structure Transparent (middleware : EventEnvelopeMiddleware) (path : String)
    (response : AppResponse) :
    Prop where
  readable : (middleware.respond path response).2 ≠ some .decode
  same : (middleware.respond path response).2 = none →
    (∀ effect ∈ (middleware.respond path response).1, effect.wrapped = false) →
    bodyBytes ((middleware.respond path response).1.map Effect.message) = response.content

/-- A response that is not kept is handed on as it comes. -/
theorem respond_passing (passes : middleware.shouldWrap response.head = some false) :
    middleware.respond path response =
      (response.messages.map fun message => ⟨message, false⟩, none) := by
  let started : Buffer := ⟨some response.head, [], false⟩
  have first : middleware.bufferingSend path .initial (.start response.head) =
      .ok (started, [⟨.start response.head, false⟩]) := by
    rw [bufferingSend, passes]
    rfl
  have rest : ∀ message ∈ response.chunks.map (Message.body · true) ++ [.body response.last false],
      middleware.bufferingSend path started message = .ok (started, [⟨message, false⟩]) := by
    intro message mem
    cases message with
    | start head => simp at mem
    | body chunk moreBody => rfl
  have fed : feed (middleware.bufferingSend path) started _ =
      (List.map (fun message => ⟨message, false⟩) _, none) := feed_passing rest
  rw [respond, AppResponse.messages, feed_cons first, fed]
  rfl

/-- A response that is kept ends as its whole body does. -/
theorem respond_keeping (keeps : middleware.shouldWrap response.head = some true) :
    middleware.respond path response =
      match middleware.wrapAndSend path response.content response.head with
      | .ok effects => (effects, none)
      | .error error => ([], some error) := by
  let kept (chunks : List Bytes) : Buffer := ⟨some response.head, chunks, true⟩
  have first : middleware.bufferingSend path .initial (.start response.head) =
      .ok (kept [], []) := by
    rw [bufferingSend, keeps]
    rfl
  have last : middleware.bufferingSend path (kept response.chunks) (.body response.last false) =
      (middleware.wrapAndSend path response.content response.head).map
        (kept (response.chunks ++ [response.last]), ·) := by
    rw [AppResponse.content, show response.last = [response.last].flatten by simp,
      ← List.flatten_append]
    simp [bufferingSend, kept]
  have fed : middleware.respond path response =
      feed (middleware.bufferingSend path) (kept response.chunks) [.body response.last false] := by
    rw [respond, AppResponse.messages, feed_cons first, feed_keeping fun _ _ => rfl]
    rfl
  rw [fed]
  cases ended : middleware.wrapAndSend path response.content response.head with
  | ok effects =>
      rw [ended] at last
      rw [feed_cons last]
      simp [feed]
  | error error =>
      rw [ended] at last
      exact feed_error last

omit [Lowercase] in
/-- A body that is not wrapped is sent whole, and only strict mode raises. -/
theorem wrapAndSend_cases {body : Bytes} {head : ResponseHead} :
    match middleware.wrapAndSend path body head with
    | .ok effects => (∃ effect ∈ effects, effect.wrapped = true) ∨
        bodyBytes (effects.map Effect.message) = body
    | .error error => error = .strict := by
  have whole (head : ResponseHead) : bodyBytes ((plain head body).map Effect.message) = body :=
    List.append_nil _
  unfold wrapAndSend
  split
  next ended =>
    split at ended
    · obtain rfl := Except.ok.inj ended
      exact .inr (whole head)
    · split at ended
      · obtain rfl := Except.ok.inj ended
        exact .inr (whole head)
      · obtain rfl := Except.ok.inj ended
        exact .inl ⟨_, List.mem_cons_self, rfl⟩
      · split at ended
        · cases ended
        · obtain rfl := Except.ok.inj ended
          exact .inr (whole _)
  next ended =>
    split at ended
    · cases ended
    · split at ended
      · cases ended
      · cases ended
      · split at ended
        · exact (Except.error.inj ended).symm
        · cases ended

/-- A response that is not wrapped arrives whole exactly when its content type can be read. -/
theorem transparent_iff : middleware.Transparent path response ↔
    ContentTypeReadable response.head := by
  cases decided : middleware.shouldWrap response.head with
  | none =>
      have raised : middleware.respond path response = ([], some .decode) := by
        refine feed_error ?_
        rw [bufferingSend, decided]
      constructor
      · exact fun transparent => absurd (congrArg Prod.snd raised) transparent.readable
      · intro readable
        unfold shouldWrap at decided
        split at decided
        next ok =>
          rw [Option.map_eq_none_iff, contentType_eq_none] at decided
          exact absurd decided (readable ok)
        · cases decided
  | some keeps =>
      have readable : ContentTypeReadable response.head := by
        intro ok unreadable
        rw [shouldWrap, if_pos ok, contentType_eq_none.mpr unreadable] at decided
        cases decided
      refine ⟨fun _ => readable, fun _ => ?_⟩
      cases keeps with
      | false =>
          have passed : middleware.respond path response = _ := respond_passing decided
          refine ⟨by rw [passed]; rintro ⟨⟩, fun _ _ => ?_⟩
          rw [passed, List.map_map]
          exact (congrArg bodyBytes (List.map_id _)).trans (bodyBytes_messages response)
      | true =>
          have ended : middleware.respond path response = _ := respond_keeping decided
          have sends : match middleware.wrapAndSend path response.content response.head with
              | .ok _ => _
              | .error _ => _ := wrapAndSend_cases
          cases result : middleware.wrapAndSend path response.content response.head with
          | ok effects =>
              rw [result] at ended sends
              refine ⟨by rw [ended]; rintro ⟨⟩, fun _ plain => ?_⟩
              rw [ended] at plain ⊢
              rcases sends with ⟨effect, mem, wrapped⟩ | whole
              · rw [plain effect mem] at wrapped
                cases wrapped
              · exact whole
          | error error =>
              rw [result] at ended sends
              obtain rfl : error = .strict := sends
              refine ⟨by rw [ended]; rintro ⟨⟩, fun done => ?_⟩
              rw [ended] at done
              cases done

end EventEnvelopeMiddleware

/-- Both middlewares are transparent for exactly these responses. -/
theorem responses_are_transparent_iff (cache : CacheMiddleware) (envelope : EventEnvelopeMiddleware)
    (now : Nat) (path : String) (response : AppResponse) :
    (cache.Transparent now response ↔ cache.PassesWhole response) ∧
      (envelope.Transparent path response ↔ ContentTypeReadable response.head) :=
  ⟨CacheMiddleware.transparent_iff, EventEnvelopeMiddleware.transparent_iff⟩

end Responses

/-- A small body of JSON in two chunks. -/
def twoChunks : AppResponse where
  head :=
    ⟨200, [(ascii "content-type", ascii "application/json"), (ascii "content-length", ascii "2")]⟩
  chunks := [ascii "["]
  last := ascii "]"

/-- The client of a response in two chunks receives the second one only. -/
theorem first_chunk_is_lost :
    ¬@CacheMiddleware.Transparent asciiLowercase ⟨60, 524288⟩ 0 twoChunks := by
  intro transparent
  have lost : bodyBytes (CacheMiddleware.sent
      (@CacheMiddleware.respond asciiLowercase ⟨60, 524288⟩ 0 twoChunks).1) = ascii "]" := by
    decide +kernel
  have whole := @CacheMiddleware.Transparent.same asciiLowercase _ _ _ transparent
  rw [lost] at whole
  exact absurd whole (by decide +kernel)

/-- The same body in one chunk arrives through both middlewares. -/
theorem one_chunk_arrives :
    @CacheMiddleware.Transparent asciiLowercase ⟨60, 524288⟩ 0
      ⟨twoChunks.head, [], ascii "[]"⟩ ∧ @EventEnvelopeMiddleware.Transparent asciiLowercase
        ⟨524288, false, fun _ => some (.array []), fun _ _ _ _ => none⟩ "/api/v1/alpaca/orders"
        ⟨twoChunks.head, [], ascii "[]"⟩ := by
  let _ := asciiLowercase
  have both := responses_are_transparent_iff ⟨60, 524288⟩
    ⟨524288, false, fun _ => some (.array []), fun _ _ _ _ => none⟩ 0 "/api/v1/alpaca/orders"
    ⟨twoChunks.head, [], ascii "[]"⟩
  have readable : ContentTypeReadable twoChunks.head := fun _ => by decide +kernel
  have headers : (CacheMiddleware.cachedHeaders twoChunks.head.headers).isSome := by decide +kernel
  refine ⟨both.1.mpr
    ⟨readable, fun _ => ⟨CacheMiddleware.cachedHeaders_isSome.mp headers, ?_⟩⟩, both.2.mpr readable⟩
  rintro _ ⟨⟩

end Middleware
end DataGateway
