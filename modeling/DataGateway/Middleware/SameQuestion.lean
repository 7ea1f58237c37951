import DataGateway.Middleware.CacheKey
import DataGateway.Middleware.Transparency

/-!
# A hit answers the same question

A key is cut at its colons, and then its parts are only told apart by what they are.  A
colon in the path or in the query, or one of the parts of the client's id, can therefore be
taken for another one's.
-/

namespace DataGateway
namespace Middleware

/-! ## Reading parts -/

section Reading

variable {α : Type}

/-- A word that ends the front and does not come again before the last part is
found in one place. -/
theorem read_behind {word : α} {front front' back back' : List α} (rest : back' ≠ [])
    (once : word ∉ back.dropLast) (same : front ++ word :: back = front' ++ word :: back') :
    front = front' ∧ back = back' ∨ ∃ more, more ≠ [] ∧ front = front' ++ more := by
  rcases List.append_eq_append_iff.mp same with ⟨between, longer, tail⟩ | ⟨between, longer, -⟩
  · cases between with
    | nil =>
        obtain ⟨-, rfl⟩ := List.cons.inj tail
        exact .inl ⟨by simpa using longer.symm, rfl⟩
    | cons first between =>
        obtain ⟨-, later⟩ := List.cons.inj tail
        refine absurd ?_ once
        rw [later, List.append_eq, List.dropLast_append_of_ne_nil (List.cons_ne_nil _ _),
          List.dropLast_cons_of_ne_nil rest]
        simp
  · by_cases none : between = []
    · subst none
      rw [List.append_nil] at longer
      subst longer
      have tails := List.append_cancel_left same
      exact .inl ⟨rfl, (List.cons.inj tails).2⟩
    · exact .inr ⟨between, none, longer⟩

end Reading

/-- The text with these parts. -/
def ofParts (parts : List (List Char)) : String := String.ofList ([':'].intercalate parts)

theorem colonParts_ofParts {parts : List (List Char)} (parted : parts ≠ [])
    (clean : ∀ part ∈ parts, ':' ∉ part) : colonParts (ofParts parts) = parts := by
  rw [colonParts, ofParts, String.toList_ofList]
  exact List.splitOn_intercalate ':' clean parted

/-- No part of a text has a colon. -/
theorem clean_of_mem_colonParts {text : String} {part : List Char}
    (among : part ∈ colonParts text) :
    ':' ∉ part := by
  have from_ (chars : List Char) : ∀ part ∈ chars.splitOn ':', ':' ∉ part := by
    induction chars with
    | nil => simp
    | cons c chars ih =>
        obtain ⟨first, rest, parted⟩ := List.exists_cons_of_ne_nil (List.splitOn_ne_nil ':' chars)
        rw [List.splitOn_cons_eq_if_modifyHead]
        rw [parted] at ih ⊢
        split
        · simpa using ih
        next other =>
          have ne : ':' ≠ c := fun same => other (beq_iff_eq.mpr same.symm)
          simpa [ne] using ih
  exact from_ text.toList part among

/-! ## What the first part of a path decides -/

/-- A prefix without a colon lies in the first part. -/
theorem startsWith_first {text front : String} {first : List Char} {rest : List (List Char)}
    (clean : ':' ∉ front.toList) (parts : colonParts text = first :: rest) :
    Text.startsWith text front = Text.startsWith (String.ofList first) front := by
  rw [Bool.eq_iff_iff, Text.startsWith, Text.startsWith, String.toList_ofList,
    List.isPrefixOf_iff_prefix, List.isPrefixOf_iff_prefix]
  have whole : text.toList = [':'].intercalate (first :: rest) := by
    rw [← parts]
    exact (List.intercalate_splitOn ':').symm
  have initial : first <+: text.toList := by
    rw [whole]
    cases rest with
    | nil =>
        simp only [List.intercalate_singleton, List.prefix_rfl]
    | cons second rest =>
        rw [List.intercalate_cons_cons, List.append_assoc]
        exact List.prefix_append _ _
  refine ⟨fun long => ?_, fun short => short.trans initial⟩
  by_cases shorter : front.toList.length ≤ first.length
  · exact List.prefix_of_prefix_length_le long initial shorter
  · cases rest with
    | nil =>
        rw [List.intercalate_singleton] at whole
        rwa [whole] at long
    | cons second rest =>
        have colon : first ++ [':'] <+: text.toList := by
          rw [whole, List.intercalate_cons_cons]
          exact List.prefix_append _ _
        have within := List.prefix_of_prefix_length_le colon long
          (by simp only [List.length_append, List.length_singleton]; omega)
        exact absurd (within.subset (by simp)) clean

theorem dynamicPrefix_clean : ':' ∉ "/api/v1/backfill".toList := by decide

theorem publicPrefix_clean : ':' ∉ "/health".toList := by decide

theorem publicExact_single : ∀ text ∈ publicExact, (colonParts text).length = 1 := by
  decide

theorem isDynamicPath_first {path : String} {first : List Char} {rest : List (List Char)}
    (parts : colonParts path = first :: rest) :
    isDynamicPath path = isDynamicPath (String.ofList first) :=
  startsWith_first dynamicPrefix_clean parts

/-- A path with a colon is public for its prefix only. -/
theorem isPublicPath_parts {path : String} {first second : List Char} {rest : List (List Char)}
    (parts : colonParts path = first :: second :: rest) :
    isPublicPath path = Text.startsWith (String.ofList first) "/health" := by
  rw [isPublicPath, startsWith_first publicPrefix_clean parts]
  have named : path ∉ publicExact := by
    intro exact_
    have one := publicExact_single path exact_
    rw [parts] at one
    simp at one
  simp [named]

theorem isPublicPath_single (path : String) :
    isPublicPath path = true → Text.startsWith path "/health" = false →
    (colonParts path).length = 1 := by
  intro free other
  rw [isPublicPath, other, Bool.or_false, decide_eq_true_eq] at free
  exact publicExact_single path free

/-- The request whose texts have these parts. -/
def GetRequest.withParts (request : GetRequest) (path query id : List (List Char)) : GetRequest :=
  ⟨ofParts path, ofParts query, { request.client with id := ofParts id }⟩

@[simp]
theorem withParts_path (request : GetRequest) (path query id : List (List Char)) :
    (request.withParts path query id).path = ofParts path := rfl

@[simp]
theorem withParts_query (request : GetRequest) (path query id : List (List Char)) :
    (request.withParts path query id).query = ofParts query := rfl

@[simp]
theorem withParts_id (request : GetRequest) (path query id : List (List Char)) :
    (request.withParts path query id).client.id = ofParts id := rfl

/-! ## Keys that are read in one way -/

section Keys

variable [PermissionDigest] {request other : GetRequest}

/-- Equal keys of other clients than everybody agree on the parts before the hash,
and on the hash. -/
theorem parts_of_private (guarded : isPublicPath request.path = false)
    (guarded' : isPublicPath other.path = false) (same : cacheKey request = cacheKey other) :
    (colonParts request.path ++ colonParts request.query) ++
        "client".toList :: colonParts request.client.id =
      (colonParts other.path ++ colonParts other.query) ++
        "client".toList :: colonParts other.client.id ∧
      permissionsHash request.client = permissionsHash other.client := by
  have parts := congrArg colonParts same
  rw [colonParts_key_private guarded, colonParts_key_private guarded'] at parts
  have whole : ((colonParts request.path ++ colonParts request.query) ++
        "client".toList :: colonParts request.client.id) ++
          [(permissionsHash request.client).toList] =
      ((colonParts other.path ++ colonParts other.query) ++
        "client".toList :: colonParts other.client.id) ++
          [(permissionsHash other.client).toList] := by
    simpa using (List.cons.inj parts).2
  obtain ⟨front, hash⟩ := List.append_inj' whole (by simp only [List.length_singleton])
  exact ⟨front, String.toList_injective (List.cons.inj hash).1⟩

theorem parts_of_public (free : isPublicPath request.path = true)
    (free' : isPublicPath other.path = true) (same : cacheKey request = cacheKey other) :
    colonParts request.path ++ colonParts request.query =
      colonParts other.path ++ colonParts other.query := by
  have parts := congrArg colonParts same
  rw [colonParts_key_public free, colonParts_key_public free'] at parts
  have whole : (colonParts request.path ++ colonParts request.query) ++ ["public".toList] =
      (colonParts other.path ++ colonParts other.query) ++ ["public".toList] := by
    simpa using (List.cons.inj parts).2
  exact List.append_cancel_right whole

omit [PermissionDigest] in
/-- A path and a query of one part each are told apart. -/
theorem split_single {path query path' : String} {rest : List (List Char)} (some : rest ≠ [])
    (one : (colonParts path).length = 1) (one' : (colonParts query).length = 1)
    (same : colonParts path ++ colonParts query = colonParts path' ++ rest) :
    path = path' ∧ colonParts query = rest := by
  have lengths := congrArg List.length same
  have some := List.length_pos_iff.mpr some
  have some' := List.length_pos_iff.mpr (colonParts_ne_nil path')
  simp only [List.length_append] at lengths
  obtain ⟨paths, queries⟩ := List.append_inj same (by omega)
  exact ⟨colonParts_injective paths, queries⟩

omit [PermissionDigest] in
/-- A path that starts with a public one and a colon is not read as the public one. -/
theorem split_guarded {path query path' : String} {rest : List (List Char)} (some : rest ≠ [])
    (guarded : isPublicPath path' = false)
    (few : (colonParts path).length = 1 ∨
      ∃ front back, colonParts path = [front, back] ∧ isPublicPath (String.ofList front) = true)
    (one : (colonParts query).length = 1)
    (same : colonParts path ++ colonParts query = colonParts path' ++ rest) :
    path = path' ∧ colonParts query = rest := by
  rcases few with single | ⟨front, back, parts, free⟩
  · exact split_single some single one same
  · have lengths := congrArg List.length same
    have some := List.length_pos_iff.mpr some
    have some' := List.length_pos_iff.mpr (colonParts_ne_nil path')
    simp only [List.length_append, parts, List.length_cons, List.length_nil] at lengths
    by_cases two : (colonParts path').length = 2
    · obtain ⟨paths, queries⟩ := List.append_inj same (by simp [parts, two])
      exact ⟨colonParts_injective paths, queries⟩
    · obtain ⟨first, parts'⟩ :=
        List.length_eq_one_iff.mp (show (colonParts path').length = 1 by omega)
      rw [parts, parts'] at same
      obtain rfl := (List.cons.inj same).1
      have whole : path' = String.ofList front := by
        apply colonParts_injective
        rw [parts', colonParts_of_notMem, String.toList_ofList]
        rw [String.toList_ofList]
        exact clean_of_mem_colonParts (parts ▸ List.mem_cons_self)
      rw [whole, free] at guarded
      cases guarded

/-- An unambiguous key belongs to one question only. -/
theorem Unambiguous.sameQuestion (clear : Unambiguous request)
    (cached : isDynamicPath request.path = false) (same : cacheKey request = cacheKey other) :
    SameQuestion request other := by
  have clear := clear.resolve_left (by simp [cached])
  cases free : isPublicPath request.path with
  | true =>
      rw [if_pos free] at clear
      have free' : isPublicPath other.path = true := by
        by_contra guarded
        exact key_public_ne free (eq_false_of_ne_true guarded) same
      have parts := parts_of_public free free' same
      suffices path : request.path = other.path by
        rw [path] at parts
        exact ⟨path, colonParts_injective (List.append_cancel_left parts), .inl ⟨free, free'⟩⟩
      by_cases health : Text.startsWith request.path "/health" = true
      · obtain ⟨one, one'⟩ := clear health
        exact (split_single (colonParts_ne_nil _) one one' parts).1
      · have health := eq_false_of_ne_true health
        obtain ⟨first, one⟩ := List.length_eq_one_iff.mp (isPublicPath_single _ free health)
        obtain ⟨first', rest, parts'⟩ := List.exists_cons_of_ne_nil (colonParts_ne_nil other.path)
        rw [one, parts'] at parts
        obtain rfl := (List.cons.inj parts).1
        cases rest with
        | nil => exact colonParts_injective (one.trans parts'.symm)
        | cons second rest =>
            rw [isPublicPath_parts parts', ← startsWith_first publicPrefix_clean one,
              health] at free'
            cases free'
  | false =>
      rw [if_neg (by simp [free])] at clear
      obtain ⟨few, one, once⟩ := clear
      have guarded : isPublicPath other.path = false := by
        by_contra free'
        exact key_public_ne (eq_true_of_ne_false free') free same.symm
      obtain ⟨parts, hash⟩ := parts_of_private free guarded same
      rcases read_behind (colonParts_ne_nil _) once parts with ⟨front, ids⟩ | ⟨more, some, front⟩
      · obtain ⟨path, query⟩ := split_guarded (colonParts_ne_nil _) guarded few one front
        exact ⟨path, colonParts_injective query, .inr ⟨colonParts_injective ids, hash⟩⟩
      · rw [List.append_assoc] at front
        obtain ⟨-, query⟩ := split_guarded (by simp [some]) guarded few one front
        rw [query, List.length_append] at one
        have parts := List.length_pos_iff.mpr (colonParts_ne_nil other.query)
        have more := List.length_pos_iff.mpr some
        omega

/-! ## Keys that are read in two ways -/

@[simp]
theorem permissionsHash_withParts (request : GetRequest) (path query id : List (List Char)) :
    permissionsHash (request.withParts path query id).client = permissionsHash request.client := rfl

/-- Another request has the same key and is cached alike. -/
structure Twin (request other : GetRequest) : Prop where
  key : cacheKey other = cacheKey request
  dynamic : isDynamicPath other.path = isDynamicPath request.path
  differs : ¬SameQuestion request other

/-- Any other cut of the same parts is a twin, where it asks something else. -/
theorem twin_of_parts {path query id : List (List Char)} (some : path ≠ []) (some' : query ≠ [])
    (some'' : id ≠ []) (guarded : isPublicPath request.path = false)
    (guarded' : isPublicPath (ofParts path) = false)
    (same : (path ++ query) ++ "client".toList :: id =
      (colonParts request.path ++ colonParts request.query) ++
        "client".toList :: colonParts request.client.id)
    (differs : path ≠ colonParts request.path ∨ query ≠ colonParts request.query) :
    Twin request (request.withParts path query id) := by
  have clean (part : List Char) (among : part ∈ (path ++ query) ++ "client".toList :: id) :
      ':' ∉ part := by
    rw [same] at among
    simp only [List.mem_append, List.mem_cons] at among
    rcases among with (path | query) | rfl | id
    · exact clean_of_mem_colonParts path
    · exact clean_of_mem_colonParts query
    · decide
    · exact clean_of_mem_colonParts id
  have paths := colonParts_ofParts some fun part mem => clean part (by simp [mem])
  have queries := colonParts_ofParts some' fun part mem => clean part (by simp [mem])
  have ids := colonParts_ofParts some'' fun part mem => clean part (by simp [mem])
  refine ⟨?_, ?_, fun question => ?_⟩
  · apply colonParts_injective
    rw [colonParts_key_private guarded,
      colonParts_key_private
        (show isPublicPath (request.withParts path query id).path = false from guarded')]
    simp only [withParts_path, withParts_query, withParts_id, permissionsHash_withParts,
      paths, queries, ids]
    have whole := congrArg (· ++ [(permissionsHash request.client).toList]) same
    simpa using whole
  · obtain ⟨first, rest, parts⟩ := List.exists_cons_of_ne_nil some
    obtain ⟨first', rest', parts'⟩ := List.exists_cons_of_ne_nil (colonParts_ne_nil request.path)
    rw [parts, parts'] at same
    obtain rfl := (List.cons.inj same).1
    rw [isDynamicPath_first parts', withParts_path, isDynamicPath_first (paths.trans parts)]
  · rcases differs with ne | ne
    · exact ne (by rw [question.path, withParts_path, paths])
    · exact ne (by rw [question.query, withParts_query, queries])

/-- The same, where everybody may ask. -/
theorem twin_of_public_parts {path query : List (List Char)} (some : path ≠ []) (some' : query ≠ [])
    (free : isPublicPath request.path = true) (free' : isPublicPath (ofParts path) = true)
    (same : path ++ query = colonParts request.path ++ colonParts request.query)
    (differs : path ≠ colonParts request.path) :
    Twin request (request.withParts path query (colonParts request.client.id)) := by
  have clean (part : List Char) (among : part ∈ path ++ query) : ':' ∉ part := by
    rw [same] at among
    rcases List.mem_append.mp among with path | query
    · exact clean_of_mem_colonParts path
    · exact clean_of_mem_colonParts query
  have paths := colonParts_ofParts some fun part mem => clean part (by simp [mem])
  have queries := colonParts_ofParts some' fun part mem => clean part (by simp [mem])
  refine ⟨?_, ?_, fun question => ?_⟩
  · apply colonParts_injective
    rw [colonParts_key_public free,
      colonParts_key_public
        (show isPublicPath (request.withParts path query _).path = true from free')]
    simp only [withParts_path, withParts_query, paths, queries]
    have whole := congrArg (· ++ ["public".toList]) same
    simpa using whole
  · obtain ⟨first, rest, parts⟩ := List.exists_cons_of_ne_nil some
    obtain ⟨first', rest', parts'⟩ := List.exists_cons_of_ne_nil (colonParts_ne_nil request.path)
    rw [parts, parts'] at same
    obtain rfl := (List.cons.inj same).1
    rw [isDynamicPath_first parts', withParts_path, isDynamicPath_first (paths.trans parts)]
  · exact differs (by rw [question.path, withParts_path, paths])

omit [PermissionDigest] in
/-- The prefix of the public paths is in the first part. -/
theorem health_of_first {path path' : String} {first : List Char} {rest rest' : List (List Char)}
    (parts : colonParts path = first :: rest) (parts' : colonParts path' = first :: rest') :
    Text.startsWith path "/health" = Text.startsWith path' "/health" := by
  rw [startsWith_first publicPrefix_clean parts, startsWith_first publicPrefix_clean parts']

/-- A path or a query with a colon, behind the prefix of the public paths. -/
theorem exists_public_twin (free : isPublicPath request.path = true)
    (health : Text.startsWith request.path "/health" = true)
    (several : ¬((colonParts request.path).length = 1 ∧ (colonParts request.query).length = 1)) :
    ∃ other, Twin request other := by
  obtain ⟨first, rest, parts⟩ := List.exists_cons_of_ne_nil (colonParts_ne_nil request.path)
  obtain ⟨front, back, query⟩ := List.exists_cons_of_ne_nil (colonParts_ne_nil request.query)
  have public_of {cut : List (List Char)} (clean : ∀ part ∈ first :: cut, ':' ∉ part) :
      isPublicPath (ofParts (first :: cut)) = true := by
    have named := health_of_first (colonParts_ofParts (List.cons_ne_nil _ _) clean) parts
    rw [isPublicPath, named, health, Bool.or_true]
  have clean (part : List Char) (mem : part ∈ colonParts request.path ∨
      part ∈ colonParts request.query) :
      ':' ∉ part := mem.elim clean_of_mem_colonParts clean_of_mem_colonParts
  rw [parts, query] at clean
  by_cases cut : rest = []
  · subst cut
    have more : back ≠ [] := by
      rintro rfl
      exact several ⟨by rw [parts]; rfl, by rw [query]; rfl⟩
    have free' : isPublicPath (ofParts [first, front]) = true :=
      public_of fun part mem => clean part (by simp at mem; rcases mem with rfl | rfl <;> simp)
    refine ⟨_, twin_of_public_parts (List.cons_ne_nil _ _) more free free' ?_ ?_⟩
    · rw [parts, query]
      rfl
    · simp [parts]
  · have free' : isPublicPath (ofParts [first]) = true :=
      public_of fun part mem => clean part (by simp at mem; simp [mem])
    have some : rest ++ colonParts request.query ≠ [] := by simp [cut]
    refine ⟨_, twin_of_public_parts (List.cons_ne_nil _ _) some free free' ?_ ?_⟩
    · rw [parts]
      rfl
    · rw [parts]
      simpa using Ne.symm cut

/-- A path that can be cut behind a path that is not public. -/
theorem twin_of_path {cut rest : List (List Char)} (guarded : isPublicPath request.path = false)
    (parts : colonParts request.path = cut ++ rest) (some : cut ≠ []) (more : rest ≠ [])
    (guarded' : isPublicPath (ofParts cut) = false) : ∃ other, Twin request other := by
  have some' : rest ++ colonParts request.query ≠ [] := by simp [more]
  refine ⟨_, twin_of_parts some some' (colonParts_ne_nil request.client.id) guarded guarded' ?_ ?_⟩
  · rw [parts]
    simp
  · exact .inl (by simpa [parts] using Ne.symm more)

/-- A query with a colon. -/
theorem twin_of_query {front : List Char} {back : List (List Char)}
    (guarded : isPublicPath request.path = false) (query : colonParts request.query = front :: back)
    (more : back ≠ []) : ∃ other, Twin request other := by
  obtain ⟨first, rest, parts⟩ := List.exists_cons_of_ne_nil (colonParts_ne_nil request.path)
  have cut : colonParts (ofParts (colonParts request.path ++ [front])) =
      colonParts request.path ++ [front] := by
    refine colonParts_ofParts (by simp) fun part mem => ?_
    rcases List.mem_append.mp mem with path | last
    · exact clean_of_mem_colonParts path
    · obtain rfl := List.mem_singleton.mp last
      exact clean_of_mem_colonParts (query ▸ List.mem_cons_self)
  have guarded' : isPublicPath (ofParts (colonParts request.path ++ [front])) = false := by
    have named : ∃ second more, colonParts request.path ++ [front] = first :: second :: more := by
      cases rest with
      | nil => exact ⟨front, [], by rw [parts]; rfl⟩
      | cons second rest => exact ⟨second, rest ++ [front], by rw [parts]; rfl⟩
    obtain ⟨second, more, named⟩ := named
    rw [isPublicPath_parts (cut.trans named), ← startsWith_first publicPrefix_clean parts]
    exact (Bool.or_eq_false_iff.mp guarded).2
  refine ⟨_,
    twin_of_parts (by simp) more (colonParts_ne_nil request.client.id) guarded guarded' ?_ ?_⟩
  · rw [query]
    simp
  · exact .inl (by simp)

/-- A path with a colon, unless the first part alone is public and the second one the last. -/
theorem exists_twin_of_path (guarded : isPublicPath request.path = false)
    (many : ¬((colonParts request.path).length = 1 ∨
      ∃ front back, colonParts request.path = [front, back] ∧
        isPublicPath (String.ofList front) = true)) : ∃ other, Twin request other := by
  obtain ⟨several, other⟩ := not_or.mp many
  obtain ⟨first, rest, parts⟩ := List.exists_cons_of_ne_nil (colonParts_ne_nil request.path)
  cases rest with
  | nil => exact absurd (by rw [parts]; rfl) several
  | cons second rest =>
      by_cases free : isPublicPath (String.ofList first) = true
      · have more : rest ≠ [] := by
          rintro rfl
          exact other ⟨first, second, parts, free⟩
        have split : colonParts request.path = [first, second] ++ rest := by rw [parts]; rfl
        refine twin_of_path guarded split (by simp) more ?_
        have cut : colonParts (ofParts [first, second]) = [first, second] := by
          refine colonParts_ofParts (by simp) fun part mem => ?_
          have among : part ∈ colonParts request.path := by
            rw [parts]
            exact List.mem_append_left rest mem
          exact clean_of_mem_colonParts among
        rw [isPublicPath_parts cut, ← startsWith_first publicPrefix_clean parts]
        exact (Bool.or_eq_false_iff.mp guarded).2
      · have whole : ofParts [first] = String.ofList first := by
          rw [ofParts, List.intercalate_singleton]
        have split : colonParts request.path = [first] ++ second :: rest := by rw [parts]; rfl
        exact twin_of_path guarded split (by simp) (by simp)
          (by rw [whole]; exact eq_false_of_ne_true free)

/-- An id with a part that reads as the start of the scope. -/
theorem twin_of_id (guarded : isPublicPath request.path = false)
    (named : "client".toList ∈ (colonParts request.client.id).dropLast) :
    ∃ other, Twin request other := by
  obtain ⟨before, after, parts⟩ := List.append_of_mem named
  have ids := List.dropLast_append_getLast (colonParts_ne_nil request.client.id)
  rw [parts] at ids
  have path : isPublicPath (ofParts (colonParts request.path)) = false := by
    have same : ofParts (colonParts request.path) = request.path :=
      colonParts_injective (colonParts_ofParts (colonParts_ne_nil _) fun _ =>
        clean_of_mem_colonParts)
    rw [same, guarded]
  have some' : colonParts request.query ++ "client".toList :: before ≠ [] := by simp
  have some'' :
      after ++ [(colonParts request.client.id).getLast (colonParts_ne_nil _)] ≠ [] := by simp
  refine ⟨_, twin_of_parts (colonParts_ne_nil request.path) some' some'' guarded path ?_ ?_⟩
  · conv_rhs => rw [← ids]
    simp
  · exact .inr (by simp)

/-- Whatever is not unambiguous has a twin. -/
theorem exists_twin (unclear : ¬Unambiguous request) : ∃ other, Twin request other := by
  rw [Unambiguous, not_or] at unclear
  obtain ⟨-, unclear⟩ := unclear
  cases free : isPublicPath request.path with
  | true =>
      rw [if_pos free] at unclear
      obtain ⟨health, several⟩ := Classical.not_imp.mp unclear
      exact exists_public_twin free health several
  | false =>
      rw [if_neg (by simp [free])] at unclear
      by_cases named : "client".toList ∈ (colonParts request.client.id).dropLast
      · exact twin_of_id free named
      · obtain ⟨front, back, query⟩ := List.exists_cons_of_ne_nil (colonParts_ne_nil request.query)
        by_cases more : back = []
        · refine exists_twin_of_path free fun few => unclear ⟨few, ?_, named⟩
          rw [query, more]
          rfl
        · exact twin_of_query free query more

/-! ## Hits -/

variable [Lowercase]

/-- Whenever the request is a hit, it is served the answer to the same question. -/
def AnswersOwn (middleware : CacheMiddleware) (request : GetRequest) : Prop :=
  ∀ events served, (request, served) ∈ (CacheWorld.after middleware events).hits →
    SameQuestion request served

/-- A response without a body. -/
def emptyResponse : AppResponse := ⟨⟨200, [(ascii "content-length", ascii "0")]⟩, [], []⟩

omit [PermissionDigest] in
/-- Every such response is stored, and served as long as it is fresh. -/
theorem stores_emptyResponse (middleware : CacheMiddleware) :
    ∃ entry, CacheMiddleware.stored (middleware.respond 0 emptyResponse).1 = [entry] ∧
      (serveCached entry.toDict 0).isSome := by
  have untyped : decodeUtf8 ((emptyResponse.head.header "content-type").getD []) = some "" := by
    decide +kernel
  have keeps : middleware.shouldCache emptyResponse.head = some true := by
    have fits : fitsLimit emptyResponse.head middleware.maxBodyBytes = true := by
      have length : emptyResponse.head.header "content-length" = some [48] := by decide +kernel
      have zero : intOfBytes [48] = some 0 := by decide +kernel
      simp [fitsLimit, length, zero]
    have plain : isStreaming (String.ofList (Lowercase.lower [])) = false := by
      rw [Lowercase.lower_ascii [] (by simp)]
      decide +kernel
    rw [CacheMiddleware.shouldCache,
      if_pos (show emptyResponse.head.status = 200 from rfl), contentType, untyped]
    simp [plain, fits]
  have made : (middleware.entryFor 0 emptyResponse.head emptyResponse.content).isSome := by
    rw [CacheMiddleware.entryFor_isSome (by simp [untyped]), ← CacheMiddleware.cachedHeaders_isSome]
    decide +kernel
  have kept : _ ∧ middleware.respond 0 emptyResponse = _ ∨ _ :=
    CacheMiddleware.respond_keeping keeps
  rcases kept with ⟨none, -⟩ | ⟨entry, found, responded⟩
  · rw [none] at made
    cases made
  · refine ⟨entry, by rw [responded]; rfl, ?_⟩
    have created : entry.createdAt = 0 := by
      unfold CacheMiddleware.entryFor at found
      split at found
      · obtain rfl := Option.some.inj found
        rfl
      · cases found
    simp [serveCached, CacheEntry.isExpired, created]

/-- The answer to a twin is served. -/
theorem served_of_twin {middleware : CacheMiddleware} (cached : isDynamicPath request.path = false)
    (twin : Twin request other) :
    (request, other) ∈ (CacheWorld.after middleware
      [.lookup other 0, .complete other emptyResponse 0, .lookup request 0]).hits := by
  obtain ⟨entry, stores, serves⟩ := stores_emptyResponse middleware
  have cached' : isDynamicPath other.path = false := twin.dynamic.trans cached
  have missed : CacheWorld.initial.step middleware (.lookup other 0) = .initial := by
    simp only [CacheWorld.step]
    rw [if_neg (by simp [cached'])]
    rfl
  have kept : CacheWorld.initial.step middleware (.complete other emptyResponse 0) =
      ⟨OrderedDict.empty.set (cacheKey other) ⟨other, entry.toDict⟩, []⟩ := by
    simp only [CacheWorld.step]
    rw [if_neg (by simp [cached']), stores]
    rfl
  simp only [CacheWorld.after, List.foldl_cons, List.foldl_nil, missed, kept]
  simp only [CacheWorld.step]
  rw [if_neg (by simp [cached]), ← twin.key, OrderedDict.get?_set, if_pos rfl]
  simp [serves]

/-- Exactly the unambiguous requests are only ever served answers to the same question. -/
theorem hits_answer_the_same_question_iff (middleware : CacheMiddleware) (request : GetRequest) :
    AnswersOwn middleware request ↔ Unambiguous request := by
  constructor
  · intro own
    by_contra unclear
    obtain ⟨other, twin⟩ := exists_twin unclear
    have cached : isDynamicPath request.path = false :=
      eq_false_of_ne_true fun dynamic => unclear (.inl dynamic)
    exact twin.differs (own _ _ (served_of_twin cached twin))
  · intro clear events served hit
    obtain ⟨key, cached, -⟩ := (keyed_after events).hits _ _ hit
    exact clear.sameQuestion cached key

end Keys

/-! ## A collision -/

/-- A digest that has the form of one. -/
@[reducible] def zeroDigest : PermissionDigest where
  hexdigest _ := String.ofList (List.replicate 64 '0')
  length_hexdigest _ := by simp
  hexdigest_hex _ c mem := by
    rw [String.toList_ofList] at mem
    rw [List.eq_of_mem_replicate mem]
    decide

/-- A client with every default. -/
def someClient : ClientInfo := ⟨"trader", ⟨[], [], 0, 0, 0, "client"⟩⟩

/-- A symbol and a query with a colon each make one key. -/
theorem colon_moves_to_the_path :
    ¬@AnswersOwn zeroDigest asciiLowercase ⟨60, 524288⟩ ⟨"/api/v1/alpaca/bars", "t=9:30",
      someClient⟩ := by
  let _ := zeroDigest
  let _ := asciiLowercase
  intro own
  have cached : isDynamicPath "/api/v1/alpaca/bars" = false := by decide +kernel
  have twin : Twin ⟨"/api/v1/alpaca/bars", "t=9:30", someClient⟩
      ⟨"/api/v1/alpaca/bars:t=9", "30", someClient⟩ := by
    refine ⟨by decide +kernel, by decide +kernel, fun question => ?_⟩
    exact absurd question.query (by decide +kernel)
  exact twin.differs (own _ _ (served_of_twin cached twin))

/-- A request without colons is only served its own answers. -/
theorem plain_request_is_own :
    @AnswersOwn zeroDigest asciiLowercase ⟨60, 524288⟩ ⟨"/api/v1/alpaca/orders", "status=open",
      someClient⟩ := by
  let _ := zeroDigest
  let _ := asciiLowercase
  refine (hits_answer_the_same_question_iff _ _).mpr (.inr ?_)
  rw [if_neg (by decide +kernel)]
  exact ⟨.inl (by decide +kernel), by decide +kernel, by decide +kernel⟩

end Middleware
end DataGateway
