import DataGateway.Python.OrderedDict
import Mathlib.Data.Finset.Sort

/-!
# What a poller remembers and what it offers

`DedupMixin` remembers event ids in the order in which they were seen, at most `_MAX_SEEN_IDS` of
them.  Before a poller offers a batch it leaves out the envelopes whose id it remembers and those
whose key Redis holds.  Envelopes without an id always go through.
-/

namespace DataGateway
namespace Pollers

/-- `_seen_ids`, with the time in microseconds. -/
abbrev SeenIds := OrderedDict String Int

/-- `_MAX_SEEN_IDS`. -/
def maxSeenIds : Nat := 200000

/-- `_is_duplicate`. -/
def isDuplicate (seen : SeenIds) (eventId : String) : Bool := seen.contains eventId

/-- `_mark_seen`. -/
def markSeen (now : Int) (seen : SeenIds) (eventId : String) : SeenIds :=
  let marked := (seen.set eventId now).moveToEnd eventId
  if maxSeenIds < marked.size then marked.popFirst else marked

/-- `_cleanup_cache`, which stops at the first id that has not expired. -/
def cleanupCache (cacheTtlSeconds now : Int) (seen : SeenIds) : SeenIds where
  items := seen.items.dropWhile fun item => cacheTtlSeconds * 1000000 < now - item.2
  nodup := seen.nodup.sublist ((List.dropWhile_sublist _).map _)

/-- An id is marked, or was remembered. -/
theorem mem_of_contains_markSeen {now : Int} {seen : SeenIds} {eventId id : String}
    (held : (markSeen now seen eventId).contains id = true) :
    id = eventId ∨ seen.contains id = true := by
  simp only [OrderedDict.contains, Option.isSome_iff_exists, OrderedDict.get?_eq_some] at held ⊢
  obtain ⟨value, mem⟩ := held
  have marked : (id, value) ∈ ((seen.set eventId now).moveToEnd eventId).items := by
    unfold markSeen at mem
    dsimp only at mem
    split at mem
    · exact OrderedDict.mem_of_mem_popFirst mem
    · exact mem
  rw [OrderedDict.mem_moveToEnd, OrderedDict.mem_set] at marked
  rcases marked with same | ⟨before, -⟩
  · exact .inl (congrArg Prod.fst same)
  · exact .inr ⟨value, before⟩

theorem contains_of_contains_cleanupCache {cacheTtlSeconds now : Int} {seen : SeenIds}
    {id : String} (held : (cleanupCache cacheTtlSeconds now seen).contains id = true) :
    seen.contains id = true := by
  simp only [OrderedDict.contains, Option.isSome_iff_exists, OrderedDict.get?_eq_some] at held ⊢
  exact held.imp fun _ mem => (List.dropWhile_sublist _).subset mem

/-- An envelope: its id, its feed and the rest. -/
structure Envelope (Body : Type) where
  /-- The text of `event_id`, when the envelope has one. -/
  eventId : Option String
  /-- `feed`. -/
  feed : Option String
  body : Body
  deriving DecidableEq

/-- `str(envelope.get("event_id", ""))`. -/
def Envelope.idText {Body : Type} (envelope : Envelope Body) : String := envelope.eventId.getD ""

/-- What `to_publish` lists of an envelope. -/
structure Pending (Body : Type) where
  envelope : Envelope Body
  eventId : String
  cacheKey : Option String

/-- The lists that the first loop builds, and the duplicates that it counts. -/
structure Selection (Body : Type) where
  duplicates : Nat
  toPublish : List (Pending Body)
  /-- `dedupe_items`: an id and its key in Redis. -/
  dedupeItems : List (String × String)

variable {Body : Type}

/-- The loop of `_publish_envelopes` over the batch. -/
def select (seen : SeenIds) (dedupePrefix : String) : List (Envelope Body) → Selection Body
  | [] => ⟨0, [], []⟩
  | envelope :: envelopes =>
      let later := select seen dedupePrefix envelopes
      let eventId := envelope.idText
      if eventId = "" then { later with toPublish := ⟨envelope, "", none⟩ :: later.toPublish }
      else if isDuplicate seen eventId then { later with duplicates := later.duplicates + 1 }
      else
        let cacheKey := dedupePrefix ++ ":" ++ eventId
        { later with
          toPublish := ⟨envelope, eventId, some cacheKey⟩ :: later.toPublish
          dedupeItems := (eventId, cacheKey) :: later.dedupeItems }

/-- The store of the keys that were published. -/
structure RedisDedupe where
  /-- `mget`: the keys found; `none` raises. -/
  mget : List String → Option (List String)
  /-- `set_many`; `false` raises. -/
  setMany : List String → Bool

/-- `_load_redis_duplicate_ids` and `_check_redis_duplicates`: a failed read reports nothing. -/
def loadRedisDuplicateIds (redis : Option RedisDedupe) (dedupeItems : List (String × String)) :
    Finset String :=
  match redis with
  | none => ∅
  | some redis =>
      if dedupeItems = [] then ∅
      else match redis.mget (dedupeItems.map Prod.snd) with
        | none => ∅
        | some found => ((dedupeItems.filter fun item => item.2 ∈ found).map Prod.fst).toFinset

theorem mem_loadRedisDuplicateIds {store : RedisDedupe} {dedupeItems : List (String × String)}
    {found : List String} {eventId cacheKey : String} (asked : (eventId, cacheKey) ∈ dedupeItems)
    (read : store.mget (dedupeItems.map Prod.snd) = some found) (mem : cacheKey ∈ found) :
    eventId ∈ loadRedisDuplicateIds (some store) dedupeItems := by
  simp only [loadRedisDuplicateIds, if_neg (List.ne_nil_of_mem asked), read, List.mem_toFinset,
    List.mem_map, List.mem_filter, decide_eq_true_eq]
  exact ⟨_, ⟨asked, mem⟩, rfl⟩

/-- The envelopes that are left of a batch, and the duplicates. -/
def toPublish (seen : SeenIds) (redis : Option RedisDedupe) (dedupePrefix : String)
    (envelopes : List (Envelope Body)) : List (Pending Body) × Nat :=
  let selection := select seen dedupePrefix envelopes
  let redisDuplicates := loadRedisDuplicateIds redis selection.dedupeItems
  (selection.toPublish.filter fun item => item.eventId = "" ∨ item.eventId ∉ redisDuplicates,
    selection.duplicates + redisDuplicates.card)

variable {seen : SeenIds} {redis : Option RedisDedupe} {dedupePrefix : String}

/-- What the lists say of an envelope that is offered. -/
structure Pending.Fits (seen : SeenIds) (dedupePrefix : String) (items : List (String × String))
    (pending : Pending Body) : Prop where
  idText : pending.eventId = pending.envelope.idText
  unseen : pending.eventId ≠ "" → seen.contains pending.eventId = false
  asked : pending.eventId ≠ "" → (pending.eventId, dedupePrefix ++ ":" ++ pending.eventId) ∈ items

theorem fits_of_mem_select {envelopes : List (Envelope Body)} :
    ∀ pending ∈ (select seen dedupePrefix envelopes).toPublish,
      pending.Fits seen dedupePrefix (select seen dedupePrefix envelopes).dedupeItems := by
  induction envelopes with
  | nil => exact fun pending mem => absurd mem List.not_mem_nil
  | cons envelope envelopes ih =>
      intro pending mem
      unfold select at mem ⊢
      dsimp only at mem ⊢
      split at mem
      next unnamed =>
        rw [if_pos unnamed]
        rcases List.mem_cons.mp mem with rfl | later
        · exact ⟨unnamed.symm, fun named => absurd rfl named, fun named => absurd rfl named⟩
        · exact ih pending later
      next named =>
        rw [if_neg named]
        split at mem
        next duplicate =>
          rw [if_pos duplicate]
          exact ih pending mem
        next fresh =>
          rw [if_neg fresh]
          rcases List.mem_cons.mp mem with rfl | later
          · exact ⟨rfl, fun _ => Bool.eq_false_iff.mpr fresh, fun _ => List.mem_cons_self⟩
          · obtain ⟨idText, unseen, asked⟩ := ih pending later
            exact ⟨idText, unseen, fun named => List.mem_cons_of_mem _ (asked named)⟩

theorem sublist_select (envelopes : List (Envelope Body)) :
    ((select seen dedupePrefix envelopes).toPublish.map Pending.envelope).Sublist envelopes := by
  induction envelopes with
  | nil => exact .refl _
  | cons envelope envelopes ih =>
      unfold select
      dsimp only
      split
      · exact ih.cons_cons envelope
      · split
        · exact ih.cons envelope
        · exact ih.cons_cons envelope

/-- What is left of a batch keeps its order. -/
theorem sublist_toPublish (envelopes : List (Envelope Body)) :
    ((toPublish seen redis dedupePrefix envelopes).1.map Pending.envelope).Sublist envelopes :=
  (List.filter_sublist.map _).trans (sublist_select envelopes)

/-- Redis was asked for the key of the id and found it. -/
def RedisReports (redis : Option RedisDedupe) (seen : SeenIds) (dedupePrefix : String)
    (envelopes : List (Envelope Body)) (eventId : String) : Prop :=
  ∃ store found, redis = some store ∧
    store.mget ((select seen dedupePrefix envelopes).dedupeItems.map Prod.snd) = some found ∧
    dedupePrefix ++ ":" ++ eventId ∈ found

/-- An envelope with an id is offered when the id is neither remembered nor found in Redis. -/
theorem fresh_of_mem_toPublish {envelopes : List (Envelope Body)} {pending : Pending Body}
    (mem : pending ∈ (toPublish seen redis dedupePrefix envelopes).1) :
    pending.eventId = pending.envelope.idText ∧ (pending.envelope.idText ≠ "" →
      seen.contains pending.envelope.idText = false ∧
        ¬RedisReports redis seen dedupePrefix envelopes pending.envelope.idText) := by
  obtain ⟨selected, kept⟩ := List.mem_filter.mp mem
  obtain ⟨idText, unseen, asked⟩ := fits_of_mem_select pending selected
  rw [idText] at unseen asked kept
  refine ⟨idText, fun named => ⟨unseen named, ?_⟩⟩
  rintro ⟨store, found, rfl, read, mem⟩
  exact (of_decide_eq_true kept).elim named
    (· (mem_loadRedisDuplicateIds (asked named) read mem))

end Pollers
end DataGateway
