import DataGateway.Backfill.Timestamps

/-!
# What is validated and what is published

The timestamp of an envelope names the instant that was validated when the field that both read
holds a point in time, a day, or a text that both readings take for the same.  A number is never
read by `wrap_event`, which then takes the time of its clock.
-/

namespace DataGateway
namespace Backfill

open Envelope

/-! ## Fields -/

section

variable {Time : Type} {item : Payload Time}

theorem firstPresent_absent {key : String} {keys : List String} (absent : item.get key = .none) :
    firstPresent item (key :: keys) = firstPresent item keys := by
  rw [firstPresent, absent]

theorem firstPresent_present {key : String} {keys : List String} (present : item.get key ≠ .none) :
    firstPresent item (key :: keys) = item.get key := by
  rw [firstPresent]
  split
  next absent => exact absurd absent present
  · rfl

/-- The first field that is not `None` is the first one that is true, when it is true. -/
theorem firstTrue_eq_firstPresent {keys : List String}
    (truthy : (firstPresent item keys).truthy = true) :
    item.firstTrue keys = firstPresent item keys := by
  induction keys with
  | nil => rfl
  | cons key keys ih =>
      by_cases absent : item.get key = .none
      · rw [firstPresent_absent absent] at truthy ⊢
        cases keys with
        | nil => cases truthy
        | cons next keys =>
            rw [Payload.firstTrue, absent, Value.orElse, if_neg nofun]
            · exact ih truthy
            · nofun
      · rw [firstPresent_present absent] at truthy ⊢
        cases keys with
        | nil => rfl
        | cons next keys =>
            rw [Payload.firstTrue, Value.orElse, if_pos truthy]
            nofun

/-- The first field that is not `None` is one of the fields. -/
theorem firstPresent_mem {keys : List String} (present : firstPresent item keys ≠ .none) :
    ∃ key, item.get key = firstPresent item keys := by
  induction keys with
  | nil => exact absurd rfl present
  | cons key keys ih =>
      by_cases absent : item.get key = .none
      · rw [firstPresent_absent absent] at present ⊢
        exact ih present
      · exact ⟨key, (firstPresent_present absent).symm⟩

end

section

variable {Time : Type} [StrictTimes Time] {item : Payload Time} {timestamp : Time}

/-- What is relied on of `datetime`: a time with a zone is left alone, its zone is changed without
changing the instant, a text for a day is read as its midnight by `datetime.fromisoformat` as well,
which reads no other instant of a text for white space around it or a `Z` in it, and there is more
than one instant. -/
structure LawfulTimes (Time : Type) [StrictTimes Time] : Prop where
  toUtc_aware : ∀ time : Time, StrictTimes.aware time = true → DateTimes.toUtc time = time
  instant_astimezone : ∀ time utc : Time, StrictTimes.astimezone time = some utc →
    StrictTimes.instant utc = StrictTimes.instant time
  day : ∀ (text : String) (midnight : Time), StrictTimes.dateFromisoformat text = some midnight →
    ∃ naive : Time, DateTimes.fromisoformat text = some naive ∧
      StrictTimes.instant (DateTimes.toUtc naive) = StrictTimes.instant midnight
  stripped : ∀ (text : String) (sent read : Time),
    DateTimes.fromisoformat (withOffset text) = some sent →
    DateTimes.fromisoformat (normalized text) = some read →
    StrictTimes.instant (DateTimes.toUtc sent) = StrictTimes.instant (DateTimes.toUtc read)
  other : ∀ instant, ∃ time : Time, StrictTimes.instant time ≠ instant

/-- Every `date` of a record counts as true. -/
def DatesTrue (item : Payload Time) : Prop :=
  ∀ key object, item.get key = .scalar (.object object) → object.midnight.isSome = true →
    object.truthy = true

/-- The envelope's timestamp is read of a value, and names an instant. -/
def Names (value : Value Time) (instant : Int) : Prop :=
  ∃ time : Time, parseEventTimestamp value = some time ∧ StrictTimes.instant time = instant

/-- Both readings of a record take it for the same. -/
def ReadAlike (item : Payload Time) (instant : Int) : Prop :=
  match firstPresent item timestampKeys with
  | .dateTime _ => True
  | .scalar (.object object) => object.midnight.isSome = true ∨
      object.truthy = false ∧ Names (item.firstTrue timestampKeys) instant
  | .int number => number = 0 ∧ Names (item.firstTrue timestampKeys) instant
  | .str text => normalized text = withOffset text ∨
      (DateTimes.fromisoformat (withOffset text) : Option Time).isSome = true
  | _ => False

/-! ## The strict reading -/

theorem inUtc_ok {time utc : Time} (read : inUtc time = .ok (some utc)) :
    StrictTimes.aware time = true ∧ StrictTimes.astimezone time = some utc := by
  unfold inUtc at read
  split at read
  · cases read
  next zoned =>
    split at read
    next same found =>
      obtain rfl := Option.some.inj (Except.ok.inj read)
      exact ⟨by simpa using zoned, found⟩
    · cases read

/-- An accepted record has a timestamp. -/
theorem validateReturnedItem_ok [Unicode] {symbol feed : String} {chunkStart chunkEnd : DateTime}
    (accepted : validateReturnedItem symbol chunkStart chunkEnd feed item = .ok timestamp) :
    strictTimestamp (firstPresent item timestampKeys) = .ok (some timestamp) := by
  unfold validateReturnedItem at accepted
  split at accepted
  · cases accepted
  · cases accepted
  next read found =>
    split at accepted
    · cases accepted
    · split at accepted
      · cases accepted
      · exact Except.ok.inj accepted ▸ found

/-! ## Both readings -/

/-- What is read strictly of a text is what `datetime.fromisoformat` reads of it. -/
theorem fromisoformat_of_strict (lawful : LawfulTimes Time) {text : String}
    (read : strictTimestamp (.str text : Value Time) = .ok (some timestamp)) :
    ∃ time : Time, DateTimes.fromisoformat (normalized text) = some time ∧
      StrictTimes.instant (DateTimes.toUtc time) = StrictTimes.instant timestamp := by
  rw [strictTimestamp] at read
  split at read
  · cases read
  split at read
  next midnight found =>
    obtain ⟨-, utc⟩ := inUtc_ok read
    obtain ⟨naive, again, instant⟩ := lawful.day _ midnight found
    exact ⟨naive, again, instant.trans (lawful.instant_astimezone midnight timestamp utc).symm⟩
  · split at read
    next time found =>
      obtain ⟨zoned, utc⟩ := inUtc_ok read
      refine ⟨time, found, ?_⟩
      rw [lawful.toUtc_aware time zoned, lawful.instant_astimezone time timestamp utc]
    · cases read

/-- A text that is accepted names one instant when both readings take it for the same, or the second
one reads it at all; otherwise that one reads nothing. -/
theorem names_of_text (lawful : LawfulTimes Time) {text : String}
    (read : strictTimestamp (.str text : Value Time) = .ok (some timestamp)) :
    Names (.str text : Value Time) (StrictTimes.instant timestamp) ↔
      normalized text = withOffset text ∨
        (DateTimes.fromisoformat (withOffset text) : Option Time).isSome = true := by
  obtain ⟨time, found, instant⟩ := fromisoformat_of_strict lawful read
  have parsed : parseEventTimestamp (.str text : Value Time) =
      (DateTimes.fromisoformat (withOffset text)).map DateTimes.toUtc := rfl
  unfold Names
  rw [parsed]
  constructor
  · rintro ⟨_, some_, -⟩
    obtain ⟨sent, reads, -⟩ := Option.map_eq_some_iff.mp some_
    exact .inr (Option.isSome_of_eq_some reads)
  · intro reads
    obtain ⟨sent, reads⟩ : ∃ sent : Time, DateTimes.fromisoformat (withOffset text) =
        some sent := by
      rcases reads with same | reads
      · exact ⟨time, same ▸ found⟩
      · exact Option.isSome_iff_exists.mp reads
    rw [reads]
    exact ⟨_, rfl, (lawful.stripped text sent time reads found).trans instant⟩

theorem names_toUtc (lawful : LawfulTimes Time) {value : Value Time} {time : Time}
    (parsed : parseEventTimestamp value = some (DateTimes.toUtc time))
    (read : inUtc time = .ok (some timestamp)) : Names value (StrictTimes.instant timestamp) := by
  obtain ⟨zoned, utc⟩ := inUtc_ok read
  refine ⟨_, parsed, ?_⟩
  rw [lawful.toUtc_aware time zoned, lawful.instant_astimezone time timestamp utc]

/-- What the envelope reads names the validated instant exactly when both readings take the record
for the same. -/
theorem names_iff (lawful : LawfulTimes Time) (dates : DatesTrue item)
    (read : strictTimestamp (firstPresent item timestampKeys) = .ok (some timestamp)) :
    Names (item.firstTrue timestampKeys) (StrictTimes.instant timestamp) ↔
      ReadAlike item (StrictTimes.instant timestamp) := by
  have first := @firstTrue_eq_firstPresent _ item timestampKeys
  have own := @firstPresent_mem _ item timestampKeys
  unfold ReadAlike
  cases found : firstPresent item timestampKeys with
  | list items text =>
      rw [found] at read
      cases read
  | scalar value =>
      rw [found] at read first own
      cases value with
      | none => cases read
      | dateTime time =>
          rw [first rfl]
          exact iff_of_true (names_toUtc lawful rfl read) trivial
      | int number =>
          by_cases zero : number = 0
          · exact (and_iff_right zero).symm
          · rw [first (by simpa [Value.truthy, Scalar.truthy] using zero)]
            refine iff_of_false ?_ fun both => zero both.1
            rintro ⟨_, none_, -⟩
            cases none_
      | str text =>
          have some_ : text ≠ "" := by
            rintro rfl
            cases read
          rw [first (by simpa [Value.truthy, Scalar.truthy] using some_)]
          exact names_of_text lawful read
      | object object =>
          obtain ⟨key, here⟩ := own nofun
          rw [strictTimestamp] at read
          dsimp only
          cases day : object.midnight with
          | some midnight =>
              have truthy := dates key object here (by rw [day]; rfl)
              rw [first truthy]
              rw [day] at read
              obtain ⟨-, utc⟩ := inUtc_ok read
              refine iff_of_true ⟨midnight, day, ?_⟩ (.inl rfl)
              exact (lawful.instant_astimezone midnight timestamp utc).symm
          | none =>
              cases truthy : object.truthy with
              | true =>
                  rw [first truthy]
                  refine iff_of_false ?_ (by simp)
                  rintro ⟨_, parsed, -⟩
                  rw [parseEventTimestamp, day] at parsed
                  cases parsed
              | false => simp

/-- The envelope's timestamp is the text of the time of the event. -/
theorem wrapEvent_tsEvent [Unicode] {Digest : Type} {blake2b : ByteArray → Digest}
    {call : WrapCall Time} {envelope : EventEnvelope Time Digest}
    (wrapped : wrapEvent blake2b call = .ok envelope) :
    envelope.tsEvent = DateTimes.isoformat call.tsEvent := by
  unfold wrapEvent at wrapped
  obtain ⟨instrumentType, -, wrapped⟩ := bind_eq_ok wrapped
  obtain ⟨instrumentKey, -, wrapped⟩ := bind_eq_ok wrapped
  split at wrapped
  · exact Except.ok.inj wrapped ▸ rfl
  · cases wrapped

/-- Every accepted record is accepted with its timestamp. -/
theorem accepted_of_mem_zip [Unicode] {symbol feed : String} {chunkStart chunkEnd : DateTime}
    {items : List (Payload Time)} {timestamps : List Time}
    (accepted : validateReturnedItems symbol chunkStart chunkEnd feed items = .ok timestamps)
    (mem : (item, timestamp) ∈ items.zip timestamps) :
    validateReturnedItem symbol chunkStart chunkEnd feed item = .ok timestamp := by
  unfold validateReturnedItems at accepted
  induction items generalizing timestamps with
  | nil => cases mem
  | cons first rest ih =>
      rw [List.mapM_cons] at accepted
      obtain ⟨own, here, accepted⟩ := bind_eq_ok accepted
      obtain ⟨others, there, accepted⟩ := bind_eq_ok accepted
      obtain rfl := Except.ok.inj accepted
      rcases List.mem_cons.mp mem with same | mem
      · obtain ⟨rfl, rfl⟩ := Prod.mk.inj same
        exact here
      · exact ih there mem

/-- The time of the event of a record names the validated instant, whatever the clock shows. -/
def PublishedAsValidated [Unicode] (provider feed : String) (item : Payload Time)
    (timestamp : Time) : Prop :=
  ∀ now ingestNow strictEnvelopes,
    StrictTimes.instant (wrapItem provider feed now ingestNow strictEnvelopes item).tsEvent =
      StrictTimes.instant timestamp

/-- **What is validated is what is published**, for every accepted record, exactly when both
readings take it for the same. -/
theorem published_as_validated_iff [Unicode] (lawful : LawfulTimes Time)
    {symbol provider feed : String} {chunkStart chunkEnd : DateTime}
    {items : List (Payload Time)} {timestamps : List Time}
    (dates : ∀ item ∈ items, DatesTrue item)
    (accepted : validateReturnedItems symbol chunkStart chunkEnd feed items = .ok timestamps) :
    ∀ entry ∈ items.zip timestamps,
      (PublishedAsValidated provider feed entry.1 entry.2 ↔
        ReadAlike entry.1 (StrictTimes.instant entry.2)) ∧
      ∀ (Digest : Type) (blake2b : ByteArray → Digest) now ingestNow strictEnvelopes envelope,
        wrapEvent blake2b (wrapItem provider feed now ingestNow strictEnvelopes entry.1) =
            .ok envelope →
          envelope.tsEvent = DateTimes.isoformat
            (wrapItem provider feed now ingestNow strictEnvelopes entry.1).tsEvent := by
  rintro ⟨item, timestamp⟩ mem
  refine ⟨?_, fun _ _ _ _ _ _ wrapped => wrapEvent_tsEvent wrapped⟩
  have read := validateReturnedItem_ok (accepted_of_mem_zip accepted mem)
  rw [← names_iff lawful (dates item (List.of_mem_zip mem).1) read]
  unfold PublishedAsValidated Names WrapCall.tsEvent
  dsimp only [wrapItem]
  cases parsed : parseEventTimestamp (item.firstTrue timestampKeys) with
  | some time =>
      simp only [Option.getD_some, Option.some.injEq, exists_eq_left']
      exact ⟨fun same => same time time none, fun same _ _ _ => same⟩
  | none =>
      obtain ⟨now, apart⟩ := lawful.other (StrictTimes.instant timestamp)
      refine iff_of_false (fun same => apart (same now now none)) ?_
      rintro ⟨_, none_, -⟩
      cases none_

end

/-! ## A day in July -/

/-- Midnight of 2026-07-23. -/
def july : Int := Day.ordinalOf 2026 7 23 * dayMicros

/-- Midnight of 1970-01-01. -/
def epoch : Int := Day.ordinalOf 1970 1 1 * dayMicros

/-- Times as instants, with or without a zone, and the texts of one day. -/
@[reducible] def julyTimes : StrictTimes (Int × Bool) where
  isoformat _ := "2026-07-23T14:00:00+00:00"
  text _ := "2026-07-23 14:00:00+00:00"
  fromisoformat text :=
    if text = "2026-07-23" then some (july, false)
    else if text = "2026-07-23T14:00:00+00:00" then some (july + 50400000000, true)
    else none
  fromtimestamp _ := none
  toUtc time := (time.1, true)
  aware := Prod.snd
  instant := Prod.fst
  astimezone time := some time
  dateFromisoformat text := if text = "2026-07-23" then some (july, true) else none
  floatOfInt number := some number
  floatOf _ := none
  thousandth seconds := seconds / 1000
  fromSeconds seconds := some (epoch + (seconds * 1000000).floor, true)

/-- A text with an offset is one that was sent so, or with a `Z` at its end. -/
theorem eq_or_zulu_of_withOffset {text whole : String} (same : withOffset text = whole) :
    text = whole ∨ ∃ front, text = String.ofList (front ++ ['Z']) ∧
      whole = String.ofList (front ++ "+00:00".toList) := by
  subst same
  unfold withOffset
  split
  next zulu =>
    obtain ⟨front, split_⟩ := List.getLast?_eq_some_iff.mp zulu
    refine .inr ⟨front, ?_, ?_⟩
    · rw [← split_, String.ofList_toList]
    · rw [split_, List.dropLast_concat]
  · exact .inl String.ofList_toList.symm

theorem lawful_julyTimes : @LawfulTimes (Int × Bool) julyTimes := by
  let _ := julyTimes
  refine ⟨?_, ?_, ?_, ?_, fun instant => ⟨(instant + 1, true), ?_⟩⟩
  · rintro ⟨instant, _⟩ rfl
    rfl
  · rintro time _ ⟨⟩
    rfl
  · intro text midnight found
    obtain ⟨rfl, same⟩ := Option.ite_none_right_eq_some.mp found
    exact ⟨(july, false), rfl, by cases same; rfl⟩
  · intro text sent read sends reads
    -- only three texts are read as they are sent, and none of them is changed by the other reading
    have same : normalized text = withOffset text := by
      have known : withOffset text = "2026-07-23" ∨
          withOffset text = "2026-07-23T14:00:00+00:00" := by
        by_contra! neither
        rw [show DateTimes.fromisoformat (withOffset text) = none from
          (if_neg neither.1).trans (if_neg neither.2)] at sends
        cases sends
      rcases known with day | time
      · rcases eq_or_zulu_of_withOffset day with rfl | ⟨front, rfl, zoned⟩
        · decide +kernel
        · exact absurd (congrArg (fun text => text.toList.getLast?) zoned) (by simp)
      · rcases eq_or_zulu_of_withOffset time with rfl | ⟨front, rfl, zoned⟩
        · decide +kernel
        · have split_ : "2026-07-23T14:00:00".toList ++ "+00:00".toList =
              front ++ "+00:00".toList :=
            (congrArg String.toList zoned).trans String.toList_ofList
          obtain rfl := List.append_cancel_right split_
          decide +kernel
    rw [same, sends] at reads
    exact congrArg _ (congrArg _ (Option.some.inj reads))
  · show instant + 1 ≠ instant
    omega

/-- A record of a symbol with a timestamp. -/
def record (timestamp : Value (Int × Bool)) : Payload (Int × Bool) :=
  ⟨[("symbol", .str "AAPL"), ("timestamp", timestamp)], by simp⟩

/-- A timestamp with a `Z` is published as it was validated. -/
theorem zulu_timestamp_is_kept :
    @validateReturnedItems _ asciiUnicode julyTimes "AAPL" (utc july) (utc (july + 86399000000))
        "bars" [record (.str "2026-07-23T14:00:00Z")] = .ok [(july + 50400000000, true)] ∧
      @PublishedAsValidated _ julyTimes asciiUnicode "alpaca" "bars"
        (record (.str "2026-07-23T14:00:00Z")) (july + 50400000000, true) := by
  have accepted : @validateReturnedItems _ asciiUnicode julyTimes "AAPL" (utc july)
      (utc (july + 86399000000)) "bars" [record (.str "2026-07-23T14:00:00Z")] =
        .ok [(july + 50400000000, true)] := by decide +kernel
  have dates : ∀ item ∈ [record (.str "2026-07-23T14:00:00Z")], DatesTrue item := by
    intro item mem key object found
    obtain rfl := List.mem_singleton.mp mem
    unfold Payload.get at found
    cases there : (record (.str "2026-07-23T14:00:00Z")).get? key with
    | none =>
        rw [there] at found
        cases found
    | some value =>
        have entry := OrderedDict.get?_eq_some.mp there
        rw [there] at found
        cases found
        simp [record] at entry
  refine ⟨accepted, ?_⟩
  have alike := @published_as_validated_iff _ julyTimes asciiUnicode lawful_julyTimes "AAPL"
    "alpaca" "bars" _ _ _ _ dates accepted _ (.head _)
  exact alike.1.mpr (.inl (by decide +kernel))

/-- Seconds since 1970 are validated, and published with the time of the clock. -/
theorem epoch_seconds_are_lost :
    @validateReturnedItems _ asciiUnicode julyTimes "AAPL" (utc july) (utc (july + 86399000000))
        "bars" [record (.int 1784815200)] = .ok [(july + 50400000000, true)] ∧
      ¬@PublishedAsValidated _ julyTimes asciiUnicode "alpaca" "bars" (record (.int 1784815200))
        (july + 50400000000, true) := by
  refine ⟨by decide +kernel, fun published => ?_⟩
  exact absurd (published (july, true) (july, true) none) (by decide +kernel)

end Backfill
end DataGateway
