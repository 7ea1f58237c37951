import DataGateway.Symbology.Canonical
import DataGateway.Python.OrderedDict

/-!
# The cache of a symbol resolver

A `SymbolResolver` keeps what it resolved under the text it read.  Only `AAPL Jan17 200C` is
resolved by the clock: once its expiration has passed, a new resolver reads the next year's contract
while the cache still answers with the old one.
-/

namespace DataGateway

namespace Symbology

open Text

/-! ## Months and days -/

/-- The upcoming date is not in the past. -/
theorem upcoming_not_before {today date : Date} {month day : Nat}
    (found : upcoming today month day = some date) : date.before today = false := by
  unfold upcoming at found
  split at found
  next => cases found
  next expiration made =>
    split at found
    next =>
      have year := (Date.make_eq_some found).1
      rw [Bool.eq_false_iff]
      intro before
      rw [Date.before_iff] at before
      omega
    next later =>
      obtain rfl := Option.some.inj found
      simpa using later

/-- A month and day that once named a date name it until the date has passed. -/
theorem upcoming_iff {earlier today date : Date} {month day : Nat}
    (ordered : today.before earlier = false) (found : upcoming earlier month day = some date) :
    upcoming today month day = some date ↔ date.before today = false := by
  refine ⟨upcoming_not_before, fun ahead => ?_⟩
  rw [Bool.eq_false_iff, ne_eq, Date.before_iff] at ordered ahead
  unfold upcoming at found
  split at found
  next => cases found
  next expiration made =>
    obtain ⟨year, months, days⟩ := Date.make_eq_some made
    split at found
    next passed =>
      -- the date is next year's, and today is in the earlier year or in the next one
      have nextYear := Date.make_eq_some found
      rw [Date.before_iff] at passed
      by_cases same : today.year = earlier.year
      · rw [upcoming, same, made]
        dsimp only
        rw [if_pos (by rw [Date.before_iff]; omega)]
        exact found
      · have next : today.year = earlier.year + 1 := by omega
        rw [upcoming, next, found]
        dsimp only
        rw [if_neg (by rw [Date.before_iff]; omega)]
    next =>
      obtain rfl := Option.some.inj found
      have same : today.year = earlier.year := by omega
      rw [upcoming, same, made]
      dsimp only
      rw [if_neg (by rw [Date.before_iff]; omega)]

section Table

variable [Unicode]

/-- The text that `resolve` looks at. -/
def resolvedText (symbol : String) : List Char := upperChars (stripChars symbol.toList)

/-- Only the pattern of a month and a day is left to match. -/
structure ReadsClock (text : List Char) : Prop where
  stock : stockPattern text = false
  occ : occPattern text = none
  forex : ((pairPattern 3 3 3 3 text).filter fun pair =>
    forexCurrencies.contains (String.ofList pair.1)) = none
  crypto : pairPattern 2 5 3 4 text = none
  date : humanDatePattern (stripChars text) = none
  month : (humanMonthPattern (stripChars text)).isSome = true

/-- Every other text is resolved alike on all days. -/
theorem resolve_of_not_readsClock {symbol : String} (other : ¬ReadsClock (resolvedText symbol))
    (earlier today : Date) : resolve today symbol = resolve earlier symbol := by
  unfold resolvedText at other
  unfold resolve
  generalize upperChars (stripChars symbol.toList) = text at other ⊢
  dsimp only
  by_cases stock : stockPattern text = true
  · rw [if_pos stock, if_pos stock]
  rw [if_neg stock, if_neg stock]
  cases occ : occPattern text with
  | some groups => rfl
  | none =>
      cases forex : (pairPattern 3 3 3 3 text).filter fun pair =>
          forexCurrencies.contains (String.ofList pair.1) with
      | some pair => rfl
      | none =>
          cases crypto : pairPattern 2 5 3 4 text with
          | some pair => rfl
          | none =>
              unfold parseHumanOption
              dsimp only
              cases date : humanDatePattern (stripChars text) with
              | some groups => rfl
              | none =>
                  cases month : humanMonthPattern (stripChars text) with
                  | none => rfl
                  | some groups =>
                      exact absurd
                        ⟨by simpa using stock, occ, forex, crypto, date, by simp [month]⟩ other

/-- Such a text names a month and a day, and is an option that expires on the next such date. -/
theorem resolve_of_readsClock {symbol : String} (clock : ReadsClock (resolvedText symbol)) :
    (∃ error, ∀ today, resolve today symbol = .error error) ∨
      ∃ (root : List Char) (month day : Nat) (strike : Decimal) (side : OptionType), ∀ today,
        resolve today symbol = (upcoming today month day).elim (.error .date) fun expiration =>
          resolvedOption none ⟨root, expiration, strike, side⟩ := by
  obtain ⟨⟨root, month, day, strike, side⟩, groups⟩ := Option.isSome_iff_exists.mp clock.month
  have read (today : Date) :
      resolve today symbol = parseHumanOption today (resolvedText symbol) := by
    obtain ⟨stock, occ, forex, crypto, -, -⟩ := clock
    unfold resolvedText at stock occ forex crypto ⊢
    simp only [resolve, stock, occ, forex, crypto, Bool.false_eq_true, if_false]
  simp only [read, parseHumanOption, clock.date, groups]
  generalize monthNumber (month.map Char.toUpper) = month
  generalize decimalValue day = day
  cases Decimal.ofChars strike with
  | none => exact .inl ⟨_, fun _ => rfl⟩
  | some price =>
      refine .inr ⟨upperChars root, month, day, price, side, fun today => ?_⟩
      dsimp only
      cases upcoming today month day with
      | none => rfl
      | some expiration => rfl

/-- What was resolved on an earlier day is resolved again exactly when it is not an option read by
the clock that has expired since. -/
theorem resolve_again_iff {earlier today : Date} {symbol : String} {entry : ResolvedSymbol}
    (ordered : today.before earlier = false) (result : resolve earlier symbol = .ok entry) :
    resolve today symbol = .ok entry ↔ ¬(ReadsClock (resolvedText symbol) ∧
      ∃ terms, entry.kind = .option terms ∧ terms.expiration.before today = true) := by
  by_cases clock : ReadsClock (resolvedText symbol)
  · rcases resolve_of_readsClock clock with ⟨error, always⟩ |
      ⟨root, month, day, strike, side, always⟩
    · rw [always] at result
      cases result
    · rw [always] at result ⊢
      cases found : upcoming earlier month day with
      | none =>
          rw [found] at result
          cases result
      | some expiration =>
          rw [found, Option.elim_some] at result
          obtain ⟨occ, written, rfl⟩ := resolvedOption_eq_ok result
          have valid := upcoming_iff ordered found
          constructor
          · rintro again ⟨-, terms, option, expired⟩
            obtain rfl := ResolvedKind.option.inj option
            cases next : upcoming today month day with
            | none =>
                rw [next] at again
                cases again
            | some other =>
                rw [next, Option.elim_some] at again
                obtain ⟨_, -, same⟩ := resolvedOption_eq_ok again
                have date := congrArg OptionTerms.expiration
                  (ResolvedKind.option.inj (congrArg ResolvedSymbol.kind same))
                dsimp only at date
                rw [valid.mp (next.trans (congrArg some date.symm))] at expired
                cases expired
          · intro fresh
            have ahead : expiration.before today = false := by
              rw [Bool.eq_false_iff]
              exact fun expired => fresh ⟨clock, _, rfl, expired⟩
            rw [valid.mpr ahead, Option.elim_some]
            exact result
  · rw [resolve_of_not_readsClock clock earlier today]
    exact iff_of_true result fun ⟨yes, _⟩ => clock yes

/-! ## The cache -/

/-- A `SymbolResolver`. -/
structure SymbolResolver where
  /-- `_resolve_cache`. -/
  resolveCache : OrderedDict (List Char) ResolvedSymbol

namespace SymbolResolver

/-- `_SYMBOL_RESOLVE_CACHE_MAX`. -/
def resolveCacheMax : Nat := 4096

/-- `SymbolResolver()`. -/
def new : SymbolResolver := ⟨.empty⟩

/-- `_cache_resolved`. -/
def cacheResolved (resolver : SymbolResolver) (text : List Char) (resolved : ResolvedSymbol) :
    SymbolResolver :=
  let cache := if resolveCacheMax ≤ resolver.resolveCache.size then .empty
      else resolver.resolveCache
  ⟨cache.set text resolved⟩

/-- `resolve`: the answer, and the resolver after the call. -/
def resolve (resolver : SymbolResolver) (today : Date) (symbol : String) :
    Except Unparsable ResolvedSymbol × SymbolResolver :=
  match resolver.resolveCache.get? (resolvedText symbol) with
  | some cached => (.ok cached, resolver)
  | none =>
      match Symbology.resolve today symbol with
      | .error error => (.error error, resolver)
      | .ok resolved =>
          if resolved.kind = .unknown then (.ok resolved, resolver)
          else (.ok resolved, resolver.cacheResolved (resolvedText symbol) resolved)

/-- The resolver after a history of calls. -/
def after (calls : List (Date × String)) : SymbolResolver :=
  calls.foldl (fun resolver call => (resolver.resolve call.1 call.2).2) new

/-- The cache answers for the text with an option that was read by the clock and has expired. -/
def Stale (resolver : SymbolResolver) (today : Date) (text : List Char) : Prop :=
  ReadsClock text ∧ ∃ entry terms, resolver.resolveCache.get? text = some entry ∧
    entry.kind = .option terms ∧ terms.expiration.before today = true

/-- Every entry was resolved by an earlier call. -/
def FromCalls (resolver : SymbolResolver) (calls : List (Date × String)) : Prop :=
  ∀ item ∈ resolver.resolveCache.items, ∃ call ∈ calls,
    resolvedText call.2 = item.1 ∧ Symbology.resolve call.1 call.2 = .ok item.2

variable {resolver : SymbolResolver} {calls : List (Date × String)}

/-- One call keeps the entries accounted for. -/
theorem FromCalls.resolve (from_ : resolver.FromCalls calls) (today : Date) (symbol : String) :
    (resolver.resolve today symbol).2.FromCalls (calls ++ [(today, symbol)]) := by
  have kept : resolver.FromCalls (calls ++ [(today, symbol)]) := by
    intro item mem
    obtain ⟨call, called, eq⟩ := from_ item mem
    exact ⟨call, List.mem_append_left _ called, eq⟩
  unfold SymbolResolver.resolve
  split
  · exact kept
  · split
    · exact kept
    next resolved result =>
      split
      · exact kept
      · intro item mem
        rcases OrderedDict.mem_set.mp mem with rfl | ⟨mem, -⟩
        · exact ⟨(today, symbol), by simp, rfl, result⟩
        · split at mem
          · cases mem
          · exact kept item mem

theorem fromCalls_after (calls : List (Date × String)) : (after calls).FromCalls calls := by
  induction calls using List.reverseRecOn with
  | nil =>
      intro item mem
      cases mem
  | append_singleton calls call ih =>
      rw [after, List.foldl_append]
      exact ih.resolve call.1 call.2

/-- Resolution depends on the text only. -/
theorem resolve_congr {symbol other : String} (same : resolvedText symbol = resolvedText other)
    (today : Date) : Symbology.resolve today symbol = Symbology.resolve today other := by
  unfold resolvedText at same
  simp only [Symbology.resolve, same]

/-- Without an entry the patterns decide. -/
theorem resolve_of_missing {symbol : String}
    (missing : resolver.resolveCache.get? (resolvedText symbol) = none) (today : Date) :
    (resolver.resolve today symbol).1 = Symbology.resolve today symbol := by
  unfold SymbolResolver.resolve
  rw [missing]
  dsimp only
  cases Symbology.resolve today symbol with
  | error error => rfl
  | ok resolved =>
      dsimp only
      split <;> rfl

/-- After any history of earlier calls a resolver answers like a new one exactly when its entry for
the text has not gone stale. -/
theorem resolve_eq_fresh_iff {today : Date} {symbol : String}
    (ordered : ∀ call ∈ calls, today.before call.1 = false) :
    ((after calls).resolve today symbol).1 = (new.resolve today symbol).1 ↔
      ¬(after calls).Stale today (resolvedText symbol) := by
  have fresh : (new.resolve today symbol).1 = Symbology.resolve today symbol :=
    resolve_of_missing rfl today
  rw [fresh]
  cases found : (after calls).resolveCache.get? (resolvedText symbol) with
  | none =>
      refine iff_of_true (resolve_of_missing found today) ?_
      rintro ⟨-, entry, terms, held, -⟩
      rw [found] at held
      cases held
  | some entry =>
      have hit : ((after calls).resolve today symbol).1 = .ok entry := by
        unfold SymbolResolver.resolve
        rw [found]
      obtain ⟨call, called, text, result⟩ :=
        fromCalls_after calls _ (OrderedDict.get?_eq_some.mp found)
      rw [resolve_congr text] at result
      have again := resolve_again_iff (ordered call called) result
      rw [hit]
      constructor
      · rintro same ⟨clock, held, terms, eq, option, expired⟩
        obtain rfl := Option.some.inj (found.symm.trans eq)
        exact again.mp same.symm ⟨clock, terms, option, expired⟩
      · intro current
        refine (again.mpr ?_).symm
        rintro ⟨clock, terms, option, expired⟩
        exact current ⟨clock, entry, terms, found, option, expired⟩

end SymbolResolver

end Table

namespace SymbolResolver

/-- A day after the expiration the cache answers with the expired contract, and a new resolver with
the next year's. -/
theorem expired_contract_is_answered :
    let _ := asciiUnicode
    let resolver := after [(⟨2025, 1, 10, by decide⟩, "AAPL Jan17 200C")]
    let answer (year : Nat) (valid : isDate year 1 17 = true) (symbol : String) :
        Except Unparsable ResolvedSymbol :=
      .ok ⟨.option ⟨"AAPL".toList, ⟨year, 1, 17, valid⟩, ⟨200, 0⟩, .call⟩, symbol.toList,
        some symbol.toList⟩
    (resolver.resolve ⟨2025, 1, 18, by decide⟩ "AAPL Jan17 200C").1 =
        answer 2025 (by decide) "AAPL250117C00200000" ∧
      (new.resolve ⟨2025, 1, 18, by decide⟩ "AAPL Jan17 200C").1 =
        answer 2026 (by decide) "AAPL260117C00200000" ∧
      (resolver.resolve ⟨2025, 1, 18, by decide⟩ "AAPL Jan17 200C").1 ≠
        (new.resolve ⟨2025, 1, 18, by decide⟩ "AAPL Jan17 200C").1 := by
  decide +kernel

/-- On the expiration day the cache still answers like a new resolver. -/
theorem expiring_contract_is_answered :
    let _ := asciiUnicode
    let resolver := after [(⟨2025, 1, 10, by decide⟩, "AAPL Jan17 200C")]
    (resolver.resolve ⟨2025, 1, 17, by decide⟩ "AAPL Jan17 200C").1 =
      (new.resolve ⟨2025, 1, 17, by decide⟩ "AAPL Jan17 200C").1 := by
  intro _ resolver
  refine (resolve_eq_fresh_iff ?_).mpr ?_
  · intro call mem
    obtain rfl := List.mem_singleton.mp mem
    decide
  · rintro ⟨-, entry, terms, found, option, expired⟩
    have held : resolver.resolveCache.get? (resolvedText "AAPL Jan17 200C") =
        some ⟨.option ⟨"AAPL".toList, ⟨2025, 1, 17, by decide⟩, ⟨200, 0⟩, .call⟩,
          "AAPL250117C00200000".toList, some "AAPL250117C00200000".toList⟩ := by decide +kernel
    obtain rfl := Option.some.inj (held.symm.trans found)
    obtain rfl := ResolvedKind.option.inj option
    exact absurd expired (by decide)

end SymbolResolver

end Symbology
end DataGateway
