import DataGateway.Validation.DataValidator

/-!
# What accepted market data promises

A record is accepted exactly when every check passes.  The checks compare prices and sizes, and
nothing is compared with what cannot be read, so that an accepted record keeps what it promises
exactly when its prices can be read and no size is NaN; only bars are checked for the first, and
nothing for the second.
-/

namespace DataGateway
namespace Validation

/-! ## Promises -/

/-- What is validated. -/
inductive Feed
  | bar
  | quote
  | trade
  deriving DecidableEq, Repr

namespace Feed

/-- The two keys of each price. -/
def prices : Feed → List (String × String)
  | bar => [("open", "o"), ("high", "h"), ("low", "l"), ("close", "c")]
  | quote => [("bid_price", "bp"), ("ask_price", "ap")]
  | trade => [("price", "p")]

/-- The two keys of each size. -/
def sizes : Feed → List (String × String)
  | bar => [("volume", "v")]
  | quote => [("bid_size", "bs"), ("ask_size", "as")]
  | trade => [("size", "s")]

/-- Prices are positive; those of a quote may be zero. -/
def Allows : Feed → Float → Prop
  | quote, price => 0 ≤ price
  | _, price => 0 < price

end Feed

section Promises

variable [Unicode]

/-- The finite number that `float(value)` is. -/
def Value.number : Value → Option Float
  | .none => .none
  | .int whole => Floats.ofInt whole
  | .float real => (some real).filter Float.isFinite
  | .str text => (Floats.ofText text).filter Float.isFinite

/-- A number that is not negative. -/
def Value.NonNegative : Value → Prop
  | .int whole => 0 ≤ whole
  | .float real => 0 ≤ real
  | _ => False

/-- The low and the high of a bar bound its other prices. -/
def Ordered (bar : Record) : Prop :=
  ∀ high low, (bar.field ("high", "h") .none).number = some high →
    (bar.field ("low", "l") .none).number = some low →
      low ≤ high ∧ ∀ keys ∈ [("open", "o"), ("close", "c")], ∀ price,
        (bar.field keys .none).number = some price → low ≤ price ∧ price ≤ high

/-- The prices that are present are finite numbers with the right sign, those of a bar are in order,
and the sizes that are present are numbers that are not negative. -/
structure Sound (feed : Feed) (record : Record) : Prop where
  prices : ∀ keys ∈ feed.prices, record.field keys .none ≠ .none →
    ∃ price, (record.field keys .none).number = some price ∧ price.isFinite = true ∧
      feed.Allows price
  ordered : feed = .bar → Ordered record
  sizes : ∀ keys ∈ feed.sizes, record.field keys .none ≠ .none →
    (record.field keys .none).NonNegative

/-- The prices of a quote or a trade that are present can be read, and no size is NaN. -/
structure Readable (feed : Feed) (record : Record) : Prop where
  prices : feed ≠ .bar → ∀ keys ∈ feed.prices, record.field keys .none ≠ .none →
    (record.field keys .none).number ≠ none
  sizes : ∀ keys ∈ feed.sizes, ∀ size, record.field keys .none = .float size → size.isNaN = false

variable {DateTime : Type} [Instants DateTime]

/-- The validator of a feed. -/
def validate (DateTime : Type) [Instants DateTime] : Feed → Record → Int →
    Except Raised ValidationResult
  | .bar => validateBar DateTime
  | .quote => validateQuote DateTime
  | .trade => validateTrade DateTime

/-- A record is reported as valid. -/
def Accepted (DateTime : Type) [Instants DateTime] (feed : Feed) (record : Record)
    (now : Int) : Prop :=
  ∃ result, validate DateTime feed record now = .ok result ∧ result.valid = true

/-- A record passes the checks of its validator: no price is too large for a float, the symbol fits,
the time is not in the future, the prices that can be read have the right sign, no size is negative
or a text, and for a bar every price can be read and they are in order. -/
structure Passes (DateTime : Type) [Instants DateTime] (feed : Feed) (record : Record) (now : Int) :
    Prop where
  fits : ∀ keys ∈ feed.prices, ∀ number, record.field keys .none = .int number →
    Floats.ofInt number ≠ none
  symbol : isValidSymbol (record.field ("symbol", "S") (.str "")) = .ok true
  current : ((record.field ("timestamp", "t") .none).truthy &&
    isFutureTimestamp DateTime (record.field ("timestamp", "t") .none) now) = false
  prices : ∀ keys ∈ feed.prices, ∀ price, (record.field keys .none).number = some price →
    feed.Allows price
  read : feed = .bar → ∀ keys ∈ feed.prices, record.field keys .none ≠ .none →
    (record.field keys .none).number ≠ none
  ordered : feed = .bar → Ordered record
  sizes : ∀ keys ∈ feed.sizes, (record.field keys (.int 0)).isNegative = .ok false

/-! ## Values -/

theorem isFinite_of_number {value : Value} {price : Float} (read : value.number = some price) :
    price.isFinite = true := by
  cases value with
  | none => cases read
  | int whole =>
      simp only [Value.number, Floats.ofInt] at read
      split at read
      next finite =>
        obtain rfl := Option.some.inj read
        exact finite
      next => cases read
  | float real =>
      rw [Value.number] at read
      exact (Option.filter_eq_some_iff.mp read).2
  | str text =>
      rw [Value.number] at read
      exact (Option.filter_eq_some_iff.mp read).2

omit [Unicode] in
/-- What is neither NaN nor infinite is finite. -/
theorem filter_isFinite (x : Float) :
    (some x).filter Float.isFinite = if x.isNaN || x.isInf then none else some x := by
  rw [Option.filter_some]
  cases finite : x.isFinite with
  | true =>
      obtain ⟨number, bounded⟩ := Floats.isFinite_iff.mp finite
      rw [number, bounded]
      rfl
  | false =>
      have unbounded := mt Floats.isFinite_iff.mpr (Bool.eq_false_iff.mp finite)
      rw [not_and_or, Bool.not_eq_false, Bool.not_eq_false, ← Bool.or_eq_true] at unbounded
      rw [unbounded]
      rfl

/-- `_to_float` reads the finite numbers, and raises for an integer that is too large. -/
theorem toFloat_eq_ok {value : Value} {parsed : Option Float} :
    toFloat value = .ok parsed ↔
      (∀ whole, value = .int whole → Floats.ofInt whole ≠ none) ∧ value.number = parsed := by
  cases value with
  | none => simp [toFloat, Value.number]
  | float real => simp [toFloat, Value.number, filter_isFinite]
  | int whole =>
      cases converted : Floats.ofInt whole <;> simp [toFloat, Value.number, converted]
  | str text =>
      have empty : Floats.ofText "" = none := rfl
      by_cases blank : text = ""
      · simp [toFloat, Value.number, blank, empty]
      · cases read : Floats.ofText text with
        | none => simp [toFloat, Value.number, blank, read]
        | some x => simp [toFloat, Value.number, blank, read, filter_isFinite]

/-! ## Checks -/

omit [Unicode] in
theorem runChecks_valid {result : ValidationResult} {checks : List Check} :
    (∃ after, runChecks result checks = .ok after ∧ after.valid = true) ↔
      result.valid = true ∧ ∀ check ∈ checks, check = .ok none := by
  induction checks generalizing result with
  | nil => simp [runChecks]
  | cons check rest ih =>
      rw [runChecks, List.forall_mem_cons]
      cases check with
      | error raised => simp [bind, Except.bind]
      | ok added =>
          cases added with
          | none =>
              change (∃ after, runChecks result rest = .ok after ∧ after.valid = true) ↔ _
              rw [ih]
              simp
          | some error =>
              change (∃ after, runChecks (result.addError error) rest = .ok after ∧
                  after.valid = true) ↔ _
              rw [ih]
              simp [ValidationResult.addError]

omit [Unicode] in
/-- A record is reported as valid when every check passes. -/
theorem report_valid {data : Record} {checks : List Check} :
    (∃ result, report data checks = .ok result ∧ result.valid = true) ↔
      ∀ check ∈ checks, check = .ok none := by
  have ran := @runChecks_valid (.start data) checks
  rw [report]
  cases done : runChecks (.start data) checks with
  | error raised =>
      rw [done] at ran
      simpa [Except.map, ValidationResult.start] using ran
  | ok result =>
      rw [done] at ran
      simpa [Except.map, ValidationResult.start, ValidationResult.cleared] using ran

omit [Unicode] in
/-- A conversion comes before the report. -/
theorem bind_valid {Middle : Type} {first : Except Raised Middle}
    {rest : Middle → Except Raised ValidationResult} :
    (∃ result, first >>= rest = .ok result ∧ result.valid = true) ↔
      ∃ middle, first = .ok middle ∧ ∃ result, rest middle = .ok result ∧
        result.valid = true := by
  cases first <;> simp [bind, Except.bind]

omit [Unicode] in
theorem refuseIf_eq {bad : Bool} {code field : String} {message : Except Raised String} :
    refuseIf bad code message field = .ok none ↔ bad = false := by
  cases bad <;> cases message <;> simp [refuseIf, Except.map]

theorem symbolCheck_eq {symbol : Value} :
    symbolCheck symbol = .ok none ↔ isValidSymbol symbol = .ok true := by
  rw [symbolCheck]
  cases isValidSymbol symbol with
  | error raised => simp [bind, Except.bind]
  | ok valid =>
      change refuseIf (!valid) _ _ _ = _ ↔ _
      rw [refuseIf_eq]
      simp

omit [Unicode] in
theorem sizeCheck_eq {label field : String} {size : Value} :
    sizeCheck label size field = .ok none ↔ size.isNegative = .ok false := by
  rw [sizeCheck]
  cases size.isNegative with
  | error raised => simp [bind, Except.bind]
  | ok negative =>
      change refuseIf negative _ _ _ = _ ↔ _
      rw [refuseIf_eq]
      simp

omit [Unicode] in
theorem readCheck_eq {label : String} {raw : Value} {parsed : Option Float} :
    readCheck label raw parsed = .ok none ↔ (raw ≠ .none → parsed ≠ none) := by
  rw [readCheck, refuseIf_eq]
  cases raw <;> cases parsed <;> simp [Value.isSome]

omit [Unicode] in
theorem priceCheck_eq {bad : Float → Bool} {wording field : String} {price : Option Float} :
    priceCheck bad wording field price = .ok none ↔ ∀ x, price = some x → bad x = false := by
  cases price with
  | none => simp [priceCheck]
  | some x => simp [priceCheck, refuseIf_eq]

omit [Unicode] in
theorem highCheck_eq {code name : String} {high : Float} {price : Option Float} :
    highCheck code high name price = .ok none ↔ ∀ x, price = some x → ¬high < x := by
  cases price with
  | none => simp [highCheck]
  | some x => simp [highCheck, refuseIf_eq]

omit [Unicode] in
theorem lowCheck_eq {code name : String} {low : Float} {price : Option Float} :
    lowCheck code low name price = .ok none ↔ ∀ x, price = some x → ¬x < low := by
  cases price with
  | none => simp [lowCheck]
  | some x => simp [lowCheck, refuseIf_eq]

omit [Unicode] in
/-- The checks of a bar with a high and a low. -/
theorem orderChecks_eq {openPrice high low close : Option Float} :
    (∀ check ∈ orderChecks openPrice high low close, check = .ok none) ↔
      ∀ top bottom, high = some top → low = some bottom → ¬top < bottom ∧
        ((∀ x, openPrice = some x → ¬x < bottom ∧ ¬top < x) ∧
          ∀ x, close = some x → ¬x < bottom ∧ ¬top < x) := by
  cases high with
  | none => simp [orderChecks]
  | some top =>
      cases low with
      | none => simp [orderChecks]
      | some bottom =>
          simp only [orderChecks, List.forall_mem_cons, List.not_mem_nil,
            false_implies, implies_true,
            and_true, highCheck_eq, lowCheck_eq, Option.some.injEq, forall_eq']
          constructor
          · rintro ⟨above, openHigh, closeHigh, openLow, closeLow⟩ _ _ rfl rfl
            exact ⟨above, fun x eq => ⟨openLow x eq, openHigh x eq⟩,
              fun x eq => ⟨closeLow x eq, closeHigh x eq⟩⟩
          · intro ordered
            obtain ⟨above, opened, closed⟩ := ordered top bottom rfl rfl
            exact ⟨above, fun x eq => (opened x eq).2, fun x eq => (closed x eq).2,
              fun x eq => (opened x eq).1, fun x eq => (closed x eq).1⟩

/-! ## What is accepted -/

omit [Unicode] in
theorem isNaN_zero : (0 : Float).isNaN = false := by decide

/-- Among the prices that were read, the order is total. -/
theorem not_lt_iff {first second : Value} {x y : Float} (firstRead : first.number = some x)
    (secondRead : second.number = some y) : ¬x < y ↔ y ≤ x := by
  have left := (Floats.isFinite_iff.mp (isFinite_of_number firstRead)).1
  have right := (Floats.isFinite_iff.mp (isFinite_of_number secondRead)).1
  rw [Floats.le_iff, and_iff_right ⟨right, left⟩]

/-- The check of a price in a quote refuses the negative ones. -/
theorem nonneg_iff {value : Value} :
    (∀ x, value.number = some x → decide (x < 0) = false) ↔
      ∀ x, value.number = some x → Feed.quote.Allows x := by
  apply forall_congr'
  intro x
  apply imp_congr_right
  intro read
  have number := (Floats.isFinite_iff.mp (isFinite_of_number read)).1
  rw [Feed.Allows, decide_eq_false_iff_not, Floats.le_iff, and_iff_right ⟨isNaN_zero, number⟩]

/-- The check of another price refuses those that are not positive. -/
theorem pos_iff {value : Value} :
    (∀ x, value.number = some x → decide (x ≤ 0) = false) ↔
      ∀ x, value.number = some x → 0 < x := by
  apply forall_congr'
  intro x
  apply imp_congr_right
  intro read
  have number := (Floats.isFinite_iff.mp (isFinite_of_number read)).1
  rw [decide_eq_false_iff_not, Floats.lt_iff, and_iff_right ⟨isNaN_zero, number⟩]

variable {record : Record} {now : Int}

theorem accepted_trade :
    Accepted DateTime .trade record now ↔ Passes DateTime .trade record now := by
  rw [Accepted, validate, validateTrade]
  simp only [bind_valid, report_valid, toFloat_eq_ok, List.forall_mem_cons, List.not_mem_nil,
    false_implies, implies_true, and_true, symbolCheck_eq, timestampCheck, refuseIf_eq,
    priceCheck_eq, sizeCheck_eq, and_assoc, exists_and_left, exists_eq_left', pos_iff]
  constructor
  · rintro ⟨fits, symbol, current, price, size⟩
    exact
      { fits := List.forall_mem_singleton.mpr fits
        symbol := symbol
        current := current
        prices := List.forall_mem_singleton.mpr price
        read := by rintro ⟨⟩
        ordered := by rintro ⟨⟩
        sizes := List.forall_mem_singleton.mpr size }
  · intro passes
    exact ⟨List.forall_mem_singleton.mp passes.fits, passes.symbol, passes.current,
      List.forall_mem_singleton.mp passes.prices, passes.sizes ("size", "s") List.mem_cons_self⟩

omit [Unicode] in
theorem forall_mem_two {holds : String × String → Prop} {first second : String × String} :
    (∀ keys ∈ [first, second], holds keys) ↔ holds first ∧ holds second := by
  rw [List.forall_mem_cons, List.forall_mem_singleton]

theorem accepted_quote :
    Accepted DateTime .quote record now ↔ Passes DateTime .quote record now := by
  rw [Accepted, validate, validateQuote]
  simp only [bind_valid, report_valid, toFloat_eq_ok, List.forall_mem_cons, List.not_mem_nil,
    false_implies, implies_true, and_true, symbolCheck_eq, timestampCheck, refuseIf_eq,
    priceCheck_eq, sizeCheck_eq, and_assoc, exists_and_left, exists_eq_left', nonneg_iff]
  constructor
  · rintro ⟨bidFits, askFits, symbol, current, bid, ask, bidSize, askSize⟩
    exact
      { fits := forall_mem_two.mpr ⟨bidFits, askFits⟩
        symbol := symbol
        current := current
        prices := forall_mem_two.mpr ⟨bid, ask⟩
        read := by rintro ⟨⟩
        ordered := by rintro ⟨⟩
        sizes := forall_mem_two.mpr ⟨bidSize, askSize⟩ }
  · intro passes
    obtain ⟨bidFits, askFits⟩ := forall_mem_two.mp passes.fits
    obtain ⟨bid, ask⟩ := forall_mem_two.mp passes.prices
    obtain ⟨bidSize, askSize⟩ := forall_mem_two.mp passes.sizes
    exact ⟨bidFits, askFits, passes.symbol, passes.current, bid, ask, bidSize, askSize⟩

omit [Unicode] in
theorem forall_bar_prices {holds : String × String → Prop} :
    (∀ keys ∈ Feed.bar.prices, holds keys) ↔ holds ("open", "o") ∧ holds ("high", "h") ∧
      holds ("low", "l") ∧ holds ("close", "c") := by
  simp [Feed.prices]

/-- The checks of a bar find its prices in order. -/
theorem ordered_iff : Ordered record ↔
    ∀ top bottom, (record.field ("high", "h") .none).number = some top →
      (record.field ("low", "l") .none).number = some bottom → ¬top < bottom ∧
        ((∀ x, (record.field ("open", "o") .none).number = some x → ¬x < bottom ∧ ¬top < x) ∧
          ∀ x, (record.field ("close", "c") .none).number = some x →
            ¬x < bottom ∧ ¬top < x) := by
  rw [Ordered]
  apply forall_congr'
  intro top
  apply forall_congr'
  intro bottom
  apply imp_congr_right
  intro high
  apply imp_congr_right
  intro low
  have between :
      ∀ keys, (∀ x, (record.field keys .none).number = some x → bottom ≤ x ∧ x ≤ top) ↔
      ∀ x, (record.field keys .none).number = some x → ¬x < bottom ∧ ¬top < x := by
    intro keys
    apply forall_congr'
    intro x
    apply imp_congr_right
    intro read
    rw [not_lt_iff read low, not_lt_iff high read]
  rw [forall_mem_two, not_lt_iff high low, between, between]

theorem accepted_bar :
    Accepted DateTime .bar record now ↔ Passes DateTime .bar record now := by
  rw [Accepted, validate, validateBar]
  simp only [bind_valid, report_valid, toFloat_eq_ok, List.cons_append, List.nil_append,
    List.forall_mem_cons, List.forall_mem_append, List.not_mem_nil, false_implies,
    implies_true, and_true,
    symbolCheck_eq, timestampCheck, refuseIf_eq, readCheck_eq, priceCheck_eq, orderChecks_eq,
    sizeCheck_eq, and_assoc, exists_and_left, exists_eq_left', pos_iff, ← ordered_iff]
  constructor
  · rintro ⟨openFits, highFits, lowFits, closeFits, symbol, current, openRead, highRead, lowRead,
      closeRead, openPrice, close, high, low, ordered, volume⟩
    exact
      { fits := forall_bar_prices.mpr ⟨openFits, highFits, lowFits, closeFits⟩
        symbol := symbol
        current := current
        prices := forall_bar_prices.mpr ⟨openPrice, high, low, close⟩
        read := fun _ => forall_bar_prices.mpr ⟨openRead, highRead, lowRead, closeRead⟩
        ordered := fun _ => ordered
        sizes := List.forall_mem_singleton.mpr volume }
  · intro passes
    obtain ⟨openFits, highFits, lowFits, closeFits⟩ := forall_bar_prices.mp passes.fits
    obtain ⟨openRead, highRead, lowRead, closeRead⟩ := forall_bar_prices.mp (passes.read rfl)
    obtain ⟨openPrice, high, low, close⟩ := forall_bar_prices.mp passes.prices
    exact ⟨openFits, highFits, lowFits, closeFits, passes.symbol, passes.current,
      openRead, highRead, lowRead, closeRead, openPrice, close, high, low, passes.ordered rfl,
      passes.sizes ("volume", "v") List.mem_cons_self⟩

/-- Exactly the records that pass every check are accepted. -/
theorem accepted_iff (feed : Feed) : Accepted DateTime feed record now ↔
    Passes DateTime feed record now := by
  cases feed with
  | bar => exact accepted_bar
  | quote => exact accepted_quote
  | trade => exact accepted_trade

/-! ## What was accepted -/

omit [Unicode] in
/-- A value that is there is read, whatever the default is. -/
theorem field_default {keys : String × String} (there : record.field keys .none ≠ .none)
    (default : Value) :
    record.field keys default = record.field keys .none := by
  rw [Record.field, Record.field] at *
  cases first : record.get? keys.1 with
  | some value => rfl
  | none =>
      cases second : record.get? keys.2 with
      | some value => rfl
      | none =>
          rw [first, second] at there
          exact absurd rfl there

omit [Unicode] in
/-- A size that is not refused is a number that is not negative, unless it is NaN. -/
theorem nonNegative_iff {size : Value} (passed : size.isNegative = .ok false)
    (there : size ≠ .none) :
    size.NonNegative ↔ ∀ real, size = .float real → real.isNaN = false := by
  cases size with
  | none => exact absurd rfl there
  | int whole =>
      have negative := of_decide_eq_false (Except.ok.inj passed)
      simpa [Value.NonNegative] using negative
  | float real =>
      have negative := of_decide_eq_false (Except.ok.inj passed)
      rw [Value.NonNegative, Floats.le_iff, and_iff_left negative, and_iff_right isNaN_zero]
      constructor
      · rintro number _ ⟨⟩
        exact number
      · intro numbers
        exact numbers real rfl
  | str text => cases passed

/-- A record that passes the checks keeps what it promises when it can be read. -/
theorem sound_iff {feed : Feed} (passes : Passes DateTime feed record now) :
    Sound feed record ↔ Readable feed record := by
  have size : ∀ keys ∈ feed.sizes, record.field keys .none ≠ .none →
      (record.field keys .none).isNegative = .ok false := by
    intro keys mem there
    rw [← field_default there (.int 0)]
    exact passes.sizes keys mem
  constructor
  · intro sound
    refine ⟨?_, ?_⟩
    · intro _ keys mem there unread
      obtain ⟨price, read, -⟩ := sound.prices keys mem there
      rw [read] at unread
      cases unread
    · intro keys mem real eq
      have there : record.field keys .none ≠ .none := by simp [eq]
      exact (nonNegative_iff (size keys mem there) there).mp (sound.sizes keys mem there) real eq
  · intro readable
    refine ⟨?_, passes.ordered, ?_⟩
    · intro keys mem there
      have read : (record.field keys .none).number ≠ none := by
        by_cases bar : feed = .bar
        · exact passes.read bar keys mem there
        · exact readable.prices bar keys mem there
      obtain ⟨price, eq⟩ := Option.ne_none_iff_exists'.mp read
      exact ⟨price, eq, isFinite_of_number eq, passes.prices keys mem price eq⟩
    · intro keys mem there
      exact (nonNegative_iff (size keys mem there) there).mpr (readable.sizes keys mem)

/-- Accepted data is sound exactly when its prices can be read and its sizes are numbers, unless
a check refuses it. -/
theorem accepted_data_is_sound (DateTime : Type) [Instants DateTime] (feed : Feed) (record : Record)
    (now : Int) :
    (Accepted DateTime feed record now → Sound feed record) ↔
      Readable feed record ∨ ¬Passes DateTime feed record now := by
  rw [accepted_iff]
  by_cases passes : Passes DateTime feed record now
  · simp [passes, sound_iff passes]
  · simp [passes]

end Promises

/-- Every text is a time of one instant. -/
@[reducible] def oneInstant : Instants String where
  toDateTimes := Envelope.isoTimes
  instant _ := 0

/-- A quote whose bid is no number is accepted. -/
theorem unread_bid_is_accepted :
    ¬∀ feed record now, @Accepted asciiUnicode String oneInstant feed record now →
      @Sound asciiUnicode feed record := by
  intro sound
  let quote : Record :=
    (OrderedDict.empty.set "symbol" (.str "AAPL")).set "bid_price" (.str "n/a")
  have accepted : @Accepted asciiUnicode String oneInstant .quote quote 0 := ⟨_, rfl, rfl⟩
  obtain ⟨price, read, -⟩ := @Sound.prices asciiUnicode .quote quote (sound .quote quote 0 accepted)
    ("bid_price", "bp") List.mem_cons_self (by decide)
  have unread : @Value.number asciiUnicode (quote.field ("bid_price", "bp") .none) = none := by
    decide
  rw [unread] at read
  cases read

end Validation
end DataGateway
