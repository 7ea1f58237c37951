import DataGateway.Symbology.Resolver

/-!
# Canonical broker symbols are stable

A canonical symbol is a ticker or a contract text.  Reading one again, on whatever day, returns the
same text or reports it as unrecognized; it is never taken for another asset class.
-/

namespace DataGateway
namespace Symbology

open Text

/-! ## Characters of a canonical symbol -/

/-- Capitals, digits, the point and the hyphen. -/
def isPlain (c : Char) : Bool := isCapital c || isDigit c || c == '.' || c == '-'

theorem isPlain_of_isCapital {c : Char} (capital : isCapital c = true) : isPlain c = true := by
  simp [isPlain, capital]

theorem isPlain_of_isDigit {c : Char} (digit : isDigit c = true) : isPlain c = true := by
  simp [isPlain, digit]

theorem isCapital_of_isUpper {c : Char} (upper : isUpper c = true) : isCapital c = true := by
  simp [isCapital, upper]

/-- The plain characters are ASCII, apart from the two capitals without an ASCII upper case. -/
theorem isPlain_cases {c : Char} (plain : isPlain c = true) :
    c = 'İ' ∨ c = 'K' ∨ (65 ≤ c.toNat ∧ c.toNat ≤ 90) ∨
    (45 ≤ c.toNat ∧ c.toNat ≤ 57) := by
  simp only [isPlain, isCapital, Bool.or_eq_true, beq_iff_eq, isUpper_iff, isDigit_iff] at plain
  rcases plain with ((((upper | dotted) | kelvin) | digit) | rfl) | rfl
  · exact .inr (.inr (.inl upper))
  · exact .inl dotted
  · exact .inr (.inl kelvin)
  · exact .inr (.inr (.inr ⟨by omega, digit.2⟩))
  · exact .inr (.inr (.inr (by decide)))
  · exact .inr (.inr (.inr (by decide)))

theorem isSpace_of_isPlain {c : Char} (plain : isPlain c = true) : isSpace c = false := by
  rcases isPlain_cases plain with rfl | rfl | bound | bound
  · decide
  · decide
  all_goals
    simp only [isSpace, Bool.or_eq_false_iff, Bool.and_eq_false_iff, decide_eq_false_iff_not,
      beq_eq_false_iff_ne]
    omega

theorem ne_slash_of_isPlain {c : Char} (plain : isPlain c = true) : c ≠ '/' := by
  rintro rfl
  revert plain
  decide

theorem stripChars_of_plain {chars : List Char} (plain : ∀ c ∈ chars, isPlain c = true) :
    stripChars chars = chars := by
  have keeps : ∀ list : List Char, (∀ c ∈ list, isPlain c = true) →
      list.dropWhile isSpace = list := by
    intro list allPlain
    cases list with
    | nil => rfl
    | cons c rest => simp [isSpace_of_isPlain (allPlain c (by simp))]
  rw [stripChars, keeps chars plain, keeps chars.reverse (by simpa using plain),
    List.reverse_reverse]

/-! ## Greedy runs -/

theorem takeWhile_stop {test : Char → Bool} {body rest : List Char}
    (inside : ∀ c ∈ body, test c = true) (stop : ∀ c, rest.head? = some c → test c = false) :
    (body ++ rest).takeWhile test = body := by
  rw [List.takeWhile_append_of_pos inside]
  cases rest with
  | nil => simp
  | cons c rest => simp [stop c rfl]

theorem run_of_append {test : Char → Bool} {least most : Nat} {body rest : List Char}
    (inside : ∀ c ∈ body, test c = true) (stop : ∀ c, rest.head? = some c → test c = false)
    (least_le : least ≤ body.length) (le_most : body.length ≤ most) :
    run test least most (body ++ rest) = some (body, rest) := by
  simp [run, takeWhile_stop inside stop, least_le, le_most]

theorem run_eq_some {test : Char → Bool} {least most : Nat} {chars body rest : List Char}
    (ran : run test least most chars = some (body, rest)) :
    chars = body ++ rest ∧ (∀ c ∈ body, test c = true) ∧ least ≤ body.length ∧
      body.length ≤ most := by
  simp only [run] at ran
  split at ran
  · rename_i bounds
    obtain ⟨rfl, rfl⟩ : chars.takeWhile test = body ∧
        chars.drop (chars.takeWhile test).length = rest := by simpa using ran
    exact ⟨(List.prefix_iff_eq_append.mp (List.takeWhile_prefix test)).symm,
      fun c mem => List.mem_takeWhile_imp mem, bounds.1, bounds.2⟩
  · simp at ran

/-- A text that matches the stock pattern is a plain text without digits, up to a final line
break. -/
theorem stockPattern_shape {chars : List Char} (matched : stockPattern chars = true) :
    ∃ body rest, chars = body ++ rest ∧ (∀ c ∈ body, isPlain c = true ∧ isDigit c = false) ∧
      atEnd rest = true := by
  have letters : ∀ c, isUpper c = true → isPlain c = true ∧ isDigit c = false := by
    intro c upper
    refine ⟨isPlain_of_isCapital (isCapital_of_isUpper upper), ?_⟩
    rw [Bool.eq_false_iff]
    intro digit
    have := isUpper_iff.mp upper
    have := isDigit_iff.mp digit
    omega
  unfold stockPattern at matched
  split at matched
  · simp at matched
  · rename_i body rest ran
    obtain ⟨rfl, inside, -, -⟩ := run_eq_some ran
    rcases Bool.or_eq_true_iff.mp matched with ended | suffixed
    · exact ⟨body, rest, rfl, fun c mem => letters c (inside c mem), ended⟩
    · split at suffixed
      · simp at suffixed
      · rename_i separator suffix
        obtain ⟨dot, classed⟩ := Bool.and_eq_true_iff.mp suffixed
        split at classed
        · simp at classed
        · rename_i classBody classRest classRan
          obtain ⟨rfl, classInside, -, -⟩ := run_eq_some classRan
          refine ⟨body ++ separator :: classBody, classRest, by simp, fun c mem => ?_, classed⟩
          rcases List.mem_append.mp mem with front | behind
          · exact letters c (inside c front)
          · rcases List.mem_cons.mp behind with rfl | classLetter
            · simp only [Bool.or_eq_true, beq_iff_eq] at dot
              rcases dot with rfl | rfl <;> decide
            · exact letters c (classInside c classLetter)

theorem pairPattern_slash {a b c d : Nat} {chars : List Char} {pair : List Char × List Char}
    (matched : pairPattern a b c d chars = some pair) : '/' ∈ chars := by
  simp only [pairPattern, Option.bind_eq_bind, Option.bind_eq_some_iff, Prod.exists] at matched
  obtain ⟨base, rest, ran, tail, slash, -⟩ := matched
  obtain ⟨rfl, -⟩ := run_eq_some ran
  cases rest with
  | nil => simp [expect] at slash
  | cons first rest =>
      simp only [expect] at slash
      split at slash
      · rename_i eq
        simp [eq]
      · simp at slash

theorem spaces_isSpace {chars rest : List Char} (skipped : spaces chars = some rest) :
    ∃ c ∈ chars, isSpace c = true := by
  unfold spaces at skipped
  split at skipped
  · simp at skipped
  · rename_i nonempty
    obtain ⟨c, mem⟩ := List.exists_mem_of_ne_nil _ nonempty
    exact ⟨c, List.takeWhile_subset _ mem, List.mem_takeWhile_imp mem⟩

section Tables

variable [Unicode]

theorem upper_of_isPlain {c : Char} (plain : isPlain c = true) : Unicode.upper c = [c] := by
  rcases isPlain_cases plain with rfl | rfl | bound | bound
  · exact Unicode.upper_dottedI
  · exact Unicode.upper_kelvin
  all_goals
    rw [Unicode.upper_ascii c (by omega), Text.toUpper_of_not_lower]
    rintro ⟨low, -⟩
    rw [UInt32.le_iff_toNat_le] at low
    change 97 ≤ c.toNat at low
    omega

theorem upperChars_of_plain {chars : List Char} (plain : ∀ c ∈ chars, isPlain c = true) :
    upperChars chars = chars := by
  induction chars with
  | nil => rfl
  | cons c rest ih =>
      have head := upper_of_isPlain (plain c (by simp))
      have tail := ih fun d mem => plain d (by simp [mem])
      simpa [upperChars, head] using tail

/-- Without white space no human-readable pattern matches. -/
theorem parseHumanOption_of_plain {today : Date} {chars : List Char}
    (plain : ∀ c ∈ chars, isPlain c = true) :
    parseHumanOption today chars = .ok ⟨.unknown, chars, none⟩ := by
  have spaceless : ∀ {body rest tail : List Char} {test : Char → Bool} {a b : Nat},
      run test a b chars = some (body, rest) → spaces rest ≠ some tail := by
    intro body rest tail test a b ran skipped
    obtain ⟨rfl, -⟩ := run_eq_some ran
    obtain ⟨c, mem, space⟩ := spaces_isSpace skipped
    rw [isSpace_of_isPlain (plain c (by simp [mem]))] at space
    simp at space
  have noDate : humanDatePattern chars = none := by
    rw [Option.eq_none_iff_forall_ne_some]
    intro groups matched
    simp only [humanDatePattern, Option.bind_eq_bind, Option.bind_eq_some_iff, Prod.exists]
      at matched
    obtain ⟨body, rest, ran, tail, skipped, -⟩ := matched
    exact spaceless ran skipped
  have noMonth : humanMonthPattern chars = none := by
    rw [Option.eq_none_iff_forall_ne_some]
    intro groups matched
    simp only [humanMonthPattern, Option.bind_eq_bind, Option.bind_eq_some_iff, Prod.exists]
      at matched
    obtain ⟨body, rest, ran, tail, skipped, -⟩ := matched
    exact spaceless ran skipped
  simp [parseHumanOption, stripChars_of_plain plain, noDate, noMonth]

/-! ## Tickers -/

omit [Unicode] in
theorem stripChars_last {chars front : List Char} {last : Char}
    (eq : stripChars chars = front ++ [last]) : isSpace last = false := by
  have head := List.head?_dropWhile_not isSpace (chars.dropWhile isSpace).reverse
  have first : ((chars.dropWhile isSpace).reverse.dropWhile isSpace).head? = some last := by
    have flipped := congrArg List.reverse eq
    simp only [stripChars, List.reverse_reverse, List.reverse_append, List.reverse_cons,
      List.reverse_nil, List.nil_append, List.singleton_append] at flipped
    rw [flipped, List.head?_cons]
  simpa [first] using head

/-- Upper-casing a stripped text leaves no white space at its end. -/
theorem upper_strip_last {chars front : List Char} {last : Char}
    (eq : upperChars (stripChars chars) = front ++ [last]) : isSpace last = false := by
  rcases List.eq_nil_or_concat (stripChars chars) with empty | ⟨body, c, split⟩
  · simp [empty] at eq
  · rw [List.concat_eq_append] at split
    have visible := stripChars_last split
    rw [split, upperChars_append] at eq
    have mem : last ∈ Unicode.upper c := by
      obtain ⟨head, tail, upper⟩ := List.exists_cons_of_ne_nil (Unicode.upper_ne_nil c)
      have whole : upperChars body ++ Unicode.upper c = front ++ [last] := by
        simpa [upperChars] using eq
      have ends := congrArg List.getLast? whole
      rw [List.getLast?_append_of_ne_nil _ (Unicode.upper_ne_nil c), List.getLast?_append] at ends
      simp only [List.getLast?_singleton, Option.some_or] at ends
      exact List.mem_of_getLast? ends
    exact Unicode.upper_visible c visible last mem

/-- The text that resolution reads, when it is a ticker, is plain. -/
theorem plain_of_stockPattern {chars : List Char}
    (matched : stockPattern (upperChars (stripChars chars)) = true) :
    ∀ c ∈ upperChars (stripChars chars), isPlain c = true := by
  obtain ⟨body, rest, eq, inside, ended⟩ := stockPattern_shape matched
  simp only [atEnd, Bool.or_eq_true, beq_iff_eq] at ended
  rcases ended with rfl | rfl
  · intro c mem
    exact (inside c (by simpa [eq] using mem)).1
  · exact absurd (upper_strip_last eq) (by decide)

/-! ## Contract texts -/

/-- The texts that `to_occ` writes. -/
inductive IsOccText : List Char → Prop
  | intro (root : List Char) (date : Date) (side : OptionType) (strike : Nat)
      (capitals : ∀ c ∈ root, isCapital c = true) (nonempty : 1 ≤ root.length)
      (short : root.length ≤ 6) :
      IsOccText (root ++ (dateCode date ++ side.letter :: zeroPadded 8 strike))

omit [Unicode] in
theorem isDigit_of_mem_dateCode {date : Date} {c : Char} (mem : c ∈ dateCode date) :
    isDigit c = true := by
  simp only [dateCode, List.mem_append] at mem
  rcases mem with (year | month) | day
  · exact isDigit_of_mem_zeroPadded year
  · exact isDigit_of_mem_zeroPadded month
  · exact isDigit_of_mem_zeroPadded day

omit [Unicode] in
theorem isCapital_letter (side : OptionType) : isCapital side.letter = true := by
  cases side <;> decide

omit [Unicode] in
theorem IsOccText.plain {chars : List Char} (occ : IsOccText chars) :
    ∀ c ∈ chars, isPlain c = true := by
  obtain ⟨root, date, side, strike, capitals, -, -⟩ := occ
  intro c mem
  simp only [List.mem_append, List.mem_cons] at mem
  rcases mem with inRoot | inDate | rfl | inStrike
  · exact isPlain_of_isCapital (capitals c inRoot)
  · exact isPlain_of_isDigit (isDigit_of_mem_dateCode inDate)
  · exact isPlain_of_isCapital (isCapital_letter side)
  · exact isPlain_of_isDigit (isDigit_of_mem_zeroPadded inStrike)

theorem occRoot_of_capitals {root : List Char} (capitals : ∀ c ∈ root, isCapital c = true)
    (nonempty : 1 ≤ root.length) (short : root.length ≤ 6) : occRoot root = root := by
  have plain : ∀ c ∈ root, isPlain c = true := fun c mem => isPlain_of_isCapital (capitals c mem)
  obtain ⟨first, rest, rfl⟩ := List.exists_cons_of_ne_nil (List.ne_nil_of_length_pos nonempty)
  have front : isSpace first = false := isSpace_of_isPlain (plain first (by simp))
  simp only [occRoot, upperChars_of_plain plain]
  rw [List.take_of_length_le (by rw [List.length_append, List.length_replicate]; omega),
    stripChars]
  simp only [List.cons_append, List.dropWhile_cons, front, Bool.false_eq_true, if_false]
  rw [← List.cons_append, List.reverse_append, List.reverse_replicate,
    List.dropWhile_append_of_pos (by intro c mem; rw [List.eq_of_mem_replicate mem]; decide)]
  have back : (first :: rest).reverse.dropWhile isSpace = (first :: rest).reverse := by
    obtain ⟨last, others, eq⟩ := List.exists_cons_of_ne_nil
      (show (first :: rest).reverse ≠ [] by simp)
    have mem : last ∈ (first :: rest).reverse := by simp [eq]
    have visible := isSpace_of_isPlain (plain last (List.mem_reverse.mp mem))
    simp [eq, visible]
  rw [back, List.reverse_reverse]

theorem isOccText_of_toOcc {terms : OptionTerms} {occ : List Char}
    (capitals : ∀ c ∈ terms.underlying, isCapital c = true)
      (nonempty : 1 ≤ terms.underlying.length)
    (short : terms.underlying.length ≤ 6) (written : toOcc terms = .ok occ) : IsOccText occ := by
  rw [toOcc_eq] at written
  split at written
  · simp at written
  · obtain rfl := Except.ok.inj written
    rw [occRoot_of_capitals capitals nonempty short]
    simpa using IsOccText.intro terms.underlying terms.expiration terms.optionType
      terms.strike.mulThousand.toInt capitals nonempty short

/-! ## Reading a contract text again -/

omit [Unicode] in
theorem length_dateCode (date : Date) : (dateCode date).length = 6 := by
  have year := (length_zeroPadded (by omega : 0 < 2)).mpr
    (show date.year % 100 < 10 ^ 2 from Nat.mod_lt _ (by omega))
  have month := (length_zeroPadded (by omega : 0 < 2)).mpr
    (show date.month < 10 ^ 2 from date.month_lt)
  have day := (length_zeroPadded (by omega : 0 < 2)).mpr (show date.day < 10 ^ 2 from date.day_lt)
  simp only [dateCode, List.length_append, year, month, day]

/-- The three numbers that the contract parser reads from a date code. -/
theorem decimalValue_dateCode (date : Date) :
    decimalValue ((dateCode date).take 2) = date.year % 100 ∧
      decimalValue (((dateCode date).drop 2).take 2) = date.month ∧
      decimalValue (((dateCode date).drop 4).take 2) = date.day := by
  have yearFits : date.year % 100 < 10 ^ 2 := Nat.mod_lt _ (by omega)
  have year := (length_zeroPadded (by omega : 0 < 2)).mpr yearFits
  have month := (length_zeroPadded (by omega : 0 < 2)).mpr
    (show date.month < 10 ^ 2 from date.month_lt)
  have day := (length_zeroPadded (by omega : 0 < 2)).mpr (show date.day < 10 ^ 2 from date.day_lt)
  have parts : (dateCode date).take 2 = zeroPadded 2 (date.year % 100) ∧
      ((dateCode date).drop 2).take 2 = zeroPadded 2 date.month ∧
      ((dateCode date).drop 4).take 2 = zeroPadded 2 date.day := by
    refine ⟨?_, ?_, ?_⟩
    · rw [dateCode, List.append_assoc, List.take_left' year]
    · rw [dateCode, List.append_assoc, List.drop_left' year, List.take_left' month]
    · rw [dateCode, List.drop_left' (by rw [List.length_append, year, month]),
        List.take_of_length_le day.le]
  rw [parts.1, parts.2.1, parts.2.2]
  exact ⟨decimalValue_zeroPadded (by omega) yearFits,
    decimalValue_zeroPadded (by omega) date.month_lt,
    decimalValue_zeroPadded (by omega) date.day_lt⟩

theorem isDecimal_letter (side : OptionType) : isDecimal side.letter = false := by
  cases side <;> exact isDecimal_of_isUpper (by decide)

/-- The decimal runs of a contract text end where the next piece begins. -/
theorem run_strike {strike : Nat} :
    run isDecimal 8 8 (zeroPadded 8 strike) =
      if strike < 10 ^ 8 then some (zeroPadded 8 strike, []) else none := by
  have inside : ∀ c ∈ zeroPadded 8 strike, isDecimal c = true := fun c mem =>
    isDecimal_of_isDigit (isDigit_of_mem_zeroPadded mem)
  have whole : (zeroPadded 8 strike).takeWhile isDecimal = zeroPadded 8 strike := by
    have ended : (zeroPadded 8 strike ++ []).takeWhile isDecimal = zeroPadded 8 strike :=
      takeWhile_stop inside nofun
    rwa [List.append_nil] at ended
  have length : (zeroPadded 8 strike).length = 8 ↔ strike < 10 ^ 8 := length_zeroPadded (by omega)
  simp only [run, whole, List.drop_length]
  split_ifs with exact_ fits fits
  · rfl
  · exact absurd (length.mp (by omega)) fits
  · exact absurd ⟨(length.mpr fits).ge, (length.mpr fits).le⟩ exact_
  · rfl

omit [Unicode] in
theorem contractSide_eq_some {chars rest : List Char} {side : OptionType}
    (matched : contractSide chars = some (side, rest)) : chars = side.letter :: rest := by
  unfold contractSide at matched
  split at matched
  · obtain ⟨rfl, rfl⟩ := Prod.mk.inj (Option.some.inj matched)
    rfl
  · obtain ⟨rfl, rfl⟩ := Prod.mk.inj (Option.some.inj matched)
    rfl
  · cases matched

/-- What a match of the contract pattern captured, up to a final line break. -/
theorem occPattern_eq_some {chars root dateDigits strikeDigits : List Char} {side : OptionType}
    (matched : occPattern chars = some (root, dateDigits, side, strikeDigits)) :
    ((∀ c ∈ root, isUpper c = true) ∧ 1 ≤ root.length ∧ root.length ≤ 6) ∧
      ((∀ c ∈ dateDigits, isDecimal c = true) ∧ dateDigits.length = 6) ∧
      ((∀ c ∈ strikeDigits, isDecimal c = true) ∧ strikeDigits.length = 8) ∧
      ∃ rest, chars = root ++ (dateDigits ++ side.letter :: strikeDigits) ++ rest ∧
        atEnd rest = true := by
  simp only [occPattern, Option.bind_eq_bind, Option.bind_eq_some_iff, Prod.exists] at matched
  obtain ⟨_, afterRoot, rootRan, _, afterDate, dateRan, _, afterSide, sideRan, _, rest, strikeRan,
    ended⟩ := matched
  split at ended
  next atEnd =>
    obtain ⟨rfl, rfl, rfl, rfl⟩ : _ ∧ _ ∧ _ ∧ _ := by simpa using ended
    obtain ⟨rfl, letters, rootLeast, rootMost⟩ := run_eq_some rootRan
    obtain ⟨rfl, dateDigit, dateLeast, dateMost⟩ := run_eq_some dateRan
    obtain rfl := contractSide_eq_some sideRan
    obtain ⟨rfl, strikeDigit, strikeLeast, strikeMost⟩ := run_eq_some strikeRan
    exact ⟨⟨letters, rootLeast, rootMost⟩, ⟨dateDigit, le_antisymm dateMost dateLeast⟩,
      ⟨strikeDigit, le_antisymm strikeMost strikeLeast⟩, rest, by simp, atEnd⟩
  next => cases ended

/-- After a root, a date code and a side the contract pattern asks for the strike only. -/
theorem occPattern_of_parts {root dateDigits strikeDigits : List Char} (side : OptionType)
    (letters : ∀ c ∈ root, isUpper c = true) (nonempty : 1 ≤ root.length)
      (short : root.length ≤ 6)
    (dateDigit : ∀ c ∈ dateDigits, isDecimal c = true) (dateLength : dateDigits.length = 6) :
    occPattern (root ++ (dateDigits ++ side.letter :: strikeDigits)) =
      (run isDecimal 8 8 strikeDigits).bind fun strike =>
        if atEnd strike.2 then some (root, dateDigits, side, strike.1) else none := by
  obtain ⟨digit, digits, dateEq⟩ := List.exists_cons_of_ne_nil
    (List.ne_nil_of_length_pos (by omega) : dateDigits ≠ [])
  have dateStops : isUpper digit = false := by
    rw [Bool.eq_false_iff]
    intro upper
    have decimal := dateDigit digit (by simp [dateEq])
    rw [isDecimal_of_isUpper upper] at decimal
    cases decimal
  have rootRun : run isUpper 1 6 (root ++ (dateDigits ++ side.letter :: strikeDigits)) =
      some (root, dateDigits ++ side.letter :: strikeDigits) :=
    run_of_append letters (by simp [dateEq, dateStops]) nonempty short
  have dateRun : run isDecimal 6 6 (dateDigits ++ side.letter :: strikeDigits) =
      some (dateDigits, side.letter :: strikeDigits) :=
    run_of_append dateDigit (by simp [isDecimal_letter side]) dateLength.ge dateLength.le
  simp only [occPattern, rootRun, dateRun, Option.bind_eq_bind, Option.bind_some]
  cases side <;> rfl

/-- On a contract text the contract pattern finds the pieces, or does not match at all. -/
theorem occPattern_occText {root : List Char} (date : Date) (side : OptionType) (strike : Nat)
    (capitals : ∀ c ∈ root, isCapital c = true) (nonempty : 1 ≤ root.length)
    (short : root.length ≤ 6) :
    occPattern (root ++ (dateCode date ++ side.letter :: zeroPadded 8 strike)) = none ∨
      (strike < 10 ^ 8 ∧
        occPattern (root ++ (dateCode date ++ side.letter :: zeroPadded 8 strike)) =
          some (root, dateCode date, side, zeroPadded 8 strike)) := by
  by_cases ascii : ∀ c ∈ root, isUpper c = true
  · have parts := @occPattern_of_parts _ root (dateCode date) (zeroPadded 8 strike) side ascii
      nonempty short (fun c mem => isDecimal_of_isDigit (isDigit_of_mem_dateCode mem))
      (length_dateCode date)
    rw [parts, run_strike]
    by_cases fits : strike < 10 ^ 8
    · exact .inr ⟨fits, by rw [if_pos fits]; rfl⟩
    · exact .inl (by rw [if_neg fits]; rfl)
  · -- a capital outside ASCII ends the run of the root in front of a character that is no digit
    left
    rw [Option.eq_none_iff_forall_ne_some]
    intro groups matched
    simp only [occPattern, Option.bind_eq_bind, Option.bind_eq_some_iff, Prod.exists] at matched
    obtain ⟨front, rest, rootRan, dates, behind, dateRan, -⟩ := matched
    obtain ⟨eq, -, -, -⟩ := run_eq_some rootRan
    obtain ⟨restEq, isDate, dateLong, -⟩ := run_eq_some dateRan
    obtain ⟨first, others, datesEq⟩ := List.exists_cons_of_ne_nil
      (List.ne_nil_of_length_pos (by omega) : dates ≠ [])
    have stopped := isDate first (by simp [datesEq])
    have frontEq : front = (root ++ (dateCode date ++ side.letter :: zeroPadded 8 strike)).takeWhile
        isUpper := by
      simp only [run] at rootRan
      split at rootRan
      · exact (congrArg Prod.fst (Option.some.inj rootRan)).symm
      · simp at rootRan
    have split : root = root.takeWhile isUpper ++ root.dropWhile isUpper := by simp
    obtain ⟨odd, later, dropEq⟩ : ∃ odd later, root.dropWhile isUpper = odd :: later := by
      apply List.exists_cons_of_ne_nil
      intro empty
      apply ascii
      intro c mem
      rw [split, empty, List.append_nil] at mem
      exact List.mem_takeWhile_imp mem
    have oddNot : isUpper odd = false := by
      have head := List.head?_dropWhile_not isUpper root
      simpa [dropEq] using head
    have frontRoot : front = root.takeWhile isUpper := by
      rw [frontEq, split, dropEq]
      simp only [List.append_assoc, List.cons_append]
      rw [takeWhile_stop (fun c mem => List.mem_takeWhile_imp mem) (by simpa using oddNot),
        takeWhile_stop (fun c mem => List.mem_takeWhile_imp mem) (by simpa using oddNot)]
    have restHead : first = odd := by
      rw [frontRoot, restEq, datesEq] at eq
      nth_rewrite 1 [split] at eq
      rw [dropEq] at eq
      simp only [List.append_assoc, List.cons_append, List.append_cancel_left_eq,
        List.cons.injEq] at eq
      exact eq.1.symm
    have oddMem : odd ∈ root := by
      rw [split, dropEq]
      simp
    have folded : odd ∈ foldedLetters := by
      have capital := capitals odd oddMem
      simp only [isCapital, oddNot, Bool.false_or, Bool.or_eq_true, beq_iff_eq] at capital
      rcases capital with rfl | rfl <;> decide
    rw [restHead, isDecimal, Unicode.digit_folded odd folded] at stopped
    simp at stopped

/-- No other pattern matches a plain text with a digit. -/
theorem resolve_of_plain {chars : List Char} (plain : ∀ c ∈ chars, isPlain c = true)
    {digit : Char} (mem : digit ∈ chars) (isDigit' : isDigit digit = true) (today : Date) :
    (∀ root dateDigits side strikeDigits,
      occPattern chars = some (root, dateDigits, side, strikeDigits) →
      resolve today (String.ofList chars) =
        parseOccOption chars root dateDigits side strikeDigits) ∧
      (occPattern chars = none →
        resolve today (String.ofList chars) = .ok ⟨.unknown, chars, none⟩) := by
  have text : upperChars (stripChars (String.ofList chars).toList) = chars := by
    rw [String.toList_ofList, stripChars_of_plain plain, upperChars_of_plain plain]
  have notStock : stockPattern chars = false := by
    rw [Bool.eq_false_iff]
    intro matched
    obtain ⟨body, rest, eq, letters, ended⟩ := stockPattern_shape matched
    rcases List.mem_append.mp (eq ▸ mem) with inBody | inRest
    · rw [(letters digit inBody).2] at isDigit'
      simp at isDigit'
    · simp only [atEnd, Bool.or_eq_true, beq_iff_eq] at ended
      rcases ended with rfl | rfl
      · simp at inRest
      · obtain rfl : digit = '\n' := by simpa using inRest
        exact absurd isDigit' (by decide)
  have noPair : ∀ a b c d, pairPattern a b c d chars = none := by
    intro a b c d
    rw [Option.eq_none_iff_forall_ne_some]
    intro pair matched
    exact ne_slash_of_isPlain (plain '/' (pairPattern_slash matched)) rfl
  simp only [resolve, text, notStock, Bool.false_eq_true, if_false, noPair, Option.filter_none,
    parseHumanOption_of_plain plain]
  refine ⟨fun root dateDigits side strikeDigits matched => ?_, fun unmatched => ?_⟩
  · rw [matched]
  · rw [unmatched]

/-- The date that a date code is read as. -/
def readDate (date : Date) : Date :=
  ⟨2000 + date.year % 100, date.month, date.day, date.isDate_shortYear⟩

omit [Unicode] in
@[simp]
theorem dateCode_readDate (date : Date) : dateCode (readDate date) = dateCode date := by
  have same : (2000 + date.year % 100) % 100 = date.year % 100 := by omega
  simp only [dateCode, readDate, same]

theorem resolvedOption_eq {symbol : Option (List Char)} {terms : OptionTerms} {occ : List Char}
    (written : toOcc terms = .ok occ) :
    resolvedOption symbol terms = .ok ⟨.option terms, symbol.getD occ, some occ⟩ := by
  simp only [resolvedOption, written, bind, Except.bind]

/-- A strike of at most eight digits is written as it is. -/
theorem toOcc_of_strike {root : List Char} {date : Date} {strike : Decimal} {side : OptionType}
    {n : Nat} (whole : strike.mulThousand.toInt = n) (fits : n < 10 ^ 8)
    (capitals : ∀ c ∈ root, isCapital c = true) (nonempty : 1 ≤ root.length)
    (short : root.length ≤ 6) :
    toOcc ⟨root, date, strike, side⟩ =
      .ok (root ++ (dateCode date ++ side.letter :: zeroPadded 8 n)) := by
  have digits := (Nat.length_toDigits_le_iff (by omega : 1 < 10) (by omega : 0 < 8)).mpr fits
  simp only [toOcc_eq, whole]
  rw [if_neg (by simp only [maxIntDigits]; omega), occRoot_of_capitals capitals nonempty short]
  simp

/-- A contract text is read as its parts, or matches nothing. -/
theorem resolve_occParts {root : List Char} (date : Date) (side : OptionType) (strike : Nat)
    (capitals : ∀ c ∈ root, isCapital c = true) (nonempty : 1 ≤ root.length)
    (short : root.length ≤ 6) (today : Date) {chars : List Char}
    (text : root ++ (dateCode date ++ side.letter :: zeroPadded 8 strike) = chars) :
    ((∀ c ∈ root, isUpper c = true) ∧ strike < 10 ^ 8 →
      resolve today (String.ofList chars) =
        .ok ⟨.option ⟨root, readDate date, Decimal.divThousand ⟨strike, 0⟩, side⟩, chars,
          some chars⟩) ∧
    (¬((∀ c ∈ root, isUpper c = true) ∧ strike < 10 ^ 8) →
      resolve today (String.ofList chars) = .ok ⟨.unknown, chars, none⟩) := by
  have plain : ∀ c ∈ chars, isPlain c = true :=
    text ▸ (IsOccText.intro root date side strike capitals nonempty short).plain
  obtain ⟨digit, mem⟩ := List.exists_mem_of_ne_nil (dateCode date)
    (List.ne_nil_of_length_pos (by rw [length_dateCode]; omega))
  have read := resolve_of_plain plain (text ▸ by simp [mem]) (isDigit_of_mem_dateCode mem) today
  constructor
  · rintro ⟨ascii, fits⟩
    have matched : occPattern chars = some (root, dateCode date, side, zeroPadded 8 strike) := by
      rw [← text, occPattern_of_parts side ascii nonempty short
        (fun c mem => isDecimal_of_isDigit (isDigit_of_mem_dateCode mem)) (length_dateCode date),
        run_strike, if_pos fits]
      rfl
    obtain ⟨year, month, day⟩ := decimalValue_dateCode date
    have written := @toOcc_of_strike _ _ (readDate date) _ side _
      (Decimal.toInt_mulThousand_divThousand fits) fits capitals nonempty short
    rw [dateCode_readDate, text] at written
    rw [read.1 _ _ _ _ matched]
    simp only [parseOccOption, year, month, day, Date.make_of_isDate date.isDate_shortYear,
      decimalValue_zeroPadded (by omega : 0 < 8) fits]
    exact resolvedOption_eq written
  · intro other
    have unmatched : occPattern chars = none := by
      have matched := occPattern_occText date side strike capitals nonempty short
      rw [text] at matched
      refine matched.resolve_right ?_
      rintro ⟨fits, found⟩
      exact other ⟨(occPattern_eq_some found).1.1, fits⟩
    exact read.2 unmatched

/-- A contract text is a contract again, or matches nothing. -/
theorem resolve_occText {chars : List Char} (occ : IsOccText chars) (today : Date) :
    (∃ terms, resolve today (String.ofList chars) = .ok ⟨.option terms, chars, some chars⟩) ∨
      resolve today (String.ofList chars) = .ok ⟨.unknown, chars, none⟩ := by
  obtain ⟨root, date, side, strike, capitals, nonempty, short⟩ := occ
  have read := resolve_occParts date side strike capitals nonempty short today rfl
  by_cases fits : (∀ c ∈ root, isUpper c = true) ∧ strike < 10 ^ 8
  · exact .inl ⟨_, read.1 fits⟩
  · exact .inr (read.2 fits)

/-! ## Stability -/

/-- Upper-casing a letter that `[A-Z]` matches without regard to case gives one capital. -/
theorem upper_of_folded {c : Char} (folded : isFoldedLetter c = true) :
    ∃ d, Unicode.upper c = [d] ∧ isCapital d = true := by
  simp only [isFoldedLetter, Bool.or_eq_true, List.contains_iff_mem] at folded
  rcases folded with (upper | lower) | special
  · have capital := isCapital_of_isUpper upper
    exact ⟨c, upper_of_isPlain (isPlain_of_isCapital capital), capital⟩
  · simp only [isLower, Bool.and_eq_true, decide_eq_true_eq] at lower
    obtain ⟨low, high⟩ : 97 ≤ c.toNat ∧ c.toNat ≤ 122 := lower
    refine ⟨c.toUpper, Unicode.upper_ascii c (by omega), ?_⟩
    obtain ⟨n, eq⟩ : ∃ n, c.toNat = n := ⟨_, rfl⟩
    have back : c = Char.ofNat n := by rw [← eq, Char.ofNat_toNat]
    rw [eq] at low high
    subst back
    interval_cases n <;> decide
  · simp only [foldedLetters, List.mem_cons, List.not_mem_nil, or_false] at special
    rcases special with rfl | rfl | rfl | rfl
    · exact ⟨_, Unicode.upper_dottedI, by decide⟩
    · exact ⟨_, Unicode.upper_dotlessI, by decide⟩
    · exact ⟨_, Unicode.upper_longS, by decide⟩
    · exact ⟨_, Unicode.upper_kelvin, by decide⟩

theorem upperChars_folded {root : List Char} (folded : ∀ c ∈ root, isFoldedLetter c = true) :
    (upperChars root).length = root.length ∧ ∀ c ∈ upperChars root, isCapital c = true := by
  induction root with
  | nil => simp
  | cons c rest ih =>
      obtain ⟨length, capitals⟩ := ih fun d mem => folded d (by simp [mem])
      obtain ⟨d, upper, capital⟩ := upper_of_folded (folded c (by simp))
      have split : upperChars (c :: rest) = d :: upperChars rest := by simp [upperChars, upper]
      rw [split]
      refine ⟨by simp [length], fun e mem => ?_⟩
      rcases List.mem_cons.mp mem with rfl | mem
      · exact capital
      · exact capitals e mem

/-- The roots that resolution finds: one to six capitals. -/
def OptionTerms.Rooted (terms : OptionTerms) : Prop :=
  (∀ c ∈ terms.underlying, isCapital c = true) ∧ 1 ≤ terms.underlying.length ∧
    terms.underlying.length ≤ 6

theorem resolvedOption_eq_ok {symbol : Option (List Char)} {terms : OptionTerms}
    {resolved : ResolvedSymbol} (result : resolvedOption symbol terms = .ok resolved) :
    ∃ occ, toOcc terms = .ok occ ∧ resolved = ⟨.option terms, symbol.getD occ, some occ⟩ := by
  cases written : toOcc terms with
  | error error => simp [resolvedOption, written, bind, Except.bind] at result
  | ok occ =>
      rw [resolvedOption_eq written] at result
      exact ⟨occ, rfl, (Except.ok.inj result).symm⟩

/-- A text in one of the human-readable formats is resolved to rooted terms. -/
theorem parseHumanOption_terms {today : Date} {symbol : List Char} {resolved : ResolvedSymbol}
    (parsed : parseHumanOption today symbol = .ok resolved) (known : resolved.kind ≠ .unknown) :
    ∃ terms : OptionTerms, terms.Rooted ∧ resolvedOption none terms = .ok resolved := by
  have finish : ∀ {root : List Char} {expiration : Date} {strike : Decimal} {side : OptionType},
      (∃ body rest, run isFoldedLetter 1 5 body = some (root, rest)) →
      resolvedOption none ⟨upperChars root, expiration, strike, side⟩ = .ok resolved →
      ∃ terms : OptionTerms, terms.Rooted ∧ resolvedOption none terms = .ok resolved := by
    rintro root expiration strike side ⟨body, rest, ran⟩ result
    obtain ⟨-, folded, least, most⟩ := run_eq_some ran
    obtain ⟨length, capitals⟩ := upperChars_folded folded
    exact ⟨_, ⟨capitals, by simpa [length] using least, by simp only [length]; omega⟩, result⟩
  simp only [parseHumanOption] at parsed
  split at parsed
  · rename_i root year month day strikeText side dated
    split at parsed
    · simp at parsed
    · split at parsed
      · simp at parsed
      · refine finish ?_ parsed
        simp only [humanDatePattern, Option.bind_eq_bind, Option.bind_eq_some_iff, Prod.exists]
          at dated
        obtain ⟨body, rest, ran, tail, -, y, rest', -, tail', -, m, rest'', -, tail'', -, d, rest3,
          -, tail3, -, tail4, -, found, -, last⟩ := dated
        split at last
        · obtain ⟨rfl, -⟩ := Prod.mk.inj (Option.some.inj last)
          exact ⟨_, _, ran⟩
        · simp at last
  · split at parsed
    · rename_i root month day strikeText side monthly
      split at parsed
      · simp at parsed
      · split at parsed
        · simp at parsed
        · refine finish ?_ parsed
          simp only [humanMonthPattern, Option.bind_eq_bind, Option.bind_eq_some_iff, Prod.exists]
            at monthly
          obtain ⟨body, rest, ran, tail, -, m, rest', -, d, rest'', -, tail', -, found, -, last⟩ :=
            monthly
          split at last
          · obtain ⟨rfl, -⟩ := Prod.mk.inj (Option.some.inj last)
            exact ⟨_, _, ran⟩
          · simp at last
    · obtain rfl := Except.ok.inj parsed
      exact absurd rfl known

/-- What is not a ticker, a pair or unknown is resolved to rooted terms. -/
theorem resolve_terms {today : Date} {symbol : String} {resolved : ResolvedSymbol}
    (result : resolve today symbol = .ok resolved) :
    (stockPattern (upperChars (stripChars symbol.toList)) = true ∧
        resolved = ⟨.stock, upperChars (stripChars symbol.toList),
          some (upperChars (stripChars symbol.toList))⟩) ∨
      resolved.kind = .forex ∨ resolved.kind = .crypto ∨ resolved.kind = .unknown ∨
      ∃ (spelling : Option (List Char)) (terms : OptionTerms), terms.Rooted ∧
        resolvedOption spelling terms = .ok resolved := by
  simp only [resolve] at result
  split_ifs at result with stock
  · exact .inl ⟨stock, (Except.ok.inj result).symm⟩
  · right
    split at result
    · rename_i root dateDigits side strikeDigits found
      obtain ⟨⟨upper, least, most⟩, -⟩ := occPattern_eq_some found
      simp only [parseOccOption] at result
      split at result
      · simp at result
      · exact .inr
          (.inr (.inr ⟨_, _, ⟨fun c mem => isCapital_of_isUpper (upper c mem), least, most⟩,
          result⟩))
    · split at result
      · obtain rfl := Except.ok.inj result
        exact .inl rfl
      · split at result
        · obtain rfl := Except.ok.inj result
          exact .inr (.inl rfl)
        · by_cases known : resolved.kind = .unknown
          · exact .inr (.inr (.inl known))
          · obtain ⟨terms, rooted, eq⟩ := parseHumanOption_terms result known
            exact .inr (.inr (.inr ⟨none, terms, rooted, eq⟩))

/-- What resolution reads as an option is spelled as its contract. -/
theorem resolve_option {today : Date} {symbol : String} {resolved : ResolvedSymbol}
    {terms : OptionTerms} (result : resolve today symbol = .ok resolved)
    (option : resolved.kind = .option terms) :
    terms.Rooted ∧ ∃ occ, toOcc terms = .ok occ ∧ resolved.alpaca = some occ := by
  rcases resolve_terms result with ⟨-, rfl⟩ | other | other | other |
    ⟨spelling, same, rooted, eq⟩
  · cases option
  · rw [option] at other
    cases other
  · rw [option] at other
    cases other
  · rw [option] at other
    cases other
  · obtain ⟨occ, written, rfl⟩ := resolvedOption_eq_ok eq
    cases option
    exact ⟨rooted, occ, written, rfl⟩

/-- A canonical symbol is a plain ticker or a contract text. -/
theorem canonicalBrokerSymbol_shape {today : Date} {symbol canonical : String}
    (ok : canonicalBrokerSymbol today symbol = .ok canonical) :
    (stockPattern canonical.toList = true ∧ ∀ c ∈ canonical.toList, isPlain c = true) ∨
      IsOccText canonical.toList := by
  have spelled : ∀ {occ : List Char}, IsOccText occ →
      IsOccText (String.ofList (upperChars occ)).toList := by
    intro occ isOcc
    rw [String.toList_ofList, upperChars_of_plain isOcc.plain]
    exact isOcc
  simp only [canonicalBrokerSymbol] at ok
  split at ok
  · simp at ok
  · rename_i resolved result
    obtain ⟨known, notForex, notCrypto, rfl⟩ : resolved.kind ≠ .unknown ∧
        resolved.kind ≠ .forex ∧ resolved.kind ≠ .crypto ∧
        String.ofList (upperChars (resolved.alpaca.getD resolved.symbol)) = canonical := by
      split at ok <;> simp_all
    rcases resolve_terms result with
      ⟨stock, rfl⟩ | forex | crypto | unknown |
        ⟨spelling, terms, ⟨capitals, least, most⟩, eq⟩
    · have plain := plain_of_stockPattern stock
      left
      simp only [Option.getD_some, String.toList_ofList, upperChars_of_plain plain]
      exact ⟨stock, plain⟩
    · exact absurd forex notForex
    · exact absurd crypto notCrypto
    · exact absurd unknown known
    · right
      obtain ⟨occ, written, rfl⟩ := resolvedOption_eq_ok eq
      exact spelled (isOccText_of_toOcc capitals least most written)

/-- Reading a canonical symbol again, on any day, gives the same symbol or reports it as unknown. -/
theorem canonicalBrokerSymbol_stable {today : Date} {symbol canonical : String}
    (ok : canonicalBrokerSymbol today symbol = .ok canonical) (later : Date) :
    canonicalBrokerSymbol later canonical = .ok canonical ∨
      canonicalBrokerSymbol later canonical = .error (.unknown canonical) := by
  rcases canonicalBrokerSymbol_shape ok with ⟨stock, plain⟩ | occ
  · left
    have text : upperChars (stripChars canonical.toList) = canonical.toList := by
      rw [stripChars_of_plain plain, upperChars_of_plain plain]
    simp [canonicalBrokerSymbol, resolve, text, stock, upperChars_of_plain plain]
  · rcases resolve_occText occ later with ⟨terms, option⟩ | unknown
    · left
      rw [String.ofList_toList] at option
      simp [canonicalBrokerSymbol, option, upperChars_of_plain occ.plain]
    · right
      rw [String.ofList_toList] at unknown
      simp [canonicalBrokerSymbol, unknown]

end Tables

end Symbology
end DataGateway
