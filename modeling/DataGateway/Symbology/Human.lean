import DataGateway.Symbology.OccCodec

/-!
# Human-readable options

`to_human` prints a contract as `AAPL 2025-01-17 $200 Call`.  The human-readable patterns take roots
of at most five letters while contract texts take six, so the text of a six-letter root is not read
again.
-/

namespace DataGateway
namespace Symbology

open Text

/-- `date.isoformat()`. -/
def isoFormat (date : Date) : List Char :=
  zeroPadded 4 date.year ++ '-' :: (zeroPadded 2 date.month ++ '-' :: zeroPadded 2 date.day)

/-- `"Call"` or `"Put"`. -/
def OptionType.word : OptionType → List Char
  | .call => ['C', 'a', 'l', 'l']
  | .put => ['P', 'u', 't']

/-- `f"{underlying} {expiration} ${strike} {option_type}"`, with the last word as given. -/
def OptionTerms.humanText (terms : OptionTerms) (word : List Char) : List Char :=
  terms.underlying ++ ' ' :: (isoFormat terms.expiration ++
    ' ' :: '$' :: (terms.strike.text ++ ' ' :: word))

section Table

variable [Unicode]

/-- `to_human` of a text. -/
def toHuman (today : Date) (symbol : String) : Except Unparsable (List Char) := do
  let resolved ← resolve today symbol
  match resolved.kind with
  | .option terms => .ok (terms.humanText terms.optionType.word)
  | _ => .ok resolved.symbol

/-! ## What upper-casing leaves of the text -/

/-- The last word in capitals. -/
def OptionType.upperWord (side : OptionType) : List Char := side.word.map Char.toUpper

/-- A strike that is printed without exponent. -/
structure PlainStrike (strike : Decimal) : Prop where
  whole : strike.exponent ≤ 0
  plain : -6 < strike.exponent + (Nat.toDigits 10 strike.coefficient).length

variable {terms : OptionTerms} {strike : Decimal} {c : Char}

omit [Unicode] in
theorem isDigit_of_mem_isoFormat {date : Date} (mem : c ∈ isoFormat date) :
    isDigit c = true ∨ c = '-' := by
  simp only [isoFormat, List.mem_append, List.mem_cons] at mem
  rcases mem with year | rfl | month | rfl | day
  · exact .inl (isDigit_of_mem_zeroPadded year)
  · exact .inr rfl
  · exact .inl (isDigit_of_mem_zeroPadded month)
  · exact .inr rfl
  · exact .inl (isDigit_of_mem_zeroPadded day)

theorem upperChars_humanText (letters : ∀ c ∈ terms.underlying, isUpper c = true)
    (strike : PlainStrike terms.strike) :
    upperChars (terms.humanText terms.optionType.word) =
      terms.humanText terms.optionType.upperWord := by
  have space : upperChars [' '] = [' '] := by simp [upperChars, Unicode.upper_ascii]
  have dollar : upperChars ['$'] = ['$'] := by simp [upperChars, Unicode.upper_ascii]
  have root : upperChars terms.underlying = terms.underlying :=
    upperChars_of_plain fun c mem => isPlain_of_isCapital (isCapital_of_isUpper (letters c mem))
  have iso : upperChars (isoFormat terms.expiration) = isoFormat terms.expiration := by
    refine upperChars_of_plain fun c mem => ?_
    rcases isDigit_of_mem_isoFormat mem with digit | rfl
    · exact isPlain_of_isDigit digit
    · decide
  have price : upperChars terms.strike.text = terms.strike.text := by
    refine upperChars_of_plain fun c mem => ?_
    rcases Decimal.mem_text strike.whole strike.plain mem with digit | rfl
    · exact isPlain_of_isDigit digit
    · decide
  have word : upperChars terms.optionType.word = terms.optionType.upperWord := by
    cases terms.optionType <;>
      simp [upperChars, OptionType.word, OptionType.upperWord, Unicode.upper_ascii]
  have split (left right : List Char) (c : Char) :
      left ++ c :: right = left ++ ([c] ++ right) := rfl
  simp only [OptionTerms.humanText, split, upperChars_append, root, iso, price, word, space, dollar]

omit [Unicode] in
theorem stripChars_humanText {word : List Char} (letters : ∀ c ∈ terms.underlying, isUpper c = true)
    (nonempty : 1 ≤ terms.underlying.length) (ending : ∃ front, word = front ++ ['l'] ∨
      word = front ++ ['t'] ∨ word = front ++ ['L'] ∨ word = front ++ ['T']) :
    stripChars (terms.humanText word) = terms.humanText word := by
  obtain ⟨first, root, rooted⟩ := List.exists_cons_of_ne_nil (List.ne_nil_of_length_pos nonempty)
  have front : isSpace first = false := isSpace_of_isPlain
    (isPlain_of_isCapital (isCapital_of_isUpper (letters first (by simp [rooted]))))
  have edges (middle : List Char) (last : Char) (visible : isSpace last = false) :
      stripChars (terms.humanText (middle ++ [last])) = terms.humanText (middle ++ [last]) := by
    have split : terms.humanText (middle ++ [last]) = first :: ((root ++ ' ' ::
        (isoFormat terms.expiration ++ ' ' :: '$' :: (terms.strike.text ++ ' ' :: middle))) ++
          [last]) := by simp [OptionTerms.humanText, rooted]
    rw [split]
    exact stripChars_of_edges front visible
  obtain ⟨middle, rfl | rfl | rfl | rfl⟩ := ending
  · exact edges middle 'l' (by decide)
  · exact edges middle 't' (by decide)
  · exact edges middle 'L' (by decide)
  · exact edges middle 'T' (by decide)

omit [Unicode] in
theorem word_ending (side : OptionType) : ∃ front, side.word = front ++ ['l'] ∨
    side.word = front ++ ['t'] ∨ side.word = front ++ ['L'] ∨ side.word = front ++ ['T'] := by
  cases side
  · exact ⟨['C', 'a', 'l'], .inl rfl⟩
  · exact ⟨['P', 'u'], .inr (.inl rfl)⟩

omit [Unicode] in
theorem upperWord_ending (side : OptionType) : ∃ front, side.upperWord = front ++ ['l'] ∨
    side.upperWord = front ++ ['t'] ∨ side.upperWord = front ++ ['L'] ∨
      side.upperWord = front ++ ['T'] := by
  cases side
  · exact ⟨['C', 'A', 'L'], .inr (.inr (.inl rfl))⟩
  · exact ⟨['P', 'U'], .inr (.inr (.inr rfl))⟩

/-! ## Which patterns match -/

omit [Unicode] in
theorem stockPattern_of_space {chars : List Char} (mem : ' ' ∈ chars) :
    stockPattern chars = false := by
  rw [Bool.eq_false_iff]
  intro matched
  obtain ⟨body, rest, rfl, letters, ended⟩ := stockPattern_shape matched
  rcases List.mem_append.mp mem with inBody | inRest
  · exact absurd (letters ' ' inBody).1 (by decide)
  · simp only [atEnd, Bool.or_eq_true, beq_iff_eq] at ended
    rcases ended with rfl | rfl
    · cases inRest
    · exact absurd inRest (by decide)

theorem isDecimal_space : isDecimal ' ' = false := by
  rw [isDecimal, Unicode.digit_space ' ' (by decide)]
  rfl

theorem occPattern_of_space {chars : List Char} (mem : ' ' ∈ chars) : occPattern chars = none := by
  rw [Option.eq_none_iff_forall_ne_some]
  rintro ⟨root, dateDigits, side, strikeDigits⟩ matched
  obtain ⟨⟨letters, -⟩, ⟨dateDecimal, -⟩, ⟨strikeDecimal, -⟩, rest, rfl, ended⟩ :=
    occPattern_eq_some matched
  simp only [List.mem_append, List.mem_cons] at mem
  rcases mem with (inRoot | inDate | eq | inStrike) | inRest
  · exact absurd (letters ' ' inRoot) (by decide)
  · have decimal := dateDecimal ' ' inDate
    rw [isDecimal_space] at decimal
    cases decimal
  · cases side <;> exact absurd eq (by decide)
  · have decimal := strikeDecimal ' ' inStrike
    rw [isDecimal_space] at decimal
    cases decimal
  · simp only [atEnd, Bool.or_eq_true, beq_iff_eq] at ended
    rcases ended with rfl | rfl
    · cases inRest
    · exact absurd inRest (by decide)

omit [Unicode] in
theorem spaces_cons {first : Char} {rest : List Char} (visible : isSpace first = false) :
    spaces (' ' :: first :: rest) = some (first :: rest) := by
  have space : isSpace ' ' = true := by decide
  simp [spaces, space, visible]

omit [Unicode] in
theorem optionTypeOf_upperWord (side : OptionType) : optionTypeOf side.upperWord = some side := by
  cases side <;> decide +kernel

/-- A run of digits of one length, in front of a character that is no digit. -/
theorem run_zeroPadded {width number : Nat} {next : Char} {rest : List Char} (positive : 0 < width)
    (fits : number < 10 ^ width) (stop : isDecimal next = false) :
    run isDecimal width width (zeroPadded width number ++ next :: rest) =
      some (zeroPadded width number, next :: rest) :=
  run_of_append (fun _ mem => isDecimal_of_isDigit (isDigit_of_mem_zeroPadded mem))
    (by simp [stop]) ((length_zeroPadded positive).mpr fits).ge
    ((length_zeroPadded positive).mpr fits).le

omit [Unicode] in
theorem exists_digit_cons {width number : Nat} (positive : 0 < width)
    (fits : number < 10 ^ width) (rest : List Char) :
    ∃ first others, zeroPadded width number ++ rest = first :: others ∧ isSpace first = false := by
  obtain ⟨first, others, eq⟩ := List.exists_cons_of_ne_nil
    (List.ne_nil_of_length_pos (((length_zeroPadded positive).mpr fits).symm ▸ positive) :
      zeroPadded width number ≠ [])
  refine ⟨first, others ++ rest, by rw [eq, List.cons_append], isSpace_of_isPlain ?_⟩
  have mem : first ∈ zeroPadded width number := by simp [eq]
  exact isPlain_of_isDigit (isDigit_of_mem_zeroPadded mem)

/-- The first human-readable pattern finds the pieces of the text. -/
theorem humanDatePattern_humanText (letters : ∀ c ∈ terms.underlying, isUpper c = true)
    (nonempty : 1 ≤ terms.underlying.length) (short : terms.underlying.length ≤ 5)
    (strike : PlainStrike terms.strike) :
    humanDatePattern (terms.humanText terms.optionType.upperWord) =
      some (terms.underlying, (zeroPadded 4 terms.expiration.year,
        zeroPadded 2 terms.expiration.month, zeroPadded 2 terms.expiration.day), terms.strike.text,
        terms.optionType) := by
  obtain ⟨root, date, price, side⟩ := terms
  dsimp only at letters nonempty short strike ⊢
  have hyphen : isDecimal '-' = false := by
    rw [isDecimal, Unicode.digit_ascii '-' (by decide)]
    rfl
  have rootRun (rest : List Char) : run isFoldedLetter 1 5 (root ++ ' ' :: rest) =
      some (root, ' ' :: rest) :=
    run_of_append (fun c mem => by simp [isFoldedLetter, letters c mem]) (by simp; decide) nonempty
      short
  have digits (width number : Nat) (positive : 0 < width) (fits : number < 10 ^ width)
      (rest : List Char) : spaces (' ' :: (zeroPadded width number ++ rest)) =
        some (zeroPadded width number ++ rest) := by
    obtain ⟨first, others, eq, visible⟩ := exists_digit_cons positive fits rest
    rw [eq, spaces_cons visible]
  have wordSpaces : spaces (' ' :: side.upperWord) = some side.upperWord := by
    cases side <;> exact spaces_cons (by decide)
  have wordLine : side.upperWord.takeWhile (fun c => c != '\n') = side.upperWord := by
    cases side <;> decide
  have priceText : (price.text ++ ' ' :: side.upperWord).takeWhile
      (fun c => isDecimal c || c == '.') = price.text := by
    refine takeWhile_stop (fun c mem => ?_) ?_
    · rcases Decimal.mem_text strike.whole strike.plain mem with digit | rfl
      · simp [isDecimal_of_isDigit digit]
      · simp
    · simp [isDecimal_space]
  have priced : price.text ≠ [] := by
    intro empty
    have read := Decimal.ofChars_text strike.whole strike.plain
    rw [empty] at read
    cases read
  simp only [humanDatePattern, OptionTerms.humanText, isoFormat, List.append_assoc,
    List.cons_append, rootRun, Option.bind_eq_bind, Option.bind_some,
    digits 4 date.year (by omega) date.year_lt,
    run_zeroPadded (by omega : 0 < 4) date.year_lt hyphen,
    expect, if_true, run_zeroPadded (by omega : 0 < 2) date.month_lt hyphen,
    run_zeroPadded (by omega : 0 < 2) date.day_lt isDecimal_space]
  rw [spaces_cons (by decide)]
  simp only [Option.bind_some, optionalDollar, priceText, List.drop_left, wordSpaces, wordLine,
    optionTypeOf_upperWord, List.drop_length]
  simp [priced, atEnd]

/-- With a root of six letters no human-readable pattern matches. -/
theorem patterns_of_long (letters : ∀ c ∈ terms.underlying, isUpper c = true)
    (long : 5 < terms.underlying.length) (word : List Char) :
    humanDatePattern (terms.humanText word) = none ∧
      humanMonthPattern (terms.humanText word) = none := by
  have rootRun (rest : List Char) :
      run isFoldedLetter 1 5 (terms.underlying ++ ' ' :: rest) = none := by
    have whole : (terms.underlying ++ ' ' :: rest).takeWhile isFoldedLetter = terms.underlying :=
      takeWhile_stop (fun c mem => by simp [isFoldedLetter, letters c mem]) (by simp; decide)
    simp only [run, whole]
    rw [if_neg (by omega)]
  simp only [humanDatePattern, humanMonthPattern, OptionTerms.humanText, rootRun]
  exact ⟨rfl, rfl⟩

omit [Unicode] in
theorem ne_slash_of_mem_humanText (letters : ∀ c ∈ terms.underlying, isUpper c = true)
    (strike : PlainStrike terms.strike) (mem : c ∈ terms.humanText terms.optionType.upperWord) :
    c ≠ '/' := by
  rintro rfl
  simp only [OptionTerms.humanText, List.mem_append, List.mem_cons] at mem
  rcases mem with root | eq | iso | eq | eq | price | eq | word
  · exact absurd (letters _ root) (by decide)
  · exact absurd eq (by decide)
  · exact absurd (isDigit_of_mem_isoFormat iso) (by decide)
  · exact absurd eq (by decide)
  · exact absurd eq (by decide)
  · exact absurd (Decimal.mem_text strike.whole strike.plain price) (by decide)
  · exact absurd eq (by decide)
  · revert word
    cases terms.optionType <;> decide

/-- The text of a contract is read by the human-readable patterns only. -/
theorem resolve_humanText (letters : ∀ c ∈ terms.underlying, isUpper c = true)
    (nonempty : 1 ≤ terms.underlying.length) (strike : PlainStrike terms.strike) (today : Date) :
    resolve today (String.ofList (terms.humanText terms.optionType.word)) =
      parseHumanOption today (terms.humanText terms.optionType.upperWord) := by
  have text :
      upperChars (stripChars (String.ofList (terms.humanText terms.optionType.word)).toList) =
      terms.humanText terms.optionType.upperWord := by
    rw [String.toList_ofList, stripChars_humanText letters nonempty (word_ending _),
      upperChars_humanText letters strike]
  have space : ' ' ∈ terms.humanText terms.optionType.upperWord := by simp [OptionTerms.humanText]
  have noPair :
      ∀ a b c d, pairPattern a b c d (terms.humanText terms.optionType.upperWord) = none := by
    intro a b c d
    rw [Option.eq_none_iff_forall_ne_some]
    intro pair matched
    exact ne_slash_of_mem_humanText letters strike (pairPattern_slash matched) rfl
  simp only [resolve, text, stockPattern_of_space space, Bool.false_eq_true, if_false,
    occPattern_of_space space, noPair, Option.filter_none]

theorem fromIsoFormat_eq (date : Date) : fromIsoFormat (zeroPadded 4 date.year)
    (zeroPadded 2 date.month) (zeroPadded 2 date.day) = some date := by
  have digits : (zeroPadded 4 date.year ++ zeroPadded 2 date.month ++
      zeroPadded 2 date.day).all isDigit = true := by
    simp only [List.all_append, Bool.and_eq_true, List.all_eq_true]
    exact ⟨⟨fun _ => isDigit_of_mem_zeroPadded, fun _ => isDigit_of_mem_zeroPadded⟩,
      fun _ => isDigit_of_mem_zeroPadded⟩
  rw [fromIsoFormat, if_pos digits, decimalValue_zeroPadded (by omega) date.year_lt,
    decimalValue_zeroPadded (by omega) date.month_lt,
    decimalValue_zeroPadded (by omega) date.day_lt]
  exact Date.make_of_isDate date.valid

/-- The text of a contract with a root of at most five letters is read as that contract. -/
theorem parseHumanOption_humanText (letters : ∀ c ∈ terms.underlying, isUpper c = true)
    (nonempty : 1 ≤ terms.underlying.length) (short : terms.underlying.length ≤ 5)
    (strike : PlainStrike terms.strike) (today : Date) :
    parseHumanOption today (terms.humanText terms.optionType.upperWord) =
      resolvedOption none terms := by
  have root : upperChars terms.underlying = terms.underlying :=
    upperChars_of_plain fun c mem => isPlain_of_isCapital (isCapital_of_isUpper (letters c mem))
  simp only [parseHumanOption, stripChars_humanText letters nonempty (upperWord_ending _),
    humanDatePattern_humanText letters nonempty short strike, fromIsoFormat_eq,
    Decimal.ofChars_text strike.whole strike.plain, root]

/-! ## The round trip -/

omit [Unicode] in
/-- The strike of a contract text has at most three decimals. -/
theorem plainStrike_divThousand (n : Nat) : PlainStrike (Decimal.divThousand ⟨n, 0⟩) := by
  have positive (number : Nat) : 0 < (Nat.toDigits 10 number).length := Nat.length_toDigits_pos
  simp only [Decimal.divThousand, Decimal.reduce]
  split_ifs
  all_goals
    constructor
    · dsimp only
      omega
    · dsimp only
      have := positive (n / 10 / 10 / 10)
      have := positive (n / 10 / 10)
      have := positive (n / 10)
      have := positive n
      omega

/-- The text of `to_human`, on any day, is read as the contract. -/
def HumanTextNames (today : Date) (symbol : String) (terms : OptionTerms) : Prop :=
  ∃ text, toHuman today symbol = .ok text ∧ ∀ later, ∃ (resolved : ResolvedSymbol)
    (read : OptionTerms), resolve later (String.ofList text) = .ok resolved ∧
      resolved.kind = .option read ∧ read.SameContract terms

/-- What is read from a contract text. -/
theorem terms_of_occPattern {today : Date} {symbol : String} {resolved : ResolvedSymbol}
    {root dateDigits strikeDigits : List Char} {side : OptionType}
    (matched : occPattern (upperChars (stripChars symbol.toList)) =
      some (root, dateDigits, side, strikeDigits))
    (result : resolve today symbol = .ok resolved) (option : resolved.kind = .option terms) :
    terms.underlying = root ∧
    terms.strike = Decimal.divThousand ⟨decimalValue strikeDigits, 0⟩ := by
  simp only [resolve, matched] at result
  split_ifs at result with stock
  · obtain rfl := Except.ok.inj result
    cases option
  · simp only [parseOccOption] at result
    split at result
    · cases result
    · obtain ⟨occ, -, rfl⟩ := resolvedOption_eq_ok result
      obtain rfl := ResolvedKind.option.inj option
      exact ⟨rfl, rfl⟩

/-- The human-readable text of a contract is read back exactly when the root has at most five
letters. -/
theorem human_round_trip_iff {today : Date} {symbol : String} {resolved : ResolvedSymbol}
    {root dateDigits strikeDigits : List Char} {side : OptionType} {terms : OptionTerms}
    (matched : occPattern (upperChars (stripChars symbol.toList)) =
      some (root, dateDigits, side, strikeDigits))
    (result : resolve today symbol = .ok resolved) (option : resolved.kind = .option terms) :
    HumanTextNames today symbol terms ↔ root.length ≤ 5 := by
  obtain ⟨⟨letters, nonempty, -⟩, -, -, -⟩ := occPattern_eq_some matched
  obtain ⟨rfl, strike⟩ := terms_of_occPattern matched result option
  have plain : PlainStrike terms.strike := strike ▸ plainStrike_divThousand _
  have human : toHuman today symbol = .ok (terms.humanText terms.optionType.word) := by
    simp only [toHuman, result, option, bind, Except.bind]
  constructor
  · rintro ⟨text, printed, reads⟩
    obtain rfl := Except.ok.inj (human.symm.trans printed)
    obtain ⟨again, read, found, isOption, -⟩ := reads today
    by_contra long
    obtain ⟨noDate, noMonth⟩ :=
      patterns_of_long letters (Nat.lt_of_not_le long) terms.optionType.upperWord
    rw [resolve_humanText letters nonempty plain, parseHumanOption,
      stripChars_humanText letters nonempty (upperWord_ending _), noDate, noMonth] at found
    obtain rfl := Except.ok.inj found
    cases isOption
  · intro short
    obtain ⟨-, occ, written, -⟩ := resolve_option result option
    refine ⟨_, human, fun later =>
      ⟨⟨.option terms, occ, some occ⟩, terms, ?_, rfl, rfl, rfl, rfl, rfl⟩⟩
    rw [resolve_humanText letters nonempty plain,
      parseHumanOption_humanText letters nonempty short plain, resolvedOption_eq written]
    rfl

end Table

/-- The text of a contract on a six-letter root is not recognized. -/
theorem six_letter_root_is_not_read :
    let _ := asciiUnicode
    let today : Date := ⟨2025, 1, 10, by decide⟩
    let terms : OptionTerms := ⟨"GOOGLL".toList, ⟨2025, 1, 17, by decide⟩, ⟨200, 0⟩, .call⟩
    (∃ resolved, resolve today "GOOGLL250117C00200000" = .ok resolved ∧
      resolved.kind = .option terms) ∧
    (occPattern "GOOGLL250117C00200000".toList).isSome = true ∧
    toHuman today "GOOGLL250117C00200000" = .ok "GOOGLL 2025-01-17 $200 Call".toList ∧
    ¬HumanTextNames today "GOOGLL250117C00200000" terms := by
  intro _ today terms
  have printed :
      toHuman today "GOOGLL250117C00200000" = .ok "GOOGLL 2025-01-17 $200 Call".toList := by
    decide +kernel
  refine ⟨⟨⟨.option terms, "GOOGLL250117C00200000".toList, some "GOOGLL250117C00200000".toList⟩,
    by decide +kernel, rfl⟩, by decide +kernel, printed, ?_⟩
  rintro ⟨text, again, reads⟩
  obtain rfl := Except.ok.inj (printed.symm.trans again)
  obtain ⟨resolved, read, result, option, -⟩ := reads today
  have unknown : resolve today (String.ofList "GOOGLL 2025-01-17 $200 Call".toList) =
      .ok ⟨.unknown, "GOOGLL 2025-01-17 $200 CALL".toList, none⟩ := by decide +kernel
  obtain rfl := Except.ok.inj (unknown.symm.trans result)
  cases option

/-- The text of a contract on a four-letter root names it. -/
theorem four_letter_root_is_read :
    let _ := asciiUnicode
    HumanTextNames ⟨2025, 1, 10, by decide⟩ "AAPL250117C00200500"
      ⟨"AAPL".toList, ⟨2025, 1, 17, by decide⟩, ⟨2005, -1⟩, .call⟩ := by
  intro _
  have resolved : resolve ⟨2025, 1, 10, by decide⟩ "AAPL250117C00200500" = .ok
      ⟨.option ⟨"AAPL".toList, ⟨2025, 1, 17, by decide⟩, ⟨2005, -1⟩, .call⟩,
        "AAPL250117C00200500".toList, some "AAPL250117C00200500".toList⟩ := by decide +kernel
  have matched : occPattern (upperChars (stripChars "AAPL250117C00200500".toList)) =
      some ("AAPL".toList, "250117".toList, .call, "00200500".toList) := by decide +kernel
  exact (human_round_trip_iff matched resolved rfl).mpr (by decide +kernel)

end Symbology
end DataGateway
