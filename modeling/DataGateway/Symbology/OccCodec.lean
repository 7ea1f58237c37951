import DataGateway.Symbology.Canonical

/-!
# The contract codec

A contract text has room for an ASCII root, the years 2000 to 2099 and strikes of whole thousandths
below 100000.  Within these bounds `to_occ` and `resolve` invert each other, apart from the case of
the root, a final line break and the option type: `to_occ` takes a letter and `resolve` returns a
word.  The broker spelling of an option names the option that was read exactly when it lies within
them.
-/

namespace DataGateway
namespace Symbology

open Text

/-- The same underlying, expiration, strike price and side. -/
def OptionTerms.SameContract (left right : OptionTerms) : Prop :=
  left.underlying = right.underlying ∧ left.expiration = right.expiration ∧
    left.strike.value = right.strike.value ∧ left.optionType = right.optionType

namespace OptionTerms.SameContract

variable {left middle right : OptionTerms}

theorem symm (same : left.SameContract right) : right.SameContract left :=
  ⟨same.1.symm, same.2.1.symm, same.2.2.1.symm, same.2.2.2.symm⟩

theorem trans (first : left.SameContract middle) (second : middle.SameContract right) :
    left.SameContract right :=
  ⟨first.1.trans second.1, first.2.1.trans second.2.1, first.2.2.1.trans second.2.2.1,
    first.2.2.2.trans second.2.2.2⟩

end OptionTerms.SameContract

/-- Two digits of a year and five digits and three decimals of a strike are enough. -/
structure OptionTerms.FitsOcc (terms : OptionTerms) : Prop where
  century : 2000 ≤ terms.expiration.year ∧ terms.expiration.year ≤ 2099
  thousandths : ∃ n : Nat, n < 10 ^ 8 ∧ terms.strike.value * 1000 = n

/-- Moreover the root is spelled in ASCII capitals. -/
def OptionTerms.Encodable (terms : OptionTerms) : Prop :=
  (∀ c ∈ terms.underlying, isUpper c = true) ∧ terms.FitsOcc

theorem readDate_of_century {date : Date} (century : 2000 ≤ date.year ∧ date.year ≤ 2099) :
    readDate date = date := by
  obtain ⟨year, month, day, valid⟩ := date
  have same : 2000 + year % 100 = year := by
    dsimp only at century
    omega
  simp only [readDate, same]

variable [Unicode]

/-- What `to_occ` writes for rooted terms. -/
theorem toOcc_eq_ok {terms : OptionTerms} {occ : List Char} (rooted : terms.Rooted)
    (written : toOcc terms = .ok occ) :
    terms.underlying ++ (dateCode terms.expiration ++
      terms.optionType.letter :: zeroPadded 8 terms.strike.mulThousand.toInt) = occ := by
  rw [toOcc_eq] at written
  split at written
  · cases written
  · obtain rfl := Except.ok.inj written
    rw [occRoot_of_capitals rooted.1 rooted.2.1 rooted.2.2]
    simp

/-- Terms within the bounds are written as a text that is read as the same contract. -/
theorem read_of_fits {terms : OptionTerms} (letters : ∀ c ∈ terms.underlying, isUpper c = true)
    (nonempty : 1 ≤ terms.underlying.length) (short : terms.underlying.length ≤ 6)
    (fits : terms.FitsOcc) :
    ∃ (occ : List Char) (read : OptionTerms), toOcc terms = .ok occ ∧ read.SameContract terms ∧
      ∀ today, resolve today (String.ofList occ) = .ok ⟨.option read, occ, some occ⟩ := by
  obtain ⟨root, date, strike, side⟩ := terms
  obtain ⟨century, n, small, value⟩ := fits
  have capitals : ∀ c ∈ root, isCapital c = true :=
    fun c mem => isCapital_of_isUpper (letters c mem)
  have whole := Decimal.toInt_mulThousand value (small.trans (by decide))
  refine ⟨_, ⟨root, date, Decimal.divThousand ⟨n, 0⟩, side⟩,
    toOcc_of_strike whole small capitals nonempty short, ⟨rfl, rfl, ?_, rfl⟩, fun today => ?_⟩
  · exact mul_right_cancel₀ (by norm_num) ((Decimal.value_divThousand n).trans value.symm)
  · have read := resolve_occParts date side n capitals nonempty short today rfl
    rw [readDate_of_century century] at read
    exact read.1 ⟨letters, small⟩

/-- A text of `to_occ` that is read as the same contract comes from terms within the bounds. -/
theorem fits_of_read {terms read : OptionTerms} {occ : List Char} {today : Date}
    {resolved : ResolvedSymbol} (rooted : terms.Rooted) (written : toOcc terms = .ok occ)
    (result : resolve today (String.ofList occ) = .ok resolved)
    (option : resolved.kind = .option read) (same : read.SameContract terms) : terms.Encodable := by
  have parts := resolve_occParts _ _ _ rooted.1 rooted.2.1 rooted.2.2 today
    (toOcc_eq_ok rooted written)
  by_cases bounds : (∀ c ∈ terms.underlying, isUpper c = true) ∧
      terms.strike.mulThousand.toInt < 10 ^ 8
  · obtain rfl := Except.ok.inj (result.symm.trans (parts.1 bounds))
    obtain rfl := ResolvedKind.option.inj option
    obtain ⟨-, expiration, strike, -⟩ := same
    have year := congrArg Date.year expiration
    dsimp only [readDate] at year strike
    refine ⟨bounds.1, by omega, _, bounds.2, ?_⟩
    rw [← strike]
    exact Decimal.value_divThousand _
  · obtain rfl := Except.ok.inj (result.symm.trans (parts.2 bounds))
    cases option

/-! ## Round trips -/

/-- Writing the components, with this text for the option type, and reading what was written, on any
day, gives the contract. -/
def ReadsBackAs (root : List Char) (expiry : Date) (strike : Decimal) (optType : List Char)
    (contract : OptionTerms) : Prop :=
  ∃ (occ : List Char) (read : OptionTerms), toOccOf root expiry strike optType = .ok occ ∧
    read.SameContract contract ∧
    ∀ today, resolve today (String.ofList occ) = .ok ⟨.option read, occ, some occ⟩

/-- Reading the text, on any day, and writing what was read, with the option type in this spelling,
gives the contract text. -/
def ReencodesAs (spelling : OptionType → List Char) (text : String) (occ : List Char) : Prop :=
  ∀ today, ∃ (resolved : ResolvedSymbol) (read : OptionTerms),
    resolve today text = .ok resolved ∧ resolved.kind = .option read ∧
      toOccOf read.underlying read.expiration read.strike (spelling read.optionType) = .ok occ

/-- The option type as `to_occ` takes it. -/
def OptionType.argument (side : OptionType) : List Char := [side.letter]

omit [Unicode] in
theorem isUpper_toUpper {c : Char} (letter : isUpper c = true ∨ isLower c = true) :
    isUpper c.toUpper = true ∧ c.toNat < 128 := by
  rw [isUpper_iff, toNat_toUpper]
  rcases letter with upper | lower
  · have bound := isUpper_iff.mp upper
    split_ifs <;> omega
  · simp only [isLower, Bool.and_eq_true, decide_eq_true_eq] at lower
    obtain ⟨low, high⟩ : 97 ≤ c.toNat ∧ c.toNat ≤ 122 := lower
    rw [if_pos ⟨low, high⟩]
    omega

theorem upperChars_letters {root : List Char}
    (letters : ∀ c ∈ root, isUpper c = true ∨ isLower c = true) :
    upperChars root = root.map Char.toUpper := by
  induction root with
  | nil => rfl
  | cons c rest ih =>
      have head := Unicode.upper_ascii c (isUpper_toUpper (letters c (by simp))).2
      have tail := ih fun d mem => letters d (by simp [mem])
      simpa [upperChars, head] using tail

/-- Upper-casing comes first in `to_occ`. -/
theorem toOcc_upper {root : List Char} {date : Date} {strike : Decimal} {side : OptionType}
    (letters : ∀ c ∈ root, isUpper c = true ∨ isLower c = true) :
    toOcc ⟨root, date, strike, side⟩ = toOcc ⟨root.map Char.toUpper, date, strike, side⟩ := by
  have plain : ∀ c ∈ root.map Char.toUpper, isPlain c = true := by
    intro c mem
    obtain ⟨d, from_, rfl⟩ := List.mem_map.mp mem
    exact isPlain_of_isCapital (isCapital_of_isUpper (isUpper_toUpper (letters d from_)).1)
  have roots : occRoot root = occRoot (root.map Char.toUpper) := by
    simp only [occRoot, upperChars_letters letters, upperChars_of_plain plain]
  simp only [toOcc, toOccOf, roots]

omit [Unicode] in
theorem stripChars_concat_space {chars : List Char} {c : Char} (space : isSpace c = true) :
    stripChars (chars ++ [c]) = stripChars chars := by
  simp only [stripChars, List.dropWhile_append]
  split
  next empty => simp [List.isEmpty_iff.mp empty, space]
  next => simp [space]

/-- Resolution reads the stripped text only. -/
theorem resolve_of_strip {text other : String} (today : Date)
    (same : stripChars text.toList = stripChars other.toList) :
    resolve today text = resolve today other := by
  simp only [resolve, same]

theorem isDigit_of_isDecimal {c : Char} (ascii : c.toNat < 128) (decimal : isDecimal c = true) :
    isDigit c = true := by
  rw [isDecimal, Unicode.digit_ascii c ascii] at decimal
  by_contra other
  rw [if_neg other] at decimal
  cases decimal

/-- Six digits that name a date of this century are its date code. -/
theorem dateCode_of_digits {digits : List Char} {date : Date}
    (ascii : ∀ c ∈ digits, isDigit c = true) (length : digits.length = 6)
    (made : Date.make (2000 + decimalValue (digits.take 2)) (decimalValue ((digits.drop 2).take 2))
      (decimalValue ((digits.drop 4).take 2)) = some date) :
    dateCode date = digits := by
  obtain ⟨year, month, day⟩ := Date.make_eq_some made
  have piece : ∀ front : Nat, front + 2 ≤ 6 →
      zeroPadded 2 (decimalValue ((digits.drop front).take 2)) = (digits.drop front).take 2 := by
    intro front inside
    have long : ((digits.drop front).take 2).length = 2 := by
      rw [List.length_take, List.length_drop]
      omega
    have padded := zeroPadded_decimalValue
      (fun c mem => ascii c (List.mem_of_mem_drop (List.mem_of_mem_take mem)))
      (List.ne_nil_of_length_pos (by omega) : (digits.drop front).take 2 ≠ [])
    rwa [long] at padded
  have short : decimalValue (digits.take 2) < 100 := by
    have bound := decimalValue_lt (digits.take 2)
    rwa [List.length_take_of_le (by omega)] at bound
  have shortYear : date.year % 100 = decimalValue ((digits.drop 0).take 2) := by
    rw [year, List.drop_zero]
    omega
  rw [dateCode, shortYear, month, day, piece 0 (by omega), piece 2 (by omega), piece 4 (by omega),
    List.drop_zero]
  have front : digits.take 2 ++ (digits.drop 2).take 2 = digits.take 4 := by
    rw [← List.take_add]
  have back : (digits.drop 4).take 2 = digits.drop 4 :=
    List.take_of_length_le (by rw [List.length_drop]; omega)
  rw [front, back, List.take_append_drop]

theorem length_upperChars_argument (side : OptionType) :
    (upperChars side.argument).length = 1 ∧ 1 < (upperChars side.text).length := by
  cases side <;> simp [OptionType.argument, OptionType.letter, OptionType.text, upperChars,
    Unicode.upper_ascii]

/-- The word of the option type is longer than its letter. -/
theorem ReencodesAs.not_text {text : String} {occ : List Char}
    (again : ReencodesAs OptionType.argument text occ) : ¬ReencodesAs OptionType.text text occ := by
  intro word
  have today : Date := ⟨2025, 1, 17, by decide⟩
  obtain ⟨resolved, read, result, option, written⟩ := again today
  obtain ⟨_, _, other, same, spelled⟩ := word today
  obtain rfl := Except.ok.inj (result.symm.trans other)
  obtain rfl := ResolvedKind.option.inj (option.symm.trans same)
  unfold toOccOf at written spelled
  dsimp only at written spelled
  split_ifs at written spelled
  have lengths := congrArg List.length ((Except.ok.inj written).trans (Except.ok.inj spelled).symm)
  obtain ⟨one, more⟩ := length_upperChars_argument read.optionType
  simp only [List.length_append] at lengths
  omega

/-- The codec inverts itself in both directions, where an option type is given to `to_occ` by its
letter and returned by `resolve` as the word: components come back with the root in capitals, and a
contract text comes back without a final line break.  Given the word, `to_occ` does not write the
contract text. -/
theorem occ_codec_round_trips :
    (∀ (root : List Char) (date : Date) (strike : Decimal) (side : OptionType) (n : Nat),
      (∀ c ∈ root, isUpper c = true ∨ isLower c = true) → 1 ≤ root.length →
        root.length ≤ 6 →
      2000 ≤ date.year → date.year ≤ 2099 → n < 10 ^ 8 → strike.value * 1000 = n →
      ReadsBackAs root date strike side.argument ⟨root.map Char.toUpper, date, strike, side⟩) ∧
    ∀ (text : String) (root dateDigits strikeDigits : List Char) (side : OptionType),
      (∀ c ∈ text.toList, c.toNat < 128) →
      occPattern text.toList = some (root, dateDigits, side, strikeDigits) →
      isDate (2000 + decimalValue (dateDigits.take 2)) (decimalValue ((dateDigits.drop 2).take 2))
        (decimalValue ((dateDigits.drop 4).take 2)) = true →
      ∃ occ, (text.toList = occ ∨ text.toList = occ ++ ['\n']) ∧
        ReencodesAs OptionType.argument text occ ∧ ¬ReencodesAs OptionType.text text occ := by
  refine ⟨?_, ?_⟩
  · intro root date strike side n letters nonempty short low high small value
    have upper : ∀ c ∈ root.map Char.toUpper, isUpper c = true := by
      intro c mem
      obtain ⟨d, from_, rfl⟩ := List.mem_map.mp mem
      exact (isUpper_toUpper (letters d from_)).1
    obtain ⟨occ, read, written, same, back⟩ :=
      @read_of_fits _ ⟨root.map Char.toUpper, date, strike, side⟩ upper
        (by simpa using nonempty) (by simpa using short) ⟨⟨low, high⟩, n, small, value⟩
    exact ⟨occ, read, (toOcc_upper letters).trans written, same, back⟩
  · intro text root dateDigits strikeDigits side ascii matched valid
    obtain ⟨⟨upper, nonempty, short⟩, ⟨dateDecimal, dateLength⟩,
      ⟨strikeDecimal, strikeLength⟩, rest, eq, ended⟩ := occPattern_eq_some matched
    have capitals : ∀ c ∈ root, isCapital c = true :=
      fun c mem => isCapital_of_isUpper (upper c mem)
    have made := Date.make_of_isDate valid
    have dateText := dateCode_of_digits (fun c mem => isDigit_of_isDecimal
      (ascii c (by rw [eq]; simp [mem])) (dateDecimal c mem)) dateLength made
    have strikeText := zeroPadded_decimalValue (fun c mem => isDigit_of_isDecimal
      (ascii c (by rw [eq]; simp [mem])) (strikeDecimal c mem))
      (List.ne_nil_of_length_pos (by omega) : strikeDigits ≠ [])
    rw [strikeLength] at strikeText
    have small : decimalValue strikeDigits < 10 ^ 8 := strikeLength ▸ decimalValue_lt strikeDigits
    obtain ⟨body, whole⟩ : ∃ body, root ++ (dateDigits ++ side.letter :: strikeDigits) = body :=
      ⟨_, rfl⟩
    have stripped : stripChars text.toList = stripChars (String.ofList body).toList := by
      rw [eq, whole, String.toList_ofList]
      simp only [atEnd, Bool.or_eq_true, beq_iff_eq] at ended
      rcases ended with rfl | rfl
      · rw [List.append_nil]
      · exact stripChars_concat_space (by decide)
    have again : ReencodesAs OptionType.argument text body := by
      intro today
      have read :=
        resolve_occParts ⟨_, _, _, valid⟩ side (decimalValue strikeDigits) capitals nonempty
        short today (by rw [dateText, strikeText, whole])
      refine ⟨_, _, (resolve_of_strip today stripped).trans (read.1 ⟨upper, small⟩), rfl, ?_⟩
      change toOcc _ = _
      rw [toOcc_of_strike (Decimal.toInt_mulThousand_divThousand small) small capitals
        nonempty short, dateCode_readDate, dateText, strikeText, whole]
    refine ⟨body, ?_, again, again.not_text⟩
    rw [eq, whole]
    simp only [atEnd, Bool.or_eq_true, beq_iff_eq] at ended
    rcases ended with rfl | rfl
    · exact .inl (List.append_nil _)
    · exact .inr rfl

omit [Unicode] in
/-- A root in lower case comes back in capitals, the break at the end of a text is not written
again, and neither is the word of the option type as a letter. -/
theorem case_and_line_break_are_lost :
    let _ := asciiUnicode
    let expiration : Date := ⟨2025, 1, 17, by decide⟩
    ¬ReadsBackAs ['a'] expiration ⟨200, 0⟩ ['C'] ⟨['a'], expiration, ⟨200, 0⟩, .call⟩ ∧
      (occPattern "A250117C00200000\n".toList).isSome = true ∧
      ¬ReencodesAs OptionType.argument "A250117C00200000\n" "A250117C00200000\n".toList ∧
      (occPattern "A250117C00200000".toList).isSome = true ∧
      ¬ReencodesAs OptionType.text "A250117C00200000" "A250117C00200000".toList ∧
      toOccOf ['A'] expiration ⟨200, 0⟩ OptionType.call.text =
        .ok "A250117CALL00200000".toList := by
  intro _ expiration
  have word : toOccOf ['A'] expiration ⟨200, 0⟩ OptionType.call.text =
      .ok "A250117CALL00200000".toList := by decide +kernel
  have parts : resolve expiration "A250117C00200000" =
      .ok ⟨.option ⟨['A'], expiration, ⟨200, 0⟩, .call⟩, "A250117C00200000".toList,
        some "A250117C00200000".toList⟩ := by decide +kernel
  refine ⟨?_, by decide +kernel, ?_, by decide +kernel, ?_, word⟩
  · rintro ⟨occ, read, written, same, back⟩
    have text : toOccOf ['a'] expiration ⟨200, 0⟩ ['C'] = .ok "A250117C00200000".toList := by
      decide +kernel
    obtain rfl := Except.ok.inj (text.symm.trans written)
    have again := back expiration
    rw [String.ofList_toList] at again
    have result := Except.ok.inj (parts.symm.trans again)
    obtain rfl := ResolvedKind.option.inj (congrArg ResolvedSymbol.kind result)
    exact absurd same.1 (by decide)
  · intro again
    obtain ⟨resolved, read, result, option, written⟩ := again expiration
    have parts : resolve expiration "A250117C00200000\n" =
        .ok ⟨.option ⟨['A'], expiration, ⟨200, 0⟩, .call⟩, "A250117C00200000".toList,
          some "A250117C00200000".toList⟩ := by decide +kernel
    obtain rfl := Except.ok.inj (parts.symm.trans result)
    obtain rfl := ResolvedKind.option.inj option
    have text : toOccOf ['A'] expiration ⟨200, 0⟩ ['C'] = .ok "A250117C00200000".toList := by
      decide +kernel
    exact absurd (Except.ok.inj (text.symm.trans written)) (by decide +kernel)
  · intro again
    obtain ⟨resolved, read, result, option, written⟩ := again expiration
    obtain rfl := Except.ok.inj (parts.symm.trans result)
    obtain rfl := ResolvedKind.option.inj option
    exact absurd (Except.ok.inj (word.symm.trans written)) (by decide +kernel)

omit [Unicode] in
/-- A lower-case root is written in capitals, and its text is written again as it is. -/
theorem lower_root_round_trips :
    let _ := asciiUnicode
    let expiration : Date := ⟨2025, 1, 17, by decide⟩
    ReadsBackAs ['a'] expiration ⟨200, 0⟩ ['C'] ⟨['A'], expiration, ⟨200, 0⟩, .call⟩ ∧
      ∃ occ, ("A250117C00200000".toList = occ ∨ "A250117C00200000".toList = occ ++ ['\n']) ∧
        ReencodesAs OptionType.argument "A250117C00200000" occ ∧
        ¬ReencodesAs OptionType.text "A250117C00200000" occ := by
  intro _ expiration
  have letter : ∀ c ∈ ['a'], isUpper c = true ∨ isLower c = true :=
    List.forall_mem_singleton.mpr (.inr (by decide))
  have ascii : ("A250117C00200000".toList.all fun c => decide (c.toNat < 128)) = true := by
    decide +kernel
  refine ⟨occ_codec_round_trips.1 ['a'] expiration ⟨200, 0⟩ .call 200000 letter (by decide)
    (by decide) (by decide) (by decide) (by decide) (by norm_num [Decimal.value]), ?_⟩
  exact occ_codec_round_trips.2 "A250117C00200000" ['A'] "250117".toList "00200000".toList .call
    (fun c mem => of_decide_eq_true (List.all_eq_true.mp ascii c mem)) (by decide +kernel)
    (by decide +kernel)

/-! ## Broker spellings -/

/-- On any day the spelling is its own broker spelling and is read as the same contract. -/
def KeepsContract (terms : OptionTerms) (canonical : String) : Prop :=
  ∀ later, canonicalBrokerSymbol later canonical = .ok canonical ∧
    ∃ (resolved : ResolvedSymbol) (read : OptionTerms), resolve later canonical = .ok resolved ∧
      resolved.kind = .option read ∧ read.SameContract terms

/-- The broker spelling of an option is its contract text. -/
theorem canonical_eq {today : Date} {symbol canonical : String} {resolved : ResolvedSymbol}
    {terms : OptionTerms} (result : resolve today symbol = .ok resolved)
    (option : resolved.kind = .option terms)
    (accepted : canonicalBrokerSymbol today symbol = .ok canonical) :
    terms.Rooted ∧ ∃ occ, toOcc terms = .ok occ ∧ canonical = String.ofList occ ∧
      upperChars occ = occ := by
  obtain ⟨rooted, occ, written, spelled⟩ := resolve_option result option
  have plain := (isOccText_of_toOcc rooted.1 rooted.2.1 rooted.2.2 written).plain
  have upper := upperChars_of_plain plain
  simp only [canonicalBrokerSymbol, result, option, spelled, Option.getD_some, upper,
    Except.ok.injEq] at accepted
  exact ⟨rooted, occ, written, accepted.symm, upper⟩

/-- The broker spelling keeps the contract that was read exactly when the contract fits into a
contract text, and contracts that fit share their spelling with no other. -/
theorem canonical_keeps_contract_iff {today : Date} {symbol canonical : String}
    {resolved : ResolvedSymbol} {terms : OptionTerms} (result : resolve today symbol = .ok resolved)
    (option : resolved.kind = .option terms)
    (accepted : canonicalBrokerSymbol today symbol = .ok canonical) :
    (KeepsContract terms canonical ↔ terms.Encodable) ∧
      (terms.Encodable → ∀ (day : Date) (other : String) (otherResolved : ResolvedSymbol)
        (otherTerms : OptionTerms), resolve day other = .ok otherResolved →
        otherResolved.kind = .option otherTerms → canonicalBrokerSymbol day other = .ok canonical →
        otherTerms.Encodable → otherTerms.SameContract terms) := by
  obtain ⟨rooted, occ, written, rfl, upper⟩ := canonical_eq result option accepted
  have keeps {contract : OptionTerms} (from_ : toOcc contract = .ok occ) (rooted : contract.Rooted)
      (fits : contract.Encodable) : ∃ read : OptionTerms, read.SameContract contract ∧
      ∀ today, resolve today (String.ofList occ) = .ok ⟨.option read, occ, some occ⟩ := by
    obtain ⟨text, read, again, same, back⟩ := read_of_fits fits.1 rooted.2.1 rooted.2.2 fits.2
    obtain rfl := Except.ok.inj (from_.symm.trans again)
    exact ⟨read, same, back⟩
  refine ⟨⟨fun kept => ?_, fun fits => ?_⟩, fun fits day other otherResolved otherTerms otherResult
    otherOption otherAccepted otherFits => ?_⟩
  · obtain ⟨-, again, read, reads, isOption, same⟩ := kept today
    exact fits_of_read rooted written reads isOption same
  · obtain ⟨read, same, back⟩ := keeps written rooted fits
    refine fun later => ⟨?_, _, read, back later, rfl, same⟩
    simp only [canonicalBrokerSymbol, back later, Option.getD_some, upper]
  · obtain ⟨otherRooted, text, otherWritten, eq, -⟩ :=
      canonical_eq otherResult otherOption otherAccepted
    obtain rfl : occ = text := by simpa using congrArg String.toList eq
    obtain ⟨read, same, back⟩ := keeps written rooted fits
    obtain ⟨otherRead, otherSame, otherBack⟩ := keeps otherWritten otherRooted otherFits
    have both := Except.ok.inj ((back today).symm.trans (otherBack today))
    obtain rfl := ResolvedKind.option.inj (congrArg ResolvedSymbol.kind both)
    exact otherSame.symm.trans same

omit [Unicode] in
/-- A year outside this century changes the century, and the contract shares its spelling with
another one. -/
theorem canonical_changes_the_century :
    let _ := asciiUnicode
    let today : Date := ⟨2025, 1, 10, by decide⟩
    let terms (year : Nat) (valid : isDate year 1 17 = true) : OptionTerms :=
      ⟨"AAPL".toList, ⟨year, 1, 17, valid⟩, ⟨200, 0⟩, .call⟩
    let late := terms 2125 (by decide)
    let near := terms 2025 (by decide)
    (∃ resolved, resolve today "AAPL 2125-01-17 $200 C" = .ok resolved ∧
      resolved.kind = .option late) ∧
    canonicalBrokerSymbol today "AAPL 2125-01-17 $200 C" = .ok "AAPL250117C00200000" ∧
    canonicalBrokerSymbol today "AAPL 2025-01-17 $200 C" = .ok "AAPL250117C00200000" ∧
    ¬late.SameContract near ∧ ¬KeepsContract late "AAPL250117C00200000" := by
  intro _ today terms late near
  have apart : ¬late.SameContract near := fun same => absurd same.2.1 (by decide)
  refine ⟨⟨⟨.option late, "AAPL250117C00200000".toList, some "AAPL250117C00200000".toList⟩,
    by decide +kernel, rfl⟩, by decide +kernel, by decide +kernel, apart, fun kept => ?_⟩
  obtain ⟨-, resolved, read, result, option, same⟩ := kept today
  have parts :
      resolve today "AAPL250117C00200000" = .ok ⟨.option near, "AAPL250117C00200000".toList,
      some "AAPL250117C00200000".toList⟩ := by decide +kernel
  obtain rfl := Except.ok.inj (parts.symm.trans result)
  obtain rfl := ResolvedKind.option.inj option
  exact apart same.symm

omit [Unicode] in
/-- The spelling of a contract of this century names it. -/
theorem canonical_keeps_a_contract :
    let _ := asciiUnicode
    KeepsContract ⟨"AAPL".toList, ⟨2025, 1, 17, by decide⟩, ⟨200, 0⟩, .call⟩
      "AAPL250117C00200000" := by
  intro _
  have resolved : resolve ⟨2025, 1, 10, by decide⟩ "AAPL 2025-01-17 $200 C" = .ok
      ⟨.option ⟨"AAPL".toList, ⟨2025, 1, 17, by decide⟩, ⟨200, 0⟩, .call⟩,
        "AAPL250117C00200000".toList, some "AAPL250117C00200000".toList⟩ := by decide +kernel
  have letters : "AAPL".toList.all isUpper = true := by decide +kernel
  exact (canonical_keeps_contract_iff resolved rfl (by decide +kernel)).1.mpr
    ⟨List.all_eq_true.mp letters, ⟨by decide, by decide⟩, 200000,
      by decide, by norm_num [Decimal.value]⟩

end Symbology
end DataGateway
