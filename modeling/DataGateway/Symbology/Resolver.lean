import DataGateway.Python.Number

/-!
# Symbol resolution

`SymbolResolver.resolve` tries the stock, contract, forex, crypto and human-readable patterns in
turn.  In every pattern neighbouring pieces match disjoint classes of characters, so a greedy run of
a class is the only way the expression can match.  The result keeps what later functions read: the
kind of instrument, its parts and the broker's spelling.
-/

namespace DataGateway
namespace Symbology

open Text

/-! ## Pieces of the patterns -/

/-- A greedy run of a class, between two lengths, and what follows it. -/
def run (test : Char → Bool) (least most : Nat) (chars : List Char) :
    Option (List Char × List Char) :=
  let body := chars.takeWhile test
  if least ≤ body.length ∧ body.length ≤ most then some (body, chars.drop body.length) else none

/-- `\s+`. -/
def spaces (chars : List Char) : Option (List Char) :=
  if chars.takeWhile isSpace = [] then none else some (chars.dropWhile isSpace)

/-- One given character. -/
def expect (c : Char) : List Char → Option (List Char)
  | [] => none
  | d :: rest => if d = c then some rest else none

/-- `\$?`. -/
def optionalDollar : List Char → List Char
  | '$' :: rest => rest
  | chars => chars

/-- `STOCK_SYMBOL_PATTERN`: one to six capitals and an optional class suffix. -/
def stockPattern (chars : List Char) : Bool :=
  match run isUpper 1 6 chars with
  | none => false
  | some (_, rest) =>
      atEnd rest ||
        match rest with
        | [] => false
        | separator :: suffix =>
            (separator == '.' || separator == '-') &&
              match run isUpper 1 2 suffix with
              | none => false
              | some (_, rest) => atEnd rest

/-- `FOREX_PATTERN` and `CRYPTO_PATTERN`: two runs of capitals around a slash. -/
def pairPattern (leastBase mostBase leastQuote mostQuote : Nat) (chars : List Char) :
    Option (List Char × List Char) := do
  let (base, rest) ← run isUpper leastBase mostBase chars
  let rest ← expect '/' rest
  let (quote, rest) ← run isUpper leastQuote mostQuote rest
  if atEnd rest then some (base, quote) else none

/-- The known forex currency codes. -/
def forexCurrencies : List String :=
  ["USD", "EUR", "GBP", "JPY", "CHF", "CAD", "AUD", "NZD", "CNY", "HKD", "SGD", "SEK", "NOK", "DKK",
    "MXN", "ZAR", "TRY", "RUB", "INR", "BRL", "KRW", "TWD", "THB", "PLN"]

/-- Month abbreviations in calendar order. -/
def monthNames : List String :=
  ["JAN", "FEB", "MAR", "APR", "MAY", "JUN", "JUL", "AUG", "SEP", "OCT", "NOV", "DEC"]

/-- `MONTH_MAP.get(month_str, 1)`, read in capitals. -/
def monthNumber (name : List Char) : Nat :=
  let position := monthNames.findIdx fun month => month.toList == name
  if position < 12 then position + 1 else 1

/-- Which side of an option a contract is. -/
inductive OptionType
  /-- The right to buy. -/
  | call
  /-- The right to sell. -/
  | put
  deriving DecidableEq, Repr

/-- `opt_type`: the letter of `OCC_PATTERN`, which the parsers hand to `to_occ`. -/
def OptionType.letter : OptionType → Char
  | .call => 'C'
  | .put => 'P'

/-- `ResolvedSymbol.option_type`. -/
def OptionType.text : OptionType → List Char
  | .call => ['c', 'a', 'l', 'l']
  | .put => ['p', 'u', 't']

/-- `[CP]`. -/
def contractSide : List Char → Option (OptionType × List Char)
  | 'C' :: rest => some (.call, rest)
  | 'P' :: rest => some (.put, rest)
  | _ => none

/-- What a pattern for options captured. -/
structure OptionTerms where
  /-- The underlying, as captured. -/
  underlying : List Char
  /-- The expiration. -/
  expiration : Date
  /-- The strike price. -/
  strike : Decimal
  /-- Call or put. -/
  optionType : OptionType
  deriving DecidableEq

/-- A captured group whose conversion raised a `ValueError` or a `DecimalException`. -/
inductive Unparsable
  /-- The month, day or year does not name a date. -/
  | date
  /-- The strike is not a number. -/
  | strike
  /-- The strike has more digits than an integer may be printed with. -/
  | tooLong
  deriving DecidableEq, Repr

/-- `ResolvedSymbol.type`, with the parts that belong to the type. -/
inductive ResolvedKind
  /-- An equity ticker. -/
  | stock
  /-- A contract. -/
  | option (terms : OptionTerms)
  /-- A crypto pair. -/
  | crypto
  /-- A currency pair. -/
  | forex
  /-- No pattern matched. -/
  | unknown
  deriving DecidableEq

/-- `ResolvedSymbol`. -/
structure ResolvedSymbol where
  /-- The kind of instrument. -/
  kind : ResolvedKind
  /-- The normalized symbol. -/
  symbol : List Char
  /-- `provider_formats["alpaca"]`, when present. -/
  alpaca : Option (List Char)
  deriving DecidableEq

section Patterns

variable [Unicode]

/-- The last group of a human-readable pattern. -/
def optionTypeOf (letters : List Char) : Option OptionType :=
  let word := letters.map Char.toUpper
  if word = ['C'] ∨ word = "CALL".toList then some .call
  else if word = ['P'] ∨ word = "PUT".toList then some .put
  else none

/-- The groups of `OCC_PATTERN`: root, six date digits, side and eight strike digits. -/
def occPattern (chars : List Char) :
    Option (List Char × List Char × OptionType × List Char) := do
  let (root, rest) ← run isUpper 1 6 chars
  let (dateDigits, rest) ← run isDecimal 6 6 rest
  let (side, rest) ← contractSide rest
  let (strikeDigits, rest) ← run isDecimal 8 8 rest
  if atEnd rest then some (root, dateDigits, side, strikeDigits) else none

/-- The groups of `"AAPL 2025-01-17 $200 Call"`. -/
def humanDatePattern (chars : List Char) :
    Option (List Char × (List Char × List Char × List Char) × List Char × OptionType) := do
  let (root, rest) ← run isFoldedLetter 1 5 chars
  let rest ← spaces rest
  let (year, rest) ← run isDecimal 4 4 rest
  let rest ← expect '-' rest
  let (month, rest) ← run isDecimal 2 2 rest
  let rest ← expect '-' rest
  let (day, rest) ← run isDecimal 2 2 rest
  let rest ← spaces rest
  let rest := optionalDollar rest
  let strike := rest.takeWhile fun c => isDecimal c || c == '.'
  let rest ← spaces (rest.drop strike.length)
  let word := rest.takeWhile fun c => c != '\n'
  let side ← optionTypeOf word
  if strike ≠ [] ∧ atEnd (rest.drop word.length) then
    some (root, (year, month, day), strike, side)
  else none

/-- The groups of `"AAPL Jan17 200C"`. -/
def humanMonthPattern (chars : List Char) :
    Option (List Char × List Char × List Char × List Char × OptionType) := do
  let (root, rest) ← run isFoldedLetter 1 5 chars
  let rest ← spaces rest
  let (month, rest) ← run isFoldedLetter 3 3 rest
  let (day, rest) ← run isDecimal 2 2 rest
  let rest ← spaces rest
  let rest := optionalDollar rest
  let strike := rest.takeWhile fun c => isDecimal c || c == '.'
  let rest := (rest.drop strike.length).dropWhile isSpace
  let word := rest.take 1
  let side ← optionTypeOf word
  if strike ≠ [] ∧ atEnd (rest.drop 1) then some (root, month, day, strike, side) else none

/-! ## Contract symbols -/

/-- `strftime("%y%m%d")`. -/
def dateCode (date : Date) : List Char :=
  zeroPadded 2 (date.year % 100) ++ zeroPadded 2 date.month ++ zeroPadded 2 date.day

/-- The root of a contract symbol: `underlying.upper().ljust(6)[:6].strip()`. -/
def occRoot (underlying : List Char) : List Char :=
  let upper := upperChars underlying
  stripChars ((upper ++ List.replicate (6 - upper.length) ' ').take 6)

/-- Integers with more digits are not converted to text. -/
def maxIntDigits : Nat := 4300

/-- `to_occ`, which writes all of `opt_type`, in capitals. -/
def toOccOf (underlying : List Char) (expiry : Date) (strike : Decimal) (optType : List Char) :
    Except Unparsable (List Char) :=
  let strikeInt := strike.mulThousand.toInt
  if (Nat.toDigits 10 strikeInt).length > maxIntDigits then .error .tooLong
  else .ok (occRoot underlying ++ dateCode expiry ++ upperChars optType ++ zeroPadded 8 strikeInt)

/-- `to_occ` with the letter of the option type, as the parsers call it. -/
def toOcc (terms : OptionTerms) : Except Unparsable (List Char) :=
  toOccOf terms.underlying terms.expiration terms.strike [terms.optionType.letter]

theorem upperChars_letter (side : OptionType) : upperChars [side.letter] = [side.letter] := by
  cases side <;> simp [upperChars, OptionType.letter, Unicode.upper_ascii]

theorem toOcc_eq (terms : OptionTerms) :
    toOcc terms =
      if (Nat.toDigits 10 terms.strike.mulThousand.toInt).length > maxIntDigits then .error .tooLong
      else .ok (occRoot terms.underlying ++ dateCode terms.expiration ++
        [terms.optionType.letter] ++ zeroPadded 8 terms.strike.mulThousand.toInt) := by
  rw [toOcc, toOccOf, upperChars_letter]

/-- An option together with its broker spelling. -/
def resolvedOption (symbol : Option (List Char)) (terms : OptionTerms) :
    Except Unparsable ResolvedSymbol := do
  let occ ← toOcc terms
  .ok ⟨.option terms, symbol.getD occ, some occ⟩

/-! ## Resolution -/

/-- `_parse_occ_option`. -/
def parseOccOption (symbol root dateDigits : List Char) (side : OptionType)
    (strikeDigits : List Char) : Except Unparsable ResolvedSymbol :=
  match Date.make (2000 + decimalValue (dateDigits.take 2))
      (decimalValue ((dateDigits.drop 2).take 2)) (decimalValue ((dateDigits.drop 4).take 2)) with
  | none => .error .date
  | some expiration =>
      resolvedOption (some symbol)
        ⟨root, expiration, (Decimal.divThousand ⟨decimalValue strikeDigits, 0⟩), side⟩

/-- `date.fromisoformat` on the captured digits, which takes ASCII digits only. -/
def fromIsoFormat (year month day : List Char) : Option Date :=
  if (year ++ month ++ day).all isDigit then
    Date.make (decimalValue year) (decimalValue month) (decimalValue day)
  else none

/-- The next date with this month and day, from the current year on. -/
def upcoming (today : Date) (month day : Nat) : Option Date :=
  match Date.make today.year month day with
  | none => none
  | some expiration =>
      if expiration.before today then Date.make (today.year + 1) month day else some expiration

/-- `_parse_human_option`. -/
def parseHumanOption (today : Date) (symbol : List Char) : Except Unparsable ResolvedSymbol :=
  let text := stripChars symbol
  match humanDatePattern text with
  | some (root, (year, month, day), strike, side) =>
      match fromIsoFormat year month day with
      | none => .error .date
      | some expiration =>
          match Decimal.ofChars strike with
          | none => .error .strike
          | some strike => resolvedOption none ⟨upperChars root, expiration, strike, side⟩
  | none =>
      match humanMonthPattern text with
      | some (root, month, day, strike, side) =>
          match Decimal.ofChars strike with
          | none => .error .strike
          | some strike =>
              match upcoming today (monthNumber (month.map Char.toUpper)) (decimalValue day) with
              | none => .error .date
              | some expiration => resolvedOption none ⟨upperChars root, expiration, strike, side⟩
      | none => .ok ⟨.unknown, symbol, none⟩

/-- A pair and its broker spelling. -/
def resolvedPair (kind : ResolvedKind) (base quote : List Char) : ResolvedSymbol :=
  ⟨kind, base ++ '/' :: quote, some (base ++ '/' :: quote)⟩

/-- `SymbolResolver.resolve` on an empty cache. -/
def resolve (today : Date) (symbol : String) : Except Unparsable ResolvedSymbol :=
  let text := upperChars (stripChars symbol.toList)
  if stockPattern text then .ok ⟨.stock, text, some text⟩
  else
    match occPattern text with
    | some (root, dateDigits, side, strikeDigits) =>
        parseOccOption text root dateDigits side strikeDigits
    | none =>
        match (pairPattern 3 3 3 3 text).filter fun pair =>
            forexCurrencies.contains (String.ofList pair.1) with
        | some (base, quote) => .ok (resolvedPair .forex base quote)
        | none =>
            match pairPattern 2 5 3 4 text with
            | some (base, quote) => .ok (resolvedPair .crypto base quote)
            | none => parseHumanOption today text

/-! ## Broker symbols -/

/-- Why a symbol cannot be fenced. -/
inductive SymbolError
  /-- `UnrecognizedBrokerSymbol`: the record has no symbol. -/
  | missing
  /-- `UnrecognizedBrokerSymbol`: the parser raised. -/
  | unparsed (symbol : String)
  /-- `UnrecognizedBrokerSymbol`: no pattern matched. -/
  | unknown (symbol : String)
  /-- `UnsupportedAssetClass`. -/
  | unsupported (type : String)
  deriving DecidableEq, Repr

/-- `str(exc)`, for symbols whose text needs no escapes. -/
def SymbolError.text : SymbolError → String
  | .missing => "broker record carries no symbol field"
  | .unparsed symbol => s!"broker symbol could not be parsed: '{symbol}'"
  | .unknown symbol => s!"broker symbol matched no known instrument format: '{symbol}'"
  | .unsupported type =>
      "Shared-account ownership supports equities and full OCC option contracts only, not " ++ type

/-- `canonical_broker_symbol`. -/
def canonicalBrokerSymbol (today : Date) (symbol : String) : Except SymbolError String :=
  match resolve today symbol with
  | .error _ => .error (.unparsed symbol)
  | .ok resolved =>
      match resolved.kind with
      | .crypto => .error (.unsupported "crypto")
      | .forex => .error (.unsupported "forex")
      | .unknown => .error (.unknown symbol)
      | .stock | .option _ =>
          .ok (String.ofList (upperChars (resolved.alpaca.getD resolved.symbol)))

end Patterns

end Symbology
end DataGateway
