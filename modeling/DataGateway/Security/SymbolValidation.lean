import DataGateway.Streaming.InputValidation

/-!
# Validation of symbols by type

`InputValidator.validate_symbol` and `validate_symbols_array`, with everything their errors carry.
A symbol is matched in upper case, and the text that was sent is what callers use afterwards.
-/

namespace DataGateway
namespace Security

open Text Symbology

/-- `InputValidationError.value`. -/
inductive ErrorValue
  /-- The symbol that was refused. -/
  | symbol (symbol : String)
  /-- The number of symbols. -/
  | count (count : Nat)
  deriving DecidableEq, Repr

/-- `InputValidationError`. -/
structure InputValidationError where
  code : String
  message : String
  field : Option String := none
  value : Option ErrorValue := none
  expectedPattern : Option String := none
  deriving DecidableEq, Repr

/-- A compiled pattern. -/
structure SymbolPattern where
  /-- `pattern.pattern`. -/
  pattern : String
  /-- Whether `pattern.match` finds a match. -/
  accepts : List Char → Bool

section Patterns

variable [Unicode]

/-- `STOCK_SYMBOL_PATTERN`. -/
def stockSymbolPattern : SymbolPattern :=
  ⟨"^[A-Z]\x7b1,6\x7d(?:[.\\-][A-Z]\x7b1,2\x7d)?$", stockPattern⟩

/-- `SYMBOL_PATTERNS`. -/
def symbolPatterns : List (String × SymbolPattern) :=
  [("stock", stockSymbolPattern),
    ("option_occ", ⟨"^[A-Z]\x7b1,6\x7d\\d\x7b6\x7d[CP]\\d\x7b8\x7d$", Streaming.optionOccPattern⟩),
    ("crypto",
      ⟨"^[A-Z]\x7b2,5\x7d/[A-Z]\x7b3,4\x7d$", fun chars => (pairPattern 2 5 3 4 chars).isSome⟩),
    ("forex", ⟨"^[A-Z]\x7b3\x7d/[A-Z]\x7b3\x7d$", fun chars => (pairPattern 3 3 3 3 chars).isSome⟩)]

/-- The pattern of a type, under the name that messages use; an unknown type is a stock. -/
def patternOf (symbolType : String) : String × SymbolPattern :=
  match symbolPatterns.lookup symbolType with
  | none => ("stock", stockSymbolPattern)
  | some pattern => (symbolType, pattern)

/-- `_matches_any_symbol_pattern`. -/
def matchesAnySymbolPattern (symbol : String) : Bool :=
  symbol == "*" || symbolPatterns.any fun entry => entry.2.accepts symbol.toList

/-- The error for a symbol with forbidden characters. -/
def forbiddenCharacters (symbol : String) : InputValidationError :=
  { code := "GW-E8006"
    message := "Forbidden characters detected in symbol"
    field := some "symbol"
    value := some (.symbol symbol) }

/-- `validate_symbol`. -/
def validateSymbol (symbol symbolType : String) : Option InputValidationError :=
  if symbol = "" then
    some { code := "GW-E8007", message := "Symbol is required", field := some "symbol" }
  else if Streaming.forbidden symbol.toList then some (forbiddenCharacters symbol)
  else
    let (symbolType, pattern) := patternOf symbolType
    if pattern.accepts (Streaming.upper symbol).toList then none
    else
      some
        { code := "GW-E8001"
          message := "Invalid " ++ symbolType ++ " symbol format"
          field := some "symbol"
          value := some (.symbol symbol)
          expectedPattern := some pattern.pattern }

/-- The body of the loop of `validate_symbols_array`, for a symbol in upper case. -/
def validateNormalized (symbolType : Option String) (normalized : String) :
    Option InputValidationError :=
  if Streaming.forbidden normalized.toList then some (forbiddenCharacters normalized)
  else
    match symbolType with
    | some symbolType => validateSymbol normalized symbolType
    | none =>
        if matchesAnySymbolPattern normalized then none
        else
          some
            { code := "GW-E8001"
              message := "Symbol does not match any known format (stock, crypto, option, forex)"
              field := some "symbol"
              value := some (.symbol normalized) }

/-- The loop of `validate_symbols_array`: a symbol that was seen before is not checked again. -/
def validateEach (symbolType : Option String) (seenSymbols : List String) :
    List String → Option InputValidationError
  | [] => none
  | symbol :: rest =>
      let normalized := Streaming.upper symbol
      if normalized ∈ seenSymbols then validateEach symbolType seenSymbols rest
      else
        match validateNormalized symbolType normalized with
        | some error => some error
        | none => validateEach symbolType (normalized :: seenSymbols) rest

/-- `max_symbols or PARAM_LIMITS["symbols_array_max"]`. -/
def maxAllowed (maxSymbols : Option Int) : Int :=
  match maxSymbols with
  | none => Streaming.symbolsArrayMax
  | some most => if most = 0 then Streaming.symbolsArrayMax else most

/-- `validate_symbols_array`; a type that is not given, or empty, is no type. -/
def validateSymbolsArray (symbols : List String) (maxSymbols : Option Int)
    (symbolType : Option String) : Option InputValidationError :=
  if symbols = [] then
    some
      { code := "GW-E8007"
        message := "At least one symbol is required"
        field := some "symbols" }
  else if maxAllowed maxSymbols < symbols.length then
    some
      { code := "GW-E8002"
        message := "Maximum " ++ toString (maxAllowed maxSymbols) ++ " symbols allowed"
        field := some "symbols"
        value := some (.count symbols.length) }
  else validateEach (symbolType.filter fun type => type ≠ "") [] symbols

/-! ## Facts about acceptance -/

theorem validateSymbol_eq_none {symbol symbolType : String} :
    validateSymbol symbol symbolType = none ↔
      symbol ≠ "" ∧ Streaming.forbidden symbol.toList = false ∧
        (patternOf symbolType).2.accepts (Streaming.upper symbol).toList = true := by
  rw [validateSymbol]
  split
  next empty => simp [empty]
  next filled =>
    split
    next bad => simp [bad]
    next clean =>
      dsimp only
      split
      next fits => simp [filled, clean, fits]
      next misfits => simp [misfits]

/-- An array is accepted exactly when each of its symbols is, whatever is seen twice. -/
theorem validateEach_eq_none {symbolType : Option String} {seen symbols : List String}
    (checked : ∀ normalized ∈ seen, validateNormalized symbolType normalized = none) :
    validateEach symbolType seen symbols = none ↔
      ∀ symbol ∈ symbols, validateNormalized symbolType (Streaming.upper symbol) = none := by
  induction symbols generalizing seen with
  | nil => simp [validateEach]
  | cons symbol rest ih =>
      rw [List.forall_mem_cons, validateEach]
      split
      next old =>
        rw [ih checked]
        exact (and_iff_right (checked _ old)).symm
      next new =>
        cases valid : validateNormalized symbolType (Streaming.upper symbol) with
        | some error => simp
        | none =>
            rw [ih]
            · exact (and_iff_right rfl).symm
            · rw [List.forall_mem_cons]
              exact ⟨valid, checked⟩

theorem validateSymbolsArray_eq_none {symbols : List String} {maxSymbols : Option Int}
    {symbolType : Option String} :
    validateSymbolsArray symbols maxSymbols symbolType = none ↔
      symbols ≠ [] ∧ symbols.length ≤ maxAllowed maxSymbols ∧
        ∀ symbol ∈ symbols, validateNormalized (symbolType.filter fun type => type ≠ "")
          (Streaming.upper symbol) = none := by
  rw [validateSymbolsArray]
  split
  next none => simp [none]
  next some =>
    split
    next long => simp [Int.not_le.mpr long]
    next fits =>
      rw [validateEach_eq_none (by simp)]
      simp [some, Int.not_lt.mp fits]

/-! ## Validation without a type -/

theorem matchesAnySymbolPattern_eq (symbol : String) :
    matchesAnySymbolPattern symbol = Streaming.matchesAnySymbolPattern symbol.toList := by
  have star : (symbol == "*") = (symbol.toList == ['*']) := by
    rw [Bool.eq_iff_iff, beq_iff_eq, beq_iff_eq, ← String.toList_inj]
    rfl
  simp [matchesAnySymbolPattern, Streaming.matchesAnySymbolPattern, symbolPatterns,
    stockSymbolPattern, star, Bool.or_assoc]

/-- What a connection sends of an error. -/
def InputValidationError.sent (error : InputValidationError) : Streaming.InputValidationError :=
  ⟨error.code, error.message⟩

theorem validateEach_sent (seen symbols : List String) :
    Streaming.validateSymbols seen symbols =
      (validateEach none seen symbols).map InputValidationError.sent := by
  induction symbols generalizing seen with
  | nil => rfl
  | cons symbol rest ih =>
      rw [Streaming.validateSymbols, validateEach, validateNormalized, matchesAnySymbolPattern_eq]
      split
      next old => exact ih seen
      next new =>
        split
        next bad => rfl
        next clean =>
          split
          next fits => exact ih _
          next misfits => rfl

/-- The validation of a subscription is the one without a type. -/
theorem validateSymbolsArray_sent (symbols : List String) (maxSymbols : Nat) :
    Streaming.validateSymbolsArray symbols maxSymbols =
      (validateSymbolsArray symbols (some maxSymbols) none).map InputValidationError.sent := by
  have most : maxAllowed (some (maxSymbols : Int)) =
      ((if maxSymbols = 0 then Streaming.symbolsArrayMax else maxSymbols : Nat) : Int) := by
    rw [maxAllowed]
    by_cases zero : maxSymbols = 0 <;> simp [zero]
  rw [Streaming.validateSymbolsArray, validateSymbolsArray, most]
  generalize (if maxSymbols = 0 then Streaming.symbolsArrayMax else maxSymbols) = most
  split
  next none => rfl
  next some =>
    simp only [Int.ofNat_lt]
    split
    next long => rfl
    next fits => exact validateEach_sent [] symbols

end Patterns

end Security
end DataGateway
