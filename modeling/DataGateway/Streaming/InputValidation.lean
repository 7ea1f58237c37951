import DataGateway.Symbology.Resolver

/-!
# Validation of symbols

Symbols are checked in upper case.  What is registered later is the symbol as it was sent.
-/

namespace DataGateway
namespace Streaming

open Text Symbology

variable [Unicode]

/-- `str.upper`. -/
def upper (text : String) : String := String.ofList (upperChars text.toList)

/-- `SYMBOL_PATTERNS["option_occ"]`: a root, a date, a side and a strike. -/
def optionOccPattern (chars : List Char) : Bool :=
  match run isUpper 1 6 chars with
  | none => false
  | some (_, rest) =>
      match run isDecimal 6 6 rest with
      | none => false
      | some (_, rest) =>
          match contractSide rest with
          | none => false
          | some (_, rest) =>
              match run isDecimal 8 8 rest with
              | none => false
              | some (_, rest) => atEnd rest

/-- A letter of a pattern, when case is ignored. -/
def foldsTo (letter c : Char) : Bool :=
  c.toLower == letter || (letter == 's' && c == 'ſ') ||
    (letter == 'i' && (c == 'ı' || c == 'İ'))

/-- `FORBIDDEN_PATTERN.match`. -/
def forbiddenAt (chars : List Char) : Bool :=
  (chars.head?.any fun c => ['<', '>', '\x22', '\x27', ';', '\x00'].contains c) ||
    ['-', '-'].isPrefixOf chars || ['*', '/'].isPrefixOf chars || ['/', '*'].isPrefixOf chars ||
    ((chars.take 6).length == 6 && (['s', 'c', 'r', 'i', 'p', 't'].zip chars).all fun pair =>
      foldsTo pair.1 pair.2)

/-- `FORBIDDEN_PATTERN.search`. -/
def forbidden (chars : List Char) : Bool := chars.tails.any forbiddenAt

/-- `_matches_any_symbol_pattern`. -/
def matchesAnySymbolPattern (chars : List Char) : Bool :=
  chars == ['*'] || stockPattern chars || optionOccPattern chars ||
    (pairPattern 2 5 3 4 chars).isSome || (pairPattern 3 3 3 3 chars).isSome

/-- `InputValidationError`, with the fields that are sent on. -/
structure InputValidationError where
  code : String
  message : String
  deriving DecidableEq, Repr

/-- `PARAM_LIMITS["symbols_array_max"]`. -/
def symbolsArrayMax : Nat := 500

/-- The loop of `validate_symbols_array`: a symbol that was seen before is not checked again. -/
def validateSymbols (seen : List String) : List String → Option InputValidationError
  | [] => none
  | symbol :: rest =>
      let normalized := upper symbol
      if normalized ∈ seen then validateSymbols seen rest
      else if forbidden normalized.toList then
        some ⟨"GW-E8006", "Forbidden characters detected in symbol"⟩
      else if matchesAnySymbolPattern normalized.toList then
        validateSymbols (normalized :: seen) rest
      else some ⟨"GW-E8001",
        "Symbol does not match any known format (stock, crypto, option, forex)"⟩

/-- `validate_symbols_array`, without a symbol type. -/
def validateSymbolsArray (symbols : List String) (maxSymbols : Nat) : Option InputValidationError :=
  let maxAllowed := if maxSymbols = 0 then symbolsArrayMax else maxSymbols
  if symbols = [] then some ⟨"GW-E8007", "At least one symbol is required"⟩
  else if maxAllowed < symbols.length then
    some ⟨"GW-E8002", "Maximum " ++ toString maxAllowed ++ " symbols allowed"⟩
  else validateSymbols [] symbols

/-- A symbol that passes the check. -/
def wellFormed (symbol : String) : Bool :=
  !forbidden (upper symbol).toList && matchesAnySymbolPattern (upper symbol).toList

theorem validateSymbols_eq_none {seen symbols : List String}
    (checked : ∀ symbol, upper symbol ∈ seen → wellFormed symbol = true) :
    validateSymbols seen symbols = none ↔ ∀ symbol ∈ symbols, wellFormed symbol = true := by
  induction symbols generalizing seen with
  | nil => simp [validateSymbols]
  | cons symbol rest ih =>
      rw [List.forall_mem_cons]
      unfold validateSymbols
      dsimp only
      split
      next old =>
        rw [ih checked]
        exact (and_iff_right (checked symbol old)).symm
      next new =>
        split
        next bad => simp [wellFormed, bad]
        next clean =>
          split
          next fits =>
            have fine : wellFormed symbol = true := by simp [wellFormed, clean, fits]
            rw [ih, and_iff_right fine]
            intro other mem
            rcases List.mem_cons.mp mem with same | mem
            · rwa [wellFormed, same, ← wellFormed]
            · exact checked other mem
          next misfits => simp [wellFormed, misfits]

/-- An array passes when it is not empty, is not too long and has well-formed symbols only. -/
theorem validateSymbolsArray_eq_none {symbols : List String} {maxSymbols : Nat} :
    validateSymbolsArray symbols maxSymbols = none ↔
      symbols ≠ [] ∧
      symbols.length ≤ (if maxSymbols = 0 then symbolsArrayMax else maxSymbols) ∧
      ∀ symbol ∈ symbols, wellFormed symbol = true := by
  unfold validateSymbolsArray
  dsimp only
  generalize (if maxSymbols = 0 then symbolsArrayMax else maxSymbols) = maxAllowed
  split
  next none => simp [none]
  next some =>
    split
    next long => simp [some, Nat.not_le.mpr long]
    next fits =>
      rw [validateSymbols_eq_none (by simp)]
      simp [some, Nat.not_lt.mp fits]

end Streaming
end DataGateway
