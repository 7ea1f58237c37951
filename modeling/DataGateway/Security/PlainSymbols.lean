import DataGateway.Security.SymbolValidation
import DataGateway.Symbology.Canonical

/-!
# Which accepted symbols are plain

A plain symbol is made of ASCII letters, digits and separators in one of the known shapes.
Validation looks at the symbol in upper case, with a `$` that allows a final line break and a `\d`
that allows the digits of every script, so that an accepted symbol is plain exactly when it is ASCII
and does not end with a line break.
-/

namespace DataGateway
namespace Security

open Text Symbology

/-! ## Plain symbols -/

/-- An ASCII letter. -/
def isLetter (c : Char) : Bool := isUpper c || isLower c

/-- So many characters of one class. -/
structure Chars (test : Char → Bool) (least most : Nat) (chars : List Char) : Prop where
  inside : ∀ c ∈ chars, test c = true
  least : least ≤ chars.length
  most : chars.length ≤ most

/-- The shapes of the known patterns, for ASCII letters of either case. -/
inductive PlainSymbol : List Char → Prop
  | wildcard : PlainSymbol ['*']
  | ticker {root : List Char} (letters : Chars isLetter 1 6 root) : PlainSymbol root
  | share {root suffix : List Char} {separator : Char} (letters : Chars isLetter 1 6 root)
      (separates : separator = '.' ∨ separator = '-') (shareClass : Chars isLetter 1 2 suffix) :
      PlainSymbol (root ++ separator :: suffix)
  | contract {root date strike : List Char} {side : Char} (letters : Chars isLetter 1 6 root)
      (dated : Chars isDigit 6 6 date) (sided : side.toUpper = 'C' ∨ side.toUpper = 'P')
      (priced : Chars isDigit 8 8 strike) : PlainSymbol (root ++ (date ++ side :: strike))
  | crypto {base quote : List Char} (bought : Chars isLetter 2 5 base)
      (paid : Chars isLetter 3 4 quote) : PlainSymbol (base ++ '/' :: quote)
  | forex {base quote : List Char} (bought : Chars isLetter 3 3 base)
      (paid : Chars isLetter 3 3 quote) : PlainSymbol (base ++ '/' :: quote)

/-- ASCII without a line break at the end. -/
structure Clean (symbol : String) : Prop where
  ascii : ∀ c ∈ symbol.toList, c.toNat < 128
  unbroken : symbol.toList.getLast? ≠ some '\n'

/-! ## Letters and digits in upper case -/

theorem isLetter_iff {c : Char} : isLetter c = true ↔ isUpper c.toUpper = true := by
  rw [isLetter, Bool.or_eq_true, isUpper_iff, isUpper_iff, toNat_toUpper]
  have lower : isLower c = true ↔ 97 ≤ c.toNat ∧ c.toNat ≤ 122 := by
    simp only [isLower, Bool.and_eq_true, decide_eq_true_eq]
    exact Iff.rfl
  rw [lower]
  split <;> omega

/-- A character that is no letter in upper case is not changed. -/
theorem toUpper_eq {c d : Char} (same : c.toUpper = d) (other : isUpper d = false) : c = d := by
  rw [Bool.eq_false_iff, ne_eq, isUpper_iff] at other
  rw [← same]
  symm
  apply toUpper_of_not_lower
  rintro ⟨low, high⟩
  rw [UInt32.le_iff_toNat_le] at low high
  have lower : 97 ≤ c.toNat ∧ c.toNat ≤ 122 := ⟨low, high⟩
  have code := toNat_toUpper c
  rw [same, if_pos lower] at code
  omega

theorem toUpper_toUpper (c : Char) : c.toUpper.toUpper = c.toUpper := by
  by_cases letter : isLetter c = true
  · have upper := isUpper_iff.mp (isLetter_iff.mp letter)
    apply toUpper_of_not_lower
    rintro ⟨low, -⟩
    rw [UInt32.le_iff_toNat_le] at low
    change 97 ≤ c.toUpper.toNat at low
    omega
  · have same : c.toUpper = c := by
      symm
      apply toUpper_eq rfl
      rw [Bool.eq_false_iff, ne_eq, ← isLetter_iff]
      exact letter
    rw [same, same]

/-- A visible character of ASCII, from the asterisk on. -/
def IsPrintable (c : Char) : Prop := 42 ≤ c.toNat ∧ c.toNat < 128

theorem isPrintable_of_isLetter (c : Char) (letter : isLetter c = true) : IsPrintable c := by
  have upper := isUpper_iff.mp (isLetter_iff.mp letter)
  rw [toNat_toUpper] at upper
  rw [IsPrintable]
  split at upper <;> omega

theorem isPrintable_of_isDigit (c : Char) (digit : isDigit c = true) : IsPrintable c := by
  have bound := isDigit_iff.mp digit
  rw [IsPrintable]
  omega

theorem Chars.printable {test : Char → Bool} {least most : Nat} {chars : List Char}
    (run : Chars test least most chars) (visible : ∀ c, test c = true → IsPrintable c) :
    ∀ c ∈ chars, IsPrintable c :=
  fun c mem => visible c (run.inside c mem)

theorem PlainSymbol.printable {chars : List Char} (plain : PlainSymbol chars) :
    ∀ c ∈ chars, IsPrintable c := by
  cases plain with
  | wildcard => simp [IsPrintable]
  | ticker letters => exact letters.printable isPrintable_of_isLetter
  | share letters separates shareClass =>
      rw [List.forall_mem_append, List.forall_mem_cons]
      refine ⟨letters.printable isPrintable_of_isLetter, ?_,
        shareClass.printable isPrintable_of_isLetter⟩
      rcases separates with rfl | rfl <;> simp [IsPrintable]
  | contract letters dated sided priced =>
      rw [List.forall_mem_append, List.forall_mem_append, List.forall_mem_cons]
      refine ⟨letters.printable isPrintable_of_isLetter, dated.printable isPrintable_of_isDigit, ?_,
        priced.printable isPrintable_of_isDigit⟩
      apply isPrintable_of_isLetter
      rw [isLetter_iff]
      rcases sided with eq | eq <;> rw [eq] <;> decide
  | crypto bought paid =>
      rw [List.forall_mem_append, List.forall_mem_cons]
      exact ⟨bought.printable isPrintable_of_isLetter, by simp [IsPrintable],
        paid.printable isPrintable_of_isLetter⟩
  | forex bought paid =>
      rw [List.forall_mem_append, List.forall_mem_cons]
      exact ⟨bought.printable isPrintable_of_isLetter, by simp [IsPrintable],
        paid.printable isPrintable_of_isLetter⟩

/-- A plain symbol is ASCII and does not end with a line break. -/
theorem PlainSymbol.clean {symbol : String} (plain : PlainSymbol symbol.toList) : Clean symbol where
  ascii c mem := (plain.printable c mem).2
  unbroken last := by
    have visible := plain.printable '\n' (List.mem_of_getLast? last)
    simp [IsPrintable] at visible

theorem Clean.no_break {symbol : String} (clean : Clean symbol) : ¬['\n'] <:+ symbol.toList := by
  rintro ⟨front, eq⟩
  exact clean.unbroken (List.getLast?_eq_some_iff.mpr ⟨front, eq.symm⟩)

/-! ## The patterns on a text in upper case -/

/-- A run of a class in upper case is a run of the characters whose upper case is in the class. -/
theorem run_map {test : Char → Bool} {least most : Nat} {chars body rest : List Char}
    (ran : run test least most (chars.map Char.toUpper) = some (body, rest)) :
    ∃ front back, chars = front ++ back ∧ rest = back.map Char.toUpper ∧
      Chars (fun c => test c.toUpper) least most front := by
  obtain ⟨split, inside, least_le, le_most⟩ := run_eq_some ran
  obtain ⟨front, back, rfl, rfl, rfl⟩ := List.map_eq_append_iff.mp split
  rw [List.length_map] at least_le le_most
  refine ⟨front, back, rfl, rfl, ?_, least_le, le_most⟩
  intro c mem
  exact inside c.toUpper (List.mem_map_of_mem mem)

theorem Chars.letters {least most : Nat} {chars : List Char}
    (run : Chars (fun c => isUpper c.toUpper) least most chars) : Chars isLetter least most chars :=
  ⟨fun c mem => isLetter_iff.mpr (run.inside c mem), run.least, run.most⟩

/-- Without a final line break, `$` is the end. -/
theorem eq_nil_of_atEnd {front back : List Char} (ended : atEnd (back.map Char.toUpper) = true)
    (unbroken : ¬['\n'] <:+ front ++ back) : back = [] := by
  rw [atEnd, Bool.or_eq_true, beq_iff_eq, beq_iff_eq] at ended
  rcases ended with empty | broken
  · exact List.map_eq_nil_iff.mp empty
  · obtain ⟨c, rest, rfl, same, nil⟩ := List.map_eq_cons_iff.mp broken
    obtain rfl := toUpper_eq same (by decide)
    obtain rfl := List.map_eq_nil_iff.mp nil
    exact absurd (List.suffix_append front _) unbroken

theorem plain_of_stockPattern {chars : List Char} (unbroken : ¬['\n'] <:+ chars)
    (matched : stockPattern (chars.map Char.toUpper) = true) : PlainSymbol chars := by
  rw [stockPattern] at matched
  split at matched
  next => cases matched
  next body rest ran =>
    obtain ⟨root, back, rfl, rfl, letters⟩ := run_map ran
    rcases Bool.or_eq_true_iff.mp matched with ended | suffixed
    · obtain rfl := eq_nil_of_atEnd ended unbroken
      rw [List.append_nil]
      exact .ticker letters.letters
    · split at suffixed
      next => cases suffixed
      next separator suffix eq =>
        obtain ⟨sign, tail, rfl, same, rfl⟩ := List.map_eq_cons_iff.mp eq
        obtain ⟨separates, classed⟩ := Bool.and_eq_true_iff.mp suffixed
        split at classed
        next => cases classed
        next classBody classRest classRan =>
          obtain ⟨shareClass, final, rfl, rfl, classLetters⟩ := run_map classRan
          rw [← List.cons_append, ← List.append_assoc] at unbroken ⊢
          obtain rfl := eq_nil_of_atEnd classed unbroken
          rw [List.append_nil]
          apply PlainSymbol.share letters.letters _ classLetters.letters
          rw [Bool.or_eq_true, beq_iff_eq, beq_iff_eq] at separates
          rcases separates with dot | hyphen
          · exact .inl (toUpper_eq (same.trans dot) (by decide))
          · exact .inr (toUpper_eq (same.trans hyphen) (by decide))

theorem plain_of_pair {leastBase mostBase leastQuote mostQuote : Nat} {chars : List Char}
    (unbroken : ¬['\n'] <:+ chars)
    (matched :
      (pairPattern leastBase mostBase leastQuote mostQuote (chars.map Char.toUpper)).isSome) :
    ∃ base quote, chars = base ++ '/' :: quote ∧ Chars isLetter leastBase mostBase base ∧
      Chars isLetter leastQuote mostQuote quote := by
  obtain ⟨pair, matched⟩ := Option.isSome_iff_exists.mp matched
  simp only [pairPattern, Option.bind_eq_bind, Option.bind_eq_some_iff, Prod.exists] at matched
  obtain ⟨baseText, rest, baseRan, tail, slash, quoteText, final, quoteRan, ended⟩ := matched
  obtain ⟨base, back, rfl, rfl, bought⟩ := run_map baseRan
  cases back with
  | nil => cases slash
  | cons sign back =>
      rw [List.map_cons, expect] at slash
      split at slash
      next same =>
        obtain rfl := toUpper_eq same (by decide)
        obtain rfl := Option.some.inj slash
        obtain ⟨quote, last, rfl, rfl, paid⟩ := run_map quoteRan
        split at ended
        next atLast =>
          rw [← List.cons_append, ← List.append_assoc] at unbroken
          obtain rfl := eq_nil_of_atEnd atLast unbroken
          exact ⟨base, quote, by rw [List.append_nil], bought.letters, paid.letters⟩
        next => cases ended
      next => cases slash

section Tables

variable [Unicode]

theorem upperChars_ascii {chars : List Char} (ascii : ∀ c ∈ chars, c.toNat < 128) :
    upperChars chars = chars.map Char.toUpper := by
  induction chars with
  | nil => rfl
  | cons c rest ih =>
      rw [List.forall_mem_cons] at ascii
      rw [List.map_cons, ← ih ascii.2, upperChars, List.flatMap_cons, Unicode.upper_ascii c ascii.1]
      rfl

/-- Among the ASCII characters, `\d` accepts the ten digits only. -/
theorem Chars.digits {least most : Nat} {chars : List Char} (ascii : ∀ c ∈ chars, c.toNat < 128)
    (run : Chars (fun c => isDecimal c.toUpper) least most chars) :
    Chars isDigit least most chars where
  inside := by
    intro c mem
    have decimal := run.inside c mem
    have small : c.toUpper.toNat < 128 := by
      have bound := ascii c mem
      rw [toNat_toUpper]
      split <;> omega
    rw [isDecimal, Unicode.digit_ascii _ small, Option.isSome_ite] at decimal
    have notUpper : isUpper c.toUpper = false := by
      rw [Bool.eq_false_iff, ne_eq, isUpper_iff]
      have bound := isDigit_iff.mp decimal
      omega
    rwa [← toUpper_eq rfl notUpper] at decimal
  least := run.least
  most := run.most

theorem plain_of_optionOccPattern {chars : List Char} (ascii : ∀ c ∈ chars, c.toNat < 128)
    (unbroken : ¬['\n'] <:+ chars)
    (matched : Streaming.optionOccPattern (chars.map Char.toUpper) = true) : PlainSymbol chars := by
  rw [Streaming.optionOccPattern] at matched
  split at matched
  next => cases matched
  next body rest rootRan =>
    obtain ⟨root, back, rfl, rfl, letters⟩ := run_map rootRan
    rw [List.forall_mem_append] at ascii
    split at matched
    next => cases matched
    next dateBody dateRest dateRan =>
      obtain ⟨date, back, rfl, rfl, dated⟩ := run_map dateRan
      rw [List.forall_mem_append] at ascii
      split at matched
      next => cases matched
      next side sideRest sideRead =>
        obtain ⟨letter, tail, rfl, sided, rfl⟩ : ∃ letter tail, back = letter :: tail ∧
            (letter.toUpper = 'C' ∨ letter.toUpper = 'P') ∧ sideRest = tail.map Char.toUpper := by
          cases back with
          | nil => cases sideRead
          | cons letter tail =>
              rw [List.map_cons] at sideRead
              unfold contractSide at sideRead
              split at sideRead
              next eq =>
                obtain ⟨same, rfl⟩ := List.cons.inj eq
                obtain ⟨-, rfl⟩ := Prod.mk.inj (Option.some.inj sideRead)
                exact ⟨letter, tail, rfl, .inl same, rfl⟩
              next eq =>
                obtain ⟨same, rfl⟩ := List.cons.inj eq
                obtain ⟨-, rfl⟩ := Prod.mk.inj (Option.some.inj sideRead)
                exact ⟨letter, tail, rfl, .inr same, rfl⟩
              next => cases sideRead
        rw [List.forall_mem_cons] at ascii
        split at matched
        next => cases matched
        next strikeBody strikeRest strikeRan =>
          obtain ⟨strike, last, rfl, rfl, priced⟩ := run_map strikeRan
          rw [List.forall_mem_append] at ascii
          rw [← List.cons_append, ← List.append_assoc, ← List.append_assoc] at unbroken
          obtain rfl := eq_nil_of_atEnd matched unbroken
          rw [List.append_nil]
          exact .contract letters.letters (dated.digits ascii.2.1) sided
            (priced.digits ascii.2.2.2.1)

/-- A clean text that a known pattern accepts in upper case is plain. -/
theorem plain_of_accepts {chars : List Char} (ascii : ∀ c ∈ chars, c.toNat < 128)
    (unbroken : ¬['\n'] <:+ chars) {type : String} {pattern : SymbolPattern}
    (known : (type, pattern) ∈ symbolPatterns)
    (accepted : pattern.accepts (chars.map Char.toUpper) = true) : PlainSymbol chars := by
  simp only [symbolPatterns, List.mem_cons, List.not_mem_nil, or_false, Prod.mk.injEq] at known
  rcases known with ⟨-, rfl⟩ | ⟨-, rfl⟩ | ⟨-, rfl⟩ | ⟨-, rfl⟩
  · exact plain_of_stockPattern unbroken accepted
  · exact plain_of_optionOccPattern ascii unbroken accepted
  · obtain ⟨base, quote, rfl, bought, paid⟩ := plain_of_pair unbroken accepted
    exact .crypto bought paid
  · obtain ⟨base, quote, rfl, bought, paid⟩ := plain_of_pair unbroken accepted
    exact .forex bought paid

theorem Clean.upper {symbol : String} (clean : Clean symbol) :
    (Streaming.upper symbol).toList = symbol.toList.map Char.toUpper := by
  rw [Streaming.upper, String.toList_ofList, upperChars_ascii clean.ascii]

/-- A clean text is in upper case after the first time. -/
theorem Clean.upper_upper {symbol : String} (clean : Clean symbol) :
    (Streaming.upper (Streaming.upper symbol)).toList = symbol.toList.map Char.toUpper := by
  rw [Streaming.upper, String.toList_ofList, clean.upper, upperChars_ascii, List.map_map]
  · exact List.map_congr_left fun c _ => toUpper_toUpper c
  · intro c mem
    obtain ⟨d, inside, rfl⟩ := List.mem_map.mp mem
    have bound := clean.ascii d inside
    rw [toNat_toUpper]
    split <;> omega

/-- The pattern of any type accepts plain texts only, of those that are clean. -/
theorem plain_of_patternOf {symbol : String} (clean : Clean symbol) (symbolType : String)
    (accepted : (patternOf symbolType).2.accepts (symbol.toList.map Char.toUpper) = true) :
    PlainSymbol symbol.toList := by
  have known : ∃ type, (type, (patternOf symbolType).2) ∈ symbolPatterns := by
    rw [patternOf]
    cases found : symbolPatterns.lookup symbolType with
    | none => exact ⟨"stock", List.mem_cons_self⟩
    | some pattern =>
        obtain ⟨before, after, split, -⟩ := List.lookup_eq_some_iff.mp found
        exact ⟨symbolType, by rw [split]; simp⟩
  obtain ⟨type, mem⟩ := known
  exact plain_of_accepts clean.ascii clean.no_break mem accepted

/-! ## Calls -/

/-- A call of the validator. -/
inductive SymbolCall
  | validateSymbol (symbol symbolType : String)
  | validateSymbolsArray (symbols : List String) (maxSymbols : Option Int)
      (symbolType : Option String)
  deriving DecidableEq

/-- A check of the loop refuses a symbol in upper case. -/
def RefusesNormalized (normalized : String) : Option String → Prop
  | none =>
      Streaming.forbidden normalized.toList = true ∨ matchesAnySymbolPattern normalized = false
  | some symbolType =>
      Streaming.forbidden normalized.toList = true ∨ normalized = "" ∨
        (patternOf symbolType).2.accepts (Streaming.upper normalized).toList = false

namespace SymbolCall

/-- The symbols, as they were sent. -/
def symbols : SymbolCall → List String
  | .validateSymbol symbol _ => [symbol]
  | .validateSymbolsArray symbols _ _ => symbols

/-- The answer of the validator. -/
def answer : SymbolCall → Option InputValidationError
  | .validateSymbol symbol symbolType => Security.validateSymbol symbol symbolType
  | .validateSymbolsArray symbols maxSymbols symbolType =>
      Security.validateSymbolsArray symbols maxSymbols symbolType

/-- A check refuses: something is missing, there are too many symbols, a character is forbidden, or
a symbol in upper case matches no pattern. -/
def Refuses : SymbolCall → Prop
  | .validateSymbol symbol symbolType =>
      symbol = "" ∨ Streaming.forbidden symbol.toList = true ∨
        (patternOf symbolType).2.accepts (Streaming.upper symbol).toList = false
  | .validateSymbolsArray symbols maxSymbols symbolType =>
      symbols = [] ∨ maxAllowed maxSymbols < symbols.length ∨
        ∃ symbol ∈ symbols,
          RefusesNormalized (Streaming.upper symbol) (symbolType.filter fun type => type ≠ "")

end SymbolCall

theorem validateNormalized_eq_none {symbolType : Option String} {normalized : String} :
    validateNormalized symbolType normalized = none ↔ ¬RefusesNormalized normalized symbolType := by
  cases symbolType with
  | none =>
      rw [validateNormalized, RefusesNormalized]
      split
      next bad => simp [bad]
      next clean =>
        split
        next fits => simp [clean, fits]
        next misfits => simp [misfits]
  | some symbolType =>
      rw [validateNormalized, RefusesNormalized]
      split
      next bad => simp [bad]
      next clean => simp [validateSymbol_eq_none, clean]

/-- A call is accepted unless a check refuses. -/
theorem SymbolCall.answer_eq_none (call : SymbolCall) : call.answer = none ↔ ¬call.Refuses := by
  cases call with
  | validateSymbol symbol symbolType =>
      rw [answer, Refuses, validateSymbol_eq_none, not_or, not_or, Bool.not_eq_true,
        Bool.not_eq_false]
  | validateSymbolsArray symbols maxSymbols symbolType =>
      rw [answer, Refuses, validateSymbolsArray_eq_none, not_or, not_or, not_lt]
      simp only [validateNormalized_eq_none, not_exists, not_and]

/-- A clean symbol that passes the loop is plain. -/
theorem plain_of_not_refusesNormalized {symbol : String} (clean : Clean symbol)
    {symbolType : Option String}
    (accepted : ¬RefusesNormalized (Streaming.upper symbol) symbolType) :
    PlainSymbol symbol.toList := by
  cases symbolType with
  | none =>
      rw [RefusesNormalized, not_or, Bool.not_eq_false, matchesAnySymbolPattern, Bool.or_eq_true,
        clean.upper] at accepted
      rcases accepted.2 with star | known
      · have text : symbol.toList.map Char.toUpper = ['*'] := by
          rw [← clean.upper, beq_iff_eq.mp star]
          rfl
        obtain ⟨c, rest, eq, same, nil⟩ := List.map_eq_cons_iff.mp text
        obtain rfl := toUpper_eq same (by decide)
        obtain rfl := List.map_eq_nil_iff.mp nil
        rw [eq]
        exact .wildcard
      · obtain ⟨⟨type, pattern⟩, mem, matched⟩ := List.any_eq_true.mp known
        exact plain_of_accepts clean.ascii clean.no_break mem matched
  | some symbolType =>
      rw [RefusesNormalized, not_or, not_or, Bool.not_eq_false, clean.upper_upper] at accepted
      exact plain_of_patternOf clean symbolType accepted.2.2

/-- Accepted symbols are plain exactly when every symbol is ASCII without a final line break, unless
a check refuses the call. -/
theorem accepted_symbols_are_plain (call : SymbolCall) :
    (call.answer = none → ∀ symbol ∈ call.symbols, PlainSymbol symbol.toList) ↔
      (∀ symbol ∈ call.symbols, Clean symbol) ∨ call.Refuses := by
  constructor
  · intro plain
    by_cases refused : call.Refuses
    · exact .inr refused
    · left
      intro symbol mem
      exact (plain (call.answer_eq_none.mpr refused) symbol mem).clean
  · rintro (clean | refused) accepted symbol mem
    · have passed := call.answer_eq_none.mp accepted
      have plainly := clean symbol mem
      cases call with
      | validateSymbol text symbolType =>
          obtain rfl := List.mem_singleton.mp mem
          rw [SymbolCall.Refuses, not_or, not_or, Bool.not_eq_false, plainly.upper] at passed
          exact plain_of_patternOf plainly symbolType passed.2.2
      | validateSymbolsArray texts maxSymbols symbolType =>
          apply plain_of_not_refusesNormalized plainly
          intro refused
          exact passed (.inr (.inr ⟨symbol, mem, refused⟩))
    · exact absurd refused (call.answer_eq_none.mp accepted)

end Tables

/-- A ticker with a line break behind it is accepted. -/
theorem line_break_is_accepted :
    ¬∀ call : SymbolCall, @SymbolCall.answer asciiUnicode call = none →
      ∀ symbol ∈ call.symbols, PlainSymbol symbol.toList := by
  intro plain
  have accepted : @SymbolCall.answer asciiUnicode (.validateSymbol "AAPL\n" "stock") = none := by
    decide
  have shape :=
    plain (.validateSymbol "AAPL\n" "stock") accepted "AAPL\n" (List.mem_singleton.mpr rfl)
  exact shape.clean.unbroken (by decide)

end Security
end DataGateway
