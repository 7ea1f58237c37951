import Mathlib.Data.List.Sort

/-!
# Text operations of the host language

Strings are sequences of Unicode scalar values, compared and measured character by character.  Only
the operations that the modelled functions use are defined here.
-/

namespace DataGateway
namespace Text

/-- `str.startswith`. -/
def startsWith (text front : String) : Bool := front.toList.isPrefixOf text.toList

/-- `part in text`. -/
def contains (text part : String) : Bool := text.toList.tails.any part.toList.isPrefixOf

/-- The characters that `str.isspace` accepts, which are the ones `str.strip` removes and the ones
`\s` matches. -/
def isSpace (c : Char) : Bool :=
  let n := c.toNat
  (0x09 ≤ n && n ≤ 0x0D) || (0x1C ≤ n && n ≤ 0x20) || n == 0x85 || n == 0xA0 || n == 0x1680 ||
    (0x2000 ≤ n && n ≤ 0x200A) || n == 0x2028 || n == 0x2029 || n == 0x202F || n == 0x205F ||
    n == 0x3000

/-- `str.strip` on a list of characters. -/
def stripChars (chars : List Char) : List Char :=
  ((chars.dropWhile isSpace).reverse.dropWhile isSpace).reverse

/-- `not text.strip()`: the text is empty or consists of white space. -/
def blank (text : String) : Bool := text.toList.all isSpace

/-- The end of a pattern: `$` matches at the end of the text and before a final line break. -/
def atEnd (rest : List Char) : Bool := rest == [] || rest == ['\n']

/-- `[A-Z]` without case folding. -/
def isUpper (c : Char) : Bool := 'A' ≤ c && c ≤ 'Z'

/-- `[a-z]` without case folding. -/
def isLower (c : Char) : Bool := 'a' ≤ c && c ≤ 'z'

/-- `[0-9]`. -/
def isDigit (c : Char) : Bool := '0' ≤ c && c ≤ '9'

/-- Removing nothing from the front and nothing from the back removes nothing. -/
theorem stripChars_of_edges {first last : Char} {middle : List Char}
    (front : isSpace first = false) (back : isSpace last = false) :
    stripChars (first :: (middle ++ [last])) = first :: (middle ++ [last]) := by
  simp [stripChars, front, back]

theorem startsWith_iff {text front : String} :
    startsWith text front = true ↔ ∃ rest, text.toList = front.toList ++ rest := by
  rw [startsWith, List.isPrefixOf_iff_prefix]
  exact ⟨fun ⟨rest, eq⟩ => ⟨rest, eq.symm⟩, fun ⟨rest, eq⟩ => ⟨rest, eq.symm⟩⟩

theorem startsWith_append (front rest : String) : startsWith (front ++ rest) front = true :=
  startsWith_iff.mpr ⟨rest.toList, by simp⟩

end Text
end DataGateway
