import Mathlib.Algebra.Order.Field.Rat

/-!
# JSON values

What `json.loads` makes of a text, with what Python asks of a value of unknown type: whether it is
true, what it is as a key of a dictionary, and its text.
-/

namespace DataGateway

/-- A value that `json.loads` gives; the sign of a zero is not kept, and a text with a
lone surrogate is outside. -/
inductive JsonValue
  | null
  | bool (value : Bool)
  | int (value : Int)
  | float (value : ℚ)
  | infinite (negative : Bool)
  | nan
  | string (text : String)
  | list (items : List JsonValue)
  | dict (fields : List (String × JsonValue))

/-- A value as a key: numbers are equal across their types, and so are truth values to `1` and
`0`.  There is one `NaN`, which is equal to itself as a key. -/
inductive HashKey
  | null
  | number (value : ℚ)
  | infinite (negative : Bool)
  | nan
  | string (text : String)
  deriving DecidableEq

/-- `str` of a value that is no text. -/
class Rendering where
  /-- The text. -/
  render : JsonValue → String

namespace JsonValue

/-- `bool(value)`. -/
def truthy : JsonValue → Bool
  | .null => false
  | .bool value => value
  | .int value => value ≠ 0
  | .float value => value ≠ 0
  | .infinite _ | .nan => true
  | .string text => text ≠ ""
  | .list items => !items.isEmpty
  | .dict fields => !fields.isEmpty

/-- The value as a key; lists and dictionaries are none. -/
def hashKey : JsonValue → Option HashKey
  | .null => some .null
  | .bool value => some (.number (if value then 1 else 0))
  | .int value => some (.number value)
  | .float value => some (.number value)
  | .infinite negative => some (.infinite negative)
  | .nan => some .nan
  | .string text => some (.string text)
  | .list _ => none
  | .dict _ => none

/-- The value, when it is a text. -/
def string? : JsonValue → Option String
  | .string text => some text
  | _ => none

/-- `str(value)`. -/
def text [Rendering] : JsonValue → String
  | .string text => text
  | value => Rendering.render value

theorem string?_eq_some {value : JsonValue} {text : String} :
    value.string? = some text ↔ value = .string text := by
  cases value <;> simp [string?]

end JsonValue

end DataGateway
