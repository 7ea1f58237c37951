import DataGateway.Python.OrderedDict
import DataGateway.Symbology.Resolver

/-!
# Event payloads

A payload is a dictionary of values of any type.  Of a value the envelopes read its type, its truth
value and its text; of a point in time they also read its ISO form.
-/

namespace DataGateway
namespace Envelope

/-- `datetime` and what the envelopes ask of it. -/
class DateTimes (DateTime : Type) where
  /-- `datetime.isoformat()`. -/
  isoformat : DateTime → String
  /-- `str(datetime)`. -/
  text : DateTime → String
  /-- `datetime.fromisoformat(text)`, or `None` for a `ValueError`. -/
  fromisoformat : String → Option DateTime
  /-- `datetime.fromtimestamp(seconds, tz=UTC)`, or `None` for a number out of range. -/
  fromtimestamp : Int → Option DateTime
  /-- `value if value.tzinfo is not None else value.replace(tzinfo=UTC)`. -/
  toUtc : DateTime → DateTime

/-- A value of another type, with what its methods return. -/
structure Object (DateTime : Type) where
  /-- `str(value)`. -/
  text : String
  /-- `bool(value)`. -/
  truthy : Bool
  isDict : Bool
  hashable : Bool
  /-- `datetime.combine(value, time.min, tzinfo=UTC)`, for a `date`. -/
  midnight : Option DateTime
  /-- `value.isoformat()`, where there is such a method. -/
  isoformat : Option String
  /-- `value.to_datetime()`, where there is such a method. -/
  toDatetime : Option DateTime
  /-- `datetime.fromtimestamp(value, tz=UTC)`, for a `float` or a `bool`; it may raise. -/
  fromtimestamp : Option (Option DateTime)
  deriving DecidableEq

/-- A value that is no list. -/
inductive Scalar (DateTime : Type)
  | none
  | str (text : String)
  | int (number : Int)
  | dateTime (value : DateTime)
  | object (value : Object DateTime)
  deriving DecidableEq

/-- A value of a payload; a list comes with its text. -/
inductive Value (DateTime : Type)
  | scalar (value : Scalar DateTime)
  | list (items : List (Scalar DateTime)) (text : String)
  deriving DecidableEq

/-- A payload, in the order of its keys. -/
abbrev Payload (DateTime : Type) := OrderedDict String (Value DateTime)

variable {DateTime : Type}

/-- `bool(value)`. -/
def Scalar.truthy : Scalar DateTime → Bool
  | .none => false
  | .str text => text ≠ ""
  | .int number => number ≠ 0
  | .dateTime _ => true
  | .object value => value.truthy

/-- A key of a dictionary may be this value. -/
def Scalar.hashable : Scalar DateTime → Bool
  | .object value => value.hashable
  | _ => true

namespace Value

/-- `None`. -/
@[match_pattern]
abbrev none : Value DateTime := .scalar .none

/-- A text. -/
@[match_pattern]
abbrev str (text : String) : Value DateTime := .scalar (.str text)

/-- An integer. -/
@[match_pattern]
abbrev int (number : Int) : Value DateTime := .scalar (.int number)

/-- A point in time. -/
@[match_pattern]
abbrev dateTime (value : DateTime) : Value DateTime := .scalar (.dateTime value)

/-- `bool(value)`. -/
def truthy : Value DateTime → Bool
  | .scalar value => value.truthy
  | .list items _ => items ≠ []

/-- A key of a dictionary may be this value. -/
def hashable : Value DateTime → Bool
  | .scalar value => value.hashable
  | .list _ _ => false

/-- `left or right`. -/
def orElse (left right : Value DateTime) : Value DateTime := if left.truthy then left else right

/-- `str(value)`. -/
def text [DateTimes DateTime] : Value DateTime → String
  | .none => "None"
  | .str text => text
  | .int number => toString number
  | .dateTime value => DateTimes.text value
  | .scalar (.object value) => value.text
  | .list _ text => text

/-- `isinstance(value, str)`, with the text. -/
def str? : Value DateTime → Option String
  | .str text => some text
  | _ => Option.none

end Value

/-- `payload.get(key)`. -/
def Payload.get (payload : Payload DateTime) (key : String) : Value DateTime :=
  (payload.get? key).getD .none

/-- `payload.get(first) or payload.get(second) or …`, which is the last value when none is true. -/
def Payload.firstTrue (payload : Payload DateTime) : List String → Value DateTime
  | [] => .none
  | [key] => payload.get key
  | key :: keys => (payload.get key).orElse (payload.firstTrue keys)

/-! ## A small calendar -/

/-- Points in time by their ISO form, in UTC where a text names no offset. -/
@[reducible] def isoTimes : DateTimes String where
  isoformat := id
  text := id
  fromisoformat text := some (if text.length = 10 then text ++ "T00:00:00" else text)
  fromtimestamp _ := none
  toUtc text := if '+' ∈ text.toList then text else text ++ "+00:00"

end Envelope
end DataGateway
