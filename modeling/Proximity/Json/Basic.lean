import Proximity.Decimal.Read
import Proximity.Keyed
import Proximity.Text.Blank

/-!
# JSON values

Objects keep the order of their keys, and a whole number stays apart from the same number written
with a point: `1` and `1.0` are different values. A number that is no whole number is a finite
float.
-/

namespace Proximity

/-- A JSON number: an integer, or a finite float. -/
inductive Json.Number where
  | int (n : Int)
  | float (x : Float) (finite : x.isFinite = true)
deriving DecidableEq

/-- A JSON value. -/
inductive Json where
  | null
  | bool (b : Bool)
  | number (n : Json.Number)
  | string (s : String)
  | array (items : List Json)
  | object (fields : List (String × Json))

namespace Json

/-- The number as the nearest float. -/
def Number.toFloat : Number → Float
  | .int n => Float.ofInt n
  | .float x _ => x

/-- The number as a float, if that is finite. -/
def Number.finite? (n : Number) : Option Float :=
  if n.toFloat.isFinite then some n.toFloat else none

/-- The text of a string. -/
def string? : Json → Option String
  | .string s => some s
  | _ => none

/-- The items of an array. -/
def array? : Json → Option (List Json)
  | .array items => some items
  | _ => none

/-- The fields of an object. -/
def object? : Json → Option (Keyed Json)
  | .object fields => some fields
  | _ => none

/-- The value under a key of an object; other values have no keys. -/
def get? (v : Json) (key : String) : Option Json :=
  v.object?.bind (Keyed.get? key)

/-- The string under a key of an object. -/
def getString? (v : Json) (key : String) : Option String :=
  (v.get? key).bind string?

/-- The array under a key of an object. -/
def getArray? (v : Json) (key : String) : Option (List Json) :=
  (v.get? key).bind array?

/-- A finite number: a JSON number, or a text that reads as one without the blanks around it. -/
def finite? : Json → Option Float
  | .number n => n.finite?
  | .string s =>
    match Decimal.readFloat? (Text.trim s) with
    | some x => if x.isFinite then some x else none
    | none => none
  | _ => none

end Json

end Proximity
