import Proximity.Geo.Coordinates

/-!
# Targets

What a search looks around: coordinates as they are, a text or the fields of an address to look
up, or something else that cannot be used. Empty values, zero and `false` are no target at all.
-/

namespace Proximity

/-- What a search looks around. -/
inductive Target where
  | literal (coords : Coordinates)
  | text (text : String)
  | structured (fields : Keyed Json)
  | unsupported (value : Json)

namespace Target

/-- The target of an option map. -/
def ofJson? (v : Json) : Option Target :=
  match v with
  | .string s => if s = "" then none else some (.text s)
  | .object [] => none
  | .object fields =>
    match Coordinates.ofFields? fields with
    | some coords => some (.literal coords)
    | none => some (.structured fields)
  | .bool true => some (.unsupported v)
  | .number n => if n.toFloat == 0 then none else some (.unsupported v)
  | .array (_ :: _) => some (.unsupported v)
  | _ => none

/-- The name of the kind of a target. -/
def kindName : Target → String
  | literal _ => "literal"
  | text _ => "text"
  | structured _ => "structured"
  | unsupported _ => "unsupported"

end Target

end Proximity
