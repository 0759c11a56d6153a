import Proximity.Json.Basic

/-!
# Records in JSON

A record is read field by field from an object, where the fields go by name and others are passed
over, or from an array, where they stand in the order in which they are declared and none may be
left over. A field that is required has to be there. One that is optional may be missing from an
object or be null, but an array has to reach as far as it. One with a default may be missing from
either, but may not be null.
-/

namespace Proximity

namespace Json

/-- The fields of a record that are still to be read. -/
inductive Source where
  | named (fields : Keyed Json)
  | listed (items : List Json)

/-- What is found in the place of a field. -/
inductive Slot where
  | present (v : Json)
  | missing
  | ended

/-- The place of a field, and the fields behind it. -/
def Source.slot (name : String) : Source → Slot × Source
  | .named fields =>
    match Keyed.get? name fields with
    | some v => (.present v, .named fields)
    | none => (.missing, .named fields)
  | .listed [] => (.ended, .listed [])
  | .listed (v :: vs) => (.present v, .listed vs)

/-- What reads some fields of a record, or fails. -/
abbrev FieldReader (α : Type) := StateT Source Option α

variable {α : Type}

/-- The value of a field, or `none` if the field fails. -/
def slotReader (name : String) (read : Slot → Option α) : FieldReader α := fun source =>
  let (slot, rest) := source.slot name
  (read slot).map fun x => (x, rest)

/-- A field that has to be there. -/
def required (name : String) (decode : Json → Option α) : FieldReader α :=
  slotReader name fun
    | .present v => decode v
    | _ => none

/-- A field that may be null or missing. -/
def optional (name : String) (decode : Json → Option α) : FieldReader (Option α) :=
  slotReader name fun
    | .present .null => some none
    | .present v => (decode v).map some
    | .missing => some none
    | .ended => none

/-- A field with a default. -/
def defaulted (name : String) (default : α) (decode : Json → Option α) : FieldReader α :=
  slotReader name fun
    | .present v => decode v
    | _ => some default

/-- A record from an object or an array. -/
def record? (fields : FieldReader α) : Json → Option α
  | .object fs => (fields (.named fs)).map Prod.fst
  | .array vs =>
    match fields (.listed vs) with
    | some (x, .listed []) => some x
    | _ => none
  | _ => none

/-- A truth value. -/
def bool? : Json → Option Bool
  | .bool b => some b
  | _ => none

/-- A number, as a finite float. -/
def float? : Json → Option Float
  | .number n => n.finite?
  | _ => none

/-- An integer in the inclusive range given. -/
def intBetween? (least greatest : Int) : Json → Option Int
  | .number (.int n) => if least ≤ n ∧ n ≤ greatest then some n else none
  | _ => none

/-- An integer of 64 bits. -/
def int64? (v : Json) : Option Int64 :=
  (intBetween? (-Int.pow 2 63) (Int.pow 2 63 - 1) v).map Int64.ofInt

/-- An integer of 16 bits. -/
def int16? (v : Json) : Option Int16 :=
  (intBetween? (-Int.pow 2 15) (Int.pow 2 15 - 1) v).map Int16.ofInt

/-- An array of values that are all of one form. -/
def list? (decode : Json → Option α) : Json → Option (List α)
  | .array vs => vs.mapM decode
  | _ => none

/-- A value, or null in its absence. -/
def ofOption (encode : α → Json) : Option α → Json
  | some x => encode x
  | none => .null

/-- A float as a number; one that is no number is null. -/
def ofFloat (x : Float) : Json :=
  if h : x.isFinite = true then .number (.float x h) else .null

end Json

end Proximity
