import Proximity.Error
import Proximity.Geo.Units
import Proximity.Options.SubfieldFilter
import Proximity.Options.Target

/-!
# Search options

The options of a proximity search as they come in an option map. Keys that are unknown are passed
over, and a value that its key does not take counts as absent. Only the map as a whole has to be
an object or null. Options from a map with any key are never empty, even if no value in it was
taken.
-/

namespace Proximity

/-- The options of a search. -/
structure SearchOptions where
  range : Option Float := none
  units : Option String := none
  target : Option Target := none
  subfields : Subfields := .none
  requireCoords : Bool := false
  reverseRadius : Option String := none
  /-- Whether the options come from a map that has keys. -/
  supplied : Bool := false

/-- The options with the defaults filled in. -/
structure NormalizedOptions where
  range : Float
  units : Units
  target : Option Target
  subfields : Subfields
  requireCoords : Bool
  reverseRadius : Option String

/-- Whether a value switches something on. -/
def Json.isTruthy : Json → Bool
  | .bool b => b
  | .number n => n.toFloat != 0
  | .string s => s != "" && s != "0" && s != "false"
  | _ => false

namespace SearchOptions

/-- The range where none is given. -/
def standardRange : Float := 500

/-- Whether nothing is asked for. -/
def isEmpty (o : SearchOptions) : Bool :=
  o.range.isNone && o.units.isNone && o.target.isNone && o.subfields == .none &&
    !o.requireCoords && o.reverseRadius.isNone && !o.supplied

/-- The options of a map with the fields given. -/
def ofFields (fields : Keyed Json) : SearchOptions where
  range := (Keyed.get? "range" fields).bind Json.finite?
  units := (Keyed.get? "units" fields).bind Json.string?
  target := (Keyed.get? "target" fields).bind Target.ofJson?
  subfields := ((Keyed.get? "subfields" fields).map Subfields.ofJson).getD .none
  requireCoords := ((Keyed.get? "requireCoords" fields).map Json.isTruthy).getD false
  reverseRadius :=
    ((Keyed.get? "reverseRadius" fields).bind Json.string?).filter (· != "")
  supplied := !fields.isEmpty

/-- The options of an option map. -/
def ofJson : Json → Except Error SearchOptions
  | .object fields => .ok (ofFields fields)
  | .null => .ok {}
  | v => .error (.optionsNotObject v)

/-- Whether a range can be searched in. -/
def validRange (r : Float) : Bool :=
  r.isFinite && 0 < r

/-- The options with defaults for the range and the units. An unknown name of a unit is no missing
one: it means miles, whatever the default. -/
def normalizeWith (o : SearchOptions) (defaultRange : Float) (defaultUnits : Units) :
    NormalizedOptions where
  range :=
    match o.range with
    | some r => if validRange r then r else defaultRange
    | none => defaultRange
  units :=
    match o.units with
    | some name => (Units.ofName? name).getD .miles
    | none => defaultUnits
  target := o.target
  subfields := o.subfields
  requireCoords := o.requireCoords
  reverseRadius := o.reverseRadius

/-- The options with the standard range and unit as defaults. -/
def normalize (o : SearchOptions) : NormalizedOptions :=
  o.normalizeWith standardRange .standard

end SearchOptions

end Proximity
