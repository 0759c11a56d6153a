import Proximity.Field.Subfields
import Proximity.Options.Basic
import Proximity.Sql.Dialect

/-!
# Configuration

What all searches share: the dialect, the place to search around when a target is not found, the
subfields that can be filtered on, and the defaults for the range and the units. It can be read
from environment variables. Each variable sets one value and stands for itself: where it is
unset, or its value is not one that can be used, the default stays.
-/

namespace Proximity

/-- A place on the map and how close it is shown. -/
structure DefaultLocation where
  coords : Coordinates
  zoom : Nat
deriving DecidableEq

/-- What all searches share. -/
structure SearchConfig where
  dialect : Sql.Dialect
  /-- Where to search when the target is not found. -/
  location : DefaultLocation
  subfields : SubfieldConfig
  range : Float
  units : Units
deriving DecidableEq

/-- Environment variables by their names. -/
abbrev Environment := String → Option String

namespace SearchConfig

/-- The place where none is configured. -/
def standardLocation : DefaultLocation where
  coords := ⟨38.8977, -77.0365⟩
  zoom := 11

/-- The configuration where nothing is configured. -/
def standard : SearchConfig where
  dialect := .standard
  location := standardLocation
  subfields := .standard
  range := SearchOptions.standardRange
  units := .standard

/-- The variable of the database driver. -/
def driverVariable : String := "WAYMARK_DB_DRIVER"

/-- The variable of the default latitude. -/
def latVariable : String := "WAYMARK_DEFAULT_LAT"

/-- The variable of the default longitude. -/
def lngVariable : String := "WAYMARK_DEFAULT_LNG"

/-- The variable of the default zoom. -/
def zoomVariable : String := "WAYMARK_DEFAULT_ZOOM"

/-- The variable of the default range. -/
def rangeVariable : String := "WAYMARK_DEFAULT_RANGE"

/-- The variable of the default units. -/
def unitsVariable : String := "WAYMARK_DEFAULT_UNITS"

/-- The closest zoom. -/
def greatestZoom : Nat := 22

/-- The value of a variable as `read` understands it without the blanks around it, or the
default. -/
def setting {α : Type} (env : Environment) (name : String) (read : String → Option α)
    (default : α) : α :=
  (((env name).map Text.trim).bind read).getD default

/-- A float that passes a check. -/
def readFloat? (valid : Float → Bool) (s : String) : Option Float :=
  match Decimal.readFloat? s with
  | some x => if valid x then some x else none
  | none => none

/-- Whether a float lies between the bounds. -/
def between (least greatest x : Float) : Bool :=
  least ≤ x && x ≤ greatest

/-- The configuration that the environment gives. -/
def ofEnvironment (env : Environment) : SearchConfig where
  dialect := setting env driverVariable (fun s => (Sql.Dialect.ofName s).toOption)
    standard.dialect
  location := {
    coords := {
      lat := setting env latVariable (readFloat? (between (-90) 90)) standardLocation.coords.lat
      lng := setting env lngVariable (readFloat? (between (-180) 180)) standardLocation.coords.lng }
    zoom := setting env zoomVariable (Decimal.readBounded? greatestZoom) standardLocation.zoom }
  subfields := standard.subfields
  range := setting env rangeVariable (readFloat? SearchOptions.validRange) standard.range
  units := setting env unitsVariable Units.ofName? standard.units

end SearchConfig

/-- The dialect that the environment names; a name that is unknown is an error. -/
def Sql.Dialect.ofEnvironment (env : Environment) : Except Error Sql.Dialect :=
  match env SearchConfig.driverVariable with
  | some name => Sql.Dialect.ofName name
  | none => .ok .standard

end Proximity
