/-!
# Units of distance

Distances are in miles or in kilometers. Either unit fixes the radius of the globe that distances
are measured on.
-/

namespace Proximity

/-- A unit of distance. -/
inductive Units where
  | miles
  | kilometers
deriving DecidableEq, Repr

namespace Units

/-- The unit where none is given. -/
def standard : Units := .miles

/-- The unit with a name, as it is written in options. -/
def ofName? (name : String) : Option Units :=
  if name = "mi" ∨ name = "miles" then some .miles
  else if name = "km" ∨ name = "kilometers" then some .kilometers
  else none

/-- The short name of a unit. -/
def name : Units → String
  | .miles => "mi"
  | .kilometers => "km"

/-- The radius of the globe in a unit. -/
def globeRadius : Units → Int
  | .miles => 3959
  | .kilometers => 6371

end Units

/-- The radius of the globe in the unit with a name; a name that is unknown means miles. -/
def globeRadiusOf (name : String) : Int :=
  ((Units.ofName? name).getD .miles).globeRadius

end Proximity
