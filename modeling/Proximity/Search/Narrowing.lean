import Proximity.Geocode.Match
import Proximity.Options.SubfieldFilter
import Proximity.Text.Lowercase

/-!
# Narrowing a search

A region is found as a single point, and the points around it are a poor picture of the region.
So a search can be narrowed to the subfields that its target stands for: to the one that the
target names, or else to all that the match has. A match with a street, without components or of
a kind that is small enough is not narrowed.
-/

namespace Proximity

/-- The kinds of places that a radius alone pictures well. -/
def focusedTypes : List String :=
  ["premise", "route", "intersection", "locality", "neighborhood"]

/-- The parts of an address that a search can be narrowed to, under their subfields. -/
def AddressParts.regions (p : AddressParts) : List (String × Option String) :=
  [("city", p.city), ("state", p.state), ("zip", p.zip), ("county", p.county),
    ("country", p.country)]

/-- The filter after the regions of a match were gone through: each that is there is added to it,
until one is the target's phrase, which then stands alone. -/
def regionFilter (phrase : String) :
    List (String × Option String) → SubfieldFilter → SubfieldFilter
  | [], f => f
  | (_, none) :: regions, f => regionFilter phrase regions f
  | (subfield, some value) :: regions, f =>
    if Text.fold value = Text.fold phrase then SubfieldFilter.empty.insert subfield (.scalar value)
    else regionFilter phrase regions (f.insert subfield (.scalar value))

/-- Whether a match is the place itself rather than a region. -/
def GeocodedAddress.isFocused (a : GeocodedAddress) : Bool :=
  (match a.parts.street1 with
    | some s => s != ""
    | none => false) ||
  !a.hasComponents ||
  (match a.primaryType with
    | some type => focusedTypes.contains type
    | none => false)

/-- The filter that a target with the given phrase and match stands for, where it stands for
any. -/
def GeocodedAddress.narrowing (phrase : String) (a : GeocodedAddress) : Option SubfieldFilter :=
  if a.isFocused then none
  else
    let f := regionFilter phrase (restructure a.raw).regions .empty
    if f.size = 0 then none else some f

end Proximity
