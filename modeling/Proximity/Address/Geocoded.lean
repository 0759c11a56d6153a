import Proximity.Address.Parts
import Proximity.Geo.Coordinates

/-!
# Geocoded addresses

What a geocoder makes of a query: the match's place, what kind of place it is, its parts, and the
result as it came.
-/

namespace Proximity

/-- The match of a geocoder. -/
structure GeocodedAddress where
  coords : Option Coordinates
  types : List String
  formatted : Option String
  placeId : Option String
  parts : AddressParts
  raw : Json

namespace GeocodedAddress

/-- The kind of place that the match mainly is. -/
def primaryType (a : GeocodedAddress) : Option String :=
  a.types.head?

/-- Whether the result lists any components. -/
def hasComponents (a : GeocodedAddress) : Bool :=
  match a.raw.getArray? "address_components" with
  | some (_ :: _) => true
  | _ => false

/-- A match from a record. -/
def ofJson? : Json → Option GeocodedAddress :=
  Json.record? do
    let coords ← Json.optional "coords" Coordinates.ofJson?
    let types ← Json.required "types" (Json.list? Json.string?)
    let formatted ← Json.optional "formatted" Json.string?
    let placeId ← Json.optional "place_id" Json.string?
    let parts ← Json.required "parts" AddressParts.ofJson?
    let raw ← Json.required "raw" some
    pure { coords, types, formatted, placeId, parts, raw }

end GeocodedAddress

end Proximity
