import Proximity.Address.Geocoded
import Proximity.Error

/-!
# Matches

A result of a geocoder as a match, and the best match of a whole response. The result lists the
components of an address, each with a long and a short name and the types it carries. The parts of
the address are picked from them by type: of several components with one type the first counts. A
result has to be an object; a match without a usable place has no coordinates.
-/

namespace Proximity

/-- A component of an address. -/
structure AddressComponent where
  longName : String
  shortName : String
  types : List String
deriving DecidableEq, Repr

/-- A component from a record; without a list of types it has none. -/
def AddressComponent.ofJson? : Json → Option AddressComponent :=
  Json.record? do
    let longName ← Json.required "long_name" Json.string?
    let shortName ← Json.required "short_name" Json.string?
    let types ← Json.defaulted "types" [] (Json.list? Json.string?)
    pure { longName, shortName, types }

/-- The components that a result lists. Entries that are no components are passed over. -/
def components (raw : Json) : List AddressComponent :=
  ((raw.getArray? "address_components").getD []).filterMap AddressComponent.ofJson?

/-- The first component that carries a type. -/
def componentOf (type : String) (cs : List AddressComponent) : Option AddressComponent :=
  cs.find? fun c => c.types.contains type

/-- The long name of the first component that carries a type. -/
def longName (type : String) (cs : List AddressComponent) : Option String :=
  (componentOf type cs).map AddressComponent.longName

/-- The short name of the first component that carries a type. -/
def shortName (type : String) (cs : List AddressComponent) : Option String :=
  (componentOf type cs).map AddressComponent.shortName

/-- The line of the street: the number and the street, or the one of them that is there. -/
def streetLine : Option String → Option String → Option String
  | some number, some route => some (number ++ " " ++ route)
  | none, some route => some route
  | some number, none => some number
  | none, none => none

/-- The code of the post with its suffix, where both are there; a suffix alone is no code. -/
def postalCode (code suffix : Option String) : Option String :=
  code.map fun code =>
    match suffix with
    | some suffix => code ++ "-" ++ suffix
    | none => code

/-- The parts of an address from its components and its name. -/
def partsOf (name : Option String) (cs : List AddressComponent) : AddressParts where
  name := name
  street1 := streetLine (longName "street_number" cs) (longName "route" cs)
  street2 := longName "subpremise" cs
  city := longName "locality" cs <|> longName "postal_town" cs <|> longName "sublocality" cs
  state := shortName "administrative_area_level_1" cs
  zip := postalCode (longName "postal_code" cs) (longName "postal_code_suffix" cs)
  neighborhood := longName "neighborhood" cs
  county := longName "administrative_area_level_2" cs
  country := longName "country" cs
  countryCode := shortName "country" cs

/-- The parts of the address that a result describes. -/
def restructure (raw : Json) : AddressParts :=
  partsOf (raw.getString? "name") (components raw)

/-- The place that a result gives. -/
def placeOf (raw : Json) : Option Coordinates :=
  (((raw.get? "geometry").bind (·.get? "location")).bind Json.object?).bind Coordinates.ofFields?

/-- The match that one result describes. -/
def GeocodedAddress.ofResult (raw : Json) : Except Error GeocodedAddress :=
  match raw with
  | .object _ =>
    .ok {
      coords := placeOf raw
      types := ((raw.getArray? "types").getD []).filterMap Json.string?
      formatted := raw.getString? "formatted_address"
      placeId := raw.getString? "place_id"
      parts := restructure raw
      raw := raw }
  | _ => .error (.resultNotObject raw)

/-- The best match of a response, which is its first result. -/
def GeocodedAddress.ofResponse (response : Json) : Except Error (Option GeocodedAddress) :=
  match response.getArray? "results" with
  | some (first :: _) => (GeocodedAddress.ofResult first).map some
  | _ => .ok none

end Proximity
