import Proximity.Json.Record

/-!
# The parts of an address

An address taken apart into its parts, each of which may be absent.
-/

namespace Proximity

/-- The parts of an address. -/
structure AddressParts where
  name : Option String := none
  street1 : Option String := none
  street2 : Option String := none
  city : Option String := none
  state : Option String := none
  zip : Option String := none
  neighborhood : Option String := none
  county : Option String := none
  country : Option String := none
  countryCode : Option String := none
deriving DecidableEq, Repr

namespace AddressParts

/-- The parts from a record. -/
def ofJson? : Json → Option AddressParts :=
  Json.record? do
    let name ← Json.optional "name" Json.string?
    let street1 ← Json.optional "street1" Json.string?
    let street2 ← Json.optional "street2" Json.string?
    let city ← Json.optional "city" Json.string?
    let state ← Json.optional "state" Json.string?
    let zip ← Json.optional "zip" Json.string?
    let neighborhood ← Json.optional "neighborhood" Json.string?
    let county ← Json.optional "county" Json.string?
    let country ← Json.optional "country" Json.string?
    let countryCode ← Json.optional "countryCode" Json.string?
    pure { name, street1, street2, city, state, zip, neighborhood, county, country, countryCode }

/-- The parts under their names. -/
def entries (p : AddressParts) : List (String × Option String) :=
  [("name", p.name), ("street1", p.street1), ("street2", p.street2), ("city", p.city),
    ("state", p.state), ("zip", p.zip), ("neighborhood", p.neighborhood), ("county", p.county),
    ("country", p.country), ("countryCode", p.countryCode)]

/-- The parts that are there as a record. -/
def toJson (p : AddressParts) : Json :=
  .object (p.entries.filterMap fun (name, value) => value.map fun s => (name, .string s))

end AddressParts

end Proximity
