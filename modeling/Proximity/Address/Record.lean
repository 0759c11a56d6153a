import Proximity.Address.Timestamp
import Proximity.Error
import Proximity.Geo.Coordinates
import Proximity.Json.Parser

/-!
# Address records

A stored address of one element, as the address table keeps it. Its identifiers have 64 bits and
its zoom 16; every part of the address may be absent, and either coordinate may be.
-/

namespace Proximity

/-- A row of the address table. -/
structure AddressRecord where
  id : Int64
  elementId : Int64
  siteId : Int64
  fieldId : Int64
  formatted : Option String
  raw : Option String
  name : Option String
  street1 : Option String
  street2 : Option String
  city : Option String
  state : Option String
  zip : Option String
  neighborhood : Option String
  county : Option String
  country : Option String
  countryCode : Option String
  placeId : Option String
  lat : Option Float
  lng : Option Float
  zoom : Option Int16
  dateCreated : Timestamp
  dateUpdated : Timestamp
  uid : String
deriving DecidableEq

namespace AddressRecord

/-- A timestamp as text in JSON. -/
def timestamp? (v : Json) : Option Timestamp :=
  v.string?.bind Timestamp.ofText?

/-- The fields of a row in the order in which they are declared. -/
def fields : Json.FieldReader AddressRecord := do
  let id ← Json.required "id" Json.int64?
  let elementId ← Json.required "elementId" Json.int64?
  let siteId ← Json.required "siteId" Json.int64?
  let fieldId ← Json.required "fieldId" Json.int64?
  let formatted ← Json.optional "formatted" Json.string?
  let raw ← Json.optional "raw" Json.string?
  let name ← Json.optional "name" Json.string?
  let street1 ← Json.optional "street1" Json.string?
  let street2 ← Json.optional "street2" Json.string?
  let city ← Json.optional "city" Json.string?
  let state ← Json.optional "state" Json.string?
  let zip ← Json.optional "zip" Json.string?
  let neighborhood ← Json.optional "neighborhood" Json.string?
  let county ← Json.optional "county" Json.string?
  let country ← Json.optional "country" Json.string?
  let countryCode ← Json.optional "countryCode" Json.string?
  let placeId ← Json.optional "placeId" Json.string?
  let lat ← Json.optional "lat" Json.float?
  let lng ← Json.optional "lng" Json.float?
  let zoom ← Json.optional "zoom" Json.int16?
  let dateCreated ← Json.required "dateCreated" timestamp?
  let dateUpdated ← Json.required "dateUpdated" timestamp?
  let uid ← Json.required "uid" Json.string?
  pure { id, elementId, siteId, fieldId, formatted, raw, name, street1, street2, city, state, zip,
         neighborhood, county, country, countryCode, placeId, lat, lng, zoom, dateCreated,
         dateUpdated, uid }

/-- A row from a record. -/
def ofJson? : Json → Option AddressRecord :=
  Json.record? fields

/-- All fields of a row, in which null stands for what is absent. -/
def toFields (r : AddressRecord) : Keyed Json :=
  let text := Json.ofOption Json.string
  [("id", .number (.int r.id.toInt)), ("elementId", .number (.int r.elementId.toInt)),
    ("siteId", .number (.int r.siteId.toInt)), ("fieldId", .number (.int r.fieldId.toInt)),
    ("formatted", text r.formatted), ("raw", text r.raw), ("name", text r.name),
    ("street1", text r.street1), ("street2", text r.street2), ("city", text r.city),
    ("state", text r.state), ("zip", text r.zip), ("neighborhood", text r.neighborhood),
    ("county", text r.county), ("country", text r.country), ("countryCode", text r.countryCode),
    ("placeId", text r.placeId), ("lat", Json.ofOption Json.ofFloat r.lat),
    ("lng", Json.ofOption Json.ofFloat r.lng),
    ("zoom", Json.ofOption (fun n => .number (.int n.toInt)) r.zoom),
    ("dateCreated", .string r.dateCreated.text), ("dateUpdated", .string r.dateUpdated.text),
    ("uid", .string r.uid)]

/-- A row as a record of all its fields. -/
def toJson (r : AddressRecord) : Json :=
  .object r.toFields

/-- The coordinates, where both halves are there. -/
def coords (r : AddressRecord) : Option Coordinates := do
  let lat ← r.lat
  let lng ← r.lng
  some ⟨lat, lng⟩

/-- Whether the first line of the street is more than blank space. -/
def hasStreetAddress (r : AddressRecord) : Bool :=
  match r.street1 with
  | some s => Text.trim s != ""
  | none => false

/-- How deep the stored result of a geocoder may be nested. -/
def rawDepth : Nat := 127

/-- The stored result of the geocoder, where one is stored. -/
def rawJson (r : AddressRecord) : Except Error (Option Json) :=
  match r.raw with
  | none => .ok none
  | some s =>
    if Text.trim s = "" then .ok none
    else
      match Json.parse? rawDepth s with
      | some v => .ok (some v)
      | none => .error (.malformed "JSON text")

end AddressRecord

end Proximity
