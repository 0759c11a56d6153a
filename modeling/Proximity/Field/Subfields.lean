import Proximity.Json.Record

/-!
# The subfields of an address field

An address field shows a list of subfields. Those on the list can be filtered on, shown or not,
and so can the two coordinates; nothing else can.
-/

namespace Proximity

/-- A subfield of an address field as it is set up. -/
structure SubfieldSetting where
  handle : String
  label : String
  enabled : Bool
deriving DecidableEq, Repr

/-- The subfields of an address field. -/
structure SubfieldConfig where
  subfields : List SubfieldSetting
deriving DecidableEq, Repr

namespace SubfieldConfig

/-- The subfields that an address field has at first. -/
def standard : SubfieldConfig where
  subfields :=
    [("name", "Name"), ("street1", "Street Address"), ("street2", "Apartment or Suite"),
      ("city", "City"), ("state", "State"), ("zip", "Zip Code"),
      ("neighborhood", "Neighborhood"), ("county", "County"), ("country", "Country"),
      ("countryCode", "Country Code"), ("placeId", "Place ID")].map
    fun (handle, label) => ⟨handle, label, true⟩

/-- The handles that can be filtered on. -/
def whitelist (config : SubfieldConfig) : List String :=
  config.subfields.map SubfieldSetting.handle ++ ["lat", "lng"]

/-- Whether a handle can be filtered on. -/
def isFilterable (config : SubfieldConfig) (handle : String) : Bool :=
  handle == "lat" || handle == "lng" || config.subfields.any fun s => s.handle == handle

end SubfieldConfig

/-- A setting from a record; a subfield is shown unless it says otherwise. -/
def SubfieldSetting.ofJson? : Json → Option SubfieldSetting :=
  Json.record? do
    let handle ← Json.required "handle" Json.string?
    let label ← Json.required "label" Json.string?
    let enabled ← Json.defaulted "enabled" true Json.bool?
    pure ⟨handle, label, enabled⟩

/-- A setting as a record. -/
def SubfieldSetting.toJson (s : SubfieldSetting) : Json :=
  .object [("handle", .string s.handle), ("label", .string s.label), ("enabled", .bool s.enabled)]

/-- The subfields from a record. -/
def SubfieldConfig.ofJson? : Json → Option SubfieldConfig :=
  Json.record? do
    let subfields ← Json.required "subfields" (Json.list? SubfieldSetting.ofJson?)
    pure ⟨subfields⟩

/-- The subfields as a record. -/
def SubfieldConfig.toJson (config : SubfieldConfig) : Json :=
  .object [("subfields", .array (config.subfields.map SubfieldSetting.toJson))]

end Proximity
