import Proximity.Address.Record
import Proximity.Proofs.RecordReading
import Proximity.Proofs.TimestampText

/-!
# Stored records come back as they were

A record is written as an object of all its fields. Each field that can be written at all is read
back as it was: identifiers within their bits, texts as they are, floats that are finite, and
timestamps by their text. Coordinates and timestamps are the only fields with values that cannot be
written (`Storable`); a record that was decoded has none of those, so it always comes back.
-/

namespace Proximity

namespace Json

theorem int64?_toInt (n : Int64) : int64? (.number (.int n.toInt)) = some n := by
  have hn : -Int.pow 2 63 ≤ n.toInt ∧ n.toInt ≤ Int.pow 2 63 - 1 :=
    ⟨n.le_toInt, Int.le_sub_one_of_lt n.toInt_lt⟩
  rw [int64?, intBetween?, if_pos hn, Option.map_some, Int64.ofInt_toInt]

theorem int16?_toInt (n : Int16) : int16? (.number (.int n.toInt)) = some n := by
  have hn : -Int.pow 2 15 ≤ n.toInt ∧ n.toInt ≤ Int.pow 2 15 - 1 :=
    ⟨n.le_toInt, Int.le_sub_one_of_lt n.toInt_lt⟩
  rw [int16?, intBetween?, if_pos hn, Option.map_some, Int16.ofInt_toInt]

theorem float?_ofFloat {x : Float} (h : x.isFinite = true) : float? (ofFloat x) = some x := by
  simp [float?, ofFloat, h, Number.finite?, Number.toFloat]

theorem ofFloat_ne_null {x : Float} (h : x.isFinite = true) : ofFloat x ≠ .null := by
  simp [ofFloat, h]

theorem isFinite_of_float? {v : Json} {x : Float} (h : float? v = some x) : x.isFinite = true := by
  unfold float? at h
  split at h
  · unfold Number.finite? at h
    split_ifs at h with hf
    exact Option.some.inj h ▸ hf
  · cases h

end Json

namespace AddressRecord

theorem timestamp?_text {t : Timestamp} (h : t.Valid) : timestamp? (.string t.text) = some t := by
  rw [timestamp?, Json.string?, Option.bind_some, Timestamp.ofText?_text h]

theorem valid_of_timestamp? {v : Json} {t : Timestamp} (h : timestamp? v = some t) : t.Valid := by
  obtain ⟨s, -, hs⟩ := Option.bind_eq_some_iff.mp h
  exact Timestamp.valid_of_ofText? hs

/-- Whether every value of a record can be written. -/
structure Storable (r : AddressRecord) : Prop where
  lat : ∀ x ∈ r.lat, x.isFinite = true
  lng : ∀ x ∈ r.lng, x.isFinite = true
  dateCreated : r.dateCreated.Valid
  dateUpdated : r.dateUpdated.Valid

/-- The names of a record's fields. -/
def fieldNames : List String :=
  ["id", "elementId", "siteId", "fieldId", "formatted", "raw", "name", "street1", "street2", "city",
    "state", "zip", "neighborhood", "county", "country", "countryCode", "placeId", "lat", "lng",
    "zoom", "dateCreated", "dateUpdated", "uid"]

theorem nodup_fieldNames : fieldNames.Nodup := by decide

theorem keys_toFields (r : AddressRecord) : r.toFields.keys = fieldNames := rfl

example : fieldNames.length = 23 := rfl

theorem reads_fields {r : AddressRecord} (h : r.Storable) : fields.Reads r.toFields r := by
  have htext (o : Option String) : ∀ s ∈ o, Json.string? (.string s) = some s ∧
      Json.string s ≠ .null := fun s _ => ⟨rfl, nofun⟩
  have hfloat {o : Option Float} (ho : ∀ x ∈ o, x.isFinite = true) : ∀ x ∈ o,
      Json.float? (Json.ofFloat x) = some x ∧ Json.ofFloat x ≠ .null := fun x hx =>
    ⟨Json.float?_ofFloat (ho x hx), Json.ofFloat_ne_null (ho x hx)⟩
  have hzoom : ∀ n ∈ r.zoom, Json.int16? (.number (.int n.toInt)) = some n ∧
      Json.number (.int n.toInt) ≠ .null := fun n _ => ⟨Json.int16?_toInt n, nofun⟩
  -- the identifiers
  refine Json.reads_required (Json.int64?_toInt r.id) nofun ?_
  refine Json.reads_required (Json.int64?_toInt r.elementId) nofun ?_
  refine Json.reads_required (Json.int64?_toInt r.siteId) nofun ?_
  refine Json.reads_required (Json.int64?_toInt r.fieldId) nofun ?_
  -- the texts
  refine Json.reads_optional (htext r.formatted) ?_
  refine Json.reads_optional (htext r.raw) ?_
  refine Json.reads_optional (htext r.name) ?_
  refine Json.reads_optional (htext r.street1) ?_
  refine Json.reads_optional (htext r.street2) ?_
  refine Json.reads_optional (htext r.city) ?_
  refine Json.reads_optional (htext r.state) ?_
  refine Json.reads_optional (htext r.zip) ?_
  refine Json.reads_optional (htext r.neighborhood) ?_
  refine Json.reads_optional (htext r.county) ?_
  refine Json.reads_optional (htext r.country) ?_
  refine Json.reads_optional (htext r.countryCode) ?_
  refine Json.reads_optional (htext r.placeId) ?_
  -- the place and the times
  refine Json.reads_optional (hfloat h.lat) ?_
  refine Json.reads_optional (hfloat h.lng) ?_
  refine Json.reads_optional hzoom ?_
  refine Json.reads_required (timestamp?_text h.dateCreated) nofun ?_
  refine Json.reads_required (timestamp?_text h.dateUpdated) nofun ?_
  refine Json.reads_required rfl nofun ?_
  exact Json.reads_pure r

theorem yields_fields : fields.Yields Storable := by
  -- the identifiers and the texts may be anything
  iterate 17 refine Json.yields_bind fun _ => ?_
  refine (Json.yields_optional fun _ _ => Json.isFinite_of_float?).bind fun lat hlat => ?_
  refine (Json.yields_optional fun _ _ => Json.isFinite_of_float?).bind fun lng hlng => ?_
  refine Json.yields_bind fun zoom => ?_
  refine (Json.yields_required fun _ _ => valid_of_timestamp?).bind fun created hcreated => ?_
  refine (Json.yields_required fun _ _ => valid_of_timestamp?).bind fun updated hupdated => ?_
  refine Json.yields_bind fun uid => ?_
  exact Json.yields_pure ⟨hlat, hlng, hcreated, hupdated⟩

theorem storable_of_ofJson? {v : Json} {r : AddressRecord} (h : ofJson? v = some r) : r.Storable :=
  Json.of_record? yields_fields h

section Forms

variable {r : AddressRecord} (h : r.Storable)
include h

theorem ofJson?_object {others : Keyed Json} (ho : ∀ name ∈ fieldNames,
    (Keyed.get? name others).getD .null = (Keyed.get? name r.toFields).getD .null) :
    ofJson? (.object others) = some r := by
  refine Json.record?_object (reads_fields h) fun e he => ?_
  have hname : e.1 ∈ fieldNames := keys_toFields r ▸ List.mem_map_of_mem he
  have hget : Keyed.get? e.1 r.toFields = some e.2 :=
    Keyed.get?_of_mem (keys_toFields r ▸ nodup_fieldNames) he
  rw [ho e.1 hname, hget, Option.getD_some]

theorem ofJson?_toJson : ofJson? r.toJson = some r :=
  ofJson?_object h fun _ _ => rfl

theorem ofJson?_array : ofJson? (.array (r.toFields.map Prod.snd)) = some r :=
  Json.record?_array (reads_fields h)

end Forms

/-- The records that can be decoded are those whose coordinates are finite and whose timestamps are
dates with a time; all other fields may have any value. A record that was decoded is written as an
object with the 23 names and no others. It is decoded again from that object, from any other that
has the same under these names, where null may as well be missing, and from the array of the
values. -/
theorem decoded_record_round_trip (r : AddressRecord) :
    ((∃ v, ofJson? v = some r) ↔ r.Storable) ∧
    ∀ v, ofJson? v = some r →
      ∃ fs : Keyed Json, r.toJson = .object fs ∧ fs.keys = fieldNames ∧
        ofJson? (.object fs) = some r ∧
        (∀ others : Keyed Json, (∀ name ∈ fieldNames,
            (Keyed.get? name others).getD .null = (Keyed.get? name fs).getD .null) →
          ofJson? (.object others) = some r) ∧
        ofJson? (.array (fs.map Prod.snd)) = some r := by
  refine ⟨⟨?_, ?_⟩, ?_⟩
  · rintro ⟨v, hv⟩
    exact storable_of_ofJson? hv
  · intro h
    exact ⟨r.toJson, ofJson?_toJson h⟩
  · intro v hv
    have h := storable_of_ofJson? hv
    exact ⟨r.toFields, rfl, keys_toFields r, ofJson?_toJson h, fun _ ho => ofJson?_object h ho,
      ofJson?_array h⟩

/-- A record without most of what it could have, last changed in the last nanosecond of a leap
second in a year of five digits. -/
def sparse : AddressRecord where
  id := 1
  elementId := -9223372036854775808
  siteId := 1
  fieldId := 3
  formatted := none
  raw := none
  name := none
  street1 := some ""
  street2 := none
  city := none
  state := none
  zip := none
  neighborhood := none
  county := none
  country := none
  countryCode := none
  placeId := none
  lat := some 41
  lng := none
  zoom := some (-1)
  dateCreated := ⟨2023, 11, 14, 22, 13, 20, 500000000⟩
  dateUpdated := ⟨12344, 2, 29, 23, 59, 60, 999999999⟩
  uid := "4f6a"

/-- Its fields in another order, with blanks and a tenth digit in a timestamp, without most of what
is absent and with a field of no record. -/
def scattered : Keyed Json :=
  [("uid", .string "4f6a"), ("owner", .bool true), ("zoom", .number (.int (-1))),
    ("dateUpdated", .string " +12344- 2-29T23:59:60.9999999991 "),
    ("dateCreated", .string "2023-11-14T22:13:20.5"), ("lat", .number (.int 41)), ("lng", .null),
    ("street1", .string ""), ("fieldId", .number (.int 3)), ("siteId", .number (.int 1)),
    ("elementId", .number (.int (-9223372036854775808))), ("id", .number (.int 1))]

theorem decoded_record_round_trip_scattered :
    ofJson? (.object scattered) = some sparse ∧ sparse.Storable ∧
      ofJson? sparse.toJson = some sparse ∧
      ofJson? (.array (sparse.toFields.map Prod.snd)) = some sparse := by
  have hv : ofJson? (.object scattered) = some sparse := by decide +kernel
  obtain ⟨hstorable, hround⟩ := decoded_record_round_trip sparse
  obtain ⟨fs, hfs, -, hobject, -, harray⟩ := hround _ hv
  cases hfs
  exact ⟨hv, hstorable.mp ⟨_, hv⟩, hobject, harray⟩

end AddressRecord

end Proximity
