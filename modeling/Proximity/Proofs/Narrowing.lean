import Proximity.Search.Narrowing

/-!
# The regions that a search is narrowed to

The regions of a match are gone through once, and what was added to the filter before a region that
is the target's phrase is given up for that region. So the filter is the first such region alone,
or else every region that is there (`regionFilter_eq`); it is empty only if none is there. What
else keeps a match from narrowing a search is read off the result that it came of
(`isFocused_iff`).
-/

namespace Proximity

/-- The regions that are there, in their order. -/
def presentRegions (regions : List (String × Option String)) : List (String × String) :=
  regions.filterMap fun (subfield, value) => value.map fun v => (subfield, v)

/-- The regions of an address that are there. -/
def AddressParts.present (p : AddressParts) : List (String × String) :=
  presentRegions p.regions

/-- The filter that asks for each of the regions. -/
def SubfieldFilter.ofRegions (regions : List (String × String)) : SubfieldFilter :=
  ⟨regions.map fun e => (e.1, .scalar e.2)⟩

/-- The first of the regions that is the phrase. -/
def firstNamed (phrase : String) (regions : List (String × String)) : Option (String × String) :=
  regions.find? fun e => Text.fold e.2 == Text.fold phrase

variable {phrase : String}

theorem firstNamed_cons_of_eq {e : String × String} (h : Text.fold e.2 = Text.fold phrase)
    (regions : List (String × String)) : firstNamed phrase (e :: regions) = some e :=
  List.find?_cons_of_pos (by simpa using h)

theorem firstNamed_cons_of_ne {e : String × String} (h : Text.fold e.2 ≠ Text.fold phrase)
    (regions : List (String × String)) :
    firstNamed phrase (e :: regions) = firstNamed phrase regions :=
  List.find?_cons_of_neg (by simpa using h)

/-- What is added to a filter before a region is the phrase is given up for that region; without
such a region everything is kept. -/
theorem regionFilter_eq (phrase : String) : ∀ (regions : List (String × Option String))
    (f : SubfieldFilter), (f.entries.keys ++ regions.map Prod.fst).Nodup →
      regionFilter phrase regions f =
        match firstNamed phrase (presentRegions regions) with
        | some e => .ofRegions [e]
        | none => ⟨f.entries ++ (SubfieldFilter.ofRegions (presentRegions regions)).entries⟩
  | [], f, _ => by simp [regionFilter, presentRegions, firstNamed, SubfieldFilter.ofRegions]
  | (subfield, none) :: regions, f, hn => by
    have hs : (f.entries.keys ++ regions.map Prod.fst).Sublist
        (f.entries.keys ++ ((subfield, none) :: regions).map Prod.fst) :=
      (List.sublist_cons_self _ _).append_left _
    exact regionFilter_eq phrase regions f (hn.sublist hs)
  | (subfield, some value) :: regions, f, hn => by
    have hp : presentRegions ((subfield, some value) :: regions) =
        (subfield, value) :: presentRegions regions := rfl
    rw [hp, regionFilter]
    split
    · rename_i h
      rw [firstNamed_cons_of_eq (e := (subfield, value)) h]
      rfl
    · rename_i h
      rw [firstNamed_cons_of_ne (e := (subfield, value)) h]
      -- the subfield is none of those before it, so that its value goes behind them
      obtain ⟨-, -, hd⟩ := List.nodup_append.mp hn
      have hmem : subfield ∉ f.entries.keys := fun hm => hd subfield hm subfield (by simp) rfl
      have hset : (f.insert subfield (.scalar value)).entries =
          f.entries ++ [(subfield, .scalar value)] := Keyed.set_of_not_mem hmem _
      have hn' : ((f.insert subfield (.scalar value)).entries.keys ++
          regions.map Prod.fst).Nodup := by
        rw [hset]
        simpa [Keyed.keys] using hn
      rw [regionFilter_eq phrase regions _ hn', hset]
      rcases firstNamed phrase (presentRegions regions) with _ | e
      · simp [SubfieldFilter.ofRegions]
      · rfl

theorem nodup_subfields (p : AddressParts) : (p.regions.map Prod.fst).Nodup := by
  simp [AddressParts.regions]

/-- The filter for the regions of an address: the first that the phrase names, or all of them. -/
theorem regionFilter_regions (phrase : String) (p : AddressParts) :
    regionFilter phrase p.regions .empty =
      .ofRegions ((firstNamed phrase p.present).elim p.present fun e => [e]) := by
  have h := regionFilter_eq phrase p.regions .empty (nodup_subfields p)
  rw [h, AddressParts.present]
  rcases firstNamed phrase (presentRegions p.regions) with _ | e <;> rfl

variable {raw : Json} {a : GeocodedAddress}

theorem ofResult_eq_ok (h : GeocodedAddress.ofResult raw = .ok a) :
    a.raw = raw ∧ a.parts = restructure raw ∧
      a.types = ((raw.getArray? "types").getD []).filterMap Json.string? := by
  unfold GeocodedAddress.ofResult at h
  split at h
  · cases h
    exact ⟨rfl, rfl, rfl⟩
  · cases h

theorem narrowing_eq_some (h : GeocodedAddress.ofResult raw = .ok a) {f : SubfieldFilter}
    (hf : a.narrowing phrase = some f) :
    f = .ofRegions ((firstNamed phrase (restructure raw).present).elim
      (restructure raw).present fun e => [e]) := by
  rw [GeocodedAddress.narrowing, (ofResult_eq_ok h).1] at hf
  rw [← regionFilter_regions]
  split at hf
  · cases hf
  · simp only [] at hf
    split at hf
    · cases hf
    · exact (Option.some.inj hf).symm

/-- A state whose components include no entry that could be its city: one entry is none at all,
the postal code stands in an array, and its suffix before it. -/
def illinois : Keyed Json :=
  [("types", .array [.null, .string "administrative_area_level_1", .string "locality"]),
    ("address_components", .array [
      .string "Chicago",
      .object [("long_name", .string "6306"), ("short_name", .string "6306"),
        ("types", .array [.string "postal_code_suffix"])],
      .object [("long_name", .string "United States"), ("short_name", .string "US"),
        ("types", .array [.string "country"])],
      .array [.string "60606", .string "60606", .array [.string "postal_code"]],
      .object [("long_name", .string "Illinois"), ("short_name", .string "IL"),
        ("types", .array [.string "administrative_area_level_1"])]])]

end Proximity
