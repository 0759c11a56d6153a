import Proximity.Proofs.Narrowing

/-!
# Blank regions

A region is in the filter as soon as it is there, be it empty, and a blank phrase is the phrase of
any region that is blank. So a filter asks for an empty text if a region is empty and no other
stands for the phrase instead (`filled_iff`), and a blank phrase may leave one blank region where
others say something (`complete_iff`). Neither happens where the components of a result have names
that are not blank: a region is a name of a component, or a name with a suffix (`present_named`).
-/

namespace Proximity

/-- Whether both names of a component say something. -/
def AddressComponent.isNamed (c : AddressComponent) : Bool :=
  !Text.blank c.longName && !Text.blank c.shortName

/-- A filter asks for texts that are not empty, and for a blank phrase it asks for every region
that is not empty. -/
structure SubfieldFilter.IsFilled (phrase : String) (regions : List (String × String))
    (f : SubfieldFilter) : Prop where
  filled : ∀ e ∈ f.entries, ∃ value, e.2 = .scalar value ∧ value ≠ ""
  complete : Text.blank phrase = true →
    ∀ e ∈ regions, e.2 ≠ "" → (e.1, .scalar e.2) ∈ f.entries

/-- Whether a part, if it is there, says something. -/
def Says (part : Option String) : Prop :=
  ∀ value, part = some value → Text.blank value = false

section Named

variable {cs : List AddressComponent}

theorem says_longName (hn : ∀ c ∈ cs, c.isNamed = true) (type : String) :
    Says (longName type cs) := by
  intro value h
  obtain ⟨c, hc, rfl⟩ := Option.map_eq_some_iff.mp h
  have hnamed := hn c (List.mem_of_find?_eq_some hc)
  simp only [AddressComponent.isNamed, Bool.and_eq_true, Bool.not_eq_true'] at hnamed
  exact hnamed.1

theorem says_shortName (hn : ∀ c ∈ cs, c.isNamed = true) (type : String) :
    Says (shortName type cs) := by
  intro value h
  obtain ⟨c, hc, rfl⟩ := Option.map_eq_some_iff.mp h
  have hnamed := hn c (List.mem_of_find?_eq_some hc)
  simp only [AddressComponent.isNamed, Bool.and_eq_true, Bool.not_eq_true'] at hnamed
  exact hnamed.2

theorem Says.orElse {part other : Option String} (h : Says part) (h' : Says other) :
    Says (part <|> other) := by
  rcases part with _ | value
  · exact h'
  · exact h

/-- A suffix does not make a code blank. -/
theorem Says.postalCode {code : Option String} (h : Says code) (suffix : Option String) :
    Says (postalCode code suffix) := by
  rintro value hv
  obtain ⟨code, rfl, rfl⟩ := Option.map_eq_some_iff.mp hv
  have hc := h code rfl
  rcases suffix with _ | suffix
  · exact hc
  · simp only [Text.blank, String.toList_append, List.all_append] at hc ⊢
    simp [hc]

theorem mem_present {p : AddressParts} {e : String × String} :
    e ∈ p.present ↔ (e.1, some e.2) ∈ p.regions := by
  unfold AddressParts.present presentRegions
  rw [List.mem_filterMap]
  constructor
  · rintro ⟨⟨subfield, value⟩, hm, h⟩
    obtain ⟨value, rfl, rfl⟩ := Option.map_eq_some_iff.mp h
    exact hm
  · exact fun hm => ⟨_, hm, rfl⟩

theorem present_named (hn : ∀ c ∈ cs, c.isNamed = true) (name : Option String) :
    ∀ e ∈ (partsOf name cs).present, Text.blank e.2 = false := by
  intro e he
  have hlong := says_longName hn
  have hshort := says_shortName hn
  rw [mem_present] at he
  simp only [AddressParts.regions, List.mem_cons, Prod.mk.injEq, List.not_mem_nil, or_false] at he
  rcases he with ⟨-, h⟩ | ⟨-, h⟩ | ⟨-, h⟩ | ⟨-, h⟩ | ⟨-, h⟩
  · exact ((hlong _).orElse ((hlong _).orElse (hlong _))) _ h.symm
  · exact hshort _ _ h.symm
  · exact (hlong _).postalCode _ _ h.symm
  · exact hlong _ _ h.symm
  · exact hlong _ _ h.symm

end Named

variable {phrase : String} {regions : List (String × String)}

/-- A blank phrase names the first region that is blank. -/
theorem firstNamed_of_blank (hp : Text.blank phrase = true) :
    firstNamed phrase regions = regions.find? fun e => Text.blank e.2 := by
  have hf : Text.fold phrase = "" := Text.fold_eq_empty_iff.mpr hp
  have he : ∀ value, (Text.fold value == "") = Text.blank value := by
    intro value
    rw [Bool.eq_iff_iff, beq_iff_eq, Text.fold_eq_empty_iff]
  simp only [firstNamed, hf, he]

theorem filled_ofRegions :
    (∀ e ∈ (SubfieldFilter.ofRegions regions).entries, ∃ value, e.2 = .scalar value ∧ value ≠ "") ↔
      ∀ e ∈ regions, e.2 ≠ "" := by
  rw [SubfieldFilter.ofRegions, List.forall_mem_map]
  simp only [SubfieldValue.scalar.injEq, exists_eq_left']

theorem filled_iff :
    (∀ e ∈ (SubfieldFilter.ofRegions ((firstNamed phrase regions).elim regions
        fun e => [e])).entries, ∃ value, e.2 = .scalar value ∧ value ≠ "") ↔
      (∀ e ∈ regions, e.2 ≠ "") ∨ ∃ e, firstNamed phrase regions = some e ∧ e.2 ≠ "" := by
  rw [filled_ofRegions]
  rcases hf : firstNamed phrase regions with _ | e
  · simp
  · have hm : e ∈ regions := List.mem_of_find?_eq_some hf
    simp only [Option.elim_some, List.mem_singleton, forall_eq, Option.some.injEq,
      exists_eq_left']
    exact ⟨.inr, fun h => h.elim (fun h => h e hm) id⟩

theorem complete_iff :
    (∀ e ∈ regions, e.2 ≠ "" → (e.1, SubfieldValue.scalar e.2) ∈
        (SubfieldFilter.ofRegions ((firstNamed phrase regions).elim regions
          fun e => [e])).entries) ↔
      ∀ b, firstNamed phrase regions = some b → ∀ e ∈ regions, e.2 ≠ "" → e = b := by
  rcases hf : firstNamed phrase regions with _ | b
  · simp only [Option.elim_none, reduceCtorEq, false_implies, implies_true, iff_true]
    exact fun e he _ => List.mem_map.mpr ⟨e, he, rfl⟩
  · simp [SubfieldFilter.ofRegions, Prod.ext_iff]

/-- The filter of a result asks for no empty text exactly if no region is empty, or the first that
is the phrase is not. For a blank phrase it asks for every region that is not empty exactly if the
first blank region, where there is one, is the only one of them. All is as it should be where the
components have names that are not blank. -/
theorem narrowing_filled_iff {fields : Keyed Json} {a : GeocodedAddress}
    (h : GeocodedAddress.ofResult (.object fields) = .ok a) {phrase : String} {f : SubfieldFilter}
    (hf : a.narrowing phrase = some f) :
    let regions := (restructure (.object fields)).present
    ((∀ e ∈ f.entries, ∃ value, e.2 = .scalar value ∧ value ≠ "") ↔
      (∀ e ∈ regions, e.2 ≠ "") ∨ ∃ e, firstNamed phrase regions = some e ∧ e.2 ≠ "") ∧
    (Text.blank phrase = true →
      ((∀ e ∈ regions, e.2 ≠ "" → (e.1, .scalar e.2) ∈ f.entries) ↔
        ∀ b, (regions.find? fun e => Text.blank e.2) = some b →
          ∀ e ∈ regions, e.2 ≠ "" → e = b)) ∧
    ((∀ c ∈ components (.object fields), c.isNamed = true) → f.IsFilled phrase regions) := by
  intro regions
  rw [narrowing_eq_some h hf]
  refine ⟨filled_iff, fun hp => ?_, fun hn => ?_⟩
  · rw [← firstNamed_of_blank hp]
    exact complete_iff
  · have hb : ∀ e ∈ regions, Text.blank e.2 = false := present_named hn _
    refine ⟨filled_iff.mpr (.inl ?_), fun hp => complete_iff.mpr ?_⟩
    · rintro e he h
      have := hb e he
      rw [h] at this
      cases this
    · intro b hfirst
      rw [firstNamed_of_blank hp] at hfirst
      have := hb b (List.mem_of_find?_eq_some hfirst)
      rw [List.find?_some hfirst] at this
      cases this

/-- A city without a name in a country. -/
def unnamedCity : Keyed Json :=
  [("address_components", .array [
    .object [("long_name", .string ""), ("short_name", .string ""),
      ("types", .array [.string "locality"])],
    .object [("long_name", .string "United States"), ("short_name", .string "US"),
      ("types", .array [.string "country"])]])]

/-- Where the city has no name, a text that is no region asks for the empty city with the country,
and a blank one for the empty city alone; in Illinois all names say something. -/
theorem narrowing_filled_iff_unnamedCity :
    let regions := [("city", ""), ("country", "United States")]
    let all := SubfieldFilter.ofRegions regions
    let city := SubfieldFilter.ofRegions [("city", "")]
    (∃ a, GeocodedAddress.ofResult (.object unnamedCity) = .ok a ∧
      a.narrowing "somewhere" = some all ∧
        (¬ ∀ e ∈ all.entries, ∃ value, e.2 = .scalar value ∧ value ≠ "") ∧
      a.narrowing " " = some city ∧
        ¬ ∀ e ∈ regions, e.2 ≠ "" → (e.1, .scalar e.2) ∈ city.entries) ∧
    ∃ a f, GeocodedAddress.ofResult (.object illinois) = .ok a ∧
      a.narrowing "" = some f ∧ f.IsFilled "" (restructure (.object illinois)).present := by
  intro regions all city
  refine ⟨⟨_, rfl, ?_⟩, _, .ofRegions (restructure (.object illinois)).present, rfl, ?_⟩
  · have h : GeocodedAddress.ofResult (.object unnamedCity) = .ok _ := rfl
    obtain ⟨hall, -⟩ := narrowing_filled_iff h
      (show GeocodedAddress.narrowing "somewhere" _ = some all by decide +kernel)
    obtain ⟨-, hcity, -⟩ := narrowing_filled_iff h
      (show GeocodedAddress.narrowing " " _ = some city by decide +kernel)
    refine ⟨by decide +kernel, fun hf => ?_, by decide +kernel, fun hc => ?_⟩
    · rcases hall.mp hf with hn | ⟨e, he, -⟩
      · exact hn ("city", "") (by decide +kernel) rfl
      · have hnone : firstNamed "somewhere" regions = none := by decide +kernel
        cases hnone.symm.trans he
    · have hne := (hcity (by decide)).mp hc ("city", "") (by decide +kernel)
        ("country", "United States") (by decide +kernel) (by decide)
      exact absurd hne (by decide)
  · have h : GeocodedAddress.ofResult (.object illinois) = .ok _ := rfl
    obtain ⟨-, -, hf⟩ := narrowing_filled_iff h
      (show GeocodedAddress.narrowing "" _ =
        some (.ofRegions (restructure (.object illinois)).present) by decide +kernel)
    exact ⟨by decide +kernel, hf (by decide +kernel)⟩

/-- It is not so that the filter of a result is always filled. -/
theorem not_narrowing_filled :
    ¬ ∀ (fields : Keyed Json) (a : GeocodedAddress),
      GeocodedAddress.ofResult (.object fields) = .ok a →
        ∀ (phrase : String) (f : SubfieldFilter), a.narrowing phrase = some f →
          f.IsFilled phrase (restructure (.object fields)).present := by
  intro h
  have hcity := h unnamedCity _ rfl "" (.ofRegions [("city", "")]) (by decide +kernel)
  obtain ⟨value, hv, hne⟩ := hcity.filled ("city", .scalar "") List.mem_cons_self
  cases hv
  exact hne rfl

end Proximity
