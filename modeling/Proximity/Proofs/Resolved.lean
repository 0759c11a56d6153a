import Proximity.Geocode.Cache
import Proximity.Proofs.Account

/-!
# Resolved targets

All that a target and its lookup have to do with a search is a point and, where the fallback was
asked for, a filter. The search for that point with that filter adds the same to the query, and its
summary says the same, but for the mark of the configured location. So the ways in which a target
can fail to be found cannot be told apart.
-/

namespace Proximity

open Sql

variable {σ τ : Type}

namespace Geocoder

variable (g : Geocoder σ) (t : Target) (s : σ)

/-- The match of a target, behind the query that was sent for it. -/
def found : Option (GeocodeQuery × GeocodedAddress) :=
  t.query?.bind fun query =>
    match (g.lookup query s).1 with
    | .ok (some address) => some (query, address)
    | _ => none

/-- Where a target is: at its own coordinates or at those of its match. -/
def place : Option Coordinates :=
  t.literal?.or ((g.found t s).bind fun f => f.2.coords)

/-- The filter for the regions of a match, by the text of the query that was sent. -/
def narrowed : Option SubfieldFilter :=
  (g.found t s).bind fun f => f.2.narrowing f.1.address

/-- The target is not found: its lookup fails or has no match, or it cannot be looked up. -/
inductive Misses : Target → Prop
  | failed {t : Target} {query : GeocodeQuery} {e : Error} :
    t.query? = some query → (g.lookup query s).1 = .error e → Misses t
  | unmatched {t : Target} {query : GeocodeQuery} :
    t.query? = some query → (g.lookup query s).1 = .ok none → Misses t
  | blank {text : String} : Text.trim text = "" → Misses (.text text)
  | unsupported (value : Json) : Misses (.unsupported value)

variable {g t s}

theorem literal?_of_query? {query : GeocodeQuery} (h : t.query? = some query) :
    t.literal? = none := by
  cases t <;> simp [Target.query?] at h <;> rfl

/-- The text that a match is compared with is the text of the query that was sent. -/
theorem phrase_of_query? {query : GeocodeQuery} (h : t.query? = some query) :
    t.phrase = query.address := by
  cases t with
  | literal coords => cases h
  | text text =>
    simp only [Target.query?] at h
    split at h
    · cases h
    · cases h
      rfl
  | structured fields =>
    cases h
    rfl
  | unsupported value => cases h

theorem resolve_eq :
    (g.resolve t s).1 = ⟨g.place t s, (g.found t s).map Prod.snd⟩ := by
  rcases hq : t.query? with _ | query
  · simp [resolve, place, found, hq]
  · have hr : (g.resolve t s).1 = .ofAnswer (g.lookup query s).1 := by
      rw [resolve, hq]
    rw [hr, place, found, hq, literal?_of_query? hq, Option.bind_some, Option.none_or]
    rcases g.lookup query s with ⟨_ | _ | address, s'⟩ <;> rfl

theorem narrowed_eq :
    (g.resolve t s).1.address.bind (·.narrowing t.phrase) = g.narrowed t s := by
  rw [resolve_eq, narrowed]
  rcases hf : g.found t s with _ | ⟨query, address⟩
  · rfl
  · obtain ⟨query', hq, h⟩ := Option.bind_eq_some_iff.mp hf
    split at h
    · cases h
      rw [phrase_of_query? hq]
      rfl
    · cases h

theorem Misses.resolve (h : g.Misses s t) : (g.resolve t s).1 = {} := by
  have hf : g.found t s = none ∧ t.literal? = none := by
    cases h with
    | failed hq hl => exact ⟨by simp [found, hq, hl], literal?_of_query? hq⟩
    | unmatched hq hl => exact ⟨by simp [found, hq, hl], literal?_of_query? hq⟩
    | blank hb => exact ⟨by simp [found, Target.query?, hb], rfl⟩
    | unsupported value => exact ⟨rfl, rfl⟩
  rw [resolve_eq, place, hf.1, hf.2]
  rfl

end Geocoder

/-- The options with a point for the target and a filter, if there is one, for the fallback. -/
def SearchOptions.resolved (o : SearchOptions) (origin : Coordinates)
    (narrowed : Option SubfieldFilter) : SearchOptions :=
  { o with
    target := some (.literal origin)
    subfields :=
      match o.subfields, narrowed with
      | .fallback, some filter => .explicit filter
      | .fallback, none => .none
      | subfields, _ => subfields }

theorem SearchOptions.filter_resolved {o : SearchOptions} {t : Target} (ht : o.target = some t)
    (find find' : Target → Resolution) (origin : Coordinates) :
    (o.resolved origin ((find t).address.bind (·.narrowing t.phrase))).filter find' =
      o.filter find := by
  unfold filter resolved
  rcases o.subfields with _ | f | _
  · rfl
  · rfl
  · simp only [ht, Option.bind_some]
    rcases (find t).address.bind (·.narrowing t.phrase) with _ | f <;> rfl

namespace SearchConfig

variable (config : SearchConfig) (g : Geocoder σ) (field : AddressField) {o : SearchOptions}

theorem isEmpty_of_target {t : Target} (h : o.target = some t) : o.isEmpty = false := by
  simp [SearchOptions.isEmpty, h]

/-- The plan of a search by what is known of its target. -/
theorem planOf_eq (radius : Option LayoutField) (s : σ) :
    config.planOf g field o radius s =
      let n := o.normalizeWith config.range config.units
      { fieldId := field.id
        fieldHandle := field.handle
        units := n.units
        origin := o.target.map fun t => (g.resolve t s).1.coords.getD config.location.coords
        isDefault := o.target.any fun t => (g.resolve t s).1.coords.isNone
        range := n.range
        subfields := restriction config.subfields.whitelist (o.filter fun t => (g.resolve t s).1)
        requireCoords := o.requireCoords
        radius := radius } :=
  (SearchPlan.mk.injEq ..).mpr ⟨rfl, rfl, rfl, planOf_origin config g field radius s,
    planOf_isDefault config g field radius s, rfl, planOf_subfields config g field radius s, rfl,
    rfl⟩

/-- The plan of the search for the point is the plan of the search itself, but that the point is
not the configured one. -/
theorem planOf_resolved {t : Target} (ht : o.target = some t) (radius : Option LayoutField) (s : σ)
    (g' : Geocoder τ) (s' : τ) :
    config.planOf g' field
        (o.resolved ((g.place t s).getD config.location.coords) (g.narrowed t s)) radius s' =
      { config.planOf g field o radius s with isDefault := false } := by
  have hf := SearchOptions.filter_resolved ht (fun t => (g.resolve t s).1)
    (fun t => (g'.resolve t s').1) ((g.place t s).getD config.location.coords)
  rw [Geocoder.narrowed_eq] at hf
  rw [planOf_eq, planOf_eq, hf, ht]
  simp only [Option.map_some, Geocoder.resolve_eq]
  rfl

/-- A search whose target is not found is planned in one way, whatever its target is. -/
theorem planOf_of_misses {t t' : Target} (ht : o.target = some t) {s : σ} (hm : g.Misses s t)
    (radius : Option LayoutField) (g' : Geocoder τ) {s' : τ} (hm' : g'.Misses s' t') :
    config.planOf g' field { o with target := some t' } radius s' =
      config.planOf g field o radius s := by
  have hf : SearchOptions.filter { o with target := some t' } (fun t => (g'.resolve t s').1) =
      o.filter fun t => (g.resolve t s).1 := by
    unfold SearchOptions.filter
    simp only [ht, Option.bind_some, hm.resolve, hm'.resolve, Option.bind_none]
  rw [planOf_eq, planOf_eq, hf, ht]
  simp only [Option.map_some, Option.any_some, hm.resolve, hm'.resolve]
  rfl

variable {config g field}

/-- A search that succeeds carries out its plan. -/
theorem exists_planOf {c : CompiledSearch} {q : ElementQuery} {s : σ} (he : o.isEmpty = false)
    (h : (config.compile g field o q s).result = .ok c) :
    ∃ radius, radiusField field (o.normalizeWith config.range config.units) = .ok radius ∧
      c = (config.planOf g field o radius s).summary q.dialect ∧
      (config.compile g field o q s).query = (config.planOf g field o radius s).addTo q := by
  rcases hr : radiusField field (o.normalizeWith config.range config.units) with e | radius
  · rw [compile_of_error config g field he hr] at h
    cases h
  · rw [compile_of_ok config g field he hr] at h ⊢
    cases h
    exact ⟨radius, rfl, rfl, rfl⟩

variable (config g field)

/-- A search with a target adds to the query what the search for its place adds, with the filter
that its match stands for in the place of the fallback, and comes to the same summary but for the
mark of the configured location. The place is the target's own or that of its match, or else the
configured one. If the target is not found, the search comes out as that for any other target that
is not found. -/
theorem compile_resolved {t : Target} (ht : o.target = some t) {q : ElementQuery} {s : σ}
    {c : CompiledSearch} (h : (config.compile g field o q s).result = .ok c) :
    let out := config.compile g field o q s
    let origin := (g.place t s).getD config.location.coords
    c.origin = some origin ∧ (c.usedDefaultOrigin = true ↔ g.place t s = none) ∧
    (∀ (τ : Type) (g' : Geocoder τ) (s' : τ),
      config.compile g' field (o.resolved origin (g.narrowed t s)) q s' =
        ⟨.ok { c with usedDefaultOrigin := false }, out.query, s'⟩) ∧
    (g.Misses s t → ∀ (τ : Type) (g' : Geocoder τ) (t' : Target) (s' : τ), g'.Misses s' t' →
      let out' := config.compile g' field { o with target := some t' } q s'
      out'.result = out.result ∧ out'.query = out.query) := by
  intro out origin
  have he := isEmpty_of_target ht
  obtain ⟨radius, hr, hc, hq⟩ := exists_planOf he h
  refine ⟨?_, ?_, ?_, ?_⟩
  · rw [hc, SearchPlan.summary, planOf_origin, ht, Option.map_some, Geocoder.resolve_eq]
  · rw [hc, SearchPlan.summary, planOf_isDefault, ht, Option.any_some, Geocoder.resolve_eq,
      Option.isNone_iff_eq_none]
  · intro τ g' s'
    have hp := planOf_resolved config g field ht radius s g' s'
    have hout := compile_of_ok config g' field (o := o.resolved origin (g.narrowed t s))
      (isEmpty_of_target rfl) hr q s'
    rw [hout, hp, hc, hq]
    rfl
  · intro hm τ g' t' s' hm'
    have hp := planOf_of_misses config g field ht hm radius g' hm'
    have hout := compile_of_ok config g' field (o := { o with target := some t' })
      (isEmpty_of_target rfl) hr q s'
    rw [hout, hp, h, hq, hc]
    exact ⟨rfl, rfl⟩

/-- A county whose result has components but no place, asked for among the fields of an address. -/
def cookCounty : Json :=
  .object [("types", .array [.string "administrative_area_level_2"]),
    ("address_components", .array [
      .object [("long_name", .string "Cook County"), ("short_name", .string "Cook County"),
        ("types", .array [.string "administrative_area_level_2"])],
      .object [("long_name", .string "Illinois"), ("short_name", .string "IL"),
        ("types", .array [.string "administrative_area_level_1"])]])]

/-- The match of a county narrows the search, which goes out from the configured location for want
of a place; a target that is no text and a text of blanks come to the same. -/
theorem compile_resolved_county :
    let g := (Gazetteer.withResult {} "Cook County" cookCounty).geocoder
    let t : Target := .structured [("address", .string " cook COUNTY "), ("state", .string "IL")]
    let county := SubfieldFilter.empty.insert "county" (.scalar "Cook County")
    let field : AddressField := ⟨3, "address", fun _ => none⟩
    let q := ElementQuery.new .mysql
    (∃ c, (standard.compile g field { target := some t, subfields := .fallback } q []).result =
        .ok c ∧ c.usedDefaultOrigin = true ∧
      (standard.compile g field
        { target := some (.literal standard.location.coords), subfields := .explicit county }
        q []).result = .ok { c with usedDefaultOrigin := false }) ∧
    (standard.compile g field { target := some (.text "  ") } q []).query =
      (standard.compile g field { target := some (.unsupported (.bool true)) } q []).query := by
  intro g t county field q
  have hplace : g.place t [] = none := Option.isNone_iff_eq_none.mp (by decide +kernel)
  have hnarrowed : g.narrowed t [] = some county := by decide +kernel
  refine ⟨⟨_, rfl, ?_⟩, ?_⟩
  · obtain ⟨-, hd, hr, -⟩ := compile_resolved standard g field
      (o := { target := some t, subfields := .fallback }) rfl (q := q) (s := []) rfl
    have hr' := hr _ g []
    rw [hplace, hnarrowed] at hr'
    exact ⟨hd.mpr hplace, congrArg Outcome.result hr'⟩
  · obtain ⟨-, -, -, hm⟩ := compile_resolved standard g field
      (o := { target := some (.unsupported (.bool true)) }) rfl (q := q) (s := []) rfl
    exact (hm (.unsupported _) _ g (.text "  ") [] (.blank (by decide))).2

end SearchConfig

end Proximity
