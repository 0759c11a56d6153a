import Proximity.Proofs.SearchText
import Proximity.Geocode.Session

/-!
# Finite numbers

A text can read as a number that is none, or as one beyond all others, and every text that reads as
a number is taken for one: in the environment, in the options and in what a geocoder answers. So
numbers are tested where they come in. A place is taken as options or a geocoder give it if both its
coordinates are finite, a configured one if they lie within bounds, and a range if it is finite and
positive. All numbers of a search are those of the place that distances are measured from and the
range (`literal_addTo`, `leaves_planOf`), hence finite (`compile_finite`).
-/

namespace Proximity

open Sql

theorem unpacked_isFinite_of_le {x l u : Float.Model.UnpackedFloat} (hl : l.isFinite = true)
    (hu : u.isFinite = true) (hlx : l.le x = true) (hxu : x.le u = true) : x.isFinite = true := by
  cases x with
  | zero | finite => rfl
  -- what is no number compares with nothing
  | notANumber => cases u <;> cases hxu
  | infinity sign =>
    cases sign with
    | positive =>
      cases u with
      | infinity => cases hu
      | notANumber | zero | finite => cases hxu
    | negative =>
      cases l with
      | infinity => cases hl
      | notANumber | zero | finite => cases hlx

/-- What lies between finite numbers is finite. -/
theorem SearchConfig.isFinite_of_between {least greatest x : Float} (hl : least.isFinite = true)
    (hg : greatest.isFinite = true) (h : between least greatest x = true) : x.isFinite = true := by
  simp only [between, Bool.and_eq_true, decide_eq_true_eq] at h
  have h₁ : least.toModel.unpack.le x.toModel.unpack = true := of_decide_eq_true h.1
  have h₂ : x.toModel.unpack.le greatest.toModel.unpack = true := of_decide_eq_true h.2
  exact unpacked_isFinite_of_le hl hg h₁ h₂

/-- Both coordinates are finite. -/
structure Coordinates.Finite (c : Coordinates) : Prop where
  lat : c.lat.isFinite = true
  lng : c.lng.isFinite = true

theorem Json.isFinite_of_finite? {v : Json} {x : Float} (h : v.finite? = some x) :
    x.isFinite = true := by
  cases v with
  | number n =>
    obtain ⟨hx, h⟩ := Option.ite_none_right_eq_some.mp h
    cases h
    exact hx
  | string s =>
    simp only [finite?] at h
    split at h
    · obtain ⟨hx, h⟩ := Option.ite_none_right_eq_some.mp h
      cases h
      exact hx
    · cases h
  | null | bool | array | object => cases h

theorem Coordinates.finite_of_ofFields? {fields : Keyed Json} {c : Coordinates}
    (h : ofFields? fields = some c) : c.Finite := by
  simp only [ofFields?, Option.bind_eq_bind, Option.bind_eq_some_iff] at h
  obtain ⟨lat, ⟨v, -, hlat⟩, lng, ⟨w, -, hlng⟩, h⟩ := h
  cases h
  exact ⟨Json.isFinite_of_finite? hlat, Json.isFinite_of_finite? hlng⟩

theorem Target.finite_of_ofJson? {v : Json} {c : Coordinates}
    (h : ofJson? v = some (.literal c)) : c.Finite := by
  unfold ofJson? at h
  split at h
  case h_3 fields hne =>
    split at h
    · rename_i hc
      cases h
      exact Coordinates.finite_of_ofFields? hc
    · cases h
  all_goals first | cases h | (split at h <;> cases h)

/-- Coordinates that options give as their target are finite. -/
theorem SearchOptions.target_finite {v : Json} {o : SearchOptions} (h : ofJson v = .ok o)
    {c : Coordinates} (hc : o.target = some (.literal c)) : c.Finite := by
  cases v with
  | object fields =>
    cases h
    obtain ⟨w, -, hw⟩ := Option.bind_eq_some_iff.mp hc
    exact Target.finite_of_ofJson? hw
  | null =>
    cases h
    cases hc
  | bool | number | string | array => cases h

theorem SearchOptions.validRange_normalizeWith (o : SearchOptions) {defaultRange : Float}
    (h : validRange defaultRange = true) (units : Units) :
    validRange (o.normalizeWith defaultRange units).range = true := by
  simp only [normalizeWith]
  split
  · split
    · assumption
    · exact h
  · exact h

namespace SearchConfig

/-- The place and the range that a search falls back to can be searched with. -/
structure Usable (config : SearchConfig) : Prop where
  coords : config.location.coords.Finite
  range : SearchOptions.validRange config.range = true

theorem setting_of {α : Type} {P : α → Prop} {read : String → Option α} {default : α}
    (hd : P default) (hr : ∀ s a, read s = some a → P a) (env : Environment) (name : String) :
    P (setting env name read default) := by
  unfold setting
  rcases h : ((env name).map Text.trim).bind read with _ | a
  · exact hd
  · obtain ⟨s, -, hs⟩ := Option.bind_eq_some_iff.mp h
    exact hr s a hs

theorem valid_of_readFloat? {valid : Float → Bool} {s : String} {x : Float}
    (h : readFloat? valid s = some x) : valid x = true := by
  unfold readFloat? at h
  split at h
  · obtain ⟨hx, h⟩ := Option.ite_none_right_eq_some.mp h
    cases h
    exact hx
  · cases h

/-- Whatever the environment holds, what it sets can be used, and so can the defaults. -/
theorem usable_ofEnvironment (env : Environment) : (ofEnvironment env).Usable where
  coords.lat :=
    setting_of (P := fun x : Float => x.isFinite = true) (by decide +kernel)
      (fun _ _ h => isFinite_of_between (by decide +kernel) (by decide +kernel)
        (valid_of_readFloat? h)) _ _
  coords.lng :=
    setting_of (P := fun x : Float => x.isFinite = true) (by decide +kernel)
      (fun _ _ h => isFinite_of_between (by decide +kernel) (by decide +kernel)
        (valid_of_readFloat? h)) _ _
  range :=
    setting_of (P := fun x => SearchOptions.validRange x = true) (by decide +kernel)
      (fun _ _ h => valid_of_readFloat? h) _ _

end SearchConfig

/-- The coordinates of a match, if it has any, are finite. -/
def Placed (a : Option GeocodedAddress) : Prop :=
  ∀ address ∈ a, ∀ c ∈ address.coords, c.Finite

/-- Every answer that is no error is of a kind. -/
def Geocoder.Answers {σ : Type} (g : Geocoder σ) (P : Option GeocodedAddress → Prop) : Prop :=
  ∀ q s a, (g.lookup q s).1 = .ok a → P a

/-- Every answer that is kept is of a kind. -/
def Cache.KeepsOnly (c : Cache) (P : Option GeocodedAddress → Prop) : Prop :=
  ∀ e ∈ c.entries, P e.2

theorem placeOf_finite {raw : Json} {c : Coordinates} (h : placeOf raw = some c) : c.Finite := by
  obtain ⟨fields, -, hc⟩ := Option.bind_eq_some_iff.mp h
  exact Coordinates.finite_of_ofFields? hc

/-- Whatever results a gazetteer holds, the coordinates that it answers with are finite. -/
theorem Gazetteer.answers_placed (g : Gazetteer) : g.geocoder.Answers Placed := by
  intro q s a h address ha c hc
  have h : g.answer q = .ok a := h
  unfold answer at h
  split at h
  · cases h
  · split at h
    · rename_i raw hraw
      cases raw <;> cases h
      cases ha
      exact placeOf_finite hc
    · cases h
      cases ha

section Kept

variable {σ : Type} {g : Geocoder σ} {P : Option GeocodedAddress → Prop} {c : Cache}

/-- An answer that is kept was given once. -/
theorem Cache.KeepsOnly.lookup (hg : g.Answers P) (h : c.KeepsOnly P) (q : GeocodeQuery) (s : σ) :
    let out := g.cached.lookup q (c, s)
    (∀ a, out.1 = .ok a → P a) ∧ out.2.1.KeepsOnly P := by
  intro out
  have hout : out = g.cached.lookup q (c, s) := rfl
  rcases hk : Keyed.get? q.cacheKey c.entries with _ | a
  · rcases hl : g.lookup q s with ⟨e | a, t⟩
    · rw [hout, Geocoder.cached_failure hk hl]
      exact ⟨(fun _ ha => nomatch ha), h⟩
    · have ha : P a := hg q s a (by rw [hl])
      rw [hout, Geocoder.cached_miss hk hl]
      refine ⟨fun b hb => by cases hb; exact ha, fun e he => ?_⟩
      exact Cache.forall_in_front h ha e (List.mem_of_mem_take he)
  · have ha : P a := h _ (Keyed.mem_of_get? hk)
    rw [hout, Geocoder.cached_hit hk]
    exact ⟨fun b hb => by cases hb; exact ha, Cache.forall_in_front h ha⟩

theorem CacheStep.keepsOnly_runAll (hg : g.Answers P) : ∀ (steps : List CacheStep) {c : Cache}
    (s : σ), c.KeepsOnly P → (CacheStep.runAll g steps (c, s)).2.1.KeepsOnly P
  | [], _, _, h => h
  | .lookup q :: steps, _, s, h => CacheStep.keepsOnly_runAll hg steps _ (h.lookup hg q s).2
  | .clear :: steps, _, s, _ =>
    CacheStep.keepsOnly_runAll hg steps s fun _ he => absurd he List.not_mem_nil

end Kept

/-! ## Numbers in a query -/

namespace Sql

variable {e : Expr} {x : Float}

/-- A number that stands in a reference to a computed column stands in the column's expression. -/
theorem literal_aliasReference {d : Dialect} {a : Aliased}
    (h : Expr.float x ∈ (d.aliasReference a).parts) : Expr.float x ∈ a.expr.parts := by
  rcases d with _ | _
  · simp [Dialect.aliasReference, Dialect.aliasPlacement, Expr.parts] at h
  · exact Expr.mem_parts_grouped h fun _ => by simp

theorem literal_distance {units : Units} {origin : Coordinates} {lat lng : Column}
    (h : Expr.float x ∈ (Sql.distance units origin lat lng).parts) :
    x = origin.lat ∨ x = origin.lng := by
  have h : x = origin.lat ∨ x = origin.lng ∨ x = origin.lat := by
    simpa [Sql.distance, cosAngle, Expr.times, Expr.apply, Expr.parts, Expr.partsAll] using h
  rcases h with h | h | h
  · exact .inl h
  · exact .inr h
  · exact .inl h

end Sql

namespace SearchPlan

variable {p : SearchPlan} {x : Float}

/-- A coordinate of the point that distances are measured from. -/
def Measures (p : SearchPlan) (x : Float) : Prop :=
  ∃ origin, p.origin = some origin ∧ (x = origin.lat ∨ x = origin.lng)

theorem measures_of_distance (h : Expr.float x ∈ p.distance.expr.parts) : p.Measures x := by
  unfold distance at h
  rcases ho : p.origin with _ | origin <;> simp only [ho] at h
  · simp [Expr.parts] at h
  · exact ⟨origin, ho, literal_distance h⟩

theorem measures_of_conditions (hs : ∀ s ∈ p.subfields, Expr.float x ∉ s.2.parts) (d : Dialect)
    {c : AttachedCondition} (hc : c ∈ p.conditions d) (h : Expr.float x ∈ c.condition.parts) :
    p.Measures x := by
  simp only [conditions, List.mem_append] at hc
  rcases hc with ((hc | hc) | hc) | hc
  · rw [rangeConditions_eq] at hc
    split at hc
    · cases List.mem_singleton.mp hc
      rcases List.mem_append.mp h with h | h
      · exact measures_of_distance (literal_aliasReference h)
      · cases List.mem_singleton.mp h
    · cases hc
  · obtain ⟨s, hs', rfl⟩ := Option.map_eq_some_iff.mp (Option.mem_toList.mp hc)
    exact absurd h (hs s hs')
  · unfold coordsConditions at hc
    split at hc
    · cases List.mem_singleton.mp hc
      simp [Draft.coordsPresent, Condition.any, Condition.parts, Condition.partsAll, Expr.parts]
        at h
    · cases hc
  · obtain ⟨f, -, rfl⟩ := Option.map_eq_some_iff.mp (Option.mem_toList.mp hc)
    rcases List.mem_append.mp h with h | h
    · exact measures_of_distance (literal_aliasReference h)
    · cases List.mem_singleton.mp (literal_aliasReference h)

theorem literal_notMem_shown {e : Projection} (he : e ∈ p.shown) : Expr.float x ∉ e.parts := by
  unfold shown at he
  split at he
  · cases List.mem_singleton.mp he
    exact fun h => nomatch List.mem_singleton.mp h
  · cases he

theorem literal_notMem_radiusColumns {e : Projection} (he : e ∈ p.radiusColumns) :
    Expr.float x ∉ e.parts := by
  unfold radiusColumns at he
  split at he
  · simp only [List.mem_cons, List.not_mem_nil, or_false] at he
    rcases he with rfl | rfl <;> exact fun h => nomatch List.mem_singleton.mp h
  · cases he

theorem literal_notMem_addressJoin (fieldId : Int) :
    Expr.float x ∉ (addressJoin fieldId).parts := by
  simp [addressJoin, addressCondition, Join.parts, Condition.all, Condition.parts,
    Condition.partsAll, Expr.eq, Expr.parts]

/-- The numbers that a plan writes into a query are coordinates of the point that it measures
from. -/
theorem literal_addTo (hs : ∀ s ∈ p.subfields, Expr.float x ∉ s.2.parts) (d : Dialect)
    (h : Expr.float x ∈ (p.addTo (.new d)).parts) : p.Measures x := by
  simp only [ElementQuery.parts, List.mem_append, List.mem_flatMap] at h
  rcases h with (((⟨e, he, h⟩ | ⟨e, he, h⟩) | ⟨j, hj, h⟩) | ⟨c, hc, h⟩) | ⟨c, hc, h⟩
  · exact absurd h (literal_notMem_shown he)
  · have he : e ∈ [⟨.column (.of elementsTable "id"), none⟩,
        ⟨.column (.of sitesTable "siteId"), none⟩] ++ p.distance.projection :: p.radiusColumns := he
    simp only [List.cons_append, List.nil_append, List.mem_cons] at he
    rcases he with rfl | rfl | rfl | he
    · cases List.mem_singleton.mp h
    · cases List.mem_singleton.mp h
    · exact measures_of_distance h
    · exact absurd h (literal_notMem_radiusColumns he)
  · cases List.mem_singleton.mp hj
    exact absurd h (literal_notMem_addressJoin _)
  · rcases List.mem_append.mp hc with hc | hc
    · cases hc
    · exact measures_of_conditions hs d (mem_inClause.mp hc) h
  · rcases List.mem_append.mp hc with hc | hc
    · cases hc
    · exact measures_of_conditions hs d (mem_inClause.mp hc) h

end SearchPlan

/-! ## Searches -/

/-- Every number that stands in a query is finite, and those that are bound are the range. -/
structure Sql.ElementQuery.Finite (q : ElementQuery) (range : Float) : Prop where
  literal : ∀ x, Expr.float x ∈ q.parts → x.isFinite = true
  bound : ∀ x, Expr.param (.float x) ∈ q.parts → x = range

theorem Sql.ElementQuery.finite_new (d : Dialect) (range : Float) :
    (ElementQuery.new d).Finite range where
  literal x h := by
    simp [parts, new, Projection.parts, Expr.parts] at h
  bound x h := by
    simp [parts, new, Projection.parts, Expr.parts] at h

/-- The coordinates of a target are finite if its own are and those that the geocoder answers
with. -/
theorem Geocoder.resolve_finite {σ : Type} {g : Geocoder σ} {s : σ} {t : Target}
    (ht : ∀ c, t = .literal c → c.Finite)
    (hg : ∀ q a, (g.lookup q s).1 = .ok a → Placed a) :
    ∀ c ∈ (g.resolve t s).1.coords, c.Finite := by
  intro c hc
  rw [resolve_eq] at hc
  rcases Option.or_eq_some_iff.mp hc with hc | ⟨-, hc⟩
  · cases t <;> cases hc
    exact ht c rfl
  · obtain ⟨⟨q, address⟩, hf, hc⟩ := Option.bind_eq_some_iff.mp hc
    obtain ⟨q', -, h⟩ := Option.bind_eq_some_iff.mp hf
    split at h
    · rename_i hl
      cases h
      exact hg _ _ hl _ rfl c hc
    · cases h

namespace SearchConfig

variable {σ : Type} {config : SearchConfig} {g : Geocoder σ} {field : AddressField}
  {o : SearchOptions} {s : σ}

theorem literal_notMem_restriction {whitelist : List String} {filter : Option SubfieldFilter}
    {r : SubfieldFilter × Condition} (h : r ∈ restriction whitelist filter) (x : Float) :
    Expr.float x ∉ r.2.parts := by
  intro hx
  have hr := restriction_snd_eq whitelist filter
  rw [h] at hr
  rcases mem_parts_entries hr.symm hx with ⟨entry, -, h⟩ | ⟨value, h⟩ <;> cases h

theorem finite_of_measures (hconfig : config.Usable)
    (ho : ∀ c, o.target = some (.literal c) → c.Finite)
    (hg : ∀ q a, (g.lookup q s).1 = .ok a → Placed a) {radius : Option LayoutField} {x : Float}
    (hx : (config.planOf g field o radius s).Measures x) : x.isFinite = true := by
  obtain ⟨origin, horigin, hx⟩ := hx
  rw [planOf_origin] at horigin
  obtain ⟨t, ht, rfl⟩ := Option.map_eq_some_iff.mp horigin
  have hf : ((g.resolve t s).1.coords.getD config.location.coords).Finite := by
    have hr := Geocoder.resolve_finite (fun c hc => ho c (hc ▸ ht)) hg (t := t)
    rcases hc : (g.resolve t s).1.coords with _ | c
    · exact hconfig.coords
    · exact hr c hc
  rcases hx with rfl | rfl
  · exact hf.lat
  · exact hf.lng

theorem mem_boundRange {d : Dialect} {placement : Placement} {x : Float}
    (h : Param.float x ∈ config.boundRange o d placement) :
    x = (o.normalizeWith config.range config.units).range := by
  unfold boundRange at h
  split at h
  · cases List.mem_singleton.mp h
    rfl
  · cases h

theorem float_notMem_bound {x : Float} (entries : Keyed SubfieldValue) :
    Param.float x ∉ SubfieldFilter.bound entries := by
  intro h
  obtain ⟨e, -, h⟩ := List.mem_flatMap.mp h
  obtain ⟨value, -, h⟩ := List.mem_map.mp h
  cases h

/-- A search adds finite numbers to a query if all that it starts from is finite. -/
theorem finite_compile (hconfig : config.Usable)
    (ho : ∀ c, o.target = some (.literal c) → c.Finite)
    (hg : ∀ q a, (g.lookup q s).1 = .ok a → Placed a) (field : AddressField) (d : Dialect) :
    (config.compile g field o (.new d) s).query.Finite
      (o.normalizeWith config.range config.units).range := by
  rcases he : o.isEmpty with _ | _
  · rcases hr : radiusField field (o.normalizeWith config.range config.units) with e | radius
    · rw [compile_of_error config g field he hr]
      exact ElementQuery.finite_new d _
    · rw [compile_of_ok config g field he hr]
      refine ⟨fun x hx => ?_, fun x hx => ?_⟩
      · refine finite_of_measures hconfig ho hg (SearchPlan.literal_addTo (fun r hr' => ?_) d hx)
        rw [planOf_subfields] at hr'
        exact literal_notMem_restriction hr' x
      · have hx := (ElementQuery.param_mem_parts _).mp hx
        rw [leaves_planOf config field g s hr] at hx
        simp only [ElementQuery.new, Projection.leaves, Expr.leaves, List.flatMap_nil,
          List.flatMap_cons, List.nil_append, List.mem_append, List.mem_singleton, reduceCtorEq,
          false_or, float_notMem_bound, or_false] at hx
        rcases hx with hx | hx <;> exact mem_boundRange hx
  · rw [compile_of_isEmpty config g field he]
    exact ElementQuery.finite_new d _

/-- No number that is none, and none beyond all others, comes into a query, whatever the environment
and the options hold and whatever results a gazetteer answers with, by itself or from what it
answered through a cache before. All numbers that are written into a query are finite; the only one
that is bound is the range, which is finite and positive. -/
theorem compile_finite (env : Environment) {v : Json} {o : SearchOptions}
    (hv : SearchOptions.ofJson v = .ok o) (gazetteer : Gazetteer) (field : AddressField)
    (d : Dialect) :
    let config := ofEnvironment env
    let g := gazetteer.geocoder
    let range := (o.normalizeWith config.range config.units).range
    (range.isFinite = true ∧ 0 < range) ∧
    (∀ calls, (config.compile g field o (.new d) calls).query.Finite range) ∧
    ∀ (n : Nat) (steps : List CacheStep) (calls : List GeocodeQuery),
      let s := (CacheStep.runAll g steps (.empty n, calls)).2
      (config.compile g.cached field o (.new d) s).query.Finite range := by
  intro config g range
  have hconfig : config.Usable := usable_ofEnvironment env
  have ho : ∀ c, o.target = some (.literal c) → c.Finite := fun c => SearchOptions.target_finite hv
  have hg : g.Answers Placed := gazetteer.answers_placed
  refine ⟨?_, fun calls => ?_, ?_⟩
  · have hr : SearchOptions.validRange range = true := o.validRange_normalizeWith hconfig.range _
    simpa [SearchOptions.validRange] using hr
  · exact finite_compile hconfig ho (fun q a => hg q calls a) field d
  · intro n steps calls s
    have hc : s.1.KeepsOnly Placed :=
      CacheStep.keepsOnly_runAll hg steps calls fun _ he => absurd he List.not_mem_nil
    exact finite_compile hconfig ho (fun q a => (hc.lookup hg q s.2).1 a) field d

/-- Texts that read as no number or as an infinite one, in the environment, in the options and in a
result that a cache has kept: the search goes out from the standard location with the standard
range. -/
theorem compile_finite_of_infinite :
    let env : Environment := fun name =>
      if name = rangeVariable then some "1e999"
      else if name = latVariable then some "NaN"
      else if name = lngVariable then some "-inf" else none
    let fields : Keyed Json := [("target", .string "Chicago"), ("range", .string " Infinity")]
    let location : Json := .object [("lat", .string "nan"), ("lng", .string "1e309")]
    let gazetteer := Gazetteer.withResult {} "Chicago"
      (.object [("geometry", .object [("location", location)])])
    let field : AddressField := ⟨7, "address", fun _ => none⟩
    let kept := (CacheStep.runAll gazetteer.geocoder [.lookup (.text "chicago")] (.empty 1, [])).2
    SearchOptions.ofJson (.object fields) = .ok (SearchOptions.ofFields fields) ∧
      ((ofEnvironment env).compile gazetteer.geocoder.cached field (SearchOptions.ofFields fields)
        (.new .postgres) kept).query.Finite 500 := by
  intro env fields location gazetteer field kept
  have hv : SearchOptions.ofJson (.object fields) = .ok (SearchOptions.ofFields fields) := rfl
  obtain ⟨-, -, h⟩ := compile_finite env hv gazetteer field .postgres
  have hr : ((SearchOptions.ofFields fields).normalizeWith (ofEnvironment env).range
      (ofEnvironment env).units).range = 500 := by decide +kernel
  have hk := h 1 [.lookup (.text "chicago")] []
  simp only [hr] at hk
  exact ⟨hv, hk⟩

end SearchConfig

end Proximity
