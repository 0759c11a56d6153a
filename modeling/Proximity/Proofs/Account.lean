import Proximity.Proofs.SearchPlan

/-!
# The account of a search

A search changes the query and keeps its summary in different places. Here the two are held
against each other: what was in the query stays in front, and behind it stands what the summary
says, no more and no less. The summary in turn says what the options asked for, so nothing is
noted that was not added, and nothing is added twice or in another clause.
-/

namespace Proximity

open Sql

theorem SearchOptions.isEmpty_iff {o : SearchOptions} : o.isEmpty = true ↔ o = {} := by
  constructor
  · intro h
    obtain ⟨range, units, target, subfields, requireCoords, reverseRadius, supplied⟩ := o
    simp only [isEmpty, Bool.and_eq_true, Option.isNone_iff_eq_none, beq_iff_eq,
      Bool.not_eq_eq_eq_not, Bool.not_true] at h
    obtain ⟨⟨⟨⟨⟨⟨rfl, rfl⟩, rfl⟩, rfl⟩, rfl⟩, rfl⟩, rfl⟩ := h
    rfl
  · rintro rfl
    rfl

theorem SearchOptions.isEmpty_of_ne {o : SearchOptions} (h : o ≠ {}) : o.isEmpty = false :=
  Bool.eq_false_iff.mpr fun he => h (isEmpty_iff.mp he)

/-- The query after a search holds what was in it before and then what the summary notes: the
joined table, the distance, the content and the radius where there is one, the distance under the
name of the field where there is a target, and each condition in its clause. -/
structure Sql.ElementQuery.Gains (before after : ElementQuery) (field : AddressField)
    (o : SearchOptions) (c : CompiledSearch) : Prop where
  dialect : after.dialect = before.dialect
  joins : after.joins = before.joins ++ c.join.toList
  subquerySelects : after.subquerySelects =
    before.subquerySelects ++ c.distance.toList.map Aliased.projection ++
      c.reverseRadius.toList.flatMap fun radius =>
        [⟨.column (.of "elements_sites" "content"), none⟩, radius.projection]
  selects : after.selects =
    before.selects ++ if o.target.isSome then [⟨.alias "distance", some field.handle⟩] else []
  wheres : after.wheres = before.wheres ++ inClause .inWhere c.conditions
  havings : after.havings = before.havings ++ inClause .inHaving c.conditions

/-- The table of addresses, joined to the elements and held to one field. -/
def Sql.joinedAddresses (fieldId : Int) : Join where
  table := "googlemaps_addresses"
  «alias» := "gm_addresses"
  on := .conj [
    .compare .eq (.column (.of "gm_addresses" "elementId")) (.column (.of "elements" "id")),
    .compare .eq (.column (.of "gm_addresses" "fieldId")) (.param (.int fieldId))]

/-- That the latitude and the longitude are both there. -/
def Sql.bothCoordinates : Condition :=
  .neg (.disj [.isNull (.column (.of "gm_addresses" "lat")),
    .isNull (.column (.of "gm_addresses" "lng"))])

/-- The distance of the joined addresses from a point; without one it is NULL. -/
def Sql.measured (units : Units) (origin : Option Coordinates) : Aliased where
  «alias» := "distance"
  expr :=
    match origin with
    | some p => Sql.distance units p (.of "gm_addresses" "lat") (.of "gm_addresses" "lng")
    | none => .null

/-- The subfields that options ask for, where `find` is what the geocoder knows of a target. -/
def SearchOptions.filter (o : SearchOptions) (find : Target → Resolution) :
    Option SubfieldFilter :=
  match o.subfields with
  | .none => none
  | .explicit filter => some filter
  | .fallback => o.target.bind fun t => (find t).address.bind (·.narrowing t.phrase)

/-- The summary of a search says what its options ask for, where `find` is what the geocoder knows
of a target. -/
structure CompiledSearch.Reports (c : CompiledSearch) (config : SearchConfig) (d : Dialect)
    (field : AddressField) (o : SearchOptions) (find : Target → Resolution) : Prop where
  join : c.join = some (joinedAddresses field.id)
  origin : c.origin = o.target.map fun t => (find t).coords.getD config.location.coords
  usedDefaultOrigin : c.usedDefaultOrigin = o.target.any fun t => (find t).coords.isNone
  distance : c.distance =
    some (measured (o.normalizeWith config.range config.units).units c.origin)
  /-- The subfields are those asked for, unless they restrict nothing. -/
  subfields : c.subfields = (o.filter find).filter fun f =>
    (subfieldCondition config.subfields.whitelist "gm_addresses" f).isSome
  /-- The radius is a number field of the layout. -/
  reverseRadius :
    match o.reverseRadius with
    | none => c.reverseRadius = none
    | some handle => ∃ f, field.layout handle = some f ∧ f.kind = .number ∧
        c.reverseRadius =
          some ⟨"gm_reverseRadius", .jsonNumber (.of "elements_sites" "content") f.uid⟩
  /-- The conditions are the range, the subfields, the coordinates and the radius, in this
  order. -/
  conditions :
    let n := o.normalizeWith config.range config.units
    let distance := measured n.units c.origin
    c.conditions =
      (if o.target.isSome ∧ o.reverseRadius = none then
        [d.aliasFilter distance .le (.value (.param (.float n.range)))] else []) ++
      (c.subfields.bind (subfieldCondition config.subfields.whitelist "gm_addresses")).toList.map
        (⟨.inWhere, ·⟩) ++
      (if o.requireCoords then [⟨.inWhere, bothCoordinates⟩] else []) ++
      c.reverseRadius.toList.map fun radius => d.aliasFilter distance .le (.aliased radius)

/-- A plan adds to a query what its summary notes. -/
theorem SearchPlan.gains_addTo (p : SearchPlan) (q : ElementQuery) {field : AddressField}
    {o : SearchOptions} (ho : p.origin.isSome = o.target.isSome)
    (hh : p.fieldHandle = field.handle) :
    q.Gains (p.addTo q) field o (p.summary q.dialect) where
  dialect := rfl
  joins := rfl
  subquerySelects := by
    rcases hr : p.radius with _ | f <;>
      simp [addTo, summary, radiusColumns, hr, contentColumn, sitesTable, contentColumnName]
  selects := by
    rcases hp : p.origin with _ | origin <;> rcases ht : o.target with _ | t <;>
      simp only [hp, ht, Option.isSome_none, Option.isSome_some, reduceCtorEq] at ho
    · simp [addTo, shown, hp]
    · simp [addTo, shown, hp, hh, distanceAlias]
  wheres := rfl
  havings := rfl

theorem restriction_fst (whitelist : List String) (filter : Option SubfieldFilter) :
    (restriction whitelist filter).map Prod.fst =
      filter.filter fun f => (subfieldCondition whitelist addressAlias f).isSome := by
  rcases filter with _ | f
  · rfl
  · rcases hc : subfieldCondition whitelist addressAlias f with _ | c <;>
      simp [restriction, hc, Option.filter]

theorem restriction_snd (whitelist : List String) (filter : Option SubfieldFilter) :
    (restriction whitelist filter).map Prod.snd =
      ((restriction whitelist filter).map Prod.fst).bind
        (subfieldCondition whitelist addressAlias) := by
  rcases filter with _ | f
  · rfl
  · rcases hc : subfieldCondition whitelist addressAlias f with _ | c <;> simp [restriction, hc]

theorem AddressField.radiusField_eq_ok {field : AddressField} {handle : String} {f : LayoutField}
    (h : field.radiusField handle = .ok f) : field.layout handle = some f ∧ f.kind = .number := by
  unfold radiusField at h
  split at h
  · cases h
  · rename_i f' hf
    split at h
    · rename_i hn
      cases h
      exact ⟨hf, by simpa [FieldKind.isNumber] using hn⟩
    · cases h

namespace SearchConfig

variable {σ : Type} (config : SearchConfig) (g : Geocoder σ) (field : AddressField)
  {o : SearchOptions} (radius : Option LayoutField)

theorem planOf_origin (s : σ) :
    (config.planOf g field o radius s).origin =
      o.target.map fun t => (g.resolve t s).1.coords.getD config.location.coords := by
  rcases ht : o.target with _ | t <;> simp [planOf, plan, find, ht]

theorem planOf_origin_isSome (s : σ) :
    (config.planOf g field o radius s).origin.isSome = o.target.isSome := by
  rw [planOf_origin, Option.isSome_map]

theorem planOf_isDefault (s : σ) :
    (config.planOf g field o radius s).isDefault =
      o.target.any fun t => (g.resolve t s).1.coords.isNone := by
  rcases ht : o.target with _ | t <;> simp [planOf, plan, find, ht]

theorem derived_eq (n : NormalizedOptions) (h : n.subfields = .fallback) (t : Target)
    (r : Resolution) : n.derived t r = r.address.bind (·.narrowing t.phrase) := by
  unfold NormalizedOptions.derived
  rw [h]
  rcases r.address with _ | a <;> rfl

theorem planOf_subfields (s : σ) :
    (config.planOf g field o radius s).subfields =
      restriction config.subfields.whitelist (o.filter fun t => (g.resolve t s).1) := by
  rcases hs : o.subfields with _ | f | _
  · simp [planOf, plan, hs, SearchOptions.normalizeWith, Subfields.effective, SearchOptions.filter]
  · simp [planOf, plan, hs, SearchOptions.normalizeWith, Subfields.effective, SearchOptions.filter]
  · rcases ht : o.target with _ | t
    · simp [planOf, plan, find, hs, ht, SearchOptions.normalizeWith, Subfields.effective,
        SearchOptions.filter]
    · have hd := derived_eq (o.normalizeWith config.range config.units) hs t (g.resolve t s).1
      simp only [planOf, plan, find, hs, ht, SearchOptions.normalizeWith, Subfields.effective,
        SearchOptions.filter, Option.bind_some] at hd ⊢
      rw [hd]

/-- The range counts where there is a target and no radius. -/
theorem planOf_rangeConditions (s : σ) (d : Dialect) :
    let p := config.planOf g field o radius s
    p.rangeConditions d =
      if o.target.isSome ∧ radius = none then
        [d.aliasFilter (measured p.units p.origin) .le (.value (.param (.float p.range)))]
      else [] := by
  intro p
  have ho : p.origin.isSome = o.target.isSome := planOf_origin_isSome config g field radius s
  rw [SearchPlan.rangeConditions_eq, ho]
  rfl

theorem planOf_subfieldConditions (s : σ) :
    let p := config.planOf g field o radius s
    p.subfieldConditions =
      ((p.subfields.map Prod.fst).bind (subfieldCondition config.subfields.whitelist
        addressAlias)).toList.map (⟨.inWhere, ·⟩) := by
  intro p
  have hs := restriction_snd config.subfields.whitelist (o.filter fun t => (g.resolve t s).1)
  rw [← planOf_subfields config g field radius] at hs
  rw [← hs]
  unfold SearchPlan.subfieldConditions
  rcases p.subfields with _ | ⟨f, c⟩ <;> rfl

/-- What a plan is summed up to is what the options ask for. -/
theorem reports_planOf
    (hr : radiusField field (o.normalizeWith config.range config.units) = .ok radius)
    (d : Dialect) (s : σ) :
    ((config.planOf g field o radius s).summary d).Reports config d field o
      fun t => (g.resolve t s).1 where
  join := rfl
  origin := planOf_origin config g field radius s
  usedDefaultOrigin := planOf_isDefault config g field radius s
  distance := rfl
  subfields := by
    refine Eq.trans ?_ (restriction_fst _ _)
    rw [← planOf_subfields config g field radius]
    rfl
  reverseRadius := by
    unfold radiusField at hr
    split at hr
    · rename_i h
      cases hr
      rw [show o.reverseRadius = none from h]
      rfl
    · rename_i handle h
      rcases hf : field.radiusField handle with e | f <;> rw [hf] at hr <;> cases hr
      obtain ⟨hl, hk⟩ := AddressField.radiusField_eq_ok hf
      rw [show o.reverseRadius = some handle from h]
      exact ⟨f, hl, hk, rfl⟩
  conditions := by
    have hi : radius = none ↔ o.reverseRadius = none := radius_eq_none_iff field hr
    have h₁ := planOf_rangeConditions config g field radius s d (o := o)
    have h₂ := planOf_subfieldConditions config g field radius s (o := o)
    simp only [hi] at h₁
    simp only [SearchPlan.summary, SearchPlan.conditions]
    rw [h₁, h₂]
    rcases radius with _ | f <;> rfl

/-- The account of a search that succeeds. Without options nothing happens at all, and so no
lookup is made; otherwise the query gains what the summary notes, and the summary reports what the
options ask for and what the one lookup found. -/
theorem compile_account {q : ElementQuery} {s : σ} {c : CompiledSearch}
    (h : (config.compile g field o q s).result = .ok c) :
    let out := config.compile g field o q s
    (o = {} → c = {} ∧ out.query = q ∧ out.state = s) ∧
    (o ≠ {} → q.Gains out.query field o c ∧
      (c.Reports config q.dialect field o fun t => (g.resolve t s).1) ∧
      out.state = match o.target with
        | none => s
        | some t => (g.resolve t s).2) := by
  rcases he : o.isEmpty with _ | _
  · have ho : o ≠ {} := fun ho => by rw [SearchOptions.isEmpty_iff.mpr ho] at he; cases he
    refine ⟨fun h => absurd h ho, fun _ => ?_⟩
    rcases hr : radiusField field (o.normalizeWith config.range config.units) with e | radius
    · rw [compile_of_error config g field he hr] at h
      cases h
    · rw [compile_of_ok config g field he hr] at h ⊢
      cases h
      refine ⟨?_, reports_planOf config g field radius hr q.dialect s, ?_⟩
      · exact SearchPlan.gains_addTo _ q (planOf_origin_isSome config g field radius s) rfl
      · unfold find
        rcases o.target with _ | t <;> rfl
  · have ho := SearchOptions.isEmpty_iff.mp he
    rw [compile_of_isEmpty config g field he] at h ⊢
    cases h
    exact ⟨fun _ => ⟨rfl, rfl, rfl⟩, fun h => absurd ho h⟩

/-- A search around a point of which the latitude and the longitude are asked for, with the radius
of the elements, on a query that holds a condition already. -/
theorem compile_account_of_radius :
    let o : SearchOptions := {
      target := some (.literal ⟨41.8781, -87.6298⟩)
      requireCoords := true
      reverseRadius := some "reach" }
    let field : AddressField := ⟨7, "address", FieldLayout.ofFields [⟨"reach", "f1", .number⟩]⟩
    let g : Geocoder Unit := ⟨fun _ s => (.ok none, s)⟩
    let q := (ElementQuery.new .mysql).restrict .inWhere (.isNull (.alias "dateDeleted"))
    ∃ c, (standard.compile g field o q ()).result = .ok c ∧ o ≠ {} ∧
      q.Gains (standard.compile g field o q ()).query field o c := by
  intro o field g q
  have ho : o ≠ {} := fun h => Bool.noConfusion (congrArg SearchOptions.requireCoords h)
  exact ⟨_, rfl, ho, ((compile_account standard g field rfl).2 ho).1⟩

end SearchConfig

end Proximity
