import Proximity.Proofs.Account
import Proximity.Proofs.SubfieldConditions

/-!
# Names in scope

What a plan adds to a query names columns of the elements, of their content and of the address table
only, and names computed columns in HAVING and outside the subquery only. The distance is shown with
every plan and the radius with every plan that has one, so whatever names them finds them, and finds
them once.
-/

namespace Proximity

open Sql

namespace Sql

/-- The tables that a search takes columns from. -/
def searchTables : List String :=
  ["elements", "elements_sites", "gm_addresses"]

/-- A column of one of the tables that a search takes columns from. -/
def Column.Known (c : Column) : Prop :=
  ∃ table ∈ searchTables, c.table = some table

instance (c : Column) : Decidable c.Known :=
  inferInstanceAs (Decidable (∃ table ∈ searchTables, c.table = some table))

/-- An expression that names, by itself, no computed column and no column that is not known. -/
def Expr.Grounded (e : Expr) : Prop :=
  e.alias? = none ∧ ∀ c ∈ e.column?, c.Known

theorem Expr.grounded_of_nameless {e : Expr} (ha : e.alias? = none) (hc : e.column? = none) :
    e.Grounded :=
  ⟨ha, fun c h => by rw [hc] at h; cases h⟩

theorem Expr.grounded_iff {es : List Expr} :
    (∀ e ∈ es, e.Grounded) ↔
      es.filterMap Expr.alias? = [] ∧ ∀ c ∈ es.filterMap Expr.column?, c.Known := by
  simp only [Grounded, forall_and, List.filterMap_eq_nil_iff, List.mem_filterMap,
    forall_exists_index, and_imp, Option.mem_def]
  exact and_congr_right fun _ => ⟨fun h c e he hc => h e he c hc, fun h e he c hc => h c e he hc⟩

/-- Wherever a computed column is referred to, it is by what it is computed from or, in HAVING, by
its alias. -/
theorem Expr.grounded_reference {d : Dialect} {a : Aliased} (h : ∀ e ∈ a.expr.parts, e.Grounded)
    {e : Expr} (he : e ∈ (d.aliasReference a).parts) :
    e.Grounded ∨ (d.aliasPlacement = .inHaving ∧ e = .alias a.alias) := by
  rcases d with _ | _
  · exact .inr ⟨rfl, List.mem_singleton.mp he⟩
  · left
    by_cases hg : ∃ g, e = .group g
    · obtain ⟨g, rfl⟩ := hg
      exact grounded_of_nameless rfl rfl
    · exact h e (mem_parts_grouped he fun g hn => hg ⟨g, hn⟩)

theorem grounded_distance (units : Units) (origin : Coordinates) :
    ∀ e ∈ (distance units origin latColumn lngColumn).parts, e.Grounded := by
  have hc : (distance units origin latColumn lngColumn).parts.filterMap Expr.column? =
    [latColumn, lngColumn, latColumn] := rfl
  refine Expr.grounded_iff.mpr ⟨rfl, ?_⟩
  rw [hc]
  decide

theorem grounded_radius (f : LayoutField) : ∀ e ∈ (radius f).expr.parts, e.Grounded :=
  Expr.grounded_iff.mpr ⟨rfl, show ∀ c ∈ [contentColumn], c.Known by decide⟩

theorem grounded_coordsPresent : ∀ e ∈ Draft.coordsPresent.parts, e.Grounded :=
  Expr.grounded_iff.mpr ⟨rfl, show ∀ c ∈ [latColumn, lngColumn], c.Known by decide⟩

end Sql

namespace SearchPlan

variable (p : SearchPlan)

/-- The computed columns of a plan. -/
def computed : List Aliased :=
  p.distance :: (p.radius.map Sql.radius).toList

/-- An expression may stand in a condition of a plan: it names known columns only, or it is the
alias of a computed column in HAVING. -/
def Fits (placement : Placement) (e : Expr) : Prop :=
  e.Grounded ∨ (placement = .inHaving ∧ ∃ a ∈ p.computed, e = .alias a.alias)

variable {p} {d : Dialect} {e : Expr}

theorem grounded_computed {a : Aliased} (h : a ∈ p.computed) : ∀ e ∈ a.expr.parts, e.Grounded := by
  rcases List.mem_cons.mp h with rfl | h
  · unfold distance
    rcases p.origin with _ | origin
    · exact Expr.grounded_iff.mpr ⟨rfl, fun c hc => nomatch hc⟩
    · exact grounded_distance p.units origin
  · obtain ⟨f, -, rfl⟩ := Option.map_eq_some_iff.mp (Option.mem_toList.mp h)
    exact grounded_radius f

theorem fits_reference {a : Aliased} (h : a ∈ p.computed) (he : e ∈ (d.aliasReference a).parts) :
    p.Fits d.aliasPlacement e :=
  (Expr.grounded_reference (grounded_computed h) he).imp_right
    fun ⟨hp, ha⟩ => ⟨hp, a, h, ha⟩

theorem fits_aliasFilter {a : Aliased} (h : a ∈ p.computed) {op : Comparison} {r : AliasOperand}
    (hr : ∀ e ∈ (d.operandReference r).parts, p.Fits d.aliasPlacement e)
    (he : e ∈ (d.aliasFilter a op r).condition.parts) : p.Fits d.aliasPlacement e := by
  rcases List.mem_append.mp he with he | he
  · exact fits_reference h he
  · exact hr e he

/-- Every condition of a plan can stand where the plan puts it. -/
theorem fits_conditions (hs : ∀ s ∈ p.subfields, ∀ e ∈ s.2.parts, e.Grounded)
    {c : AttachedCondition} (hc : c ∈ p.conditions d) (he : e ∈ c.condition.parts) :
    p.Fits c.placement e := by
  have hdistance : p.distance ∈ p.computed := List.mem_cons_self
  simp only [conditions, List.mem_append] at hc
  rcases hc with ((hc | hc) | hc) | hc
  · rw [rangeConditions_eq] at hc
    split at hc
    · cases List.mem_singleton.mp hc
      refine fits_aliasFilter hdistance (fun e he => .inl ?_) he
      cases List.mem_singleton.mp he
      exact Expr.grounded_of_nameless rfl rfl
    · cases hc
  · obtain ⟨s, hs', rfl⟩ := Option.map_eq_some_iff.mp (Option.mem_toList.mp hc)
    exact .inl (hs s hs' e he)
  · unfold coordsConditions at hc
    split at hc
    · cases List.mem_singleton.mp hc
      exact .inl (grounded_coordsPresent e he)
    · cases hc
  · obtain ⟨f, hf, rfl⟩ := Option.map_eq_some_iff.mp (Option.mem_toList.mp hc)
    have hradius : Sql.radius f ∈ p.computed := by simp [computed, hf]
    exact fits_aliasFilter hdistance (r := .aliased _) (fun _ => fits_reference hradius) he

theorem grounded_subquerySelects (p : SearchPlan) (d : Dialect) :
    ∀ e ∈ (p.addTo (.new d)).subquerySelects.flatMap Projection.parts, e.Grounded := by
  have hnew : ∀ e ∈ (ElementQuery.new d).subquerySelects.flatMap Projection.parts, e.Grounded :=
    Expr.grounded_iff.mpr ⟨rfl, show ∀ c ∈ [Column.of "elements" "id",
      .of "elements_sites" "siteId"], c.Known by decide⟩
  have hradius : ∀ e ∈ p.radiusColumns.flatMap Projection.parts, e.Grounded := by
    unfold radiusColumns
    rcases p.radius with _ | f
    · exact fun e he => nomatch he
    · exact Expr.grounded_iff.mpr
        ⟨rfl, show ∀ c ∈ [contentColumn, contentColumn], c.Known by decide⟩
  have hdistance := grounded_computed (p := p) (a := p.distance) List.mem_cons_self
  simp only [addTo, List.flatMap_append, List.flatMap_cons, List.forall_mem_append]
  exact ⟨hnew, hdistance, hradius⟩

theorem grounded_sourceParts (hs : ∀ s ∈ p.subfields, ∀ e ∈ s.2.parts, e.Grounded) (d : Dialect) :
    ∀ e ∈ (p.addTo (.new d)).sourceParts, e.Grounded := by
  have hjoin : ∀ e ∈ (addressJoin p.fieldId).parts, e.Grounded :=
    Expr.grounded_iff.mpr ⟨rfl, show ∀ c ∈ [addressColumn "elementId", .of "elements" "id",
      addressColumn "fieldId"], c.Known by decide⟩
  intro e he
  rcases List.mem_append.mp he with he | he
  · rcases List.mem_append.mp he with he | he
    · exact grounded_subquerySelects p d e he
    · exact hjoin e (by simpa [addTo, ElementQuery.new] using he)
  · obtain ⟨c, hc, he⟩ := List.mem_flatMap.mp he
    rcases fits_conditions hs (mem_inClause.mp hc) he with h | ⟨h, -⟩
    · exact h
    · -- an alias fits in HAVING only, and this is WHERE
      cases h

theorem fits_havings (hs : ∀ s ∈ p.subfields, ∀ e ∈ s.2.parts, e.Grounded)
    (he : e ∈ (p.addTo (.new d)).havings.flatMap Condition.parts) : p.Fits .inHaving e := by
  obtain ⟨c, hc, he⟩ := List.mem_flatMap.mp he
  exact fits_conditions hs (mem_inClause.mp hc) he

theorem shownAs_computed {a : Aliased} (h : a ∈ p.computed) (d : Dialect) :
    (p.addTo (.new d)).shownAs a.alias = [a.projection] := by
  have hne : radiusAlias ≠ distanceAlias := by decide
  rcases List.mem_cons.mp h with rfl | h
  · rcases hr : p.radius with _ | f <;>
      simp [ElementQuery.shownAs, addTo, ElementQuery.new, radiusColumns, hr, Aliased.projection,
        distance, Sql.radius, hne]
  · obtain ⟨f, hf, rfl⟩ := Option.map_eq_some_iff.mp (Option.mem_toList.mp h)
    simp [ElementQuery.shownAs, addTo, ElementQuery.new, radiusColumns, hf, Aliased.projection,
      distance, Sql.radius, hne.symm]

theorem shown_eq_distance {name : String}
    (h : name ∈ (p.shown.flatMap Projection.parts).filterMap Expr.alias?) :
    name = p.distance.alias := by
  unfold shown at h
  split at h
  · exact List.mem_singleton.mp h
  · cases h

/-- Every name in a query that a plan was added to is in scope. -/
theorem inScope_addTo (hs : ∀ s ∈ p.subfields, ∀ e ∈ s.2.parts, e.Grounded) (d : Dialect) :
    (p.addTo (.new d)).InScope where
  columns c hc := by
    obtain ⟨e, he, hc⟩ := List.mem_filterMap.mp hc
    rcases List.mem_append.mp he with he | he
    · exact (grounded_sourceParts hs d e he).2 c hc
    · rcases fits_havings hs he with h | ⟨-, a, -, rfl⟩
      · exact h.2 c hc
      · cases hc
  source := (Expr.grounded_iff.mp (grounded_sourceParts hs d)).1
  aliases name hn := by
    -- the outer columns name the distance, HAVING names what its conditions compare
    have hcomputed : ∃ a ∈ p.computed, name = a.alias := by
      rw [List.filterMap_append, List.mem_append] at hn
      rcases hn with hn | hn
      · exact ⟨p.distance, List.mem_cons_self, shown_eq_distance hn⟩
      · obtain ⟨e, he, hn⟩ := List.mem_filterMap.mp hn
        rcases fits_havings hs he with h | ⟨-, a, ha, rfl⟩
        · rw [h.1] at hn
          cases hn
        · cases hn
          exact ⟨a, ha, rfl⟩
    obtain ⟨a, ha, rfl⟩ := hcomputed
    rw [shownAs_computed ha]
    rfl

end SearchPlan

theorem grounded_restriction {whitelist : List String} {filter : Option SubfieldFilter}
    {s : SubfieldFilter × Condition} (h : s ∈ restriction whitelist filter) :
    ∀ e ∈ s.2.parts, e.Grounded := by
  obtain ⟨f, -, h⟩ := Option.bind_eq_some_iff.mp h
  obtain ⟨c, hc, rfl⟩ := Option.map_eq_some_iff.mp h
  have hall := subfieldCondition_eq whitelist addressAlias (some f)
  rw [Option.bind_some, hc] at hall
  intro e he
  rcases mem_parts_entries hall.symm he with ⟨entry, -, rfl⟩ | ⟨value, rfl⟩
  · exact ⟨rfl, fun c hc => by cases hc; exact ⟨_, by decide, rfl⟩⟩
  · exact Expr.grounded_of_nameless rfl rfl

theorem Sql.ElementQuery.inScope_new (d : Dialect) : (ElementQuery.new d).InScope where
  columns := show ∀ c ∈ [Column.of "elements" "id", .of "elements_sites" "siteId"],
    ∃ table ∈ ["elements", "elements_sites"], c.table = some table by decide
  source := rfl
  aliases name hn := nomatch hn

namespace SearchConfig

variable {σ : Type} (config : SearchConfig) (g : Geocoder σ) (field : AddressField)

/-- Every name in the query of a search that succeeds is in scope. With options of any kind the
distance is shown under its alias, and is the only column that is, and the address table is joined
and no second time. -/
theorem compile_in_scope {o : SearchOptions} {d : Dialect} {s : σ} {c : CompiledSearch}
    (h : (config.compile g field o (.new d) s).result = .ok c) :
    let q := (config.compile g field o (.new d) s).query
    q.InScope ∧
      (o ≠ {} →
        (∃ a, c.distance = some a ∧ q.shownAs "distance" = [a.projection]) ∧
        ∃ j, c.join = some j ∧ q.joins.filter (·.table == "googlemaps_addresses") = [j]) := by
  rcases he : o.isEmpty with _ | _
  · rcases hr : radiusField field (o.normalizeWith config.range config.units) with e | radius
    · rw [compile_of_error config g field he hr] at h
      cases h
    · rw [compile_of_ok config g field he hr] at h ⊢
      cases h
      refine ⟨SearchPlan.inScope_addTo (fun r hr => ?_) d, fun _ => ⟨⟨_, rfl, ?_⟩, _, rfl, ?_⟩⟩
      · rw [planOf_subfields] at hr
        exact grounded_restriction hr
      · exact SearchPlan.shownAs_computed List.mem_cons_self d
      · rfl
  · rw [compile_of_isEmpty config g field he]
    exact ⟨ElementQuery.inScope_new d, fun ho => absurd (SearchOptions.isEmpty_iff.mp he) ho⟩

/-- On MySQL the radius is compared with the distance in HAVING, by the aliases of both. -/
theorem compile_in_scope_of_radius :
    let o : SearchOptions := {
      target := some (.literal ⟨41.8781, -87.6298⟩)
      subfields := .explicit (.insert .empty "city" (.list ["Chicago", "Evanston"]))
      requireCoords := true
      reverseRadius := some "reach" }
    let field : AddressField := ⟨7, "address", FieldLayout.ofFields [⟨"reach", "f1", .number⟩]⟩
    let g : Geocoder Unit := ⟨fun _ s => (.ok none, s)⟩
    let q := (standard.compile g field o (.new .mysql) ()).query
    (q.havings.flatMap Condition.parts).filterMap Expr.alias? = ["distance", "gm_reverseRadius"] ∧
      q.InScope ∧ o ≠ {} ∧
      ∃ j, q.joins.filter (·.table == "googlemaps_addresses") = [j] := by
  intro o field g q
  have ho : o ≠ {} := fun h => Bool.noConfusion (congrArg SearchOptions.requireCoords h)
  obtain ⟨hscope, hones⟩ := compile_in_scope standard g field (o := o) (d := .mysql) (s := ()) rfl
  obtain ⟨-, j, -, hj⟩ := hones ho
  exact ⟨rfl, hscope, ho, j, hj⟩

end SearchConfig

end Proximity
