import Proximity.Proofs.Resolved
import Proximity.Proofs.SubfieldConditions

/-!
# The text of a search

The texts that come with a search are those of its subfields, of its target and of what the geocoder
makes of the target. None of them is written into the statement. Of two searches that measure from
the same point and ask for as many values of the same subfields, the statements have the same text,
and the values bound behind those that were in the query already are the number of the field, the
range and the values of the subfields (`compile_text`). What is asked of subfields that cannot be
filtered on counts for nothing at all.

Two trees with the same text differ in their bound values only. This is followed from the single
comparison up to the clauses of the query, always for whole lists of trees (`blankedRow`), since how
a list is joined depends on its length.
-/

namespace Proximity

open Sql Fragment

/-- What is left of a value without its texts: its kind and their number. -/
def SubfieldValue.blank : SubfieldValue → SubfieldValue
  | scalar _ => scalar ""
  | list values => list (values.map fun _ => "")
  | invalid => invalid

theorem SubfieldValue.values_blank (v : SubfieldValue) :
    v.blank.values = v.values.map fun _ => "" := by
  cases v <;> rfl

/-- What is left of the entries of a filter without the texts of the values. -/
def SubfieldFilter.unfilled (entries : Keyed SubfieldValue) : Keyed SubfieldValue :=
  entries.map fun e => (e.1, e.2.blank)

namespace Sql

variable {d : Dialect}

/-- A condition as it is written, without its values. -/
def Condition.blankedRow (d : Dialect) (c : Condition) : List Fragment :=
  blanked (c.fragments d)

theorem Condition.blankedRow_conj (cs : List Condition) :
    (Condition.conj cs).blankedRow d = junction "AND" "TRUE" (cs.map (blankedRow d)) := by
  rw [blankedRow, fragments, blanked_junction, fragmentsAll_eq_map, List.map_map]
  rfl

theorem Condition.blankedRow_disj (cs : List Condition) :
    (Condition.disj cs).blankedRow d = junction "OR" "FALSE" (cs.map (blankedRow d)) := by
  rw [blankedRow, fragments, blanked_junction, fragmentsAll_eq_map, List.map_map]
  rfl

theorem Condition.blankedRow_all? (cs : List Condition) :
    (all? cs).map (blankedRow d) =
      match cs.map (blankedRow d) with
      | [] => none
      | [row] => some row
      | rows => some (junction "AND" "TRUE" rows) := by
  rcases cs with _ | ⟨c, _ | ⟨c', cs⟩⟩
  · rfl
  · rfl
  · exact congrArg some (blankedRow_conj _)

theorem Condition.blankedRow_any? (cs : List Condition) :
    (any? cs).map (blankedRow d) =
      match cs.map (blankedRow d) with
      | [] => none
      | [row] => some row
      | rows => some (junction "OR" "FALSE" rows) := by
  rcases cs with _ | ⟨c, _ | ⟨c', cs⟩⟩
  · rfl
  · rfl
  · exact congrArg some (blankedRow_disj _)

theorem blankedRow_valueTests (c : Column) (values : List String) :
    (valueTests c values).map (·.blankedRow d) =
      (valueTests c (values.map fun _ => "")).map (·.blankedRow d) := by
  have hv (v : String) : ((Expr.column c).eq (.param (.string v))).blankedRow d =
      ((Expr.column c).eq (.param (.string ""))).blankedRow d := by
    simp only [Expr.eq, Condition.blankedRow, Condition.fragments, Expr.fragments, blanked_append,
      blanked_cons]
    rfl
  simp only [valueTests, List.map_map, Function.comp_def, hv]

theorem blankedRow_entryCondition (table : String) (e : String × SubfieldValue) :
    (entryCondition table e).map (·.blankedRow d) =
      (entryCondition table (e.1, e.2.blank)).map (·.blankedRow d) := by
  rw [entryCondition, entryCondition, Condition.blankedRow_any?, Condition.blankedRow_any?,
    SubfieldValue.values_blank, ← blankedRow_valueTests]

/-- The texts of the values are not in the text of a filter. -/
theorem blankedRow_entries (table : String) (entries : Keyed SubfieldValue) :
    (entries.filterMap (entryCondition table)).map (·.blankedRow d) =
      (SubfieldFilter.unfilled entries).filterMap
        fun e => (entryCondition table e).map (·.blankedRow d) := by
  rw [List.map_filterMap, SubfieldFilter.unfilled, List.filterMap_map]
  exact congrArg (entries.filterMap ·) (funext fun e => blankedRow_entryCondition table e)

/-! ## Queries -/

/-- A condition in its clause, as it is written without its values. -/
def AttachedCondition.blankedRow (d : Dialect) (c : AttachedCondition) :
    Placement × List Fragment :=
  (c.placement, c.condition.blankedRow d)

theorem blankedRow_inClause (placement : Placement) (cs : List AttachedCondition) :
    (inClause placement cs).map (·.blankedRow d) =
      ((cs.map (·.blankedRow d)).filter (·.1 = placement)).map Prod.snd := by
  rw [inClause, List.filter_map, List.map_map, List.map_map]
  rfl

/-- Conditions that differ in their values only make no difference to the text. -/
theorem ElementQuery.blanked_attachAll (q : ElementQuery) {cs cs' : List AttachedCondition}
    (h : cs'.map (·.blankedRow q.dialect) = cs.map (·.blankedRow q.dialect)) :
    blanked (q.attachAll cs').fragments = blanked (q.attachAll cs).fragments := by
  have hc (word : String) (placement : Placement) (before : List Condition) :
      blanked (clause q.dialect word (before ++ inClause placement cs')) =
        blanked (clause q.dialect word (before ++ inClause placement cs)) := by
    refine blanked_clause ?_
    have hi : (inClause placement cs').map (·.blankedRow q.dialect) =
        (inClause placement cs).map (·.blankedRow q.dialect) := by
      rw [blankedRow_inClause, blankedRow_inClause, h]
    simp only [List.map_append, List.map_map]
    exact congrArg (_ ++ ·) hi
  simp only [fragments, subquery, attachAll, List.cons_append, blanked_cons, blanked_append, hc]

theorem ElementQuery.render_congr {q q' : ElementQuery} (hd : q'.dialect = q.dialect)
    (h : blanked q'.fragments = blanked q.fragments) :
    q'.render.sql = q.render.sql ∧ q'.render.params.length = q.render.params.length := by
  simp only [render_eq_statement, statement, Fragment.statement, hd]
  constructor
  · rw [← spellAll_blanked, h, spellAll_blanked]
  · rw [← length_params_blanked, h, length_params_blanked]

theorem ElementQuery.params_render (q : ElementQuery) : q.render.params = q.leaves := by
  rw [render_eq_statement]
  exact q.params_eq_leaves

theorem blankedRow_aliasFilter (left : Aliased) (op : Comparison) (v w : Param) :
    (d.aliasFilter left op (.value (.param v))).blankedRow d =
      (d.aliasFilter left op (.value (.param w))).blankedRow d := by
  simp only [AttachedCondition.blankedRow, Dialect.aliasFilter, Dialect.operandReference,
    Condition.blankedRow, Condition.fragments, Expr.fragments, blanked_append, blanked_cons]
  rfl

theorem Expr.leaves_grouped (e : Expr) : e.grouped.leaves = e.leaves := by
  cases e <;> rfl

theorem leaves_aliasReference {a : Aliased} (h : a.expr.leaves = []) :
    (d.aliasReference a).leaves = [] := by
  rcases d with _ | _
  · rfl
  · exact (Expr.leaves_grouped a.expr).trans h

theorem inClause_singleton (placement : Placement) (c : AttachedCondition) :
    inClause placement [c] = if c.placement = placement then [c.condition] else [] := by
  by_cases h : c.placement = placement <;> simp [inClause, h]

end Sql

namespace SearchPlan

variable (p : SearchPlan) (q : ElementQuery)

theorem addTo_eq :
    p.addTo q = ElementQuery.attachAll
      { q with
        selects := q.selects ++ p.shown
        subquerySelects := q.subquerySelects ++ p.distance.projection :: p.radiusColumns
        joins := q.joins ++ [addressJoin p.fieldId] } (p.conditions q.dialect) := rfl

theorem blankedRow_subfieldConditions (d : Dialect) :
    p.subfieldConditions.map (·.blankedRow d) =
      (p.subfields.map (·.2.blankedRow d)).toList.map fun row => (.inWhere, row) := by
  unfold subfieldConditions
  rcases p.subfields with _ | s <;> rfl

/-- Neither the range nor the values of the subfields are in the text of a plan. -/
theorem blanked_addTo (isDefault : Bool) (range : Float)
    (subfields : Option (SubfieldFilter × Condition))
    (h : subfields.map (·.2.blankedRow q.dialect) = p.subfields.map (·.2.blankedRow q.dialect)) :
    blanked (SearchPlan.addTo
        { p with isDefault := isDefault, range := range, subfields := subfields } q).fragments =
      blanked (p.addTo q).fragments := by
  rw [addTo_eq, addTo_eq]
  refine ElementQuery.blanked_attachAll _ ?_
  have hr : (rangeConditions { p with
        isDefault := isDefault, range := range, subfields := subfields } q.dialect).map
        (·.blankedRow q.dialect) =
      (p.rangeConditions q.dialect).map (·.blankedRow q.dialect) := by
    rw [rangeConditions_eq, rangeConditions_eq]
    simp only
    split
    · exact congrArg (· :: []) (blankedRow_aliasFilter p.distance .le (.float range) _)
    · rfl
  have hs : (subfieldConditions { p with
        isDefault := isDefault, range := range, subfields := subfields }).map
        (·.blankedRow q.dialect) =
      p.subfieldConditions.map (·.blankedRow q.dialect) := by
    rw [blankedRow_subfieldConditions, blankedRow_subfieldConditions, h]
  simp only [conditions, List.map_append]
  rw [hr, hs]
  rfl

/-! ## Values -/

theorem leaves_distance : p.distance.expr.leaves = [] := by
  unfold distance
  rcases p.origin with _ | origin <;> rfl

/-- The range stands in the clause that the dialect allows for it. -/
theorem leaves_rangeConditions (d : Dialect) (placement : Placement) :
    (inClause placement (p.rangeConditions d)).flatMap Condition.leaves =
      if p.origin.isSome ∧ p.radius = none ∧ d.aliasPlacement = placement then
        [.float p.range]
      else [] := by
  have hd := leaves_aliasReference (d := d) p.leaves_distance
  rw [rangeConditions_eq]
  by_cases h : p.origin.isSome ∧ p.radius = none
  · rw [if_pos h, inClause_singleton]
    by_cases hp : d.aliasPlacement = placement <;>
      simp [Dialect.aliasFilter, Dialect.operandReference, Condition.leaves, Expr.leaves, hd, hp, h]
  · rw [if_neg h, if_neg fun h' => h ⟨h'.1, h'.2.1⟩]
    rfl

theorem leaves_subfieldConditions (placement : Placement) :
    (inClause placement p.subfieldConditions).flatMap Condition.leaves =
      if placement = .inWhere then (p.subfields.map Prod.snd).toList.flatMap Condition.leaves
      else [] := by
  unfold subfieldConditions
  rcases p.subfields with _ | s
  · rcases placement with _ | _ <;> rfl
  · rcases placement with _ | _ <;> rfl

theorem leaves_coordsConditions (placement : Placement) :
    (inClause placement p.coordsConditions).flatMap Condition.leaves = [] := by
  unfold coordsConditions
  split <;> rcases placement with _ | _ <;> rfl

theorem leaves_radiusConditions (d : Dialect) (placement : Placement) :
    (inClause placement (p.radiusConditions d)).flatMap Condition.leaves = [] := by
  unfold radiusConditions
  rcases p.radius with _ | f
  · rfl
  · have hd := leaves_aliasReference (d := d) p.leaves_distance
    have hf : (d.aliasReference (Sql.radius f)).leaves = [] := leaves_aliasReference rfl
    simp only [Option.map_some, Option.toList_some, inClause_singleton, Dialect.aliasFilter,
      Dialect.operandReference]
    split <;> simp [Condition.leaves, hd, hf]

theorem leaves_inClause (d : Dialect) (placement : Placement) :
    (inClause placement (p.conditions d)).flatMap Condition.leaves =
      (if p.origin.isSome ∧ p.radius = none ∧ d.aliasPlacement = placement then
        [.float p.range] else []) ++
      if placement = .inWhere then (p.subfields.map Prod.snd).toList.flatMap Condition.leaves
      else [] := by
  rw [conditions, inClause_append, inClause_append, inClause_append, List.flatMap_append,
    List.flatMap_append, List.flatMap_append, leaves_rangeConditions, leaves_subfieldConditions,
    leaves_coordsConditions, leaves_radiusConditions, List.append_nil, List.append_nil]

theorem leaves_shown : p.shown.flatMap Projection.leaves = [] := by
  unfold shown
  rcases p.origin with _ | origin <;> rfl

theorem leaves_radiusColumns : p.radiusColumns.flatMap Projection.leaves = [] := by
  unfold radiusColumns
  rcases p.radius with _ | f <;> rfl

/-- The values that a plan adds to a query. -/
theorem leaves_addTo :
    (p.addTo q).leaves =
      q.selects.flatMap Projection.leaves ++ q.subquerySelects.flatMap Projection.leaves ++
      (q.joins.flatMap Join.leaves ++ [.int p.fieldId]) ++
      (q.wheres.flatMap Condition.leaves ++
        (inClause .inWhere (p.conditions q.dialect)).flatMap Condition.leaves) ++
      (q.havings.flatMap Condition.leaves ++
        (inClause .inHaving (p.conditions q.dialect)).flatMap Condition.leaves) := by
  have hd : Projection.leaves p.distance.projection = [] := p.leaves_distance
  simp only [ElementQuery.leaves, addTo, List.flatMap_append, List.flatMap_cons, leaves_shown,
    leaves_radiusColumns, hd, List.append_nil]
  rfl

end SearchPlan

/-- What the options ask of the subfields that can be filtered on, where `find` is what the geocoder
knows of a target. -/
def SearchOptions.asked (o : SearchOptions) (whitelist : List String)
    (find : Target → Resolution) : Keyed SubfieldValue :=
  SubfieldFilter.allowed whitelist (o.filter find)

theorem restriction_snd_eq (whitelist : List String) (filter : Option SubfieldFilter) :
    (restriction whitelist filter).map Prod.snd =
      Condition.all? ((SubfieldFilter.allowed whitelist filter).filterMap
        (entryCondition addressAlias)) := by
  rw [← subfieldCondition_eq]
  rcases filter with _ | f
  · rfl
  · simp [restriction, Option.map_map, Function.comp_def]

theorem blankedRow_restriction (d : Dialect) {whitelist : List String}
    {filter filter' : Option SubfieldFilter}
    (h : SubfieldFilter.unfilled (SubfieldFilter.allowed whitelist filter') =
      SubfieldFilter.unfilled (SubfieldFilter.allowed whitelist filter)) :
    (restriction whitelist filter').map (·.2.blankedRow d) =
      (restriction whitelist filter).map (·.2.blankedRow d) := by
  have hr (filter : Option SubfieldFilter) :
      (restriction whitelist filter).map (·.2.blankedRow d) =
        ((restriction whitelist filter).map Prod.snd).map (·.blankedRow d) := by
    rw [Option.map_map]
    rfl
  rw [hr, hr, restriction_snd_eq, restriction_snd_eq, Condition.blankedRow_all?,
    Condition.blankedRow_all?, blankedRow_entries, blankedRow_entries, h]

namespace SearchConfig

variable {σ τ : Type} (config : SearchConfig) (field : AddressField) {o o' : SearchOptions}

/-- The range as it is bound in a clause: in the one that the dialect allows for it, if there is a
target and no radius. -/
def boundRange (o : SearchOptions) (d : Dialect) (placement : Placement) : List Param :=
  if o.target.isSome ∧ o.reverseRadius = none ∧ d.aliasPlacement = placement then
    [.float (o.normalizeWith config.range config.units).range]
  else []

theorem leaves_planOf (g : Geocoder σ) (s : σ) {radius : Option LayoutField}
    (hr : radiusField field (o.normalizeWith config.range config.units) = .ok radius)
    (q : ElementQuery) :
    ((config.planOf g field o radius s).addTo q).leaves =
      q.selects.flatMap Projection.leaves ++ q.subquerySelects.flatMap Projection.leaves ++
      (q.joins.flatMap Join.leaves ++ [.int field.id]) ++
      (q.wheres.flatMap Condition.leaves ++ (config.boundRange o q.dialect .inWhere ++
        SubfieldFilter.bound (o.asked config.subfields.whitelist fun t => (g.resolve t s).1))) ++
      (q.havings.flatMap Condition.leaves ++ config.boundRange o q.dialect .inHaving) := by
  have hi : radius = none ↔ o.reverseRadius = none := radius_eq_none_iff field hr
  have hs : ((config.planOf g field o radius s).subfields.map Prod.snd).toList.flatMap
      Condition.leaves =
        SubfieldFilter.bound (o.asked config.subfields.whitelist fun t => (g.resolve t s).1) := by
    rw [planOf_subfields, restriction_snd_eq, Condition.leaves_all?, leaves_entries]
    rfl
  have hrange (placement : Placement) :
      (if (config.planOf g field o radius s).origin.isSome ∧
          (config.planOf g field o radius s).radius = none ∧
          q.dialect.aliasPlacement = placement then
        [Param.float (config.planOf g field o radius s).range] else []) =
        config.boundRange o q.dialect placement := by
    simp only [planOf_origin_isSome, boundRange, ← hi]
    rfl
  rw [SearchPlan.leaves_addTo, SearchPlan.leaves_inClause, SearchPlan.leaves_inClause, hs, hrange,
    hrange, if_pos rfl, if_neg (by decide), List.append_nil]
  rfl

/-- Two searches from one point, with the same units, are planned alike but for the range and the
subfields. -/
theorem planOf_alike {g : Geocoder σ} {g' : Geocoder τ} {s : σ} {s' : τ}
    (radius : Option LayoutField)
    (horigin : (config.planOf g' field o' radius s').origin =
      (config.planOf g field o radius s).origin)
    (hunits : (o'.normalizeWith config.range config.units).units =
      (o.normalizeWith config.range config.units).units)
    (hcoords : o'.requireCoords = o.requireCoords) :
    config.planOf g' field o' radius s' =
      { config.planOf g field o radius s with
        isDefault := (config.planOf g' field o' radius s').isDefault
        range := (config.planOf g' field o' radius s').range
        subfields := (config.planOf g' field o' radius s').subfields } :=
  (SearchPlan.mk.injEq ..).mpr ⟨rfl, rfl, hunits, horigin, rfl, rfl, rfl, hcoords, rfl⟩

theorem radiusField_congr {n n' : NormalizedOptions} (h : n'.reverseRadius = n.reverseRadius) :
    radiusField field n' = radiusField field n := by
  unfold radiusField
  rw [h]

/-- Plans that are alike come to the same text if they ask for as many values of the same
subfields. -/
theorem render_planOf {g : Geocoder σ} {g' : Geocoder τ} {s : σ} {s' : τ}
    (radius : Option LayoutField)
    (horigin : (config.planOf g' field o' radius s').origin =
      (config.planOf g field o radius s).origin)
    (hunits : (o'.normalizeWith config.range config.units).units =
      (o.normalizeWith config.range config.units).units)
    (hcoords : o'.requireCoords = o.requireCoords) (q : ElementQuery)
    (ha : SubfieldFilter.unfilled
        (o'.asked config.subfields.whitelist fun t => (g'.resolve t s').1) =
      SubfieldFilter.unfilled (o.asked config.subfields.whitelist fun t => (g.resolve t s).1)) :
    let out := ((config.planOf g field o radius s).addTo q).render
    let out' := ((config.planOf g' field o' radius s').addTo q).render
    out'.sql = out.sql ∧ out'.params.length = out.params.length := by
  refine ElementQuery.render_congr rfl ?_
  rw [planOf_alike config field radius horigin hunits hcoords]
  refine SearchPlan.blanked_addTo _ q _ _ _ ?_
  rw [planOf_subfields, planOf_subfields]
  exact blankedRow_restriction q.dialect ha

/-- Two searches in one configuration, on the same field and with any geocoders, that measure from
the same point, or both from none, with the same units, and ask alike for coordinates and a radius.
If they ask for as many values of the same subfields, in the same order and of the same kinds, the
statements have the same text and as many values. What a search binds is the number of the field,
the range where there is a target and no radius, and every value of the subfields that can be
filtered on, once and in their order. What is asked of other subfields makes no difference. -/
theorem compile_text (q : ElementQuery) (g : Geocoder σ) (g' : Geocoder τ) (s : σ) (s' : τ)
    {c c' : CompiledSearch} (ho : o ≠ {}) (ho' : o' ≠ {})
    (h : (config.compile g field o q s).result = .ok c)
    (h' : (config.compile g' field o' q s').result = .ok c')
    (horigin : c'.origin = c.origin)
    (hunits : (o'.normalizeWith config.range config.units).units =
      (o.normalizeWith config.range config.units).units)
    (hcoords : o'.requireCoords = o.requireCoords)
    (hradius : o'.reverseRadius = o.reverseRadius) :
    let out := (config.compile g field o q s).query.render
    let out' := (config.compile g' field o' q s').query.render
    let asked := o.asked config.subfields.whitelist fun t => (g.resolve t s).1
    let asked' := o'.asked config.subfields.whitelist fun t => (g'.resolve t s').1
    (SubfieldFilter.unfilled asked' = SubfieldFilter.unfilled asked →
      out'.sql = out.sql ∧ out'.params.length = out.params.length) ∧
    out.params =
      q.selects.flatMap Projection.leaves ++ q.subquerySelects.flatMap Projection.leaves ++
      (q.joins.flatMap Join.leaves ++ [.int field.id]) ++
      (q.wheres.flatMap Condition.leaves ++ (config.boundRange o q.dialect .inWhere ++
        SubfieldFilter.bound asked)) ++
      (q.havings.flatMap Condition.leaves ++ config.boundRange o q.dialect .inHaving) ∧
    (asked' = asked → (o'.normalizeWith config.range config.units).range =
      (o.normalizeWith config.range config.units).range → out' = out) := by
  intro out out' asked asked'
  obtain ⟨radius, hr, rfl, hq⟩ := exists_planOf (SearchOptions.isEmpty_of_ne ho) h
  obtain ⟨radius', hr', rfl, hq'⟩ := exists_planOf (SearchOptions.isEmpty_of_ne ho') h'
  have hn : radiusField field (o'.normalizeWith config.range config.units) =
      radiusField field (o.normalizeWith config.range config.units) :=
    radiusField_congr field hradius
  obtain rfl : radius' = radius := Except.ok.inj (hr'.symm.trans (hn.trans hr))
  have hout : out = ((config.planOf g field o radius' s).addTo q).render :=
    congrArg ElementQuery.render hq
  have hout' : out' = ((config.planOf g' field o' radius' s').addTo q).render :=
    congrArg ElementQuery.render hq'
  have htext (ha : SubfieldFilter.unfilled asked' = SubfieldFilter.unfilled asked) :
      out'.sql = out.sql ∧ out'.params.length = out.params.length := by
    rw [hout, hout']
    exact render_planOf config field radius' horigin hunits hcoords q ha
  have hparams := (congrArg Statement.params hout).trans
    ((ElementQuery.params_render _).trans (leaves_planOf config field g s hr q))
  have hparams' := (congrArg Statement.params hout').trans
    ((ElementQuery.params_render _).trans (leaves_planOf config field g' s' hr' q))
  refine ⟨htext, hparams, fun ha hrange => ?_⟩
  have htarget : o'.target.isSome = o.target.isSome := by
    rw [← planOf_origin_isSome config g' field radius' s',
      ← planOf_origin_isSome config g field radius' s]
    exact congrArg Option.isSome horigin
  have hbound (placement : Placement) :
      config.boundRange o' q.dialect placement = config.boundRange o q.dialect placement := by
    simp only [boundRange, htarget, hradius, hrange]
  have hvalues : out'.params = out.params := by
    refine hparams'.trans (Eq.trans ?_ hparams.symm)
    rw [hbound, hbound]
    exact congrArg (fun asked => _ ++ _ ++ (_ ++ (_ ++ SubfieldFilter.bound asked)) ++ _) ha
  calc out' = ⟨out'.sql, out'.params⟩ := rfl
    _ = out := by rw [(htext (congrArg _ ha)).1, hvalues]

/-- A county that is typed in and one that is found: both are bound, and the quote in the one closes
nothing. The owner cannot be filtered on, with a value or without. -/
theorem compile_text_of_counties :
    let g := (Gazetteer.withResult {} "Cook County" cookCounty).geocoder
    let field : AddressField := ⟨7, "address", fun _ => none⟩
    let q := ElementQuery.new .postgres
    let typed := SubfieldFilter.empty.insert "county" (.scalar "Cook' OR TRUE --")
    let o : SearchOptions := {
      range := some 5
      target := some (.literal standard.location.coords)
      subfields := .explicit typed }
    let found : SearchOptions := {
      target := some (.structured [("address", .string "Cook County")])
      subfields := .fallback }
    let owned := { o with subfields := .explicit (typed.insert "owner" (.list ["$1", "$2"])) }
    let out := (standard.compile g field o q []).query.render
    let out' := (standard.compile g field found q []).query.render
    out'.sql = out.sql ∧ out'.params.length = 3 ∧
      out.params = [.int 7, .float 5, .string "Cook' OR TRUE --"] ∧
      (standard.compile g field owned q []).query.render = out := by
  intro g field q typed o found owned out out'
  have ho : o ≠ {} := fun h => by cases congrArg (·.range.isSome) h
  have hf : found ≠ {} := fun h => by cases congrArg (·.target.isSome) h
  have hw : owned ≠ {} := fun h => by cases congrArg (·.range.isSome) h
  obtain ⟨htext, hparams, -⟩ := compile_text standard field q g g [] [] ho hf rfl rfl rfl rfl rfl
    rfl
  obtain ⟨-, -, hsame⟩ := compile_text standard field q g g [] [] ho hw rfl rfl rfl rfl rfl rfl
  have hp : out.params = [.int 7, .float 5, .string "Cook' OR TRUE --"] := hparams.trans rfl
  obtain ⟨hsql, hlength⟩ := htext (by decide +kernel)
  exact ⟨hsql, hlength.trans (congrArg List.length hp), hp, hsame (by decide +kernel) rfl⟩

end SearchConfig

end Proximity
