import Mathlib.Data.List.Forall2
import Proximity.Proofs.Account
import Proximity.Sql.Substitution

/-!
# One search in two dialects

A search decides on its plan before the dialect plays any part, so the two dialects are given the
same plan. They part only at conditions on computed columns: MySQL names the column in HAVING,
PostgreSQL repeats its expression in WHERE. Put the expressions that the query shows in the place
of their aliases and the conditions become the same but for parentheses, so both queries keep the
same rows.
-/

namespace Proximity

open Sql

variable {K : Type} [Ring K] [LinearOrder K]

theorem Sql.substitute_subfieldClause {definition? : String → Option Expr}
    {whitelist : List String} {table subfield : String} {value : SubfieldValue} {c : Condition}
    (h : subfieldClause whitelist table subfield value = some c) :
    c.substitute definition? = c := by
  unfold subfieldClause at h
  split at h
  · split at h
    · cases h
    · rename_i tests
      cases h
      refine Condition.substitute_any fun c hc => ?_
      obtain ⟨v, -, rfl⟩ := List.mem_map.mp hc
      rfl
  · cases h

theorem Sql.substitute_subfieldCondition {definition? : String → Option Expr}
    {whitelist : List String} {table : String} {filter : SubfieldFilter} {c : Condition}
    (h : subfieldCondition whitelist table filter = some c) : c.substitute definition? = c := by
  unfold subfieldCondition at h
  split at h
  · cases h
  · cases h
    refine Condition.substitute_all fun c hc => ?_
    obtain ⟨⟨subfield, value⟩, -, hc⟩ := List.mem_filterMap.mp hc
    exact substitute_subfieldClause hc

theorem restriction_substitute {definition? : String → Option Expr} {whitelist : List String}
    {filter : Option SubfieldFilter} {f : SubfieldFilter} {c : Condition}
    (h : restriction whitelist filter = some (f, c)) : c.substitute definition? = c := by
  unfold restriction at h
  obtain ⟨f', -, h⟩ := Option.bind_eq_some_iff.mp h
  obtain ⟨c', hc, he⟩ := Option.map_eq_some_iff.mp h
  cases he
  exact substitute_subfieldCondition hc

namespace SearchPlan

variable (p : SearchPlan)

/-- The plan asks for subfields by a condition without aliases. -/
def Closed : Prop :=
  ∀ definition? s, p.subfields = some s → s.2.substitute definition? = s.2

end SearchPlan

theorem SearchConfig.closed_plan (config : SearchConfig) (field : AddressField)
    (o : NormalizedOptions) (radius : Option LayoutField) (found : Option Resolution) :
    (config.plan field o radius found).Closed := by
  rintro definition? ⟨f, c⟩ h
  exact restriction_substitute h

theorem Sql.Expr.ungrouped_grouped (e : Expr) : e.grouped.ungrouped = e.ungrouped := by
  cases e <;> rfl

/-- What a computed column is compared with is known where its alias stands for its expression or
where it has no alias in it. -/
def Sql.AliasOperand.Known (definition? : String → Option Expr) : AliasOperand → Prop
  | .aliased a => definition? a.alias = some a.expr
  | .value e => e.substitute definition? = e

/-- The reference by alias, once replaced, and the repeated expression differ in parentheses. -/
theorem Sql.substitute_aliasReference {definition? : String → Option Expr} {a : Aliased}
    (h : definition? a.alias = some a.expr) :
    ((Dialect.mysql.aliasReference a).substitute definition?).ungrouped =
      (Dialect.postgres.aliasReference a).ungrouped := by
  simp only [Dialect.aliasReference, Dialect.aliasPlacement, Expr.substitute, h, Option.getD_some,
    Expr.ungrouped_grouped]

theorem Sql.substitute_operandReference {definition? : String → Option Expr} {r : AliasOperand}
    (h : r.Known definition?) :
    ((Dialect.mysql.operandReference r).substitute definition?).ungrouped =
      (Dialect.postgres.operandReference r).ungrouped := by
  rcases r with a | e
  · exact substitute_aliasReference h
  · exact congrArg Expr.ungrouped h

/-- A condition on a computed column means the same in both dialects. -/
theorem Sql.substitute_aliasFilter {definition? : String → Option Expr} {a : Aliased}
    {r : AliasOperand} (ha : definition? a.alias = some a.expr) (hr : r.Known definition?)
    (op : Comparison) :
    ((Dialect.mysql.aliasFilter a op r).condition.substitute definition?).ungrouped =
      (Dialect.postgres.aliasFilter a op r).condition.ungrouped := by
  simp only [Dialect.aliasFilter, Condition.substitute, Condition.ungrouped]
  rw [substitute_aliasReference ha, substitute_operandReference hr]

theorem Sql.inClause_eq_map {placement : Placement} {cs : List AttachedCondition}
    (h : ∀ c ∈ cs, c.placement = placement) : inClause placement cs = cs.map (·.condition) := by
  unfold inClause
  rw [List.filter_eq_self.mpr]
  intro c hc
  exact decide_eq_true (h c hc)

theorem Sql.inClause_eq_nil {placement : Placement} {cs : List AttachedCondition}
    (h : ∀ c ∈ cs, c.placement ≠ placement) : inClause placement cs = [] := by
  unfold inClause
  rw [List.filter_eq_nil_iff.mpr, List.map_nil]
  intro c hc
  simpa using h c hc

namespace SearchPlan

variable (p : SearchPlan)

theorem definition_distance (d : Dialect) :
    (p.addTo (.new d)).definition? p.distance.alias = some p.distance.expr := rfl

theorem definition_radius {f : LayoutField} (h : p.radius = some f) (d : Dialect) :
    (p.addTo (.new d)).definition? (Sql.radius f).alias = some (Sql.radius f).expr := by
  simp [addTo, ElementQuery.definition?, ElementQuery.new, radiusColumns, h, Aliased.projection,
    distance, distanceAlias, radiusAlias, Sql.radius]

/-- Each condition as it stands in MySQL, once its aliases are replaced, is the one that stands in
PostgreSQL, but for parentheses. -/
theorem substitute_conditions (hc : p.Closed) :
    (p.conditions .mysql).map
        (fun a => (a.condition.substitute (p.addTo (.new .mysql)).definition?).ungrouped) =
      (p.conditions .postgres).map fun a => a.condition.ungrouped := by
  have hd := p.definition_distance .mysql
  simp only [conditions, List.map_append]
  refine congrArg₂ _ (congrArg₂ _ (congrArg₂ _ ?_ ?_) ?_) ?_
  · unfold rangeConditions
    split
    · exact congrArg (fun c => [c])
        (substitute_aliasFilter hd (r := .value (.param (.float p.range))) rfl .le)
    · rfl
  · unfold subfieldConditions
    rcases hs : p.subfields with _ | s
    · rfl
    · exact congrArg (fun c => [c.ungrouped]) (hc _ s hs)
  · unfold coordsConditions
    split <;> rfl
  · unfold radiusConditions
    rcases hr : p.radius with _ | f
    · rfl
    · exact congrArg (fun c => [c])
        (substitute_aliasFilter hd (r := .aliased _) (p.definition_radius hr .mysql) .le)

theorem placement_rangeConditions (d : Dialect) :
    ∀ a ∈ p.rangeConditions d, a.placement = d.aliasPlacement := by
  intro a ha
  unfold rangeConditions at ha
  split at ha
  · rw [List.mem_singleton.mp ha]
    rfl
  · cases ha

theorem placement_subfieldConditions : ∀ a ∈ p.subfieldConditions, a.placement = .inWhere := by
  intro a ha
  obtain ⟨s, -, rfl⟩ := Option.map_eq_some_iff.mp (Option.mem_toList.mp ha)
  rfl

theorem placement_coordsConditions : ∀ a ∈ p.coordsConditions, a.placement = .inWhere := by
  intro a ha
  unfold coordsConditions at ha
  split at ha
  · rw [List.mem_singleton.mp ha]
  · cases ha

theorem placement_radiusConditions (d : Dialect) :
    ∀ a ∈ p.radiusConditions d, a.placement = d.aliasPlacement := by
  intro a ha
  obtain ⟨f, -, rfl⟩ := Option.map_eq_some_iff.mp (Option.mem_toList.mp ha)
  rfl

theorem inWhere_mysql :
    inClause .inWhere (p.conditions .mysql) =
      (p.subfieldConditions ++ p.coordsConditions).map (·.condition) := by
  rw [conditions, inClause_append, inClause_append, inClause_append,
    inClause_eq_nil fun a ha => by rw [p.placement_rangeConditions _ a ha]; decide,
    inClause_eq_map p.placement_subfieldConditions, inClause_eq_map p.placement_coordsConditions,
    inClause_eq_nil fun a ha => by rw [p.placement_radiusConditions _ a ha]; decide,
    List.nil_append, List.append_nil, List.map_append]

theorem inHaving_mysql :
    inClause .inHaving (p.conditions .mysql) =
      (p.rangeConditions .mysql ++ p.radiusConditions .mysql).map (·.condition) := by
  have hd : inClause .inHaving (p.rangeConditions .mysql) = _ :=
    inClause_eq_map (p.placement_rangeConditions .mysql)
  have hr : inClause .inHaving (p.radiusConditions .mysql) = _ :=
    inClause_eq_map (p.placement_radiusConditions .mysql)
  rw [conditions, inClause_append, inClause_append, inClause_append, hd, hr,
    inClause_eq_nil fun a ha => by rw [p.placement_subfieldConditions a ha]; decide,
    inClause_eq_nil fun a ha => by rw [p.placement_coordsConditions a ha]; decide,
    List.append_nil, List.append_nil, List.map_append]

theorem placement_postgres : ∀ a ∈ p.conditions .postgres, a.placement = .inWhere := by
  intro a ha
  simp only [conditions, List.mem_append] at ha
  rcases ha with ((ha | ha) | ha) | ha
  · exact p.placement_rangeConditions .postgres a ha
  · exact p.placement_subfieldConditions a ha
  · exact p.placement_coordsConditions a ha
  · exact p.placement_radiusConditions .postgres a ha

theorem inHaving_postgres : inClause .inHaving (p.conditions .postgres) = [] :=
  inClause_eq_nil fun a ha => by rw [p.placement_postgres a ha]; decide

/-! ## The rows kept -/

variable (I : Interpretation K)

/-- The conditions in WHERE of MySQL name no alias. -/
theorem truth_defining (hc : p.Closed) (definition? : String → Option Expr) :
    ∀ a ∈ p.subfieldConditions ++ p.coordsConditions,
      a.condition.truth I = a.condition.truth (I.defining definition?) := by
  intro a ha
  rw [← Condition.truth_substitute]
  rcases List.mem_append.mp ha with ha | ha
  · obtain ⟨s, hs, rfl⟩ := Option.map_eq_some_iff.mp (Option.mem_toList.mp ha)
    rw [show s.2.substitute definition? = s.2 from hc _ s hs]
  · unfold coordsConditions at ha
    split at ha
    · rw [List.mem_singleton.mp ha]
      rfl
    · cases ha

/-- A row is kept in MySQL if all conditions hold in it with the aliases as they are defined. -/
theorem keeps_mysql (hc : p.Closed) :
    (p.addTo (.new .mysql)).Keeps I ↔ ∀ a ∈ p.conditions .mysql,
      a.condition.truth (I.defining (p.addTo (.new .mysql)).definition?) = some true := by
  let q := p.addTo (.new .mysql)
  have hw : q.wheres = (p.subfieldConditions ++ p.coordsConditions).map (·.condition) :=
    p.inWhere_mysql
  have hh : q.havings =
      (p.rangeConditions .mysql ++ p.radiusConditions .mysql).map (·.condition) :=
    p.inHaving_mysql
  have ht : (∀ a ∈ p.subfieldConditions ++ p.coordsConditions, a.condition.truth I = some true) ↔
      ∀ a ∈ p.subfieldConditions ++ p.coordsConditions,
        a.condition.truth (I.defining q.definition?) = some true :=
    forall₂_congr fun a ha => by rw [p.truth_defining I hc q.definition? a ha]
  unfold ElementQuery.Keeps
  rw [Condition.truth_conj, Condition.truth_conj, hw, hh, List.forall_mem_map, List.forall_mem_map,
    ht]
  simp only [conditions, List.forall_mem_append]
  tauto

theorem keeps_postgres :
    (p.addTo (.new .postgres)).Keeps I ↔
      ∀ a ∈ p.conditions .postgres, a.condition.truth I = some true := by
  have hw : (p.addTo (.new .postgres)).wheres = (p.conditions .postgres).map (·.condition) :=
    inClause_eq_map p.placement_postgres
  have hh : (p.addTo (.new .postgres)).havings = [] := p.inHaving_postgres
  unfold ElementQuery.Keeps
  rw [Condition.truth_conj, Condition.truth_conj, hw, hh, List.forall_mem_map]
  simp

theorem keeps_iff (hc : p.Closed) :
    (p.addTo (.new .mysql)).Keeps I ↔ (p.addTo (.new .postgres)).Keeps I := by
  have h := p.substitute_conditions hc
  rw [keeps_mysql p I hc, keeps_postgres]
  calc (∀ a ∈ p.conditions .mysql, a.condition.truth (I.defining _) = some true)
      ↔ ∀ c ∈ (p.conditions .mysql).map (fun a =>
          (a.condition.substitute (p.addTo (.new .mysql)).definition?).ungrouped),
            c.truth I = some true := by
        simp only [List.forall_mem_map, Condition.truth_ungrouped, Condition.truth_substitute]
    _ ↔ ∀ c ∈ (p.conditions .postgres).map (fun a => a.condition.ungrouped),
          c.truth I = some true := by rw [h]
    _ ↔ ∀ a ∈ p.conditions .postgres, a.condition.truth I = some true := by
        simp only [List.forall_mem_map, Condition.truth_ungrouped]

end SearchPlan

/-! ## The outcomes in both dialects -/

/-- What a search has in common in MySQL and in PostgreSQL. The summaries `c` and `c'` differ in the
conditions alone, and the queries `q` and `q'` in where the conditions stand. -/
structure CompiledSearch.Mirrors (o : SearchOptions) (range : Float) (c c' : CompiledSearch)
    (q q' : ElementQuery) : Prop where
  join : c.join = c'.join
  distance : c.distance = c'.distance
  reverseRadius : c.reverseRadius = c'.reverseRadius
  origin : c.origin = c'.origin
  usedDefaultOrigin : c.usedDefaultOrigin = c'.usedDefaultOrigin
  subfields : c.subfields = c'.subfields
  joins : q.joins = q'.joins
  selects : q.selects = q'.selects
  subquerySelects : q.subquerySelects = q'.subquerySelects
  /-- The conditions are the same one by one, once the aliases in those for MySQL are replaced by
  what the query shows under them, up to parentheses. -/
  conditions : List.Forall₂
    (fun a a' => (a.condition.substitute q.definition?).ungrouped = a'.condition.ungrouped)
    c.conditions c'.conditions
  /-- The same rows are kept, whatever the columns, functions and JSON access are. -/
  keeps : ∀ (K : Type) [Ring K] [LinearOrder K] (I : Interpretation K), q.Keeps I ↔ q'.Keeps I
  /-- In MySQL the range and the radius stand in HAVING and nothing else. -/
  havings : q.havings =
    (if o.target.isSome ∧ c.reverseRadius = none then
      [.compare .le (.alias "distance") (.param (.float range))] else []) ++
    c.reverseRadius.toList.map fun _ => .compare .le (.alias "distance") (.alias "gm_reverseRadius")
  /-- In PostgreSQL nothing stands in HAVING. -/
  havings' : q'.havings = []
  /-- Without a target the comparison with the radius is unknown in every row. -/
  unknown : ∀ radius, c.reverseRadius = some radius → o.target = none →
    ∀ (K : Type) [Ring K] [LinearOrder K] (I : Interpretation K),
      (Condition.compare .le (.alias "distance") (.alias "gm_reverseRadius")).truth
          (I.defining q.definition?) = none ∧
        .compare .le (.group .null) (.group radius.expr) ∈ q'.wheres ∧
          (Condition.compare .le (.group .null) (.group radius.expr)).truth I = none ∧
            ¬ q.Keeps I ∧ ¬ q'.Keeps I

/-- A search comes out alike in MySQL and in PostgreSQL: it fails with the same error, or both
summaries and queries are the same but for the conditions on computed columns. -/
def Outcome.Mirrors {σ : Type} (o : SearchOptions) (range : Float) (my pg : Outcome σ) : Prop :=
  my.state = pg.state ∧
    match my.result, pg.result with
    | .ok c, .ok c' => c.Mirrors o range c' my.query pg.query
    | .error e, .error e' => e = e'
    | _, _ => False

/-- Nothing is asked for, and nothing is added in either dialect. -/
theorem CompiledSearch.mirrors_empty (range : Float) :
    CompiledSearch.Mirrors {} range {} {} (.new .mysql) (.new .postgres) where
  join := rfl
  distance := rfl
  reverseRadius := rfl
  origin := rfl
  usedDefaultOrigin := rfl
  subfields := rfl
  joins := rfl
  selects := rfl
  subquerySelects := rfl
  conditions := .nil
  keeps _ _ _ _ := Iff.rfl
  havings := rfl
  havings' := rfl
  unknown _ h := by cases h

namespace SearchPlan

variable (p : SearchPlan)

theorem havings_mysql {o : SearchOptions} (ho : p.origin.isSome = o.target.isSome) :
    (p.addTo (.new .mysql)).havings =
      (if o.target.isSome ∧ p.radius.map Sql.radius = none then
        [.compare .le (.alias "distance") (.param (.float p.range))] else []) ++
      (p.radius.map Sql.radius).toList.map fun _ =>
        .compare .le (.alias "distance") (.alias "gm_reverseRadius") := by
  have h : (p.addTo (.new .mysql)).havings =
      (p.rangeConditions .mysql ++ p.radiusConditions .mysql).map (·.condition) :=
    p.inHaving_mysql
  rw [h, ← ho]
  unfold rangeConditions radiusConditions
  rcases p.origin with _ | origin <;> rcases p.radius with _ | f <;> rfl

/-- Without a target the distance is NULL, and so it is compared with the radius in vain. -/
theorem radius_unknown {f : LayoutField} (hp : p.origin = none) (hr : p.radius = some f)
    (I : Interpretation K) :
    let radius := Sql.radius f
    (Condition.compare .le (.alias "distance") (.alias "gm_reverseRadius")).truth
        (I.defining (p.addTo (.new .mysql)).definition?) = none ∧
      .compare .le (.group .null) (.group radius.expr) ∈ (p.addTo (.new .postgres)).wheres ∧
        (Condition.compare .le (.group .null) (.group radius.expr)).truth I = none := by
  have hd : p.distance.expr = .null := by
    unfold distance
    rw [hp]
  refine ⟨?_, ?_, rfl⟩
  · have hv : (Expr.alias "distance").value (I.defining (p.addTo (.new .mysql)).definition?) =
        p.distance.expr.value I := rfl
    rw [Condition.truth, hv, hd]
    rfl
  · refine List.mem_append_right _ (mem_inClause.mpr (List.mem_append_right _ ?_))
    unfold radiusConditions
    rw [hr, Option.map_some, Option.toList_some, List.mem_singleton]
    simp only [Dialect.aliasFilter, Dialect.aliasReference, Dialect.operandReference,
      Dialect.aliasPlacement, hd]
    rfl

theorem mirrors {o : SearchOptions} (hc : p.Closed) (ho : p.origin.isSome = o.target.isSome) :
    (p.summary .mysql).Mirrors o p.range (p.summary .postgres) (p.addTo (.new .mysql))
      (p.addTo (.new .postgres)) where
  join := rfl
  distance := rfl
  reverseRadius := rfl
  origin := rfl
  usedDefaultOrigin := rfl
  subfields := rfl
  joins := rfl
  selects := rfl
  subquerySelects := rfl
  conditions := by
    have h := p.substitute_conditions hc
    rw [← List.forall₂_eq_eq_eq, List.forall₂_map_left_iff, List.forall₂_map_right_iff] at h
    exact h
  keeps _ _ _ I := p.keeps_iff I hc
  havings := p.havings_mysql ho
  havings' := p.inHaving_postgres
  unknown radius hr ht K _ _ I := by
    have hp : p.origin = none := by
      rw [← Option.not_isSome_iff_eq_none, ho, ht]
      exact Bool.false_ne_true
    obtain ⟨f, hf, rfl⟩ := Option.map_eq_some_iff.mp hr
    obtain ⟨h₁, h₂, h₃⟩ := p.radius_unknown hp hf I
    have hk : ¬ (p.addTo (.new .postgres)).Keeps I := fun hk => by
      have := Condition.truth_conj.mp hk.1 _ h₂
      rw [h₃] at this
      cases this
    exact ⟨h₁, h₂, h₃, fun h => hk ((p.keeps_iff I hc).mp h), hk⟩

end SearchPlan

/-- A search comes out alike in both dialects. -/
theorem SearchConfig.compile_mirrors {σ : Type} (config : SearchConfig) (g : Geocoder σ)
    (field : AddressField) (o : SearchOptions) (s : σ) :
    (config.compile g field o (.new .mysql) s).Mirrors o
      (o.normalizeWith config.range config.units).range
      (config.compile g field o (.new .postgres) s) := by
  rcases he : o.isEmpty with _ | _
  · rcases hr : radiusField field (o.normalizeWith config.range config.units) with e | radius
    · rw [compile_of_error config g field he hr, compile_of_error config g field he hr]
      exact ⟨rfl, rfl⟩
    · rw [compile_of_ok config g field he hr, compile_of_ok config g field he hr]
      have ho := planOf_origin_isSome config g field radius s (o := o)
      exact ⟨rfl, (config.planOf g field o radius s).mirrors (closed_plan config field _ _ _) ho⟩
  · rw [compile_of_isEmpty config g field he, compile_of_isEmpty config g field he]
    rw [SearchOptions.isEmpty_iff.mp he]
    exact ⟨rfl, CompiledSearch.mirrors_empty _⟩

end Proximity
