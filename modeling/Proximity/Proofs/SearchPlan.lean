import Proximity.Search.Compile

/-!
# The plan of a search

Compiling changes the query and the summary side by side, one step after the other. All that the
steps decide is a plan: where distances are measured from, whether the range counts, which
subfields and coordinates are asked for and which field holds the radius. The plan is made without
the query. What the plan adds to a query depends on the query's dialect alone, and a compiled
search is its plan carried out (`compile_of_ok`).
-/

namespace Proximity

open Sql

/-- What a search asks for, whatever query it is added to. -/
structure SearchPlan where
  fieldId : Int
  fieldHandle : String
  units : Units
  /-- Where distances are measured from; without a target there is no such point. -/
  origin : Option Coordinates
  isDefault : Bool
  range : Float
  /-- The subfields asked for and the condition on them, where there is one. -/
  subfields : Option (SubfieldFilter × Condition)
  requireCoords : Bool
  radius : Option LayoutField

/-- The conditions that stand in a clause. -/
def Sql.inClause (placement : Placement) (cs : List AttachedCondition) : List Condition :=
  (cs.filter fun c => c.placement = placement).map AttachedCondition.condition

theorem Sql.mem_inClause {placement : Placement} {cs : List AttachedCondition} {c : Condition} :
    c ∈ inClause placement cs ↔ ⟨placement, c⟩ ∈ cs := by
  simp only [inClause, List.mem_map, List.mem_filter, decide_eq_true_eq]
  constructor
  · rintro ⟨⟨p, c'⟩, ⟨hmem, rfl⟩, rfl⟩
    exact hmem
  · intro h
    exact ⟨_, ⟨h, rfl⟩, rfl⟩

theorem Sql.inClause_append (placement : Placement) (cs ds : List AttachedCondition) :
    inClause placement (cs ++ ds) = inClause placement cs ++ inClause placement ds := by
  simp [inClause]

namespace SearchPlan

variable (p : SearchPlan)

/-- The distance to the target; without a target it is NULL. -/
def distance : Aliased where
  «alias» := distanceAlias
  expr :=
    match p.origin with
    | some origin => Sql.distance p.units origin latColumn lngColumn
    | none => .null

/-- The condition that the distance is within the range. A radius takes its place. -/
def rangeConditions (d : Dialect) : List AttachedCondition :=
  match p.origin, p.radius with
  | some _, none => [d.aliasFilter p.distance .le (.value (.param (.float p.range)))]
  | _, _ => []

theorem rangeConditions_eq (d : Dialect) :
    p.rangeConditions d =
      if p.origin.isSome ∧ p.radius = none then
        [d.aliasFilter p.distance .le (.value (.param (.float p.range)))]
      else [] := by
  unfold rangeConditions
  rcases p.origin with _ | origin <;> rcases p.radius with _ | f <;> simp

/-- The condition on the subfields. -/
def subfieldConditions : List AttachedCondition :=
  (p.subfields.map fun s => ⟨.inWhere, s.2⟩).toList

/-- The condition that the coordinates are there. -/
def coordsConditions : List AttachedCondition :=
  if p.requireCoords then [⟨.inWhere, Draft.coordsPresent⟩] else []

/-- The condition that the distance is within the radius. -/
def radiusConditions (d : Dialect) : List AttachedCondition :=
  (p.radius.map fun f => d.aliasFilter p.distance .le (.aliased (Sql.radius f))).toList

/-- All conditions in the order in which they are attached. -/
def conditions (d : Dialect) : List AttachedCondition :=
  p.rangeConditions d ++ p.subfieldConditions ++ p.coordsConditions ++ p.radiusConditions d

/-- The columns that the radius is read from and shown in. -/
def radiusColumns : List Projection :=
  match p.radius with
  | some f => [⟨.column contentColumn, none⟩, (Sql.radius f).projection]
  | none => []

/-- The columns that are shown outside. -/
def shown : List Projection :=
  match p.origin with
  | some _ => [⟨.alias distanceAlias, some p.fieldHandle⟩]
  | none => []

/-- The query with all that the plan adds to it. -/
def addTo (q : ElementQuery) : ElementQuery where
  dialect := q.dialect
  selects := q.selects ++ p.shown
  subquerySelects := q.subquerySelects ++ p.distance.projection :: p.radiusColumns
  joins := q.joins ++ [addressJoin p.fieldId]
  wheres := q.wheres ++ inClause .inWhere (p.conditions q.dialect)
  havings := q.havings ++ inClause .inHaving (p.conditions q.dialect)

/-- The summary of what the plan adds to a query. -/
def summary (d : Dialect) : CompiledSearch where
  join := some (addressJoin p.fieldId)
  distance := some p.distance
  conditions := p.conditions d
  reverseRadius := p.radius.map Sql.radius
  origin := p.origin
  usedDefaultOrigin := p.isDefault
  subfields := p.subfields.map Prod.fst

end SearchPlan

namespace Sql.ElementQuery

/-- The query with several conditions in their clauses. -/
def attachAll (q : ElementQuery) (cs : List AttachedCondition) : ElementQuery :=
  { q with
    wheres := q.wheres ++ inClause .inWhere cs
    havings := q.havings ++ inClause .inHaving cs }

theorem attach_eq (q : ElementQuery) (c : AttachedCondition) : q.attach c = q.attachAll [c] := by
  rcases c with ⟨_ | _, c⟩ <;> simp [attach, restrict, attachAll, inClause]

@[simp] theorem attachAll_nil (q : ElementQuery) : q.attachAll [] = q := by
  simp [attachAll, inClause]

@[simp] theorem attachAll_attachAll (q : ElementQuery) (cs ds : List AttachedCondition) :
    (q.attachAll cs).attachAll ds = q.attachAll (cs ++ ds) := by
  simp [attachAll, inClause_append]

@[simp] theorem dialect_attachAll (q : ElementQuery) (cs : List AttachedCondition) :
    (q.attachAll cs).dialect = q.dialect := rfl

end Sql.ElementQuery

/-- The subfields asked for and the condition on them, where they restrict anything. -/
def restriction (whitelist : List String) (filter : Option SubfieldFilter) :
    Option (SubfieldFilter × Condition) :=
  filter.bind fun f => (subfieldCondition whitelist addressAlias f).map fun c => (f, c)

namespace Draft

/-- The draft with several conditions attached and noted. -/
def attachAll (d : Draft) (cs : List AttachedCondition) : Draft where
  query := d.query.attachAll cs
  summary := { d.summary with conditions := d.summary.conditions ++ cs }

theorem attach_eq (d : Draft) (c : AttachedCondition) : d.attach c = d.attachAll [c] := by
  simp [attach, attachAll, ElementQuery.attach_eq]

@[simp] theorem attachAll_nil (d : Draft) : d.attachAll [] = d := by
  simp [attachAll]

@[simp] theorem attachAll_attachAll (d : Draft) (cs ds : List AttachedCondition) :
    (d.attachAll cs).attachAll ds = d.attachAll (cs ++ ds) := by
  simp [attachAll]

theorem requireCoords_eq (d : Draft) (p : SearchPlan) :
    d.requireCoords p.requireCoords = d.attachAll p.coordsConditions := by
  unfold requireCoords SearchPlan.coordsConditions
  split
  · rw [attach_eq]
  · rw [attachAll_nil]

/-- The restriction to subfields, noted where there is a condition on them. -/
theorem restrictTo_eq {d : Draft} (h : d.summary.subfields = none) (whitelist : List String)
    (filter : Option SubfieldFilter) :
    d.restrictTo whitelist filter =
      let r := restriction whitelist filter
      let d' := d.attachAll (r.map fun s => ⟨.inWhere, s.2⟩).toList
      { d' with summary := { d'.summary with subfields := r.map Prod.fst } } := by
  obtain ⟨q, _, _, _, _, _, _, subfields⟩ := d
  cases h
  rcases filter with _ | f
  · simp [restrictTo, restriction]
  · rcases hc : subfieldCondition whitelist addressAlias f with _ | c
    · simp [restrictTo, restriction, hc]
    · simp [restrictTo, restriction, hc, attach_eq]

/-- The radius beside a distance that is known to the draft. -/
theorem withinRadius_eq {d : Draft} {p : SearchPlan} (h : d.summary.distance = some p.distance)
    (hr : d.summary.reverseRadius = none) :
    d.withinRadius p.radius =
      let d' := d.attachAll (p.radiusConditions d.query.dialect)
      { query := { d'.query with
          subquerySelects := d'.query.subquerySelects ++ p.radiusColumns }
        summary := { d'.summary with reverseRadius := p.radius.map Sql.radius } } := by
  obtain ⟨q, _, distance, _, radius, _, _, _⟩ := d
  cases h
  cases hr
  unfold withinRadius SearchPlan.radiusConditions SearchPlan.radiusColumns
  rcases p.radius with _ | f
  · simp
  · simp [attach_eq, attachAll, ElementQuery.attachAll, ElementQuery.subquerySelect, Draft.distance]

end Draft

namespace SearchConfig

variable {σ : Type} (config : SearchConfig) (g : Geocoder σ) (field : AddressField)

/-- The plan of a search whose radius field is known and of whose target all is known that a
lookup can find. -/
def plan (o : NormalizedOptions) (radius : Option LayoutField) (found : Option Resolution) :
    SearchPlan where
  fieldId := field.id
  fieldHandle := field.handle
  units := o.units
  origin := found.map fun r => r.coords.getD config.location.coords
  isDefault := found.any fun r => r.coords.isNone
  range := o.range
  subfields := restriction config.subfields.whitelist
    (o.subfields.effective (o.target.bind fun t => found.bind (o.derived t)))
  requireCoords := o.requireCoords
  radius := radius

/-- What is known of a target, if there is one. -/
def find (target : Option Target) (s : σ) : Option Resolution × σ :=
  match target with
  | none => (none, s)
  | some t => (some (g.resolve t s).1, (g.resolve t s).2)

/-- The distance to the target is added first, with the range unless there is a radius. -/
theorem applyTarget_eq {o : NormalizedOptions} {radius : Option LayoutField}
    (h : radius.isNone = o.reverseRadius.isNone) {d : Draft} (ho : d.summary.origin = none)
    (hu : d.summary.usedDefaultOrigin = false) (s : σ) :
    config.applyTarget g field o d s =
      let found := (find g o.target s).1
      let p := config.plan field o radius found
      let d' : Draft := {
        query := { d.query with
          selects := d.query.selects ++ p.shown
          subquerySelects := d.query.subquerySelects ++ [p.distance.projection] }
        summary := { d.summary with
          distance := some p.distance
          origin := p.origin
          usedDefaultOrigin := p.isDefault } }
      (d'.attachAll (p.rangeConditions d.query.dialect),
        o.target.bind fun t => found.bind (o.derived t), (find g o.target s).2) := by
  obtain ⟨q, _, _, _, _, origin, isDefault, _⟩ := d
  cases ho
  cases hu
  unfold applyTarget find
  rcases ht : o.target with _ | t
  · simp [plan, SearchPlan.shown, SearchPlan.distance, SearchPlan.rangeConditions,
      Draft.withoutTarget, ElementQuery.subquerySelect]
  · rcases radius with _ | f <;> rcases hr : o.reverseRadius with _ | handle <;>
      simp only [hr, Option.isNone_none, Option.isNone_some, reduceCtorEq] at h
    · simp [plan, SearchPlan.shown, SearchPlan.distance, SearchPlan.rangeConditions,
        Draft.measureFrom, Draft.withinRange, Draft.attach_eq, Draft.attachAll, Draft.distance,
        ElementQuery.subquerySelect, ElementQuery.select, ElementQuery.attachAll]
    · simp [plan, SearchPlan.shown, SearchPlan.distance, SearchPlan.rangeConditions,
        Draft.measureFrom, ElementQuery.subquerySelect, ElementQuery.select]

/-- A search is its plan carried out. -/
theorem build_eq {o : NormalizedOptions} {radius : Option LayoutField}
    (h : radius.isNone = o.reverseRadius.isNone) (q : ElementQuery) (s : σ) {p : SearchPlan}
    (hp : config.plan field o radius (find g o.target s).1 = p) :
    config.build g field o radius q s =
      (⟨p.addTo q, p.summary q.dialect⟩, (find g o.target s).2) := by
  have ht := applyTarget_eq config g field h (d := (Draft.mk q {}).joinAddresses field) rfl rfl s
  have hs : restriction config.subfields.whitelist (o.subfields.effective
      (o.target.bind fun t => (find g o.target s).1.bind (o.derived t))) = p.subfields := by
    rw [← hp]; rfl
  have hf : field.id = p.fieldId := by rw [← hp]; rfl
  have hc : o.requireCoords = p.requireCoords := by rw [← hp]; rfl
  have hr : radius = p.radius := by rw [← hp]; rfl
  simp only [build, ht, hp]
  rw [Draft.restrictTo_eq rfl, hs, hc, Draft.requireCoords_eq, hr, Draft.withinRadius_eq rfl rfl]
  simp [Draft.attachAll, Draft.joinAddresses, ElementQuery.attachAll, ElementQuery.join,
    SearchPlan.addTo, SearchPlan.summary, SearchPlan.conditions, SearchPlan.subfieldConditions,
    inClause_append, hf]

theorem radiusField_isNone {o : NormalizedOptions} {radius : Option LayoutField}
    (h : radiusField field o = .ok radius) : radius.isNone = o.reverseRadius.isNone := by
  unfold radiusField at h
  split at h
  · rename_i hr
    cases h
    rw [hr]
    rfl
  · rename_i handle hr
    rw [hr]
    rcases hf : field.radiusField handle with e | f <;> rw [hf] at h <;> cases h
    rfl

theorem radius_eq_none_iff {o : NormalizedOptions} {radius : Option LayoutField}
    (h : radiusField field o = .ok radius) : radius = none ↔ o.reverseRadius = none := by
  rw [← Option.isNone_iff_eq_none, radiusField_isNone field h, Option.isNone_iff_eq_none]

variable {o : SearchOptions}

theorem compile_of_isEmpty (h : o.isEmpty = true) (q : ElementQuery) (s : σ) :
    config.compile g field o q s = ⟨.ok {}, q, s⟩ := by
  rw [compile, if_pos h]

theorem compile_of_error (h : o.isEmpty = false) {e : Error}
    (he : radiusField field (o.normalizeWith config.range config.units) = .error e)
    (q : ElementQuery) (s : σ) :
    config.compile g field o q s = ⟨.error e, q, s⟩ := by
  simp [compile, h, he]

/-- The plan of a search on an address field, from the defaults of the configuration and what the
geocoder knows of the target. -/
def planOf (o : SearchOptions) (radius : Option LayoutField) (s : σ) : SearchPlan :=
  config.plan field (o.normalizeWith config.range config.units) radius (find g o.target s).1

theorem compile_of_ok (h : o.isEmpty = false) {radius : Option LayoutField}
    (hr : radiusField field (o.normalizeWith config.range config.units) = .ok radius)
    (q : ElementQuery) (s : σ) :
    config.compile g field o q s =
      let p := config.planOf g field o radius s
      ⟨.ok (p.summary q.dialect), p.addTo q, (find g o.target s).2⟩ := by
  have hb := config.build_eq g field (radiusField_isNone field hr) q s rfl
  simp only [compile, h, hr, hb]
  rfl

end SearchConfig

end Proximity
