import Mathlib.Tactic.NormNum
import Proximity.Proofs.QueryReading
import Proximity.Proofs.ReadMeaning

/-!
# Rendering preserves meaning

Expressions and conditions of any depth, and element queries as a whole, are read back from their
texts as something that means the same in every row. Names, functions and JSON columns may stand
for anything; the k-th placeholder stands for the k-th value bound.
-/

namespace Proximity

namespace Sql

open Fragment

variable {I : Interpretation ℚ} {vs : List Param} {d : Dialect}

/-- The queries that can be built: new ones, and what is added to them. -/
inductive ElementQuery.Built : ElementQuery → Prop
  | new (d : Dialect) : Built (.new d)
  | join {q : ElementQuery} (j : Join) : q.Built → Built (q.join j)
  | subquerySelect {q : ElementQuery} (p : Projection) : q.Built → Built (q.subquerySelect p)
  | select {q : ElementQuery} (p : Projection) : q.Built → Built (q.select p)
  | restrict {q : ElementQuery} (placement : Placement) (c : Condition) :
    q.Built → Built (q.restrict placement c)

theorem ElementQuery.Built.shows {q : ElementQuery} (h : q.Built) : q.subquerySelects ≠ [] := by
  induction h with
  | new d => exact List.cons_ne_nil _ _
  | join j _ ih => exact ih
  | subquerySelect p _ ih => exact List.append_ne_nil_of_left_ne_nil ih _
  | select p _ ih => exact ih
  | restrict placement c _ ih => rcases placement with _ | _ <;> exact ih

/-- A column that is read shows the value of a column of the query, under the same alias. -/
def ShownAs (I : Interpretation ℚ) (vs : List Param) (column : Tree × Option String)
    (p : Projection) : Prop :=
  column.1.value I vs = p.expr.value I ∧ column.2 = p.alias?

/-- A joined table with its alias and the condition that it is joined under. -/
def Join.entry (j : Join) : String × Option String × Condition :=
  (j.table, some j.alias, j.on)

/-- All joined tables of a query, the sites of its elements first. -/
def ElementQuery.tables (q : ElementQuery) : List (String × Option String × Condition) :=
  (sitesTable, none, siteCondition) :: q.joins.map Join.entry

/-- A table that is read is a joined table of the query, under a condition with the same truth
value. -/
def JoinedAs (I : Interpretation ℚ) (vs : List Param) (table : String × Option String × Tree)
    (entry : String × Option String × Condition) : Prop :=
  table.1 = entry.1 ∧ table.2.1 = entry.2.1 ∧
    table.2.2.value I vs = (entry.2.2.truth I).toValue

/-- A clause that is read is true, false or NULL as all conditions together are true, false or
unknown. Where there is no clause, it counts as true. -/
def ClauseAs (I : Interpretation ℚ) (vs : List Param) (clause? : Option Tree)
    (cs : List Condition) : Prop :=
  (clause?.map (·.value I vs)).getD (.truth true) = ((Condition.conj cs).truth I).toValue

/-- What is read from the text of a query means what the query means. -/
structure ReadQuery.Means (I : Interpretation ℚ) (vs : List Param) (r : ReadQuery)
    (q : ElementQuery) : Prop where
  selects : List.Forall₂ (ShownAs I vs) r.selects q.selects
  subquerySelects : List.Forall₂ (ShownAs I vs) r.subquerySelects q.subquerySelects
  joins : List.Forall₂ (JoinedAs I vs) r.joins q.tables
  wheres : ClauseAs I vs r.wheres q.wheres
  havings : ClauseAs I vs r.havings q.havings

theorem params_projection (p : Projection) :
    params (p.fragments d) = params (p.expr.fragments d) := by
  obtain ⟨e, _ | ident⟩ := p
  · rfl
  · simp [Projection.fragments]

theorem params_join (j : Join) : params (j.fragments d) = params (j.on.fragments d) := by
  simp [Join.fragments]

/-- The columns that are read show the values of the columns that were written. -/
theorem shownAs_columnTrees (hI : I.Literal) : ∀ {ps : List Projection},
    (∀ p ∈ ps, p.expr.Plain) → ∀ n,
      params (separate ", " (ps.map (·.fragments d))) <+: vs.drop n →
        List.Forall₂ (ShownAs I vs) (columnTrees d n ps) ps
  | [], _, _, _ => .nil
  | p :: ps, h, n, hp => by
    rw [List.map_cons, params_separate] at hp
    obtain ⟨hc, hcs⟩ := prefix_append hp
    rw [params_projection] at hc
    have hv := Expr.value_tree hI (h p List.mem_cons_self) n hc none
    exact .cons ⟨hv, rfl⟩
      (shownAs_columnTrees hI (fun x hx => h x (List.mem_cons_of_mem p hx)) (n + p.bound d) hcs)

/-- The tables that are read are joined under the conditions that were written. -/
theorem joinedAs_joinTrees (hI : I.Literal) : ∀ {js : List Join}, (∀ j ∈ js, j.on.Plain) → ∀ n,
    params (js.flatMap (·.fragments d)) <+: vs.drop n →
      List.Forall₂ (JoinedAs I vs) (joinTrees d n js) (js.map Join.entry)
  | [], _, _, _ => .nil
  | j :: js, h, n, hp => by
    rw [List.flatMap_cons, params_append] at hp
    obtain ⟨hj, hjs⟩ := prefix_append hp
    rw [params_join] at hj
    have hv := Condition.value_tree hI (h j List.mem_cons_self) n hj
    exact .cons ⟨rfl, rfl, hv⟩
      (joinedAs_joinTrees hI (fun x hx => h x (List.mem_cons_of_mem j hx)) (n + j.bound d) hjs)

theorem clauseAs_clauseTree? (hI : I.Literal) {w : String} {cs : List Condition}
    (h : Condition.PlainAll cs) (n : Nat) (hp : params (clause d w cs) <+: vs.drop n) :
    ClauseAs I vs (clauseTree? d n cs) cs := by
  rcases cs with _ | ⟨c, cs⟩
  · rfl
  · have hp' : params (separate " AND " (Condition.fragmentsAll d (c :: cs))) <+: vs.drop n := by
      rw [Condition.fragmentsAll_eq_map]
      exact hp
    exact Condition.value_chain hI (.inl rfl) h n none (fun _ => rfl) hp'

namespace ElementQuery

variable {q : ElementQuery}

theorem params_statement : q.statement.params = params q.outerFragments ++
    (params q.innerFragments ++ (params q.joinFragments ++
      (params (clause q.dialect "WHERE" q.wheres) ++
        params (clause q.dialect "HAVING" q.havings)))) := by
  change params q.fragments = _
  simp [fragments, subquery, outerFragments, innerFragments, joinFragments, params_source]

/-- What is read back from the text of a query means what the query means. -/
theorem means_readBack (hI : I.Literal) (h : q.Plain) :
    ReadQuery.Means I q.statement.params q.readBack q := by
  have hall : params q.outerFragments ++ (params q.innerFragments ++ (params q.joinFragments ++
      (params (clause q.dialect "WHERE" q.wheres) ++
        params (clause q.dialect "HAVING" q.havings)))) <+: q.statement.params.drop 0 := by
    rw [params_statement]
    exact List.prefix_rfl
  -- Each part takes the values from where those of the parts before it end.
  obtain ⟨houter, hall⟩ := prefix_append hall
  obtain ⟨hinner, hall⟩ := prefix_append hall
  obtain ⟨hjoins, hall⟩ := prefix_append hall
  obtain ⟨hwheres, hhavings⟩ := prefix_append hall
  rw [Nat.zero_add] at hinner hjoins hwheres hhavings
  have hsite : siteCondition.Plain := ⟨trivial, trivial⟩
  have hsites : JoinedAs I q.statement.params
      (sitesTable, none, siteCondition.tree q.dialect q.joinStart)
      (sitesTable, none, siteCondition) :=
    ⟨rfl, rfl, Condition.value_tree hI hsite q.joinStart List.nil_prefix⟩
  rw [outerFragments, params_separate] at houter
  exact {
    selects := shownAs_columnTrees hI h.selects 0 houter
    subquerySelects := shownAs_columnTrees hI h.subquerySelects q.innerStart hinner
    joins := .cons hsites (joinedAs_joinTrees hI h.joins q.joinStart hjoins)
    wheres := clauseAs_clauseTree? hI h.wheres q.whereStart hwheres
    havings := clauseAs_clauseTree? hI h.havings q.havingStart hhavings }

end ElementQuery

theorem Expr.read?_statement {e : Expr} (h : e.Plain) :
    Tree.read? d (e.statement d).sql = some (e.tree d 0 none) := by
  have hl := Expr.lexes (d := d) h 0 [] boundary_nil
  rw [List.append_nil, lex_nil, Option.map_some, List.append_nil] at hl
  rw [Tree.read?, show lex d 0 (e.statement d).sql.toList = _ from hl]
  exact ofTokens?_of_ends ((Expr.reads h).alone 0 trivial)

theorem Condition.read?_statement {c : Condition} (h : c.Plain) :
    Tree.read? d (c.statement d).sql = some (c.tree d 0) := by
  have hl := Condition.lexes (d := d) h 0 [] boundary_nil
  rw [List.append_nil, lex_nil, Option.map_some, List.append_nil] at hl
  rw [Tree.read?, show lex d 0 (c.statement d).sql.toList = _ from hl]
  exact ofTokens?_of_ends ((Condition.reads h).whole 0 [] trivial)

/-- Expressions have the value, and conditions the truth value, of what is read back from their
texts; so have all the parts of an element query. -/
theorem rendering_preserves_meaning :
    (∀ (d : Dialect) (e : Expr), e.Plain → ∃ t, Tree.read? d (e.statement d).sql = some t ∧
      ∀ I : Interpretation ℚ, I.Literal → t.value I (e.statement d).params = e.value I) ∧
    (∀ (d : Dialect) (c : Condition), c.Plain → ∃ t, Tree.read? d (c.statement d).sql = some t ∧
      ∀ I : Interpretation ℚ, I.Literal →
        t.value I (c.statement d).params = (c.truth I).toValue) ∧
    ∀ q : ElementQuery, q.Built → q.Plain →
      ∃ r, ReadQuery.read? q.dialect q.statement.sql = some r ∧
        ∀ I : Interpretation ℚ, I.Literal → r.Means I q.statement.params q := by
  refine ⟨fun d e h => ?_, fun d c h => ?_, fun q hb h => ?_⟩
  · exact ⟨_, Expr.read?_statement h, fun I hI => Expr.value_tree hI h 0 List.prefix_rfl none⟩
  · exact ⟨_, Condition.read?_statement h, fun I hI =>
      Condition.value_tree hI h 0 List.prefix_rfl⟩
  · exact ⟨_, ElementQuery.read?_statement h hb.shows, fun I hI =>
      ElementQuery.means_readBack hI h⟩

/-- All bound values are two. -/
def twos : Interpretation ℚ where
  column _ := .null
  «alias» _ := .null
  param _ := .number 2
  float := Decimal.ofFloat
  function _ _ := .null
  json _ _ := .null
  coerced _ := none
  collated _ _ _ := none

/-- The difference `5 - (1 + ?)`. -/
def difference : Expr :=
  .binary .sub (.int 5) (.binary .add (.int 1) (.param (.int 2)))

/-- The condition `NOT (5 - (1 + ?) <= 1 OR 5 - (1 + ?) IS NULL)`. -/
def exceeding : Condition :=
  .neg (.disj [.compare .le difference (.int 1), .isNull difference])

/-- The elements for which the condition holds. -/
def exceedingElements : ElementQuery :=
  (ElementQuery.new .postgres).restrict .inWhere exceeding

theorem value_difference : difference.value twos = .number 2 := by
  have h : (5 : ℚ) - (1 + 2) = 2 := by norm_num
  exact congrArg Value.number h

theorem truth_exceeding : exceeding.truth twos = some true := by
  have h : twos.compare .le (.number 2) (.number 1) = some false := by
    simp [Interpretation.compare, Comparison.holds]
  have hone : Expr.value twos (.int 1) = .number 1 := rfl
  simp only [exceeding, Condition.truth, Condition.truths, value_difference, hone, h]
  rfl

theorem plain_exceedingElements : exceedingElements.Plain where
  selects := by simp [exceedingElements, ElementQuery.restrict, ElementQuery.new]
  subquerySelects := by
    simp [exceedingElements, ElementQuery.restrict, ElementQuery.new, Expr.Plain]
  joins := by simp [exceedingElements, ElementQuery.restrict, ElementQuery.new]
  wheres := by
    simp [exceedingElements, ElementQuery.restrict, ElementQuery.new, exceeding, difference,
      Condition.PlainAll, Condition.Plain, Expr.Plain]
  havings := trivial

/-- Parentheses around the right side of a difference and around the conditions behind NOT are
read back. -/
theorem rendering_preserves_meaning_exceeding :
    (∃ t, Tree.read? .mysql (difference.statement .mysql).sql = some t ∧
      t.value twos (difference.statement .mysql).params = .number 2) ∧
    (∃ t, Tree.read? .postgres (exceeding.statement .postgres).sql = some t ∧
      t.value twos (exceeding.statement .postgres).params = .truth true) ∧
    ∃ r, ReadQuery.read? .postgres exceedingElements.statement.sql = some r ∧
      r.Means twos exceedingElements.statement.params exceedingElements := by
  have hI : twos.Literal := ⟨fun _ => rfl, fun _ _ => rfl⟩
  have he : difference.Plain := ⟨trivial, trivial, trivial⟩
  have hc : exceeding.Plain := ⟨⟨he, trivial⟩, he, trivial⟩
  obtain ⟨hexpr, hcond, hquery⟩ := rendering_preserves_meaning
  obtain ⟨t, ht, hv⟩ := hexpr .mysql difference he
  obtain ⟨t', ht', hv'⟩ := hcond .postgres exceeding hc
  obtain ⟨r, hr, hm⟩ := hquery exceedingElements (.restrict _ _ (.new _)) plain_exceedingElements
  refine ⟨⟨t, ht, ?_⟩, ⟨t', ht', ?_⟩, r, hr, hm twos hI⟩
  · rw [hv twos hI, value_difference]
  · rw [hv' twos hI, truth_exceeding]
    rfl

end Sql

end Proximity
