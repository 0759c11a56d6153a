import Proximity.Proofs.QueryTokens
import Proximity.Sql.Writer

/-!
# Writing in one walk

What is written in one walk with a growing list of values is what the fragments spell: a tree
writes its fragments behind the values that are there already and puts its own behind them
(`Writes`). The walk visits the parts of a tree in the order in which their fragments stand, and
so the texts fit together however they are assembled (`render_eq_statement`).
-/

namespace Proximity

namespace Sql

namespace Fragment

variable {d : Dialect} {n : Nat}

@[simp] theorem spellAll_nil : spellAll d n [] = "" := rfl

@[simp] theorem spellAll_text (s : String) (fs : List Fragment) :
    spellAll d n (.text s :: fs) = s ++ spellAll d n fs := rfl

@[simp] theorem spellAll_name (name : String) (fs : List Fragment) :
    spellAll d n (.name name :: fs) = d.quote name ++ spellAll d n fs := rfl

@[simp] theorem spellAll_literal (s : String) (fs : List Fragment) :
    spellAll d n (.literal s :: fs) = enclosed '\'' s ++ spellAll d n fs := rfl

@[simp] theorem spellAll_bound (p : Param) (fs : List Fragment) :
    spellAll d n (.bound p :: fs) = d.placeholder (n + 1) ++ spellAll d (n + 1) fs := rfl

theorem spellAll_separate (s : String) : ∀ (rows : List (List Fragment)) {n : Nat},
    spellAll d n (separate s rows) = s.intercalate (spellRows d n rows)
  | [], n => by simp [separate, spellRows]
  | [row], n => by simp [separate, spellRows]
  | row :: row' :: rows, n => by
    have ih := spellAll_separate s (row' :: rows) (n := n + (params row).length)
    rw [separate, spellAll_append, spellAll_text, ih]
    · simp [spellRows, String.append_assoc]
    · exact List.cons_ne_nil row' rows

theorem params_separate_flatten (s : String) : ∀ rows : List (List Fragment),
    params (separate s rows) = params rows.flatten
  | [] => rfl
  | [row] => by simp [separate]
  | row :: row' :: rows => by
    have ih := params_separate_flatten s (row' :: rows)
    have hs : separate s (row :: row' :: rows) = row ++ .text s :: separate s (row' :: rows) := rfl
    rw [hs, params_append, params_text, ih, ← params_append, ← List.flatten_cons]

theorem spellAll_flatten (rows : List (List Fragment)) :
    spellAll d n rows.flatten = String.join (spellRows d n rows) := by
  induction rows generalizing n with
  | nil => simp [spellRows]
  | cons row rows ih => rw [List.flatten_cons, spellAll_append, ih, spellRows, String.join_cons]

theorem spellAll_parenthesized (fs : List Fragment) :
    spellAll d n (parenthesized fs) = inParens (spellAll d n fs) := by
  simp [parenthesized, inParens, spellAll_append, String.append_assoc]

end Fragment

open Fragment

variable {d : Dialect}

/-- What is written is a row of fragments, behind the values that are there already. -/
def Writes (d : Dialect) (w : Writer) (fs : List Fragment) : Prop :=
  ∀ vs, w vs = (spellAll d vs.length fs, vs ++ params fs)

/-- What is written are several rows of fragments, one after the other. -/
def WritesAll (d : Dialect) (w : List Param → List String × List Param)
    (rows : List (List Fragment)) : Prop :=
  ∀ vs, w vs = (spellRows d vs.length rows, vs ++ params rows.flatten)

theorem WritesAll.cons {w : Writer} {ws : List Param → List String × List Param}
    {row : List Fragment} {rows : List (List Fragment)} (h : Writes d w row)
    (hs : WritesAll d ws rows) :
    WritesAll d (fun vs => ((w vs).1 :: (ws (w vs).2).1, (ws (w vs).2).2)) (row :: rows) := by
  intro vs
  simp only [h vs, hs (vs ++ params row)]
  simp [spellRows]

theorem Writes.each {α : Type} {write : α → Writer} {row : α → List Fragment}
    (h : ∀ a, Writes d (write a) (row a)) :
    ∀ as : List α, WritesAll d (Writer.each write as) (as.map row)
  | [] => fun vs => by simp [Writer.each, spellRows]
  | a :: as => WritesAll.cons (h a) (Writes.each h as)

theorem writes_column (c : Column) : Writes d (fun vs => (c.sql d, vs)) c.fragments := by
  intro vs
  rcases c with ⟨_ | table, name⟩ <;> simp [Column.sql, Column.fragments]

theorem extractNumber_mysql (column key : String) :
    Dialect.mysql.extractNumber column key =
      "JSON_EXTRACT(" ++ column ++ ", " ++ enclosed '\'' ("$.\"" ++ key ++ "\"") ++ ")" := rfl

theorem extractNumber_postgres (column key : String) :
    Dialect.postgres.extractNumber column key =
      "CAST((" ++ column ++ "->>" ++ enclosed '\'' key ++ ") AS DOUBLE PRECISION)" := rfl

theorem writes_jsonAccess (c : Column) (key : String) :
    Writes d (fun vs => (d.extractNumber (c.sql d) key, vs)) (jsonAccess d c.fragments key) := by
  intro vs
  have hc : c.sql d = spellAll d vs.length c.fragments :=
    congrArg Prod.fst (writes_column (d := d) c vs)
  rcases d with _ | _
  · simp [hc, extractNumber_mysql, jsonAccess, spellAll_append, params_column, String.append_assoc]
  · simp [hc, extractNumber_postgres, jsonAccess, spellAll_append, params_column,
      String.append_assoc]

theorem spellAll_operand (e : Expr) (outer : ArithOp) (onRight : Bool) (n : Nat)
    (fs : List Fragment) :
    spellAll d n (e.operand outer onRight fs) = e.operandText outer onRight (spellAll d n fs) := by
  unfold Expr.operand Expr.operandText
  split
  · exact spellAll_parenthesized fs
  · rfl

theorem Writes.pair {w w' : Writer} {fs gs fs' gs' : List Fragment} {f g : String → String}
    {sign : String} (h : Writes d w fs) (h' : Writes d w' gs)
    (hf : ∀ n, spellAll d n fs' = f (spellAll d n fs)) (hfp : params fs' = params fs)
    (hg : ∀ n, spellAll d n gs' = g (spellAll d n gs)) (hgp : params gs' = params gs) :
    Writes d (fun vs => (f (w vs).1 ++ sign ++ g (w' (w vs).2).1, (w' (w vs).2).2))
      (fs' ++ .text sign :: gs') := by
  intro vs
  simp only [h vs, h' (vs ++ params fs), spellAll_append, hf, spellAll_text, hg, params_append, hfp,
    params_text, hgp]
  simp [String.append_assoc]

mutual

theorem Expr.writes : ∀ e : Expr, Writes d (e.write d) (e.fragments d)
  | .column c => writes_column c
  | .alias a => fun vs => by simp [Expr.write, Expr.fragments]
  | .int n => fun vs => by simp [Expr.write, Expr.fragments]
  | .float x => fun vs => by simp [Expr.write, Expr.fragments]
  | .null => fun vs => by simp [Expr.write, Expr.fragments]
  | .param p => fun vs => by simp [Expr.write, Expr.fragments]
  | .call function args => fun vs => by
    have h := Expr.writes_all args vs
    simp only [Expr.write, Expr.fragments, h, spellAll_text, params_text, spellAll_parenthesized,
      params_parenthesized, spellAll_separate, params_separate_flatten]
  | .binary op left right =>
    Writes.pair (Expr.writes left) (Expr.writes right)
      (fun n => spellAll_operand left op false n _) (params_operand left op false _)
      (fun n => spellAll_operand right op true n _) (params_operand right op true _)
  | .group e => fun vs => by
    have h := Expr.writes e vs
    simp only [Expr.write, Expr.fragments, h, spellAll_parenthesized, params_parenthesized]
  | .jsonNumber c key => writes_jsonAccess c key

theorem Expr.writes_all : ∀ es : List Expr,
    WritesAll d (Expr.writeAll d es) (Expr.fragmentsAll d es)
  | [] => fun vs => by simp [Expr.writeAll, Expr.fragmentsAll, spellRows]
  | e :: es => WritesAll.cons (Expr.writes e) (Expr.writes_all es)

end

theorem Writes.junction {ws : List Param → List String × List Param}
    {rows : List (List Fragment)} {word none : String} (h : WritesAll d ws rows) :
    Writes d (fun vs => (junctionText word none (ws vs).1, (ws vs).2))
      (junction word none rows) := by
  intro vs
  rcases rows with _ | ⟨row, rows⟩
  · simp [h vs, Sql.junction, junctionText, spellRows]
  · simp only [h vs, Sql.junction, spellAll_parenthesized, spellAll_separate, params_parenthesized,
      params_separate_flatten]
    rfl

theorem spellAll_enclosed (c : Condition) (n : Nat) (fs : List Fragment) :
    spellAll d n (c.enclosed fs) = c.enclosedText (spellAll d n fs) := by
  cases c <;> first | rfl | exact spellAll_parenthesized fs

mutual

theorem Condition.writes : ∀ c : Condition, Writes d (c.write d) (c.fragments d)
  | .compare op left right =>
    Writes.pair (f := id) (g := id) (Expr.writes left) (Expr.writes right) (fun _ => rfl) rfl
      (fun _ => rfl) rfl
  | .isNull e => fun vs => by
    have h := Expr.writes (d := d) e vs
    simp [Condition.write, Condition.fragments, h, spellAll_append]
  | .neg c => fun vs => by
    have h := Condition.writes c vs
    simp only [Condition.write, Condition.fragments, h, spellAll_text, params_text,
      spellAll_enclosed, params_enclosed]
  | .conj cs => Writes.junction (Condition.writes_all cs)
  | .disj cs => Writes.junction (Condition.writes_all cs)

theorem Condition.writes_all : ∀ cs : List Condition,
    WritesAll d (Condition.writeAll d cs) (Condition.fragmentsAll d cs)
  | [] => fun vs => by simp [Condition.writeAll, Condition.fragmentsAll, spellRows]
  | c :: cs => WritesAll.cons (Condition.writes c) (Condition.writes_all cs)

end

theorem Item.writes : ∀ i : Item, Writes d (i.write d) (i.fragments d)
  | .expr e => e.writes
  | .condition c => c.writes
  | .column c => writes_column c

/-- Items are written in one walk as their fragments are spelled one after the other. -/
theorem writeItems_eq (items : List Item) :
    writeItems d items =
      (spellRows d 0 (items.map (·.fragments d)), params (items.flatMap (·.fragments d))) := by
  have h := Writes.each Item.writes items (d := d) []
  rwa [List.length_nil, List.nil_append, ← List.flatMap_def] at h

theorem Projection.writes (p : Projection) : Writes d (p.write d) (p.fragments d) := by
  intro vs
  have h := p.expr.writes (d := d) vs
  rcases ha : p.alias? with _ | name <;>
    simp [Projection.write, Projection.fragments, h, ha, spellAll_append,
      String.append_assoc]

theorem Join.write_eq (j : Join) (vs : List Param) :
    j.write d vs = (" INNER JOIN " ++ d.quote j.table ++ " " ++ d.quote j.alias ++ " ON " ++
      (j.on.write d vs).1, (j.on.write d vs).2) := rfl

theorem Join.writes (j : Join) : Writes d (j.write d) (j.fragments d) := by
  intro vs
  rw [Join.write_eq, j.on.writes vs]
  simp [Join.fragments, String.append_assoc]

theorem spellAll_clause (word : String) (n : Nat) (cs : List Condition) :
    spellAll d n (clause d word cs) =
      clauseText word (spellRows d n (cs.map (·.fragments d))) := by
  rcases cs with _ | ⟨c, cs⟩
  · rfl
  · simp only [clause, spellAll_text, spellAll_separate]
    rfl

theorem params_clause (word : String) (cs : List Condition) :
    params (clause d word cs) = params (cs.flatMap (·.fragments d)) := by
  rcases cs with _ | ⟨c, cs⟩
  · rfl
  · rw [clause, params_text, params_separate_flatten, List.flatMap_def]
    exact List.cons_ne_nil c cs

namespace ElementQuery

theorem spellAll_source (n : Nat) :
    spellAll d n source = " FROM " ++ d.quote elementsTable ++ " INNER JOIN " ++
      d.quote sitesTable ++ " ON " ++ (Column.of sitesTable "elementId").sql d ++ " = " ++
      (Column.of elementsTable "id").sql d := by
  simp [source, Column.of, Column.sql, Column.fragments, String.append_assoc]

theorem params_subquery (q : ElementQuery) :
    params q.subquery = params (q.subquerySelects.flatMap (·.fragments q.dialect)) ++
      params (q.joins.flatMap (·.fragments q.dialect)) ++
      params (q.wheres.flatMap (·.fragments q.dialect)) ++
      params (q.havings.flatMap (·.fragments q.dialect)) := by
  simp only [subquery, List.cons_append, params_text, params_append, params_separate_flatten,
    params_source, params_clause, List.append_nil, List.flatMap_def]

theorem spellAll_subquery (q : ElementQuery) (n : Nat) :
    let inner := q.subquerySelects.map (·.fragments q.dialect)
    let joins := q.joins.map (·.fragments q.dialect)
    let wheres := q.wheres.map (·.fragments q.dialect)
    let havings := q.havings.map (·.fragments q.dialect)
    let atJoins := n + (params inner.flatten).length
    let atWheres := atJoins + (params joins.flatten).length
    let atHavings := atWheres + (params wheres.flatten).length
    spellAll q.dialect n q.subquery = subqueryText q.dialect (spellRows q.dialect n inner)
      (spellRows q.dialect atJoins joins) (spellRows q.dialect atWheres wheres)
      (spellRows q.dialect atHavings havings) := by
  intro inner joins wheres havings atJoins atWheres atHavings
  have hj : q.joins.flatMap (·.fragments q.dialect) = joins.flatten := List.flatMap_def ..
  rw [subquery, hj]
  have hs : params (separate ", " inner ++ source) = params inner.flatten := by
    rw [params_append, params_separate_flatten, params_source, List.append_nil]
  have hw : params (clause q.dialect "WHERE" q.wheres) = params wheres.flatten := by
    rw [params_clause, List.flatMap_def]
  have hjs : params (separate ", " inner ++ source ++ joins.flatten) =
      params inner.flatten ++ params joins.flatten := by rw [params_append, hs]
  have hws : params (separate ", " inner ++ source ++ joins.flatten ++
      clause q.dialect "WHERE" q.wheres) =
      params inner.flatten ++ params joins.flatten ++ params wheres.flatten := by
    rw [params_append, hjs, hw]
  have hlen : atHavings = n + (params inner.flatten ++ params joins.flatten ++
      params wheres.flatten).length := by
    simp only [atHavings, atWheres, atJoins, List.length_append, Nat.add_assoc]
  have hlen' : atWheres = n + (params inner.flatten ++ params joins.flatten).length := by
    simp only [atWheres, atJoins, List.length_append, Nat.add_assoc]
  rw [hlen, hlen', ← hws, ← hjs]
  simp only [List.cons_append, spellAll_text, spellAll_append]
  unfold subqueryText
  -- one literal for a name, or the two sides are compared letter by letter
  generalize "SELECT " = select
  rw [spellAll_source, spellAll_flatten, spellAll_clause, spellAll_clause, spellAll_separate, hs]
  simp only [String.append_assoc]
  rfl

theorem params_shown (q : ElementQuery) :
    params (separate ", "
      ([.name subqueryAlias, .text ".*"] :: q.selects.map (·.fragments q.dialect))) =
      params (q.selects.flatMap (·.fragments q.dialect)) := by
  rw [params_separate_flatten, List.flatten_cons, params_append, List.flatMap_def]
  rfl

theorem params_fragments (q : ElementQuery) :
    params q.fragments = params (q.selects.flatMap (·.fragments q.dialect)) ++
      params q.subquery := by
  simp only [fragments, List.cons_append, params_text, params_append, params_shown, params_name,
    params_nil, List.append_nil]

theorem fragments_eq (q : ElementQuery) :
    q.fragments = .text "SELECT " :: (separate ", "
      ([.name subqueryAlias, .text ".*"] :: q.selects.map (·.fragments q.dialect)) ++
        .text " FROM (" :: (q.subquery ++ [.text ") ", .name subqueryAlias])) := by
  simp only [fragments, List.cons_append, List.append_assoc]

theorem spellAll_fragments (q : ElementQuery) :
    spellAll q.dialect 0 q.fragments =
      "SELECT " ++ ", ".intercalate ((q.dialect.quote subqueryAlias ++ ".*") ::
        spellRows q.dialect 0 (q.selects.map (·.fragments q.dialect))) ++ " FROM (" ++
        spellAll q.dialect (params (q.selects.flatMap (·.fragments q.dialect))).length q.subquery ++
        ") " ++ q.dialect.quote subqueryAlias := by
  have hr : spellRows q.dialect 0
      ([.name subqueryAlias, .text ".*"] :: q.selects.map (·.fragments q.dialect)) =
      (q.dialect.quote subqueryAlias ++ ".*") ::
        spellRows q.dialect 0 (q.selects.map (·.fragments q.dialect)) := by
    simp [spellRows]
  rw [fragments_eq, ← hr]
  generalize "SELECT " = select
  simp only [spellAll_text, spellAll_append, spellAll_name, spellAll_nil, params_shown,
    spellAll_separate, String.append_assoc, String.append_empty, Nat.zero_add]

/-- The query that is written in one walk is the one that its fragments make up. -/
theorem render_eq_statement (q : ElementQuery) : q.render = q.statement := by
  have hs (ps : List Projection) (vs : List Param) :
      Writer.each (Projection.write q.dialect) ps vs =
        (spellRows q.dialect vs.length (ps.map (·.fragments q.dialect)),
          vs ++ params (ps.map (·.fragments q.dialect)).flatten) :=
    Writes.each Projection.writes ps vs
  have hj (js : List Join) (vs : List Param) :
      Writer.each (Join.write q.dialect) js vs =
        (spellRows q.dialect vs.length (js.map (·.fragments q.dialect)),
          vs ++ params (js.map (·.fragments q.dialect)).flatten) :=
    Writes.each Join.writes js vs
  have hc (cs : List Condition) (vs : List Param) :
      Writer.each (Condition.write q.dialect) cs vs =
        (spellRows q.dialect vs.length (cs.map (·.fragments q.dialect)),
          vs ++ params (cs.map (·.fragments q.dialect)).flatten) :=
    Writes.each Condition.writes cs vs
  have hsql := q.spellAll_subquery
    (params (q.selects.flatMap (·.fragments q.dialect))).length
  rw [statement, Fragment.statement, spellAll_fragments, hsql, params_fragments, params_subquery]
  simp only [render, hs, hj, hc, List.flatMap_def, List.nil_append, List.length_nil,
    List.length_append, List.append_assoc, Nat.add_assoc]

end ElementQuery

end Sql

end Proximity
