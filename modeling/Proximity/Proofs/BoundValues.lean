import Proximity.Proofs.Writing
import Proximity.Sql.Leaves

/-!
# The values of a tree

The values bound in a tree are its leaves from the left to the right, and those of an element query
are the leaves of its parts as the parts stand in the text. Other values in the place of some of
them change neither the text nor which values stay: a text shows where a value is bound but not
which (`spellAll_blanked`).
-/

namespace Proximity

namespace Sql

open Fragment

variable {d : Dialect}

mutual

theorem Expr.params_eq_leaves : ∀ e : Expr, params (e.fragments d) = e.leaves
  | .column c => params_column c
  | .alias _ => rfl
  | .int _ => rfl
  | .float _ => rfl
  | .null => rfl
  | .param _ => rfl
  | .call function args => by
    rw [Expr.fragments, params_text, params_parenthesized, params_separate_flatten,
      Expr.params_eq_leaves_all args, Expr.leaves]
  | .binary op left right => by
    rw [Expr.fragments, params_append, params_text, params_operand, params_operand,
      Expr.params_eq_leaves left, Expr.params_eq_leaves right, Expr.leaves]
  | .group e => by rw [Expr.fragments, params_parenthesized, Expr.params_eq_leaves e, Expr.leaves]
  | .jsonNumber c key => params_jsonAccess c key

theorem Expr.params_eq_leaves_all : ∀ es : List Expr,
    params (Expr.fragmentsAll d es).flatten = Expr.leavesAll es
  | [] => rfl
  | e :: es => by
    rw [Expr.fragmentsAll, List.flatten_cons, params_append, Expr.params_eq_leaves e,
      Expr.params_eq_leaves_all es, Expr.leavesAll]

end

mutual

theorem Condition.params_eq_leaves : ∀ c : Condition, params (c.fragments d) = c.leaves
  | .compare op left right => by
    rw [Condition.fragments, params_append, params_text, left.params_eq_leaves,
      right.params_eq_leaves, Condition.leaves]
  | .isNull e => by
    rw [Condition.fragments, params_append, e.params_eq_leaves, Condition.leaves, params_text,
      params_nil, List.append_nil]
  | .neg c => by
    rw [Condition.fragments, params_text, params_enclosed, Condition.params_eq_leaves c,
      Condition.leaves]
  | .conj cs => by
    rw [Condition.fragments, params_junction, params_separate_flatten,
      Condition.params_eq_leaves_all cs, Condition.leaves]
  | .disj cs => by
    rw [Condition.fragments, params_junction, params_separate_flatten,
      Condition.params_eq_leaves_all cs, Condition.leaves]

theorem Condition.params_eq_leaves_all : ∀ cs : List Condition,
    params (Condition.fragmentsAll d cs).flatten = Condition.leavesAll cs
  | [] => rfl
  | c :: cs => by
    rw [Condition.fragmentsAll, List.flatten_cons, params_append, Condition.params_eq_leaves c,
      Condition.params_eq_leaves_all cs, Condition.leavesAll]

end

theorem Item.params_eq_leaves : ∀ i : Item, params (i.fragments d) = i.leaves
  | .expr e => e.params_eq_leaves
  | .condition c => c.params_eq_leaves
  | .column c => params_column c

theorem Projection.params_eq_leaves (p : Projection) : params (p.fragments d) = p.leaves := by
  rcases ha : p.alias? with _ | a <;>
    simp [Projection.fragments, Projection.leaves, ha, p.expr.params_eq_leaves]

theorem Join.params_eq_leaves (j : Join) : params (j.fragments d) = j.leaves := by
  rw [Join.fragments, params_append, j.on.params_eq_leaves]
  rfl

theorem params_flatMap {α : Type} {row : α → List Fragment} {leaves : α → List Param}
    (h : ∀ a, params (row a) = leaves a) (as : List α) :
    params (as.flatMap row) = as.flatMap leaves := by
  induction as with
  | nil => rfl
  | cons a as ih => rw [List.flatMap_cons, params_append, h, ih, List.flatMap_cons]

theorem ElementQuery.params_eq_leaves (q : ElementQuery) : params q.fragments = q.leaves := by
  rw [params_fragments, params_subquery, params_flatMap Projection.params_eq_leaves,
    params_flatMap Projection.params_eq_leaves, params_flatMap Join.params_eq_leaves,
    params_flatMap Condition.params_eq_leaves, params_flatMap Condition.params_eq_leaves, leaves]
  simp only [List.append_assoc]

/-! ## Other values -/

variable {f : Nat → Param → Param}

-- The values of a part are numbered behind those of the parts before it, so the numbers that
-- reach a part are shifted, and the claims about the parts hold for every shift.
theorem mapIdx_append_from (n : Nat) (vs ws : List Param) :
    (vs ++ ws).mapIdx (fun k => f (n + k)) =
      vs.mapIdx (fun k => f (n + k)) ++ ws.mapIdx fun k => f (n + vs.length + k) := by
  have hk : (fun k => f (n + (k + vs.length))) = fun k => f (n + vs.length + k) := by
    funext k
    congr 1
    omega
  rw [List.mapIdx_append, hk]

mutual

theorem Expr.leaves_replace : ∀ (e : Expr) (n : Nat),
    (e.replace f n).leaves = e.leaves.mapIdx fun k => f (n + k)
  | .column _, _ => rfl
  | .alias _, _ => rfl
  | .int _, _ => rfl
  | .float _, _ => rfl
  | .null, _ => rfl
  | .param _, _ => rfl
  | .call _ args, n => Expr.leaves_replaceAll args n
  | .binary _ left right, n => by
    rw [Expr.replace, Expr.leaves, Expr.leaves, Expr.leaves_replace left,
      Expr.leaves_replace right, mapIdx_append_from]
  | .group e, n => Expr.leaves_replace e n
  | .jsonNumber _ _, _ => rfl

theorem Expr.leaves_replaceAll : ∀ (es : List Expr) (n : Nat),
    Expr.leavesAll (Expr.replaceAll f n es) = (Expr.leavesAll es).mapIdx fun k => f (n + k)
  | [], _ => rfl
  | e :: es, n => by
    rw [Expr.replaceAll, Expr.leavesAll, Expr.leavesAll, Expr.leaves_replace e,
      Expr.leaves_replaceAll es, mapIdx_append_from]

end

mutual

theorem Condition.leaves_replace : ∀ (c : Condition) (n : Nat),
    (c.replace f n).leaves = c.leaves.mapIdx fun k => f (n + k)
  | .compare _ left right, n => by
    rw [Condition.replace, Condition.leaves, Condition.leaves, left.leaves_replace,
      right.leaves_replace, mapIdx_append_from]
  | .isNull e, n => e.leaves_replace n
  | .neg c, n => Condition.leaves_replace c n
  | .conj cs, n => Condition.leaves_replaceAll cs n
  | .disj cs, n => Condition.leaves_replaceAll cs n

theorem Condition.leaves_replaceAll : ∀ (cs : List Condition) (n : Nat),
    Condition.leavesAll (Condition.replaceAll f n cs) =
      (Condition.leavesAll cs).mapIdx fun k => f (n + k)
  | [], _ => rfl
  | c :: cs, n => by
    rw [Condition.replaceAll, Condition.leavesAll, Condition.leavesAll,
      Condition.leaves_replace c, Condition.leaves_replaceAll cs, mapIdx_append_from]

end

theorem Item.leaves_replace : ∀ (i : Item) (n : Nat),
    (i.replace f n).leaves = i.leaves.mapIdx fun k => f (n + k)
  | .expr e, n => e.leaves_replace n
  | .condition c, n => c.leaves_replace n
  | .column _, _ => rfl

theorem leaves_replaceEach {α : Type} {leaves : α → List Param} {replace : Nat → α → α}
    (h : ∀ a n, leaves (replace n a) = (leaves a).mapIdx fun k => f (n + k)) :
    ∀ (as : List α) (n : Nat), (replaceEach leaves replace n as).flatMap leaves =
      (as.flatMap leaves).mapIdx fun k => f (n + k)
  | [], _ => rfl
  | a :: as, n => by
    rw [replaceEach, List.flatMap_cons, List.flatMap_cons, h, leaves_replaceEach h as,
      mapIdx_append_from]

theorem ElementQuery.leaves_replace (q : ElementQuery) :
    (q.replace f).leaves = q.leaves.mapIdx f := by
  have hp : ∀ (p : Projection) (n : Nat),
      (p.replace f n).leaves = p.leaves.mapIdx fun k => f (n + k) :=
    fun p n => p.expr.leaves_replace n
  have hj : ∀ (j : Join) (n : Nat),
      (j.replace f n).leaves = j.leaves.mapIdx fun k => f (n + k) :=
    fun j n => j.on.leaves_replace n
  have hf : q.leaves.mapIdx f = q.leaves.mapIdx fun k => f (0 + k) := by
    simp only [Nat.zero_add]
  rw [hf, leaves, leaves, mapIdx_append_from, mapIdx_append_from, mapIdx_append_from,
    mapIdx_append_from]
  simp only [replace, leaves_replaceEach hp, leaves_replaceEach hj,
    leaves_replaceEach Condition.leaves_replace, List.length_append, Nat.add_assoc, Nat.zero_add]

/-- A fragment without its value. -/
def Fragment.blank : Fragment → Fragment
  | .bound _ => .bound (.int 0)
  | f => f

/-- A row of fragments without its values. -/
def blanked (fs : List Fragment) : List Fragment :=
  fs.map blank

@[simp] theorem blanked_cons (g : Fragment) (fs : List Fragment) :
    blanked (g :: fs) = g.blank :: blanked fs := rfl

@[simp] theorem blanked_append (fs gs : List Fragment) :
    blanked (fs ++ gs) = blanked fs ++ blanked gs := List.map_append

theorem spellAll_blanked (n : Nat) (fs : List Fragment) :
    spellAll d n (blanked fs) = spellAll d n fs := by
  induction fs generalizing n with
  | nil => rfl
  | cons f fs ih =>
    rw [blanked_cons, spellAll, spellAll, ih]
    cases f <;> rfl

theorem length_params_blanked (fs : List Fragment) :
    (params (blanked fs)).length = (params fs).length := by
  induction fs with
  | nil => rfl
  | cons f fs ih => cases f <;> simp [blank, ih]

theorem spellRows_blanked (n : Nat) (rows : List (List Fragment)) :
    spellRows d n (rows.map blanked) = spellRows d n rows := by
  induction rows generalizing n with
  | nil => rfl
  | cons row rows ih =>
    rw [List.map_cons, spellRows, spellRows, spellAll_blanked, length_params_blanked, ih]

theorem blanked_separate (s : String) : ∀ rows : List (List Fragment),
    blanked (separate s rows) = separate s (rows.map blanked)
  | [] => rfl
  | [_] => rfl
  | row :: row' :: rows => by
    have ih := blanked_separate s (row' :: rows)
    have hs : separate s (row :: row' :: rows) = row ++ .text s :: separate s (row' :: rows) := rfl
    rw [hs, blanked_append, blanked_cons, ih]
    rfl

theorem blanked_flatten (rows : List (List Fragment)) :
    blanked rows.flatten = (rows.map blanked).flatten := by
  simp only [blanked, List.map_flatten]
  rfl

theorem blanked_parenthesized (fs : List Fragment) :
    blanked (parenthesized fs) = parenthesized (blanked fs) := by
  simp [parenthesized, blank, blanked]

theorem blanked_operand (e : Expr) (outer : ArithOp) (onRight : Bool) (fs : List Fragment) :
    blanked (e.operand outer onRight fs) = e.operand outer onRight (blanked fs) := by
  unfold Expr.operand
  split
  · exact blanked_parenthesized fs
  · rfl

theorem Expr.operand_replace (e : Expr) (n : Nat) (outer : ArithOp) (onRight : Bool)
    (fs : List Fragment) :
    (e.replace f n).operand outer onRight fs = e.operand outer onRight fs := by
  cases e <;> rfl

mutual

theorem Expr.blanked_replace : ∀ (e : Expr) (n : Nat),
    blanked ((e.replace f n).fragments d) = blanked (e.fragments d)
  | .column _, _ => rfl
  | .alias _, _ => rfl
  | .int _, _ => rfl
  | .float _, _ => rfl
  | .null, _ => rfl
  | .param _, _ => rfl
  | .call function args, n => by
    rw [Expr.replace, Expr.fragments, Expr.fragments, blanked_cons, blanked_cons,
      blanked_parenthesized, blanked_parenthesized, blanked_separate, blanked_separate,
      Expr.blanked_replaceAll args]
  | .binary op left right, n => by
    rw [Expr.replace, Expr.fragments, Expr.fragments, blanked_append, blanked_append, blanked_cons,
      blanked_cons, blanked_operand, blanked_operand, blanked_operand, blanked_operand,
      Expr.operand_replace, Expr.operand_replace, Expr.blanked_replace left,
      Expr.blanked_replace right]
  | .group e, n => by
    rw [Expr.replace, Expr.fragments, Expr.fragments, blanked_parenthesized,
      blanked_parenthesized, Expr.blanked_replace e]
  | .jsonNumber _ _, _ => rfl

theorem Expr.blanked_replaceAll : ∀ (es : List Expr) (n : Nat),
    (Expr.fragmentsAll d (Expr.replaceAll f n es)).map blanked =
      (Expr.fragmentsAll d es).map blanked
  | [], _ => rfl
  | e :: es, n => by
    rw [Expr.replaceAll, Expr.fragmentsAll, Expr.fragmentsAll, List.map_cons, List.map_cons,
      Expr.blanked_replace e, Expr.blanked_replaceAll es]

end

theorem blanked_junction (word none : String) (rows : List (List Fragment)) :
    blanked (junction word none rows) = junction word none (rows.map blanked) := by
  rcases rows with _ | ⟨row, rows⟩
  · rfl
  · exact (blanked_parenthesized _).trans (congrArg parenthesized (blanked_separate _ _))

theorem blanked_enclosed (c : Condition) (fs : List Fragment) :
    blanked (c.enclosed fs) = c.enclosed (blanked fs) := by
  cases c <;> first | rfl | exact blanked_parenthesized fs

theorem Condition.enclosed_replace (c : Condition) (n : Nat) (fs : List Fragment) :
    (c.replace f n).enclosed fs = c.enclosed fs := by
  cases c <;> rfl

mutual

theorem Condition.blanked_replace : ∀ (c : Condition) (n : Nat),
    blanked ((c.replace f n).fragments d) = blanked (c.fragments d)
  | .compare op left right, n => by
    rw [Condition.replace, Condition.fragments, Condition.fragments, blanked_append,
      blanked_append, blanked_cons, blanked_cons, left.blanked_replace, right.blanked_replace]
  | .isNull e, n => by
    rw [Condition.replace, Condition.fragments, Condition.fragments, blanked_append,
      blanked_append, e.blanked_replace]
  | .neg c, n => by
    rw [Condition.replace, Condition.fragments, Condition.fragments, blanked_cons, blanked_cons,
      blanked_enclosed, blanked_enclosed, Condition.enclosed_replace,
      Condition.blanked_replace c]
  | .conj cs, n => by
    rw [Condition.replace, Condition.fragments, Condition.fragments, blanked_junction,
      blanked_junction, Condition.blanked_replaceAll cs]
  | .disj cs, n => by
    rw [Condition.replace, Condition.fragments, Condition.fragments, blanked_junction,
      blanked_junction, Condition.blanked_replaceAll cs]

theorem Condition.blanked_replaceAll : ∀ (cs : List Condition) (n : Nat),
    (Condition.fragmentsAll d (Condition.replaceAll f n cs)).map blanked =
      (Condition.fragmentsAll d cs).map blanked
  | [], _ => rfl
  | c :: cs, n => by
    rw [Condition.replaceAll, Condition.fragmentsAll, Condition.fragmentsAll, List.map_cons,
      List.map_cons, Condition.blanked_replace c, Condition.blanked_replaceAll cs]

end

theorem Item.blanked_replace : ∀ (i : Item) (n : Nat),
    blanked ((i.replace f n).fragments d) = blanked (i.fragments d)
  | .expr e, n => e.blanked_replace n
  | .condition c, n => c.blanked_replace n
  | .column _, _ => rfl

theorem Projection.blanked_replace (p : Projection) (n : Nat) :
    blanked ((p.replace f n).fragments d) = blanked (p.fragments d) := by
  have he := p.expr.blanked_replace (f := f) (d := d) n
  rcases p with ⟨e, _ | a⟩
  · exact he
  · rw [replace, fragments, fragments, blanked_append, blanked_append, he]

theorem Join.blanked_replace (j : Join) (n : Nat) :
    blanked ((j.replace f n).fragments d) = blanked (j.fragments d) := by
  rw [replace, fragments, fragments, blanked_append, blanked_append, j.on.blanked_replace]

theorem blanked_replaceEach {α : Type} {leaves : α → List Param} {replace : Nat → α → α}
    {row : α → List Fragment} (h : ∀ a n, blanked (row (replace n a)) = blanked (row a)) :
    ∀ (as : List α) (n : Nat), ((replaceEach leaves replace n as).map row).map blanked =
      (as.map row).map blanked
  | [], _ => rfl
  | a :: as, n => by
    rw [replaceEach, List.map_cons, List.map_cons, List.map_cons, List.map_cons, h,
      blanked_replaceEach h as]

theorem blanked_clause {word : String} {cs cs' : List Condition}
    (h : (cs'.map (·.fragments d)).map blanked = (cs.map (·.fragments d)).map blanked) :
    blanked (clause d word cs') = blanked (clause d word cs) := by
  rcases cs with _ | ⟨c, cs⟩ <;> rcases cs' with _ | ⟨c', cs'⟩
  · rfl
  · cases h
  · cases h
  · simp only [clause, blanked_cons, blanked_separate, h]

theorem ElementQuery.blanked_replace (q : ElementQuery) :
    blanked (q.replace f).fragments = blanked q.fragments := by
  have hs (n : Nat) (ps : List Projection) :
      ((replaceEach Projection.leaves (Projection.replace f) n ps).map
        (·.fragments q.dialect)).map blanked = (ps.map (·.fragments q.dialect)).map blanked :=
    blanked_replaceEach Projection.blanked_replace ps n
  have hj (n : Nat) (js : List Join) :
      ((replaceEach Join.leaves (Join.replace f) n js).map
        (·.fragments q.dialect)).map blanked = (js.map (·.fragments q.dialect)).map blanked :=
    blanked_replaceEach Join.blanked_replace js n
  have hc (word : String) (n : Nat) (cs : List Condition) :
      blanked (clause q.dialect word
        (replaceEach Condition.leaves (Condition.replace f) n cs)) =
        blanked (clause q.dialect word cs) :=
    blanked_clause (blanked_replaceEach Condition.blanked_replace cs n)
  simp only [fragments, subquery, replace, List.cons_append, blanked_cons, blanked_append,
    blanked_separate, List.map_cons, List.flatMap_def, blanked_flatten, hs, hj, hc]

/-- Other values among items leave the texts as they are and take the places of the old ones. -/
theorem writeItems_replace (items : List Item) :
    writeItems d (replaceEach Item.leaves (Item.replace f) 0 items) =
      ((writeItems d items).1, (writeItems d items).2.mapIdx f) := by
  have hb : ((replaceEach Item.leaves (Item.replace f) 0 items).map (·.fragments d)).map blanked =
      (items.map (·.fragments d)).map blanked :=
    blanked_replaceEach Item.blanked_replace items 0
  have hl := leaves_replaceEach (f := f) Item.leaves_replace items 0
  rw [writeItems_eq, writeItems_eq, ← spellRows_blanked, hb, spellRows_blanked,
    params_flatMap Item.params_eq_leaves, params_flatMap Item.params_eq_leaves, hl]
  simp only [Nat.zero_add]

/-- Other values in an element query leave its text as it is and take the places of the old
ones. -/
theorem ElementQuery.render_replace (q : ElementQuery) :
    (q.replace f).render = ⟨q.render.sql, q.render.params.mapIdx f⟩ := by
  have hb := q.blanked_replace (f := f)
  have hd : (q.replace f).dialect = q.dialect := rfl
  rw [render_eq_statement, render_eq_statement, statement, statement, Fragment.statement,
    Fragment.statement, hd, ← spellAll_blanked, hb, spellAll_blanked, params_eq_leaves,
    params_eq_leaves, leaves_replace]

end Sql

end Proximity
