import Proximity.Sql.AliasFilter
import Proximity.Sql.Leaves

/-!
# The parts of a tree

All expressions that stand in a tree, at whatever depth. The values bound in a tree are those of its
parts (`param_mem_parts`).
-/

namespace Proximity

namespace Sql

mutual

/-- The expressions that stand in an expression, with itself in front. -/
def Expr.parts : Expr → List Expr
  | .call function args => .call function args :: Expr.partsAll args
  | .binary op left right => .binary op left right :: (left.parts ++ right.parts)
  | .group e => .group e :: e.parts
  | e => [e]

def Expr.partsAll : List Expr → List Expr
  | [] => []
  | e :: es => e.parts ++ Expr.partsAll es

end

mutual

def Condition.parts : Condition → List Expr
  | .compare _ left right => left.parts ++ right.parts
  | .isNull e => e.parts
  | .neg c => c.parts
  | .conj cs | .disj cs => Condition.partsAll cs

def Condition.partsAll : List Condition → List Expr
  | [] => []
  | c :: cs => c.parts ++ Condition.partsAll cs

end

def Projection.parts (p : Projection) : List Expr :=
  p.expr.parts

/-- The expressions in the condition of a join. -/
def Join.parts (j : Join) : List Expr :=
  j.on.parts

/-- The expressions in all clauses of an element query. -/
def ElementQuery.parts (q : ElementQuery) : List Expr :=
  q.selects.flatMap Projection.parts ++ q.subquerySelects.flatMap Projection.parts ++
    q.joins.flatMap Join.parts ++ q.wheres.flatMap Condition.parts ++
      q.havings.flatMap Condition.parts

variable {v : Param}

mutual

theorem Expr.param_mem_parts : ∀ e : Expr, Expr.param v ∈ e.parts ↔ v ∈ e.leaves
  | .column _ | .alias _ | .int _ | .float _ | .null | .jsonNumber _ _ => by
    simp [Expr.parts, Expr.leaves]
  | .param _ => by simp [Expr.parts, Expr.leaves]
  | .call _ args => by simp [Expr.parts, Expr.leaves, Expr.param_mem_partsAll args]
  | .binary _ left right => by
    simp [Expr.parts, Expr.leaves, Expr.param_mem_parts left, Expr.param_mem_parts right]
  | .group e => by simp [Expr.parts, Expr.leaves, Expr.param_mem_parts e]

theorem Expr.param_mem_partsAll : ∀ es : List Expr,
    Expr.param v ∈ Expr.partsAll es ↔ v ∈ Expr.leavesAll es
  | [] => by simp [Expr.partsAll, Expr.leavesAll]
  | e :: es => by
    simp [Expr.partsAll, Expr.leavesAll, Expr.param_mem_parts e, Expr.param_mem_partsAll es]

end

mutual

theorem Condition.param_mem_parts : ∀ c : Condition, Expr.param v ∈ c.parts ↔ v ∈ c.leaves
  | .compare _ left right => by
    simp [Condition.parts, Condition.leaves, left.param_mem_parts, right.param_mem_parts]
  | .isNull e => e.param_mem_parts
  | .neg c => Condition.param_mem_parts c
  | .conj cs => Condition.param_mem_partsAll cs
  | .disj cs => Condition.param_mem_partsAll cs

theorem Condition.param_mem_partsAll : ∀ cs : List Condition,
    Expr.param v ∈ Condition.partsAll cs ↔ v ∈ Condition.leavesAll cs
  | [] => by simp [Condition.partsAll, Condition.leavesAll]
  | c :: cs => by
    simp [Condition.partsAll, Condition.leavesAll, Condition.param_mem_parts c,
      Condition.param_mem_partsAll cs]

end

/-- The values in a query are those that its parts bind. -/
theorem ElementQuery.param_mem_parts (q : ElementQuery) :
    Expr.param v ∈ q.parts ↔ v ∈ q.leaves := by
  simp only [parts, leaves, Projection.parts, Projection.leaves, Join.parts, Join.leaves,
    List.mem_append, List.mem_flatMap, Expr.param_mem_parts, Condition.param_mem_parts]

theorem Condition.mem_partsAll {e : Expr} : ∀ {cs : List Condition},
    e ∈ Condition.partsAll cs ↔ ∃ c ∈ cs, e ∈ c.parts
  | [] => by simp [Condition.partsAll]
  | c :: cs => by simp [Condition.partsAll, Condition.mem_partsAll]

theorem Expr.mem_parts_grouped {e e' : Expr} (h : e ∈ e'.grouped.parts)
    (hg : ∀ g, e ≠ .group g) : e ∈ e'.parts := by
  cases e' with
  | group g => exact h
  | _ => exact (List.mem_cons.mp h).resolve_left (hg _)

end Sql

end Proximity
