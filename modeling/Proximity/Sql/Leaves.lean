import Proximity.Sql.Writer

/-!
# The values in a tree

The values bound in a tree are leaves of it. They can be listed from the left to the right, and
others can be put in their places: each value is replaced by what a function makes of it and of
its number among all of them, counted from zero.
-/

namespace Proximity

namespace Sql

mutual

/-- The values in an expression. -/
def Expr.leaves : Expr → List Param
  | .param p => [p]
  | .call _ args => Expr.leavesAll args
  | .binary _ left right => left.leaves ++ right.leaves
  | .group e => e.leaves
  | _ => []

def Expr.leavesAll : List Expr → List Param
  | [] => []
  | e :: es => e.leaves ++ Expr.leavesAll es

end

mutual

def Condition.leaves : Condition → List Param
  | .compare _ left right => left.leaves ++ right.leaves
  | .isNull e => e.leaves
  | .neg c => c.leaves
  | .conj cs | .disj cs => Condition.leavesAll cs

def Condition.leavesAll : List Condition → List Param
  | [] => []
  | c :: cs => c.leaves ++ Condition.leavesAll cs

end

def Item.leaves : Item → List Param
  | .expr e => e.leaves
  | .condition c => c.leaves
  | .column _ => []

def Projection.leaves (p : Projection) : List Param :=
  p.expr.leaves

/-- The values in the condition of a join. -/
def Join.leaves (j : Join) : List Param :=
  j.on.leaves

/-- The values in an element query: those of the outer columns, of the columns of the subquery, of
the joins, of WHERE and of HAVING. -/
def ElementQuery.leaves (q : ElementQuery) : List Param :=
  q.selects.flatMap Projection.leaves ++ q.subquerySelects.flatMap Projection.leaves ++
    q.joins.flatMap Join.leaves ++ q.wheres.flatMap Condition.leaves ++
      q.havings.flatMap Condition.leaves

section Replace

variable (f : Nat → Param → Param)

mutual

/-- An expression with its values replaced, of which `n` stand before it. -/
def Expr.replace (n : Nat) : Expr → Expr
  | .param p => .param (f n p)
  | .call function args => .call function (Expr.replaceAll n args)
  | .binary op left right =>
    .binary op (left.replace n) (right.replace (n + left.leaves.length))
  | .group e => .group (e.replace n)
  | e => e

def Expr.replaceAll (n : Nat) : List Expr → List Expr
  | [] => []
  | e :: es => e.replace n :: Expr.replaceAll (n + e.leaves.length) es

end

mutual

def Condition.replace (n : Nat) : Condition → Condition
  | .compare op left right =>
    .compare op (left.replace f n) (right.replace f (n + left.leaves.length))
  | .isNull e => .isNull (e.replace f n)
  | .neg c => .neg (c.replace n)
  | .conj cs => .conj (Condition.replaceAll n cs)
  | .disj cs => .disj (Condition.replaceAll n cs)

def Condition.replaceAll (n : Nat) : List Condition → List Condition
  | [] => []
  | c :: cs => c.replace n :: Condition.replaceAll (n + c.leaves.length) cs

end

/-- Several things with their values replaced. -/
def replaceEach {α : Type} (leaves : α → List Param) (replace : Nat → α → α) (n : Nat) :
    List α → List α
  | [] => []
  | a :: as => replace n a :: replaceEach leaves replace (n + (leaves a).length) as

def Item.replace (n : Nat) : Item → Item
  | .expr e => .expr (e.replace f n)
  | .condition c => .condition (c.replace f n)
  | .column c => .column c

def Projection.replace (n : Nat) (p : Projection) : Projection :=
  { p with expr := p.expr.replace f n }

def Join.replace (n : Nat) (j : Join) : Join :=
  { j with on := j.on.replace f n }

/-- An element query with its values replaced: the `k`-th value of all by what `f` makes of it. -/
def ElementQuery.replace (q : ElementQuery) : ElementQuery :=
  let atColumns := (q.selects.flatMap Projection.leaves).length
  let atJoins := atColumns + (q.subquerySelects.flatMap Projection.leaves).length
  let atWheres := atJoins + (q.joins.flatMap Join.leaves).length
  let atHavings := atWheres + (q.wheres.flatMap Condition.leaves).length
  { dialect := q.dialect
    selects := replaceEach Projection.leaves (Projection.replace f) 0 q.selects
    subquerySelects := replaceEach Projection.leaves (Projection.replace f) atColumns
      q.subquerySelects
    joins := replaceEach Join.leaves (Join.replace f) atJoins q.joins
    wheres := replaceEach Condition.leaves (Condition.replace f) atWheres q.wheres
    havings := replaceEach Condition.leaves (Condition.replace f) atHavings q.havings }

end Replace

end Sql

end Proximity
