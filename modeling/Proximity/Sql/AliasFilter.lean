import Proximity.Sql.ElementQuery

/-!
# Conditions on computed columns

A comparison with a computed column stands in the clause that the dialect allows for it. In
HAVING it names the column by its alias; in WHERE it repeats the whole expression in parentheses.
-/

namespace Proximity

namespace Sql

/-- A condition and the clause that it stands in. -/
structure AttachedCondition where
  placement : Placement
  condition : Condition

/-- The query with an attached condition in its clause. -/
def ElementQuery.attach (q : ElementQuery) (c : AttachedCondition) : ElementQuery :=
  q.restrict c.placement c.condition

/-- An expression in parentheses, unless it is in parentheses already. -/
def Expr.grouped : Expr → Expr
  | .group e => .group e
  | e => .group e

/-- What a computed column is compared with. -/
inductive AliasOperand where
  | aliased (a : Aliased)
  | value (e : Expr)

namespace Dialect

/-- How a computed column is referred to. -/
def aliasReference (d : Dialect) (a : Aliased) : Expr :=
  match d.aliasPlacement with
  | .inHaving => .alias a.alias
  | .inWhere => a.expr.grouped

/-- How the other side of a comparison is referred to. -/
def operandReference (d : Dialect) : AliasOperand → Expr
  | .aliased a => d.aliasReference a
  | .value e => e

/-- A computed column compared with something. -/
def aliasFilter (d : Dialect) (left : Aliased) (op : Comparison) (right : AliasOperand) :
    AttachedCondition where
  placement := d.aliasPlacement
  condition := .compare op (d.aliasReference left) (d.operandReference right)

end Dialect

end Sql

end Proximity
