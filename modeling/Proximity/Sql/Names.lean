import Proximity.Sql.Parts

/-!
# The names in a tree

A tree names columns, alone or where it reads a number in one, and it names computed columns by
their aliases. The subquery of an element query can take columns from its own two tables and from
those that are joined. A computed column can be named behind the subquery and in HAVING, but not
where the subquery itself is made: not among its columns, not in the condition of a join and not in
WHERE. A name is in scope if it can be used where it stands and stands for one thing only.
-/

namespace Proximity

namespace Sql

/-- The column that an expression is or reads a number in. -/
def Expr.column? : Expr → Option Column
  | .column c => some c
  | .jsonNumber c _ => some c
  | _ => none

/-- The alias that an expression is. -/
def Expr.alias? : Expr → Option String
  | .alias name => some name
  | _ => none

/-- The columns that a condition names, at whatever depth. -/
def Condition.columns (c : Condition) : List Column :=
  c.parts.filterMap Expr.column?

namespace ElementQuery

/-- The expressions that the subquery is made from before it has any computed columns. -/
def sourceParts (q : ElementQuery) : List Expr :=
  q.subquerySelects.flatMap Projection.parts ++ q.joins.flatMap Join.parts ++
    q.wheres.flatMap Condition.parts

/-- The tables that the subquery can take columns from, by the names that they have there. -/
def tableNames (q : ElementQuery) : List String :=
  ["elements", "elements_sites"] ++ q.joins.map Join.alias

/-- The columns of the subquery that are shown under an alias. -/
def shownAs (q : ElementQuery) (name : String) : List Projection :=
  q.subquerySelects.filter fun p => p.alias? == some name

/-- Every name in a query is in scope. -/
structure InScope (q : ElementQuery) : Prop where
  /-- Every column in the subquery is one of a table that is there. -/
  columns : ∀ c ∈ (q.sourceParts ++ q.havings.flatMap Condition.parts).filterMap Expr.column?,
    ∃ table ∈ q.tableNames, c.table = some table
  /-- What the subquery is made from names no computed column. -/
  source : q.sourceParts.filterMap Expr.alias? = []
  /-- A computed column that is named elsewhere is there, and is the only one of its name. -/
  aliases : ∀ name ∈ (q.selects.flatMap Projection.parts ++
    q.havings.flatMap Condition.parts).filterMap Expr.alias?, (q.shownAs name).length = 1

end ElementQuery

end Sql

end Proximity
