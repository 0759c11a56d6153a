import Proximity.Sql.Expr

/-!
# Element queries

The statement that a search is added to. In its subquery the elements are joined with their sites,
and further tables, columns and conditions can be added there; the query around it shows all
columns of the subquery and whatever columns are added to it. The values bound are numbered as
they stand in the text, so those of the outer columns come before those of the subquery.
-/

namespace Proximity

namespace Sql

/-- The table of elements. -/
def elementsTable : String := "elements"

/-- The table that ties elements to sites and holds their content. -/
def sitesTable : String := "elements_sites"

/-- The column of an element's content. -/
def contentColumnName : String := "content"

/-- The alias of the subquery. -/
def subqueryAlias : String := "subquery"

/-- A column that is shown, under an alias or not. -/
structure Projection where
  expr : Expr
  alias? : Option String := none

/-- A table that is joined under an alias. -/
structure Join where
  table : String
  «alias» : String
  on : Condition

/-- A query for elements. -/
structure ElementQuery where
  dialect : Dialect
  selects : List Projection
  subquerySelects : List Projection
  joins : List Join
  wheres : List Condition
  havings : List Condition

/-- A computed column shown under its alias. -/
def Aliased.projection (a : Aliased) : Projection :=
  ⟨a.expr, some a.alias⟩

/-- A projection in a dialect. -/
def Projection.fragments (d : Dialect) (p : Projection) : List Fragment :=
  match p.alias? with
  | some name => p.expr.fragments d ++ [.text " AS ", .name name]
  | none => p.expr.fragments d

/-- A join in a dialect. -/
def Join.fragments (d : Dialect) (j : Join) : List Fragment :=
  [.text " INNER JOIN ", .name j.table, .text " ", .name j.alias, .text " ON "] ++
    j.on.fragments d

/-- A clause of conditions that all have to hold; without conditions there is no clause. -/
def clause (d : Dialect) (word : String) : List Condition → List Fragment
  | [] => []
  | cs => .text (" " ++ word ++ " ") :: Fragment.separate " AND " (cs.map (·.fragments d))

namespace ElementQuery

/-- The query for all elements with their sites. -/
def new (dialect : Dialect) : ElementQuery where
  dialect := dialect
  selects := []
  subquerySelects := [⟨.column (.of elementsTable "id"), none⟩,
    ⟨.column (.of sitesTable "siteId"), none⟩]
  joins := []
  wheres := []
  havings := []

/-- The query with another table joined. -/
def join (q : ElementQuery) (j : Join) : ElementQuery :=
  { q with joins := q.joins ++ [j] }

/-- The query with another column in the subquery. -/
def subquerySelect (q : ElementQuery) (p : Projection) : ElementQuery :=
  { q with subquerySelects := q.subquerySelects ++ [p] }

/-- The query with another column shown. -/
def select (q : ElementQuery) (p : Projection) : ElementQuery :=
  { q with selects := q.selects ++ [p] }

/-- The query with another condition in the clause given. -/
def restrict (q : ElementQuery) (placement : Placement) (c : Condition) : ElementQuery :=
  match placement with
  | .inWhere => { q with wheres := q.wheres ++ [c] }
  | .inHaving => { q with havings := q.havings ++ [c] }

/-- The elements joined with their sites. -/
def source : List Fragment :=
  [.text " FROM ", .name elementsTable, .text " INNER JOIN ", .name sitesTable, .text " ON "] ++
    (Column.of sitesTable "elementId").fragments ++ .text " = " ::
      (Column.of elementsTable "id").fragments

/-- The subquery. -/
def subquery (q : ElementQuery) : List Fragment :=
  .text "SELECT " ::
    Fragment.separate ", " (q.subquerySelects.map (·.fragments q.dialect)) ++ source ++
      q.joins.flatMap (·.fragments q.dialect) ++ clause q.dialect "WHERE" q.wheres ++
        clause q.dialect "HAVING" q.havings

/-- The whole query. -/
def fragments (q : ElementQuery) : List Fragment :=
  .text "SELECT " ::
    Fragment.separate ", "
      ([.name subqueryAlias, .text ".*"] :: q.selects.map (·.fragments q.dialect)) ++
    .text " FROM (" :: q.subquery ++ [.text ") ", .name subqueryAlias]

/-- The query as a statement. -/
def statement (q : ElementQuery) : Statement :=
  Fragment.statement q.dialect q.fragments

end ElementQuery

end Sql

end Proximity
