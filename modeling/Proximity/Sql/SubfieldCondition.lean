import Proximity.Options.SubfieldFilter
import Proximity.Sql.Expr

/-!
# Subfield filters in SQL

The condition that a subfield filter puts on a row: every subfield that it names has one of the
values given. Subfields that cannot be filtered on are left out, and so are those without any
usable value. All values are bound.
-/

namespace Proximity

namespace Sql

/-- The conditions that a column has one value each. -/
def valueTests (c : Column) (values : List String) : List Condition :=
  values.map fun v => (Expr.column c).eq (.param (.string v))

/-- The condition of one subfield of the table under the alias `table`, where it restricts
anything. -/
def subfieldClause (whitelist : List String) (table subfield : String) (value : SubfieldValue) :
    Option Condition :=
  if whitelist.contains subfield then
    match valueTests (.of table subfield) value.values with
    | [] => none
    | tests => some (.any tests)
  else none

/-- The condition of a filter on the table under the alias `table`, where it restricts anything. -/
def subfieldCondition (whitelist : List String) (table : String) (filter : SubfieldFilter) :
    Option Condition :=
  match filter.entries.filterMap fun (subfield, value) =>
      subfieldClause whitelist table subfield value with
  | [] => none
  | clauses => some (.all clauses)

end Sql

end Proximity
