import Proximity.Decimal.Shortest
import Proximity.Error
import Proximity.Text.Lowercase

/-!
# SQL dialects

The two dialects differ in how a name is quoted, how a bound value is marked, how a number is
taken out of a JSON column, and where a condition on a computed column may stand.

| Dialect    | A computed column's alias can be used in | The condition stands in | and refers to  |
|------------|------------------------------------------|-------------------------|----------------|
| MySQL      | HAVING                                   | HAVING                  | the alias      |
| PostgreSQL | neither                                  | WHERE                   | the expression |
-/

namespace Proximity

namespace Sql

/-- A dialect of SQL. -/
inductive Dialect where
  | mysql
  | postgres
deriving DecidableEq, Repr

/-- The clause that a condition stands in. -/
inductive Placement where
  | inWhere
  | inHaving
deriving DecidableEq, Repr

/-- The name of a clause. -/
def Placement.name : Placement → String
  | .inWhere => "where"
  | .inHaving => "having"

/-- A value bound to a statement. -/
inductive Param where
  | int (n : Int)
  | float (x : Float)
  | string (s : String)
deriving DecidableEq

/-- Floats are written positionally, and whole ones without a point. -/
def floatStyle : Decimal.Style where
  positional _ := true
  pointZero := false

/-- A float as it stands in a statement. -/
def floatText (x : Float) : String :=
  Decimal.writeFloat floatStyle .away x

/-- A text in which every `mark` is written twice. -/
def doubled (mark : Char) (s : String) : List Char :=
  s.toList.flatMap fun c => if c = mark then [c, c] else [c]

/-- A text between two marks, with the marks inside it written twice. -/
def enclosed (mark : Char) (s : String) : String :=
  String.ofList (mark :: doubled mark s ++ [mark])

namespace Dialect

/-- The dialect where none is given. -/
def standard : Dialect := .mysql

/-- The dialect of the database with a name, whatever its case and the blanks around it. -/
def ofName (name : String) : Except Error Dialect :=
  let n := Text.fold name
  if n = "mysql" ∨ n = "mariadb" then .ok .mysql
  else if n = "pgsql" ∨ n = "postgres" ∨ n = "postgresql" then .ok .postgres
  else .error (.unknownDriver n)

/-- The name of a dialect. -/
def name : Dialect → String
  | .mysql => "mysql"
  | .postgres => "pgsql"

/-- The mark around names. -/
def nameMark : Dialect → Char
  | .mysql => '\x60'
  | .postgres => '"'

/-- A name in quotes. -/
def quote (d : Dialect) (ident : String) : String :=
  enclosed d.nameMark ident

/-- The mark of the bound value with a number, counted from one. -/
def placeholder : Dialect → Nat → String
  | .mysql, _ => "?"
  | .postgres, n => "$" ++ String.ofList (Decimal.digits n)

/-- The clause for conditions on a computed column. -/
def aliasPlacement : Dialect → Placement
  | .mysql => .inHaving
  | .postgres => .inWhere

end Dialect

end Sql

end Proximity
