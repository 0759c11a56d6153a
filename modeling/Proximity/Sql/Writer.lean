import Proximity.Sql.ElementQuery

/-!
# Writing with one list of values

A statement can be written in one walk over its trees. A single list grows along: a bound value is
put behind those met before it and marked by the length of the list. The texts of the parts are
only put together afterwards, some of them inside others, so everything rests on the order of the
walk: the parts of an element query are visited as they will stand in the text, the outer columns
before the subquery.
-/

namespace Proximity

namespace Sql

/-- Something that writes a text and puts the values bound in it behind those bound before. -/
abbrev Writer := List Param → String × List Param

/-- The texts of several things, written one after the other. -/
def Writer.each {α : Type} (write : α → Writer) : List α → List Param → List String × List Param
  | [], vs => ([], vs)
  | a :: as, vs =>
    let (s, vs) := write a vs
    let (ss, vs) := each write as vs
    (s :: ss, vs)

/-- The access to the number under a key in a JSON column. -/
def Dialect.extractNumber (d : Dialect) (column key : String) : String :=
  match d with
  | .mysql => "JSON_EXTRACT(" ++ column ++ ", " ++ enclosed '\'' ("$.\"" ++ key ++ "\"") ++ ")"
  | .postgres => "CAST((" ++ column ++ "->>" ++ enclosed '\'' key ++ ") AS DOUBLE PRECISION)"

def inParens (s : String) : String :=
  "(" ++ s ++ ")"

/-- An operand with the parentheses that it needs. -/
def Expr.operandText (outer : ArithOp) (onRight : Bool) (e : Expr) (s : String) : String :=
  if e.needsParens outer onRight then inParens s else s

/-- A condition that brings its own parentheses, or in new ones. -/
def Condition.enclosedText (c : Condition) (s : String) : String :=
  match c with
  | .conj _ | .disj _ => s
  | _ => inParens s

/-- Conditions joined by a word, in parentheses; none of them are a constant. -/
def junctionText (word none : String) : List String → String
  | [] => none
  | ss => inParens ((" " ++ word ++ " ").intercalate ss)

mutual

def Expr.write (d : Dialect) : Expr → Writer
  | .column c, vs => (c.sql d, vs)
  | .alias name, vs => (d.quote name, vs)
  | .int n, vs => (Decimal.integer n, vs)
  | .float x, vs => (floatText x, vs)
  | .null, vs => ("NULL", vs)
  | .param p, vs => (d.placeholder (vs ++ [p]).length, vs ++ [p])
  | .call function args, vs =>
    let (ss, vs) := Expr.writeAll d args vs
    (function ++ inParens (", ".intercalate ss), vs)
  | .binary op left right, vs =>
    let (l, vs) := left.write d vs
    let (r, vs) := right.write d vs
    (left.operandText op false l ++ (" " ++ op.sign ++ " ") ++ right.operandText op true r, vs)
  | .group e, vs =>
    let (s, vs) := e.write d vs
    (inParens s, vs)
  | .jsonNumber c key, vs => (d.extractNumber (c.sql d) key, vs)

def Expr.writeAll (d : Dialect) : List Expr → List Param → List String × List Param
  | [], vs => ([], vs)
  | e :: es, vs =>
    let (s, vs) := e.write d vs
    let (ss, vs) := Expr.writeAll d es vs
    (s :: ss, vs)

end

mutual

def Condition.write (d : Dialect) : Condition → Writer
  | .compare op left right, vs =>
    let (l, vs) := left.write d vs
    let (r, vs) := right.write d vs
    (l ++ (" " ++ op.sign ++ " ") ++ r, vs)
  | .isNull e, vs =>
    let (s, vs) := e.write d vs
    (s ++ " IS NULL", vs)
  | .neg c, vs =>
    let (s, vs) := c.write d vs
    ("NOT " ++ c.enclosedText s, vs)
  | .conj cs, vs =>
    let (ss, vs) := Condition.writeAll d cs vs
    (junctionText "AND" "TRUE" ss, vs)
  | .disj cs, vs =>
    let (ss, vs) := Condition.writeAll d cs vs
    (junctionText "OR" "FALSE" ss, vs)

def Condition.writeAll (d : Dialect) : List Condition → List Param → List String × List Param
  | [], vs => ([], vs)
  | c :: cs, vs =>
    let (s, vs) := c.write d vs
    let (ss, vs) := Condition.writeAll d cs vs
    (s :: ss, vs)

end

/-- What can be written on its own. -/
inductive Item where
  | expr (e : Expr)
  | condition (c : Condition)
  | column (c : Column)

def Item.write (d : Dialect) : Item → Writer
  | .expr e, vs => e.write d vs
  | .condition c, vs => c.write d vs
  | .column c, vs => (c.sql d, vs)

/-- The texts of several items and the values bound in them, from one walk. -/
def writeItems (d : Dialect) (items : List Item) : List String × List Param :=
  Writer.each (Item.write d) items []

def Item.fragments (d : Dialect) : Item → List Fragment
  | .expr e => e.fragments d
  | .condition c => c.fragments d
  | .column c => c.fragments

def Projection.write (d : Dialect) (p : Projection) : Writer := fun vs =>
  let (s, vs) := p.expr.write d vs
  match p.alias? with
  | some name => (s ++ " AS " ++ d.quote name, vs)
  | none => (s, vs)

def Join.write (d : Dialect) (j : Join) : Writer := fun vs =>
  let (on, vs) := j.on.write d vs
  (" INNER JOIN " ++ d.quote j.table ++ " " ++ d.quote j.alias ++ " ON " ++ on, vs)

/-- A clause of conditions; without conditions there is none. -/
def clauseText (word : String) : List String → String
  | [] => ""
  | ss => " " ++ word ++ " " ++ " AND ".intercalate ss

namespace ElementQuery

/-- The subquery from the texts of its parts. -/
def subqueryText (d : Dialect) (columns joins wheres havings : List String) : String :=
  "SELECT " ++ ", ".intercalate columns ++ " FROM " ++ d.quote elementsTable ++ " INNER JOIN " ++
    d.quote sitesTable ++ " ON " ++ (Column.of sitesTable "elementId").sql d ++ " = " ++
    (Column.of elementsTable "id").sql d ++ String.join joins ++ clauseText "WHERE" wheres ++
    clauseText "HAVING" havings

/-- The query written in one walk. -/
def render (q : ElementQuery) : Statement :=
  let d := q.dialect
  let (shown, vs) := Writer.each (Projection.write d) q.selects []
  let (columns, vs) := Writer.each (Projection.write d) q.subquerySelects vs
  let (joins, vs) := Writer.each (Join.write d) q.joins vs
  let (wheres, vs) := Writer.each (Condition.write d) q.wheres vs
  let (havings, vs) := Writer.each (Condition.write d) q.havings vs
  { sql :=
      "SELECT " ++ ", ".intercalate ((d.quote subqueryAlias ++ ".*") :: shown) ++ " FROM (" ++
        subqueryText d columns joins wheres havings ++ ") " ++ d.quote subqueryAlias
    params := vs }

end ElementQuery

end Sql

end Proximity
