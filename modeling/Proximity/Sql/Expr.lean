import Proximity.Sql.Fragment

/-!
# Expressions and conditions

The trees that statements are built from. They are the same for both dialects: names, marks of
bound values and the access to JSON columns are spelled out when a tree is written in a dialect.

An operand that is a sum, a difference or a product is put in parentheses where reading the text
from the left would part the tree otherwise: if it binds weaker than the operator around it, or
as strongly and stands to the right of anything but a sum.
-/

namespace Proximity

namespace Sql

/-- A column, of a table or by its name alone. -/
structure Column where
  table : Option String
  name : String
deriving DecidableEq

/-- A column of a table. -/
def Column.of (table name : String) : Column :=
  ⟨some table, name⟩

/-- A column by its name alone. -/
def Column.bare (name : String) : Column :=
  ⟨none, name⟩

/-- An operator of arithmetic. -/
inductive ArithOp where
  | add
  | sub
  | mul
deriving DecidableEq, Repr

/-- The sign of an operator. -/
def ArithOp.sign : ArithOp → String
  | .add => "+"
  | .sub => "-"
  | .mul => "*"

/-- How strongly an operator binds. -/
def ArithOp.strength : ArithOp → Nat
  | .add | .sub => 1
  | .mul => 2

/-- A comparison. -/
inductive Comparison where
  | eq
  | le
deriving DecidableEq, Repr

/-- The sign of a comparison. -/
def Comparison.sign : Comparison → String
  | .eq => "="
  | .le => "<="

/-- An expression with a value in every row. -/
inductive Expr where
  | column (c : Column)
  /-- A computed column of the same statement by its alias. -/
  | alias (name : String)
  | int (n : Int)
  | float (x : Float)
  | null
  | param (p : Param)
  | call (function : String) (args : List Expr)
  | binary (op : ArithOp) (left right : Expr)
  /-- An expression in parentheses. -/
  | group (e : Expr)
  /-- The number under a key in a JSON column. -/
  | jsonNumber (c : Column) (key : String)

/-- A condition on rows. -/
inductive Condition where
  | compare (op : Comparison) (left right : Expr)
  | isNull (e : Expr)
  | neg (c : Condition)
  | conj (cs : List Condition)
  | disj (cs : List Condition)

/-- All of the conditions; a single one stands for itself. -/
def Condition.all : List Condition → Condition
  | [c] => c
  | cs => .conj cs

/-- Any of the conditions; a single one stands for itself. -/
def Condition.any : List Condition → Condition
  | [c] => c
  | cs => .disj cs

/-- An expression compared with another for equality. -/
def Expr.eq (left right : Expr) : Condition :=
  .compare .eq left right

/-- An expression that is to be no greater than another. -/
def Expr.le (left right : Expr) : Condition :=
  .compare .le left right

/-- A computed column under its alias. -/
structure Aliased where
  «alias» : String
  expr : Expr

/-- A column in quotes. -/
def Column.fragments (c : Column) : List Fragment :=
  match c.table with
  | some table => [.name table, .text ".", .name c.name]
  | none => [.name c.name]

/-- The access to the number under a key in a JSON column that is written as `column`. -/
def jsonAccess (d : Dialect) (column : List Fragment) (key : String) : List Fragment :=
  match d with
  | .mysql =>
    .text "JSON_EXTRACT(" :: column ++
      [.text ", ", .literal ("$.\"" ++ key ++ "\""), .text ")"]
  | .postgres =>
    .text "CAST((" :: column ++ [.text "->>", .literal key, .text ") AS DOUBLE PRECISION)"]

/-- Fragments in parentheses. -/
def parenthesized (fs : List Fragment) : List Fragment :=
  .text "(" :: fs ++ [.text ")"]

/-- Whether an operand needs parentheses beside an operator. -/
def Expr.needsParens (outer : ArithOp) (onRight : Bool) : Expr → Bool
  | .binary op _ _ =>
    op.strength < outer.strength ||
      (onRight && op.strength == outer.strength && outer != .add)
  | _ => false

/-- An operand, given as it is written, with the parentheses that it needs. -/
def Expr.operand (outer : ArithOp) (onRight : Bool) (e : Expr) (written : List Fragment) :
    List Fragment :=
  if e.needsParens outer onRight then parenthesized written else written

mutual

/-- An expression in a dialect. -/
def Expr.fragments (d : Dialect) : Expr → List Fragment
  | .column c => c.fragments
  | .alias name => [.name name]
  | .int n => [.text (Decimal.integer n)]
  | .float x => [.text (floatText x)]
  | .null => [.text "NULL"]
  | .param p => [.bound p]
  | .call function args =>
    .text function :: parenthesized (Fragment.separate ", " (Expr.fragmentsAll d args))
  | .binary op left right =>
    left.operand op false (left.fragments d) ++ .text (" " ++ op.sign ++ " ") ::
      right.operand op true (right.fragments d)
  | .group e => parenthesized (e.fragments d)
  | .jsonNumber c key => jsonAccess d c.fragments key

/-- Each of several expressions in a dialect. -/
def Expr.fragmentsAll (d : Dialect) : List Expr → List (List Fragment)
  | [] => []
  | e :: es => e.fragments d :: Expr.fragmentsAll d es

end

/-- A condition that brings its own parentheses, given as it is written, or in new ones. -/
def Condition.enclosed (c : Condition) (written : List Fragment) : List Fragment :=
  match c with
  | .conj _ | .disj _ => written
  | _ => parenthesized written

/-- Conditions joined by a word, in parentheses; none of them are a constant. -/
def junction (word none : String) : List (List Fragment) → List Fragment
  | [] => [.text none]
  | rows => parenthesized (Fragment.separate (" " ++ word ++ " ") rows)

mutual

/-- A condition in a dialect. -/
def Condition.fragments (d : Dialect) : Condition → List Fragment
  | .compare op left right =>
    left.fragments d ++ .text (" " ++ op.sign ++ " ") :: right.fragments d
  | .isNull e => e.fragments d ++ [.text " IS NULL"]
  | .neg c => .text "NOT " :: c.enclosed (c.fragments d)
  | .conj cs => junction "AND" "TRUE" (Condition.fragmentsAll d cs)
  | .disj cs => junction "OR" "FALSE" (Condition.fragmentsAll d cs)

/-- Each of several conditions in a dialect. -/
def Condition.fragmentsAll (d : Dialect) : List Condition → List (List Fragment)
  | [] => []
  | c :: cs => c.fragments d :: Condition.fragmentsAll d cs

end

/-- A column in a dialect. -/
def Column.sql (d : Dialect) (c : Column) : String :=
  Fragment.spellAll d 0 c.fragments

/-- An expression as a statement of its own. -/
def Expr.statement (d : Dialect) (e : Expr) : Statement :=
  Fragment.statement d (e.fragments d)

/-- A condition as a statement of its own. -/
def Condition.statement (d : Dialect) (c : Condition) : Statement :=
  Fragment.statement d (c.fragments d)

end Sql

end Proximity
