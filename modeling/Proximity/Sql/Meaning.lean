import Mathlib.Algebra.Order.Ring.Defs
import Proximity.Sql.ElementQuery

/-!
# What expressions and conditions mean

An interpretation says what the names in a statement stand for in one row. Under it every
expression has a value and every condition is true, false or unknown. Numbers come from any ordered
ring, so that arithmetic is exact. NULL passes through arithmetic and makes comparisons unknown,
and AND and OR of unknown conditions follow the three-valued logic of SQL.

The conditions in WHERE are read in the row as it is; those in HAVING may also name the computed
columns of the subquery by their aliases.
-/

namespace Proximity

namespace Sql

/-- A value in a row. -/
inductive Value (K : Type) where
  | null
  | number (x : K)
  | text (s : String)
  | truth (b : Bool)

/-- Whether a condition holds; `none` where that is unknown. -/
abbrev Truth := Option Bool

namespace Truth

/-- Both hold: one that is false decides, whatever the other is. -/
def both : Truth → Truth → Truth
  | some false, _ => some false
  | _, some false => some false
  | some true, t => t
  | none, _ => none

/-- One of two holds: one that is true decides, whatever the other is. -/
def either : Truth → Truth → Truth
  | some true, _ => some true
  | _, some true => some true
  | some false, t => t
  | none, _ => none

/-- The contrary; that of the unknown is unknown. -/
def contrary : Truth → Truth :=
  Option.map not

/-- All hold. -/
def all (ts : List Truth) : Truth :=
  ts.foldr both (some true)

/-- Any holds. -/
def any (ts : List Truth) : Truth :=
  ts.foldr either (some false)

@[simp] theorem both_true (t : Truth) : both t (some true) = t := by
  rcases t with _ | _ | _ <;> rfl

@[simp] theorem true_both (t : Truth) : both (some true) t = t := by
  rcases t with _ | _ | _ <;> rfl

@[simp] theorem either_false (t : Truth) : either t (some false) = t := by
  rcases t with _ | _ | _ <;> rfl

@[simp] theorem false_either (t : Truth) : either (some false) t = t := by
  rcases t with _ | _ | _ <;> rfl

theorem both_assoc (s t u : Truth) : both (both s t) u = both s (both t u) := by
  rcases s with _ | _ | _ <;> rcases t with _ | _ | _ <;> rcases u with _ | _ | _ <;> rfl

theorem either_assoc (s t u : Truth) : either (either s t) u = either s (either t u) := by
  rcases s with _ | _ | _ <;> rcases t with _ | _ | _ <;> rcases u with _ | _ | _ <;> rfl

theorem both_eq_true {s t : Truth} : both s t = some true ↔ s = some true ∧ t = some true := by
  rcases s with _ | _ | _ <;> rcases t with _ | _ | _ <;> simp [both]

theorem either_eq_true {s t : Truth} : either s t = some true ↔ s = some true ∨ t = some true := by
  rcases s with _ | _ | _ <;> rcases t with _ | _ | _ <;> simp [either]

theorem all_eq_true {ts : List Truth} : all ts = some true ↔ ∀ t ∈ ts, t = some true := by
  induction ts with
  | nil => simp [all]
  | cons t ts ih =>
    rw [show all (t :: ts) = both t (all ts) from rfl, both_eq_true, ih]
    simp

theorem any_eq_true {ts : List Truth} : any ts = some true ↔ ∃ t ∈ ts, t = some true := by
  induction ts with
  | nil => simp [any]
  | cons t ts ih =>
    rw [show any (t :: ts) = either t (any ts) from rfl, either_eq_true, ih]
    simp [eq_comm]

end Truth

/-- What the names in a statement stand for in one row. -/
structure Interpretation (K : Type) where
  column : Column → Value K
  «alias» : String → Value K
  /-- The value that a parameter is bound to. -/
  param : Param → Value K
  /-- The number that a float stands for. -/
  float : Float → K
  function : String → List (Value K) → Value K
  /-- The number under a key in a JSON column. -/
  json : Column → String → Value K
  /-- The number that a text or a truth value counts as in arithmetic, if it counts as one. -/
  coerced : Value K → Option K
  /-- How two values compare that are not both numbers and of which neither is NULL. -/
  collated : Comparison → Value K → Value K → Truth

/-- An operator on numbers. -/
def ArithOp.apply [Ring K] : ArithOp → K → K → K
  | .add, x, y => x + y
  | .sub, x, y => x - y
  | .mul, x, y => x * y

/-- A comparison of numbers. -/
def Comparison.holds [LinearOrder K] : Comparison → K → K → Bool
  | .eq, x, y => x = y
  | .le, x, y => x ≤ y

namespace Interpretation

variable {K : Type} (I : Interpretation K)

/-- The number that a value counts as in arithmetic. -/
def number? : Value K → Option K
  | .null => none
  | .number x => some x
  | v => I.coerced v

/-- Arithmetic on values; it is NULL unless both sides count as numbers. -/
def arith [Ring K] (op : ArithOp) (v w : Value K) : Value K :=
  match I.number? v, I.number? w with
  | some x, some y => .number (op.apply x y)
  | _, _ => .null

/-- A comparison of values; it is unknown if one of them is NULL. -/
def compare [LinearOrder K] (op : Comparison) : Value K → Value K → Truth
  | .null, _ => none
  | _, .null => none
  | .number x, .number y => some (op.holds x y)
  | v, w => I.collated op v w

end Interpretation

variable {K : Type} [Ring K]

mutual

/-- The value of an expression. -/
def Expr.value (I : Interpretation K) : Expr → Value K
  | .column c => I.column c
  | .alias name => I.alias name
  | .int n => .number n
  | .float x => .number (I.float x)
  | .null => .null
  | .param p => I.param p
  | .call function args => I.function function (Expr.values I args)
  | .binary op left right => I.arith op (left.value I) (right.value I)
  | .group e => e.value I
  | .jsonNumber c key => I.json c key

/-- The values of several expressions. -/
def Expr.values (I : Interpretation K) : List Expr → List (Value K)
  | [] => []
  | e :: es => e.value I :: Expr.values I es

end

/-- Whether a value is NULL. -/
def Value.isNull : Value K → Bool
  | .null => true
  | _ => false

variable [LinearOrder K]

mutual

/-- Whether a condition holds. -/
def Condition.truth (I : Interpretation K) : Condition → Truth
  | .compare op left right => I.compare op (left.value I) (right.value I)
  | .isNull e => some (e.value I).isNull
  | .neg c => (c.truth I).contrary
  | .conj cs => Truth.all (Condition.truths I cs)
  | .disj cs => Truth.any (Condition.truths I cs)

/-- Whether each of several conditions holds. -/
def Condition.truths (I : Interpretation K) : List Condition → List Truth
  | [] => []
  | c :: cs => c.truth I :: Condition.truths I cs

end

theorem Condition.truths_eq_map (I : Interpretation K) (cs : List Condition) :
    Condition.truths I cs = cs.map (·.truth I) := by
  induction cs with
  | nil => rfl
  | cons c cs ih => rw [Condition.truths, ih, List.map_cons]

/-- Conditions joined by AND are true if each of them is. -/
theorem Condition.truth_conj {I : Interpretation K} {cs : List Condition} :
    (Condition.conj cs).truth I = some true ↔ ∀ c ∈ cs, c.truth I = some true := by
  rw [Condition.truth, Truth.all_eq_true, Condition.truths_eq_map]
  simp

/-- The expression that is shown under an alias in the subquery. -/
def ElementQuery.definition? (q : ElementQuery) (name : String) : Option Expr :=
  (q.subquerySelects.find? fun p => p.alias? == some name).map Projection.expr

/-- The interpretation in which aliases stand for the expressions that they are defined by. -/
def Interpretation.defining (I : Interpretation K) (definition? : String → Option Expr) :
    Interpretation K :=
  { I with «alias» := fun name => ((definition? name).map (·.value I)).getD (I.alias name) }

/-- Whether a query keeps a row: its conditions in WHERE and in HAVING are all true. -/
def ElementQuery.Keeps (I : Interpretation K) (q : ElementQuery) : Prop :=
  (Condition.conj q.wheres).truth I = some true ∧
    (Condition.conj q.havings).truth (I.defining q.definition?) = some true

end Sql

end Proximity
