import Mathlib.Analysis.Real.Pi.Bounds
import Mathlib.Analysis.SpecialFunctions.Trigonometric.Inverse
import Proximity.Decimal.Value
import Proximity.Search.Compile
import Proximity.Sql.Substitution

/-!
# Rows without coordinates

A latitude or a longitude that is NULL makes the cosine of the angle NULL. Whether the distance is
NULL with it is decided by the clamp around that cosine, where the databases part: MySQL takes the
least and the greatest of values to be NULL if one of them is, PostgreSQL passes over those that
are. In PostgreSQL the clamp turns NULL into the lower end of its interval, so a row without
coordinates lies as far off as any point can be, and is found by a range that reaches that far.
-/

namespace Proximity

open Sql

variable {K : Type}

namespace Sql

/-- The number that a value is. -/
def Value.toNumber? : Value K → Option K
  | .number x => some x
  | _ => none

/-- Whether a value is a number or NULL. -/
def Value.IsNumeric (v : Value K) : Prop :=
  v = .null ∨ ∃ x, v = .number x

/-- The one of several numbers that is left when `choose` picks one of two at a time. In MySQL it
is NULL if any of them is NULL, in PostgreSQL only if all of them are. -/
def Dialect.extreme (d : Dialect) (choose : K → K → K) (vs : List (Value K)) : Value K :=
  let numbers := vs.filterMap Value.toNumber?
  if d = .mysql ∧ numbers.length < vs.length then .null
  else
    match numbers with
    | [] => .null
    | x :: xs => .number (xs.foldl choose x)

/-- The functions of a distance treat NULL as the documentation of a database says. -/
structure Interpretation.Documented [LinearOrder K] (I : Interpretation K) (d : Dialect) :
    Prop where
  radians : I.function "radians" [.null] = .null
  cos : I.function "cos" [.null] = .null
  sin : I.function "sin" [.null] = .null
  acos : I.function "acos" [.null] = .null
  least : ∀ vs, (∀ v ∈ vs, v.IsNumeric) → I.function "least" vs = d.extreme min vs
  greatest : ∀ vs, (∀ v ∈ vs, v.IsNumeric) → I.function "greatest" vs = d.extreme max vs

theorem Value.isNumeric_pair (x : K) {v : Value K} (hv : v.IsNumeric) :
    ∀ w ∈ [.number x, v], w.IsNumeric := by
  intro w hw
  rcases List.mem_pair.mp hw with rfl | rfl
  · exact .inr ⟨x, rfl⟩
  · exact hv

namespace Interpretation

variable [Ring K] (I : Interpretation K)

@[simp] theorem arith_null_left (op : ArithOp) (v : Value K) : I.arith op .null v = .null := rfl

@[simp] theorem arith_null_right (op : ArithOp) (v : Value K) : I.arith op v .null = .null := by
  unfold arith
  rcases I.number? v with _ | x <;> rfl

end Interpretation

end Sql

section Distance

variable [Ring K] [LinearOrder K] {I : Interpretation K} {d : Dialect} {lat lng : Column}

/-- Without one of the coordinates the cosine of the angle is NULL, in either database. -/
theorem value_cosAngle (h : I.Documented d) (hm : I.column lat = .null ∨ I.column lng = .null)
    (origin : Coordinates) : (cosAngle origin lat lng).value I = .null := by
  simp only [cosAngle, Expr.times, Expr.apply, Expr.value, Expr.values]
  rcases hm with hm | hm
  · rw [hm, h.radians, h.cos, h.sin]
    simp
  · rw [hm, h.radians, I.arith_null_left, h.cos]
    simp

/-- The clamp of NULL. -/
def clampedNull (d : Dialect) : Value K :=
  match d with
  | .mysql => .null
  | .postgres => .number (-1)

variable [IsStrictOrderedRing K]

theorem extreme_clamp (d : Dialect) :
    d.extreme min [.number (1 : K), d.extreme max [.number (-1), .null]] = clampedNull d := by
  rcases d with _ | _
  · rfl
  · have h : min (1 : K) (-1) = -1 := min_eq_right (neg_le_self zero_le_one)
    exact congrArg Value.number h

/-- The distance of a row without one of the coordinates is that of a cosine clamped from NULL. -/
theorem value_distance (h : I.Documented d) (hm : I.column lat = .null ∨ I.column lng = .null)
    (units : Units) (origin : Coordinates) :
    (distance units origin lat lng).value I =
      I.arith .mul (.number units.globeRadius) (I.function "acos" [clampedNull d]) := by
  have hc := value_cosAngle h hm origin
  have hg : I.function "greatest" [.number (-1), .null] = d.extreme max [.number (-1), .null] :=
    h.greatest _ (Value.isNumeric_pair _ (.inl rfl))
  have hn : (d.extreme max [.number (-1 : K), .null]).IsNumeric := by
    rcases d with _ | _
    · exact .inl rfl
    · exact .inr ⟨-1, rfl⟩
  have hl := h.least _ (Value.isNumeric_pair (1 : K) hn)
  rw [extreme_clamp] at hl
  simp only [distance, Expr.times, Expr.apply, Expr.value, Expr.values, hc]
  rw [Int.cast_neg, Int.cast_one, hg, hl]

omit [IsStrictOrderedRing K] [LinearOrder K]

theorem value_grouped (I : Interpretation K) (e : Expr) : e.grouped.value I = e.value I := by
  cases e <;> rfl

/-- However a dialect refers to a computed column, the reference has the value of its expression. -/
theorem value_aliasReference {definition? : String → Option Expr} {a : Aliased}
    (ha : definition? a.alias = some a.expr) (hs : a.expr.substitute definition? = a.expr) :
    ∀ d : Dialect, (d.aliasReference a).value (I.defining definition?) = a.expr.value I
  | .mysql => by
    rw [← Expr.value_substitute]
    simp only [Dialect.aliasReference, Dialect.aliasPlacement, Expr.substitute, ha,
      Option.getD_some]
  | .postgres => by
    simp only [Dialect.aliasReference, Dialect.aliasPlacement]
    rw [value_grouped, ← Expr.value_substitute, hs]

/-- The condition that a distance is within a range. -/
def rangeCondition (d : Dialect) (distance : Aliased) (range : Float) : Condition :=
  (d.aliasFilter distance .le (.value (.param (.float range)))).condition

variable [LinearOrder K]

theorem truth_rangeCondition (I : Interpretation K) {definition? : String → Option Expr}
    {a : Aliased} (ha : definition? a.alias = some a.expr)
    (hs : a.expr.substitute definition? = a.expr) (d : Dialect) (range : Float) :
    (rangeCondition d a range).truth (I.defining definition?) =
      I.compare .le (a.expr.value I) (I.param (.float range)) := by
  unfold rangeCondition Dialect.aliasFilter
  rw [Condition.truth, value_aliasReference ha hs, I.compare_defining]
  rfl

variable [IsStrictOrderedRing K]

/-- A row without one of the coordinates has no distance in MySQL only, and in PostgreSQL it is
within a range exactly if half the globe's circumference is. -/
theorem missing_coordinates (h : I.Documented d)
    (hm : I.column lat = .null ∨ I.column lng = .null) (units : Units) (origin : Coordinates)
    {name : String} {definition? : String → Option Expr}
    (hd : definition? name = some (distance units origin lat lng)) {range : Float} {r turn : K}
    (hr : I.param (.float range) = .number r)
    (ht : I.function "acos" [.number (-1)] = .number turn) :
    ((distance units origin lat lng).value I = .null ↔ d = .mysql) ∧
      ((rangeCondition d ⟨name, distance units origin lat lng⟩ range).truth
          (I.defining definition?) = some true ↔
        d = .postgres ∧ units.globeRadius * turn ≤ r) := by
  have hv := value_distance h hm units origin
  have hc := truth_rangeCondition I (a := ⟨name, distance units origin lat lng⟩) hd rfl d range
  rw [hc, hv, hr]
  rcases d with _ | _
  · have hn : I.function "acos" [clampedNull .mysql] = .null := h.acos
    rw [hn, I.arith_null_right]
    simp [Interpretation.compare]
  · have hn : I.function "acos" [clampedNull .postgres] = .number turn := ht
    rw [hn]
    simp [Interpretation.arith, Interpretation.number?, Interpretation.compare, ArithOp.apply,
      Comparison.holds]

end Distance

/-- The functions of a distance over the reals. -/
noncomputable def realFunction (d : Dialect) : String → List (Value ℝ) → Value ℝ
  | "radians", [.number x] => .number (x * (Real.pi / 180))
  | "cos", [.number x] => .number (Real.cos x)
  | "sin", [.number x] => .number (Real.sin x)
  | "acos", [.number x] => .number (Real.arccos x)
  | "least", vs => d.extreme min vs
  | "greatest", vs => d.extreme max vs
  | _, _ => .null

/-- A row without any values, in which functions and numbers are what they are over the reals. -/
noncomputable def emptyRow (d : Dialect) : Interpretation ℝ where
  column _ := .null
  «alias» _ := .null
  param
    | .int n => .number n
    | .float x => .number (Decimal.ofFloat x)
    | .string s => .text s
  float x := Decimal.ofFloat x
  function := realFunction d
  json _ _ := .null
  coerced _ := none
  collated _ _ _ := none

theorem emptyRow_documented (d : Dialect) : (emptyRow d).Documented d where
  radians := rfl
  cos := rfl
  sin := rfl
  acos := rfl
  least _ _ := rfl
  greatest _ _ := rfl

theorem emptyRow_acos (d : Dialect) :
    (emptyRow d).function "acos" [.number (-1)] = .number Real.pi :=
  congrArg Value.number Real.arccos_neg_one

theorem emptyRow_range (d : Dialect) : (emptyRow d).param (.float 20000) = .number 20000 := by
  have h : Decimal.shortest .away 20000 = ⟨false, 2, 4⟩ := by decide +kernel
  have hv : Decimal.ofFloat 20000 = 20000 := by
    rw [Decimal.ofFloat, h, Decimal.value, Decimal.magnitude]
    norm_num
  simp only [emptyRow, hv]
  norm_num

theorem miles_pi_le : ((Units.miles.globeRadius : ℤ) : ℝ) * Real.pi ≤ 20000 := by
  have h := Real.pi_lt_d2
  norm_num [Units.globeRadius]
  linarith

/-- In PostgreSQL a row without coordinates lies within 20000 miles of any point. -/
theorem missing_coordinates_emptyRow :
    let miles := distance .miles ⟨41.8, -87.6⟩ latColumn lngColumn
    miles.value (emptyRow .postgres) ≠ .null ∧
      (rangeCondition .postgres ⟨"distance", miles⟩ 20000).truth
        ((emptyRow .postgres).defining fun _ => some miles) = some true := by
  intro miles
  have h : (miles.value (emptyRow .postgres) = .null ↔ Dialect.postgres = .mysql) ∧
      ((rangeCondition .postgres ⟨"distance", miles⟩ 20000).truth
          ((emptyRow .postgres).defining fun _ => some miles) = some true ↔
        Dialect.postgres = .postgres ∧ Units.miles.globeRadius * Real.pi ≤ 20000) :=
    missing_coordinates (emptyRow_documented .postgres) (.inl rfl) .miles ⟨41.8, -87.6⟩ rfl
      (emptyRow_range .postgres) (emptyRow_acos .postgres)
  refine ⟨fun hn => ?_, h.2.mpr ⟨rfl, miles_pi_le⟩⟩
  cases h.1.mp hn

/-- It is not so that a row without coordinates has no distance and lies within no range. -/
theorem not_missing_coordinates_null :
    ¬ ∀ (d : Dialect) (I : Interpretation ℝ), I.Documented d →
      I.column latColumn = .null ∨ I.column lngColumn = .null →
        ∀ (units : Units) (origin : Coordinates) (range : Float),
          (distance units origin latColumn lngColumn).value I = .null ∧
            (rangeCondition d ⟨"distance", distance units origin latColumn lngColumn⟩ range).truth
              (I.defining fun _ => some (distance units origin latColumn lngColumn)) ≠
                some true := by
  intro h
  obtain ⟨-, ht⟩ := h .postgres (emptyRow .postgres) (emptyRow_documented _) (.inl rfl)
    .miles ⟨41.8, -87.6⟩ 20000
  have hv : (distance .miles ⟨41.8, -87.6⟩ latColumn lngColumn).value (emptyRow .postgres) = _ :=
    value_distance (emptyRow_documented .postgres) (.inl rfl) .miles ⟨41.8, -87.6⟩
  rw [truth_rangeCondition _ rfl rfl, hv, emptyRow_range] at ht
  rw [show (emptyRow .postgres).function "acos" [clampedNull .postgres] = .number Real.pi from
    emptyRow_acos .postgres] at ht
  simp [Interpretation.arith, Interpretation.number?, Interpretation.compare, ArithOp.apply,
    Comparison.holds] at ht
  exact absurd miles_pi_le (not_le.mpr ht)

end Proximity
