import Proximity.Proofs.MissingCoordinates
import Proximity.Sql.Names

/-!
# The distance in SQL is the great-circle distance

The formula of the distance is there twice, as the tree that a database works out and as the
function that works on floats. Over the numbers of any ordered ring, with any functions in the
place of the cosine and its kin, the two come to the same number in every row that has both
coordinates. The one step that is not the same operation on both sides is the clamp, which is a
least and a greatest in the tree and two comparisons in the function (`clampUnit_eq`).
-/

namespace Proximity

open Sql

variable {K : Type}

/-- Functions on the numbers of a ring under the names of those that a distance is built from,
whatever they are. -/
structure AngleFunctions (K : Type) where
  radians : K → K
  cos : K → K
  sin : K → K
  acos : K → K

def AngleFunctions.arithmetic [Ring K] [LinearOrder K] (f : AngleFunctions K) :
    AngleArithmetic K where
  ofInt n := n
  add x y := x + y
  sub x y := x - y
  mul x y := x * y
  lt x y := x < y
  radians := f.radians
  cos := f.cos
  sin := f.sin
  acos := f.acos

namespace Sql

/-- What a function is called with in an expression, once for each call at whatever depth. -/
def Expr.argumentsOf (function : String) (e : Expr) : List (List Expr) :=
  e.parts.filterMap fun
    | .call name args => if name = function then some args else none
    | _ => none

/-- In a row, the names of functions stand for functions on numbers. -/
structure Interpretation.Computes [LinearOrder K] (I : Interpretation K) (f : AngleFunctions K) :
    Prop where
  radians : ∀ x, I.function "radians" [.number x] = .number (f.radians x)
  cos : ∀ x, I.function "cos" [.number x] = .number (f.cos x)
  sin : ∀ x, I.function "sin" [.number x] = .number (f.sin x)
  acos : ∀ x, I.function "acos" [.number x] = .number (f.acos x)
  least : ∀ x y, I.function "least" [.number x, .number y] = .number (min x y)
  greatest : ∀ x y, I.function "greatest" [.number x, .number y] = .number (max x y)

section Value

variable [Ring K] {I : Interpretation K}

theorem Expr.value_apply {name : String} {g : K → K}
    (hg : ∀ x, I.function name [.number x] = .number (g x)) {e : Expr} {x : K}
    (he : e.value I = .number x) : (e.apply name).value I = .number (g x) := by
  rw [apply, value, values, values, he, hg]

theorem Expr.value_binary {left right : Expr} {x y : K} (hl : left.value I = .number x)
    (hr : right.value I = .number y) (op : ArithOp) :
    (Expr.binary op left right).value I = .number (op.apply x y) := by
  rw [value, hl, hr]
  rfl

end Value

end Sql

section Formula

variable [Ring K] [LinearOrder K] {f : AngleFunctions K} {I : Interpretation K}

theorem value_cosAngle_eq (h : I.Computes f) {lat lng : Column} {x y : K}
    (hlat : I.column lat = .number x) (hlng : I.column lng = .number y) (origin : Coordinates) :
    (Sql.cosAngle origin lat lng).value I =
      .number (f.arithmetic.cosAngle (I.float origin.lat, I.float origin.lng) (x, y)) := by
  have hlat₁ := Expr.value_apply h.radians (e := .float origin.lat) rfl
  have hlat₂ := Expr.value_apply h.radians (e := .column lat) hlat
  have hlng₁ := Expr.value_apply h.radians (e := .float origin.lng) rfl
  have hlng₂ := Expr.value_apply h.radians (e := .column lng) hlng
  have hturn := Expr.value_apply h.cos (Expr.value_binary hlng₂ hlng₁ .sub)
  have hcos := Expr.value_binary (Expr.value_binary (Expr.value_apply h.cos hlat₁)
    (Expr.value_apply h.cos hlat₂) .mul) hturn .mul
  have hsin := Expr.value_binary (Expr.value_apply h.sin hlat₁) (Expr.value_apply h.sin hlat₂) .mul
  exact Expr.value_binary hcos hsin .add

variable [IsStrictOrderedRing K]

theorem clampUnit_eq (f : AngleFunctions K) (z : K) :
    f.arithmetic.clampUnit z = min 1 (max (-1) z) := by
  have hends : (-1 : K) ≤ 1 := neg_le_self zero_le_one
  simp only [AngleArithmetic.clampUnit, AngleFunctions.arithmetic, decide_eq_true_eq, Int.cast_neg,
    Int.cast_one]
  split_ifs with hlow hhigh
  · rw [max_eq_left hlow.le, min_eq_right hends]
  · rw [max_eq_right (hends.trans hhigh.le), min_eq_left hhigh.le]
  · rw [max_eq_right (not_lt.mp hlow), min_eq_right (not_lt.mp hhigh)]

theorem clampUnit_mem (f : AngleFunctions K) (z : K) :
    -1 ≤ f.arithmetic.clampUnit z ∧ f.arithmetic.clampUnit z ≤ 1 := by
  rw [clampUnit_eq]
  exact ⟨le_min (neg_le_self zero_le_one) (le_max_left _ _), min_le_left _ _⟩

/-- The cosine of the angle within its bounds, as the tree has it. -/
def clampedCosine (origin : Coordinates) (lat lng : Column) : Expr :=
  .call "least" [.int 1, .call "greatest" [.int (-1), Sql.cosAngle origin lat lng]]

theorem value_clampedCosine (h : I.Computes f) {lat lng : Column} {x y : K}
    (hlat : I.column lat = .number x) (hlng : I.column lng = .number y) (origin : Coordinates) :
    (clampedCosine origin lat lng).value I =
      .number (f.arithmetic.clampUnit
        (f.arithmetic.cosAngle (I.float origin.lat, I.float origin.lng) (x, y))) := by
  have hc := value_cosAngle_eq h hlat hlng origin
  simp only [clampedCosine, Expr.value, Expr.values, hc]
  rw [h.greatest, h.least, clampUnit_eq, Int.cast_neg, Int.cast_one]

/-- In a row with both coordinates the expression for the distance has the value of the
great-circle formula, worked out with the same functions. The one argument of its inverse cosine
is the formula's and lies in `[-1, 1]`. The expression reads the two columns and no other, and
holds neither the alias of a computed column nor a bound value. -/
theorem distance_is_great_circle (h : I.Computes f) {lat lng : Column} {x y : K}
    (hlat : I.column lat = .number x) (hlng : I.column lng = .number y) (units : Units)
    (origin : Coordinates) :
    let e := Sql.distance units origin lat lng
    let point := (I.float origin.lat, I.float origin.lng)
    let cosine := f.arithmetic.clampUnit (f.arithmetic.cosAngle point (x, y))
    e.value I = .number (f.arithmetic.greatCircle units.globeRadius point (x, y)) ∧
      (e.argumentsOf "acos").map (Expr.values I) = [[.number cosine]] ∧
      (-1 ≤ cosine ∧ cosine ≤ 1) ∧
      (∀ c ∈ e.parts.filterMap Expr.column?, c = lat ∨ c = lng) ∧
      e.parts.filterMap Expr.alias? = [] ∧ e.leaves = [] := by
  intro e point cosine
  have hc := value_clampedCosine h hlat hlng origin
  have hacos := Expr.value_apply h.acos hc
  have hradius : (Expr.int units.globeRadius).value I = .number units.globeRadius := rfl
  refine ⟨?_, ?_, clampUnit_mem f _, ?_, rfl, rfl⟩
  · exact Expr.value_binary hradius hacos .mul
  · have hargs : e.argumentsOf "acos" = [[clampedCosine origin lat lng]] := by
      simp [e, Expr.argumentsOf, Sql.distance, clampedCosine, Sql.cosAngle, Expr.times, Expr.apply,
        Expr.parts, Expr.partsAll]
    rw [hargs]
    simp only [List.map_cons, List.map_nil, Expr.values, hc]
    rfl
  · have hcolumns : e.parts.filterMap Expr.column? = [lat, lng, lat] := rfl
    rw [hcolumns]
    simp only [List.mem_cons, List.not_mem_nil, or_false]
    rintro c (rfl | rfl | rfl)
    · exact .inl rfl
    · exact .inr rfl
    · exact .inl rfl

end Formula

noncomputable def realAngles : AngleFunctions ℝ where
  radians x := x * (Real.pi / (180 : ℕ))
  cos := Real.cos
  sin := Real.sin
  acos := Real.arccos

/-- A row that holds a point, in which all else is as in the empty row. -/
noncomputable def rowAt (lat lng : ℝ) : Interpretation ℝ :=
  { emptyRow .mysql with
    column := fun c =>
      if c = latColumn then .number lat else if c = lngColumn then .number lng else .null }

theorem rowAt_computes (lat lng : ℝ) : (rowAt lat lng).Computes realAngles where
  radians _ := rfl
  cos _ := rfl
  sin _ := rfl
  acos _ := rfl
  least _ _ := by simp [rowAt, emptyRow, realFunction, Dialect.extreme, Value.toNumber?]
  greatest _ _ := by simp [rowAt, emptyRow, realFunction, Dialect.extreme, Value.toNumber?]

theorem ofFloat_ninety : (Decimal.ofFloat 90 : ℝ) = 90 := by
  have h : Decimal.shortest .away 90 = ⟨false, 9, 1⟩ := by decide +kernel
  rw [Decimal.ofFloat, h, Decimal.value, Decimal.magnitude]
  norm_num

/-- Seen from the pole, the cosine of the angle to a point is the sine of the point's latitude. -/
theorem cosAngle_pole (turn lat lng : ℝ) :
    realAngles.arithmetic.cosAngle (90, turn) (lat, lng) = Real.sin (lat * (Real.pi / 180)) := by
  have hpole : (90 : ℝ) * (Real.pi / 180) = Real.pi / 2 := by ring
  simp [AngleArithmetic.cosAngle, AngleFunctions.arithmetic, realAngles, hpole]

theorem greatCircle_pole (radius : Int) (turn lng : ℝ) :
    realAngles.arithmetic.greatCircle radius (90, turn) (30, lng) = radius * (Real.pi / 3) := by
  have hsin : Real.sin (30 * (Real.pi / 180)) = Real.cos (Real.pi / 3) := by
    rw [show (30 : ℝ) * (Real.pi / 180) = Real.pi / 6 by ring, Real.sin_pi_div_six,
      Real.cos_pi_div_three]
  have hacos : Real.arccos (Real.cos (Real.pi / 3)) = Real.pi / 3 :=
    Real.arccos_cos (by positivity) (by linarith [Real.pi_pos])
  have hin : realAngles.arithmetic.clampUnit (Real.cos (Real.pi / 3)) = Real.cos (Real.pi / 3) := by
    rw [clampUnit_eq, max_eq_right (Real.neg_one_le_cos _), min_eq_right (Real.cos_le_one _)]
  rw [AngleArithmetic.greatCircle, cosAngle_pole, hsin, hin]
  exact congrArg ((radius : ℝ) * ·) hacos

/-- A row at 30 degrees of latitude lies a sixth of the globe's circumference from the pole. -/
theorem distance_is_great_circle_pole :
    (rowAt 30 151.2).column latColumn = .number 30 ∧
      (rowAt 30 151.2).column lngColumn = .number 151.2 ∧
      (Sql.distance .kilometers ⟨90, -87.6⟩ latColumn lngColumn).value (rowAt 30 151.2) =
        .number (6371 * (Real.pi / 3)) := by
  have hne : lngColumn ≠ latColumn := by decide
  have hlat : (rowAt 30 151.2).column latColumn = .number 30 := by simp [rowAt]
  have hlng : (rowAt 30 151.2).column lngColumn = .number 151.2 := by simp [rowAt, hne]
  obtain ⟨hvalue, -⟩ :=
    distance_is_great_circle (rowAt_computes 30 151.2) hlat hlng .kilometers ⟨90, -87.6⟩
  refine ⟨hlat, hlng, hvalue.trans ?_⟩
  have hpoint : (rowAt 30 151.2).float 90 = 90 := ofFloat_ninety
  rw [hpoint, greatCircle_pole]
  norm_num [Units.globeRadius]

end Proximity
