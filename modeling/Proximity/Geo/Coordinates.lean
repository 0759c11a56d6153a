import Proximity.Geo.Units
import Proximity.Json.Record

/-!
# Coordinates and the distance between them

A point on the globe in degrees. As fields under `lat` and `lng`, each half is a number or a text
that reads as one, and both have to be finite.

The distance between two points is that along the surface of the globe, by the spherical law of
cosines: the radius times the angle whose cosine is
`cos φ₁ · cos φ₂ · cos (λ₂ - λ₁) + sin φ₁ · sin φ₂`. Rounding can push that cosine past one, so
it is clamped to `[-1, 1]` first. The formula is stated over any numbers with the operations it
needs, of which the floats are one instance.
-/

namespace Proximity

/-- A latitude and a longitude in degrees. -/
structure Coordinates where
  lat : Float
  lng : Float
deriving DecidableEq

namespace Coordinates

/-- The coordinates under `lat` and `lng`, where both are finite numbers. -/
def ofFields? (fields : Keyed Json) : Option Coordinates := do
  let lat ← (Keyed.get? "lat" fields).bind Json.finite?
  let lng ← (Keyed.get? "lng" fields).bind Json.finite?
  some ⟨lat, lng⟩

/-- Coordinates from a record of two numbers. -/
def ofJson? : Json → Option Coordinates :=
  Json.record? do
    let lat ← Json.required "lat" Json.float?
    let lng ← Json.required "lng" Json.float?
    pure ⟨lat, lng⟩

end Coordinates

/-- The operations on numbers that the distance is built from. -/
structure AngleArithmetic (α : Type) where
  ofInt : Int → α
  add : α → α → α
  sub : α → α → α
  mul : α → α → α
  lt : α → α → Bool
  radians : α → α
  cos : α → α
  sin : α → α
  acos : α → α

namespace AngleArithmetic

variable {α : Type} (ops : AngleArithmetic α)

/-- The number kept within `[-1, 1]`. -/
def clampUnit (x : α) : α :=
  if ops.lt x (ops.ofInt (-1)) then ops.ofInt (-1)
  else if ops.lt (ops.ofInt 1) x then ops.ofInt 1
  else x

/-- The cosine of the angle between two points, given by latitude and longitude in degrees. -/
def cosAngle (a b : α × α) : α :=
  let lat₁ := ops.radians a.1
  let lat₂ := ops.radians b.1
  let turn := ops.sub (ops.radians b.2) (ops.radians a.2)
  ops.add (ops.mul (ops.mul (ops.cos lat₁) (ops.cos lat₂)) (ops.cos turn))
    (ops.mul (ops.sin lat₁) (ops.sin lat₂))

/-- The distance between two points on a globe of the given radius. -/
def greatCircle (radius : Int) (a b : α × α) : α :=
  ops.mul (ops.ofInt radius) (ops.acos (ops.clampUnit (ops.cosAngle a b)))

end AngleArithmetic

/-- One degree in radians, as a float. -/
def radiansPerDegree : Float := 3.14159265358979323846264338327950288 / 180

/-- The operations on floats. -/
def floatAngles : AngleArithmetic Float where
  ofInt := Float.ofInt
  add := (· + ·)
  sub := (· - ·)
  mul := (· * ·)
  lt x y := x < y
  radians x := x * radiansPerDegree
  cos := Float.cos
  sin := Float.sin
  acos := Float.acos

/-- The distance between two points in a unit. -/
def Coordinates.distance (units : Units) (a b : Coordinates) : Float :=
  floatAngles.greatCircle units.globeRadius (a.lat, a.lng) (b.lat, b.lng)

end Proximity
