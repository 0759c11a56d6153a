import Proximity.Field.Layout
import Proximity.Geo.Coordinates
import Proximity.Sql.ElementQuery

/-!
# Distance and radius in SQL

The great-circle distance between a fixed point and the point that two columns hold, as an
expression that either dialect can work out. A search can turn the range around: an element matches
if the target lies within the element's own radius, which is read from the content of the elements.
-/

namespace Proximity

namespace Sql

/-- A product. -/
def Expr.times (left right : Expr) : Expr :=
  .binary .mul left right

/-- A function of one argument. -/
def Expr.apply (function : String) (e : Expr) : Expr :=
  .call function [e]

/-- The cosine of the angle between a point and the one in two columns. -/
def cosAngle (origin : Coordinates) (lat lng : Column) : Expr :=
  let originLat := (Expr.float origin.lat).apply "radians"
  let rowLat := (Expr.column lat).apply "radians"
  let turn := Expr.binary .sub ((Expr.column lng).apply "radians")
    ((Expr.float origin.lng).apply "radians")
  .binary .add
    (((originLat.apply "cos").times (rowLat.apply "cos")).times (turn.apply "cos"))
    ((originLat.apply "sin").times (rowLat.apply "sin"))

/-- The distance in a unit between a point and the one in two columns. -/
def distance (units : Units) (origin : Coordinates) (lat lng : Column) : Expr :=
  let clamped := Expr.call "least" [.int 1, .call "greatest" [.int (-1), cosAngle origin lat lng]]
  .group ((Expr.int units.globeRadius).times (clamped.apply "acos"))

/-- The alias of the radius. -/
def radiusAlias : String := "gm_reverseRadius"

/-- The column that holds the content of the elements. -/
def contentColumn : Column :=
  .of sitesTable contentColumnName

/-- The radius of an element, as a computed column. -/
def radius (f : LayoutField) : Aliased where
  «alias» := radiusAlias
  expr := .jsonNumber contentColumn f.uid

end Sql

end Proximity
