import Proximity.Sql.Expr
import Proximity.Sql.ElementQuery

/-!
# The address table

The table of stored addresses and how it is joined to the elements of a field. A single row is
loaded by the element, the site and the field it belongs to; its numbers are widened to the types
that an address record holds.
-/

namespace Proximity

namespace Sql

/-- The table of stored addresses. -/
def addressTable : String := "googlemaps_addresses"

/-- The alias that the table is joined under. -/
def addressAlias : String := "gm_addresses"

/-- A column of the joined table. -/
def addressColumn (name : String) : Column :=
  .of addressAlias name

/-- The latitude in the joined table. -/
def latColumn : Column := addressColumn "lat"

/-- The longitude in the joined table. -/
def lngColumn : Column := addressColumn "lng"

/-- The condition that ties an address to its element and to a field. -/
def addressCondition (fieldId : Int) : Condition :=
  .all [(Expr.column (addressColumn "elementId")).eq (.column (.of elementsTable "id")),
    (Expr.column (addressColumn "fieldId")).eq (.param (.int fieldId))]

/-- The table joined to the elements of a field. -/
def addressJoin (fieldId : Int) : Join where
  table := addressTable
  «alias» := addressAlias
  on := addressCondition fieldId

/-- How a column is read. -/
inductive Widening where
  | asStored
  | integer
  | float
deriving DecidableEq, Repr

/-- The type that a column is widened to. -/
def Widening.target? : Widening → Dialect → Option String
  | .asStored, _ => none
  | .integer, .mysql => some "SIGNED"
  | .integer, .postgres => some "BIGINT"
  | .float, .mysql => some "DOUBLE"
  | .float, .postgres => some "DOUBLE PRECISION"

/-- The columns of an address record, in the order in which they are read. -/
def recordColumns : List (String × Widening) :=
  [("id", .integer), ("elementId", .integer), ("siteId", .integer), ("fieldId", .integer),
    ("formatted", .asStored), ("raw", .asStored), ("name", .asStored), ("street1", .asStored),
    ("street2", .asStored), ("city", .asStored), ("state", .asStored), ("zip", .asStored),
    ("neighborhood", .asStored), ("county", .asStored), ("country", .asStored),
    ("countryCode", .asStored), ("placeId", .asStored), ("lat", .float), ("lng", .float),
    ("zoom", .asStored), ("dateCreated", .asStored), ("dateUpdated", .asStored),
    ("uid", .asStored)]

/-- A column as it is read. -/
def readColumn (d : Dialect) (name : String) (w : Widening) : String :=
  match w.target? d with
  | none => d.quote name
  | some target => "CAST(" ++ d.quote name ++ " AS " ++ target ++ ") AS " ++ d.quote name

/-- The columns that a row is found by. -/
def identityColumns : List String := ["elementId", "siteId", "fieldId"]

/-- The statement that loads one row by its element, its site and its field. -/
def selectByIdentity (d : Dialect) : String :=
  "SELECT " ++ ", ".intercalate (recordColumns.map fun (name, w) => readColumn d name w) ++
    " FROM " ++ d.quote addressTable ++ " WHERE " ++
      " AND ".intercalate (identityColumns.mapIdx fun i name =>
        d.quote name ++ " = " ++ d.placeholder (i + 1)) ++
    " LIMIT 1"

end Sql

end Proximity
