import Proximity.Error
import Proximity.Search.Config
import Proximity.Search.Narrowing
import Proximity.Search.Resolution
import Proximity.Sql.AddressTable
import Proximity.Sql.AliasFilter
import Proximity.Sql.Distance
import Proximity.Sql.SubfieldCondition

/-!
# Compiling a search

A search is added to an element query in steps: the address table is joined, the distance to the
target is computed and held within the range, the subfields are restricted, coordinates are asked
for, and the distance is compared with the element's own radius. Whatever is added to the query is
noted in a summary.

Without options nothing is added. The one thing that can fail is the field of the radius, which is
looked up before anything is added and before any lookup of the target, so that a search that
fails leaves the query and the geocoder as they were.
-/

namespace Proximity

open Sql

/-- What a search added to a query. -/
structure CompiledSearch where
  /-- The address table as it was joined. -/
  join : Option Join := none
  /-- The distance; without a target it is NULL. -/
  distance : Option Aliased := none
  /-- The conditions in the order in which they were attached. -/
  conditions : List AttachedCondition := []
  /-- The radius of each element. -/
  reverseRadius : Option Aliased := none
  /-- The point that distances are measured from. -/
  origin : Option Coordinates := none
  /-- Whether that point is the configured location. -/
  usedDefaultOrigin : Bool := false
  /-- The subfields that were asked for. -/
  subfields : Option SubfieldFilter := none

namespace CompiledSearch

/-- Whether nothing was added. -/
def isEmpty (c : CompiledSearch) : Bool :=
  c.join.isNone

/-- The number of conditions in a clause. -/
def conditionCount (c : CompiledSearch) (placement : Placement) : Nat :=
  c.conditions.countP fun a => a.placement == placement

end CompiledSearch

/-- The alias of the distance. -/
def distanceAlias : String := "distance"

/-- A query while a search is added to it, and what was added so far. -/
structure Draft where
  query : ElementQuery
  summary : CompiledSearch

namespace Draft

/-- The draft with a condition attached to its clause and noted. -/
def attach (d : Draft) (c : AttachedCondition) : Draft where
  query := d.query.attach c
  summary := { d.summary with conditions := d.summary.conditions ++ [c] }

/-- The draft with the address table joined. -/
def joinAddresses (d : Draft) (field : AddressField) : Draft where
  query := d.query.join (addressJoin field.id)
  summary := { d.summary with join := some (addressJoin field.id) }

/-- The draft with a distance that is not known. -/
def withoutTarget (d : Draft) : Draft :=
  let distance : Aliased := ⟨distanceAlias, .null⟩
  { query := d.query.subquerySelect distance.projection
    summary := { d.summary with distance := some distance } }

/-- The draft with the distance from a point, shown under the name of the field. -/
def measureFrom (d : Draft) (field : AddressField) (units : Units) (origin : Coordinates)
    (isDefault : Bool) : Draft :=
  let distance : Aliased := ⟨distanceAlias, Sql.distance units origin latColumn lngColumn⟩
  { query := (d.query.subquerySelect distance.projection).select
      ⟨.alias distanceAlias, some field.handle⟩
    summary := { d.summary with
      distance := some distance
      origin := some origin
      usedDefaultOrigin := isDefault } }

/-- The distance that was added. -/
def distance (d : Draft) : Aliased :=
  d.summary.distance.getD ⟨distanceAlias, .null⟩

/-- The draft with the distance held within a range. -/
def withinRange (d : Draft) (range : Float) : Draft :=
  d.attach (d.query.dialect.aliasFilter d.distance .le (.value (.param (.float range))))

/-- The draft with a filter on the subfields, where it restricts anything. -/
def restrictTo (d : Draft) (whitelist : List String) (filter : Option SubfieldFilter) : Draft :=
  match filter with
  | none => d
  | some filter =>
    match subfieldCondition whitelist addressAlias filter with
    | none => d
    | some condition =>
      let d := d.attach ⟨.inWhere, condition⟩
      { d with summary := { d.summary with subfields := some filter } }

/-- The condition that both coordinates are there. -/
def coordsPresent : Condition :=
  .neg (.any [.isNull (.column latColumn), .isNull (.column lngColumn)])

/-- The draft with coordinates asked for, where they are to be. -/
def requireCoords (d : Draft) (required : Bool) : Draft :=
  if required then d.attach ⟨.inWhere, coordsPresent⟩ else d

/-- The draft with the distance held within the radius of each element, where a field has it. -/
def withinRadius (d : Draft) : Option LayoutField → Draft
  | none => d
  | some field =>
    let radius := Sql.radius field
    let d := { d with query :=
      (d.query.subquerySelect ⟨.column contentColumn, none⟩).subquerySelect radius.projection }
    let d := d.attach (d.query.dialect.aliasFilter d.distance .le (.aliased radius))
    { d with summary := { d.summary with reverseRadius := some radius } }

end Draft

/-- The subfields that a search asks for, where a filter was derived from its target or not. -/
def Subfields.effective (derived : Option SubfieldFilter) : Subfields → Option SubfieldFilter
  | .none => Option.none
  | .explicit filter => some filter
  | .fallback => derived

/-- The filter that is derived from a target and its match. -/
def NormalizedOptions.derived (o : NormalizedOptions) (t : Target) (r : Resolution) :
    Option SubfieldFilter :=
  match o.subfields, r.address with
  | .fallback, some address => address.narrowing t.phrase
  | _, _ => none

/-- The number field with a handle on the layout of an address field. -/
def AddressField.radiusField (field : AddressField) (handle : String) : Except Error LayoutField :=
  match field.layout handle with
  | none => .error (.noRadiusField handle field.handle)
  | some f => if f.kind.isNumber then .ok f else .error (.radiusNotNumber handle f.kind)

/-- What came of a search: its summary or an error, and the query and the geocoder as it left
them. -/
structure Outcome (σ : Type) where
  result : Except Error CompiledSearch
  query : ElementQuery
  state : σ

namespace SearchConfig

variable {σ : Type}

/-- A query without any search, in the configured dialect. -/
def elementQuery (config : SearchConfig) : ElementQuery :=
  .new config.dialect

/-- The draft with the distance to the target and the range, the filter derived from the target,
and the state of the geocoder after the lookup. -/
def applyTarget (config : SearchConfig) (g : Geocoder σ) (field : AddressField)
    (o : NormalizedOptions) (d : Draft) (s : σ) : Draft × Option SubfieldFilter × σ :=
  match o.target with
  | none => (d.withoutTarget, none, s)
  | some target =>
    let (resolution, s) := g.resolve target s
    let d := d.measureFrom field o.units (resolution.coords.getD config.location.coords)
      resolution.coords.isNone
    let d := if o.reverseRadius.isNone then d.withinRange o.range else d
    (d, o.derived target resolution, s)

/-- The field of the radius that the options ask for. -/
def radiusField (field : AddressField) (o : NormalizedOptions) :
    Except Error (Option LayoutField) :=
  match o.reverseRadius with
  | none => .ok none
  | some handle => (field.radiusField handle).map some

/-- A search with its options normalized and its radius field known, added to a query. -/
def build (config : SearchConfig) (g : Geocoder σ) (field : AddressField) (o : NormalizedOptions)
    (radius : Option LayoutField) (query : ElementQuery) (s : σ) : Draft × σ :=
  let d := (Draft.mk query {}).joinAddresses field
  let (d, derived, s) := config.applyTarget g field o d s
  let d := d.restrictTo config.subfields.whitelist (o.subfields.effective derived)
  let d := d.requireCoords o.requireCoords
  (d.withinRadius radius, s)

/-- A search added to a query. -/
def compile (config : SearchConfig) (g : Geocoder σ) (field : AddressField) (o : SearchOptions)
    (query : ElementQuery) (s : σ) : Outcome σ :=
  if o.isEmpty then ⟨.ok {}, query, s⟩
  else
    let normalized := o.normalizeWith config.range config.units
    match radiusField field normalized with
    | .error e => ⟨.error e, query, s⟩
    | .ok radius =>
      let (d, s) := config.build g field normalized radius query s
      ⟨.ok d.summary, d.query, s⟩

end SearchConfig

end Proximity
