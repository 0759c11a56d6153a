/-!
# Names in log records

The names under which the properties of an event are logged, the same throughout.
-/

namespace Proximity

/-- A property of a logged event. -/
inductive LogField where
  | subsystem
  | component
  | operation
  | fieldHandle
  | fieldId
  | targetKind
  | dialect
  | range
  | units
  | geocodeType
  | subfieldCount
  | placement
  | durationMs
  | success
  | errorMessage
  | cacheHit
deriving DecidableEq, Repr

namespace LogField

/-- The name that a property is logged under. -/
def name : LogField → String
  | subsystem => "subsystem"
  | component => "component"
  | operation => "op"
  | fieldHandle => "field_handle"
  | fieldId => "field_id"
  | targetKind => "target_kind"
  | dialect => "dialect"
  | range => "range"
  | units => "units"
  | geocodeType => "geocode_type"
  | subfieldCount => "subfield_count"
  | placement => "placement"
  | durationMs => "duration_ms"
  | success => "success"
  | errorMessage => "error"
  | cacheHit => "cache_hit"

/-- All properties. -/
def all : List LogField :=
  [subsystem, component, operation, fieldHandle, fieldId, targetKind, dialect, range, units,
    geocodeType, subfieldCount, placement, durationMs, success, errorMessage, cacheHit]

end LogField

end Proximity
