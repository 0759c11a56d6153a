import Proximity.Geocode.Geocoder
import Proximity.Options.Target

/-!
# Resolving a target

Coordinates stand for themselves. A text that is not blank and the fields of an address are
looked up, once; whatever else happens, a target without a match is only unresolved. A lookup
that fails counts as one without a match.
-/

namespace Proximity

/-- What is known of a target. -/
structure Resolution where
  /-- Where the target is. -/
  coords : Option Coordinates := none
  /-- The match of the lookup. -/
  address : Option GeocodedAddress := none

namespace Target

/-- The query that a target is looked up with, if it is looked up. -/
def query? : Target → Option GeocodeQuery
  | literal _ => none
  | text t => if Text.trim t = "" then none else some (.text t)
  | structured fields => some (.structured fields)
  | unsupported _ => none

/-- What a target is without a lookup. -/
def literal? : Target → Option Coordinates
  | literal coords => some coords
  | _ => none

/-- The text by which a target is compared with the parts of its match: its own, or the address
among its fields. -/
def phrase : Target → String
  | text t => t
  | structured fields => ((Keyed.get? "address" fields).bind Json.string?).getD ""
  | literal _ => ""
  | unsupported _ => ""

end Target

/-- Whether nothing is known of the target. -/
def Resolution.isUnresolved (r : Resolution) : Bool :=
  r.coords.isNone && r.address.isNone

/-- What an answer says about a target. -/
def Resolution.ofAnswer : GeocodeAnswer → Resolution
  | .ok (some address) => { coords := address.coords, address := some address }
  | .ok none => {}
  | .error _ => {}

/-- What is known of a target after at most one lookup. -/
def Geocoder.resolve {σ : Type} (g : Geocoder σ) (t : Target) (s : σ) : Resolution × σ :=
  match t.query? with
  | some q =>
    let (answer, s) := g.lookup q s
    (.ofAnswer answer, s)
  | none => ({ coords := t.literal? }, s)

end Proximity
