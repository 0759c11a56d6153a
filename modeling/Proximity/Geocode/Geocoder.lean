import Proximity.Geocode.Match
import Proximity.Geocode.Query

/-!
# Geocoders

A geocoder answers a query with a match, with no match or with an error, and may change its state
in doing so. A gazetteer is the plainest one: it knows the results of some texts beforehand, and
its state is the list of the queries it was asked.
-/

namespace Proximity

/-- What a geocoder answers. -/
abbrev GeocodeAnswer := Except Error (Option GeocodedAddress)

/-- A geocoder with a state. -/
structure Geocoder (σ : Type) where
  lookup : GeocodeQuery → σ → GeocodeAnswer × σ

/-- Results known beforehand, by the text they answer. -/
structure Gazetteer where
  /-- The results by folded text. -/
  results : Keyed Json := []
  /-- The message that every lookup fails with, if it is set. -/
  failure : Option String := none

namespace Gazetteer

/-- The gazetteer with the result for one more text. -/
def withResult (g : Gazetteer) (text : String) (raw : Json) : Gazetteer :=
  { g with results := Keyed.set (Text.fold text) raw g.results }

/-- The gazetteer in which every lookup fails. -/
def withFailure (g : Gazetteer) (message : String) : Gazetteer :=
  { g with failure := some message }

/-- The answer to a query. -/
def answer (g : Gazetteer) (q : GeocodeQuery) : GeocodeAnswer :=
  match g.failure with
  | some message => .error (.lookupFailed message)
  | none =>
    match Keyed.get? (Text.fold q.address) g.results with
    | some raw => (GeocodedAddress.ofResult raw).map some
    | none => .ok none

/-- The gazetteer as a geocoder, which notes every query behind those before it. -/
def geocoder (g : Gazetteer) : Geocoder (List GeocodeQuery) where
  lookup q calls := (g.answer q, calls ++ [q])

end Gazetteer

end Proximity
