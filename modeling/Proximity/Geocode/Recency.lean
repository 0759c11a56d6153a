import Proximity.Geocode.Session

/-!
# Recent lookups

Which answers a cache still has can be told without it. The keys of the lookups that were answered
without an error, from the latest back to the last clearing, are gone through until as many
different ones are met as the cache has room for; the answer to each is the last that the geocoder
gave to it. To speak of the geocoder's answers, its calls are noted.
-/

namespace Proximity

/-- A query that reached a geocoder and the answer to it. -/
structure GeocodeCall where
  query : GeocodeQuery
  answer : GeocodeAnswer

/-- The geocoder with its calls noted, the latest in front. -/
def Geocoder.noted {σ : Type} (g : Geocoder σ) : Geocoder (List GeocodeCall × σ) where
  lookup q s :=
    let (answer, state) := g.lookup q s.2
    (answer, ⟨q, answer⟩ :: s.1, state)

/-- The last answer to the queries with a key, errors apart. -/
def lastAnswer? (key : String) : List GeocodeCall → Option (Option GeocodedAddress)
  | [] => none
  | call :: calls =>
    match call.answer with
    | .ok a => if call.query.cacheKey = key then some a else lastAnswer? key calls
    | .error _ => lastAnswer? key calls

namespace CacheStep

/-- The keys answered without an error since the last clearing, the latest in front, after one more
step and its answer. -/
def note (keys : List String) : CacheStep × Option GeocodeAnswer → List String
  | (lookup q, some (.ok _)) => q.cacheKey :: keys
  | (lookup _, _) => keys
  | (clear, _) => []

/-- The first `room` different keys answered in a session, from the latest back to the last
clearing. -/
def recentKeys (room : Nat) (steps : List CacheStep) (answers : List (Option GeocodeAnswer)) :
    List String :=
  ((steps.zip answers).foldl note []).eraseDups.take room

end CacheStep

end Proximity
