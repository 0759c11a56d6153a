import Proximity.Geocode.Cache

/-!
# Sessions

A cached geocoder in use: queries are looked up through it one after the other, and between two of
them it may be cleared. Clearing gives no answer and does not reach the geocoder behind the cache.
-/

namespace Proximity

/-- A use of a cached geocoder. -/
inductive CacheStep where
  | lookup (q : GeocodeQuery)
  | clear

namespace CacheStep

/-- The query that a step looks up. -/
def query? : CacheStep → Option GeocodeQuery
  | lookup q => some q
  | clear => none

variable {σ : Type} (inner : Geocoder σ)

/-- One step: the answer, if the step asks for one, and the cache and the geocoder after it. -/
def run (step : CacheStep) (s : Cache × σ) : Option GeocodeAnswer × Cache × σ :=
  match step with
  | lookup q =>
    let (answer, s) := inner.cached.lookup q s
    (some answer, s)
  | clear => (none, s.1.clear, s.2)

/-- One step after the other. -/
def runAll : List CacheStep → Cache × σ → List (Option GeocodeAnswer) × Cache × σ
  | [], s => ([], s)
  | step :: steps, s =>
    let (answer, s) := step.run inner s
    let (answers, s) := runAll steps s
    (answer :: answers, s)

theorem runAll_lookup (q : GeocodeQuery) (steps : List CacheStep) (s : Cache × σ) :
    runAll inner (.lookup q :: steps) s =
      (some (inner.cached.lookup q s).1 :: (runAll inner steps (inner.cached.lookup q s).2).1,
        (runAll inner steps (inner.cached.lookup q s).2).2) := rfl

theorem runAll_clear (steps : List CacheStep) (s : Cache × σ) :
    runAll inner (.clear :: steps) s =
      (none :: (runAll inner steps (s.1.clear, s.2)).1,
        (runAll inner steps (s.1.clear, s.2)).2) := rfl

end CacheStep

end Proximity
