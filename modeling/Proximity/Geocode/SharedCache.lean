import Proximity.Geocode.Cache

/-!
# Lookups that share a cache

Several lookups can be on their way through one cache at a time. The cache is locked while a key is
looked for and while an answer is put into it, but not while the geocoder is asked. So a lookup
takes up to three steps, and between two of them the others may take theirs, lookups may be started
and the cache may be cleared. A lookup that is not interrupted does what a lookup through the cached
geocoder does (`SharedCache.run_alone`).
-/

namespace Proximity

/-- How far a lookup has come. -/
inductive LookupStage where
  | started
  /-- The key was found, and with it the answer. -/
  | found (a : Option GeocodedAddress)
  /-- The key was not there. -/
  | missed
  /-- The geocoder has answered; the answer is still to be kept. -/
  | asked (answer : GeocodeAnswer)
  /-- The answer was kept, unless it is an error. -/
  | answered (answer : GeocodeAnswer)

namespace LookupStage

/-- What a finished lookup came to. -/
def result? : LookupStage → Option GeocodeAnswer
  | found a => some (.ok a)
  | answered answer => some answer
  | _ => none

/-- Whether the key was looked for. -/
def isProbed : LookupStage → Bool
  | started => false
  | _ => true

def isFound : LookupStage → Bool
  | found _ => true
  | _ => false

/-- Whether the next step is to call the geocoder. -/
def isCalling : LookupStage → Bool
  | missed => true
  | _ => false

variable {σ : Type} (g : Geocoder σ)

/-- The next step of a lookup, with the cache and the geocoder after it. -/
def next (q : GeocodeQuery) : LookupStage → Cache × σ → LookupStage × Cache × σ
  | started, s =>
    match s.1.probe q.cacheKey with
    | (some a, cache) => (found a, cache, s.2)
    | (none, cache) => (missed, cache, s.2)
  | missed, s =>
    let (answer, state) := g.lookup q s.2
    (asked answer, s.1, state)
  | asked (.ok a), s => (answered (.ok a), s.1.store q.cacheKey a, s.2)
  | asked (.error e), s => (answered (.error e), s)
  | found a, s => (found a, s)
  | answered answer, s => (answered answer, s)

end LookupStage

/-- A cache in front of a geocoder, and the lookups through it. -/
structure SharedCache (σ : Type) where
  cache : Cache
  state : σ
  /-- The lookups in the order in which they were started. -/
  lookups : List (GeocodeQuery × LookupStage) := []
  /-- The numbers of the lookups that called the geocoder, one for each call, the latest in
  front. -/
  callers : List Nat := []

/-- What happens next at a shared cache. -/
inductive SharedStep where
  | start (q : GeocodeQuery)
  /-- The lookup with a number takes its next step, if it has one. -/
  | advance (i : Nat)
  | clear

namespace SharedCache

variable {σ : Type} (g : Geocoder σ)

/-- A cache through which nothing was looked up. -/
def empty (capacity : Nat) (state : σ) : SharedCache σ where
  cache := .empty capacity
  state := state

/-- The shared cache after the next step of a lookup. Only a lookup whose key was not there calls
the geocoder. -/
def advance (i : Nat) (s : SharedCache σ) : SharedCache σ :=
  match s.lookups[i]? with
  | none => s
  | some (q, stage) =>
    let (stage', cache, state) := stage.next g q (s.cache, s.state)
    { cache := cache
      state := state
      lookups := s.lookups.set i (q, stage')
      callers := if stage.isCalling then i :: s.callers else s.callers }

/-- The shared cache after a step. -/
def step (s : SharedCache σ) : SharedStep → SharedCache σ
  | .start q => { s with lookups := s.lookups ++ [(q, .started)] }
  | .advance i => s.advance g i
  | .clear => { s with cache := s.cache.clear }

/-- The shared cache after steps in any order. -/
def run (steps : List SharedStep) (s : SharedCache σ) : SharedCache σ :=
  steps.foldl (step g) s

end SharedCache

end Proximity
