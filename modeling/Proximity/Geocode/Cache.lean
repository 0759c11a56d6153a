import Proximity.Geocode.Geocoder

/-!
# Kept answers

A cache keeps the answers to the queries asked last, matches and failures to match alike, up to
its capacity (`size_store_le`); the answer that was not used for longest goes first. Errors are
not kept. A lookup through the cache runs in steps: the key is looked for, and only if it is
missing the geocoder is asked and, unless it fails, its answer kept. The counts of hits and misses
go on when the cache is cleared.

Both counts are natural numbers and never wrap. A counter of 64 bits holds them modulo `2 ^ 64`, so
it says the same until one cache has seen `2 ^ 64` lookups.
-/

namespace Proximity

/-- Answers kept under the keys of their queries. -/
structure Cache where
  /-- The greatest number of answers kept. -/
  capacity : Nat
  /-- The answers, the one used last in front. -/
  entries : Keyed (Option GeocodedAddress) := []
  /-- The number of lookups that found their key, without a bound; a counter of 64 bits holds it
  modulo `2 ^ 64`. -/
  hits : Nat := 0
  /-- The number of lookups that did not, likewise without a bound. -/
  misses : Nat := 0

namespace Cache

/-- The capacity where none is given. -/
def standardCapacity : Nat := 1024

/-- An empty cache with room for one answer at least. -/
def empty (capacity : Nat) : Cache where
  capacity := max 1 capacity

/-- The answers that are kept under other keys. -/
def without (key : String) (entries : Keyed (Option GeocodedAddress)) :
    Keyed (Option GeocodedAddress) :=
  entries.filter fun e => e.1 != key

/-- The answer kept under a key, which thereby becomes the one used last. -/
def probe (key : String) (c : Cache) : Option (Option GeocodedAddress) × Cache :=
  match Keyed.get? key c.entries with
  | some a => (some a, { c with entries := (key, a) :: without key c.entries, hits := c.hits + 1 })
  | none => (none, { c with misses := c.misses + 1 })

/-- The cache with an answer kept as the one used last. -/
def store (key : String) (a : Option GeocodedAddress) (c : Cache) : Cache :=
  { c with entries := ((key, a) :: without key c.entries).take c.capacity }

/-- The cache without its answers. -/
def clear (c : Cache) : Cache :=
  { c with entries := [] }

/-- The number of answers kept. -/
def size (c : Cache) : Nat :=
  c.entries.length

theorem mem_without {key : String} {entries : Keyed (Option GeocodedAddress)}
    {e : String × Option GeocodedAddress} :
    e ∈ without key entries ↔ e ∈ entries ∧ e.1 ≠ key := by
  simp [without]

theorem keys_without (key : String) (entries : Keyed (Option GeocodedAddress)) :
    (without key entries).keys = entries.keys.filter (· != key) := by
  simp [without, Keyed.keys, List.filter_map, Function.comp_def]

/-- What holds of every answer that is kept and of one more holds with that one in front. -/
theorem forall_in_front {P : String × Option GeocodedAddress → Prop}
    {entries : Keyed (Option GeocodedAddress)} (h : ∀ e ∈ entries, P e) {key : String}
    {a : Option GeocodedAddress} (ha : P (key, a)) : ∀ e ∈ (key, a) :: without key entries, P e :=
  List.forall_mem_cons.mpr ⟨ha, fun e he => h e (mem_without.mp he).1⟩

theorem length_without_lt {entries : Keyed (Option GeocodedAddress)} {key : String}
    {a : Option GeocodedAddress} (h : Keyed.get? key entries = some a) :
    (without key entries).length < entries.length :=
  List.length_filter_lt_length_iff_exists.mpr ⟨_, Keyed.mem_of_get? h, by simp⟩

theorem probe_of_get? {key : String} {c : Cache} {a : Option GeocodedAddress}
    (h : Keyed.get? key c.entries = some a) :
    c.probe key =
      (some a, { c with entries := (key, a) :: without key c.entries, hits := c.hits + 1 }) := by
  rw [probe, h]

theorem probe_of_get?_eq_none {key : String} {c : Cache} (h : Keyed.get? key c.entries = none) :
    c.probe key = (none, { c with misses := c.misses + 1 }) := by
  rw [probe, h]

theorem mem_store {key : String} {a : Option GeocodedAddress} {c : Cache}
    {e : String × Option GeocodedAddress} (h : e ∈ (c.store key a).entries) :
    e = (key, a) ∨ e ∈ c.entries ∧ e.1 ≠ key :=
  (List.mem_cons.mp (List.mem_of_mem_take h)).imp_right mem_without.mp

theorem keys_store (key : String) (a : Option GeocodedAddress) (c : Cache) :
    (c.store key a).entries.keys =
      (key :: c.entries.keys.filter (· != key)).take c.capacity := by
  rw [← keys_without]
  exact List.map_take

theorem size_store_le (key : String) (a : Option GeocodedAddress) (c : Cache) :
    (c.store key a).size ≤ c.capacity := by
  simp only [size, store, List.length_take]
  exact Nat.min_le_left _ _

end Cache

/-- A geocoder behind a cache. -/
def Geocoder.cached {σ : Type} (inner : Geocoder σ) : Geocoder (Cache × σ) where
  lookup q s :=
    let key := q.cacheKey
    match s.1.probe key with
    | (some a, cache) => (.ok a, cache, s.2)
    | (none, cache) =>
      match inner.lookup q s.2 with
      | (.ok a, state) => (.ok a, cache.store key a, state)
      | (.error e, state) => (.error e, cache, state)

namespace Geocoder

variable {σ : Type} {g : Geocoder σ} {q : GeocodeQuery} {c : Cache} {s t : σ}

theorem cached_hit {a : Option GeocodedAddress} (h : Keyed.get? q.cacheKey c.entries = some a)
    (s : σ) :
    g.cached.lookup q (c, s) =
      (.ok a, { c with
        entries := (q.cacheKey, a) :: Cache.without q.cacheKey c.entries
        hits := c.hits + 1 }, s) := by
  simp only [cached, Cache.probe_of_get? h]

theorem cached_miss {a : Option GeocodedAddress} (h : Keyed.get? q.cacheKey c.entries = none)
    (ha : g.lookup q s = (.ok a, t)) :
    g.cached.lookup q (c, s) =
      (.ok a, { c with misses := c.misses + 1 }.store q.cacheKey a, t) := by
  simp only [cached, Cache.probe_of_get?_eq_none h, ha]

theorem cached_failure {e : Error} (h : Keyed.get? q.cacheKey c.entries = none)
    (he : g.lookup q s = (.error e, t)) :
    g.cached.lookup q (c, s) = (.error e, { c with misses := c.misses + 1 }, t) := by
  simp only [cached, Cache.probe_of_get?_eq_none h, he]

end Geocoder

end Proximity
