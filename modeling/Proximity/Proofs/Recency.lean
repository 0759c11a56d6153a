import Mathlib.Data.List.Nodup
import Proximity.Geocode.Recency

/-!
# The cache keeps what was used last

A lookup puts its key in front of the others, be it found or not, and takes it out further back;
what is beyond the capacity is lost. Since the key was cut off there only if as many others had been
used since, it makes no difference whether the keys are cut off at every step or once at the end
(`take_promote`), and at the end the keys are those of all lookups, without their repetitions.
-/

namespace Proximity

theorem eraseDups_filter (p : String → Bool) : ∀ ks : List String,
    (ks.filter p).eraseDups = ks.eraseDups.filter p
  | [] => rfl
  | k :: ks => by
    have ih := eraseDups_filter p (ks.filter fun x => !x == k)
    rw [List.eraseDups_cons]
    by_cases hk : p k = true
    · have hc : (ks.filter p).filter (fun x => !x == k) =
          (ks.filter fun x => !x == k).filter p := by
        rw [List.filter_filter, List.filter_filter]
        simp only [Bool.and_comm]
      rw [List.filter_cons_of_pos hk, List.filter_cons_of_pos hk, List.eraseDups_cons, hc, ih]
    · have hc : (ks.filter fun x => !x == k).filter p = ks.filter p := by
        rw [List.filter_filter]
        refine List.filter_congr fun x _ => ?_
        by_cases hx : x = k <;> simp_all
      rw [List.filter_cons_of_neg hk, List.filter_cons_of_neg hk, ← ih, hc]
termination_by ks => ks.length
decreasing_by exact Nat.lt_succ_of_le (List.length_filter_le _ _)

theorem eraseDups_cons_filter (k : String) (ks : List String) :
    (k :: ks).eraseDups = k :: ks.eraseDups.filter (· != k) := by
  rw [List.eraseDups_cons, ← eraseDups_filter]
  rfl

theorem nodup_eraseDups : ∀ ks : List String, ks.eraseDups.Nodup
  | [] => List.nodup_nil
  | k :: ks => by
    rw [eraseDups_cons_filter, List.nodup_cons]
    exact ⟨by simp, (nodup_eraseDups ks).filter _⟩

/-- A key that is taken out leaves room for one more. -/
theorem take_filter_take {ks : List String} (h : ks.Nodup) (k : String) (n : Nat) :
    ((ks.take (n + 1)).filter (· != k)).take n = (ks.filter (· != k)).take n := by
  induction ks generalizing n with
  | nil => simp
  | cons x ks ih =>
    obtain ⟨hx, hks⟩ := List.nodup_cons.mp h
    rw [List.take_succ_cons]
    by_cases hk : x = k
    · have hn (l : List String) (hl : l ⊆ ks) : l.filter (· != k) = l := by
        refine List.filter_eq_self.mpr fun y hy => ?_
        simp only [bne_iff_ne]
        rintro rfl
        exact hx (hk ▸ hl hy)
      have hneg (l : List String) : (x :: l).filter (· != k) = l.filter (· != k) :=
        List.filter_cons_of_neg (by simp [hk])
      rw [hneg, hneg, hn _ (List.take_subset n ks), hn ks (fun _ h => h), List.take_take,
        Nat.min_self]
    · have hpos (l : List String) : (x :: l).filter (· != k) = x :: l.filter (· != k) :=
        List.filter_cons_of_pos (by simpa using hk)
      rw [hpos, hpos]
      rcases n with _ | n
      · rfl
      · rw [List.take_succ_cons, List.take_succ_cons, ih hks]

/-- Of a list that is cut off at the end, a key can be brought to the front before or after. -/
theorem take_promote {ks : List String} (h : ks.Nodup) (k : String) (n : Nat) :
    (k :: (ks.take n).filter (· != k)).take n = (k :: ks.filter (· != k)).take n := by
  rcases n with _ | n
  · rfl
  · rw [List.take_succ_cons, List.take_succ_cons, take_filter_take h]

theorem lastAnswer?_ok (q : GeocodeQuery) (a : Option GeocodedAddress)
    (calls : List GeocodeCall) : lastAnswer? q.cacheKey (⟨q, .ok a⟩ :: calls) = some a := by
  simp [lastAnswer?]

theorem lastAnswer?_of_ne {key : String} {q : GeocodeQuery} (h : key ≠ q.cacheKey)
    (answer : GeocodeAnswer) (calls : List GeocodeCall) :
    lastAnswer? key (⟨q, answer⟩ :: calls) = lastAnswer? key calls := by
  cases answer <;> simp [lastAnswer?, h.symm]

namespace Geocoder

variable {σ : Type} (g : Geocoder σ) (q : GeocodeQuery) (c : Cache) (calls : List GeocodeCall)
  (s : σ)

theorem noted_lookup {g : Geocoder σ} {q : GeocodeQuery} {s t : σ} {answer : GeocodeAnswer}
    (h : g.lookup q s = (answer, t)) (calls : List GeocodeCall) :
    g.noted.lookup q (calls, s) = (answer, ⟨q, answer⟩ :: calls, t) := by
  simp only [noted, h]

/-- The notes change nothing. -/
theorem cached_noted :
    let out := g.noted.cached.lookup q (c, calls, s)
    g.cached.lookup q (c, s) = (out.1, out.2.1, out.2.2.2) := by
  intro out
  rcases hc : Keyed.get? q.cacheKey c.entries with _ | a
  · rcases hl : g.lookup q s with ⟨e | a, t⟩
    · rw [cached_failure hc hl, show out = _ from cached_failure hc (noted_lookup hl calls)]
    · rw [cached_miss hc hl, show out = _ from cached_miss hc (noted_lookup hl calls)]
  · rw [cached_hit hc, show out = _ from cached_hit hc _]

end Geocoder

/-- What a cache is that `keys` were looked up in without an error since it was last cleared, the
latest in front, after `lookups` lookups in all and the calls noted. -/
structure Cache.Recalls (c : Cache) (keys : List String) (lookups : Nat)
    (calls : List GeocodeCall) : Prop where
  keys : c.entries.keys = keys.eraseDups.take c.capacity
  answers : ∀ e ∈ c.entries, lastAnswer? e.1 calls = some e.2
  lookups : c.hits + c.misses = lookups
  misses : c.misses = calls.length

namespace Cache

variable {σ : Type} {c : Cache} {keys : List String} {lookups : Nat} {calls : List GeocodeCall}

theorem recalls_empty (n : Nat) : (empty n).Recalls [] 0 [] where
  keys := by simp [empty]
  answers _ he := absurd he List.not_mem_nil
  lookups := rfl
  misses := rfl

theorem Recalls.clear (h : c.Recalls keys lookups calls) : c.clear.Recalls [] lookups calls where
  keys := by simp [Cache.clear]
  answers _ he := absurd he List.not_mem_nil
  lookups := h.lookups
  misses := h.misses

/-- The keys with one of them in front, found or not. -/
theorem Recalls.promote (h : c.Recalls keys lookups calls) (key : String) :
    (key :: c.entries.keys.filter (· != key)).take c.capacity =
      (key :: keys).eraseDups.take c.capacity := by
  rw [h.keys, take_promote (nodup_eraseDups keys), eraseDups_cons_filter]

theorem Recalls.hit (h : c.Recalls keys lookups calls) {key : String}
    {a : Option GeocodedAddress} (ha : Keyed.get? key c.entries = some a) :
    { c with entries := (key, a) :: without key c.entries, hits := c.hits + 1 }.Recalls
      (key :: keys) (lookups + 1) calls where
  keys := by
    -- the key was there, so taking it out and putting it in front needs no more room
    have hlen : (key :: (without key c.entries).keys).length ≤ c.capacity := by
      have hw : (without key c.entries).keys.length < c.entries.keys.length := by
        simpa [Keyed.keys] using length_without_lt ha
      have ht : c.entries.keys.length ≤ c.capacity := by
        rw [h.keys, List.length_take]
        exact Nat.min_le_left _ _
      simp only [List.length_cons]
      omega
    rw [← h.promote key, ← keys_without, List.take_of_length_le hlen, Keyed.keys_cons]
  answers := forall_in_front h.answers (h.answers _ (Keyed.mem_of_get? ha))
  lookups := by
    have := h.lookups
    simp only
    omega
  misses := h.misses

theorem Recalls.miss (h : c.Recalls keys lookups calls) (q : GeocodeQuery)
    (a : Option GeocodedAddress) :
    ({ c with misses := c.misses + 1 }.store q.cacheKey a).Recalls (q.cacheKey :: keys)
      (lookups + 1) (⟨q, .ok a⟩ :: calls) where
  keys := by
    rw [keys_store]
    exact h.promote q.cacheKey
  answers e he := by
    rcases mem_store he with rfl | ⟨he, hk⟩
    · exact lastAnswer?_ok q a calls
    · rw [lastAnswer?_of_ne hk]
      exact h.answers e he
  lookups := by
    have := h.lookups
    simp only [store]
    omega
  misses := congrArg (· + 1) h.misses

theorem Recalls.failure (h : c.Recalls keys lookups calls) (q : GeocodeQuery) (e : Error) :
    { c with misses := c.misses + 1 }.Recalls keys (lookups + 1) (⟨q, .error e⟩ :: calls) where
  keys := h.keys
  answers := h.answers
  lookups := by
    have := h.lookups
    simp only
    omega
  misses := congrArg (· + 1) h.misses

theorem Recalls.get?_eq_some_iff (h : c.Recalls keys lookups calls) {key : String} :
    (∃ a, Keyed.get? key c.entries = some a) ↔ key ∈ keys.eraseDups.take c.capacity := by
  rw [← h.keys, ← Option.isSome_iff_exists, ← not_iff_not, ← Keyed.get?_eq_none_iff,
    Option.not_isSome_iff_eq_none]

variable (g : Geocoder σ) (q : GeocodeQuery) (s : σ)

/-- A lookup of a key that is kept. -/
theorem Recalls.found (h : c.Recalls keys lookups calls)
    (hm : q.cacheKey ∈ keys.eraseDups.take c.capacity) :
    let out := g.noted.cached.lookup q (c, calls, s)
    (∃ a, lastAnswer? q.cacheKey calls = some a ∧ out.1 = .ok a) ∧
      out.2.1.hits = c.hits + 1 ∧ out.2.1.misses = c.misses ∧ out.2.2 = (calls, s) := by
  intro out
  obtain ⟨a, ha⟩ := h.get?_eq_some_iff.mpr hm
  rw [show out = _ from Geocoder.cached_hit ha _]
  exact ⟨⟨a, h.answers _ (Keyed.mem_of_get? ha), rfl⟩, rfl, rfl, rfl⟩

/-- A lookup of a key that is not kept. -/
theorem Recalls.asked (h : c.Recalls keys lookups calls)
    (hm : q.cacheKey ∉ keys.eraseDups.take c.capacity) :
    let out := g.noted.cached.lookup q (c, calls, s)
    out.1 = (g.lookup q s).1 ∧ out.2.1.hits = c.hits ∧ out.2.1.misses = c.misses + 1 ∧
      out.2.2 = (⟨q, out.1⟩ :: calls, (g.lookup q s).2) := by
  intro out
  have hc : Keyed.get? q.cacheKey c.entries = none := by
    by_contra hne
    exact hm (h.get?_eq_some_iff.mp (Option.ne_none_iff_exists'.mp hne))
  rcases hl : g.lookup q s with ⟨e | a, t⟩
  · rw [show out = _ from Geocoder.cached_failure hc (Geocoder.noted_lookup hl calls)]
    exact ⟨rfl, rfl, rfl, rfl⟩
  · rw [show out = _ from Geocoder.cached_miss hc (Geocoder.noted_lookup hl calls)]
    exact ⟨rfl, rfl, rfl, rfl⟩

/-- A lookup leaves the cache recalling one lookup more, and its key where there was no error. -/
theorem Recalls.lookup (h : c.Recalls keys lookups calls) :
    let out := g.noted.cached.lookup q (c, calls, s)
    out.2.1.Recalls (CacheStep.note keys (.lookup q, some out.1)) (lookups + 1) out.2.2.1 ∧
      out.2.1.capacity = c.capacity ∧ ∀ e, out.1 = .error e → out.2.1.entries = c.entries := by
  intro out
  rcases hc : Keyed.get? q.cacheKey c.entries with _ | a
  · rcases hl : g.lookup q s with ⟨e | a, t⟩
    · rw [show out = _ from Geocoder.cached_failure hc (Geocoder.noted_lookup hl calls)]
      exact ⟨h.failure q e, rfl, fun _ _ => rfl⟩
    · rw [show out = _ from Geocoder.cached_miss hc (Geocoder.noted_lookup hl calls)]
      exact ⟨h.miss q a, rfl, fun _ he => nomatch he⟩
  · rw [show out = _ from Geocoder.cached_hit hc _]
    exact ⟨h.hit hc, rfl, fun _ he => nomatch he⟩

end Cache

namespace CacheStep

variable {σ : Type} (g : Geocoder σ)

theorem runAll_noted : ∀ (steps : List CacheStep) (c : Cache) (calls : List GeocodeCall) (s : σ),
    let out := runAll g.noted steps (c, calls, s)
    runAll g steps (c, s) = (out.1, out.2.1, out.2.2.2)
  | [], _, _, _ => rfl
  | .lookup q :: steps, c, calls, s => by
    have hq := g.cached_noted q c calls s
    have ih := runAll_noted steps (g.noted.cached.lookup q (c, calls, s)).2.1
      (g.noted.cached.lookup q (c, calls, s)).2.2.1 (g.noted.cached.lookup q (c, calls, s)).2.2.2
    simp only [runAll_lookup]
    rw [hq, ih]
  | .clear :: steps, c, calls, s => by
    have ih := runAll_noted steps c.clear calls s
    simp only [runAll_clear]
    rw [ih]

/-- What holds of a cache after a session, from what held before. -/
theorem runAll_recalls : ∀ (steps : List CacheStep) {c : Cache} {keys : List String}
    {lookups : Nat} {calls : List GeocodeCall} (s : σ), c.Recalls keys lookups calls →
    let out := runAll g.noted steps (c, calls, s)
    out.2.1.Recalls ((steps.zip out.1).foldl note keys)
        (lookups + (steps.filterMap query?).length) out.2.2.1 ∧
      out.2.1.capacity = c.capacity
  | [], _, _, _, _, _, h => ⟨h, rfl⟩
  | .lookup q :: steps, c, keys, lookups, calls, s, h => by
    obtain ⟨hq, hc, -⟩ := h.lookup g q s
    obtain ⟨ih, ihc⟩ := runAll_recalls steps (g.noted.cached.lookup q (c, calls, s)).2.2.2 hq
    refine ⟨?_, ihc.trans hc⟩
    rw [Nat.add_assoc, Nat.add_comm 1] at ih
    exact ih
  | .clear :: steps, c, keys, lookups, calls, s, h => by
    obtain ⟨ih, ihc⟩ := runAll_recalls steps s h.clear
    exact ⟨ih, ihc⟩

/-- After any session on an empty cache, whatever the geocoder behind it answers and with its calls
noted on the side: the keys kept are those used last, in the order of their last use, each with the
last answer to it that was no error; every lookup counted as a hit or a miss, the misses being the
calls. A further lookup is answered from what is kept if its key is there and by the geocoder
otherwise, and leaves what is kept as it is if it fails. -/
theorem session_keeps_recent (n : Nat) (steps : List CacheStep) (s : σ) :
    let out := runAll g.noted steps (.empty n, [], s)
    let cache := out.2.1
    let calls := out.2.2.1
    let recent := recentKeys (max 1 n) steps out.1
    runAll g steps (.empty n, s) = (out.1, cache, out.2.2.2) ∧
    cache.entries.keys = recent ∧
    (∀ e ∈ cache.entries, lastAnswer? e.1 calls = some e.2) ∧
    cache.hits + cache.misses = (steps.filterMap query?).length ∧
    cache.misses = calls.length ∧
    ∀ q : GeocodeQuery,
      let next := g.noted.cached.lookup q out.2
      (q.cacheKey ∈ recent →
        (∃ a, lastAnswer? q.cacheKey calls = some a ∧ next.1 = .ok a) ∧
          next.2.1.hits = cache.hits + 1 ∧ next.2.1.misses = cache.misses ∧
          next.2.2 = out.2.2) ∧
      (q.cacheKey ∉ recent →
        next.1 = (g.lookup q out.2.2.2).1 ∧
          next.2.1.hits = cache.hits ∧ next.2.1.misses = cache.misses + 1 ∧
          next.2.2 = (⟨q, next.1⟩ :: calls, (g.lookup q out.2.2.2).2)) ∧
      ∀ e, next.1 = .error e → next.2.1.entries = cache.entries := by
  intro out cache calls recent
  obtain ⟨h, hc⟩ := runAll_recalls g steps s (Cache.recalls_empty n)
  have hcap : cache.capacity = max 1 n := hc
  rw [Nat.zero_add] at h
  have hr : recent = ((steps.zip out.1).foldl note []).eraseDups.take cache.capacity := by
    rw [hcap]
    rfl
  refine ⟨runAll_noted g steps (.empty n) [] s, ?_, h.answers, h.lookups, h.misses, ?_⟩
  · rw [hr]
    exact h.keys
  · intro q next
    refine ⟨fun hm => ?_, fun hm => ?_, (h.lookup g q out.2.2.2).2.2⟩
    · exact h.found g q out.2.2.2 (hr ▸ hm)
    · exact h.asked g q out.2.2.2 (hr ▸ hm)

/-- A cache with room for two answers. A blank text is answered with an error, which is not kept;
the lookup before it finds its key, and so it is the other one that makes room in the end. -/
theorem session_keeps_recent_of_two :
    let g : Geocoder Nat :=
      ⟨fun q n => (if q.address = "" then .error (.lookupFailed "no quota") else .ok none, n + 1)⟩
    let steps : List CacheStep := [.lookup (.text "Oslo"), .clear, .lookup (.text "Chicago"),
      .lookup (.text "Evanston"), .lookup (.text " chicago"), .lookup (.text ""),
      .lookup (.text "Springfield")]
    let out := runAll g.noted steps (.empty 2, [], 0)
    out.2.1.entries.keys =
        [(GeocodeQuery.text "Springfield").cacheKey, (GeocodeQuery.text "Chicago").cacheKey] ∧
      out.2.1.hits = 1 ∧ out.2.1.misses = 5 ∧
      (g.noted.cached.lookup (.text "Chicago") out.2).2.2 = out.2.2 ∧
      (g.noted.cached.lookup (.text "Evanston") out.2).2.1.misses = 6 := by
  intro g steps
  have h := session_keeps_recent g 2 steps 0
  have hout : recentKeys (max 1 2) steps (runAll g.noted steps (.empty 2, [], 0)).1 =
        [(GeocodeQuery.text "Springfield").cacheKey, (GeocodeQuery.text "Chicago").cacheKey] ∧
      (runAll g.noted steps (.empty 2, [], 0)).2.2.1.length = 5 ∧
      (GeocodeQuery.text "Evanston").cacheKey ∉
        [(GeocodeQuery.text "Springfield").cacheKey, (GeocodeQuery.text "Chicago").cacheKey] := by
    decide +kernel
  -- the session is not to be gone through again
  generalize runAll g.noted steps (.empty 2, [], 0) = out at h hout ⊢
  obtain ⟨-, hkeys, -, htotal, hmisses, hnext⟩ := h
  obtain ⟨hr, hc, hs⟩ := hout
  have hm : out.2.1.misses = 5 := hmisses.trans hc
  have ht : out.2.1.hits + out.2.1.misses = 6 := htotal
  rw [hr] at hkeys hnext
  refine ⟨hkeys, by omega, hm, ?_, ?_⟩
  · exact ((hnext (.text "Chicago")).1 (by simp)).2.2.2
  · rw [((hnext (.text "Evanston")).2.1 hs).2.2.1, hm]

end CacheStep

end Proximity
