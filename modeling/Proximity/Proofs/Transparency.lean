import Proximity.Geocode.Session
import Proximity.Proofs.CanonicalText
import Proximity.Proofs.SearchPlan
import Proximity.Search.Series

/-!
# A cache in front of a gazetteer

A cached gazetteer answers as the gazetteer does. Every answer that is kept was the gazetteer's
answer to a query with that key (`Keeps`), which lookups and clearing preserve; and if no two of
the queries have one key by accident, a query whose key is found has the canonical text of the
query that was answered, so that the gazetteer answers both alike. As all that a search makes of
its geocoder is one answer (`compile_cases`), searches cannot tell the two apart either.
-/

namespace Proximity

open Sql

/-- Those of the queries whose texts have one digest have one canonical text. -/
def NoCollision (queries : List GeocodeQuery) : Prop :=
  ∀ q ∈ queries, ∀ q' ∈ queries,
    GeocodeQuery.digest q.canonical = GeocodeQuery.digest q'.canonical →
      q.canonical = q'.canonical

theorem NoCollision.of_texts {queries : List GeocodeQuery} (texts : List String)
    (hd : ∀ s ∈ texts, ∀ s' ∈ texts, GeocodeQuery.digest s = GeocodeQuery.digest s' → s = s')
    (hm : ∀ q ∈ queries, q.canonical ∈ texts) : NoCollision queries :=
  fun q hq q' hq' => hd _ (hm q hq) _ (hm q' hq')

theorem NoCollision.of_append {queries more : List GeocodeQuery}
    (h : NoCollision (queries ++ more)) : NoCollision queries :=
  fun q hq q' hq' => h q (List.mem_append_left _ hq) q' (List.mem_append_left _ hq')

namespace Gazetteer

variable {g : Gazetteer} {queries : List GeocodeQuery} {c : Cache}

/-- Every answer in the cache is the gazetteer's to one of the queries, under whose key it
stands. -/
def Keeps (g : Gazetteer) (queries : List GeocodeQuery) (c : Cache) : Prop :=
  ∀ e ∈ c.entries, ∃ q ∈ queries, e.1 = q.cacheKey ∧ g.answer q = .ok e.2

theorem keeps_empty (n : Nat) : g.Keeps [] (.empty n) :=
  fun _ he => absurd he List.not_mem_nil

theorem keeps_clear : g.Keeps queries c.clear :=
  fun _ he => absurd he List.not_mem_nil

theorem Keeps.append (h : g.Keeps queries c) (more : List GeocodeQuery) :
    g.Keeps (queries ++ more) c := by
  intro e he
  obtain ⟨q, hq, hk⟩ := h e he
  exact ⟨q, List.mem_append_left _ hq, hk⟩

/-- The answer to a further query may be put in front of the others. -/
theorem Keeps.in_front (h : g.Keeps queries c) {q : GeocodeQuery}
    {a : Option GeocodedAddress} (ha : g.answer q = .ok a) {c' : Cache}
    (hc : ∀ e ∈ c'.entries, e ∈ (q.cacheKey, a) :: Cache.without q.cacheKey c.entries) :
    g.Keeps (queries ++ [q]) c' := by
  intro e he
  exact Cache.forall_in_front (h.append [q]) ⟨q, by simp, rfl, ha⟩ e (hc e he)

/-- What is found under the key of a query is the answer to that query. -/
theorem Keeps.answer_eq (h : g.Keeps queries c) {q : GeocodeQuery}
    (hn : NoCollision (queries ++ [q])) {a : Option GeocodedAddress}
    (ha : Keyed.get? q.cacheKey c.entries = some a) : g.answer q = .ok a := by
  obtain ⟨q', hq', hkey, hans⟩ := h _ (Keyed.mem_of_get? ha)
  have hd : GeocodeQuery.digest q.canonical = GeocodeQuery.digest q'.canonical :=
    (String.append_right_inj _).mp hkey
  rw [← hans]
  exact g.answer_eq_of_canonical_eq (hn q (by simp) q' (by simp [hq']) hd)

theorem lookup_cached (h : g.Keeps queries c) {q : GeocodeQuery}
    (hn : NoCollision (queries ++ [q])) (calls : List GeocodeQuery) :
    (g.geocoder.cached.lookup q (c, calls)).1 = g.answer q ∧
      g.Keeps (queries ++ [q]) (g.geocoder.cached.lookup q (c, calls)).2.1 := by
  have hl : g.geocoder.lookup q calls = (g.answer q, calls ++ [q]) := rfl
  rcases hg : Keyed.get? q.cacheKey c.entries with _ | a
  · rcases ha : g.answer q with e | a <;> rw [ha] at hl
    · -- an error is passed on and nothing is kept
      rw [Geocoder.cached_failure hg hl]
      exact ⟨rfl, h.append [q]⟩
    · rw [Geocoder.cached_miss hg hl]
      exact ⟨rfl, h.in_front ha fun e he => List.mem_of_mem_take he⟩
  · have ha := h.answer_eq hn hg
    rw [Geocoder.cached_hit hg]
    exact ⟨ha.symm, h.in_front ha fun e he => he⟩

/-- Lookups through the cache and the clearing of it, one after the other. -/
theorem runAll_cached : ∀ (steps : List CacheStep) {queries : List GeocodeQuery} {c : Cache},
    g.Keeps queries c → NoCollision (queries ++ steps.filterMap CacheStep.query?) →
    ∀ calls : List GeocodeQuery,
      (CacheStep.runAll g.geocoder steps (c, calls)).1 =
          steps.map (fun step => step.query?.map g.answer) ∧
        g.Keeps (queries ++ steps.filterMap CacheStep.query?)
          (CacheStep.runAll g.geocoder steps (c, calls)).2.1
  | [], queries, c, h, _, calls => by
    rw [List.filterMap_nil, List.append_nil]
    exact ⟨rfl, h⟩
  | .lookup q :: steps, queries, c, h, hn, calls => by
    have hq : queries ++ (CacheStep.lookup q :: steps).filterMap CacheStep.query? =
        (queries ++ [q]) ++ steps.filterMap CacheStep.query? := by
      simp [CacheStep.query?]
    rw [hq] at hn ⊢
    obtain ⟨ha, hk⟩ := lookup_cached h hn.of_append calls
    obtain ⟨has, hks⟩ := runAll_cached steps hk hn (g.geocoder.cached.lookup q (c, calls)).2.2
    refine ⟨?_, hks⟩
    rw [List.map_cons, ← has]
    exact congrArg (some · :: _) ha
  | .clear :: steps, queries, c, h, hn, calls => by
    -- an empty cache is in order for any queries, so those asked before can stay in the list
    obtain ⟨has, hks⟩ := runAll_cached steps (keeps_clear (c := c)) hn calls
    refine ⟨?_, hks⟩
    rw [List.map_cons, ← has]
    rfl

end Gazetteer

namespace SearchConfig

/-- A target is known without its geocoder, or is looked up once. -/
theorem find_cases (target : Option Target) :
    (∃ found, ∀ (σ : Type) (g : Geocoder σ) (s : σ), find g target s = (found, s)) ∨
    ∃ query, target.bind Target.query? = some query ∧
      ∀ (σ : Type) (g : Geocoder σ) (s : σ), find g target s =
        (some (.ofAnswer (g.lookup query s).1), (g.lookup query s).2) := by
  rcases target with _ | t
  · exact .inl ⟨none, fun σ g s => rfl⟩
  · rcases hq : t.query? with _ | query
    · refine .inl ⟨some { coords := t.literal? }, fun σ g s => ?_⟩
      rw [find, Geocoder.resolve, hq]
    · refine .inr ⟨query, hq, fun σ g s => ?_⟩
      rw [find, Geocoder.resolve, hq]

variable (config : SearchConfig) (field : AddressField) (o : SearchOptions) (q : ElementQuery)

/-- A search asks its geocoder nothing, or looks up its target once; then all that comes of it
follows from the answer. -/
theorem compile_cases :
    (∃ result query', ∀ (σ : Type) (g : Geocoder σ) (s : σ),
      config.compile g field o q s = ⟨result, query', s⟩) ∨
    ∃ query, o.target.bind Target.query? = some query ∧
      ∃ (result : GeocodeAnswer → Except Error CompiledSearch)
        (query' : GeocodeAnswer → ElementQuery), ∀ (σ : Type) (g : Geocoder σ) (s : σ),
        config.compile g field o q s =
          ⟨result (g.lookup query s).1, query' (g.lookup query s).1, (g.lookup query s).2⟩ := by
  rcases he : o.isEmpty with _ | _
  · rcases hr : radiusField field (o.normalizeWith config.range config.units) with e | radius
    · exact .inl ⟨_, _, fun σ g s => compile_of_error config g field he hr q s⟩
    · -- past the radius the geocoder is reached, and only through the target
      let plan := config.plan field (o.normalizeWith config.range config.units) radius
      have hc (σ : Type) (g : Geocoder σ) (s : σ) : config.compile g field o q s =
          ⟨.ok ((plan (find g o.target s).1).summary q.dialect),
            (plan (find g o.target s).1).addTo q, (find g o.target s).2⟩ :=
        compile_of_ok config g field he hr q s
      rcases find_cases o.target with ⟨found, hf⟩ | ⟨query, hq, hf⟩
      · exact .inl ⟨.ok ((plan found).summary q.dialect), (plan found).addTo q,
          fun σ g s => by rw [hc, hf]⟩
      · exact .inr ⟨query, hq, fun a => .ok ((plan (some (.ofAnswer a))).summary q.dialect),
          fun a => (plan (some (.ofAnswer a))).addTo q, fun σ g s => by rw [hc, hf]⟩
  · exact .inl ⟨_, _, fun σ g s => compile_of_isEmpty config g field he q s⟩

end SearchConfig

namespace Gazetteer

variable {g : Gazetteer} {queries : List GeocodeQuery} {c : Cache}

theorem compile_calls (r : SearchRequest) (q : ElementQuery) (queries : List GeocodeQuery) :
    ∃ more, (r.compile g.geocoder q queries).state = queries ++ more := by
  rcases r.config.compile_cases r.field r.options q with ⟨_, _, hc⟩ | ⟨query, -, _, _, hc⟩
  · exact ⟨[], by rw [SearchRequest.compile, hc, List.append_nil]⟩
  · exact ⟨[query], by rw [SearchRequest.compile, hc]; rfl⟩

theorem compileAll_calls : ∀ (rs : List SearchRequest) (qs : Nat → ElementQuery)
    (queries : List GeocodeQuery),
    ∃ more, (compileAll g.geocoder rs qs queries).2 = queries ++ more
  | [], qs, queries => ⟨[], (List.append_nil _).symm⟩
  | r :: rs, qs, queries => by
    obtain ⟨asked, ha⟩ := compile_calls (g := g) r (qs r.slot) queries
    obtain ⟨more, hm⟩ := compileAll_calls rs
      (Function.update qs r.slot (r.compile g.geocoder (qs r.slot) queries).query)
      (r.compile g.geocoder (qs r.slot) queries).state
    refine ⟨asked ++ more, ?_⟩
    rw [← List.append_assoc, ← ha, ← hm]
    rfl

theorem compile_cached (h : g.Keeps queries c) (r : SearchRequest) (q : ElementQuery)
    (hn : NoCollision (r.compile g.geocoder q queries).state) (calls : List GeocodeQuery) :
    let out := r.compile g.geocoder q queries
    let out' := r.compile g.geocoder.cached q (c, calls)
    out'.result = out.result ∧ out'.query = out.query ∧ g.Keeps out.state out'.state.1 := by
  rcases r.config.compile_cases r.field r.options q with ⟨_, _, hc⟩ | ⟨query, -, _, _, hc⟩
  · simp only [SearchRequest.compile, hc, true_and]
    exact h
  · simp only [SearchRequest.compile, hc] at hn ⊢
    obtain ⟨ha, hk⟩ := lookup_cached h hn calls
    rw [ha]
    exact ⟨rfl, rfl, hk⟩

theorem compileAll_cached : ∀ (rs : List SearchRequest) (qs : Nat → ElementQuery)
    {queries : List GeocodeQuery} {c : Cache}, g.Keeps queries c →
    NoCollision (compileAll g.geocoder rs qs queries).2 → ∀ calls : List GeocodeQuery,
      (compileAll g.geocoder.cached rs qs (c, calls)).1 =
        (compileAll g.geocoder rs qs queries).1
  | [], qs, queries, c, _, _, calls => rfl
  | r :: rs, qs, queries, c, h, hn, calls => by
    obtain ⟨more, hm⟩ := compileAll_calls (g := g) rs
      (Function.update qs r.slot (r.compile g.geocoder (qs r.slot) queries).query)
      (r.compile g.geocoder (qs r.slot) queries).state
    have hn' : NoCollision (r.compile g.geocoder (qs r.slot) queries).state := by
      have := hn
      simp only [compileAll, hm] at this
      exact this.of_append
    obtain ⟨hr, hq, hk⟩ := compile_cached h r (qs r.slot) hn' calls
    have ih := compileAll_cached rs
      (Function.update qs r.slot (r.compile g.geocoder (qs r.slot) queries).query) hk hn
      (r.compile g.geocoder.cached (qs r.slot) (c, calls)).state.2
    simp only [compileAll, hr, hq]
    exact congrArg (_ :: ·) ih

/-- Queries are answered through a cache as they are without it, whatever its capacity, and
searches that share the cached gazetteer come to the same results and queries as those that share
the gazetteer itself. -/
theorem cached_transparent (g : Gazetteer) (n : Nat) (steps : List CacheStep)
    (hn : NoCollision (steps.filterMap CacheStep.query?)) :
    let session := CacheStep.runAll g.geocoder steps (.empty n, [])
    session.1 = steps.map (fun step => step.query?.map fun q => (g.geocoder.lookup q []).1) ∧
    ∀ (rs : List SearchRequest) (qs : Nat → ElementQuery),
      let bare := compileAll g.geocoder rs qs (steps.filterMap CacheStep.query?)
      NoCollision bare.2 →
        (compileAll g.geocoder.cached rs qs session.2).1 = bare.1 := by
  intro session
  obtain ⟨ha, hk⟩ := runAll_cached steps (keeps_empty (g := g) n) hn []
  rw [List.nil_append] at hk
  refine ⟨ha, ?_⟩
  intro rs qs bare hb
  exact compileAll_cached rs qs hk hb session.2.2

/-- A cache with room for one answer, which is found again, cleared and pushed out; two searches
for one target, the second added to the query of the first, then share what is left. -/
theorem cached_transparent_chicago :
    let g : Gazetteer := { results := [("chicago", .object [])] }
    let chicago : GeocodeAnswer := (GeocodedAddress.ofResult (.object [])).map some
    let steps : List CacheStep := [.lookup (.text "Chicago"), .lookup (.text "chicago "), .clear,
      .lookup (.structured [("zip", .null), ("address", .string "chicagO")]),
      .lookup (.text "Springfield")]
    let session := CacheStep.runAll g.geocoder steps (.empty 0, [])
    let r : SearchRequest :=
      ⟨.standard, ⟨3, "address", fun _ => none⟩, { target := some (.text "Chicago") }, 0⟩
    session.1 = [some chicago, some chicago, none, some chicago, some (.ok none)] ∧
    (compileAll g.geocoder.cached [r, r] (fun _ => .new .mysql) session.2).1 =
      (compileAll g.geocoder [r, r] (fun _ => .new .mysql)
        (steps.filterMap CacheStep.query?)).1 := by
  intro g chicago steps session r
  have hsort : List.mergeSort (Json.sortedFields [("zip", .null), ("address", .string "chicagO")])
      (fun a b => a.1 ≤ b.1) = [("address", .string "chicagO"), ("zip", .null)] := by
    simp [Json.sorted, Json.sortedFields, List.mergeSort]
  have hfields : GeocodeQuery.canonical
      (.structured [("zip", .null), ("address", .string "chicagO")]) =
        "structured:\x7b\"address\":\"chicagO\",\"zip\":null\x7d" := by
    rw [GeocodeQuery.canonical, Json.sorted, hsort]
    rfl
  let texts := ["text:chicago", "text:springfield",
    "structured:\x7b\"address\":\"chicagO\",\"zip\":null\x7d"]
  let asked := steps.filterMap CacheStep.query? ++ [.text "Chicago", .text "Chicago"]
  have htexts : ∀ s ∈ texts, ∀ s' ∈ texts,
      GeocodeQuery.digest s = GeocodeQuery.digest s' → s = s' := by decide +kernel
  have hmem : ∀ q ∈ asked, q.canonical ∈ texts := by
    simp only [asked, steps, CacheStep.query?, List.filterMap_cons, List.filterMap_nil,
      List.cons_append, List.nil_append, List.forall_mem_cons, hfields]
    decide +kernel
  have hd : NoCollision asked := NoCollision.of_texts texts htexts hmem
  obtain ⟨ha, hs⟩ := cached_transparent g 0 steps hd.of_append
  refine ⟨?_, hs [r, r] _ hd⟩
  rw [ha]
  rfl

end Gazetteer

end Proximity
