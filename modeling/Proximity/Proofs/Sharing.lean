import Mathlib.Data.List.Forall2
import Mathlib.Data.List.Nodup
import Proximity.Geocode.Recency
import Proximity.Geocode.SharedCache

/-!
# Lookups do not disturb each other

Whatever lookups are on their way through one cache, and in whatever order they take their steps:
if the answer of the geocoder depends on the key alone, every answer that is kept or returned is the
geocoder's to that key. A lookup carries its answer in its own stage from the call on, so that
another lookup's step can only touch the cache; and what is put there belongs to its key, whoever
puts it and however often (`Cache.Holds`). The counts of hits and misses are those of the lookups
that have come so far, since each lookup is counted in the step in which it looks for its key
(`Sound.replace`). The lookups that called are those whose queries reached the geocoder (`Noted`).
-/

namespace Proximity

theorem countP_set {α : Type} (p : α → Bool) {l : List α} {i : Nat} {x : α} (h : l[i]? = some x)
    (y : α) :
    (l.set i y).countP p + (if p x then 1 else 0) = l.countP p + if p y then 1 else 0 := by
  induction l generalizing i with
  | nil => simp at h
  | cons z l ih =>
    rcases i with _ | i
    · cases h
      simp only [List.set_cons_zero, List.countP_cons]
      omega
    · have ih := ih h
      simp only [List.set_cons_succ, List.countP_cons]
      omega

/-- Every answer that is kept is the one to its key, every key is there once, and there are no more
than there is room for. -/
structure Cache.Holds (c : Cache) (answer : String → GeocodeAnswer) : Prop where
  kept : ∀ e ∈ c.entries, answer e.1 = .ok e.2
  distinct : c.entries.keys.Nodup
  size_le : c.size ≤ c.capacity

namespace Cache

variable {c : Cache} {answer : String → GeocodeAnswer}

theorem holds_empty (n : Nat) : (empty n).Holds answer where
  kept _ he := absurd he List.not_mem_nil
  distinct := List.nodup_nil
  size_le := Nat.zero_le _

theorem Holds.clear (_ : c.Holds answer) : c.clear.Holds answer where
  kept _ he := absurd he List.not_mem_nil
  distinct := List.nodup_nil
  size_le := Nat.zero_le _

theorem nodup_keys_in_front {entries : Keyed (Option GeocodedAddress)} (h : entries.keys.Nodup)
    (key : String) : (key :: (without key entries).keys).Nodup := by
  rw [keys_without, List.nodup_cons]
  exact ⟨by simp, h.filter _⟩

theorem Holds.answer_eq (h : c.Holds answer) {key : String} {a : Option GeocodedAddress}
    (ha : Keyed.get? key c.entries = some a) : answer key = .ok a :=
  h.kept _ (Keyed.mem_of_get? ha)

theorem Holds.hit (h : c.Holds answer) {key : String} {a : Option GeocodedAddress}
    (ha : Keyed.get? key c.entries = some a) :
    { c with entries := (key, a) :: without key c.entries, hits := c.hits + 1 }.Holds answer where
  kept := forall_in_front h.kept (h.answer_eq ha)
  distinct := nodup_keys_in_front h.distinct key
  size_le := Nat.le_trans (length_without_lt ha) h.size_le

theorem Holds.miss (h : c.Holds answer) : { c with misses := c.misses + 1 }.Holds answer :=
  ⟨h.kept, h.distinct, h.size_le⟩

theorem Holds.store (h : c.Holds answer) {key : String} {a : Option GeocodedAddress}
    (ha : answer key = .ok a) : (c.store key a).Holds answer where
  kept e he := forall_in_front h.kept ha e (List.mem_of_mem_take he)
  distinct := by
    rw [keys_store, ← keys_without]
    exact (nodup_keys_in_front h.distinct key).sublist (List.take_sublist _ _)
  size_le := size_store_le key a c

end Cache

/-! ## Lookups -/

namespace LookupStage

/-- The answer that a lookup has, finished or not. -/
def answer? : LookupStage → Option GeocodeAnswer
  | asked answer => some answer
  | stage => stage.result?

def isMissed (stage : LookupStage) : Bool :=
  stage.isProbed && !stage.isFound

/-- Whether the geocoder was called. -/
def hasAsked : LookupStage → Bool
  | asked _ => true
  | answered _ => true
  | _ => false

theorem answer?_of_result? {stage : LookupStage} {r : GeocodeAnswer} (h : stage.result? = some r) :
    stage.answer? = some r := by
  cases stage <;> first | exact h | cases h

theorem isMissed_of_hasAsked {stage : LookupStage} (h : stage.hasAsked = true) :
    stage.isMissed = true := by
  cases stage <;> first | rfl | cases h

end LookupStage

namespace SharedCache

variable {σ : Type} {g : Geocoder σ} {answer : String → GeocodeAnswer} {s : SharedCache σ}

/-- Every answer that is kept or that a lookup has is the one to its key, and the hits, the misses
and the calls are those of the lookups. -/
structure Sound (s : SharedCache σ) (answer : String → GeocodeAnswer) : Prop where
  cache : s.cache.Holds answer
  answers : ∀ l ∈ s.lookups, ∀ r, l.2.answer? = some r → r = answer l.1.cacheKey
  hits : s.cache.hits = s.lookups.countP fun l => l.2.isFound
  misses : s.cache.misses = s.lookups.countP fun l => l.2.isMissed
  calls : s.callers.length = s.lookups.countP fun l => l.2.hasAsked
  /-- No lookup has called twice. -/
  distinct : s.callers.Nodup
  asked : ∀ i ∈ s.callers, ∃ l, s.lookups[i]? = some l ∧ l.2.hasAsked = true

theorem sound_empty (n : Nat) (state : σ) : (empty n state).Sound answer where
  cache := Cache.holds_empty n
  answers _ hl := absurd hl List.not_mem_nil
  hits := rfl
  misses := rfl
  calls := rfl
  distinct := List.nodup_nil
  asked _ hi := absurd hi List.not_mem_nil

theorem countP_start {p : LookupStage → Bool} (hp : p .started = false)
    (lookups : List (GeocodeQuery × LookupStage)) (q : GeocodeQuery) :
    (lookups ++ [(q, LookupStage.started)]).countP (fun l => p l.2) =
      lookups.countP fun l => p l.2 := by
  simp [hp]

theorem Sound.start (h : s.Sound answer) (q : GeocodeQuery) :
    (s.step g (.start q)).Sound answer where
  cache := h.cache
  answers l hl r hr := by
    rcases List.mem_append.mp hl with hl | hl
    · exact h.answers l hl r hr
    · cases List.mem_singleton.mp hl
      cases hr
  hits := h.hits.trans (countP_start rfl s.lookups q).symm
  misses := h.misses.trans (countP_start rfl s.lookups q).symm
  calls := h.calls.trans (countP_start rfl s.lookups q).symm
  distinct := h.distinct
  asked i hi := by
    obtain ⟨l, hl, ha⟩ := h.asked i hi
    obtain ⟨hlt, -⟩ := List.getElem?_eq_some_iff.mp hl
    exact ⟨l, (List.getElem?_append_left hlt).trans hl, ha⟩

theorem Sound.clear (h : s.Sound answer) : (s.step g .clear).Sound answer :=
  ⟨h.cache.clear, h.answers, h.hits, h.misses, h.calls, h.distinct, h.asked⟩

variable {i : Nat} {q : GeocodeQuery} {stage : LookupStage} {cache : Cache}

theorem Sound.answer_eq (h : s.Sound answer) (hl : s.lookups[i]? = some (q, stage))
    {r : GeocodeAnswer} (hr : stage.answer? = some r) : r = answer q.cacheKey :=
  h.answers _ (List.mem_of_getElem? hl) r hr

/-- A lookup may come to another stage with an answer to its key, if the counts follow. -/
theorem Sound.replace (h : s.Sound answer) (hl : s.lookups[i]? = some (q, stage))
    (stage' : LookupStage) (hc : cache.Holds answer)
    (hr : ∀ r, stage'.answer? = some r → r = answer q.cacheKey)
    (hh : cache.hits + (if stage.isFound then 1 else 0) =
      s.cache.hits + if stage'.isFound then 1 else 0)
    (hm : cache.misses + (if stage.isMissed then 1 else 0) =
      s.cache.misses + if stage'.isMissed then 1 else 0)
    (ha : stage'.hasAsked = stage.hasAsked) (state : σ) :
    Sound ⟨cache, state, s.lookups.set i (q, stage'), s.callers⟩ answer where
  cache := hc
  answers l hm r hr' := by
    rcases List.mem_or_eq_of_mem_set hm with hm | rfl
    · exact h.answers l hm r hr'
    · exact hr r hr'
  hits := by
    have hs := countP_set (fun l => l.2.isFound) hl (q, stage')
    have := h.hits
    simp only at hs ⊢
    omega
  misses := by
    have hs := countP_set (fun l => l.2.isMissed) hl (q, stage')
    have := h.misses
    simp only at hs ⊢
    omega
  calls := by
    have hs := countP_set (fun l => l.2.hasAsked) hl (q, stage')
    have := h.calls
    simp only [ha] at hs ⊢
    omega
  distinct := h.distinct
  asked j hj := by
    obtain ⟨l, hj, hl'⟩ := h.asked j hj
    by_cases hij : i = j
    · subst hij
      obtain ⟨hlt, -⟩ := List.getElem?_eq_some_iff.mp hl
      rw [hl] at hj
      cases hj
      exact ⟨_, List.getElem?_set_self hlt, ha.trans hl'⟩
    · exact ⟨l, (List.getElem?_set_ne hij).trans hj, hl'⟩

/-- A lookup whose key was not there may call, for it has not called before. -/
theorem Sound.call (h : s.Sound answer) (hl : s.lookups[i]? = some (q, .missed)) (state : σ) :
    Sound ⟨s.cache, state, s.lookups.set i (q, .asked (answer q.cacheKey)), i :: s.callers⟩
      answer where
  cache := h.cache
  answers l hm r hr := by
    rcases List.mem_or_eq_of_mem_set hm with hm | rfl
    · exact h.answers l hm r hr
    · exact (Option.some.inj hr).symm
  hits := by
    have hs := countP_set (fun l => l.2.isFound) hl (q, .asked (answer q.cacheKey))
    exact h.hits.trans hs.symm
  misses := by
    have hs := countP_set (fun l => l.2.isMissed) hl (q, .asked (answer q.cacheKey))
    exact h.misses.trans (Nat.add_right_cancel hs).symm
  calls := by
    have hs := countP_set (fun l => l.2.hasAsked) hl (q, .asked (answer q.cacheKey))
    exact (congrArg (· + 1) h.calls).trans hs.symm
  distinct := by
    refine List.nodup_cons.mpr ⟨fun hi => ?_, h.distinct⟩
    obtain ⟨l, hi, ha⟩ := h.asked i hi
    rw [hl] at hi
    cases hi
    cases ha
  asked j hj := by
    obtain ⟨hlt, -⟩ := List.getElem?_eq_some_iff.mp hl
    by_cases hij : i = j
    · subst hij
      exact ⟨_, List.getElem?_set_self hlt, rfl⟩
    · obtain ⟨l, hj, ha⟩ := h.asked j ((List.mem_cons.mp hj).resolve_left (Ne.symm hij))
      exact ⟨l, (List.getElem?_set_ne hij).trans hj, ha⟩

theorem advance_eq (h : s.lookups[i]? = some (q, stage)) :
    s.advance g i =
      { cache := (stage.next g q (s.cache, s.state)).2.1
        state := (stage.next g q (s.cache, s.state)).2.2
        lookups := s.lookups.set i (q, (stage.next g q (s.cache, s.state)).1)
        callers := if stage.isCalling then i :: s.callers else s.callers } := by
  rw [advance, h]

theorem Sound.advance (hg : ∀ q t, (g.lookup q t).1 = answer q.cacheKey) (h : s.Sound answer)
    (i : Nat) : (s.step g (.advance i)).Sound answer := by
  rcases hl : s.lookups[i]? with _ | ⟨q, stage⟩
  · have hs : s.step g (.advance i) = s := by
      simp only [step, SharedCache.advance, hl]
    rw [hs]
    exact h
  · rw [step, advance_eq hl]
    cases stage with
    | started =>
      rcases hk : Keyed.get? q.cacheKey s.cache.entries with _ | a
      · simp only [LookupStage.next, Cache.probe_of_get?_eq_none hk]
        exact h.replace hl .missed h.cache.miss (fun _ hr => by cases hr) rfl rfl rfl s.state
      · simp only [LookupStage.next, Cache.probe_of_get? hk]
        have ha := h.cache.answer_eq hk
        refine h.replace hl (.found a) (h.cache.hit hk) (fun r hr => ?_) rfl rfl rfl s.state
        exact (Option.some.inj hr).symm.trans ha.symm
    | missed =>
      simp only [LookupStage.next, hg]
      exact h.call hl _
    | asked r =>
      have ha : r = answer q.cacheKey := h.answer_eq hl rfl
      have hr : ∀ r', (LookupStage.answered r).answer? = some r' → r' = answer q.cacheKey :=
        fun r' hr => (Option.some.inj hr).symm.trans ha
      rcases r with e | a
      · exact h.replace hl _ h.cache hr rfl rfl rfl s.state
      · exact h.replace hl _ (h.cache.store ha.symm) hr rfl rfl rfl s.state
    | found a => exact h.replace hl _ h.cache (fun _ => h.answer_eq hl) rfl rfl rfl s.state
    | answered r => exact h.replace hl _ h.cache (fun _ => h.answer_eq hl) rfl rfl rfl s.state

theorem Sound.step (hg : ∀ q t, (g.lookup q t).1 = answer q.cacheKey) (h : s.Sound answer) :
    ∀ st : SharedStep, (s.step g st).Sound answer
  | .start q => h.start q
  | .advance i => h.advance hg i
  | .clear => h.clear

theorem capacity_next (stage : LookupStage) (q : GeocodeQuery) (t : Cache × σ) :
    (stage.next g q t).2.1.capacity = t.1.capacity := by
  unfold LookupStage.next
  split
  · rcases hk : Keyed.get? q.cacheKey t.1.entries with _ | a
    · rw [Cache.probe_of_get?_eq_none hk]
    · rw [Cache.probe_of_get? hk]
  all_goals rfl

theorem capacity_step (s : SharedCache σ) : ∀ st : SharedStep,
    (s.step g st).cache.capacity = s.cache.capacity
  | .start _ => rfl
  | .advance i => by
    rcases hl : s.lookups[i]? with _ | ⟨q, stage⟩
    · simp only [SharedCache.step, SharedCache.advance, hl]
    · rw [SharedCache.step, advance_eq hl]
      exact capacity_next stage q (s.cache, s.state)
  | .clear => rfl

/-- What holds before any steps holds after them. -/
theorem Sound.run (hg : ∀ q t, (g.lookup q t).1 = answer q.cacheKey) :
    ∀ (steps : List SharedStep) {s : SharedCache σ}, s.Sound answer →
      (run g steps s).Sound answer ∧ (SharedCache.run g steps s).cache.capacity = s.cache.capacity
  | [], _, h => ⟨h, rfl⟩
  | st :: steps, s, h => by
    obtain ⟨ih, hc⟩ := Sound.run hg steps (h.step hg st)
    exact ⟨ih, hc.trans (capacity_step s st)⟩

/-- With the calls noted all goes as it does without, and the lookups that called are those whose
queries the geocoder was asked. -/
structure Noted (s : SharedCache (List GeocodeCall × σ)) (t : SharedCache σ) : Prop where
  same : t = ⟨s.cache, s.state.2, s.lookups, s.callers⟩
  calls : List.Forall₂ (fun i call => ∃ stage, s.lookups[i]? = some (call.query, stage))
    s.callers s.state.1

theorem next_noted (stage : LookupStage) (q : GeocodeQuery) (c : Cache)
    (calls : List GeocodeCall) (t : σ) :
    stage.next g.noted q (c, calls, t) =
      ((stage.next g q (c, t)).1, (stage.next g q (c, t)).2.1,
        if stage.isCalling then ⟨q, (g.lookup q t).1⟩ :: calls else calls,
        (stage.next g q (c, t)).2.2) := by
  cases stage with
  | started =>
    rcases hk : Keyed.get? q.cacheKey c.entries with _ | a
    · simp only [LookupStage.next, Cache.probe_of_get?_eq_none hk]
      rfl
    · simp only [LookupStage.next, Cache.probe_of_get? hk]
      rfl
  | asked r => rcases r with e | a <;> rfl
  | missed | found | answered => rfl

/-- A lookup keeps its query when it comes to another stage. -/
theorem query_set {lookups : List (GeocodeQuery × LookupStage)} {i : Nat} {q : GeocodeQuery}
    {stage : LookupStage} (hl : lookups[i]? = some (q, stage)) (stage' : LookupStage) {j : Nat}
    {q' : GeocodeQuery} (hj : ∃ stage, lookups[j]? = some (q', stage)) :
    ∃ stage, (lookups.set i (q, stage'))[j]? = some (q', stage) := by
  obtain ⟨stage₂, hj⟩ := hj
  by_cases hij : i = j
  · subst hij
    obtain ⟨hlt, -⟩ := List.getElem?_eq_some_iff.mp hl
    rw [hl] at hj
    cases hj
    exact ⟨stage', List.getElem?_set_self hlt⟩
  · exact ⟨stage₂, (List.getElem?_set_ne hij).trans hj⟩

theorem Noted.step {s : SharedCache (List GeocodeCall × σ)} {t : SharedCache σ} (h : s.Noted t)
    (st : SharedStep) : (s.step g.noted st).Noted (t.step g st) := by
  obtain ⟨rfl, hcalls⟩ := h
  cases st with
  | start q =>
    refine ⟨rfl, hcalls.imp fun i call hi => ?_⟩
    obtain ⟨stage, hi⟩ := hi
    obtain ⟨hlt, -⟩ := List.getElem?_eq_some_iff.mp hi
    exact ⟨stage, (List.getElem?_append_left hlt).trans hi⟩
  | clear => exact ⟨rfl, hcalls⟩
  | advance i =>
    rcases hl : s.lookups[i]? with _ | ⟨q, stage⟩
    · simp only [SharedCache.step, SharedCache.advance, hl]
      exact ⟨rfl, hcalls⟩
    · obtain ⟨c, ⟨calls, t⟩, lookups, callers⟩ := s
      simp only [SharedCache.step]
      rw [advance_eq (g := g.noted) hl, advance_eq (g := g) (s := ⟨c, t, lookups, callers⟩) hl]
      simp only [next_noted]
      refine ⟨rfl, ?_⟩
      have hset := hcalls.imp fun j call hj => query_set hl (stage.next g q (c, t)).1 hj
      rcases hc : stage.isCalling with _ | _
      · exact hset
      · refine .cons (query_set hl _ ⟨stage, hl⟩) hset

theorem Noted.run (g : Geocoder σ) : ∀ (steps : List SharedStep)
    {s : SharedCache (List GeocodeCall × σ)} {t : SharedCache σ}, s.Noted t →
      (SharedCache.run g.noted steps s).Noted (SharedCache.run g steps t)
  | [], _, _, h => h
  | st :: steps, _, _, h => Noted.run g steps (h.step st)

theorem noted_empty (n : Nat) (state : σ) : (empty n ([], state)).Noted (empty n state) :=
  ⟨rfl, .nil⟩

theorem advance_last (c : Cache) (t : σ) (lookups : List (GeocodeQuery × LookupStage))
    (callers : List Nat) (q : GeocodeQuery) (stage : LookupStage) :
    ∃ callers', advance g lookups.length ⟨c, t, lookups ++ [(q, stage)], callers⟩ =
      ⟨(stage.next g q (c, t)).2.1, (stage.next g q (c, t)).2.2,
        lookups ++ [(q, (stage.next g q (c, t)).1)], callers'⟩ := by
  have hl : (lookups ++ [(q, stage)])[lookups.length]? = some (q, stage) :=
    List.getElem?_concat_length
  refine ⟨if stage.isCalling then lookups.length :: callers else callers, ?_⟩
  rw [advance_eq (s := ⟨c, t, lookups ++ [(q, stage)], callers⟩) hl]
  simp only [List.set_append_right _ _ (Nat.le_refl _), Nat.sub_self, List.set_cons_zero]

/-- The three steps of a lookup, one after the other, are a lookup through the cached geocoder. -/
theorem next_next_next (q : GeocodeQuery) (t : Cache × σ) :
    let one := LookupStage.started.next g q t
    let two := one.1.next g q one.2
    let three := two.1.next g q two.2
    three.1.result? = some (g.cached.lookup q t).1 ∧ three.2 = (g.cached.lookup q t).2 := by
  obtain ⟨c, t⟩ := t
  rcases hk : Keyed.get? q.cacheKey c.entries with _ | a
  · rcases hl : g.lookup q t with ⟨e | a, t'⟩
    · rw [Geocoder.cached_failure hk hl]
      simp only [LookupStage.next, Cache.probe_of_get?_eq_none hk, hl]
      exact ⟨rfl, trivial⟩
    · rw [Geocoder.cached_miss hk hl]
      simp only [LookupStage.next, Cache.probe_of_get?_eq_none hk, hl]
      exact ⟨rfl, trivial⟩
  · rw [Geocoder.cached_hit hk]
    simp only [LookupStage.next, Cache.probe_of_get? hk]
    exact ⟨rfl, trivial⟩

theorem run_alone (s : SharedCache σ) (q : GeocodeQuery) :
    let i := s.lookups.length
    let out := run g [.start q, .advance i, .advance i, .advance i] s
    (out.cache, out.state) = (g.cached.lookup q (s.cache, s.state)).2 ∧
      ∃ stage, out.lookups = s.lookups ++ [(q, stage)] ∧
        stage.result? = some (g.cached.lookup q (s.cache, s.state)).1 := by
  intro i out
  obtain ⟨hr, hs⟩ := next_next_next (g := g) q (s.cache, s.state)
  obtain ⟨cs₁, h₁⟩ := advance_last (g := g) s.cache s.state s.lookups s.callers q .started
  obtain ⟨cs₂, h₂⟩ := advance_last (g := g) _ _ s.lookups cs₁ q _
  obtain ⟨cs₃, h₃⟩ := advance_last (g := g) _ _ s.lookups cs₂ q _
  have hout : out = _ := (congrArg (advance g i) ((congrArg (advance g i) h₁).trans h₂)).trans h₃
  rw [hout]
  exact ⟨hs, _, rfl, hr⟩

/-! ## All together -/

theorem countP_isProbed (lookups : List (GeocodeQuery × LookupStage)) :
    lookups.countP (fun l => l.2.isFound) + lookups.countP (fun l => l.2.isMissed) =
      lookups.countP fun l => l.2.isProbed := by
  induction lookups with
  | nil => rfl
  | cons l lookups ih =>
    have hl : (if l.2.isFound then 1 else 0) + (if l.2.isMissed then 1 else 0) =
        if l.2.isProbed then 1 else 0 := by
      cases l.2 <;> rfl
    simp only [List.countP_cons]
    omega

/-- However lookups through one cache and the clearing of it fall together, and with the geocoder's
calls noted: if its answer is settled by the key, every answer kept is the one to its key, no key is
kept twice and no more than there is room for, and every finished lookup came to the answer to its
own key. Each lookup calls the geocoder once at most, and not at all if it found its key; every
lookup that has looked for its key counts as a hit or a miss, and there are no more calls than
misses. A lookup that is not interrupted comes out as one through the cached geocoder. -/
theorem run_sound (g : Geocoder σ) {answer : String → GeocodeAnswer}
    (hg : ∀ q t, (g.lookup q t).1 = answer q.cacheKey) (n : Nat) (state : σ)
    (steps : List SharedStep) :
    let out := run g.noted steps (.empty n ([], state))
    let calls := out.state.1
    run g steps (.empty n state) = ⟨out.cache, out.state.2, out.lookups, out.callers⟩ ∧
    (∀ e ∈ out.cache.entries, answer e.1 = .ok e.2) ∧
    out.cache.entries.keys.Nodup ∧ out.cache.size ≤ max 1 n ∧
    (∀ l ∈ out.lookups, ∀ r, l.2.result? = some r → r = answer l.1.cacheKey) ∧
    List.Forall₂ (fun i call => ∃ stage, out.lookups[i]? = some (call.query, stage))
      out.callers calls ∧
    out.callers.Nodup ∧
    (∀ i q a, out.lookups[i]? = some (q, .found a) → i ∉ out.callers) ∧
    out.cache.hits + out.cache.misses = out.lookups.countP (fun l => l.2.isProbed) ∧
    calls.length ≤ out.cache.misses ∧
    ∀ q, let i := out.lookups.length
      let next := run g.noted [.start q, .advance i, .advance i, .advance i] out
      (next.cache, next.state) = (g.noted.cached.lookup q (out.cache, out.state)).2 ∧
        ∃ stage, next.lookups = out.lookups ++ [(q, stage)] ∧
          stage.result? = some (g.noted.cached.lookup q (out.cache, out.state)).1 := by
  intro out calls
  have hg' : ∀ q t, (g.noted.lookup q t).1 = answer q.cacheKey := fun q t => hg q t.2
  obtain ⟨h, hcap⟩ := Sound.run hg' steps (sound_empty n ([], state))
  have hn : out.Noted (run g steps (.empty n state)) := (noted_empty n state).run g steps
  have hsize : out.cache.size ≤ max 1 n := Nat.le_trans h.cache.size_le (Nat.le_of_eq hcap)
  refine ⟨hn.same, h.cache.kept, h.cache.distinct, hsize, ?_, hn.calls, h.distinct, ?_, ?_, ?_,
    run_alone out⟩
  · intro l hl r hr
    exact h.answers l hl r (LookupStage.answer?_of_result? hr)
  · intro i q a hl hi
    obtain ⟨l, hl', ha⟩ := h.asked i hi
    rw [hl] at hl'
    cases hl'
    cases ha
  · rw [h.hits, h.misses, countP_isProbed]
  · rw [← hn.calls.length_eq, h.calls, h.misses]
    exact List.countP_mono_left fun l _ => LookupStage.isMissed_of_hasAsked

/-- Two lookups of one key both miss it and both call; the cache is cleared before their answers are
kept, of which the second takes the place of the first, and a third lookup finds it. -/
theorem run_sound_of_three :
    let key := (GeocodeQuery.text "Chicago").cacheKey
    let answer : String → GeocodeAnswer :=
      fun k => if k = key then .ok none else .error (.lookupFailed "no quota")
    let g : Geocoder Nat := ⟨fun q n => (answer q.cacheKey, n + 1)⟩
    let steps : List SharedStep := [.start (.text "Chicago"), .start (.text "chicago "),
      .advance 1, .advance 0, .advance 0, .advance 1, .clear, .advance 1, .advance 0,
      .start (.text "CHICAGO"), .advance 2]
    let out := run g.noted steps (.empty 0 ([], 0))
    (∀ q t, (g.lookup q t).1 = answer q.cacheKey) ∧
      out.callers = [1, 0] ∧ out.state.1.length = 2 ∧
      out.cache.hits + out.cache.misses = 3 ∧ out.cache.size ≤ 1 ∧
      ∀ l ∈ out.lookups, ∀ r, l.2.result? = some r → r = answer l.1.cacheKey := by
  intro key answer g steps
  have hg : ∀ q t, (g.lookup q t).1 = answer q.cacheKey := fun _ _ => rfl
  have h := run_sound g hg 0 0 steps
  have hout : (run g.noted steps (.empty 0 ([], 0))).callers = [1, 0] ∧
      (run g.noted steps (.empty 0 ([], 0))).lookups.countP (fun l => l.2.isProbed) = 3 := by
    decide +kernel
  -- the steps are not to be gone through again
  generalize run g.noted steps (.empty 0 ([], 0)) = out at h hout ⊢
  obtain ⟨-, -, -, hsize, hresult, hcalls, -, -, hcount, -⟩ := h
  have hlength : out.state.1.length = 2 := by
    rw [← hcalls.length_eq, hout.1]
    rfl
  exact ⟨hg, hout.1, hlength, hcount.trans hout.2, hsize, hresult⟩

end SharedCache

end Proximity
