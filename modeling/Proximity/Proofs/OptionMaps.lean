import Proximity.Proofs.Misconfiguration
import Proximity.Proofs.Resolved

/-!
# Option maps

An option map is read key by key. A key takes some values and not others, and a value that it does
not take counts as none (`OptionKey.taken`), so the options of a map come from the values that were
taken and from whether the map has any key at all (`ofFields_congr`). It is the latter that keeps a
map with nothing but unusable values from passing for no options: the search for it still joins the
addresses.
-/

namespace Proximity

open Sql

/-- The keys of an option map that are read. -/
inductive OptionKey where
  | range
  | units
  | target
  | subfields
  | requireCoords
  | reverseRadius
deriving DecidableEq

namespace OptionKey

def name : OptionKey → String
  | range => "range"
  | units => "units"
  | target => "target"
  | subfields => "subfields"
  | requireCoords => "requireCoords"
  | reverseRadius => "reverseRadius"

def accepts : OptionKey → Json → Bool
  | range, .number n => n.toFloat.isFinite
  | range, .string s => (Decimal.readFloat? (Text.trim s)).any Float.isFinite
  | units, .string _ => true
  | target, .bool b => b
  | target, .number n => n.toFloat != 0
  | target, .string s => s != ""
  | target, .array items => !items.isEmpty
  | target, .object fields => !fields.isEmpty
  | subfields, .string s => s == "fallback"
  | subfields, .object _ => true
  | requireCoords, .bool b => b
  | requireCoords, .number n => n.toFloat != 0
  | requireCoords, .string s => s != "" && s != "0" && s != "false"
  | reverseRadius, .string s => s != ""
  | _, _ => false

/-- The value under a key, if the key takes it. -/
def taken (k : OptionKey) (m : Keyed Json) : Option Json :=
  (Keyed.get? k.name m).filter k.accepts

theorem name_injective : Function.Injective name := by
  intro k k' h
  cases k <;> cases k' <;> first | rfl | simp [name] at h

theorem accepts_range (v : Json) : range.accepts v = v.finite?.isSome := by
  cases v with
  | number n =>
    rcases hf : n.toFloat.isFinite with _ | _ <;>
      simp [accepts, Json.finite?, Json.Number.finite?, hf]
  | string s =>
    rcases hr : Decimal.readFloat? (Text.trim s) with _ | x
    · simp [accepts, Json.finite?, hr]
    · rcases hf : x.isFinite with _ | _ <;> simp [accepts, Json.finite?, hr, hf]
  | null | bool | array | object => rfl

theorem accepts_units (v : Json) : units.accepts v = v.string?.isSome := by
  cases v <;> rfl

theorem accepts_target (v : Json) : target.accepts v = (Target.ofJson? v).isSome := by
  cases v with
  | null => rfl
  | bool b => cases b <;> rfl
  | number n =>
    rcases hz : n.toFloat == 0 with _ | _ <;> simp [accepts, Target.ofJson?, bne, hz]
  | string s => by_cases hs : s = "" <;> simp [accepts, Target.ofJson?, hs]
  | array items => cases items <;> rfl
  | object fields =>
    rcases fields with _ | ⟨field, fields⟩
    · rfl
    · rcases hc : Coordinates.ofFields? (field :: fields) with _ | c <;>
        simp [accepts, Target.ofJson?, hc]

theorem accepts_subfields (v : Json) : subfields.accepts v = (Subfields.ofJson v != .none) := by
  cases v with
  | string s =>
    by_cases hs : s = "fallback" <;> simp [accepts, Subfields.ofJson, Subfields.fallbackWord, hs]
  | null | bool | number | array | object => rfl

theorem accepts_requireCoords (v : Json) : requireCoords.accepts v = v.isTruthy := by
  cases v with
  | string s =>
    rw [Bool.eq_iff_iff]
    simp [accepts, Json.isTruthy, and_assoc]
  | null | bool | number | array | object => rfl

theorem accepts_reverseRadius (v : Json) :
    reverseRadius.accepts v = (v.string?.filter (· != "")).isSome := by
  cases v with
  | string s => by_cases hs : s = "" <;> simp [accepts, Json.string?, Option.filter, hs]
  | null | bool | number | array | object => rfl

end OptionKey

def SearchOptions.has (o : SearchOptions) : OptionKey → Bool
  | .range => o.range.isSome
  | .units => o.units.isSome
  | .target => o.target.isSome
  | .subfields => o.subfields != .none
  | .requireCoords => o.requireCoords
  | .reverseRadius => o.reverseRadius.isSome

section Filter

variable {α β : Type} {p : α → Bool}

theorem bind_filter {f : α → Option β} (h : ∀ a, p a = (f a).isSome) (x : Option α) :
    (x.filter p).bind f = x.bind f := by
  rcases x with _ | a
  · rfl
  · rcases hf : f a with _ | b <;> simp [Option.filter, h, hf]

theorem map_filter_getD {f : α → β} {d : β} (h : ∀ a, p a = false → f a = d) (x : Option α) :
    ((x.filter p).map f).getD d = (x.map f).getD d := by
  rcases x with _ | a
  · rfl
  · rcases hp : p a with _ | _ <;> simp [Option.filter, hp, h a]

end Filter

namespace SearchOptions

/-- The options of a map are those of the values that its keys take. -/
theorem ofFields_eq (m : Keyed Json) :
    ofFields m = {
      range := (OptionKey.range.taken m).bind Json.finite?
      units := (OptionKey.units.taken m).bind Json.string?
      target := (OptionKey.target.taken m).bind Target.ofJson?
      subfields := ((OptionKey.subfields.taken m).map Subfields.ofJson).getD .none
      requireCoords := ((OptionKey.requireCoords.taken m).map Json.isTruthy).getD false
      reverseRadius := (OptionKey.reverseRadius.taken m).bind fun v => v.string?.filter (· != "")
      supplied := !m.isEmpty } := by
  have hsubfields : ∀ v, OptionKey.subfields.accepts v = false → Subfields.ofJson v = .none := by
    intro v hv
    simpa [OptionKey.accepts_subfields] using hv
  have hcoords : ∀ v, OptionKey.requireCoords.accepts v = false → v.isTruthy = false := by
    intro v hv
    rwa [OptionKey.accepts_requireCoords] at hv
  have hradius : ((Keyed.get? OptionKey.reverseRadius.name m).bind Json.string?).filter (· != "") =
      (Keyed.get? OptionKey.reverseRadius.name m).bind fun v => v.string?.filter (· != "") := by
    rcases Keyed.get? OptionKey.reverseRadius.name m with _ | v <;> rfl
  unfold OptionKey.taken
  rw [bind_filter OptionKey.accepts_range, bind_filter OptionKey.accepts_units,
    bind_filter OptionKey.accepts_target, map_filter_getD hsubfields, map_filter_getD hcoords,
    bind_filter OptionKey.accepts_reverseRadius, ← hradius]
  rfl

theorem ofFields_congr {m m' : Keyed Json} (h : ∀ k : OptionKey, k.taken m = k.taken m')
    (he : m.isEmpty = m'.isEmpty) : ofFields m = ofFields m' := by
  rw [ofFields_eq, ofFields_eq]
  simp only [h, he]

theorem has_ofFields (k : OptionKey) (m : Keyed Json) :
    (ofFields m).has k = (Keyed.get? k.name m).any k.accepts := by
  unfold has ofFields OptionKey.name
  cases k with
  | range => rcases Keyed.get? "range" m with _ | v <;> simp [OptionKey.accepts_range]
  | units => rcases Keyed.get? "units" m with _ | v <;> simp [OptionKey.accepts_units]
  | target => rcases Keyed.get? "target" m with _ | v <;> simp [OptionKey.accepts_target]
  | subfields => rcases Keyed.get? "subfields" m with _ | v <;> simp [OptionKey.accepts_subfields]
  | requireCoords =>
    rcases Keyed.get? "requireCoords" m with _ | v <;> simp [OptionKey.accepts_requireCoords]
  | reverseRadius =>
    rcases Keyed.get? "reverseRadius" m with _ | v <;> simp [OptionKey.accepts_reverseRadius]

theorem isEmpty_ofFields (m : Keyed Json) : (ofFields m).isEmpty = m.isEmpty := by
  rcases m with _ | ⟨e, m⟩
  · rfl
  · simp [isEmpty, ofFields]

theorem reverseRadius_ofFields {m : Keyed Json} {handle : String}
    (h : (ofFields m).reverseRadius = some handle) :
    Keyed.get? "reverseRadius" m = some (.string handle) ∧ handle ≠ "" := by
  obtain ⟨hv, hne⟩ := Option.filter_eq_some_iff.mp h
  obtain ⟨v, hget, hs⟩ := Option.bind_eq_some_iff.mp hv
  cases v <;> cases hs
  exact ⟨hget, by simpa using hne⟩

theorem taken_set {k : OptionKey} {v : Json} (hv : k.accepts v = false) (m : Keyed Json)
    (k' : OptionKey) :
    k'.taken (Keyed.set k.name v m) = k'.taken (Keyed.erase k.name m) := by
  unfold OptionKey.taken
  by_cases hk : k' = k
  · subst hk
    rw [Keyed.get?_set_self, Keyed.get?_erase_self]
    simp [Option.filter, hv]
  · have hne : k'.name ≠ k.name := fun h => hk (OptionKey.name_injective h)
    rw [Keyed.get?_set_of_ne hne, Keyed.get?_erase_of_ne hne]

theorem ofFields_set {k : OptionKey} {v v' : Json} (hv : k.accepts v = false)
    (hv' : k.accepts v' = false) (m : Keyed Json) :
    ofFields (Keyed.set k.name v m) = ofFields (Keyed.set k.name v' m) := by
  refine ofFields_congr (fun k' => by rw [taken_set hv, taken_set hv']) ?_
  rw [List.isEmpty_eq_false_iff.mpr (Keyed.set_ne_nil _ _ _),
    List.isEmpty_eq_false_iff.mpr (Keyed.set_ne_nil _ _ _)]

theorem ofFields_set_eq_erase {k : OptionKey} {v : Json} (hv : k.accepts v = false)
    {m : Keyed Json} (hm : Keyed.erase k.name m ≠ []) :
    ofFields (Keyed.set k.name v m) = ofFields (Keyed.erase k.name m) := by
  refine ofFields_congr (taken_set hv m) ?_
  rw [List.isEmpty_eq_false_iff.mpr (Keyed.set_ne_nil _ _ _), List.isEmpty_eq_false_iff.mpr hm]

end SearchOptions

/-- A search with options either is refused for the field of its radius, or joins the addresses. -/
theorem SearchConfig.refused_or_joined {σ : Type} (config : SearchConfig) (g : Geocoder σ)
    (field : AddressField) {o : SearchOptions} (ho : o.isEmpty = false) (q : ElementQuery) (s : σ) :
    let out := config.compile g field o q s
    (∃ handle, o.reverseRadius = some handle ∧
        (∀ f, field.layout handle = some f → f.kind ≠ .number) ∧
        out = ⟨.error (field.refusal handle), q, s⟩) ∨
      ∃ c, out.result = .ok c ∧ c.join = some (joinedAddresses field.id) ∧
        out.query.joins = q.joins ++ [joinedAddresses field.id] := by
  intro out
  by_cases hm : o.Misconfigured field
  · obtain ⟨handle, hr, hf⟩ := hm
    exact .inl ⟨handle, hr, hf, compile_of_misconfigured config g field hr hf q s⟩
  · obtain ⟨c, hc⟩ := compile_of_not_misconfigured config g field hm q s
    obtain ⟨radius, -, hsummary, hquery⟩ := exists_planOf ho hc
    refine .inr ⟨c, hc, ?_, ?_⟩
    · rw [hsummary]
      rfl
    · rw [hquery]
      rfl

namespace SearchOptions

/-- How options come from a JSON value. Only an object and null give options, and only null and the
empty object give none. Two maps that are not empty give the same options if they agree on the keys
that are read; a value that its key does not take makes no difference from another such value, nor
from none. All other values are taken. And whatever is in a map that is not empty, the search for
its options is refused for the field of its radius, or it joins the addresses. -/
theorem option_maps_read_by_key :
    (∀ v : Json, ((∃ e, ofJson v = .error e) ↔ v ≠ .null ∧ ∀ m, v ≠ .object m) ∧
      ∀ e, ofJson v = .error e → e.kind = .invalidInput) ∧
    (∀ v : Json, (∃ o, ofJson v = .ok o ∧ o.isEmpty = true) ↔ v = .null ∨ v = .object []) ∧
    (∀ m m' : Keyed Json, m ≠ [] → m' ≠ [] →
      (∀ k : OptionKey, Keyed.get? k.name m = Keyed.get? k.name m') →
        ofJson (.object m) = ofJson (.object m')) ∧
    (∀ (m : Keyed Json) (k : OptionKey) (v : Json), k.accepts v = false →
      (∀ v', k.accepts v' = false →
        ofJson (.object (Keyed.set k.name v m)) = ofJson (.object (Keyed.set k.name v' m))) ∧
      (Keyed.erase k.name m ≠ [] →
        ofJson (.object (Keyed.set k.name v m)) = ofJson (.object (Keyed.erase k.name m)))) ∧
    ∀ m : Keyed Json, m ≠ [] → ∃ o, ofJson (.object m) = .ok o ∧
      (∀ k : OptionKey, o.has k = (Keyed.get? k.name m).any k.accepts) ∧
      ∀ (σ : Type) (config : SearchConfig) (g : Geocoder σ) (field : AddressField)
        (q : ElementQuery) (s : σ),
        let out := config.compile g field o q s
        (∃ handle, Keyed.get? "reverseRadius" m = some (.string handle) ∧ handle ≠ "" ∧
            (∀ f, field.layout handle = some f → f.kind ≠ .number) ∧
            out = ⟨.error (field.refusal handle), q, s⟩) ∨
          ∃ c, out.result = .ok c ∧ c.join = some (joinedAddresses field.id) ∧
            out.query.joins = q.joins ++ [joinedAddresses field.id] := by
  refine ⟨?_, ?_, ?_, ?_, ?_⟩
  · intro v
    cases v with
    | null | object => simp [ofJson]
    | bool | number | string | array => simp [ofJson, Error.kind]
  · intro v
    cases v with
    | null => simp [ofJson, isEmpty]
    | object m => simp [ofJson, isEmpty_ofFields]
    | bool | number | string | array => simp [ofJson]
  · intro m m' hm hm' h
    have htaken : ∀ k : OptionKey, k.taken m = k.taken m' := fun k => by
      rw [OptionKey.taken, h k, OptionKey.taken]
    have he : m.isEmpty = m'.isEmpty := by
      rw [List.isEmpty_eq_false_iff.mpr hm, List.isEmpty_eq_false_iff.mpr hm']
    exact congrArg Except.ok (ofFields_congr htaken he)
  · intro m k v hv
    exact ⟨fun v' hv' => congrArg Except.ok (ofFields_set hv hv' m),
      fun hm => congrArg Except.ok (ofFields_set_eq_erase hv hm)⟩
  · intro m hm
    refine ⟨_, rfl, fun k => has_ofFields k m, fun σ config g field q s => ?_⟩
    have ho : (ofFields m).isEmpty = false :=
      (isEmpty_ofFields m).trans (List.isEmpty_eq_false_iff.mpr hm)
    rcases config.refused_or_joined g field ho q s with ⟨handle, hr, hf, hout⟩ | h
    · obtain ⟨hget, hne⟩ := reverseRadius_ofFields hr
      exact .inl ⟨handle, hget, hne, hf, hout⟩
    · exact .inr h

/-- A range that is no number: beside another key it is as good as none, and alone it still makes
for a search. -/
theorem option_maps_read_by_key_far :
    let far : Json := .string " far "
    let km : Keyed Json := [("units", .string "km")]
    OptionKey.range.accepts far = false ∧
      ofJson (.object [("units", .string "km"), ("range", far)]) = ofJson (.object km) ∧
      ofJson (.object [("range", far), ("color", .null), ("units", .string "km")]) =
        ofJson (.object [("units", .string "km"), ("range", far)]) ∧
      ∃ o, ofJson (.object [("range", far)]) = .ok o ∧ o.has .range = false ∧
        ∃ c, (SearchConfig.standard.compile (Gazetteer.geocoder {}) ⟨3, "address", fun _ => none⟩ o
          (.new .mysql) []).result = .ok c ∧ c.join = some (joinedAddresses 3) := by
  intro far km
  have hfar : OptionKey.range.accepts far = false := by decide +kernel
  obtain ⟨-, -, hsame, hunused, hsearch⟩ := option_maps_read_by_key
  refine ⟨hfar, (hunused km .range far hfar).2 (by decide), ?_, ?_⟩
  · refine hsame _ _ (List.cons_ne_nil _ _) (List.cons_ne_nil _ _) fun k => ?_
    cases k <;> rfl
  · obtain ⟨o, ho, hhas, hout⟩ := hsearch [("range", far)] (List.cons_ne_nil _ _)
    refine ⟨o, ho, (hhas .range).trans hfar, ?_⟩
    rcases hout _ .standard (Gazetteer.geocoder {}) ⟨3, "address", fun _ => none⟩ (.new .mysql) []
      with ⟨handle, hget, -⟩ | ⟨c, hc, hjoin, -⟩
    · cases hget
    · exact ⟨c, hc, hjoin⟩

end SearchOptions

end Proximity
