import Mathlib.Tactic.ByContra
import Proximity.Geocode.Cache
import Proximity.Proofs.Account

/-!
# Misconfigured searches

The one thing a search can fail on is the field of the radius. It is looked up before anything is
added to the query and before the geocoder is asked, so whether a search fails is settled by the
options' radius and the layout alone (`compile_error_iff_of_reverseRadius`), and a search that
fails has changed nothing (`compile_of_misconfigured`).
-/

namespace Proximity

open Sql

/-- No number field of the layout has the handle that the radius is asked for under. -/
def SearchOptions.Misconfigured (o : SearchOptions) (field : AddressField) : Prop :=
  ∃ handle, o.reverseRadius = some handle ∧ ∀ f, field.layout handle = some f → f.kind ≠ .number

/-- The error for a handle under which there is no number field. -/
def AddressField.refusal (field : AddressField) (handle : String) : Error :=
  match field.layout handle with
  | none => .noRadiusField handle field.handle
  | some f => .radiusNotNumber handle f.kind

namespace Error

theorem config_label : "Configuration error: The \"" = ErrorKind.config.label ++ ": " ++ "The \"" :=
  rfl

theorem message_noRadiusField (handle name : String) :
    (noRadiusField handle name).message =
      "Configuration error: The \"" ++ handle ++
        "\" field does not exist on the layout of \"" ++ name ++
        "\". Please specify a Number field for the \x60reverseRadius\x60 option." := by
  have hm : (noRadiusField handle name).message = ErrorKind.config.label ++ ": " ++
      ("The \"" ++ handle ++ "\" field does not exist on the layout of \"" ++ name ++ "\". " ++
        radiusHint) := rfl
  have hh : "\". Please specify a Number field for the \x60reverseRadius\x60 option." =
      "\". " ++ radiusHint := rfl
  rw [hm, config_label, hh]
  simp only [String.append_assoc]

theorem message_radiusNotNumber (handle : String) (kind : FieldKind) :
    (radiusNotNumber handle kind).message =
      "Configuration error: The \"" ++ handle ++ "\" field is a " ++ kind.name ++
        " field. Please specify a Number field for the \x60reverseRadius\x60 option." := by
  have hm : (radiusNotNumber handle kind).message = ErrorKind.config.label ++ ": " ++
      ("The \"" ++ handle ++ "\" field is a " ++ kind.name ++ " field. " ++ radiusHint) := rfl
  have hh : " field. Please specify a Number field for the \x60reverseRadius\x60 option." =
      " field. " ++ radiusHint := rfl
  rw [hm, config_label, hh]
  simp only [String.append_assoc]

end Error

namespace AddressField

variable (field : AddressField) (handle : String)

theorem kind_refusal : (field.refusal handle).kind = .config := by
  unfold refusal
  split <;> rfl

theorem message_refusal :
    (field.refusal handle).message =
      match field.layout handle with
      | none => "Configuration error: The \"" ++ handle ++
          "\" field does not exist on the layout of \"" ++ field.handle ++
          "\". Please specify a Number field for the \x60reverseRadius\x60 option."
      | some f => "Configuration error: The \"" ++ handle ++ "\" field is a " ++ f.kind.name ++
          " field. Please specify a Number field for the \x60reverseRadius\x60 option." := by
  unfold refusal
  rcases field.layout handle with _ | f
  · exact Error.message_noRadiusField handle field.handle
  · exact Error.message_radiusNotNumber handle f.kind

variable {field handle}

theorem radiusField_of_not_number (h : ∀ f, field.layout handle = some f → f.kind ≠ .number) :
    field.radiusField handle = .error (field.refusal handle) := by
  unfold radiusField refusal
  rcases hf : field.layout handle with _ | f
  · rfl
  · have hn : f.kind.isNumber = false := by simpa [FieldKind.isNumber] using h f hf
    simp [hn]

theorem radiusField_of_number {f : LayoutField} (h : field.layout handle = some f)
    (hn : f.kind = .number) : field.radiusField handle = .ok f := by
  simp [radiusField, h, FieldKind.isNumber, hn]

end AddressField

namespace SearchConfig

variable {σ τ : Type} (config : SearchConfig) (g : Geocoder σ) (field : AddressField)
  {o : SearchOptions}

theorem isEmpty_of_reverseRadius {handle : String} (h : o.reverseRadius = some handle) :
    o.isEmpty = false := by
  simp [SearchOptions.isEmpty, h]

/-- A misconfigured search is refused with the query and the geocoder as they were. -/
theorem compile_of_misconfigured {handle : String} (h : o.reverseRadius = some handle)
    (hf : ∀ f, field.layout handle = some f → f.kind ≠ .number) (q : ElementQuery) (s : σ) :
    config.compile g field o q s = ⟨.error (field.refusal handle), q, s⟩ := by
  refine compile_of_error config g field (isEmpty_of_reverseRadius h) ?_ q s
  unfold radiusField
  simp only [SearchOptions.normalizeWith, h]
  rw [AddressField.radiusField_of_not_number hf]
  rfl

/-- Any other search succeeds, whatever its target, its units and its range are, and whatever the
geocoder answers. -/
theorem compile_of_not_misconfigured (h : ¬ o.Misconfigured field) (q : ElementQuery) (s : σ) :
    ∃ c, (config.compile g field o q s).result = .ok c := by
  rcases he : o.isEmpty with _ | _
  · have hr : ∃ radius,
        radiusField field (o.normalizeWith config.range config.units) = .ok radius := by
      rcases hr : o.reverseRadius with _ | handle
      · exact ⟨none, by simp [radiusField, SearchOptions.normalizeWith, hr]⟩
      · -- the handle is that of a number field, or the search were misconfigured
        have hn : ∃ f, field.layout handle = some f ∧ f.kind = .number := by
          by_contra hno
          exact h ⟨handle, hr, fun f hf hk => hno ⟨f, hf, hk⟩⟩
        obtain ⟨f, hf, hk⟩ := hn
        refine ⟨some f, ?_⟩
        simp only [radiusField, SearchOptions.normalizeWith, hr]
        rw [AddressField.radiusField_of_number hf hk]
        rfl
    obtain ⟨radius, hr⟩ := hr
    exact ⟨_, by rw [compile_of_ok config g field he hr]⟩
  · exact ⟨_, by rw [compile_of_isEmpty config g field he]⟩

theorem compile_error_iff_misconfigured (q : ElementQuery) (s : σ) :
    (∃ e, (config.compile g field o q s).result = .error e) ↔ o.Misconfigured field := by
  constructor
  · rintro ⟨e, he⟩
    by_contra h
    obtain ⟨c, hc⟩ := compile_of_not_misconfigured config g field h q s
    rw [hc] at he
    cases he
  · rintro ⟨handle, hr, hf⟩
    exact ⟨_, by rw [compile_of_misconfigured config g field hr hf]⟩

/-- Searches that ask for a radius under one handle fail alike. -/
theorem compile_error_iff_of_reverseRadius (config' : SearchConfig) (g' : Geocoder τ)
    {o' : SearchOptions} (h : o'.reverseRadius = o.reverseRadius) (q q' : ElementQuery) (s : σ)
    (s' : τ) (e : Error) :
    (config'.compile g' field o' q' s').result = .error e ↔
      (config.compile g field o q s).result = .error e := by
  by_cases hm : o.Misconfigured field
  · obtain ⟨handle, hr, hf⟩ := hm
    rw [compile_of_misconfigured config g field hr hf,
      compile_of_misconfigured config' g' field (h.trans hr) hf]
  · have hm' : ¬ o'.Misconfigured field := by
      rwa [SearchOptions.Misconfigured, h]
    obtain ⟨c, hc⟩ := compile_of_not_misconfigured config g field hm q s
    obtain ⟨c', hc'⟩ := compile_of_not_misconfigured config' g' field hm' q' s'
    simp [hc, hc']

/-- A search fails exactly if it is misconfigured, with an error that names the handle and what the
field holds instead; it then leaves the query and the geocoder as they were. Nothing else has a
say in it, be it another configuration, another target, other units, another range, or a geocoder
that fails. -/
theorem compile_fails_iff (q : ElementQuery) (s : σ) :
    let out := config.compile g field o q s
    ((∃ e, out.result = .error e) ↔ o ≠ {} ∧ o.Misconfigured field) ∧
    (∀ e, out.result = .error e → out.query = q ∧ out.state = s ∧ e.kind = .config ∧
      ∃ handle, o.reverseRadius = some handle ∧
        e.message =
          match field.layout handle with
          | none => "Configuration error: The \"" ++ handle ++
              "\" field does not exist on the layout of \"" ++ field.handle ++
              "\". Please specify a Number field for the \x60reverseRadius\x60 option."
          | some f => "Configuration error: The \"" ++ handle ++ "\" field is a " ++ f.kind.name ++
              " field. Please specify a Number field for the \x60reverseRadius\x60 option.") ∧
    ∀ (τ : Type) (config' : SearchConfig) (g' : Geocoder τ) (o' : SearchOptions)
      (q' : ElementQuery) (s' : τ), o'.reverseRadius = o.reverseRadius →
        ∀ e, (config'.compile g' field o' q' s').result = .error e ↔ out.result = .error e := by
  intro out
  refine ⟨?_, ?_, ?_⟩
  · rw [compile_error_iff_misconfigured]
    refine ⟨fun h => ⟨?_, h⟩, And.right⟩
    rintro rfl
    obtain ⟨handle, hr, -⟩ := h
    cases hr
  · intro e he
    obtain ⟨handle, hr, hf⟩ :=
      (compile_error_iff_misconfigured config g field q s).mp ⟨e, he⟩
    have hout : out = ⟨.error (field.refusal handle), q, s⟩ :=
      compile_of_misconfigured config g field hr hf q s
    rw [hout] at he ⊢
    cases he
    exact ⟨rfl, rfl, field.kind_refusal handle, handle, hr, field.message_refusal handle⟩
  · intro τ config' g' o' q' s' h e
    exact compile_error_iff_of_reverseRadius config g field config' g' h q q' s s' e

/-- A text field cannot hold the radius. The search for it leaves a cache with one answer alone, and
a search for the same radius without a target and a geocoder of use fails just as well. -/
theorem compile_fails_iff_of_text :
    let o : SearchOptions := {
      range := some (-1)
      units := some "furlongs"
      target := some (.text "Chicago")
      reverseRadius := some "summary" }
    let field : AddressField :=
      ⟨3, "address", FieldLayout.ofFields [⟨"summary", "f2", .plainText⟩]⟩
    let g := (Gazetteer.geocoder {}).cached
    let q := (ElementQuery.new .mysql).restrict .inWhere (.isNull (.alias "dateDeleted"))
    let s : Cache × List GeocodeQuery :=
      ({ capacity := 2, entries := [("k", none)], hits := 1, misses := 1 }, [.text "Chicago"])
    let broken : Geocoder Unit := ⟨fun _ s => (.error (.lookupFailed "no quota"), s)⟩
    ∃ e, (standard.compile g field o q s).result = .error e ∧
      (standard.compile g field o q s).query = q ∧ (standard.compile g field o q s).state = s ∧
      e.message = "Configuration error: The \"" ++ "summary" ++ "\" field is a " ++ "Plain Text" ++
        " field. Please specify a Number field for the \x60reverseRadius\x60 option." ∧
      (standard.compile broken field { reverseRadius := some "summary" } q ()).result =
        .error e := by
  intro o field g q s broken
  obtain ⟨-, hfail, hsame⟩ := compile_fails_iff standard g field (o := o) q s
  have he : (standard.compile g field o q s).result =
      .error (.radiusNotNumber "summary" .plainText) := rfl
  obtain ⟨hq, hs, -, handle, hr, hm⟩ := hfail _ he
  cases hr
  exact ⟨_, he, hq, hs, hm, (hsame Unit standard broken _ q () rfl _).mpr he⟩

end SearchConfig

end Proximity
