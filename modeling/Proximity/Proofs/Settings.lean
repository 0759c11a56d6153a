import Mathlib.Logic.Function.Basic
import Proximity.Proofs.Finiteness

/-!
# Settings from the environment

Each of six variables gives one setting. What a variable holds is read by itself
(`ConfigVariable.read`), and the setting is what was read, or else the standard one
(`get_ofEnvironment`). The configuration has no settings but these and one that is fixed
(`eq_of_get`), so the rest follows: the settings are within bounds whatever the variables hold, a
value that is refused is as good as none, and no variable has a say in the setting of another.
-/

namespace Proximity

/-- The variables that the configuration is read from. -/
inductive ConfigVariable where
  | driver
  | lat
  | lng
  | zoom
  | range
  | units
deriving DecidableEq

namespace ConfigVariable

def name : ConfigVariable → String
  | driver => "WAYMARK_DB_DRIVER"
  | lat => "WAYMARK_DEFAULT_LAT"
  | lng => "WAYMARK_DEFAULT_LNG"
  | zoom => "WAYMARK_DEFAULT_ZOOM"
  | range => "WAYMARK_DEFAULT_RANGE"
  | units => "WAYMARK_DEFAULT_UNITS"

abbrev Setting : ConfigVariable → Type
  | driver => Sql.Dialect
  | lat | lng | range => Float
  | zoom => Nat
  | units => Units

def get : (v : ConfigVariable) → SearchConfig → v.Setting
  | driver, c => c.dialect
  | lat, c => c.location.coords.lat
  | lng, c => c.location.coords.lng
  | zoom, c => c.location.zoom
  | range, c => c.range
  | units, c => c.units

def finiteWithin? (inside : Float → Bool) (s : String) : Option Float :=
  (Decimal.readFloat? (Text.trim s)).filter fun x => x.isFinite && inside x

/-- What a value of a variable is read as; nothing, if it is refused. -/
def read : (v : ConfigVariable) → String → Option v.Setting
  | driver, s => (Sql.Dialect.ofName s).toOption
  | lat, s => finiteWithin? (fun x => -90 ≤ x && x ≤ 90) s
  | lng, s => finiteWithin? (fun x => -180 ≤ x && x ≤ 180) s
  -- the values that a number of one byte can have
  | zoom, s => (Decimal.readBounded? 255 (Text.trim s)).filter (· ≤ 22)
  | range, s => finiteWithin? (fun x => 0 < x) s
  | units, s => Units.ofName? (Text.trim s)

theorem name_injective : Function.Injective name := by
  intro v w h
  cases v <;> cases w <;> first | rfl | simp [name] at h

end ConfigVariable

namespace SearchConfig

theorem readFloat?_eq_filter (valid : Float → Bool) (s : String) :
    readFloat? valid s = (Decimal.readFloat? s).filter valid := by
  unfold readFloat?
  rcases Decimal.readFloat? s with _ | x <;> rfl

/-- What lies within finite bounds is finite, whether that is asked for or not. -/
theorem readFloat?_between {least greatest : Float} (hl : least.isFinite = true)
    (hg : greatest.isFinite = true) (s : String) :
    readFloat? (between least greatest) (Text.trim s) =
      ConfigVariable.finiteWithin? (fun x => least ≤ x && x ≤ greatest) s := by
  rw [readFloat?_eq_filter, ConfigVariable.finiteWithin?]
  congr 1
  funext x
  rcases hb : between least greatest x with _ | _
  · rw [show (decide (least ≤ x) && decide (x ≤ greatest)) = false from hb, Bool.and_false]
  · rw [isFinite_of_between hl hg hb, Bool.true_and]
    exact hb.symm

theorem readBounded?_of_le {least greatest : Nat} (h : least ≤ greatest) (s : String) :
    Decimal.readBounded? least s = (Decimal.readBounded? greatest s).filter (· ≤ least) := by
  simp only [Decimal.readBounded?, Option.bind_eq_bind]
  rcases Decimal.readNat? _ with _ | n
  · rfl
  · simp only [Option.bind_some]
    by_cases hn : n ≤ least
    · simp [hn, hn.trans h, Option.filter]
    · by_cases hg : n ≤ greatest <;> simp [hn, hg, Option.filter]

theorem ofName_trim (s : String) : Sql.Dialect.ofName (Text.trim s) = Sql.Dialect.ofName s := by
  simp only [Sql.Dialect.ofName, Text.fold_trim]

theorem setting_eq {α : Type} {read readValue : String → Option α}
    (hr : ∀ s, read (Text.trim s) = readValue s) (env : Environment) (name : String) (default : α) :
    setting env name read default = ((env name).bind readValue).getD default := by
  unfold setting
  rcases env name with _ | s
  · rfl
  · rw [Option.map_some, Option.bind_some, Option.bind_some, hr]

theorem get_ofEnvironment (v : ConfigVariable) (env : Environment) :
    v.get (ofEnvironment env) = ((env v.name).bind v.read).getD (v.get standard) := by
  cases v with
  | driver =>
    refine setting_eq (fun s => ?_) env _ _
    rw [ofName_trim]
    rfl
  | lat =>
    refine setting_eq (fun s => ?_) env _ _
    exact readFloat?_between (by decide +kernel) (by decide +kernel) s
  | lng =>
    refine setting_eq (fun s => ?_) env _ _
    exact readFloat?_between (by decide +kernel) (by decide +kernel) s
  | zoom => exact setting_eq (fun s => readBounded?_of_le (by decide) _) env _ _
  | range => exact setting_eq (fun s => readFloat?_eq_filter _ _) env _ _
  | units => exact setting_eq (fun s => rfl) env _ _

theorem eq_of_get {c c' : SearchConfig} (h : ∀ v : ConfigVariable, v.get c = v.get c')
    (hs : c.subfields = c'.subfields) : c = c' := by
  obtain ⟨_, ⟨⟨_, _⟩, _⟩, _, _, _⟩ := c
  obtain ⟨_, ⟨⟨_, _⟩, _⟩, _, _, _⟩ := c'
  cases h .driver
  cases h .lat
  cases h .lng
  cases h .zoom
  cases h .range
  cases h .units
  cases hs
  rfl

/-- A configuration that a search can start from. -/
structure WithinBounds (c : SearchConfig) : Prop where
  lat : -90 ≤ c.location.coords.lat ∧ c.location.coords.lat ≤ 90
  lng : -180 ≤ c.location.coords.lng ∧ c.location.coords.lng ≤ 180
  zoom : c.location.zoom ≤ 22
  range : c.range.isFinite = true ∧ 0 < c.range

theorem withinBounds_ofEnvironment (env : Environment) : (ofEnvironment env).WithinBounds where
  lat := by
    refine setting_of (P := fun x : Float => -90 ≤ x ∧ x ≤ 90) (by decide +kernel) ?_ env _
    intro s x hx
    simpa [between] using valid_of_readFloat? hx
  lng := by
    refine setting_of (P := fun x : Float => -180 ≤ x ∧ x ≤ 180) (by decide +kernel) ?_ env _
    intro s x hx
    simpa [between] using valid_of_readFloat? hx
  zoom := by
    refine setting_of (P := fun n : Nat => n ≤ 22) (by decide) ?_ env _
    intro s n hn
    rw [readBounded?_of_le le_rfl] at hn
    exact of_decide_eq_true (Option.filter_eq_some_iff.mp hn).2
  range := by
    simpa [SearchOptions.validRange] using (usable_ofEnvironment env).range

section Update

variable (env : Environment) {v : ConfigVariable}

theorem get_update_self (x : Option String) :
    v.get (ofEnvironment (Function.update env v.name x)) =
      (x.bind v.read).getD (v.get standard) := by
  rw [get_ofEnvironment, Function.update_self]

theorem get_update_of_ne {w : ConfigVariable} (h : w ≠ v) (x : Option String) :
    w.get (ofEnvironment (Function.update env v.name x)) = w.get (ofEnvironment env) := by
  have hne : w.name ≠ v.name := fun hn => h (ConfigVariable.name_injective hn)
  rw [get_ofEnvironment, get_ofEnvironment, Function.update_of_ne hne]

/-- All that counts of a variable is what it is read as. -/
theorem update_congr {x y : Option String} (h : x.bind v.read = y.bind v.read) :
    ofEnvironment (Function.update env v.name x) =
      ofEnvironment (Function.update env v.name y) := by
  refine eq_of_get (fun w => ?_) rfl
  by_cases hw : w = v
  · subst hw
    rw [get_update_self, get_update_self, h]
  · rw [get_update_of_ne env hw, get_update_of_ne env hw]

end Update

theorem read_padded {before behind : String} (hb : Text.blank before = true)
    (ha : Text.blank behind = true) (v : ConfigVariable) (value : String) :
    v.read (before ++ value ++ behind) = v.read value := by
  have ht := Text.trim_padded hb ha value
  cases v with
  | driver =>
    simp only [ConfigVariable.read]
    rw [← ofName_trim, ht, ofName_trim]
  | lat | lng | zoom | range | units =>
    simp only [ConfigVariable.read, ConfigVariable.finiteWithin?, ht]

/-- Whatever the environment holds, the configuration that it gives is within bounds. A variable
sets what its value is read as; a value that is refused gives the configuration of the variable
unset, where its setting is the standard one. The other settings stay as they are, whatever the
variable is changed to, and blanks around a value make no difference. -/
theorem environment_settings (env : Environment) :
    (ofEnvironment env).WithinBounds ∧
    ∀ v : ConfigVariable,
      let given (x : Option String) := ofEnvironment (Function.update env v.name x)
      v.get (given none) = v.get standard ∧
      (∀ value a, v.read value = some a → v.get (given (some value)) = a) ∧
      (∀ value, v.read value = none → given (some value) = given none) ∧
      (∀ x, (∀ w, w ≠ v → w.get (given x) = w.get (ofEnvironment env)) ∧
        (given x).subfields = (ofEnvironment env).subfields) ∧
      ∀ before value behind, Text.blank before = true → Text.blank behind = true →
        given (some (before ++ value ++ behind)) = given (some value) := by
  refine ⟨withinBounds_ofEnvironment env, ?_⟩
  intro v given
  refine ⟨?_, ?_, ?_, ?_, ?_⟩
  · exact get_update_self env none
  · intro value a hv
    have hget : v.get (given (some value)) = _ := get_update_self env (some value)
    rw [hget, Option.bind_some, hv, Option.getD_some]
  · intro value hv
    exact update_congr env hv
  · intro x
    exact ⟨fun w hw => get_update_of_ne env hw x, rfl⟩
  · intro before value behind hb ha
    exact update_congr env (read_padded hb ha v value)

/-- A latitude that is no number leaves the configuration as it is without one, and a zoom with a
no-break space before it and a tab behind it is read. -/
theorem environment_settings_of_nan :
    let env : Environment := fun name =>
      if name = "WAYMARK_DEFAULT_RANGE" then some "-1" else none
    ofEnvironment (Function.update env "WAYMARK_DEFAULT_LAT" (some "NaN")) =
        ofEnvironment (Function.update env "WAYMARK_DEFAULT_LAT" none) ∧
      (ofEnvironment (Function.update env "WAYMARK_DEFAULT_ZOOM"
        (some ("\u00a0" ++ "+9" ++ "\t")))).location.zoom = 9 ∧
      (ofEnvironment (Function.update env "WAYMARK_DEFAULT_ZOOM"
        (some ("\u00a0" ++ "+9" ++ "\t")))).units = (ofEnvironment env).units := by
  intro env
  obtain ⟨-, hv⟩ := environment_settings env
  obtain ⟨-, -, hrefused, -, -⟩ := hv .lat
  obtain ⟨-, hread, -, hother, hpadded⟩ := hv .zoom
  have hnine := hpadded "\u00a0" "+9" "\t" (by decide) (by decide)
  refine ⟨hrefused "NaN" (by decide +kernel), ?_, ?_⟩
  · exact (congrArg _ hnine).trans (hread "+9" (9 : Nat) (by decide))
  · exact (hother _).1 .units (by decide)

end SearchConfig

end Proximity
