import Proximity.Json.Printer

/-!
# Subfield filters

What the subfields of an address are to be: for each subfield one value or any of several. The
subfields stay in the order in which they first came. A value that is neither a text nor a number
nor a list of those is kept as invalid, so that its subfield stands in the filter but restricts
nothing.
-/

namespace Proximity

/-- What one subfield is to be. -/
inductive SubfieldValue where
  | scalar (value : String)
  | list (values : List String)
  | invalid
deriving DecidableEq, Repr

namespace SubfieldValue

/-- A text or a number as the text of a value. -/
def text? : Json → Option String
  | .string s => some s
  | .number n => some n.text
  | _ => none

/-- A value of an option map. -/
def ofJson : Json → SubfieldValue
  | .array items =>
    match items.mapM text? with
    | some values => .list values
    | none => .invalid
  | v =>
    match text? v with
    | some value => .scalar value
    | none => .invalid

/-- The values that the subfield may have. -/
def values : SubfieldValue → List String
  | scalar value => [value]
  | list values => values
  | invalid => []

end SubfieldValue

/-- What the subfields of an address are to be. -/
structure SubfieldFilter where
  entries : Keyed SubfieldValue := []
deriving DecidableEq

namespace SubfieldFilter

/-- The filter that asks for nothing. -/
def empty : SubfieldFilter := {}

/-- The filter with the value of a subfield replaced where it stands or put behind the others. -/
def insert (f : SubfieldFilter) (subfield : String) (value : SubfieldValue) : SubfieldFilter :=
  ⟨Keyed.set subfield value f.entries⟩

/-- The builder form of `insert`: it hands the filter on. -/
def including (f : SubfieldFilter) (subfield : String) (value : SubfieldValue) : SubfieldFilter :=
  f.insert subfield value

/-- The value of a subfield. -/
def get? (f : SubfieldFilter) (subfield : String) : Option SubfieldValue :=
  Keyed.get? subfield f.entries

/-- The number of subfields. -/
def size (f : SubfieldFilter) : Nat :=
  f.entries.length

/-- The filter of an option map. -/
def ofFields (fields : Keyed Json) : SubfieldFilter :=
  fields.foldl (fun f (subfield, v) => f.insert subfield (SubfieldValue.ofJson v)) empty

/-- What is done to a filter. -/
inductive Step where
  | insert (subfield : String) (value : SubfieldValue)
  | including (subfield : String) (value : SubfieldValue)
deriving DecidableEq, Repr

/-- The subfield that a step sets, and its value. -/
def Step.entry : Step → String × SubfieldValue
  | insert subfield value | including subfield value => (subfield, value)

/-- The filter after a step. -/
def Step.apply : Step → SubfieldFilter → SubfieldFilter
  | insert subfield value, f => f.insert subfield value
  | including subfield value, f => f.including subfield value

/-- The filter after some steps. -/
def build (steps : List Step) (f : SubfieldFilter) : SubfieldFilter :=
  steps.foldl (fun f step => step.apply f) f

@[simp] theorem entries_empty : empty.entries = [] := rfl

theorem Step.apply_eq (step : Step) (f : SubfieldFilter) :
    step.apply f = f.insert step.entry.1 step.entry.2 := by
  cases step <;> rfl

@[simp] theorem build_nil (f : SubfieldFilter) : build [] f = f := rfl

@[simp] theorem build_cons (step : Step) (steps : List Step) (f : SubfieldFilter) :
    build (step :: steps) f = build steps (step.apply f) := rfl

end SubfieldFilter

/-- Which subfields a search asks for: none, a filter, or those that its target stands for. -/
inductive Subfields where
  | none
  | explicit (filter : SubfieldFilter)
  | fallback
deriving DecidableEq

/-- The word that asks for the subfields that the target stands for. -/
def Subfields.fallbackWord : String := "fallback"

/-- The subfields of an option map. -/
def Subfields.ofJson : Json → Subfields
  | .string s => if s = fallbackWord then .fallback else .none
  | .object fields => .explicit (SubfieldFilter.ofFields fields)
  | _ => .none

end Proximity
