import Proximity.Json.Record

/-!
# What records are read from

A reader goes through its fields one by one, and takes each from an object or from an array. What it
makes of them is the same from both, as long as the source has the fields ready in their order
(`Source.Serves`): so a record is settled field by field, once for all of its forms
(`reads_required`, `reads_optional`). In the other direction, what a reader can make at all is
settled field by field too (`Yields`).
-/

namespace Proximity

namespace Json

variable {α : Type}

/-- Whether the place of a field holds a value; a missing one holds null. -/
def Slot.Holds (v : Json) : Slot → Prop
  | present w => w = v
  | missing => v = .null
  | ended => False

/-- Whether a source has these fields ready, one behind the other, and what is left then. -/
def Source.Serves (source : Source) : List (String × Json) → Source → Prop
  | [], last => source = last
  | (name, v) :: fields, last =>
    ∃ slot next, source.slot name = (slot, next) ∧ slot.Holds v ∧ next.Serves fields last

/-- Whether a reader makes `x` of these fields, from whatever source it has them. -/
def FieldReader.Reads (reader : FieldReader α) (fields : List (String × Json)) (x : α) : Prop :=
  ∀ source last, source.Serves fields last → reader source = some (x, last)

/-- Whether all that a reader makes has a property. -/
def FieldReader.Yields (reader : FieldReader α) (P : α → Prop) : Prop :=
  ∀ source x rest, reader source = some (x, rest) → P x

theorem serves_named {fs : Keyed Json} : ∀ {fields : List (String × Json)},
    (∀ e ∈ fields, (Keyed.get? e.1 fs).getD .null = e.2) →
      (Source.named fs).Serves fields (.named fs)
  | [], _ => rfl
  | (name, v) :: fields, h => by
    have hv : (Keyed.get? name fs).getD .null = v := h _ List.mem_cons_self
    have hrest := serves_named fun e he => h e (List.mem_cons_of_mem _ he)
    rcases hg : Keyed.get? name fs with _ | w <;> rw [hg] at hv
    · exact ⟨.missing, .named fs, by rw [Source.slot, hg], hv.symm, hrest⟩
    · exact ⟨.present w, .named fs, by rw [Source.slot, hg], hv, hrest⟩

theorem serves_listed : ∀ fields : List (String × Json),
    (Source.listed (fields.map Prod.snd)).Serves fields (.listed [])
  | [] => rfl
  | (_, v) :: fields =>
    ⟨.present v, .listed (fields.map Prod.snd), rfl, rfl, serves_listed fields⟩

section Reads

variable {β : Type} {k : α → FieldReader β} {name : String} {decode : Json → Option α}
  {fields : List (String × Json)} {y : β}

theorem reads_pure (x : α) : (pure x : FieldReader α).Reads [] x := by
  rintro source last rfl
  rfl

theorem reads_slotReader {read : Slot → Option α} {v : Json} {x : α}
    (hx : ∀ slot : Slot, slot.Holds v → read slot = some x) (hk : (k x).Reads fields y) :
    (slotReader name read >>= k).Reads ((name, v) :: fields) y := by
  rintro source last ⟨slot, next, hslot, hv, hnext⟩
  have hread : slotReader name read source = some (x, next) := by
    simp [slotReader, hslot, hx slot hv]
  calc (slotReader name read >>= k) source
      = (slotReader name read source).bind fun p => k p.1 p.2 := rfl
    _ = k x next := by rw [hread]; rfl
    _ = some (y, last) := hk next last hnext

theorem reads_required {v : Json} {x : α} (hx : decode v = some x) (hv : v ≠ .null)
    (hk : (k x).Reads fields y) : (required name decode >>= k).Reads ((name, v) :: fields) y := by
  refine reads_slotReader (fun slot h => ?_) hk
  cases slot with
  | present w => exact h ▸ hx
  | missing => exact absurd h hv
  | ended => exact h.elim

/-- What is absent is written as null, so nothing that is there may be written so. -/
theorem reads_optional {k : Option α → FieldReader β} {encode : α → Json} {o : Option α}
    (hx : ∀ x ∈ o, decode (encode x) = some x ∧ encode x ≠ .null) (hk : (k o).Reads fields y) :
    (optional name decode >>= k).Reads ((name, ofOption encode o) :: fields) y := by
  refine reads_slotReader (fun slot h => ?_) hk
  cases o with
  | none =>
    cases slot with
    | present w => rw [show w = .null from h]
    | missing => rfl
    | ended => exact h.elim
  | some x =>
    obtain ⟨hd, hn⟩ := hx x rfl
    cases slot with
    | present w =>
      rw [show w = encode x from h]
      simp only [hd, Option.map_some]
    | missing => exact absurd h hn
    | ended => exact h.elim

end Reads

section Yields

variable {β : Type} {reader : FieldReader α} {k : α → FieldReader β} {P : α → Prop} {Q : β → Prop}
  {name : String} {decode : Json → Option α}

theorem yields_pure {x : α} (h : P x) : (pure x : FieldReader α).Yields P := by
  rintro source y rest ⟨⟩
  exact h

theorem FieldReader.Yields.bind (h : reader.Yields P) (hk : ∀ x, P x → (k x).Yields Q) :
    (reader >>= k).Yields Q := by
  intro source y rest hy
  obtain ⟨⟨x, next⟩, hx, hy⟩ := Option.bind_eq_some_iff.mp hy
  exact hk x (h source x next hx) next y rest hy

theorem yields_bind (hk : ∀ x, (k x).Yields Q) : (reader >>= k).Yields Q :=
  FieldReader.Yields.bind (P := fun _ => True) (fun _ _ _ _ => trivial) fun x _ => hk x

theorem yields_slotReader {read : Slot → Option α} (h : ∀ slot x, read slot = some x → P x) :
    (slotReader name read).Yields P := by
  intro source x rest hx
  obtain ⟨y, hy, heq⟩ := Option.map_eq_some_iff.mp hx
  cases heq
  exact h _ x hy

theorem yields_required (h : ∀ v x, decode v = some x → P x) : (required name decode).Yields P := by
  refine yields_slotReader fun slot x hx => ?_
  rcases slot with v | _ | _
  · exact h v x hx
  · cases hx
  · cases hx

theorem yields_optional (h : ∀ v x, decode v = some x → P x) :
    (optional name decode).Yields fun o => ∀ x ∈ o, P x := by
  refine yields_slotReader fun slot o ho x hx => ?_
  split at ho
  · cases ho
    cases hx
  · obtain ⟨y, hy, rfl⟩ := Option.map_eq_some_iff.mp ho
    cases hx
    exact h _ x hy
  · cases ho
    cases hx
  · cases ho

end Yields

section Record

variable {reader : FieldReader α} {fields : List (String × Json)} {x : α}

/-- A record from an object that has the fields among its own. -/
theorem record?_object (h : reader.Reads fields x) {fs : Keyed Json}
    (hfs : ∀ e ∈ fields, (Keyed.get? e.1 fs).getD .null = e.2) :
    record? reader (.object fs) = some x := by
  rw [record?, h _ _ (serves_named hfs)]
  rfl

/-- A record from the array of its fields. -/
theorem record?_array (h : reader.Reads fields x) :
    record? reader (.array (fields.map Prod.snd)) = some x := by
  rw [record?, h _ _ (serves_listed fields)]

theorem of_record? {P : α → Prop} (h : reader.Yields P) {v : Json} (hx : record? reader v = some x) :
    P x := by
  cases v with
  | object fs =>
    obtain ⟨⟨y, rest⟩, hy, rfl⟩ := Option.map_eq_some_iff.mp hx
    exact h _ _ _ hy
  | array vs =>
    simp only [record?] at hx
    split at hx
    · rename_i y hy
      cases hx
      exact h _ _ _ hy
    · cases hx
  | null | bool | number | string => cases hx

end Record

end Json

end Proximity
