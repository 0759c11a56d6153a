import Mathlib.Data.Finset.Card
import Proximity.Options.SubfieldFilter

/-!
# Filters keep the order of insertion

What has been put into a filter is a log of entries. The filter shows of it each name once, where
the name first came, with the value that came last (`Records`). One more entry keeps that
(`Records.insert`): a name that is there stays in its place, and a new one goes behind the others as
it does in the log. Each step is such an entry and so is each field of an option map
(`ofFields_eq_build`), so it holds of every filter that is built.
-/

namespace Proximity

namespace SubfieldFilter

/-- Whether the first entry of one name stands before the first of another in a log. -/
def CameBefore (log : Keyed SubfieldValue) (a b : String) : Prop :=
  log.keys.idxOf a < log.keys.idxOf b

/-- What a filter is after the entries of a log were put in, the oldest first. -/
structure Records (f : SubfieldFilter) (log : Keyed SubfieldValue) : Prop where
  nodup : f.entries.keys.Nodup
  ordered : f.entries.keys.Pairwise (CameBefore log)
  -- the log from its end, so that the first value found is the one that came last
  get?_eq : ∀ name, f.get? name = Keyed.get? name log.reverse
  size_eq : f.size = log.keys.toFinset.card

/-- The entries that the fields of an option map make. -/
def fieldEntries (fields : Keyed Json) : Keyed SubfieldValue :=
  fields.map fun e => (e.1, SubfieldValue.ofJson e.2)

theorem records_empty : empty.Records [] where
  nodup := List.nodup_nil
  ordered := .nil
  get?_eq _ := rfl
  size_eq := rfl

variable {f : SubfieldFilter} {log : Keyed SubfieldValue}

theorem mem_keys_iff (hg : ∀ name, f.get? name = Keyed.get? name log.reverse) (name : String) :
    name ∈ f.entries.keys ↔ name ∈ log.keys := by
  have hn : f.get? name = none ↔ Keyed.get? name log.reverse = none := by rw [hg]
  rw [get?, Keyed.get?_eq_none_iff, Keyed.get?_eq_none_iff, not_iff_not] at hn
  rwa [Keyed.keys, Keyed.keys, List.map_reverse, List.mem_reverse] at hn

theorem Records.mem_keys (h : f.Records log) {name : String} :
    name ∈ f.entries.keys ↔ name ∈ log.keys :=
  mem_keys_iff h.get?_eq name

/-- With each name once there are as many as the log has different ones. -/
theorem size_eq_card (hd : f.entries.keys.Nodup)
    (hm : ∀ name, name ∈ f.entries.keys ↔ name ∈ log.keys) :
    f.size = log.keys.toFinset.card := by
  have hs : f.entries.keys.toFinset = log.keys.toFinset := by
    ext name
    rw [List.mem_toFinset, List.mem_toFinset, hm]
  rw [← hs, List.toFinset_card_of_nodup hd, Keyed.keys, List.length_map, size]

theorem CameBefore.append {a b : String} (h : CameBefore log a b) (ha : a ∈ log.keys)
    (hb : b ∈ log.keys) (entry : String × SubfieldValue) : CameBefore (log ++ [entry]) a b := by
  rw [CameBefore, Keyed.keys_append, List.idxOf_append_of_mem ha, List.idxOf_append_of_mem hb]
  exact h

theorem cameBefore_new {a : String} (ha : a ∈ log.keys) {entry : String × SubfieldValue}
    (hn : entry.1 ∉ log.keys) : CameBefore (log ++ [entry]) a entry.1 := by
  have hlast : (Keyed.keys (log ++ [entry])).idxOf entry.1 = log.keys.length := by
    rw [Keyed.keys_append, List.idxOf_append_of_notMem hn]
    simp [Keyed.keys]
  rw [CameBefore, hlast, Keyed.keys_append, List.idxOf_append_of_mem ha]
  exact List.idxOf_lt_length_of_mem ha

section Insert

variable (h : f.Records log) (name : String) (value : SubfieldValue)
include h

theorem Records.get?_insert (other : String) :
    (f.insert name value).get? other = Keyed.get? other (log ++ [(name, value)]).reverse := by
  rw [List.reverse_append, List.reverse_singleton, List.singleton_append]
  by_cases ho : other = name
  · subst ho
    simp [insert, SubfieldFilter.get?, Keyed.get?]
  · simpa [insert, SubfieldFilter.get?, Keyed.get?, Keyed.get?_set_of_ne ho, Ne.symm ho]
      using h.get?_eq other

theorem Records.ordered_insert :
    (f.insert name value).entries.keys.Pairwise (CameBefore (log ++ [(name, value)])) := by
  have hold : f.entries.keys.Pairwise (CameBefore (log ++ [(name, value)])) :=
    h.ordered.imp_of_mem fun ha hb hab => hab.append (h.mem_keys.mp ha) (h.mem_keys.mp hb) _
  by_cases hn : name ∈ f.entries.keys
  · rwa [insert, Keyed.keys_set_of_mem hn]
  · have hkeys : (f.insert name value).entries.keys = f.entries.keys ++ [name] := by
      rw [SubfieldFilter.insert, Keyed.set_of_not_mem hn, Keyed.keys_append]
      rfl
    have hlog : name ∉ log.keys := fun hl => hn (h.mem_keys.mpr hl)
    rw [hkeys, List.pairwise_append]
    refine ⟨hold, List.pairwise_singleton _ _, fun a ha b hb => ?_⟩
    rw [List.mem_singleton.mp hb]
    exact cameBefore_new (h.mem_keys.mp ha) hlog

theorem Records.insert : (f.insert name value).Records (log ++ [(name, value)]) := by
  have hd : (f.insert name value).entries.keys.Nodup := Keyed.nodup_keys_set h.nodup name value
  have hg := h.get?_insert name value
  exact ⟨hd, h.ordered_insert name value, hg, size_eq_card hd (mem_keys_iff hg)⟩

end Insert

theorem Records.build : ∀ (steps : List Step) {f : SubfieldFilter} {log : Keyed SubfieldValue},
    f.Records log → (build steps f).Records (log ++ steps.map Step.entry)
  | [], f, log, h => by simpa using h
  | step :: steps, f, log, h => by
    have hs := h.insert step.entry.1 step.entry.2
    rw [← Step.apply_eq] at hs
    simpa using Records.build steps hs

/-- The fields of an option map are put in one by one. -/
theorem ofFields_eq_build (fields : Keyed Json) :
    ofFields fields = build ((fieldEntries fields).map fun e => .insert e.1 e.2) empty := by
  simp only [build, fieldEntries, List.map_map, List.foldl_map]
  rfl

theorem records_ofFields (fields : Keyed Json) :
    (ofFields fields).Records (fieldEntries fields) := by
  have h := records_empty.build ((fieldEntries fields).map fun e => .insert e.1 e.2)
  rw [← ofFields_eq_build] at h
  simpa [Function.comp_def, Step.entry] using h

theorem entries_build (steps : List Step) (f : SubfieldFilter) :
    (build steps f).entries = Keyed.setAll (steps.map Step.entry) f.entries := by
  induction steps generalizing f with
  | nil => rfl
  | cons step steps ih =>
    rw [build_cons, ih, Step.apply_eq]
    rfl

theorem entries_ofFields {fields : Keyed Json} (h : fields.keys.Nodup) :
    (ofFields fields).entries = fieldEntries fields := by
  have hk : (fieldEntries fields).keys = fields.keys := by
    simp [fieldEntries, Keyed.keys, Function.comp_def]
  rw [ofFields_eq_build, entries_build, List.map_map]
  have hn : (Keyed.keys empty.entries ++ (fieldEntries fields).keys).Nodup := by
    rwa [hk]
  simpa [Function.comp_def, Step.entry] using Keyed.setAll_of_nodup hn

/-- A name stands but once, so it is found in the place where it is known to stand. -/
theorem Records.entries_apply (h : f.Records log) {step : Step} {before after : Keyed SubfieldValue}
    {old : SubfieldValue} (hf : f.entries = before ++ (step.entry.1, old) :: after) :
    (step.apply f).entries = before ++ step.entry :: after := by
  have hd := h.nodup
  rw [hf, Keyed.keys_append, List.nodup_append] at hd
  have hb : step.entry.1 ∉ Keyed.keys before := fun hb => hd.2.2 _ hb _ (by simp) rfl
  rw [Step.apply_eq, SubfieldFilter.insert, hf]
  exact Keyed.set_append_cons hb _ _ _

theorem entries_apply_of_not_mem {step : Step} (hn : step.entry.1 ∉ f.entries.keys) :
    (step.apply f).entries = f.entries ++ [step.entry] := by
  rw [Step.apply_eq, insert]
  exact Keyed.set_of_not_mem hn _

/-- A filter that is built from nothing or from an option map has each name once, in the order in
which the names first came, with the value that came last. A step for a name that is there changes
its value where it stands and nothing else; a new name goes behind the others. An option map makes
one entry of each key, in its order. -/
theorem filter_keeps_insertion_order :
    (∀ steps : List Step, (build steps empty).Records (steps.map Step.entry)) ∧
    (∀ (fields : Keyed Json) (steps : List Step),
      (build steps (ofFields fields)).Records (fieldEntries fields ++ steps.map Step.entry)) ∧
    (∀ (f : SubfieldFilter) (log : Keyed SubfieldValue), f.Records log → ∀ step : Step,
      (∀ before old after, f.entries = before ++ (step.entry.1, old) :: after →
        (step.apply f).entries = before ++ step.entry :: after) ∧
      (step.entry.1 ∉ f.entries.keys → (step.apply f).entries = f.entries ++ [step.entry])) ∧
    ∀ fields : Keyed Json, fields.keys.Nodup →
      (ofFields fields).entries = fieldEntries fields := by
  refine ⟨?_, ?_, ?_, ?_⟩
  · intro steps
    exact records_empty.build steps
  · intro fields steps
    exact (records_ofFields fields).build steps
  · intro f log h step
    exact ⟨fun before old after hf => h.entries_apply hf, entries_apply_of_not_mem⟩
  · intro fields h
    exact entries_ofFields h

/-- The city of an option map that is put in once more stays in front of the state, and a zip goes
behind it. -/
theorem filter_keeps_insertion_order_city :
    let fields : Keyed Json := [("city", .string "Chicago"), ("state", .string "IL")]
    let evanston : Step := .insert "city" (.scalar "Evanston")
    let zip : Step := .including "zip" (.list ["60201", "60202"])
    let f := build [evanston] (ofFields fields)
    (ofFields fields).entries = [("city", .scalar "Chicago"), ("state", .scalar "IL")] ∧
      f.Records (fieldEntries fields ++ [evanston.entry]) ∧
      f.entries = [("city", .scalar "Evanston"), ("state", .scalar "IL")] ∧
      (zip.apply f).entries = f.entries ++ [zip.entry] := by
  intro fields evanston zip f
  obtain ⟨-, hbuilt, hstep, hfields⟩ := filter_keeps_insertion_order
  have hmap : (ofFields fields).entries = fieldEntries fields := hfields fields (by decide)
  have hcity := (hstep _ _ (hbuilt fields []) evanston).1 [] (.scalar "Chicago")
    [("state", .scalar "IL")] hmap
  have hf := hbuilt fields [evanston]
  refine ⟨hmap, hf, hcity, (hstep f _ hf zip).2 ?_⟩
  rw [show f.entries = _ from hcity]
  decide

end SubfieldFilter

end Proximity
