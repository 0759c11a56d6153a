/-!
# Values under keys

A list of values under text keys in the order in which the keys first came. Setting a key that is
there changes its value where it stands (`set_append_cons`); a new key goes behind the others
(`set_of_not_mem`). So a map built by `set` alone holds every key once (`nodup_keys_set`), and a
key's value is the one that was set last (`get?_set_self`, `get?_set_of_ne`). To erase a key leaves
the values under all others (`get?_erase_of_ne`).
-/

namespace Proximity

/-- Values under text keys, in order. -/
abbrev Keyed (α : Type) := List (String × α)

namespace Keyed

variable {α : Type}

/-- The keys in their order. -/
def keys (m : Keyed α) : List String :=
  m.map Prod.fst

/-- The first value under a key. -/
def get? (key : String) : Keyed α → Option α
  | [] => none
  | (k, v) :: m => if k = key then some v else get? key m

/-- The value under `key` replaced where it stands, or put behind the others. -/
def set (key : String) (value : α) : Keyed α → Keyed α
  | [] => [(key, value)]
  | (k, v) :: m => if k = key then (k, value) :: m else (k, v) :: set key value m

/-- The values under the other keys. -/
def erase (key : String) (m : Keyed α) : Keyed α :=
  m.filter fun e => e.1 != key

/-- The values of a list set one after the other. -/
def setAll (entries : List (String × α)) (m : Keyed α) : Keyed α :=
  entries.foldl (fun m (k, v) => set k v m) m

@[simp] theorem keys_nil : keys ([] : Keyed α) = [] := rfl

@[simp] theorem keys_cons (k : String) (v : α) (m : Keyed α) : keys ((k, v) :: m) = k :: keys m :=
  rfl

theorem keys_append (m m' : Keyed α) : keys (m ++ m') = keys m ++ keys m' :=
  List.map_append

theorem set_of_not_mem {key : String} {m : Keyed α} (h : key ∉ keys m) (value : α) :
    set key value m = m ++ [(key, value)] := by
  induction m with
  | nil => rfl
  | cons e m ih =>
    obtain ⟨k, v⟩ := e
    simp only [keys_cons, List.mem_cons, not_or] at h
    simp [set, Ne.symm h.1, ih h.2]

theorem keys_set_of_mem {key : String} {m : Keyed α} (h : key ∈ keys m) (value : α) :
    keys (set key value m) = keys m := by
  induction m with
  | nil => simp at h
  | cons e m ih =>
    obtain ⟨k, v⟩ := e
    by_cases hk : k = key
    · simp [set, hk]
    · simp only [keys_cons, List.mem_cons, Ne.symm hk, false_or] at h
      simp [set, hk, ih h]

theorem set_append_cons {key : String} {before : Keyed α} (h : key ∉ keys before) (old value : α)
    (after : Keyed α) :
    set key value (before ++ (key, old) :: after) = before ++ (key, value) :: after := by
  induction before with
  | nil => simp [set]
  | cons e before ih =>
    obtain ⟨k, v⟩ := e
    simp only [keys_cons, List.mem_cons, not_or] at h
    simp [set, Ne.symm h.1, ih h.2]

theorem nodup_keys_set {m : Keyed α} (h : (keys m).Nodup) (key : String) (value : α) :
    (keys (set key value m)).Nodup := by
  by_cases hk : key ∈ keys m
  · rwa [keys_set_of_mem hk]
  · rw [set_of_not_mem hk]
    simp only [keys, List.map_append, List.map_cons, List.map_nil]
    rw [List.nodup_append]
    refine ⟨h, by simp, ?_⟩
    intro a ha b hb
    simp only [List.mem_singleton] at hb
    rintro rfl
    exact hk (hb ▸ ha)

/-- New keys go behind the others in their order. -/
theorem setAll_of_nodup {entries : List (String × α)} {m : Keyed α}
    (h : (keys m ++ keys entries).Nodup) : setAll entries m = m ++ entries := by
  induction entries generalizing m with
  | nil => simp [setAll]
  | cons e entries ih =>
    obtain ⟨k, v⟩ := e
    have hk : k ∉ keys m := by
      intro hk
      exact (List.nodup_append.mp h).2.2 k hk k (by simp) rfl
    have hn : (keys (m ++ [(k, v)]) ++ keys entries).Nodup := by
      simpa [keys] using h
    calc setAll ((k, v) :: entries) m = setAll entries (set k v m) := rfl
      _ = setAll entries (m ++ [(k, v)]) := by rw [set_of_not_mem hk]
      _ = m ++ (k, v) :: entries := by simp [ih hn]

@[simp] theorem get?_set_self (key : String) (value : α) (m : Keyed α) :
    get? key (set key value m) = some value := by
  induction m with
  | nil => simp [set, get?]
  | cons e m ih =>
    obtain ⟨k, v⟩ := e
    by_cases hk : k = key <;> simp [set, get?, hk, ih]

theorem get?_set_of_ne {key other : String} (h : other ≠ key) (value : α) (m : Keyed α) :
    get? other (set key value m) = get? other m := by
  induction m with
  | nil => simp [set, get?, Ne.symm h]
  | cons e m ih =>
    obtain ⟨k, v⟩ := e
    by_cases hk : k = key
    · subst hk; simp [set, get?, Ne.symm h]
    · by_cases ho : k = other <;> simp [set, get?, hk, ho, ih, h]

theorem get?_eq_none_iff {key : String} {m : Keyed α} : get? key m = none ↔ key ∉ keys m := by
  induction m with
  | nil => simp [get?]
  | cons e m ih =>
    obtain ⟨k, v⟩ := e
    by_cases hk : k = key
    · simp [get?, hk]
    · simp [get?, hk, Ne.symm hk, ih]

@[simp] theorem get?_erase_self (key : String) (m : Keyed α) : get? key (erase key m) = none := by
  rw [get?_eq_none_iff]
  simp [erase, keys]

theorem get?_erase_of_ne {key other : String} (h : other ≠ key) (m : Keyed α) :
    get? other (erase key m) = get? other m := by
  induction m with
  | nil => rfl
  | cons e m ih =>
    obtain ⟨k, v⟩ := e
    rw [erase] at ih
    by_cases hk : k = key
    · subst hk; simp [erase, get?, ih, Ne.symm h]
    · by_cases ho : k = other
      · subst ho; simp [erase, get?, h]
      · simp [erase, get?, ih, hk, ho]

theorem set_ne_nil (key : String) (value : α) (m : Keyed α) : set key value m ≠ [] := by
  rcases m with _ | ⟨⟨k, v⟩, m⟩
  · simp [set]
  · by_cases hk : k = key <;> simp [set, hk]

theorem mem_of_get? {key : String} {m : Keyed α} {v : α}
    (h : get? key m = some v) : (key, v) ∈ m := by
  induction m with
  | nil => cases h
  | cons e m ih =>
    obtain ⟨k, w⟩ := e
    by_cases hk : k = key
    · simp only [get?, hk, if_true, Option.some.injEq] at h
      rw [hk, h]
      exact List.mem_cons_self
    · simp only [get?, hk, if_false] at h
      exact List.mem_cons_of_mem _ (ih h)

theorem get?_of_mem {m : Keyed α} (h : (keys m).Nodup) {e : String × α} (he : e ∈ m) :
    get? e.1 m = some e.2 := by
  induction m with
  | nil => cases he
  | cons a m ih =>
    obtain ⟨k, w⟩ := a
    rw [keys_cons, List.nodup_cons] at h
    rcases List.mem_cons.mp he with rfl | hm
    · simp [get?]
    · have hk : k ≠ e.1 := fun hk => h.1 (hk ▸ List.mem_map_of_mem hm)
      rw [get?, if_neg hk]
      exact ih h.2 hm

end Keyed

end Proximity
