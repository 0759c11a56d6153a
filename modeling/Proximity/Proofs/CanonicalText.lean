import Proximity.Geocode.Geocoder
import Proximity.Proofs.JsonText

/-!
# What a canonical text keeps of a query

A gazetteer reads nothing of a query but its folded address. The canonical text of a query has
all of that: a text is folded there as well, and the fields keep what stands under each key while
the keys are brought in order, for the sort is stable. So queries with one canonical text are
answered alike (`answer_eq_of_canonical_eq`).
-/

namespace Proximity

namespace Keyed

variable {α : Type}

theorem get?_eq_head? (key : String) (m : Keyed α) :
    get? key m = ((m.filter fun e => e.1 = key).head?).map Prod.snd := by
  induction m with
  | nil => rfl
  | cons e m ih =>
    obtain ⟨k, v⟩ := e
    by_cases h : k = key
    · simp [get?, h]
    · simp [get?, h, ih]

theorem fst_le_trans (a b c : String × α) (hab : decide (a.1 ≤ b.1) = true)
    (hbc : decide (b.1 ≤ c.1) = true) : decide (a.1 ≤ c.1) = true := by
  simp only [decide_eq_true_eq] at hab hbc ⊢
  exact String.le_trans hab hbc

theorem fst_le_total (a b : String × α) : (decide (a.1 ≤ b.1) || decide (b.1 ≤ a.1)) = true := by
  simpa using String.le_total a.1 b.1

/-- The entries under one key stay in their order when the keys are sorted. -/
theorem filter_mergeSort (key : String) (m : Keyed α) :
    (m.mergeSort fun a b => a.1 ≤ b.1).filter (fun e => e.1 = key) =
      m.filter fun e => e.1 = key := by
  have hp : (m.filter fun e => e.1 = key).Pairwise fun a b => decide (a.1 ≤ b.1) = true := by
    refine List.pairwise_of_forall_mem_list ?_
    intro a ha b hb
    simp only [List.mem_filter, decide_eq_true_eq] at ha hb ⊢
    simp only [ha.2, hb.2, String.le_refl]
  have hs : (m.filter fun e => e.1 = key).Sublist
      ((m.mergeSort fun a b => a.1 ≤ b.1).filter fun e => e.1 = key) := by
    have h : (m.filter fun e => e.1 = key).Sublist (m.mergeSort fun a b => a.1 ≤ b.1) :=
      List.sublist_mergeSort fst_le_trans fst_le_total hp List.filter_sublist
    simpa using h.filter fun e => decide (e.1 = key)
  have hl := ((List.mergeSort_perm m fun a b => a.1 ≤ b.1).filter fun e => e.1 = key).length_eq
  exact (hs.eq_of_length hl.symm).symm

theorem get?_mergeSort (key : String) (m : Keyed α) :
    get? key (m.mergeSort fun a b => a.1 ≤ b.1) = get? key m := by
  rw [get?_eq_head?, filter_mergeSort, ← get?_eq_head?]

end Keyed

namespace Json

theorem get?_sortedFields (key : String) (fields : List (String × Json)) :
    Keyed.get? key (sortedFields fields) = (Keyed.get? key fields).map sorted := by
  induction fields with
  | nil => rfl
  | cons e fields ih =>
    obtain ⟨k, v⟩ := e
    by_cases h : k = key
    · simp [sortedFields, Keyed.get?, h]
    · simp [sortedFields, Keyed.get?, h, ih]

theorem string?_sorted (v : Json) : v.sorted.string? = v.string? := by
  cases v <;> rfl

theorem quoted?_chars (v : Json) : quoted? v.chars = v.string?.map fun s => (s, []) := by
  rcases chars_cases v with h | ⟨s, rfl⟩ | ⟨items, rfl⟩ | ⟨fields, rfl⟩
  · have hs : v.string? = none := by
      cases v with
      | string s => exact absurd (h '"' List.mem_cons_self) (by decide)
      | _ => rfl
    obtain ⟨c, cs, hc⟩ := List.exists_cons_of_ne_nil (chars_ne_nil v)
    have hq : c ≠ '"' := by
      rintro rfl
      exact absurd (h '"' (by rw [hc]; exact List.mem_cons_self)) (by decide)
    rw [hc, hs]
    simp [quoted?, hq]
  · have h := quoted?_quote s []
    rwa [List.append_nil] at h
  · rfl
  · rfl

theorem string?_eq_of_chars_eq {v v' : Json} (h : v.chars = v'.chars) : v.string? = v'.string? := by
  have hq := quoted?_chars v
  rw [h, quoted?_chars] at hq
  exact (Option.map_injective (fun _ _ he => (Prod.mk.inj he).1) hq).symm

/-- Fields that are written alike hold the same text under each key. -/
theorem string?_get?_of_fieldChars_eq (key : String) :
    ∀ {fs fs' : List (String × Json)}, fieldChars fs = fieldChars fs' →
      (Keyed.get? key fs).bind string? = (Keyed.get? key fs').bind string?
  | [], [], _ => rfl
  | [], (_, _) :: _, h => by simp [fieldChars] at h
  | (_, _) :: _, [], h => by simp [fieldChars] at h
  | (k, v) :: fs, (k', v') :: fs', h => by
    rw [fieldChars, fieldChars, List.cons.injEq] at h
    obtain ⟨rfl, hv⟩ := quote_append_inj h.1
    have ih := string?_get?_of_fieldChars_eq key h.2
    have hs := string?_eq_of_chars_eq (List.cons.inj hv).2
    by_cases hk : k = key
    · simpa [Keyed.get?, hk] using hs
    · simpa [Keyed.get?, hk] using ih

theorem string?_get?_sorted (key : String) (fields : Keyed Json) :
    (Keyed.get? key ((sortedFields fields).mergeSort fun a b => a.1 ≤ b.1)).bind string? =
      (Keyed.get? key fields).bind string? := by
  rw [Keyed.get?_mergeSort, get?_sortedFields, Option.bind_map]
  exact congrArg _ (funext string?_sorted)

end Json

namespace GeocodeQuery

theorem canonical_text_ne_structured (t : String) (fields : Keyed Json) :
    (text t).canonical ≠ (structured fields).canonical := by
  intro h
  have h' := congrArg (fun s => s.toList.head?) h
  simp [canonical, String.toList_append] at h'

/-- The canonical text tells the folded address. -/
theorem fold_address_eq_of_canonical_eq {q q' : GeocodeQuery} (h : q.canonical = q'.canonical) :
    Text.fold q.address = Text.fold q'.address := by
  rcases q with t | fields <;> rcases q' with t' | fields'
  · exact (String.append_right_inj _).mp h
  · exact absurd h (canonical_text_ne_structured t fields')
  · exact absurd h.symm (canonical_text_ne_structured t' fields)
  · have hc := String.ofList_injective ((String.append_right_inj _).mp h)
    have hf := (Json.fieldChars_append_inj _ _ (List.cons.inj hc).2).1
    have hs := Json.string?_get?_of_fieldChars_eq "address" hf
    rw [Json.string?_get?_sorted, Json.string?_get?_sorted] at hs
    rw [address, address, hs]

end GeocodeQuery

theorem Gazetteer.answer_eq_of_canonical_eq (g : Gazetteer) {q q' : GeocodeQuery}
    (h : q.canonical = q'.canonical) : g.answer q = g.answer q' := by
  rw [answer, answer, GeocodeQuery.fold_address_eq_of_canonical_eq h]

end Proximity
