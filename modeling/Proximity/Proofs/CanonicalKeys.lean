import Mathlib.Data.List.Nodup
import Mathlib.Data.List.Perm.Basic
import Proximity.Json.Alike
import Proximity.Proofs.CanonicalText

/-!
# Which queries share a key

The canonical text of a query holds no more and no less than the query up to the order of its
keys. A text tells the kind of value that it is of (`kindOf_chars`), and the kinds are settled one
by one. For objects the fields are looked at as pairs of a key and the text of its value: these
pairs are sorted as the fields are, and a sorted list without equal keys is settled by what is in
it (`eq_of_perm_mergeSort`). So two objects have one text when the pairs of the one are those of
the other in some order (`chars_sorted_eq_iff`).
-/

namespace Proximity

namespace Json

inductive Kind where
  | null
  | bool
  | number
  | string
  | array
  | object
deriving DecidableEq

def kind : Json → Kind
  | .null => .null
  | .bool _ => .bool
  | .number _ => .number
  | .string _ => .string
  | .array _ => .array
  | .object _ => .object

/-- The kind of value that is written so: only numbers have digits outside quotes and brackets. -/
def kindOf (cs : List Char) : Kind :=
  if cs.head? = some '"' then .string
  else if cs.head? = some '[' then .array
  else if cs.head? = some '\x7b' then .object
  else if cs.any Char.isDigit then .number
  else if cs = ['n', 'u', 'l', 'l'] then .null
  else .bool

theorem text_float (x : Float) (hx : x.isFinite = true) :
    (Number.float x hx).text = (Decimal.shortest .even x).write numberStyle := by
  rw [Number.text, Decimal.writeFloat, Sql.isNaN_of_isFinite hx, if_neg Bool.false_ne_true,
    if_pos hx]

theorem exists_isDigit_number (n : Number) : ∃ c ∈ n.text.toList, c.isDigit = true := by
  rcases n with n | ⟨x, hx⟩
  · exact Decimal.exists_isDigit_integer n
  · rw [text_float]
    exact Decimal.exists_isDigit_write numberStyle _

theorem kindOf_chars (v : Json) : kindOf v.chars = v.kind := by
  cases v with
  | null => rfl
  | bool b => cases b <;> rfl
  | number n =>
    have hh : ∀ c, Decimal.inNumber c = false → n.text.toList.head? ≠ some c := by
      intro c hc h
      rw [inNumber_of_mem_number n c (List.mem_of_mem_head? h)] at hc
      cases hc
    have hd : n.text.toList.any Char.isDigit = true := List.any_eq_true.mpr (exists_isDigit_number n)
    rw [chars, kindOf, if_neg (hh _ rfl), if_neg (hh _ rfl), if_neg (hh _ rfl), if_pos hd]
    rfl
  | string s => rfl
  | array items => rfl
  | object fields => rfl

theorem kind_sorted (v : Json) : v.sorted.kind = v.kind := by
  cases v <;> rfl

theorem Alike.kind_eq {v v' : Json} (h : Alike v v') : v.kind = v'.kind := by
  cases v <;> cases v' <;> first | rfl | exact h.elim

theorem chars_sorted_eq_iff_of_kind_ne {v v' : Json} (h : v.kind ≠ v'.kind) :
    v.sorted.chars = v'.sorted.chars ↔ Alike v v' := by
  refine iff_of_false ?_ fun ha => h ha.kind_eq
  intro he
  rw [← kind_sorted v, ← kind_sorted v', ← kindOf_chars, ← kindOf_chars, he] at h
  exact h rfl

theorem text_int_ne_text_float (n : Int) (x : Float) (hx : x.isFinite = true) :
    (Number.int n).text ≠ (Number.float x hx).text := by
  intro h
  obtain ⟨hp, he⟩ := Decimal.not_mem_integer n
  have hf := Decimal.exists_point_write (rfl : numberStyle.pointZero = true)
    (Decimal.shortest .even x)
  rw [← text_float x hx, ← h] at hf
  exact hf.elim hp he

/-- The fields with the sorted texts of their values. -/
def fieldTexts (fields : List (String × Json)) : Keyed (List Char) :=
  fields.map fun e => (e.1, e.2.sorted.chars)

theorem sortedFields_eq (fields : List (String × Json)) :
    sortedFields fields = fields.map fun e => (e.1, e.2.sorted) := by
  induction fields with
  | nil => rfl
  | cons e fields ih => rw [sortedFields, ih, List.map_cons]

theorem keys_sortedFields (fields : List (String × Json)) :
    Keyed.keys (sortedFields fields) = Keyed.keys fields := by
  simp [sortedFields_eq, Keyed.keys]

theorem fieldChars_eq (fields : List (String × Json)) :
    fieldChars fields = fields.map fun e => quote e.1 ++ ':' :: e.2.chars := by
  induction fields with
  | nil => rfl
  | cons e fields ih => rw [fieldChars, ih, List.map_cons]

theorem keys_fieldTexts (fields : List (String × Json)) :
    Keyed.keys (fieldTexts fields) = Keyed.keys fields := by
  simp [Keyed.keys, fieldTexts]

theorem fieldChars_mergeSort (fields : List (String × Json)) :
    fieldChars ((sortedFields fields).mergeSort fun a b => a.1 ≤ b.1) =
      ((fieldTexts fields).mergeSort fun a b => a.1 ≤ b.1).map fun e => quote e.1 ++ ':' :: e.2 := by
  have h := List.map_mergeSort (l := sortedFields fields) (r := fun a b => decide (a.1 ≤ b.1))
    (s := fun a b : String × List Char => decide (a.1 ≤ b.1)) (f := fun e => (e.1, e.2.chars))
    fun _ _ _ _ => rfl
  have ht : (sortedFields fields).map (fun e => (e.1, e.2.chars)) = fieldTexts fields := by
    rw [sortedFields_eq, fieldTexts, List.map_map]
    rfl
  rw [ht] at h
  rw [fieldChars_eq, ← h, List.map_map]
  rfl

theorem chars_object_sorted_eq_iff (fields fields' : List (String × Json)) :
    (Json.object fields).sorted.chars = (Json.object fields').sorted.chars ↔
      (fieldTexts fields).mergeSort (fun a b => a.1 ≤ b.1) =
        (fieldTexts fields').mergeSort fun a b => a.1 ≤ b.1 := by
  have hinj : Function.Injective fun e : String × List Char => quote e.1 ++ ':' :: e.2 := by
    intro e e' h
    obtain ⟨hk, ht⟩ := quote_append_inj h
    exact Prod.ext hk (List.cons.inj ht).2
  rw [← (List.map_injective_iff.mpr hinj).eq_iff, ← fieldChars_mergeSort, ← fieldChars_mergeSort,
    sorted, sorted, chars, chars]
  constructor
  · exact fun h => (fieldChars_append_inj _ _ (List.cons.inj h).2).1
  · exact fun h => by rw [h]

/-- Without equal keys, what is in a list settles how it is sorted. -/
theorem eq_of_perm_mergeSort {α : Type} {m m' : Keyed α} (hn : (Keyed.keys m).Nodup)
    (h : m.Perm m') :
    m.mergeSort (fun a b => a.1 ≤ b.1) = m'.mergeSort fun a b => a.1 ≤ b.1 := by
  have hs := List.pairwise_mergeSort Keyed.fst_le_trans (Keyed.fst_le_total (α := α))
  refine List.Perm.eq_of_pairwise ?_ (hs m) (hs m') ?_
  · intro a b ha hb hab hba
    simp only [decide_eq_true_eq] at hab hba
    exact List.inj_on_of_nodup_map hn (List.mem_mergeSort.mp ha)
      (h.mem_iff.mpr (List.mem_mergeSort.mp hb)) (String.le_antisymm hab hba)
  · exact (List.mergeSort_perm _ _).trans (h.trans (List.mergeSort_perm _ _).symm)

theorem mergeSort_eq_iff_perm {α : Type} {m m' : Keyed α} (hn : (Keyed.keys m).Nodup) :
    (m.mergeSort (fun a b => a.1 ≤ b.1) = m'.mergeSort fun a b => a.1 ≤ b.1) ↔ m.Perm m' := by
  refine ⟨fun h => ?_, eq_of_perm_mergeSort hn⟩
  have hp := List.mergeSort_perm m fun a b => decide (a.1 ≤ b.1)
  rw [h] at hp
  exact hp.symm.trans (List.mergeSort_perm _ _)

/-- The images of two lists are the same up to order when the images of one are those of the other
in some order. -/
theorem map_perm_map_iff {α β : Type} (f : α → β) (l l' : List α) :
    (l.map f).Perm (l'.map f) ↔ ∃ m : List α, m.Perm l' ∧ l.map f = m.map f := by
  constructor
  · intro h
    have hl : List.Forall₂ (fun y x => y = f x) (l'.map f) l' := by
      rw [List.forall₂_map_left_iff, List.forall₂_same]
      exact fun _ _ => rfl
    obtain ⟨m, hm, hp⟩ := List.perm_comp_forall₂ h hl
    refine ⟨m, hp, ?_⟩
    rwa [← List.forall₂_eq_eq_eq, List.forall₂_map_right_iff]
  · rintro ⟨m, hp, hm⟩
    rw [hm]
    exact hp.map f

mutual

/-- Two values have one sorted text exactly when they are alike. -/
theorem chars_sorted_eq_iff : ∀ (v v' : Json), v.DistinctKeys → v'.DistinctKeys →
    (v.sorted.chars = v'.sorted.chars ↔ Alike v v')
  | .null, v', _, _ => by
    cases v' with
    | null => exact iff_of_true rfl trivial
    | _ => exact chars_sorted_eq_iff_of_kind_ne (by simp [kind])
  | .bool b, v', _, _ => by
    cases v' with
    | bool b' => cases b <;> cases b' <;> simp [sorted, chars, Alike]
    | _ => exact chars_sorted_eq_iff_of_kind_ne (by simp [kind])
  | .number n, v', _, _ => by
    cases v' with
    | number n' => exact String.toList_inj
    | _ => exact chars_sorted_eq_iff_of_kind_ne (by simp [kind])
  | .string s, v', _, _ => by
    cases v' with
    | string s' =>
      refine ⟨fun h => ?_, fun h => congrArg quote h⟩
      -- nothing stands behind either string
      exact (quote_append_inj (congrArg (· ++ []) h)).1
    | _ => exact chars_sorted_eq_iff_of_kind_ne (by simp [kind])
  | .array items, v', hd, hd' => by
    cases v' with
    | array items' =>
      rw [Alike, ← itemChars_sortedItems_eq_iff items items' (distinctKeys_array_iff.mp hd)
        (distinctKeys_array_iff.mp hd'), sorted, sorted, chars, chars]
      constructor
      · exact fun h => (itemChars_append_inj _ _ (List.cons.inj h).2).1
      · exact fun h => by rw [h]
    | _ => exact chars_sorted_eq_iff_of_kind_ne (by simp [kind])
  | .object fields, v', hd, hd' => by
    cases v' with
    | object fields' =>
      obtain ⟨hn, he⟩ := distinctKeys_object_iff.mp hd
      obtain ⟨-, he'⟩ := distinctKeys_object_iff.mp hd'
      -- the pairs of the one are those of the other in some order, which the fields can take too
      rw [Alike, chars_object_sorted_eq_iff, mergeSort_eq_iff_perm (by rwa [keys_fieldTexts]),
        fieldTexts, fieldTexts, map_perm_map_iff]
      refine exists_congr fun inOrder => and_congr_right fun hp => ?_
      exact fieldTexts_eq_iff fields inOrder he fun e hm => he' e (hp.mem_iff.mp hm)
    | _ => exact chars_sorted_eq_iff_of_kind_ne (by simp [kind])

theorem itemChars_sortedItems_eq_iff : ∀ vs vs' : List Json, (∀ v ∈ vs, v.DistinctKeys) →
    (∀ v ∈ vs', v.DistinctKeys) →
    (itemChars (sortedItems vs) = itemChars (sortedItems vs') ↔ AlikeItems vs vs')
  | [], [], _, _ => iff_of_true rfl trivial
  | [], _ :: _, _, _ => by simp [sortedItems, itemChars, AlikeItems]
  | _ :: _, [], _, _ => by simp [sortedItems, itemChars, AlikeItems]
  | v :: vs, v' :: vs', hd, hd' => by
    rw [List.forall_mem_cons] at hd hd'
    rw [sortedItems, sortedItems, itemChars, itemChars, List.cons.injEq, AlikeItems,
      chars_sorted_eq_iff v v' hd.1 hd'.1, itemChars_sortedItems_eq_iff vs vs' hd.2 hd'.2]

theorem fieldTexts_eq_iff : ∀ fs fs' : List (String × Json), (∀ e ∈ fs, e.2.DistinctKeys) →
    (∀ e ∈ fs', e.2.DistinctKeys) → (fieldTexts fs = fieldTexts fs' ↔ AlikeFields fs fs')
  | [], [], _, _ => iff_of_true rfl trivial
  | [], _ :: _, _, _ => by simp [fieldTexts, AlikeFields]
  | _ :: _, [], _, _ => by simp [fieldTexts, AlikeFields]
  | (k, v) :: fs, (k', v') :: fs', hd, hd' => by
    rw [List.forall_mem_cons] at hd hd'
    have ih := fieldTexts_eq_iff fs fs' hd.2 hd'.2
    rw [fieldTexts, fieldTexts] at ih ⊢
    rw [List.map_cons, List.map_cons, List.cons.injEq, Prod.mk.injEq, AlikeFields, and_assoc,
      chars_sorted_eq_iff v v' hd.1 hd'.1, ih]

end

theorem sortedItems_eq (items : List Json) : sortedItems items = items.map sorted := by
  induction items with
  | nil => rfl
  | cons v vs ih => rw [sortedItems, ih, List.map_cons]

theorem Reordered.sorted_eq {v v' : Json} (h : Reordered v v') (hd : v.DistinctKeys) :
    v.sorted = v'.sorted := by
  induction h with
  | refl v => rfl
  | fields h =>
    obtain ⟨hn, -⟩ := distinctKeys_object_iff.mp hd
    rw [← keys_sortedFields] at hn
    have hp := h.map fun e => (e.1, e.2.sorted)
    rw [← sortedFields_eq, ← sortedFields_eq] at hp
    rw [sorted, sorted, eq_of_perm_mergeSort hn hp]
  | item before behind h ih =>
    rw [distinctKeys_array_iff, List.forall_mem_append, List.forall_mem_cons] at hd
    rw [sorted, sorted, sortedItems_eq, sortedItems_eq, List.map_append, List.map_append,
      List.map_cons, List.map_cons, ih hd.2.1]
  | value before key behind h ih =>
    rw [distinctKeys_object_iff, List.forall_mem_append, List.forall_mem_cons] at hd
    rw [sorted, sorted, sortedFields_eq, sortedFields_eq, List.map_append, List.map_append,
      List.map_cons, List.map_cons, ih hd.2.2.1]
  | trans h h' ih ih' => rw [ih hd, ih' (h.distinctKeys hd)]

end Json

namespace GeocodeQuery

/-- Whether two queries are the same: texts but for case and the blanks around them, fields but
for the order of keys. -/
def Alike : GeocodeQuery → GeocodeQuery → Prop
  | text t, text t' => Text.lower (Text.trim t) = Text.lower (Text.trim t')
  | structured fields, structured fields' => (Json.object fields).Alike (.object fields')
  | _, _ => False

/-- Two queries by fields, with other orders of keys in some of the objects. -/
def Reordered : GeocodeQuery → GeocodeQuery → Prop
  | structured fields, structured fields' => (Json.object fields).Reordered (.object fields')
  | _, _ => False

/-- No object in the fields has a key twice. -/
def DistinctKeys : GeocodeQuery → Prop
  | text _ => True
  | structured fields => (Json.object fields).DistinctKeys

theorem canonical_text_eq_iff (t t' : String) :
    (text t).canonical = (text t').canonical ↔ Text.lower (Text.trim t) = Text.lower (Text.trim t') :=
  String.append_right_inj _

theorem canonical_structured_eq_iff {fields fields' : Keyed Json}
    (h : (Json.object fields).DistinctKeys) (h' : (Json.object fields').DistinctKeys) :
    (structured fields).canonical = (structured fields').canonical ↔
      (Json.object fields).Alike (.object fields') := by
  rw [← Json.chars_sorted_eq_iff _ _ h h']
  exact (String.append_right_inj _).trans ⟨fun e => String.ofList_injective e, congrArg _⟩

theorem canonical_eq_iff {q q' : GeocodeQuery} (h : q.DistinctKeys) (h' : q'.DistinctKeys) :
    q.canonical = q'.canonical ↔ q.Alike q' := by
  rcases q with t | fields <;> rcases q' with t' | fields'
  · exact canonical_text_eq_iff t t'
  · exact iff_of_false (canonical_text_ne_structured t fields') id
  · exact iff_of_false (canonical_text_ne_structured t' fields).symm id
  · exact canonical_structured_eq_iff h h'

theorem Reordered.canonical_eq {q q' : GeocodeQuery} (h : q.Reordered q') (hd : q.DistinctKeys) :
    q.canonical = q'.canonical := by
  rcases q with t | fields <;> rcases q' with t' | fields'
  · exact h.elim
  · exact h.elim
  · exact h.elim
  · rw [canonical, canonical, Json.Reordered.sorted_eq h hd]

/-- What is digested for two queries is the same exactly when the queries are alike, an integer
being like no number with a point, and the order of keys does not show in the key of a query. -/
theorem digested_eq_iff_alike {q q' : GeocodeQuery} (h : q.DistinctKeys) (h' : q'.DistinctKeys) :
    (q.canonical.toUTF8 = q'.canonical.toUTF8 ↔ q.Alike q') ∧
      (q.Reordered q' → q.cacheKey = q'.cacheKey) ∧
      ∀ (n : Int) (x : Float) (hx : x.isFinite = true),
        ¬ (Json.number (.int n)).Alike (.number (.float x hx)) := by
  refine ⟨String.toByteArray_inj.trans (canonical_eq_iff h h'), ?_, Json.text_int_ne_text_float⟩
  intro hr
  rw [cacheKey, cacheKey, hr.canonical_eq h]

/-- A city and the corner of its bounds. -/
def springfield : GeocodeQuery :=
  structured [("address", .string "Springfield"),
    ("bounds", .array [.object [("lat", .number (.int 39)), ("lon", .number (.int (-89)))]])]

/-- The same fields, with both objects in another order. -/
def springfieldReordered : GeocodeQuery :=
  structured [
    ("bounds", .array [.object [("lon", .number (.int (-89))), ("lat", .number (.int 39))]]),
    ("address", .string "Springfield")]

theorem digested_eq_iff_alike_springfield :
    springfield.DistinctKeys ∧ springfieldReordered.DistinctKeys ∧
      springfield.Reordered springfieldReordered ∧
      springfield.Alike springfieldReordered ∧
      springfield.canonical.toUTF8 = springfieldReordered.canonical.toUTF8 ∧
      springfield.cacheKey = springfieldReordered.cacheKey := by
  have hd : springfield.DistinctKeys := by
    simp [springfield, DistinctKeys, Json.distinctKeys_object_iff, Json.distinctKeys_array_iff,
      Json.DistinctKeys.string, Json.DistinctKeys.number]
  have hr : springfield.Reordered springfieldReordered :=
    .trans (.value [_] "bounds" [] (.item [] [] (.fields (.swap _ _ _)))) (.fields (.swap _ _ _))
  have hd' : springfieldReordered.DistinctKeys := Json.Reordered.distinctKeys hr hd
  obtain ⟨heq, hkey, -⟩ := digested_eq_iff_alike hd hd'
  have ha : springfield.Alike springfieldReordered := by
    refine ⟨_, .swap _ _ _, rfl, rfl, rfl, ⟨⟨_, .swap _ _ _, ?_⟩, trivial⟩, trivial⟩
    exact ⟨rfl, rfl, rfl, rfl, trivial⟩
  exact ⟨hd, hd', hr, ha, heq.mpr ha, hkey hr⟩

end GeocodeQuery

end Proximity
