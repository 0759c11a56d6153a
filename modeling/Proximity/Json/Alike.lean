import Mathlib.Data.List.Basic
import Proximity.Json.Printer

/-!
# Values that are the same but for the order of keys

Two values are alike when one becomes the other by bringing the fields of its objects, at whatever
depth, into another order. Numbers are alike when they are written alike, so `1` is not like `1.0`;
the items of an array keep their places, and values of two kinds are never alike.

A value may also be reordered one object at a time (`Reordered`). Neither relation writes anything
or sorts anything.
-/

namespace Proximity

namespace Json

mutual

/-- Whether two values are the same up to the order of the keys in every object. -/
def Alike : Json → Json → Prop
  | .null, .null => True
  | .bool b, .bool b' => b = b'
  | .number n, .number n' => n.text = n'.text
  | .string s, .string s' => s = s'
  | .array items, .array items' => AlikeItems items items'
  | .object fields, .object fields' =>
    ∃ inOrder : List (String × Json), inOrder.Perm fields' ∧ AlikeFields fields inOrder
  | _, _ => False

/-- Items that are alike one by one. -/
def AlikeItems : List Json → List Json → Prop
  | [], [] => True
  | v :: vs, v' :: vs' => Alike v v' ∧ AlikeItems vs vs'
  | _, _ => False

/-- Fields that have the same keys and are alike one by one. -/
def AlikeFields : List (String × Json) → List (String × Json) → Prop
  | [], [] => True
  | (k, v) :: fields, (k', v') :: fields' => k = k' ∧ Alike v v' ∧ AlikeFields fields fields'
  | _, _ => False

end

/-- Some of the objects in a value with their fields in another order. -/
inductive Reordered : Json → Json → Prop where
  | refl (v : Json) : Reordered v v
  | fields {fields fields' : List (String × Json)} (h : fields.Perm fields') :
      Reordered (.object fields) (.object fields')
  | item (before : List Json) {v v' : Json} (behind : List Json) (h : Reordered v v') :
      Reordered (.array (before ++ v :: behind)) (.array (before ++ v' :: behind))
  | value (before : List (String × Json)) (key : String) {v v' : Json}
      (behind : List (String × Json)) (h : Reordered v v') :
      Reordered (.object (before ++ (key, v) :: behind)) (.object (before ++ (key, v') :: behind))
  | trans {v v' v'' : Json} (h : Reordered v v') (h' : Reordered v' v'') : Reordered v v''

/-- No object in the value has a key twice. -/
inductive DistinctKeys : Json → Prop where
  | null : DistinctKeys .null
  | bool (b : Bool) : DistinctKeys (.bool b)
  | number (n : Number) : DistinctKeys (.number n)
  | string (s : String) : DistinctKeys (.string s)
  | array {items : List Json} (each : ∀ v ∈ items, DistinctKeys v) : DistinctKeys (.array items)
  | object {fields : List (String × Json)} (nodup : (Keyed.keys fields).Nodup)
      (each : ∀ e ∈ fields, DistinctKeys e.2) : DistinctKeys (.object fields)

theorem distinctKeys_array_iff {items : List Json} :
    DistinctKeys (.array items) ↔ ∀ v ∈ items, DistinctKeys v :=
  ⟨fun | .array each => each, .array⟩

theorem distinctKeys_object_iff {fields : List (String × Json)} :
    DistinctKeys (.object fields) ↔
      (Keyed.keys fields).Nodup ∧ ∀ e ∈ fields, DistinctKeys e.2 :=
  ⟨fun | .object nodup each => ⟨nodup, each⟩, fun h => .object h.1 h.2⟩

/-- Reordering brings no key into an object that holds it already. -/
theorem Reordered.distinctKeys {v v' : Json} (h : Reordered v v') (hd : v.DistinctKeys) :
    v'.DistinctKeys := by
  induction h with
  | refl v => exact hd
  | fields h =>
    obtain ⟨hn, he⟩ := distinctKeys_object_iff.mp hd
    exact .object ((h.map Prod.fst).nodup_iff.mp hn) fun e hm => he e (h.mem_iff.mpr hm)
  | item before behind h ih =>
    rw [distinctKeys_array_iff, List.forall_mem_append, List.forall_mem_cons] at hd ⊢
    exact ⟨hd.1, ih hd.2.1, hd.2.2⟩
  | value before key behind h ih =>
    rw [distinctKeys_object_iff, List.forall_mem_append, List.forall_mem_cons] at hd ⊢
    obtain ⟨hn, hb, hv, ha⟩ := hd
    refine ⟨?_, hb, ih hv, ha⟩
    simpa [Keyed.keys] using hn
  | trans h h' ih ih' => exact ih' (ih hd)

end Json

end Proximity
