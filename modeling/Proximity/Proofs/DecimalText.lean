import Mathlib.Tactic.SplitIfs
import Proximity.Decimal.Shortest

/-!
# The characters of numbers

A number is written with letters, digits, signs and points alone, in whatever style. So a number
holds none of the marks that the texts around it are taken apart by, and it ends at the first of
them.
-/

namespace Proximity

namespace Decimal

/-- Whether a character can stand in a number. -/
def inNumber (c : Char) : Bool :=
  c.isAlphanum || c == '-' || c == '+' || c == '.'

variable {c : Char}

theorem inNumber_of_isDigit (h : c.isDigit = true) : inNumber c = true := by
  simp [inNumber, Char.isAlphanum, h]

theorem inNumber_of_mem_digits {n : Nat} (h : c ∈ digits n) : inNumber c = true :=
  inNumber_of_isDigit (isDigit_of_mem_digits h)

theorem inNumber_of_mem_positional {pointZero : Bool} {d : Decimal}
    (h : c ∈ d.positional pointZero) : inNumber c = true := by
  have hd : ∀ c ∈ digits d.significand, inNumber c = true := fun c => inNumber_of_mem_digits
  have hz : ∀ k, ∀ c ∈ List.replicate k '0', inNumber c = true := fun k c hc =>
    inNumber_of_isDigit (isDigit_of_mem_zeros hc)
  unfold positional at h
  simp only [] at h
  split_ifs at h
  · simp only [List.mem_append, List.mem_cons, List.not_mem_nil, or_false] at h
    rcases h with (h | h) | rfl | rfl
    · exact hd c h
    · exact hz _ c h
    · rfl
    · rfl
  · simp only [List.append_nil, List.mem_append] at h
    rcases h with h | h
    · exact hd c h
    · exact hz _ c h
  · simp only [List.mem_append, List.mem_cons] at h
    rcases h with h | rfl | h
    · exact hd c (List.mem_of_mem_take h)
    · rfl
    · exact hd c (List.mem_of_mem_drop h)
  · simp only [List.cons_append, List.mem_append, List.mem_cons] at h
    rcases h with rfl | rfl | h | h
    · rfl
    · rfl
    · exact hz _ c h
    · exact hd c h

theorem inNumber_of_mem_scientific {d : Decimal} (h : c ∈ d.scientific) : inNumber c = true := by
  have hd : ∀ c ∈ digits d.significand, inNumber c = true := fun c => inNumber_of_mem_digits
  unfold scientific at h
  simp only [List.mem_append, List.mem_cons] at h
  rcases h with h | rfl | h | h
  · split at h
    · rename_i first r hr
      rw [hr] at hd
      simp only [List.mem_cons] at h
      rcases h with rfl | rfl | h
      · exact hd _ List.mem_cons_self
      · rfl
      · exact hd c (List.mem_cons_of_mem _ (by simpa using h))
    · exact hd c h
  · rfl
  · split at h <;> rw [h] <;> rfl
  · exact inNumber_of_mem_digits h

theorem inNumber_of_mem_write {style : Style} {d : Decimal} (h : c ∈ (d.write style).toList) :
    inNumber c = true := by
  simp only [write, String.toList_ofList, List.mem_append] at h
  rcases h with h | h
  · split at h
    · rw [List.mem_singleton.mp h]
      rfl
    · cases h
  · split at h
    · exact inNumber_of_mem_positional h
    · exact inNumber_of_mem_scientific h

theorem inNumber_of_mem_writeFloat {style : Style} {tie : Tie} {x : Float}
    (h : c ∈ (writeFloat style tie x).toList) : inNumber c = true := by
  have hw : ∀ c ∈ "NaN".toList ++ "-inf".toList ++ "inf".toList, inNumber c = true :=
    List.all_eq_true.mp (by decide)
  simp only [List.mem_append] at hw
  unfold writeFloat at h
  split_ifs at h
  · exact hw c (.inl (.inl h))
  · exact inNumber_of_mem_write h
  · exact hw c (.inl (.inr h))
  · exact hw c (.inr h)

theorem inNumber_of_mem_integer {n : Int} (h : c ∈ (integer n).toList) : inNumber c = true := by
  simp only [integer, String.toList_append, String.toList_ofList, List.mem_append] at h
  rcases h with h | h
  · split at h
    · rw [List.mem_singleton.mp h]
      rfl
    · cases h
  · exact inNumber_of_mem_digits h

theorem positional_ne_nil (pointZero : Bool) (d : Decimal) : d.positional pointZero ≠ [] := by
  have hne := digits_ne_nil d.significand
  unfold positional
  simp only []
  split_ifs <;> simp [hne]

theorem write_ne_nil (style : Style) (d : Decimal) : (d.write style).toList ≠ [] := by
  have hp := positional_ne_nil style.pointZero d
  have hs : d.scientific ≠ [] := by simp [scientific]
  simp only [write, String.toList_ofList]
  split_ifs <;> simp [hp, hs]

theorem writeFloat_ne_nil (style : Style) (tie : Tie) (x : Float) :
    (writeFloat style tie x).toList ≠ [] := by
  unfold writeFloat
  split_ifs
  · decide
  · exact write_ne_nil style _
  · decide
  · decide

theorem integer_ne_nil (n : Int) : (integer n).toList ≠ [] := by
  simp [integer, digits_ne_nil]

theorem mem_positional_of_mem_digits {pointZero : Bool} {d : Decimal}
    (h : c ∈ digits d.significand) : c ∈ d.positional pointZero := by
  unfold positional
  simp only []
  split_ifs with he hz hl
  · exact List.mem_append_left _ (List.mem_append_left _ h)
  · exact List.mem_append_left _ (List.mem_append_left _ h)
  · rw [← List.take_append_drop ((digits d.significand).length - (-d.exponent).toNat)
      (digits d.significand), List.mem_append] at h
    exact List.mem_append.mpr (h.imp_right (List.mem_cons_of_mem _))
  · exact List.mem_append_right _ h

theorem mem_write {style : Style} {d : Decimal}
    (h : c ∈ if style.positional d.scale then d.positional style.pointZero else d.scientific) :
    c ∈ (d.write style).toList := by
  rw [write, String.toList_ofList]
  exact List.mem_append_right _ h

/-- A number has a digit, in whatever style. -/
theorem exists_isDigit_write (style : Style) (d : Decimal) :
    ∃ c ∈ (d.write style).toList, c.isDigit = true := by
  by_cases hs : style.positional d.scale = true
  · obtain ⟨c, hc⟩ := List.exists_mem_of_ne_nil _ (digits_ne_nil d.significand)
    refine ⟨c, mem_write ?_, isDigit_of_mem_digits hc⟩
    rw [if_pos hs]
    exact mem_positional_of_mem_digits hc
  · obtain ⟨c, hc⟩ := List.exists_mem_of_ne_nil _ (digits_ne_nil d.scale.natAbs)
    refine ⟨c, mem_write ?_, isDigit_of_mem_digits hc⟩
    rw [if_neg hs]
    exact List.mem_append_right _ (List.mem_cons_of_mem _ (List.mem_cons_of_mem _ hc))

theorem exists_isDigit_integer (n : Int) : ∃ c ∈ (integer n).toList, c.isDigit = true := by
  obtain ⟨c, hc⟩ := List.exists_mem_of_ne_nil _ (digits_ne_nil n.natAbs)
  refine ⟨c, ?_, isDigit_of_mem_digits hc⟩
  simp only [integer, String.toList_append, String.toList_ofList]
  exact List.mem_append_right _ hc

/-- Where whole numbers keep a zero behind the point, a number has a point or an exponent. -/
theorem exists_point_write {style : Style} (hp : style.pointZero = true) (d : Decimal) :
    '.' ∈ (d.write style).toList ∨ 'e' ∈ (d.write style).toList := by
  by_cases hs : style.positional d.scale = true
  · refine .inl (mem_write ?_)
    rw [if_pos hs, positional, hp]
    simp only []
    split_ifs <;> simp
  · refine .inr (mem_write ?_)
    rw [if_neg hs]
    exact List.mem_append_right _ List.mem_cons_self

/-- An integer is written without a point and without an exponent. -/
theorem not_mem_integer (n : Int) : '.' ∉ (integer n).toList ∧ 'e' ∉ (integer n).toList := by
  have hc : ∀ c ∈ (integer n).toList, c = '-' ∨ c.isDigit = true := by
    intro c h
    simp only [integer, String.toList_append, String.toList_ofList, List.mem_append] at h
    rcases h with h | h
    · split at h
      · exact .inl (List.mem_singleton.mp h)
      · cases h
    · exact .inr (isDigit_of_mem_digits h)
  exact ⟨fun h => absurd (hc _ h) (by decide), fun h => absurd (hc _ h) (by decide)⟩

end Decimal

end Proximity
