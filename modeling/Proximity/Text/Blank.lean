/-!
# Blank space

The blank characters are those with the White_Space property; the zero-width characters are not
among them. `trim` drops the blanks at both ends of a text and leaves those inside. What it
leaves does not change when it is trimmed again (`trim_trim`), and blanks put around a text are
lost with the others (`trim_padded`).
-/

namespace Proximity

namespace Text

/-- Whether the code point of `c` lies in one of the inclusive ranges. -/
def inRanges (ranges : List (Nat × Nat)) (c : Char) : Bool :=
  ranges.any fun r => r.1 ≤ c.toNat && c.toNat ≤ r.2

/-- The code points with the White_Space property. -/
def blankRanges : List (Nat × Nat) :=
  [(0x9, 0xD), (0x20, 0x20), (0x85, 0x85), (0xA0, 0xA0), (0x1680, 0x1680), (0x2000, 0x200A),
    (0x2028, 0x2029), (0x202F, 0x202F), (0x205F, 0x205F), (0x3000, 0x3000)]

/-- Whether `c` is blank space. -/
def isBlank (c : Char) : Bool :=
  inRanges blankRanges c

/-- The text from its first character that is not blank. -/
def trimStart (cs : List Char) : List Char :=
  cs.dropWhile isBlank

/-- The text up to its last character that is not blank. -/
def trimEnd (cs : List Char) : List Char :=
  (trimStart cs.reverse).reverse

/-- A text without the blank space around it. -/
def trim (s : String) : String :=
  String.ofList (trimEnd (trimStart s.toList))

/-- Whether a text holds nothing but blank space. -/
def blank (s : String) : Bool :=
  s.toList.all isBlank

theorem trimStart_cons_of_blank {c : Char} (h : isBlank c = true) (cs : List Char) :
    trimStart (c :: cs) = trimStart cs := by
  simp [trimStart, h]

theorem trimStart_cons_of_not_blank {c : Char} (h : isBlank c = false) (cs : List Char) :
    trimStart (c :: cs) = c :: cs := by
  simp [trimStart, h]

theorem trimStart_trimStart (cs : List Char) : trimStart (trimStart cs) = trimStart cs := by
  induction cs with
  | nil => rfl
  | cons c cs ih =>
    cases h : isBlank c
    · rw [trimStart_cons_of_not_blank h, trimStart_cons_of_not_blank h]
    · rw [trimStart_cons_of_blank h, ih]

theorem trimEnd_trimEnd (cs : List Char) : trimEnd (trimEnd cs) = trimEnd cs := by
  simp [trimEnd, trimStart_trimStart]

theorem trimEnd_append_blank {cs ws : List Char} (h : ∀ c ∈ ws, isBlank c = true) :
    trimEnd (cs ++ ws) = trimEnd cs := by
  have hw : trimStart (ws.reverse ++ cs.reverse) = trimStart cs.reverse := by
    generalize hr : ws.reverse = rs
    have hb : ∀ c ∈ rs, isBlank c = true := fun c hc => h c (by rw [← hr] at hc; simpa using hc)
    clear hr
    induction rs with
    | nil => rfl
    | cons c rs ih =>
      rw [List.cons_append, trimStart_cons_of_blank (hb c (by simp)),
        ih fun d hd => hb d (by simp [hd])]
  simp [trimEnd, hw]

/-- The first character that is not blank stays first when blanks at the end are dropped. -/
theorem trimStart_trimEnd (cs : List Char) :
    trimStart (trimEnd (trimStart cs)) = trimEnd (trimStart cs) := by
  induction cs with
  | nil => rfl
  | cons c cs ih =>
    cases h : isBlank c
    · rw [trimStart_cons_of_not_blank h]
      have hd : ∃ ds, trimEnd (c :: cs) = c :: ds := by
        unfold trimEnd
        rw [List.reverse_cons]
        generalize cs.reverse = rs
        induction rs with
        | nil => exact ⟨[], by simp [trimStart, h]⟩
        | cons d rs ihr =>
          cases hb : isBlank d
          · rw [List.cons_append, trimStart_cons_of_not_blank hb]
            exact ⟨(d :: rs).reverse, by simp⟩
          · rw [List.cons_append, trimStart_cons_of_blank hb]
            exact ihr
      obtain ⟨ds, hds⟩ := hd
      rw [hds, trimStart_cons_of_not_blank h]
    · rw [trimStart_cons_of_blank h, ih]

theorem trim_trim (s : String) : trim (trim s) = trim s := by
  simp only [trim, String.toList_ofList]
  rw [trimStart_trimEnd, trimEnd_trimEnd]

theorem trimStart_eq_nil_iff {cs : List Char} : trimStart cs = [] ↔ cs.all isBlank = true := by
  induction cs with
  | nil => simp [trimStart]
  | cons c cs ih =>
    cases h : isBlank c
    · simp [trimStart_cons_of_not_blank h, h]
    · simp [trimStart_cons_of_blank h, h, ih]

theorem trimEnd_eq_nil_iff {cs : List Char} : trimEnd cs = [] ↔ cs.all isBlank = true := by
  rw [trimEnd, List.reverse_eq_nil_iff, trimStart_eq_nil_iff, List.all_reverse]

theorem trim_eq_empty_iff {s : String} : trim s = "" ↔ blank s = true := by
  have h : trimEnd (trimStart s.toList) = [] ↔ trimStart s.toList = [] := by
    rw [trimEnd_eq_nil_iff, ← trimStart_eq_nil_iff, trimStart_trimStart]
  rw [trim, ← String.toList_inj, String.toList_ofList, String.toList_empty, h,
    trimStart_eq_nil_iff, blank]

theorem trimStart_append_of_blank {ws : List Char} (h : ws.all isBlank = true) (cs : List Char) :
    trimStart (ws ++ cs) = trimStart cs := by
  rw [trimStart, List.dropWhile_append, ← trimStart, trimStart_eq_nil_iff.mpr h]
  rfl

theorem trimEnd_trimStart_append_blank {ws : List Char} (h : ws.all isBlank = true)
    (cs : List Char) : trimEnd (trimStart (cs ++ ws)) = trimEnd (trimStart cs) := by
  rw [trimStart, List.dropWhile_append, ← trimStart, ← trimStart]
  split
  · -- nothing but blanks is left, on either side
    rename_i hcs
    rw [trimStart_eq_nil_iff.mpr h, List.isEmpty_iff.mp hcs]
  · exact trimEnd_append_blank (List.all_eq_true.mp h)

/-- Blanks around a text do not count. -/
theorem trim_padded {before behind : String} (hb : blank before = true) (ha : blank behind = true)
    (s : String) : trim (before ++ s ++ behind) = trim s := by
  simp only [trim, String.toList_append, List.append_assoc]
  rw [trimStart_append_of_blank hb, trimEnd_trimStart_append_blank ha]

end Text

end Proximity
