import Proximity.Address.Timestamp
import Proximity.Proofs.Lexing

/-!
# Timestamps are read as they were written

A number that is written with zeros up to a width fills that width, so its reader takes the number
and nothing of what follows (`readDigits?_append`). The year alone may be wider; there its sign lets
it run on to the hyphen. A fraction has three, six or nine digits, and what is missing from nine is
made up for by the power of ten (`readFraction?_writeFraction`).
-/

namespace Proximity

namespace Timestamp

theorem isDigit_of_mem_padded {width n : Nat} {c : Char} (h : c ∈ padded width n) :
    c.isDigit = true := by
  rcases List.mem_append.mp h with h | h
  · exact Decimal.isDigit_of_mem_zeros h
  · exact Decimal.isDigit_of_mem_digits h

theorem padded_ne_nil (width n : Nat) : padded width n ≠ [] := by
  simp [padded, Decimal.digits_ne_nil]

theorem ofDigits_padded (width n : Nat) : Decimal.ofDigits (padded width n) = n := by
  simp only [padded]
  rw [Decimal.ofDigits_append, Decimal.ofDigits_eq, Nat.ofDigitChars_replicate_zero]
  exact Decimal.ofDigits_digits n

theorem length_padded {width n : Nat} (hw : 0 < width) (h : n < 10 ^ width) :
    (padded width n).length = width := by
  have hd : (Decimal.digits n).length ≤ width := (Nat.length_toDigits_le_iff (by omega) hw).mpr h
  simp only [padded, List.length_append, List.length_replicate]
  omega

/-- Whether a row of digits ends before `rest`. -/
def EndsDigits (rest : List Char) : Prop :=
  ∀ c ∈ rest.head?, c.isDigit = false

theorem EndsDigits.take {rest : List Char} (h : EndsDigits rest) (n : Nat) :
    EndsDigits (rest.take n) := by
  rcases n with _ | n
  · rintro c ⟨⟩
  · rcases rest with _ | ⟨c, rest⟩ <;> exact h

theorem takeWhile_isDigit {ds rest : List Char} (hd : ∀ c ∈ ds, c.isDigit = true)
    (hr : EndsDigits rest) : (ds ++ rest).takeWhile Char.isDigit = ds := by
  have h := Sql.span_of_all hd rest hr
  rw [List.span_eq_takeWhile_dropWhile] at h
  exact (Prod.mk.inj h).1

theorem readDigits?_append {width : Nat} {ds rest : List Char} (hd : ∀ c ∈ ds, c.isDigit = true)
    (hne : ds ≠ []) (hw : ds.length ≤ width) (hr : ds.length = width ∨ EndsDigits rest) :
    readDigits? width (ds ++ rest) = some (Decimal.ofDigits ds, rest) := by
  have hrest : EndsDigits (rest.take (width - ds.length)) := by
    rcases hr with hr | hr
    · rw [hr, Nat.sub_self]
      rintro c ⟨⟩
    · exact hr.take _
  have hds : ((ds ++ rest).take width).takeWhile Char.isDigit = ds := by
    rw [List.take_append, List.take_of_length_le hw, takeWhile_isDigit hd hrest]
  simp [readDigits?, hds, hne]

theorem readDigits?_padded {width n : Nat} (hw : 0 < width) (h : n < 10 ^ width)
    (rest : List Char) : readDigits? width (padded width n ++ rest) = some (n, rest) := by
  have hl := length_padded hw h
  rw [readDigits?_append (fun c => isDigit_of_mem_padded) (padded_ne_nil width n) hl.le (.inl hl),
    ofDigits_padded]

theorem isBlank_of_isDigit {c : Char} (h : c.isDigit = true) : Text.isBlank c = false := by
  have hc : 48 ≤ c.toNat ∧ c.toNat ≤ 57 := by
    simpa [Char.isDigit, UInt32.le_iff_toNat_le] using h
  have hranges : ∀ r ∈ Text.blankRanges, r.2 < 48 ∨ 57 < r.1 := by simp [Text.blankRanges]
  rw [Text.isBlank, Text.inRanges, List.any_eq_false]
  intro r hr
  have := hranges r hr
  simp only [Bool.and_eq_true, decide_eq_true_eq]
  omega

section Digits

variable {ds : List Char} (hd : ∀ c ∈ ds, c.isDigit = true) (hne : ds ≠ []) (rest : List Char)
include hd hne

theorem trimStart_digits : Text.trimStart (ds ++ rest) = ds ++ rest := by
  rcases ds with _ | ⟨c, ds⟩
  · exact absurd rfl hne
  · exact Text.trimStart_cons_of_not_blank (isBlank_of_isDigit (hd c List.mem_cons_self)) _

theorem digits_append_ne {c : Char} (hc : c.isDigit = false) (cs : List Char) :
    ds ++ rest ≠ c :: cs := by
  rcases ds with _ | ⟨d, ds⟩
  · exact absurd rfl hne
  · rintro ⟨⟩
    exact Bool.false_ne_true (hc.symm.trans (hd c List.mem_cons_self))

end Digits

theorem readPart?_padded {n : Nat} (h : n < 100) (rest : List Char) :
    readPart? (padded 2 n ++ rest) = some (n, rest) := by
  rw [readPart?, trimStart_digits (fun c => isDigit_of_mem_padded) (padded_ne_nil 2 n),
    readDigits?_padded (by decide) h]

theorem readMark?_cons (mark : Char) (h : Text.isBlank mark = false) (rest : List Char) :
    readMark? mark (mark :: rest) = some rest := by
  simp [readMark?, Text.trimStart_cons_of_not_blank h]

theorem readYear?_writeYear (year : Int) {rest : List Char} (hr : EndsDigits rest) :
    readYear? (writeYear year ++ rest) = some (year, rest) := by
  have hd : ∀ c ∈ padded 4 year.natAbs, c.isDigit = true := fun c => isDigit_of_mem_padded
  have hne := padded_ne_nil 4 year.natAbs
  have hread : ∀ width, (padded 4 year.natAbs).length ≤ width →
      readDigits? width (padded 4 year.natAbs ++ rest) = some (year.natAbs, rest) := by
    intro width hw
    rw [readDigits?_append hd hne hw (.inr hr), ofDigits_padded]
  have hlength : (padded 4 year.natAbs).length ≤ (padded 4 year.natAbs ++ rest).length := by simp
  unfold writeYear readYear?
  split_ifs with hneg hbig
  · rw [List.singleton_append, List.cons_append, Text.trimStart_cons_of_not_blank (by decide)]
    simp only [hread _ hlength, Option.map_some, Option.some.injEq, Prod.mk.injEq, and_true]
    omega
  · rw [List.singleton_append, List.cons_append, Text.trimStart_cons_of_not_blank (by decide)]
    simp only [hread _ hlength, Option.map_some, Option.some.injEq, Prod.mk.injEq, and_true]
    omega
  · -- without a sign it is four digits that are read, and there are no more
    have hfour := length_padded (n := year.natAbs) (by decide : 0 < 4) (by omega)
    rw [List.nil_append, trimStart_digits hd hne]
    split
    · rename_i r hr'
      exact absurd hr' (digits_append_ne hd hne rest rfl r)
    · rename_i r hr'
      exact absurd hr' (digits_append_ne hd hne rest rfl r)
    · simp only [hread 4 hfour.le, Option.map_some, Option.some.injEq, Prod.mk.injEq, and_true]
      omega

theorem readFraction?_point {ds : List Char} (hd : ∀ c ∈ ds, c.isDigit = true) (hne : ds ≠ [])
    (hl : ds.length ≤ 9) :
    readFraction? ('.' :: ds) = some (Decimal.ofDigits ds * 10 ^ (9 - ds.length), []) := by
  have htake : ds.takeWhile Char.isDigit = ds := by
    have hend : EndsDigits [] := by rintro c ⟨⟩
    simpa using takeWhile_isDigit hd hend
  rw [readFraction?, htake]
  split
  · exact absurd rfl hne
  · simp only [List.take_of_length_le hl, List.drop_length]
    rfl

/-- A fraction that is written with `width` digits, when it is exact in them. -/
theorem readFraction?_padded (width : Nat) {n : Nat} (hw : 0 < width) (hw' : width ≤ 9)
    (hm : n % 10 ^ (9 - width) = 0) (h : n < 10 ^ 9) :
    readFraction? ('.' :: padded width (n / 10 ^ (9 - width))) = some (n, []) := by
  have hpow : 10 ^ (9 - width) * 10 ^ width = 10 ^ 9 := by
    rw [← Nat.pow_add, Nat.sub_add_cancel hw']
  have hlt : n / 10 ^ (9 - width) < 10 ^ width :=
    Nat.div_lt_of_lt_mul (hpow.symm ▸ h)
  have hl := length_padded hw hlt
  rw [readFraction?_point (fun c => isDigit_of_mem_padded) (padded_ne_nil _ _) (by omega),
    ofDigits_padded, hl, Nat.div_mul_cancel (Nat.dvd_of_mod_eq_zero hm)]

theorem readFraction?_writeFraction {n : Nat} (h : n < 10 ^ 9) :
    readFraction? (writeFraction n) = some (n, []) := by
  unfold writeFraction
  split_ifs with hzero hmilli hmicro
  · rw [hzero]
    rfl
  · exact readFraction?_padded 3 (by decide) (by decide) hmilli h
  · exact readFraction?_padded 6 (by decide) (by decide) hmicro h
  · have hn := readFraction?_padded 9 (by decide) (by decide) (Nat.mod_one n) h
    simpa using hn

theorem readParts?_chars {t : Timestamp} (h : t.Valid) : readParts? t.chars = some (t, []) := by
  obtain ⟨-, ⟨-, hmonth⟩, ⟨-, hday⟩, hhour, hminute, hsecond, hnano⟩ := h
  have hday' : t.day ≤ 31 := by
    unfold daysInMonth at hday
    split_ifs at hday <;> omega
  have hyphen : ∀ cs, EndsDigits ('-' :: cs) := by
    rintro cs c ⟨⟩
    rfl
  simp only [chars, List.append_assoc, List.cons_append]
  simp only [readParts?, readYear?_writeYear _ (hyphen _), readMark?_cons '-' rfl,
    readMark?_cons 'T' rfl, readMark?_cons ':' rfl,
    readPart?_padded (show t.month < 100 by omega), readPart?_padded (show t.day < 100 by omega),
    readPart?_padded (show t.hour < 100 by omega), readPart?_padded (show t.minute < 100 by omega),
    readPart?_padded (show t.second < 100 by omega), readFraction?_writeFraction hnano,
    Option.bind_eq_bind, Option.bind_some]

theorem ofText?_text {t : Timestamp} (h : t.Valid) : ofText? t.text = some t := by
  rw [ofText?, text, String.toList_ofList, readParts?_chars h]
  simp [Text.trimStart, h]

theorem valid_of_ofText? {s : String} {t : Timestamp} (h : ofText? s = some t) : t.Valid := by
  unfold ofText? at h
  split at h
  · split_ifs at h with hv
    cases h
    exact hv.2
  · cases h

end Timestamp

end Proximity
