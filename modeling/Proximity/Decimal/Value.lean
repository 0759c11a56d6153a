import Mathlib.Algebra.Order.Field.Rat
import Proximity.Decimal.Read
import Proximity.Decimal.Shortest

/-!
# The value of a decimal number

The rational number that a decimal number is, and the one that a float is written as. What is
written positionally says that number: the digits of a whole number go on in the zeros of its
exponent, and those of another one have the point among them or in front of them
(`pointed_among`, `pointed_before`).
-/

namespace Proximity

namespace Decimal

/-- The number without its sign. -/
def magnitude (d : Decimal) : ℚ :=
  d.significand * 10 ^ d.exponent

/-- The rational number `± significand × 10 ^ exponent`. -/
def value (d : Decimal) : ℚ :=
  if d.negative then -d.magnitude else d.magnitude

/-- The number that a statement says where a float is written in it. -/
def ofFloat (x : Float) : ℚ :=
  (shortest .away x).value

/-- The number is written with the digits `whole` before the point and `fraction` behind it. -/
structure Pointed (d : Decimal) (whole fraction : List Char) : Prop where
  text : d.positional false = whole ++ '.' :: fraction
  ne_nil : whole ≠ []
  digits_whole : ∀ c ∈ whole, c.isDigit = true
  digits_fraction : ∀ c ∈ fraction, c.isDigit = true
  significand : ofDigits (whole ++ fraction) = d.significand
  exponent : d.exponent = -(fraction.length : Int)

variable {d : Decimal}

theorem Pointed.magnitude_eq {whole fraction : List Char} (h : d.Pointed whole fraction) :
    d.magnitude = (ofDigits (whole ++ fraction) : ℚ) / 10 ^ fraction.length := by
  rw [magnitude, h.significand, h.exponent, zpow_neg, zpow_natCast, div_eq_mul_inv]

/-- A whole number ends in the zeros of its exponent. -/
theorem positional_of_nonneg (h : 0 ≤ d.exponent) : ∃ ds : List Char,
    d.positional false = ds ∧ ds ≠ [] ∧ (∀ c ∈ ds, c.isDigit = true) ∧
      d.magnitude = (ofDigits ds : ℚ) := by
  obtain ⟨k, hk⟩ := Int.eq_ofNat_of_zero_le h
  have hd : ∀ c ∈ digits d.significand ++ List.replicate k '0', c.isDigit = true := by
    intro c hc
    rcases List.mem_append.mp hc with hc | hc
    · exact isDigit_of_mem_digits hc
    · exact isDigit_of_mem_zeros hc
  have hv : ofDigits (digits d.significand ++ List.replicate k '0') = 10 ^ k * d.significand := by
    rw [ofDigits_append, ofDigits_digits, Nat.ofDigitChars_replicate_zero]
  refine ⟨digits d.significand ++ List.replicate k '0', ?_, ?_, hd, ?_⟩
  · simp [positional, hk]
  · simp [digits_ne_nil]
  · rw [hv, magnitude, hk]
    push_cast
    rw [mul_comm, zpow_natCast]

/-- With fewer places than digits the point stands among the digits. -/
theorem pointed_among {k : Nat} (he : d.exponent = -(k : Int)) (h0 : 0 < k)
    (h : k < (digits d.significand).length) :
    d.Pointed ((digits d.significand).take ((digits d.significand).length - k))
      ((digits d.significand).drop ((digits d.significand).length - k)) where
  text := by
    have hn : ¬ 0 ≤ -(k : Int) := by omega
    simp only [positional, if_neg hn, he, neg_neg, Int.toNat_natCast, if_pos h]
  ne_nil := by
    refine List.ne_nil_of_length_pos ?_
    rw [List.length_take]
    omega
  digits_whole c hc := isDigit_of_mem_digits (List.mem_of_mem_take hc)
  digits_fraction c hc := isDigit_of_mem_digits (List.mem_of_mem_drop hc)
  significand := by rw [List.take_append_drop, ofDigits_digits]
  exponent := by
    rw [he, List.length_drop]
    omega

/-- With as many places as digits or more the point stands in front of them, behind a zero. -/
theorem pointed_before {k : Nat} (he : d.exponent = -(k : Int)) (h0 : 0 < k)
    (h : (digits d.significand).length ≤ k) :
    d.Pointed ['0']
      (List.replicate (k - (digits d.significand).length) '0' ++ digits d.significand) where
  text := by
    have hn : ¬ 0 ≤ -(k : Int) := by omega
    simp only [positional, if_neg hn, he, neg_neg, Int.toNat_natCast, if_neg (Nat.not_lt.mpr h)]
    rfl
  ne_nil := List.cons_ne_nil _ _
  digits_whole c hc := isDigit_of_mem_zeros (k := 1) hc
  digits_fraction c hc := by
    rcases List.mem_append.mp hc with hc | hc
    · exact isDigit_of_mem_zeros hc
    · exact isDigit_of_mem_digits hc
  significand := by
    rw [ofDigits_append, Nat.ofDigitChars_append, Nat.ofDigitChars_replicate_zero]
    exact ofDigits_digits _
  exponent := by
    rw [he, List.length_append, List.length_replicate]
    omega

theorem exists_pointed (h : d.exponent < 0) : ∃ whole fraction, d.Pointed whole fraction := by
  obtain ⟨k, hk⟩ := Int.eq_ofNat_of_zero_le (show 0 ≤ -d.exponent by omega)
  have he : d.exponent = -(k : Int) := by omega
  rcases Nat.lt_or_ge k (digits d.significand).length with hlt | hge
  · exact ⟨_, _, pointed_among he (by omega) hlt⟩
  · exact ⟨_, _, pointed_before he (by omega) hge⟩

end Decimal

end Proximity
