/-!
# Decimal numbers and how they are written

A decimal number is a whole number times a power of ten, with a sign of its own so that there is
a negative zero. A `Style` says which numbers are written positionally and whether a whole number
keeps a zero behind the point; the others are written with one digit before the point and an
exponent that always has a sign.
-/

namespace Proximity

/-- The number `± significand × 10 ^ exponent`. -/
structure Decimal where
  negative : Bool
  significand : Nat
  exponent : Int
deriving DecidableEq, Repr

namespace Decimal

/-- The digits of a natural number, the first one first. -/
def digits (n : Nat) : List Char :=
  Nat.toDigits 10 n

theorem digits_ne_nil (n : Nat) : digits n ≠ [] :=
  List.ne_nil_of_length_pos Nat.length_toDigits_pos

theorem isDigit_of_mem_digits {n : Nat} {c : Char} (h : c ∈ digits n) : c.isDigit = true :=
  Nat.isDigit_of_mem_toDigits (by decide) (by decide) h

theorem isDigit_of_mem_zeros {k : Nat} {c : Char} (h : c ∈ List.replicate k '0') :
    c.isDigit = true := by
  rw [List.eq_of_mem_replicate h]
  rfl

/-- An integer in decimal digits. -/
def integer (n : Int) : String :=
  (if n < 0 then "-" else "") ++ String.ofList (digits n.natAbs)

/-- How decimal numbers are written. -/
structure Style where
  /-- The exponents of the first digit that are written positionally. -/
  positional : Int → Bool
  /-- Whether a whole number that is written positionally ends in a point and a zero. -/
  pointZero : Bool

/-- The exponent of the first digit. -/
def scale (d : Decimal) : Int :=
  (digits d.significand).length - 1 + d.exponent

/-- The digits with the point in its place. -/
def positional (pointZero : Bool) (d : Decimal) : List Char :=
  let ds := digits d.significand
  if 0 ≤ d.exponent then
    ds ++ List.replicate d.exponent.toNat '0' ++ if pointZero then ['.', '0'] else []
  else
    let places := (-d.exponent).toNat
    if places < ds.length then
      ds.take (ds.length - places) ++ '.' :: ds.drop (ds.length - places)
    else
      '0' :: '.' :: List.replicate (places - ds.length) '0' ++ ds

/-- One digit, the others behind a point, and the exponent of the first with its sign. -/
def scientific (d : Decimal) : List Char :=
  let mantissa :=
    match digits d.significand with
    | first :: r@(_ :: _) => first :: '.' :: r
    | ds => ds
  mantissa ++ 'e' :: (if d.scale < 0 then '-' else '+') :: digits d.scale.natAbs

/-- A decimal number in a style. -/
def write (style : Style) (d : Decimal) : String :=
  String.ofList <| (if d.negative then ['-'] else []) ++
    if style.positional d.scale then d.positional style.pointZero else d.scientific

end Decimal

end Proximity
