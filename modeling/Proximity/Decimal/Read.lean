import Proximity.Decimal.Basic

/-!
# Reading numbers

A float is written as an optional sign, digits with at most one point among or beside them, and an
optional exponent; `inf`, `infinity` and `nan` are floats too, in any case. The value is rounded
once, from the number written to the nearest float. Whole numbers are digits after an optional
sign.
-/

namespace Proximity

namespace Decimal

/-- The digits a text begins with, and the rest. -/
def spanDigits (cs : List Char) : List Char × List Char :=
  cs.span Char.isDigit

/-- The value of a digit. -/
def digitValue (c : Char) : Nat :=
  c.toNat - '0'.toNat

/-- The number that a row of digits stands for. -/
def ofDigits (ds : List Char) : Nat :=
  ds.foldl (fun n d => 10 * n + digitValue d) 0

theorem ofDigits_eq (ds : List Char) : ofDigits ds = Nat.ofDigitChars 10 ds 0 := rfl

theorem ofDigits_append (ds es : List Char) :
    ofDigits (ds ++ es) = Nat.ofDigitChars 10 es (ofDigits ds) := by
  rw [ofDigits_eq, ofDigits_eq, Nat.ofDigitChars_append]

theorem ofDigits_digits (n : Nat) : ofDigits (digits n) = n := by
  rw [ofDigits_eq, digits, Nat.ofDigitChars_ten_toDigits]

/-- The sign a text begins with, and the rest; without a sign it is positive. -/
def splitSign : List Char → Bool × List Char
  | '-' :: cs => (true, cs)
  | '+' :: cs => (false, cs)
  | cs => (false, cs)

/-- A row of digits as a natural number. -/
def readNat? (cs : List Char) : Option Nat :=
  if cs ≠ [] ∧ cs.all Char.isDigit then some (ofDigits cs) else none

/-- Digits after an optional plus sign as a natural number up to `greatest`. -/
def readBounded? (greatest : Nat) (s : String) : Option Nat := do
  let n ← readNat? (match s.toList with | '+' :: cs => cs | cs => cs)
  if n ≤ greatest then some n else none

/-- What follows the digits of a number: nothing, or a mark and a signed exponent. -/
def readExponent? : List Char → Option Int
  | [] => some 0
  | c :: cs =>
    if c = 'e' ∨ c = 'E' then
      let (negative, ds) := splitSign cs
      (readNat? ds).map fun n => if negative then -n else n
    else none

/-- An unsigned number with an optional point and exponent. -/
def readUnsigned? (cs : List Char) : Option (Nat × Int) := do
  let (whole, rest) := spanDigits cs
  let (fraction, rest) := match rest with | '.' :: r => spanDigits r | r => ([], r)
  if whole = [] ∧ fraction = [] then none
  else
    let e ← readExponent? rest
    some (ofDigits (whole ++ fraction), e - fraction.length)

/-- A magnitude as the nearest float. Beyond the least and the greatest float the power of ten is
not worked out. -/
def magnitudeToFloat (significand : Nat) (exponent : Int) : Float :=
  let top := (digits significand).length + exponent
  if significand = 0 ∨ top < -330 then 0
  else if 310 < top then 1 / 0
  else Float.ofScientific significand (exponent < 0) exponent.natAbs

/-- The float nearest to a decimal. -/
def toFloat (d : Decimal) : Float :=
  let x := magnitudeToFloat d.significand d.exponent
  if d.negative then -x else x

/-- A float as text. -/
def readFloat? (s : String) : Option Float :=
  let (negative, body) := splitSign s.toList
  let word := String.ofList (body.map Char.toLower)
  if word = "nan" then some (0 / 0)
  else if word = "inf" ∨ word = "infinity" then some (if negative then -(1 / 0) else 1 / 0)
  else (readUnsigned? body).map fun (n, e) => toFloat ⟨negative, n, e⟩

end Decimal

end Proximity
