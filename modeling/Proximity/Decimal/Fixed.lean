import Proximity.Decimal.Shortest

/-!
# A fixed number of places

A float rounded to a number of decimal places: its exact value is taken to the nearest multiple
of the last place, and from the middle to the even one.
-/

namespace Proximity

namespace Decimal

/-- The quotient rounded to the nearest natural number, and to the even one from the middle. -/
def roundQuotient (num den : Nat) : Nat :=
  let q := num / den
  match compare (2 * (num % den)) den with
  | .lt => q
  | .gt => q + 1
  | .eq => q + q % 2

/-- A float with exactly `places` digits behind the point. -/
def fixed (places : Nat) (x : Float) : String :=
  if x.isNaN then "NaN"
  else if x.isFinite then
    let v := Magnitude.ofBits x.toBits
    let n := roundQuotient (v.mantissa * Nat.pow 2 v.exponent.toNat * Nat.pow 10 places)
      (Nat.pow 2 (-v.exponent).toNat)
    let ds := digits n
    let padded := List.replicate (places + 1 - ds.length) '0' ++ ds
    let whole := padded.length - places
    String.ofList <| (if Nat.pow 2 63 ≤ x.toBits.toNat then ['-'] else []) ++ padded.take whole ++
      if places = 0 then [] else '.' :: padded.drop whole
  else if x < 0 then "-inf" else "inf"

end Decimal

end Proximity
