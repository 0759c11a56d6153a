import Proximity.Decimal.Basic

/-!
# The shortest decimal that reads back

A finite float stands for the interval of numbers that round to it: from halfway to the float
below to halfway to the float above, with its ends when the mantissa is even. The shortest
decimal of a float is the point in that interval on the coarsest grid of powers of ten that has
one there; of two such points it is the nearer, and of two equally near ones the `Tie` decides.
Everything is compared in whole numbers, so nothing is rounded on the way.
-/

namespace Proximity

namespace Decimal

/-- Which of two equally near candidates is taken. -/
inductive Tie where
  | even
  | away
deriving DecidableEq, Repr

/-- The magnitude `mantissa × 2 ^ exponent` of a finite float. -/
structure Magnitude where
  mantissa : Nat
  exponent : Int
  /-- Whether the float below is half as far away as the float above. -/
  narrowBelow : Bool
deriving DecidableEq, Repr

/-- The magnitude of the finite float with the given bits. -/
def Magnitude.ofBits (bits : UInt64) : Magnitude :=
  let fraction : Nat := bits.toNat % Nat.pow 2 52
  let biased : Nat := bits.toNat / Nat.pow 2 52 % Nat.pow 2 11
  if biased = 0 then ⟨fraction, -1074, false⟩
  else ⟨Nat.pow 2 52 + fraction, (biased : Int) - 1075, fraction == 0 && 1 < biased⟩

/-- The multiple of `10 ^ k` that lies nearest to a magnitude among those in its interval. A
quarter of the mantissa's last unit is `up / down` steps of the grid. -/
def onGrid? (tie : Tie) (v : Magnitude) (k : Int) : Option Nat :=
  let up := Nat.pow 2 (v.exponent - 2).toNat * Nat.pow 10 (-k).toNat
  let down := Nat.pow 2 (2 - v.exponent).toNat * Nat.pow 10 k.toNat
  let low := (4 * v.mantissa - if v.narrowBelow then 1 else 2) * up
  let middle := 4 * v.mantissa * up
  let high := (4 * v.mantissa + 2) * up
  let inside (n : Nat) : Bool :=
    if v.mantissa % 2 = 0 then low ≤ n * down && n * down ≤ high
    else low < n * down && n * down < high
  let below := middle / down
  match inside below, inside (below + 1) with
  | false, false => none
  | true, false => some below
  | false, true => some (below + 1)
  | true, true =>
    match compare (2 * middle) ((2 * below + 1) * down), tie with
    | .lt, _ => some below
    | .gt, _ => some (below + 1)
    | .eq, .away => some (below + 1)
    | .eq, .even => some (below + below % 2)

/-- The power of ten above every finite float. -/
def coarsest : Nat := 309

/-- The last decimal place that is finer than every distance between two floats. -/
def finest : Nat := 324

/-- The shortest decimal of a finite float, with the sign of the float. -/
def shortest (tie : Tie) (x : Float) : Decimal :=
  let v := Magnitude.ofBits x.toBits
  let found := if v.mantissa = 0 then none else
    (List.range (coarsest + finest + 1)).findSome? fun (i : Nat) =>
      let k : Int := coarsest - i
      (onGrid? tie v k).map fun n => (n, k)
  let (significand, exponent) := found.getD (0, 0)
  ⟨Nat.pow 2 63 ≤ x.toBits.toNat, significand, exponent⟩

/-- A float in a style; the ones that are no numbers are written as words. -/
def writeFloat (style : Style) (tie : Tie) (x : Float) : String :=
  if x.isNaN then "NaN"
  else if x.isFinite then (shortest tie x).write style
  else if x < 0 then "-inf" else "inf"

end Decimal

end Proximity
