import Proximity.Json.Basic

/-!
# Reading JSON text

A strict reader: only spaces, tabs and line ends are skipped between the parts, strings hold no
bare control characters and no half of a surrogate pair, and nothing but blanks may follow the
value. Arrays and objects may be nested as deep as the limit given and no deeper. A key that
comes again in an object replaces the value at the key's first place.

An integer that fits 64 bits, signed or not, stays an integer, apart from a negative zero; every
other number becomes a float. Of such a number the leading digits that fit 64 bits are taken as
the mantissa and scaled by a power of ten, so its value is rounded once or twice on the way. A
number beyond the greatest float is refused.
-/

namespace Proximity

namespace Json

/-- The text after the blanks that may stand between two parts. -/
def skipBlank (cs : List Char) : List Char :=
  cs.dropWhile fun c => c = ' ' || c = '\t' || c = '\n' || c = '\r'

/-- A finite float as a number. -/
def Number.ofFloat? (x : Float) : Option Number :=
  if h : x.isFinite = true then some (.float x h) else none

/-- Digits appended to a mantissa while it stays below `2 ^ 64`, and how many were. -/
def absorb (mantissa : Nat) : List Char → Nat × Nat
  | [] => (mantissa, 0)
  | d :: ds =>
    let next := 10 * mantissa + Decimal.digitValue d
    if next < Nat.pow 2 64 then
      let (m, taken) := absorb next ds
      (m, taken + 1)
    else (mantissa, 0)

/-- A power of ten as a float. -/
def powerOfTen (n : Nat) : Float :=
  Float.ofScientific 1 false n

/-- A mantissa below `2 ^ 64` scaled by a power of ten; `none` if that is beyond the greatest
float. -/
def scaleMantissa? (mantissa : Nat) (exponent : Int) : Option Float :=
  let m := Float.ofNat mantissa
  if mantissa = 0 then some 0
  else if 308 < exponent then none
  else if 0 ≤ exponent then
    let x := m * powerOfTen exponent.natAbs
    if x.isFinite then some x else none
  else if -308 ≤ exponent then some (m / powerOfTen exponent.natAbs)
  else if -616 ≤ exponent then some (m / powerOfTen 308 / powerOfTen (exponent.natAbs - 308))
  else some 0

/-- A number from the digits before the point, those behind it and its exponent. -/
def floatNumber? (negative : Bool) (whole fraction : List Char) (exponent : Int) :
    Option Number := do
  let (m, taken) := absorb 0 whole
  let (m, places) := absorb m fraction
  let x ← scaleMantissa? m ((whole.length - taken : Nat) - places + exponent)
  Number.ofFloat? (if negative then -x else x)

/-- A number from its digits, where it has neither point nor exponent. -/
def wholeNumber? (negative : Bool) (whole : List Char) : Option Number :=
  let n := Decimal.ofDigits whole
  if negative then
    if 0 < n ∧ n ≤ Nat.pow 2 63 then some (.int (-n)) else floatNumber? true whole [] 0
  else if n < Nat.pow 2 64 then some (.int n)
  else floatNumber? false whole [] 0

/-- The digits behind the point, which is followed by at least one; `none` as the digits if there
is no point. -/
def fraction? : List Char → Option (Option (List Char) × List Char)
  | '.' :: cs =>
    match Decimal.spanDigits cs with
    | ([], _) => none
    | (ds, rest) => some (some ds, rest)
  | cs => some (none, cs)

/-- The exponent behind its mark, where there is one. -/
def exponent? : List Char → Option (Option Int × List Char)
  | c :: cs =>
    if c = 'e' ∨ c = 'E' then
      let (negative, cs) := Decimal.splitSign cs
      match Decimal.spanDigits cs with
      | ([], _) => none
      | (ds, rest) =>
        let n : Int := Decimal.ofDigits ds
        some (some (if negative then -n else n), rest)
    else some (none, c :: cs)
  | [] => some (none, [])

/-- The number a text begins with. -/
def number? (cs : List Char) : Option (Number × List Char) := do
  let (negative, body) := match cs with | '-' :: r => (true, r) | r => (false, r)
  let (whole, rest) := Decimal.spanDigits body
  if whole = [] ∨ (whole.head? = some '0' ∧ 1 < whole.length) then none
  else
    let (fraction, rest) ← fraction? rest
    let (exponent, rest) ← exponent? rest
    let n ← match fraction, exponent with
      | none, none => wholeNumber? negative whole
      | _, _ => floatNumber? negative whole (fraction.getD []) (exponent.getD 0)
    some (n, rest)

/-- The value of a digit in base sixteen. -/
def hexValue? (c : Char) : Option Nat :=
  if c.isDigit then some (c.toNat - '0'.toNat)
  else if 'a' ≤ c && c ≤ 'f' then some (c.toNat - 'a'.toNat + 10)
  else if 'A' ≤ c && c ≤ 'F' then some (c.toNat - 'A'.toNat + 10)
  else none

/-- The value of four digits in base sixteen. -/
def hexUnit? (a b c d : Char) : Option Nat := do
  let a ← hexValue? a
  let b ← hexValue? b
  let c ← hexValue? c
  let d ← hexValue? d
  some (((a * 16 + b) * 16 + c) * 16 + d)

/-- The character that a single letter behind a backslash stands for. -/
def unescape? : Char → Option Char
  | '"' => some '"'
  | '\\' => some '\\'
  | '/' => some '/'
  | 'b' => some '\x08'
  | 'f' => some '\x0c'
  | 'n' => some '\n'
  | 'r' => some '\r'
  | 't' => some '\t'
  | _ => none

/-- The characters up to the closing quote, unescaped, and the text behind it. -/
def stringBody? : List Char → Option (List Char × List Char)
  | [] => none
  | '"' :: rest => some ([], rest)
  | '\\' :: 'u' :: a :: b :: c :: d :: rest => do
    let unit ← hexUnit? a b c d
    if 0xD800 ≤ unit ∧ unit < 0xDC00 then
      match rest with
      | '\\' :: 'u' :: e :: f :: g :: h :: rest =>
        let low ← hexUnit? e f g h
        if 0xDC00 ≤ low ∧ low < 0xE000 then
          let (s, rest) ← stringBody? rest
          some (Char.ofNat (0x10000 + (unit - 0xD800) * 0x400 + (low - 0xDC00)) :: s, rest)
        else none
      | _ => none
    else if 0xDC00 ≤ unit ∧ unit < 0xE000 then none
    else
      let (s, rest) ← stringBody? rest
      some (Char.ofNat unit :: s, rest)
  | '\\' :: c :: rest => do
    let c ← unescape? c
    let (s, rest) ← stringBody? rest
    some (c :: s, rest)
  | c :: rest =>
    if c.toNat < 0x20 then none
    else (stringBody? rest).map fun (s, rest) => (c :: s, rest)

/-- The string a text begins with. -/
def quoted? : List Char → Option (String × List Char)
  | '"' :: cs => (stringBody? cs).map fun (s, rest) => (String.ofList s, rest)
  | _ => none

/-- What reads a part of a text and gives the rest. -/
abbrev Reader (α : Type) := List Char → Option (α × List Char)

/-- Parts separated by commas up to a closing bracket: at least one, and no more than the number
given. -/
def separated (part : Reader α) (close : Char) : Nat → Reader (List α)
  | 0, _ => none
  | n + 1, cs => do
    let (x, rest) ← part cs
    match skipBlank rest with
    | c :: rest =>
      if c = close then some ([x], rest)
      else if c = ',' then
        let (xs, rest) ← separated part close n rest
        some (x :: xs, rest)
      else none
    | [] => none

/-- At most `most` parts between an opening bracket, which has been read, and the closing one. -/
def bracketed (part : Reader α) (close : Char) (most : Nat) : Reader (List α) := fun cs =>
  match skipBlank cs with
  | c :: rest => if c = close then some ([], rest) else separated part close most cs
  | [] => none

/-- A key, a colon and a value. -/
def field (value : Reader Json) : Reader (String × Json) := fun cs => do
  let (key, rest) ← quoted? (skipBlank cs)
  match skipBlank rest with
  | ':' :: rest =>
    let (v, rest) ← value rest
    some ((key, v), rest)
  | _ => none

/-- The text behind a word it begins with. -/
def word? (w : String) (cs : List Char) : Option (List Char) :=
  if w.toList.isPrefixOf cs then some (cs.drop w.length) else none

/-- A value that is neither an array nor an object. -/
def scalar : Reader Json := fun cs =>
  match cs with
  | '"' :: _ => (quoted? cs).map fun (s, rest) => (.string s, rest)
  | 'n' :: _ => (word? "null" cs).map fun rest => (.null, rest)
  | 't' :: _ => (word? "true" cs).map fun rest => (.bool true, rest)
  | 'f' :: _ => (word? "false" cs).map fun rest => (.bool false, rest)
  | _ => (number? cs).map fun (n, rest) => (.number n, rest)

/-- The value a text begins with, nested at most `depth` deep and with at most `most` parts in each
array and object. -/
def value (most : Nat) : (depth : Nat) → Reader Json
  | 0, cs => scalar (skipBlank cs)
  | depth + 1, cs =>
    match skipBlank cs with
    | '[' :: rest =>
      (bracketed (value most depth) ']' most rest).map fun (vs, rest) => (.array vs, rest)
    | '\x7b' :: rest =>
      (bracketed (field (value most depth)) '\x7d' most rest).map fun (fs, rest) =>
        (.object (Keyed.setAll fs []), rest)
    | cs => scalar cs

/-- The value that a text holds, nested at most `depth` deep. No array or object in it has more
parts than the text has characters. -/
def parse? (depth : Nat) (s : String) : Option Json :=
  let cs := s.toList
  match value cs.length depth cs with
  | some (v, rest) => if skipBlank rest = [] then some v else none
  | none => none

end Json

end Proximity
