import Proximity.Decimal.Shortest
import Proximity.Json.Basic

/-!
# JSON text

The compact text of a value, without blanks between its parts. In strings the quote, the
backslash and the control characters are escaped and every other character stands for itself.
-/

namespace Proximity

namespace Json

/-- Numbers with a point are written with the fewest digits that read back, positionally from
`0.00001` up to sixteen digits before the point and with a signed exponent elsewhere. -/
def numberStyle : Decimal.Style where
  positional e := -5 ≤ e && e < 16
  pointZero := true

/-- The text of a number. -/
def Number.text : Number → String
  | .int n => Decimal.integer n
  | .float x _ => Decimal.writeFloat numberStyle .even x

/-- The digits of a code point below 256 in base sixteen. -/
def hexByte (n : Nat) : List Char :=
  [Nat.digitChar (n / 16), Nat.digitChar (n % 16)]

/-- A character of a string as it is written between the quotes. -/
def escapeChar (c : Char) : List Char :=
  if c = '"' then ['\\', '"']
  else if c = '\\' then ['\\', '\\']
  else if c = '\x08' then ['\\', 'b']
  else if c = '\x0c' then ['\\', 'f']
  else if c = '\n' then ['\\', 'n']
  else if c = '\r' then ['\\', 'r']
  else if c = '\t' then ['\\', 't']
  else if c.toNat < 0x20 then '\\' :: 'u' :: '0' :: '0' :: hexByte c.toNat
  else [c]

/-- A string in quotes. -/
def quote (s : String) : List Char :=
  '"' :: s.toList.flatMap escapeChar ++ ['"']

/-- Texts with a comma between each two of them. -/
def commaSeparated : List (List Char) → List Char
  | [] => []
  | [x] => x
  | x :: xs => x ++ ',' :: commaSeparated xs

mutual

/-- The characters of a value. -/
def chars : Json → List Char
  | .null => ['n', 'u', 'l', 'l']
  | .bool true => ['t', 'r', 'u', 'e']
  | .bool false => ['f', 'a', 'l', 's', 'e']
  | .number n => n.text.toList
  | .string s => quote s
  | .array items => '[' :: commaSeparated (itemChars items) ++ [']']
  | .object fields => '\x7b' :: commaSeparated (fieldChars fields) ++ ['\x7d']

/-- The characters of each item of an array. -/
def itemChars : List Json → List (List Char)
  | [] => []
  | v :: vs => chars v :: itemChars vs

/-- The characters of each field of an object. -/
def fieldChars : List (String × Json) → List (List Char)
  | [] => []
  | (k, v) :: fields => (quote k ++ ':' :: chars v) :: fieldChars fields

end

/-- The compact text of a value. -/
def compact (v : Json) : String :=
  String.ofList v.chars

end Json

end Proximity
