import Proximity.Decimal.Read
import Proximity.Text.Blank

/-!
# Timestamps

A day of the proleptic Gregorian calendar and a time on it, to the nanosecond and without a zone.
The second 60 is a leap second and may stand at the end of any minute. A timestamp is written
`YYYY-MM-DDTHH:MM:SS` with no, three, six or nine digits of a fraction, the fewest that are exact;
years outside 0 to 9999 carry a sign. The reader also takes fewer digits in every part,
blanks before each number and each mark and at the end, and fractions of any length, of which the
digits after the ninth are dropped. No blank stands behind a sign or beside the point of a
fraction.
-/

namespace Proximity

/-- A date and a time without a zone. -/
structure Timestamp where
  year : Int
  month : Nat
  day : Nat
  hour : Nat
  minute : Nat
  second : Nat
  nanosecond : Nat
deriving DecidableEq, Repr

namespace Timestamp

/-- Whether a year has a leap day. -/
def leapYear (year : Int) : Bool :=
  year % 4 == 0 && (year % 100 != 0 || year % 400 == 0)

/-- The number of days in a month. -/
def daysInMonth (year : Int) (month : Nat) : Nat :=
  if month = 2 then if leapYear year then 29 else 28
  else if month = 4 ∨ month = 6 ∨ month = 9 ∨ month = 11 then 30
  else 31

/-- Whether the parts make a day and a time. -/
def Valid (t : Timestamp) : Prop :=
  (-262143 ≤ t.year ∧ t.year ≤ 262142) ∧ (1 ≤ t.month ∧ t.month ≤ 12) ∧
    (1 ≤ t.day ∧ t.day ≤ daysInMonth t.year t.month) ∧ t.hour ≤ 23 ∧ t.minute ≤ 59 ∧
      t.second ≤ 60 ∧ t.nanosecond < Nat.pow 10 9

instance (t : Timestamp) : Decidable t.Valid := by
  unfold Valid
  infer_instance

/-- A number with zeros in front up to a width. -/
def padded (width n : Nat) : List Char :=
  let ds := Decimal.digits n
  List.replicate (width - ds.length) '0' ++ ds

/-- A year; outside the years 0 to 9999 it has a sign. -/
def writeYear (year : Int) : List Char :=
  (if year < 0 then ['-'] else if 9999 < year then ['+'] else []) ++ padded 4 year.natAbs

/-- A fraction of a second behind its point. -/
def writeFraction (nanosecond : Nat) : List Char :=
  if nanosecond = 0 then []
  else if nanosecond % Nat.pow 10 6 = 0 then '.' :: padded 3 (nanosecond / Nat.pow 10 6)
  else if nanosecond % Nat.pow 10 3 = 0 then '.' :: padded 6 (nanosecond / Nat.pow 10 3)
  else '.' :: padded 9 nanosecond

/-- The characters of a timestamp. -/
def chars (t : Timestamp) : List Char :=
  writeYear t.year ++ '-' :: padded 2 t.month ++ '-' :: padded 2 t.day ++
    'T' :: padded 2 t.hour ++ ':' :: padded 2 t.minute ++ ':' :: padded 2 t.second ++
      writeFraction t.nanosecond

/-- A timestamp as text. -/
def text (t : Timestamp) : String :=
  String.ofList t.chars

/-- At least one and at most `width` digits as a number. -/
def readDigits? (width : Nat) (cs : List Char) : Option (Nat × List Char) :=
  let ds := (cs.take width).takeWhile Char.isDigit
  if ds = [] then none else some (Decimal.ofDigits ds, cs.drop ds.length)

/-- A number of at most two digits, with blanks before it. -/
def readPart? (cs : List Char) : Option (Nat × List Char) :=
  readDigits? 2 (Text.trimStart cs)

/-- A year, with blanks before it: up to four digits, or any number of them behind a sign. -/
def readYear? (cs : List Char) : Option (Int × List Char) :=
  match Text.trimStart cs with
  | '-' :: r => (readDigits? r.length r).map fun (n, rest) => (-n, rest)
  | '+' :: r => (readDigits? r.length r).map fun (n, rest) => (n, rest)
  | r => (readDigits? 4 r).map fun (n, rest) => (n, rest)

/-- A character that has to stand next, with blanks before it. -/
def readMark? (mark : Char) (cs : List Char) : Option (List Char) :=
  match Text.trimStart cs with
  | [] => none
  | c :: rest => if c = mark then some rest else none

/-- A fraction of a second in nanoseconds, where there is one. -/
def readFraction? : List Char → Option (Nat × List Char)
  | '.' :: cs =>
    match cs.takeWhile Char.isDigit with
    | [] => none
    | ds =>
      let kept := ds.take 9
      some (Decimal.ofDigits kept * Nat.pow 10 (9 - kept.length), cs.drop ds.length)
  | cs => some (0, cs)

/-- The parts of a timestamp and the text behind them. -/
def readParts? (cs : List Char) : Option (Timestamp × List Char) := do
  let (year, cs) ← readYear? cs
  let cs ← readMark? '-' cs
  let (month, cs) ← readPart? cs
  let cs ← readMark? '-' cs
  let (day, cs) ← readPart? cs
  let cs ← readMark? 'T' cs
  let (hour, cs) ← readPart? cs
  let cs ← readMark? ':' cs
  let (minute, cs) ← readPart? cs
  let cs ← readMark? ':' cs
  let (second, cs) ← readPart? cs
  let (nanosecond, cs) ← readFraction? cs
  some (⟨year, month, day, hour, minute, second, nanosecond⟩, cs)

/-- A text as a timestamp. -/
def ofText? (s : String) : Option Timestamp :=
  match readParts? s.toList with
  | some (t, rest) => if Text.trimStart rest = [] ∧ t.Valid then some t else none
  | none => none

end Timestamp

end Proximity
