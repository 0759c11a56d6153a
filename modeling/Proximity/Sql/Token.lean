import Mathlib.Algebra.Order.Field.Rat
import Proximity.Decimal.Read
import Proximity.Sql.Expr

/-!
# The tokens of a statement

How the text of a statement is taken apart before it is read. Names and texts stand in quotes, in
which the mark itself is written twice; words are either words of the language, in any case, or
name a function whose parenthesis follows at once. A question mark stands for the next of the bound
values, a dollar sign and a number for the one with that number. Two minus signs in a row would
start a comment, so they are no tokens, and neither is anything else that no statement here holds.
-/

namespace Proximity

namespace Sql

/-- A token of a statement. -/
inductive Token where
  | column (c : Column)
  | word (w : String)
  /-- The name of a function and the parenthesis behind it. -/
  | call (function : String)
  | number (x : ℚ)
  | literal (s : String)
  | placeholder (k : Nat)
  | arith (op : ArithOp)
  | compare (op : Comparison)
  | arrow
  | dot
  | comma
  | lparen
  | rparen
deriving DecidableEq

namespace Token

/-- The words of the language. -/
def words : List String :=
  ["SELECT", "FROM", "INNER", "JOIN", "ON", "WHERE", "HAVING", "AS", "NULL", "TRUE", "FALSE", "IS",
    "NOT", "AND", "OR", "CAST", "DOUBLE", "PRECISION"]

/-- Whether a word can begin with a character. -/
def isWordStart (c : Char) : Bool :=
  c.isAlpha || c == '_'

/-- Whether a character can stand in a word. -/
def isWordChar (c : Char) : Bool :=
  c.isAlphanum || c == '_'

/-- A word in capitals. -/
def capitals (w : List Char) : String :=
  String.ofList (w.map Char.toUpper)

/-- What stands before the closing mark, with the doubled marks taken as one, and the rest. -/
def quoted (mark : Char) : List Char → Option (List Char × List Char)
  | [] => none
  | c :: cs =>
    if c = mark then
      match cs with
      | [] => some ([], [])
      | c' :: cs' =>
        if c' = mark then (quoted mark cs').map fun (s, rest) => (mark :: s, rest)
        else some ([], c' :: cs')
    else (quoted mark cs).map fun (s, rest) => (c :: s, rest)

/-- A name or a text in quotes whose opening mark is passed. -/
def quotedString (mark : Char) (cs : List Char) : Option (String × List Char) :=
  (quoted mark cs).map fun (s, rest) => (String.ofList s, rest)

/-- A column, of a table or not, whose first mark is passed. -/
def column? (mark : Char) (cs : List Char) : Option (Token × List Char) := do
  let (first, rest) ← quotedString mark cs
  match rest with
  | '.' :: c :: more =>
    if c = mark then
      let (second, rest) ← quotedString mark more
      some (.column (.of first second), rest)
    else some (.column (.bare first), rest)
  | _ => some (.column (.bare first), rest)

/-- Digits with a point among them or not. What follows is neither a word nor a point. -/
def number? (cs : List Char) : Option (ℚ × List Char) :=
  let (whole, rest) := cs.span Char.isDigit
  let (fraction, rest) :=
    match rest with
    | '.' :: more => more.span Char.isDigit
    | _ => ([], rest)
  if whole = [] ∨ rest.head?.any (fun c => isWordChar c || c == '.') then none
  else some (Decimal.ofDigits (whole ++ fraction) / 10 ^ fraction.length, rest)

/-- A word of the language or the name of a function with its parenthesis. -/
def word? (cs : List Char) : Option (Token × List Char) :=
  let (w, rest) := cs.span isWordChar
  if capitals w ∈ words then some (.word (capitals w), rest)
  else
    match rest with
    | '(' :: rest => some (.call (String.ofList w), rest)
    | _ => none

/-- The number of the bound value that a mark stands for, behind `n` others. -/
def placeholder? (d : Dialect) (n : Nat) (c : Char) (cs : List Char) :
    Option (Token × List Char) :=
  match d, c with
  | .mysql, '?' => some (.placeholder (n + 1), cs)
  | .postgres, '$' =>
    let (ds, rest) := cs.span Char.isDigit
    if ds = [] ∨ rest.head?.any isWordChar then none
    else some (.placeholder (Decimal.ofDigits ds), rest)
  | _, _ => none

/-- A sign. -/
def sign? : List Char → Option (Token × List Char)
  | '-' :: '-' :: _ => none
  | '-' :: '>' :: '>' :: cs => some (.arrow, cs)
  | '+' :: cs => some (.arith .add, cs)
  | '-' :: cs => some (.arith .sub, cs)
  | '*' :: cs => some (.arith .mul, cs)
  | '<' :: '=' :: cs => some (.compare .le, cs)
  | '=' :: cs => some (.compare .eq, cs)
  | '.' :: cs => some (.dot, cs)
  | ',' :: cs => some (.comma, cs)
  | '(' :: cs => some (.lparen, cs)
  | ')' :: cs => some (.rparen, cs)
  | _ => none

/-- The token that a text without blanks in front begins with, behind `n` bound values. -/
def next? (d : Dialect) (n : Nat) : List Char → Option (Token × List Char)
  | [] => none
  | c :: cs =>
    if c = d.nameMark then column? c cs
    else if c = '\'' then
      match quotedString c cs with
      | some (s, rest) =>
        if d = .mysql ∧ s.toList.contains '\\' then none else some (.literal s, rest)
      | none => none
    else if c.isDigit then (number? (c :: cs)).map fun (x, rest) => (.number x, rest)
    else if isWordStart c then word? (c :: cs)
    else (placeholder? d n c cs).or (sign? (c :: cs))

/-- The number of bound values up to and with a token, if `n` stand before it. -/
def count (n : Nat) : Token → Nat
  | .placeholder _ => n + 1
  | _ => n

end Token

/-- The tokens of a text behind `n` bound values. -/
def lex (d : Dialect) (n : Nat) (cs : List Char) : Option (List Token) :=
  match _h : cs.dropWhile (· == ' ') with
  | [] => some []
  | c :: cs' =>
    match Token.next? d n (c :: cs') with
    | none => none
    | some (t, rest) =>
      if rest.length ≤ cs'.length then (lex d (t.count n) rest).map (t :: ·) else none
termination_by cs.length
decreasing_by
  have hd := (cs.dropWhile_suffix (· == ' ')).length_le
  rw [_h, List.length_cons] at hd
  omega

end Sql

end Proximity
