import Proximity.Sql.Dialect

/-!
# Reading a statement for its marks

Whoever does not know the trees of a statement can still find the marks of its bound values: names
and texts in quotes are passed over, and in what is left a sign begins a mark. Between quotes the
mark itself is written twice, which closes and opens them again; in the texts of MySQL a backslash
takes the meaning from the character behind it.
-/

namespace Proximity

namespace Sql

/-- Where in a statement one stands: outside quotes, in quotes with the mark that they began with,
or there behind a backslash. -/
inductive Quoting where
  | plain
  | within (mark : Char)
  | escaped (mark : Char)
deriving DecidableEq

/-- Whether a character begins a name or a text in quotes. -/
def Dialect.isQuoteMark (d : Dialect) (c : Char) : Bool :=
  c == d.nameMark || c == '\'' || c == '"'

/-- Whether a backslash takes the meaning from the character behind it, between two marks. -/
def Dialect.escapes (d : Dialect) (mark : Char) : Bool :=
  d == .mysql && mark != d.nameMark

/-- Where one stands behind the next character. -/
def Quoting.next (d : Dialect) : Quoting → Char → Quoting
  | plain, c => if d.isQuoteMark c then within c else plain
  | within mark, c =>
    if c = mark then plain else if d.escapes mark && c == '\\' then escaped mark else within mark
  | escaped mark, _ => within mark

/-- The text outside quotes. A mark that opens quotes stands for all that they hold. -/
def outside (d : Dialect) : Quoting → List Char → List Char
  | _, [] => []
  | .plain, c :: cs => c :: outside d (Quoting.plain.next d c) cs
  | q, c :: cs => outside d (q.next d c) cs

/-- The character that the marks of bound values begin with. -/
def Dialect.sign : Dialect → Char
  | .mysql => '?'
  | .postgres => '$'

/-- The number behind the sign, where there is one. -/
def Dialect.signNumber : Dialect → List Char → List Char
  | .mysql, _ => []
  | .postgres, cs => cs.takeWhile Char.isDigit

/-- The marks of bound values in a text without quotes. -/
def signs (d : Dialect) : List Char → List String
  | [] => []
  | c :: cs =>
    if c = d.sign then String.ofList (c :: d.signNumber cs) :: signs d cs else signs d cs

/-- The marks of bound values in a statement, in their order. -/
def marks (d : Dialect) (sql : String) : List String :=
  signs d (outside d .plain sql.toList)

end Sql

end Proximity
