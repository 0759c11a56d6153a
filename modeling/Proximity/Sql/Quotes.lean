import Proximity.Json.Parser
import Proximity.Sql.Marks
import Proximity.Sql.Token

/-!
# Reading what stands in quotes

A statement is read for its names and its literals alone, by the rules that a database has for
quotes where nothing is configured. A name ends at the first mark that is not doubled. So does a
literal, but in MySQL a backslash takes the character behind it along: it stands for itself, for a
character that is hard to write, or, before a sign of LIKE, stays where it is. What MySQL takes for
a literal may also stand between double quotes. A path into a JSON column is a literal in MySQL, and
its member is a string of JSON with escapes of its own.
-/

namespace Proximity

namespace Sql

/-- What a character stands for behind a backslash. -/
def unescaped : Char → List Char
  | '0' => ['\x00']
  | 'b' => ['\x08']
  | 'n' => ['\n']
  | 'r' => ['\r']
  | 't' => ['\t']
  | 'Z' => ['\x1a']
  | '%' => ['\\', '%']
  | '_' => ['\\', '_']
  | c => [c]

namespace Dialect

/-- The name in quotes that a text begins with, and the rest. -/
def name? (d : Dialect) : List Char → Option (String × List Char)
  | [] => none
  | c :: cs => if c = d.nameMark then Token.quotedString c cs else none

/-- What a literal says whose opening mark is passed, and the rest. -/
def literalBody? (d : Dialect) (mark : Char) : List Char → Option (List Char × List Char)
  | [] => none
  | c :: cs =>
    if c = mark then
      match cs with
      | [] => some ([], [])
      | c' :: cs' =>
        if c' = mark then (literalBody? d mark cs').map fun (s, rest) => (mark :: s, rest)
        else some ([], c' :: cs')
    else if d.escapes mark && c == '\\' then
      match cs with
      | [] => none
      | c' :: cs' => (literalBody? d mark cs').map fun (s, rest) => (unescaped c' ++ s, rest)
    else (literalBody? d mark cs).map fun (s, rest) => (c :: s, rest)

/-- The literals of a text, each with what stands behind it. Names are passed over; there is no
answer if some quotes are not closed. -/
def literals (d : Dialect) (cs : List Char) : Option (List (String × List Char)) :=
  match cs with
  | [] => some []
  | c :: cs =>
    if c = d.nameMark then
      match d.name? (c :: cs) with
      | some (_, rest) => if rest.length ≤ cs.length then literals d rest else none
      | none => none
    else if d.isQuoteMark c then
      match d.literalBody? c cs with
      | some (s, rest) =>
        if rest.length ≤ cs.length then
          (literals d rest).map ((String.ofList s, rest) :: ·)
        else none
      | none => none
    else literals d cs
termination_by cs.length

end Dialect

/-- The member that a path into a JSON document selects, if it is one in quotes and nothing more. -/
def pathMember? : List Char → Option String
  | '$' :: '.' :: cs =>
    match Json.quoted? cs with
    | some (member, []) => some member
    | _ => none
  | _ => none

/-- The key that is looked up where a literal is put for one: PostgreSQL takes it as it is, MySQL
reads it as a path. -/
def Dialect.lookedUp? : Dialect → String → Option String
  | .mysql, path => pathMember? path.toList
  | .postgres, key => some key

end Sql

end Proximity
