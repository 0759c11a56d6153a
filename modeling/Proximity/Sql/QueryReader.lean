import Proximity.Sql.ElementQuery
import Proximity.Sql.Reader

/-!
# Reading an element query

The clauses of an element query are read one after the other. An expression or a condition in a
clause ends where a token follows that it cannot go on with: a comma, a closing parenthesis or the
word that begins what comes next.
-/

namespace Proximity

namespace Sql

/-- What is read from an element query. -/
structure ReadQuery where
  /-- The columns shown besides those of the subquery, with their aliases. -/
  selects : List (Tree × Option String)
  subquerySelects : List (Tree × Option String)
  /-- The joined tables, with the aliases and the conditions that they are joined under. -/
  joins : List (String × Option String × Tree)
  wheres : Option Tree
  havings : Option Tree

namespace ReadQuery

/-- The tree that tokens begin with, and the tokens behind it. -/
def tree? : Reader.State → List Token → Option (Tree × List Token)
  | s, [] => (Reader.finish s).map fun t => (t, [])
  | s, token :: tokens =>
    match Reader.step s token with
    | some s => tree? s tokens
    | none => (Reader.finish s).map fun t => (t, token :: tokens)

/-- The tokens behind those that have to come first. -/
def after? : List Token → List Token → Option (List Token)
  | [], tokens => some tokens
  | first :: rest, token :: tokens => if token = first then after? rest tokens else none
  | _ :: _, [] => none

/-- An alias, if there is one. -/
def alias? : List Token → Option String × List Token
  | .word "AS" :: .column ⟨none, name⟩ :: tokens => (some name, tokens)
  | tokens => (none, tokens)

/-- Columns with commas between them, at least one. -/
def columns? (tokens : List Token) : Option (List (Tree × Option String) × List Token) :=
  match tree? ([], none) tokens with
  | none => none
  | some (t, rest) =>
    let (name?, rest) := alias? rest
    match rest with
    | .comma :: rest =>
      if rest.length < tokens.length then
        (columns? rest).map fun (columns, rest) => ((t, name?) :: columns, rest)
      else none
    | rest => some ([(t, name?)], rest)
termination_by tokens.length

/-- Further columns, each behind a comma. -/
def moreColumns? : List Token → Option (List (Tree × Option String) × List Token)
  | .comma :: tokens => columns? tokens
  | tokens => some ([], tokens)

/-- What a joined table begins with: its name, its alias if it has one, and the word behind. -/
def joined? : List Token → Option (String × Option String × List Token)
  | .word "INNER" :: .word "JOIN" :: .column ⟨none, table⟩ :: .column ⟨none, name⟩ ::
      .word "ON" :: tokens => some (table, some name, tokens)
  | .word "INNER" :: .word "JOIN" :: .column ⟨none, table⟩ :: .word "ON" :: tokens =>
    some (table, none, tokens)
  | _ => none

/-- Joined tables, one behind the other. -/
def joins? (tokens : List Token) : Option (List (String × Option String × Tree) × List Token) :=
  match joined? tokens with
  | none => some ([], tokens)
  | some (table, name?, rest) =>
    match tree? ([], none) rest with
    | none => none
    | some (t, rest) =>
      if rest.length < tokens.length then
        (joins? rest).map fun (joins, rest) => ((table, name?, t) :: joins, rest)
      else none
termination_by tokens.length

/-- The condition of a clause, if the clause is there. -/
def clause? (word : String) : List Token → Option (Option Tree × List Token)
  | .word w :: tokens =>
    if w = word then (tree? ([], none) tokens).map fun (t, rest) => (some t, rest)
    else some (none, .word w :: tokens)
  | tokens => some (none, tokens)

/-- The tokens before the columns of the outer query. -/
def opening : List Token :=
  [.word "SELECT", .column (.bare subqueryAlias), .dot, .arith .mul]

/-- The tokens before the columns of the subquery. -/
def inner : List Token :=
  [.word "FROM", .lparen, .word "SELECT"]

/-- The tokens before the joined tables. -/
def source : List Token :=
  [.word "FROM", .column (.bare elementsTable)]

/-- The tokens at the end. -/
def closing : List Token :=
  [.rparen, .column (.bare subqueryAlias)]

/-- The element query that tokens stand for. -/
def ofTokens? (tokens : List Token) : Option ReadQuery := do
  let tokens ← after? opening tokens
  let (selects, tokens) ← moreColumns? tokens
  let tokens ← after? inner tokens
  let (subquerySelects, tokens) ← columns? tokens
  let tokens ← after? source tokens
  let (joins, tokens) ← joins? tokens
  let (wheres, tokens) ← clause? "WHERE" tokens
  let (havings, tokens) ← clause? "HAVING" tokens
  if tokens = closing then some ⟨selects, subquerySelects, joins, wheres, havings⟩ else none

/-- The element query that a text stands for. -/
def read? (d : Dialect) (text : String) : Option ReadQuery :=
  (lex d 0 text.toList).bind ofTokens?

end ReadQuery

end Sql

end Proximity
