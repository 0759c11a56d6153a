import Proximity.Sql.Meaning
import Proximity.Sql.Token

/-!
# Reading a statement

Tokens are read from left to right into a tree. What waits for its right side is kept on a stack;
when an operator follows, all that binds at least as strongly and waits is completed first, so that
operators of one strength associate to the left. A product binds stronger than a sum or a
difference, these stronger than a comparison and IS NULL, and then come NOT, AND and OR.

A tree has one value, which is a number, a text, a truth value or NULL, and where a truth value is
asked for, NULL stands for the unknown.
-/

namespace Proximity

namespace Sql

/-- An operator between two operands. -/
inductive Infix where
  | disj
  | conj
  | compare (op : Comparison)
  | arith (op : ArithOp)
deriving DecidableEq

/-- What is read from a text. -/
inductive Tree where
  | column (c : Column)
  | number (x : ℚ)
  | null
  | truth (b : Bool)
  | placeholder (k : Nat)
  | call (function : String) (args : List Tree)
  /-- The number under a key in a JSON column. -/
  | json (c : Column) (key : String)
  | minus (t : Tree)
  | binary (op : Infix) (left right : Tree)
  | isNull (t : Tree)
  | neg (t : Tree)

namespace Infix

/-- How strongly an operator binds. -/
def strength : Infix → Nat
  | disj => 1
  | conj => 2
  | compare _ => 4
  | arith .add | arith .sub => 5
  | arith .mul => 6

end Infix

/-- How strongly NOT binds. -/
def negStrength : Nat := 3

/-- How strongly IS NULL binds. -/
def isNullStrength : Nat := 4

/-- How strongly a sign binds. -/
def minusStrength : Nat := 7

/-- What waits for the tokens that follow. -/
inductive Pending where
  | binary (op : Infix) (left : Tree)
  | neg
  | minus
  | group
  /-- A function whose parenthesis is open, with the arguments before the current one. -/
  | call (function : String) (args : List Tree)
  | cast
  /-- A JSON column whose key is to come. -/
  | key (c : Column)
  /-- Tokens that have to come before a tree is complete. -/
  | expect (tokens : List Token) (t : Tree)

namespace Reader

/-- The key that a path into a JSON column leads to. -/
def pathKey? (path : String) : Option String :=
  match path.toList with
  | '$' :: '.' :: '"' :: cs =>
    match Token.quoted '"' cs with
    | some (key, []) => if key.contains '"' || key.contains '\\' then none
      else some (String.ofList key)
    | _ => none
  | _ => none

/-- What waits and binds at least as strongly as `k` is completed with what was read last. -/
def reduce (k : Nat) : List Pending → Tree → List Pending × Tree
  | .binary op left :: s, t =>
    if k ≤ op.strength then reduce k s (.binary op left t) else (.binary op left :: s, t)
  | .neg :: s, t => if k ≤ negStrength then reduce k s (.neg t) else (.neg :: s, t)
  | .minus :: s, t => if k ≤ minusStrength then reduce k s (.minus t) else (.minus :: s, t)
  | s, t => (s, t)

/-- What waits, and what was read last unless an operand is to come. -/
abbrev State := List Pending × Option Tree

/-- A token where an operand is to come. -/
def operand (s : List Pending) : Token → Option State
  | .column c => some (s, some (.column c))
  | .number x => some (s, some (.number x))
  | .placeholder k => some (s, some (.placeholder k))
  | .call function => some (.call function [] :: s, none)
  | .arith .sub => some (.minus :: s, none)
  | .lparen => some (.group :: s, none)
  | .rparen =>
    match s with
    | .call function [] :: s => some (s, some (.call function []))
    | _ => none
  | .literal l =>
    match s with
    | .call "JSON_EXTRACT" [.column c] :: s =>
      (pathKey? l).map fun key => (.expect [.rparen] (.json c key) :: s, none)
    | .key c :: s =>
      some (.expect [.rparen, .word "AS", .word "DOUBLE", .word "PRECISION", .rparen]
        (.json c l) :: s, none)
    | _ => none
  | .word w =>
    match w with
    | "NULL" => some (s, some .null)
    | "TRUE" => some (s, some (.truth true))
    | "FALSE" => some (s, some (.truth false))
    | "NOT" => some (.neg :: s, none)
    | "CAST" => some (.cast :: s, none)
    | _ => none
  | _ => none

/-- An operator behind what was read last. -/
def between (op : Infix) (s : List Pending) (t : Tree) : State :=
  let (s, t) := reduce op.strength s t
  (.binary op t :: s, none)

/-- A token where an operator is to come. -/
def operator (s : List Pending) (t : Tree) : Token → Option State
  | .arith op => some (between (.arith op) s t)
  | .compare op => some (between (.compare op) s t)
  | .word w =>
    match w with
    | "AND" => some (between .conj s t)
    | "OR" => some (between .disj s t)
    | "IS" =>
      let (s, t) := reduce isNullStrength s t
      some (.expect [.word "NULL"] (.isNull t) :: s, none)
    | _ => none
  | .arrow =>
    match s, t with
    | .group :: .group :: .cast :: s, .column c => some (.key c :: s, none)
    | _, _ => none
  | .comma =>
    match reduce 0 s t with
    | (.call function args :: s, t) => some (.call function (args ++ [t]) :: s, none)
    | _ => none
  | .rparen =>
    match reduce 0 s t with
    | (.group :: s, t) => some (s, some t)
    | (.call function args :: s, t) => some (s, some (.call function (args ++ [t])))
    | _ => none
  | _ => none

/-- What one more token changes. -/
def step : State → Token → Option State
  | (.expect tokens t :: s, none), token =>
    match tokens with
    | [] => none
    | [last] => if token = last then some (s, some t) else none
    | first :: rest => if token = first then some (.expect rest t :: s, none) else none
  | (s, none), token => operand s token
  | (s, some t), token => operator s t token

/-- What several tokens change. -/
def run (s : State) (tokens : List Token) : Option State :=
  tokens.foldlM step s

/-- The tree that is complete once nothing waits any more. -/
def finish : State → Option Tree
  | (s, some t) =>
    match reduce 0 s t with
    | ([], t) => some t
    | _ => none
  | (_, none) => none

end Reader

/-- The tree that tokens stand for. -/
def Tree.ofTokens? (tokens : List Token) : Option Tree :=
  (Reader.run ([], none) tokens).bind Reader.finish

/-- The tree that a text stands for. -/
def Tree.read? (d : Dialect) (text : String) : Option Tree :=
  (lex d 0 text.toList).bind Tree.ofTokens?

/-- The truth value that a value stands for; only zero among the numbers is false. -/
def Value.toTruth : Value ℚ → Truth
  | .null => none
  | .number x => some (x ≠ 0)
  | .text _ => none
  | .truth b => some b

/-- A truth value as a value; the unknown is NULL. -/
def Truth.toValue : Truth → Value ℚ
  | none => .null
  | some b => .truth b

/-- What an operator makes of two values. -/
def Infix.apply (I : Interpretation ℚ) : Infix → Value ℚ → Value ℚ → Value ℚ
  | .disj, v, w => (Truth.either v.toTruth w.toTruth).toValue
  | .conj, v, w => (Truth.both v.toTruth w.toTruth).toValue
  | .compare op, v, w => (I.compare op v w).toValue
  | .arith op, v, w => I.arith op v w

/-- The value bound to a statement with a number, counted from one. -/
def Interpretation.bound (I : Interpretation ℚ) (params : List Param) : Nat → Value ℚ
  | 0 => .null
  | k + 1 => ((params[k]?).map I.param).getD .null

mutual

/-- The value of a tree whose placeholders stand for `params`. -/
def Tree.value (I : Interpretation ℚ) (params : List Param) : Tree → Value ℚ
  | .column c => I.column c
  | .number x => .number x
  | .null => .null
  | .truth b => .truth b
  | .placeholder k => I.bound params k
  | .call function args => I.function function (Tree.values I params args)
  | .json c key => I.json c key
  | .minus t => I.arith .sub (.number 0) (t.value I params)
  | .binary op left right => op.apply I (left.value I params) (right.value I params)
  | .isNull t => .truth (t.value I params).isNull
  | .neg t => (t.value I params).toTruth.contrary.toValue

/-- The values of several trees. -/
def Tree.values (I : Interpretation ℚ) (params : List Param) : List Tree → List (Value ℚ)
  | [] => []
  | t :: ts => t.value I params :: Tree.values I params ts

end

end Sql

end Proximity
