import Proximity.Sql.Dialect

/-!
# Fragments of a statement

A statement is a row of fragments: text that stands as it is, names, string literals, and bound
values. Only when the row is spelled out are the bound values numbered, each by its place in the
row, so the numbers rise along the text and the values are collected in the same order. A row can
be spelled out in pieces, each behind the values that those before it bind (`spellAll_append`).
-/

namespace Proximity

namespace Sql

/-- A fragment of a statement. -/
inductive Fragment where
  | text (s : String)
  | name (ident : String)
  | literal (s : String)
  | bound (p : Param)
deriving DecidableEq

/-- A statement's text and the values bound to it, in the order of their marks. -/
structure Statement where
  sql : String
  params : List Param
deriving DecidableEq

namespace Fragment

/-- The text of a fragment; a bound value is marked by the number given. -/
def spell (d : Dialect) (number : Nat) : Fragment → String
  | .text s => s
  | .name ident => d.quote ident
  | .literal s => enclosed '\'' s
  | .bound _ => d.placeholder number

/-- The value that a fragment binds. -/
def param? : Fragment → Option Param
  | .bound p => some p
  | _ => none

/-- The number of values bound up to and with a fragment, if `n` are bound before it. -/
def count (n : Nat) (f : Fragment) : Nat :=
  if f.param?.isSome then n + 1 else n

/-- The text of a row of fragments behind `n` bound values. -/
def spellAll (d : Dialect) : (n : Nat) → List Fragment → String
  | _, [] => ""
  | n, f :: fs => f.spell d (n + 1) ++ spellAll d (f.count n) fs

/-- The values that a row of fragments binds. -/
def params (fs : List Fragment) : List Param :=
  fs.filterMap param?

/-- A row of fragments as a statement of its own. -/
def statement (d : Dialect) (fs : List Fragment) : Statement :=
  ⟨spellAll d 0 fs, params fs⟩

/-- The texts of several rows whose bound values are numbered through, behind `n` others. -/
def spellRows (d : Dialect) : (n : Nat) → List (List Fragment) → List String
  | _, [] => []
  | n, row :: rows => spellAll d n row :: spellRows d (n + (params row).length) rows

/-- Rows of fragments with a text between each two of them. -/
def separate (s : String) : List (List Fragment) → List Fragment
  | [] => []
  | [row] => row
  | row :: rows => row ++ .text s :: separate s rows

@[simp] theorem params_append (fs gs : List Fragment) :
    params (fs ++ gs) = params fs ++ params gs := by
  simp [params]

theorem params_cons (f : Fragment) (fs : List Fragment) :
    params (f :: fs) = f.param?.toList ++ params fs := by
  cases h : f.param? <;> simp [params, h]

theorem count_eq (n : Nat) (f : Fragment) : f.count n = n + f.param?.toList.length := by
  cases h : f.param? <;> simp [count, h]

/-- What stands behind a row of fragments is numbered on from the values that the row binds. -/
theorem spellAll_append (d : Dialect) (n : Nat) (fs gs : List Fragment) :
    spellAll d n (fs ++ gs) = spellAll d n fs ++ spellAll d (n + (params fs).length) gs := by
  induction fs generalizing n with
  | nil => simp [spellAll, params]
  | cons f fs ih =>
    rw [List.cons_append, spellAll, spellAll, ih, params_cons, List.length_append, count_eq,
      String.append_assoc, Nat.add_assoc]

end Fragment

end Sql

end Proximity
