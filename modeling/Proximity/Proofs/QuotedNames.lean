import Proximity.Proofs.Lexing
import Proximity.Proofs.Writing
import Proximity.Sql.Quotes

/-!
# Names in quotes

Whatever marks a name holds, in front, among its characters or at its end, it is written so that the
first mark that is not doubled is the one that closes it. So a name is read back as it was, the
text behind it is left as it was, and nothing else is read as that name. A column of a table is told
from a column by its name alone by the point that stands behind the first name, outside of quotes.
-/

namespace Proximity

namespace Sql

variable {d : Dialect} {mark : Char}

/-- Quotes that close hold a text with doubled marks, and no mark follows them. -/
theorem Token.eq_doubled_of_quoted {cs s rest : List Char}
    (h : Token.quoted mark cs = some (s, rest)) :
    cs = s.flatMap (fun c => if c = mark then [c, c] else [c]) ++ mark :: rest ∧
      ∀ c ∈ rest.head?, c ≠ mark := by
  fun_induction Token.quoted mark cs generalizing s rest with
  | case1 => cases h
  | case2 =>
    cases h
    exact ⟨rfl, fun c hc => nomatch hc⟩
  | case3 cs ih =>
    obtain ⟨⟨s', rest'⟩, hq, heq⟩ := Option.map_eq_some_iff.mp h
    cases heq
    obtain ⟨hcs, hrest⟩ := ih hq
    exact ⟨by simp [hcs], hrest⟩
  | case4 c' cs hne =>
    cases h
    exact ⟨rfl, fun c hc => by cases hc; exact hne⟩
  | case5 c cs hne ih =>
    obtain ⟨⟨s', rest'⟩, hq, heq⟩ := Option.map_eq_some_iff.mp h
    cases heq
    obtain ⟨hcs, hrest⟩ := ih hq
    exact ⟨by simp [hcs, hne], hrest⟩

/-- Reading a name accepts what quoting writes, up to the mark that closes it, and nothing else. -/
theorem name?_eq_some_iff {cs rest : List Char} {ident : String} :
    d.name? cs = some (ident, rest) ↔
      cs = (d.quote ident).toList ++ rest ∧ ∀ c ∈ rest.head?, c ≠ d.nameMark := by
  rw [Dialect.quote, toList_enclosed]
  constructor
  · intro h
    rcases cs with _ | ⟨c, cs⟩
    · cases h
    · obtain ⟨rfl, h⟩ := Option.ite_none_right_eq_some.mp h
      obtain ⟨⟨s, rest'⟩, hq, heq⟩ := Option.map_eq_some_iff.mp h
      cases heq
      obtain ⟨hcs, hrest⟩ := Token.eq_doubled_of_quoted hq
      exact ⟨by rw [hcs, doubled, String.toList_ofList], hrest⟩
  · rintro ⟨rfl, hrest⟩
    rw [Dialect.name?, if_pos rfl, Token.quotedString_doubled ident hrest]

theorem name?_quote (ident : String) {rest : List Char}
    (h : ∀ c ∈ rest.head?, c ≠ d.nameMark) :
    d.name? ((d.quote ident).toList ++ rest) = some (ident, rest) :=
  name?_eq_some_iff.mpr ⟨rfl, h⟩

/-- The name that the text of a column begins with. -/
def Column.first (c : Column) : String :=
  c.table.getD c.name

/-- What stands behind the first name of a column. -/
def Column.behind (d : Dialect) (c : Column) : List Char :=
  if c.table.isSome then '.' :: (d.quote c.name).toList else []

theorem Column.toList_sql (c : Column) :
    (c.sql d).toList = (d.quote c.first).toList ++ c.behind d := by
  rcases c with ⟨_ | table, name⟩ <;> simp [sql, fragments, first, behind]

theorem Column.behind_head (c : Column) : ∀ m ∈ (c.behind d).head?, m ≠ d.nameMark := by
  rcases c with ⟨_ | table, name⟩
  · exact fun m hm => nomatch hm
  · rintro m ⟨⟩
    exact nameMark_ne_dot

theorem quote_injective (d : Dialect) : Function.Injective d.quote := by
  intro a b h
  have hend : ∀ c ∈ ([] : List Char).head?, c ≠ d.nameMark := by rintro c ⟨⟩
  have ha := name?_quote a hend
  rw [h, name?_quote b hend] at ha
  exact (congrArg Prod.fst (Option.some.inj ha)).symm

theorem Column.sql_injective (d : Dialect) : Function.Injective (Column.sql d) := by
  intro a b h
  have ha := name?_quote a.first a.behind_head (d := d)
  rw [← a.toList_sql, h, b.toList_sql, name?_quote b.first b.behind_head] at ha
  have hpair : (b.first, b.behind d) = (a.first, a.behind d) := Option.some.inj ha
  obtain ⟨hfirst, hbehind⟩ := Prod.mk.inj hpair
  rcases a with ⟨_ | t, n⟩ <;> rcases b with ⟨_ | t', n'⟩
  · rw [show n' = n from hfirst]
  · cases hbehind
  · cases hbehind
  · have hname : d.quote n' = d.quote n :=
      String.toList_injective (List.cons.inj hbehind).2
    rw [show t' = t from hfirst, quote_injective d hname]

/-- A name in quotes is read back as it is and with what stands behind it left over, and what is
read as a name is its text in quotes. So different names are written differently, and so are
different columns, of a table or not, whatever marks and points their names hold. -/
theorem quoted_names_recovered (d : Dialect) :
    (∀ (ident : String) (rest : List Char), (∀ c ∈ rest.head?, c ≠ d.nameMark) →
      d.name? ((d.quote ident).toList ++ rest) = some (ident, rest)) ∧
    (∀ (cs : List Char) (ident : String) (rest : List Char), d.name? cs = some (ident, rest) →
      cs = (d.quote ident).toList ++ rest ∧ ∀ c ∈ rest.head?, c ≠ d.nameMark) ∧
    Function.Injective d.quote ∧ Function.Injective (Column.sql d) :=
  ⟨fun ident _ hrest => name?_quote ident hrest, fun _ _ _ h => name?_eq_some_iff.mp h,
    quote_injective d, Column.sql_injective d⟩

/-- A name with marks all over it, before a point, and a column that is written like a column of a
table but for the doubled marks. -/
theorem quoted_names_recovered_marks :
    let name := "\"\"a\".\"b\""
    let rest := ['.', '"', 'c', '"']
    (∀ c ∈ rest.head?, c ≠ Dialect.postgres.nameMark) ∧
      Dialect.postgres.name? ((Dialect.postgres.quote name).toList ++ rest) = some (name, rest) ∧
      (Column.bare "a\".\"b").sql .postgres ≠ (Column.of "a" "b").sql .postgres := by
  intro name rest
  obtain ⟨hread, -, -, hcolumn⟩ := quoted_names_recovered .postgres
  have hdot : ∀ c ∈ rest.head?, c ≠ Dialect.postgres.nameMark := by
    rintro c ⟨⟩
    decide
  exact ⟨hdot, hread name rest hdot, fun h => nomatch congrArg Column.table (hcolumn h)⟩

end Sql

end Proximity
