import Mathlib.Data.List.Nodup
import Proximity.Proofs.BoundValues
import Proximity.Proofs.DecimalText
import Proximity.Sql.Marks

/-!
# The marks of the bound values

Whoever reads a statement without knowing its trees passes over names and texts in quotes and finds
the marks in what is left (`marks`). What a row of fragments holds besides its values is free of
marks outside quotes, and a quoted part ends where it should, whatever it holds. So the marks found
are those of the values in their order, and the `k`-th of them is the mark of the `k`-th value
(`Marked.marks`).
-/

namespace Proximity

namespace Sql

open Fragment

/-- The characters that begin a quoted part or a mark in one of the dialects. -/
def markChars : List Char :=
  ['\'', '"', '\x60', '?', '$']

/-- A character that is no mark of anything. -/
def isQuiet (c : Char) : Bool :=
  !markChars.contains c

/-- A text that holds no marks. -/
def Quiet (cs : List Char) : Prop :=
  cs.all isQuiet = true

instance (cs : List Char) : Decidable (Quiet cs) :=
  inferInstanceAs (Decidable (cs.all isQuiet = true))

variable {d : Dialect}

theorem isQuoteMark_of_isQuiet {c : Char} (h : isQuiet c = true) : d.isQuoteMark c = false := by
  rcases d with _ | _ <;> simp_all [isQuiet, markChars, Dialect.isQuoteMark, Dialect.nameMark]

theorem ne_sign_of_isQuiet {c : Char} (h : isQuiet c = true) : c ≠ d.sign := by
  rcases d with _ | _ <;> rintro rfl <;> cases h

theorem outside_quiet {cs : List Char} (h : Quiet cs) (rest : List Char) :
    outside d .plain (cs ++ rest) = cs ++ outside d .plain rest := by
  induction cs with
  | nil => rfl
  | cons c cs ih =>
    rw [Quiet, List.all_cons, Bool.and_eq_true] at h
    rw [List.cons_append, outside, Quoting.next, isQuoteMark_of_isQuiet h.1,
      if_neg Bool.false_ne_true, ih h.2, List.cons_append]

theorem signs_quiet {cs : List Char} (h : Quiet cs) (rest : List Char) :
    signs d (cs ++ rest) = signs d rest := by
  induction cs with
  | nil => rfl
  | cons c cs ih =>
    rw [Quiet, List.all_cons, Bool.and_eq_true] at h
    rw [List.cons_append, signs, if_neg (ne_sign_of_isQuiet h.1), ih h.2]

theorem quiet_of_all {p : Char → Bool} (hp : markChars.all (fun c => !p c) = true)
    {cs : List Char} (h : ∀ c ∈ cs, p c = true) : Quiet cs := by
  refine List.all_eq_true.mpr fun c hc => ?_
  by_contra hq
  have hm : c ∈ markChars := by simpa [isQuiet] using hq
  have hn := List.all_eq_true.mp hp c hm
  rw [h c hc] at hn
  cases hn

theorem quiet_of_inNumber {cs : List Char} (h : ∀ c ∈ cs, Decimal.inNumber c = true) :
    Quiet cs :=
  quiet_of_all (by decide) h

theorem quiet_of_isWord {w : String} (h : Token.isWord w = true) : Quiet w.toList :=
  quiet_of_all (by decide) (Token.isWord_iff.mp h).1

theorem isQuoteMark_nameMark : d.isQuoteMark d.nameMark = true := by
  rcases d with _ | _ <;> rfl

theorem isQuoteMark_apostrophe : d.isQuoteMark '\'' = true := by
  rcases d with _ | _ <;> rfl

theorem ne_sign_of_isQuoteMark {c : Char} (h : d.isQuoteMark c = true) : c ≠ d.sign := by
  rcases d with _ | _ <;> rintro rfl <;> cases h

theorem not_escaped {mark c : Char} {cs : List Char}
    (h : d.escapes mark = true → '\\' ∉ c :: cs) : (d.escapes mark && c == '\\') = false := by
  by_contra hn
  simp only [Bool.not_eq_false, Bool.and_eq_true, beq_iff_eq] at hn
  exact h hn.1 (by rw [hn.2]; exact List.mem_cons_self)

/-- A doubled mark closes the quotes and opens them again, and so nothing is found in what is
quoted. -/
theorem signs_doubled {mark : Char} (hm : d.isQuoteMark mark = true) (rest : List Char) :
    ∀ cs : List Char, (d.escapes mark = true → '\\' ∉ cs) →
      signs d (outside d (.within mark)
        (cs.flatMap (fun c => if c = mark then [c, c] else [c]) ++ mark :: rest)) =
          signs d (outside d .plain rest)
  | [], _ => by simp [outside, Quoting.next]
  | c :: cs, h => by
    have ih := signs_doubled hm rest cs fun he hc => h he (List.mem_cons_of_mem c hc)
    by_cases hc : c = mark
    · -- the first of the two marks closes the quotes, the second opens them again
      simp [hc, outside, Quoting.next, hm, signs, ne_sign_of_isQuoteMark hm, ih]
    · simp [hc, outside, Quoting.next, not_escaped h, ih]

theorem signs_enclosed {mark : Char} (hm : d.isQuoteMark mark = true) {s : String}
    (h : d.escapes mark = true → '\\' ∉ s.toList) (rest : List Char) :
    signs d (outside d .plain ((enclosed mark s).toList ++ rest)) =
      signs d (outside d .plain rest) := by
  rw [toList_enclosed, outside, Quoting.next, if_pos hm, signs, if_neg (ne_sign_of_isQuoteMark hm)]
  exact signs_doubled hm rest s.toList h

theorem quiet_digits (k : Nat) : Quiet (Decimal.digits k) :=
  quiet_of_inNumber fun _ => Decimal.inNumber_of_mem_digits

theorem outside_boundary {rest : List Char} (h : Boundary rest) :
    ∀ c ∈ (outside d .plain rest).head?, c.isDigit = false := by
  rcases rest with _ | ⟨c, cs⟩
  · rintro c ⟨⟩
  · rintro c' ⟨⟩
    rcases h c rfl with rfl | rfl | rfl <;> rfl

theorem placeholder_mysql (k : Nat) : Dialect.mysql.placeholder k = String.ofList ['?'] := rfl

theorem placeholder_postgres (k : Nat) :
    Dialect.postgres.placeholder k = String.ofList ('$' :: Decimal.digits k) := by
  simp [Dialect.placeholder]

theorem signs_placeholder (k : Nat) {rest : List Char} (h : Boundary rest) :
    signs d (outside d .plain ((d.placeholder k).toList ++ rest)) =
      d.placeholder k :: signs d (outside d .plain rest) := by
  rcases d with _ | _
  · rw [placeholder_mysql, String.toList_ofList]
    rfl
  · have hs : (Decimal.digits k ++ outside .postgres .plain rest).span Char.isDigit =
        (Decimal.digits k, outside .postgres .plain rest) :=
      span_of_all (fun _ => Decimal.isDigit_of_mem_digits) _ (outside_boundary h)
    have ht : (Decimal.digits k ++ outside .postgres .plain rest).takeWhile Char.isDigit =
        Decimal.digits k := by
      rw [List.span_eq_takeWhile_dropWhile] at hs
      exact congrArg Prod.fst hs
    have hn : Quoting.plain.next .postgres '$' = .plain := rfl
    have hsign : '$' = Dialect.postgres.sign := rfl
    rw [placeholder_postgres, String.toList_ofList, List.cons_append, outside, hn,
      outside_quiet (quiet_digits k), signs, if_pos hsign, signs_quiet (quiet_digits k),
      Dialect.signNumber, ht]

/-- The marks found in a row of fragments are those of its values, wherever it stands. -/
def Marked (d : Dialect) (fs : List Fragment) : Prop :=
  ∀ n rest, Boundary rest →
    signs d (outside d .plain (written d n fs ++ rest)) =
      (List.range' (n + 1) (params fs).length).map d.placeholder ++
        signs d (outside d .plain rest)

theorem marked_nil : Marked d [] :=
  fun _ _ _ => rfl

theorem Marked.text {s : String} {fs : List Fragment} (h : Marked d fs) (hs : Quiet s.toList) :
    Marked d (.text s :: fs) := by
  intro n rest hr
  rw [written_text, List.append_assoc, outside_quiet hs, signs_quiet hs, h n rest hr, params_text]

theorem Marked.name {fs : List Fragment} (h : Marked d fs) (a : String) :
    Marked d (.name a :: fs) := by
  intro n rest hr
  have hq : d.escapes d.nameMark = true → '\\' ∉ a.toList := by
    intro he
    simp [Dialect.escapes] at he
  rw [written_name, List.append_assoc, Dialect.quote, signs_enclosed isQuoteMark_nameMark hq,
    h n rest hr, params_name]

theorem Marked.literal {s : String} {fs : List Fragment} (h : Marked d fs)
    (hs : '\\' ∉ s.toList) : Marked d (.literal s :: fs) := by
  intro n rest hr
  rw [written_literal, List.append_assoc, signs_enclosed isQuoteMark_apostrophe fun _ => hs,
    h n rest hr, params_literal]

theorem marked_bound (p : Param) : Marked d [.bound p] := by
  intro n rest hr
  rw [written_bound, written_nil, List.append_nil, signs_placeholder (n + 1) hr]
  rfl

theorem Marked.append {fs gs : List Fragment} (hf : Marked d fs) (hg : Marked d gs)
    (hs : Starts d gs) : Marked d (fs ++ gs) := by
  intro n rest hr
  have hrange : List.range' (n + 1) (params (fs ++ gs)).length =
      List.range' (n + 1) (params fs).length ++
        List.range' (n + (params fs).length + 1) (params gs).length := by
    rw [params_append, List.length_append, ← List.range'_append_1]
    congr 2
    omega
  rw [written_append, List.append_assoc, hf n _ (hs _ rest hr), hg _ rest hr, hrange,
    List.map_append, List.append_assoc]

theorem Marked.before_text {fs gs : List Fragment} {s : String} (hf : Marked d fs)
    (hg : Marked d gs) (hs : Quiet s.toList) (hb : s.toList.head? = some ' ') :
    Marked d (fs ++ .text s :: gs) :=
  hf.append (hg.text hs) (starts_text hb gs)

theorem Marked.parenthesized {fs : List Fragment} (h : Marked d fs) :
    Marked d (parenthesized fs) := by
  have hclose : Starts d [.text ")"] := by
    intro n rest _
    have ht : written d n [.text ")"] ++ rest = ')' :: rest := by simp
    rw [ht]
    exact boundary_rparen rest
  exact (h.append (marked_nil.text (by decide)) hclose).text (by decide)

theorem Marked.operand {fs : List Fragment} (h : Marked d fs) (e : Expr) (outer : ArithOp)
    (onRight : Bool) : Marked d (e.operand outer onRight fs) := by
  unfold Expr.operand
  split
  · exact h.parenthesized
  · exact h

theorem Marked.separate {s : String} (hq : Quiet s.toList)
    (hs : ∀ gs, Starts d (.text s :: gs)) : ∀ {rows : List (List Fragment)},
    (∀ row ∈ rows, Marked d row) → Marked d (separate s rows)
  | [], _ => marked_nil
  | [row], h => h row List.mem_cons_self
  | row :: _ :: _, h =>
    (h row List.mem_cons_self).append
      ((Marked.separate hq hs fun r hr => h r (List.mem_cons_of_mem row hr)).text hq) (hs _)

theorem starts_comma (gs : List Fragment) : Starts d (.text ", " :: gs) := by
  intro n rest _
  have ht : written d n (.text ", " :: gs) ++ rest = ',' :: ' ' :: (written d n gs ++ rest) := by
    simp
  rw [ht]
  exact boundary_comma _

theorem Marked.commas {rows : List (List Fragment)} (h : ∀ row ∈ rows, Marked d row) :
    Marked d (Fragment.separate ", " rows) :=
  Marked.separate (by decide) starts_comma h

theorem Marked.column {gs : List Fragment} (h : Marked d gs) (c : Column) :
    Marked d (c.fragments ++ gs) := by
  rcases c with ⟨_ | table, a⟩
  · exact h.name a
  · exact ((h.name a).text (by decide)).name table

/-! ## Trees -/

mutual

/-- An expression whose functions have plain identifiers for names and whose keys are free of
quotes and backslashes. -/
def Expr.Tidy : Expr → Prop
  | .call function args => Token.isWord function = true ∧ Expr.TidyAll args
  | .binary _ left right => left.Tidy ∧ right.Tidy
  | .group e => e.Tidy
  | .jsonNumber _ key => PlainKey key
  | _ => True

def Expr.TidyAll : List Expr → Prop
  | [] => True
  | e :: es => e.Tidy ∧ Expr.TidyAll es

end

mutual

def Condition.Tidy : Condition → Prop
  | .compare _ left right => left.Tidy ∧ right.Tidy
  | .isNull e => e.Tidy
  | .neg c => c.Tidy
  | .conj cs | .disj cs => Condition.TidyAll cs

def Condition.TidyAll : List Condition → Prop
  | [] => True
  | c :: cs => c.Tidy ∧ Condition.TidyAll cs

end

def Item.Tidy : Item → Prop
  | .expr e => e.Tidy
  | .condition c => c.Tidy
  | .column _ => True

/-- An element query all of whose expressions are such. -/
structure ElementQuery.Tidy (q : ElementQuery) : Prop where
  selects : ∀ p ∈ q.selects, p.expr.Tidy
  subquerySelects : ∀ p ∈ q.subquerySelects, p.expr.Tidy
  joins : ∀ j ∈ q.joins, j.on.Tidy
  wheres : ∀ c ∈ q.wheres, c.Tidy
  havings : ∀ c ∈ q.havings, c.Tidy

theorem marked_jsonAccess (c : Column) {key : String} (h : PlainKey key) :
    Marked d (jsonAccess d c.fragments key) := by
  rcases d with _ | _
  · have hk : '\\' ∉ ("$.\"" ++ key ++ "\"").toList := by simp [h.2.2]
    have hend := ((marked_nil (d := .mysql)).text (s := ")") (by decide)).literal hk
    exact ((hend.text (by decide)).column c).text (by decide)
  · have hend := ((marked_nil (d := .postgres)).text (s := ") AS DOUBLE PRECISION)")
      (by decide)).literal h.2.2
    exact ((hend.text (by decide)).column c).text (by decide)

theorem quiet_sign (op : ArithOp) : Quiet (" " ++ op.sign ++ " ").toList := by
  cases op <;> decide

theorem quiet_comparison (op : Comparison) : Quiet (" " ++ op.sign ++ " ").toList := by
  cases op <;> decide

mutual

theorem Expr.marked : ∀ {e : Expr}, e.Tidy → Marked d (e.fragments d)
  | .column c, _ => by
    have h := marked_nil.column c (d := d)
    rwa [List.append_nil] at h
  | .alias a, _ => marked_nil.name a
  | .int _, _ => marked_nil.text (quiet_of_inNumber fun _ => Decimal.inNumber_of_mem_integer)
  | .float _, _ => marked_nil.text (quiet_of_inNumber fun _ => Decimal.inNumber_of_mem_writeFloat)
  | .null, _ => marked_nil.text (by decide)
  | .param p, _ => marked_bound p
  | .call _ _, h =>
    (Marked.commas (Expr.marked_all h.2)).parenthesized.text (quiet_of_isWord h.1)
  | .binary op left right, h =>
    ((Expr.marked h.1).operand left op false).before_text
      ((Expr.marked h.2).operand right op true) (quiet_sign op) (by cases op <;> rfl)
  | .group e, h => (Expr.marked (show e.Tidy from h)).parenthesized
  | .jsonNumber c _, h => marked_jsonAccess c h

theorem Expr.marked_all : ∀ {es : List Expr}, Expr.TidyAll es →
    ∀ row ∈ Expr.fragmentsAll d es, Marked d row
  | [], _ => fun _ hr => absurd hr List.not_mem_nil
  | _ :: _, h => List.forall_mem_cons.mpr ⟨Expr.marked h.1, Expr.marked_all h.2⟩

end

theorem Marked.enclosed {fs : List Fragment} (h : Marked d fs) (c : Condition) :
    Marked d (c.enclosed fs) := by
  cases c <;> first | exact h | exact h.parenthesized

theorem Marked.junction {rows : List (List Fragment)} {word none : String}
    (h : ∀ row ∈ rows, Marked d row) (hw : Quiet (" " ++ word ++ " ").toList)
    (hn : Quiet none.toList) : Marked d (junction word none rows) := by
  rcases rows with _ | ⟨row, rows⟩
  · exact marked_nil.text hn
  · exact (Marked.separate hw (starts_text (by simp)) h).parenthesized

mutual

theorem Condition.marked : ∀ {c : Condition}, c.Tidy → Marked d (c.fragments d)
  | .compare op _ _, h =>
    (Expr.marked h.1).before_text (Expr.marked h.2) (quiet_comparison op) (by cases op <;> rfl)
  | .isNull e, h =>
    (Expr.marked (show e.Tidy from h)).before_text marked_nil (by decide) (by decide)
  | .neg c, h => ((Condition.marked (show c.Tidy from h)).enclosed c).text (by decide)
  | .conj _, h => Marked.junction (Condition.marked_all h) (by decide) (by decide)
  | .disj _, h => Marked.junction (Condition.marked_all h) (by decide) (by decide)

theorem Condition.marked_all : ∀ {cs : List Condition}, Condition.TidyAll cs →
    ∀ row ∈ Condition.fragmentsAll d cs, Marked d row
  | [], _ => fun _ hr => absurd hr List.not_mem_nil
  | _ :: _, h => List.forall_mem_cons.mpr ⟨Condition.marked h.1, Condition.marked_all h.2⟩

end

theorem Item.marked : ∀ {i : Item}, i.Tidy → Marked d (i.fragments d)
  | .expr _, h => Expr.marked h
  | .condition _, h => Condition.marked h
  | .column c, _ => by
    have h := marked_nil.column c (d := d)
    rwa [List.append_nil] at h

theorem Projection.marked {p : Projection} (h : p.expr.Tidy) : Marked d (p.fragments d) := by
  rcases p with ⟨e, _ | a⟩
  · exact Expr.marked h
  · exact (Expr.marked h).before_text (marked_nil.name a) (by decide) (by decide)

theorem Join.marked {j : Join} (h : j.on.Tidy) : Marked d (j.fragments d) := by
  have hon := (Condition.marked (d := d) h).text (s := " ON ") (by decide)
  exact (((hon.name j.alias).text (by decide)).name j.table).text (by decide)

theorem marked_joins : ∀ {js : List Join}, (∀ j ∈ js, j.on.Tidy) →
    Marked d (js.flatMap (·.fragments d))
  | [], _ => marked_nil
  | _ :: js, h =>
    (Join.marked (List.forall_mem_cons.mp h).1).append
      (marked_joins (List.forall_mem_cons.mp h).2) (starts_joins js)

theorem marked_clause {word : String} (hw : Quiet (" " ++ word ++ " ").toList)
    {cs : List Condition} (h : ∀ c ∈ cs, c.Tidy) : Marked d (clause d word cs) := by
  rcases cs with _ | ⟨c, cs⟩
  · exact marked_nil
  · refine Marked.text (Marked.separate (by decide) (starts_text (by decide)) ?_) hw
    intro row hr
    obtain ⟨c', hc, rfl⟩ := List.mem_map.mp hr
    exact Condition.marked (h c' hc)

theorem marked_columns {ps : List Projection} (h : ∀ p ∈ ps, p.expr.Tidy) :
    ∀ row ∈ ps.map (·.fragments d), Marked d row := by
  intro row hr
  obtain ⟨p, hp, rfl⟩ := List.mem_map.mp hr
  exact Projection.marked (h p hp)

namespace ElementQuery

theorem marked_source : Marked d source := by
  have hid : Marked d (Column.of elementsTable "id").fragments := by
    have h := marked_nil.column (Column.of elementsTable "id") (d := d)
    rwa [List.append_nil] at h
  have hon := (hid.text (s := " = ") (by decide)).column (Column.of sitesTable "elementId")
  exact ((((hon.text (by decide)).name sitesTable).text (by decide)).name elementsTable).text
    (by decide)

variable {q : ElementQuery}

theorem marked_subquery (h : q.Tidy) : Marked q.dialect q.subquery := by
  have hcolumns := Marked.commas (marked_columns (d := q.dialect) h.subquerySelects)
  have hwheres : Marked q.dialect (clause q.dialect "WHERE" q.wheres) :=
    marked_clause (by decide) h.wheres
  have hhavings : Marked q.dialect (clause q.dialect "HAVING" q.havings) :=
    marked_clause (by decide) h.havings
  have hsource := hcolumns.append marked_source (starts_text rfl _)
  have hjoins := hsource.append (marked_joins h.joins) (starts_joins q.joins)
  have hbody := (hjoins.append hwheres (starts_clause "WHERE" q.wheres)).append hhavings
    (starts_clause "HAVING" q.havings)
  exact hbody.text (by decide)

theorem marked_fragments (h : q.Tidy) : Marked q.dialect q.fragments := by
  have hstar : Marked q.dialect [.name subqueryAlias, .text ".*"] :=
    (marked_nil.text (by decide)).name subqueryAlias
  have hcolumns := Marked.commas
    (List.forall_mem_cons.mpr ⟨hstar, marked_columns (d := q.dialect) h.selects⟩)
  have hend : Marked q.dialect [.text ") ", .name subqueryAlias] :=
    (marked_nil.name subqueryAlias).text (by decide)
  have hbody := (marked_subquery h).append hend starts_end
  rw [fragments_eq]
  exact (hcolumns.before_text hbody (by decide) (by decide)).text (by decide)

end ElementQuery

/-! ## Statements -/

theorem Marked.marks {fs : List Fragment} (h : Marked d fs) (n : Nat) :
    marks d (spellAll d n fs) = (List.range' (n + 1) (params fs).length).map d.placeholder := by
  have hm := h n [] boundary_nil
  rwa [List.append_nil, outside, signs, List.append_nil] at hm

theorem marks_spellRows : ∀ {rows : List (List Fragment)} (n : Nat),
    (∀ row ∈ rows, Marked d row) →
      (spellRows d n rows).flatMap (marks d) =
        (List.range' (n + 1) (params rows.flatten).length).map d.placeholder
  | [], _, _ => rfl
  | row :: rows, n, h => by
    rw [spellRows, List.flatMap_cons, (h row List.mem_cons_self).marks,
      marks_spellRows _ fun r hr => h r (List.mem_cons_of_mem row hr), List.flatten_cons,
      params_append, List.length_append, ← List.map_append, ← List.range'_append_1]
    congr 3
    omega

theorem placeholder_injective : Function.Injective Dialect.postgres.placeholder := by
  intro k k' h
  rw [placeholder_postgres, placeholder_postgres] at h
  have hd := (List.cons.inj (String.ofList_injective h)).2
  rw [← Decimal.ofDigits_digits k, hd, Decimal.ofDigits_digits]

/-- The marks found in a statement are those of `n` values in their order: as many question marks
on MySQL, and on PostgreSQL the numbers from one to `n`, each of them once. -/
def Numbered (d : Dialect) (found : List String) (n : Nat) : Prop :=
  match d with
  | .mysql => found = List.replicate n "?"
  | .postgres =>
    found = (List.range' 1 n).map (fun k => "$" ++ String.ofList (Decimal.digits k)) ∧ found.Nodup

theorem numbered_of_eq {found : List String} {n : Nat}
    (h : found = (List.range' 1 n).map d.placeholder) : Numbered d found n := by
  rcases d with _ | _
  · have hc : (List.range' 1 n).map Dialect.mysql.placeholder = List.replicate n "?" := by
      have hl : (List.range' 1 n).map (fun _ => "?") = List.replicate _ "?" := List.map_const'
      rwa [List.length_range'] at hl
    exact h.trans hc
  · refine ⟨h, ?_⟩
    rw [h]
    exact List.Nodup.map placeholder_injective List.nodup_range'

/-- Values and marks stay aligned. What one writer makes of items, or of an element query, is the
text that their fragments make up; the values that it collects are the leaves in their order; the
marks in the text outside quotes are those of as many values, in their order; and other values in
the place of some leave the text as it is and change the values collected there and nowhere
else. -/
theorem placeholders_aligned (f : Nat → Param → Param) :
    (∀ (d : Dialect) (items : List Item),
      let written := writeItems d items
      written.1 = spellRows d 0 (items.map (·.fragments d)) ∧
      written.2 = items.flatMap Item.leaves ∧
      ((∀ i ∈ items, i.Tidy) → Numbered d (written.1.flatMap (marks d)) written.2.length) ∧
      writeItems d (replaceEach Item.leaves (Item.replace f) 0 items) =
        (written.1, written.2.mapIdx f)) ∧
    ∀ q : ElementQuery,
      let written := q.render
      written.sql = spellAll q.dialect 0 q.fragments ∧
      written.params = q.leaves ∧
      (q.Tidy → Numbered q.dialect (marks q.dialect written.sql) written.params.length) ∧
      (q.replace f).render = ⟨written.sql, written.params.mapIdx f⟩ := by
  constructor
  · intro d items written
    have hw := writeItems_eq items (d := d)
    refine ⟨congrArg Prod.fst hw, ?_, ?_, writeItems_replace items⟩
    · exact (congrArg Prod.snd hw).trans (params_flatMap Item.params_eq_leaves items)
    · intro h
      have hm : ∀ row ∈ items.map (·.fragments d), Marked d row := by
        intro row hr
        obtain ⟨i, hi, rfl⟩ := List.mem_map.mp hr
        exact Item.marked (h i hi)
      refine numbered_of_eq ?_
      simp only [written, hw, List.flatMap_def]
      exact marks_spellRows 0 hm
  · intro q written
    have hw : written = q.statement := q.render_eq_statement
    refine ⟨congrArg Statement.sql hw, ?_, ?_, q.render_replace⟩
    · exact (congrArg Statement.params hw).trans q.params_eq_leaves
    · intro h
      refine numbered_of_eq ?_
      rw [hw]
      exact (ElementQuery.marked_fragments h).marks 0

/-- Marks that stand in names, keys and values are none, and the value that is bound last is the one
that was added first. -/
theorem placeholders_aligned_outer_first :
    let e : Expr := .binary .sub (.param (.int 3))
      (.call "COALESCE" [.jsonNumber (.bare "what?") "cost $1", .param (.string "it's $7")])
    let q := (((ElementQuery.new .postgres).restrict .inHaving (.isNull (.param (.int 9)))).select
      ⟨e, some "a \"$5\" ?"⟩).join ⟨"t?", "t", .compare .eq (.param (.int 4)) .null⟩
    let f : Nat → Param → Param := fun k p => if k = 1 then .int 0 else p
    q.Tidy ∧ q.render.params = [.int 3, .string "it's $7", .int 4, .int 9] ∧
      marks .postgres q.render.sql = ["$1", "$2", "$3", "$4"] ∧
      (q.replace f).render = ⟨q.render.sql, [.int 3, .int 0, .int 4, .int 9]⟩ ∧
      (writeItems .mysql [.expr e, .column (.bare "?"), .expr e]).1.flatMap (marks .mysql) =
        ["?", "?", "?", "?"] := by
  intro e q f
  obtain ⟨hitems, hquery⟩ := placeholders_aligned f
  have hk : PlainKey "cost $1" := ⟨by decide, by decide, by decide⟩
  have he : e.Tidy := ⟨trivial, by decide, hk, trivial, trivial⟩
  have ht : q.Tidy := {
    selects := List.forall_mem_singleton.mpr he
    subquerySelects := List.forall_mem_cons.mpr ⟨trivial, List.forall_mem_singleton.mpr trivial⟩
    joins := List.forall_mem_singleton.mpr ⟨trivial, trivial⟩
    wheres := fun _ hc => absurd hc List.not_mem_nil
    havings := List.forall_mem_singleton.mpr trivial }
  obtain ⟨-, hparams, hmarks, hreplace⟩ := hquery q
  obtain ⟨-, hvalues, hfound, -⟩ := hitems .mysql [.expr e, .column (.bare "?"), .expr e]
  have hp : q.render.params = [.int 3, .string "it's $7", .int 4, .int 9] := hparams.trans rfl
  have hm := (hmarks ht).1
  have hi := hfound (List.forall_mem_cons.mpr ⟨he, List.forall_mem_cons.mpr
    ⟨trivial, List.forall_mem_singleton.mpr he⟩⟩)
  rw [hp] at hm hreplace
  rw [hvalues] at hi
  exact ⟨ht, hp, hm.trans (by decide), hreplace, hi⟩

end Sql

end Proximity
