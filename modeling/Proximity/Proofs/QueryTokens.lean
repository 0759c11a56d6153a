import Proximity.Proofs.WrittenTokens
import Proximity.Sql.QueryReader

/-!
# The tokens of element queries

The text of an element query is taken apart clause by clause. Each clause begins with a blank, so
that what stands in front of it ends there.
-/

namespace Proximity

namespace Sql

open Fragment

variable {d : Dialect}

/-- An element query whose expressions and conditions can be read back. -/
structure ElementQuery.Plain (q : ElementQuery) : Prop where
  selects : ∀ p ∈ q.selects, p.expr.Plain
  subquerySelects : ∀ p ∈ q.subquerySelects, p.expr.Plain
  joins : ∀ j ∈ q.joins, j.on.Plain
  wheres : Condition.PlainAll q.wheres
  havings : Condition.PlainAll q.havings

/-- The number of values that a column binds. -/
def Projection.bound (d : Dialect) (p : Projection) : Nat :=
  (params (p.fragments d)).length

/-- The number of values that a joined table binds. -/
def Join.bound (d : Dialect) (j : Join) : Nat :=
  (params (j.fragments d)).length

/-- The tokens of an alias, if there is one. -/
def aliasTokens : Option String → List Token
  | some ident => [.word "AS", .column (.bare ident)]
  | none => []

/-- The tokens of a column behind `n` bound values. -/
def Projection.tokens (d : Dialect) (n : Nat) (p : Projection) : List Token :=
  p.expr.tokens d n ++ aliasTokens p.alias?

/-- The tokens of columns with commas between them. -/
def columnTokens (d : Dialect) (n : Nat) : List Projection → List Token
  | [] => []
  | [p] => p.tokens d n
  | p :: ps => p.tokens d n ++ .comma :: columnTokens d (n + p.bound d) ps

/-- The tokens of further columns, each behind a comma. -/
def moreColumnTokens (d : Dialect) (n : Nat) : List Projection → List Token
  | [] => []
  | ps => .comma :: columnTokens d n ps

/-- The tokens that a joined table begins with. -/
def joinedTokens (table : String) (name? : Option String) : List Token :=
  [.word "INNER", .word "JOIN", .column (.bare table)] ++
    name?.toList.map (fun name => .column (.bare name)) ++ [.word "ON"]

/-- The tokens of joined tables behind `n` bound values. -/
def joinTokens (d : Dialect) (n : Nat) : List Join → List Token
  | [] => []
  | j :: js => joinedTokens j.table (some j.alias) ++ j.on.tokens d n ++
      joinTokens d (n + j.bound d) js

/-- The tokens of a clause, if there are conditions in it. -/
def clauseTokens (d : Dialect) (word : String) (n : Nat) : List Condition → List Token
  | [] => []
  | cs => .word word :: Condition.tokensAll d "AND" n cs

/-- The condition that ties the elements to their sites. -/
def siteCondition : Condition :=
  .compare .eq (.column (.of sitesTable "elementId")) (.column (.of elementsTable "id"))

theorem lexes_alias (name : String) :
    Lexes d [.text " AS ", .name name] fun _ => aliasTokens (some name) := by
  have has : ∀ n rest, lex d n (" AS ".toList ++ rest) =
      (lex d n rest).map ([.word "AS"] ++ ·) := lex_wordBlanks (w := "AS") (by decide)
  exact (lexes_name name).text has

theorem Projection.lexes {p : Projection} (h : p.expr.Plain) :
    Lexes d (p.fragments d) (p.tokens d ·) := by
  obtain ⟨e, _ | ident⟩ := p
  · intro n rest hr
    have he := Expr.lexes (d := d) h n rest hr
    simpa [fragments, tokens, aliasTokens] using he
  · exact (Expr.lexes h).append (lexes_alias ident) (starts_text rfl _)

theorem lexes_columns : ∀ {ps : List Projection}, (∀ p ∈ ps, p.expr.Plain) →
    Lexes d (separate ", " (ps.map (·.fragments d))) (columnTokens d · ps)
  | [], _ => by
    intro n rest _
    simp [separate, columnTokens]
  | [p], h => Projection.lexes (h p List.mem_cons_self)
  | p :: p' :: ps, h => by
    have ih : Lexes d _ (columnTokens d · (p' :: ps)) :=
      lexes_columns fun x hx => h x (List.mem_cons_of_mem p hx)
    exact (Projection.lexes (h p List.mem_cons_self)).separated ih lex_commaBlank boundary_comma

theorem lexes_star :
    Lexes d [.name subqueryAlias, .text ".*"] fun _ =>
      [.column (.bare subqueryAlias), .dot, .arith .mul] := by
  intro n rest _
  have hm : ∀ c ∈ ('.' :: '*' :: rest).head?, c ≠ d.nameMark := by
    rintro c ⟨⟩
    exact nameMark_ne_dot
  have hd : ∀ more, '.' :: '*' :: rest ≠ '.' :: d.nameMark :: more := by
    intro more h
    rcases d with _ | _ <;> cases h
  have h := lex_name (n := n) subqueryAlias hm hd
  have hdot : lex d n ('.' :: '*' :: rest) = (lex d n ('*' :: rest)).map (.dot :: ·) := by
    rcases d with _ | _ <;> exact lex_of_next (by decide) rfl le_rfl
  have hstar : lex d n ('*' :: rest) = (lex d n rest).map (.arith .mul :: ·) := by
    rcases d with _ | _ <;> exact lex_of_next (by decide) rfl le_rfl
  rw [hdot, hstar] at h
  simpa [Function.comp_def] using h

theorem lexes_outer {ps : List Projection} (h : ∀ p ∈ ps, p.expr.Plain) :
    Lexes d (separate ", " ([.name subqueryAlias, .text ".*"] :: ps.map (·.fragments d)))
      fun n => [.column (.bare subqueryAlias), .dot, .arith .mul] ++ moreColumnTokens d n ps := by
  rcases ps with _ | ⟨p, ps⟩
  · exact lexes_star
  · exact lexes_star.separated (lexes_columns h) lex_commaBlank boundary_comma

theorem lex_innerJoin (n : Nat) (rest : List Char) :
    lex d n (" INNER JOIN ".toList ++ rest) =
      (lex d n rest).map ([.word "INNER", .word "JOIN"] ++ ·) := by
  have ht : " INNER JOIN ".toList ++ rest =
      (" " ++ "INNER" ++ " ").toList ++ ("JOIN".toList ++ ' ' :: rest) := by simp
  rw [ht, lex_wordBlanks (by decide), lex_word (by decide) (by rintro _ ⟨⟩; decide), lex_blank,
    Option.map_map]
  rfl

/-- The condition that a table is joined under. -/
theorem lexes_on {fs : List Fragment} {ts : Nat → List Token} (h : Lexes d fs ts) :
    Lexes d (.text " ON " :: fs) fun n => [.word "ON"] ++ ts n :=
  h.text (lex_wordBlanks (w := "ON") (by decide))

theorem lexes_joined (table : String) {fs : List Fragment} {ts : Nat → List Token}
    (h : Lexes d fs ts) :
    Lexes d (.text " INNER JOIN " :: .name table :: .text " ON " :: fs) fun n =>
      joinedTokens table none ++ ts n :=
  ((lexes_name table).append (lexes_on h) (starts_text rfl _)).text lex_innerJoin

theorem Join.lexes {j : Join} (h : j.on.Plain) :
    Lexes d (j.fragments d) fun n => joinedTokens j.table (some j.alias) ++ j.on.tokens d n := by
  have hblank : ∀ n rest, lex d n (" ".toList ++ rest) = (lex d n rest).map ([] ++ ·) := by
    intro n rest
    exact (lex_blank rest).trans Option.map_id'.symm
  have ha := ((lexes_name j.alias).append (lexes_on (Condition.lexes h)) (starts_text rfl _)).text
    hblank
  exact ((lexes_name j.table).append ha (starts_text rfl _)).text lex_innerJoin

theorem starts_joins (js : List Join) : Starts d (js.flatMap (·.fragments d)) := by
  rcases js with _ | ⟨j, js⟩
  · exact starts_nil
  · exact starts_text rfl _

theorem lexes_joins : ∀ {js : List Join}, (∀ j ∈ js, j.on.Plain) →
    Lexes d (js.flatMap (·.fragments d)) (joinTokens d · js)
  | [], _ => by
    intro n rest _
    simp [joinTokens]
  | j :: js, h =>
    (Join.lexes (h j List.mem_cons_self)).append
      (lexes_joins fun x hx => h x (List.mem_cons_of_mem j hx)) (starts_joins js)

theorem Condition.fragmentsAll_eq_map (cs : List Condition) :
    Condition.fragmentsAll d cs = cs.map (·.fragments d) := by
  induction cs with
  | nil => rfl
  | cons c cs ih => rw [Condition.fragmentsAll, ih, List.map_cons]

theorem starts_clause (w : String) (cs : List Condition) : Starts d (clause d w cs) := by
  rcases cs with _ | ⟨c, cs⟩
  · exact starts_nil
  · refine starts_text ?_ _
    simp

theorem lexes_clause {w : String} (hw : w ∈ Token.words) {cs : List Condition}
    (h : Condition.PlainAll cs) : Lexes d (clause d w cs) (clauseTokens d w · cs) := by
  rcases cs with _ | ⟨c, cs⟩
  · intro n rest _
    simp [clause, clauseTokens]
  · have ha := Condition.lexes_all (d := d) (w := "AND") (by decide) h
    rw [Condition.fragmentsAll_eq_map] at ha
    have hword : ∀ n rest, lex d n ((" " ++ w ++ " ").toList ++ rest) =
        (lex d n rest).map ([.word w] ++ ·) := lex_wordBlanks hw
    exact ha.text hword

namespace ElementQuery

variable (q : ElementQuery)

/-- The fragments of the columns of the outer query. -/
def outerFragments : List Fragment :=
  separate ", " ([.name subqueryAlias, .text ".*"] :: q.selects.map (·.fragments q.dialect))

/-- The fragments of the columns of the subquery. -/
def innerFragments : List Fragment :=
  separate ", " (q.subquerySelects.map (·.fragments q.dialect))

/-- The fragments of the joined tables. -/
def joinFragments : List Fragment :=
  q.joins.flatMap (·.fragments q.dialect)

/-- The number of values bound in front of the subquery. -/
def innerStart : Nat :=
  (params q.outerFragments).length

/-- The number of values bound in front of the joined tables. -/
def joinStart : Nat :=
  q.innerStart + (params q.innerFragments).length

/-- The number of values bound in front of WHERE. -/
def whereStart : Nat :=
  q.joinStart + (params q.joinFragments).length

/-- The number of values bound in front of HAVING. -/
def havingStart : Nat :=
  q.whereStart + (params (clause q.dialect "WHERE" q.wheres)).length

/-- The tokens of an element query. -/
def tokens : List Token :=
  ReadQuery.opening ++ (moreColumnTokens q.dialect 0 q.selects ++ (ReadQuery.inner ++
    (columnTokens q.dialect q.innerStart q.subquerySelects ++ (ReadQuery.source ++
      ((joinedTokens sitesTable none ++ (siteCondition.tokens q.dialect q.joinStart ++
        joinTokens q.dialect q.joinStart q.joins)) ++
          (clauseTokens q.dialect "WHERE" q.whereStart q.wheres ++
            (clauseTokens q.dialect "HAVING" q.havingStart q.havings ++ ReadQuery.closing)))))))

theorem params_source : params ElementQuery.source = [] := rfl

theorem lexes_source : Lexes d ElementQuery.source fun n =>
    ReadQuery.source ++ (joinedTokens sitesTable none ++ siteCondition.tokens d n) := by
  have hc : siteCondition.Plain := ⟨trivial, trivial⟩
  have hj := lexes_joined (d := d) sitesTable (Condition.lexes hc)
  have hfrom : ∀ n rest, lex d n (" FROM ".toList ++ rest) =
      (lex d n rest).map ([.word "FROM"] ++ ·) := lex_wordBlanks (w := "FROM") (by decide)
  exact ((lexes_name elementsTable).append hj (starts_text rfl _)).text hfrom

theorem lexes_end : Lexes d [.text ") ", .name subqueryAlias] fun _ => ReadQuery.closing := by
  have hparen : ∀ n rest, lex d n (") ".toList ++ rest) = (lex d n rest).map ([.rparen] ++ ·) := by
    intro n rest
    exact (lex_rparen _).trans (congrArg (Option.map _) (lex_blank rest))
  exact (lexes_name subqueryAlias).text hparen

theorem starts_end : Starts d [.text ") ", .name subqueryAlias] := by
  intro n rest _
  have ht : written d n [.text ") ", .name subqueryAlias] ++ rest =
      ')' :: ' ' :: ((d.quote subqueryAlias).toList ++ rest) := by
    simp
  rw [ht]
  exact boundary_rparen _

variable {q}

/-- The text of an element query is taken apart into its tokens. -/
theorem lex_statement (h : q.Plain) : lex q.dialect 0 q.statement.sql.toList = some q.tokens := by
  have hselect : ∀ n rest, lex q.dialect n ("SELECT ".toList ++ rest) =
      (lex q.dialect n rest).map ([.word "SELECT"] ++ ·) :=
    lex_wordBlank (w := "SELECT") (by decide)
  have hfrom : ∀ n rest, lex q.dialect n (" FROM (".toList ++ rest) =
      (lex q.dialect n rest).map ([.word "FROM", .lparen] ++ ·) := by
    intro n rest
    have ht : " FROM (".toList ++ rest = (" " ++ "FROM" ++ " ").toList ++ '(' :: rest := by simp
    rw [ht, lex_wordBlanks (by decide), lex_lparen, Option.map_map]
    rfl
  have hinner := ((((lexes_columns h.subquerySelects).text hselect).append lexes_source
    (starts_text rfl _)).append (lexes_joins h.joins) (starts_joins q.joins)).append
      (lexes_clause (w := "WHERE") (by decide) h.wheres) (starts_clause "WHERE" q.wheres)
  have hsub := hinner.append (lexes_clause (w := "HAVING") (by decide) h.havings)
    (starts_clause "HAVING" q.havings)
  have hall := (((lexes_outer h.selects).text hselect).append (hsub.text hfrom)
    (starts_text rfl _)).append lexes_end starts_end
  have hw := hall 0 [] boundary_nil
  rw [List.append_nil, lex_nil, Option.map_some, List.append_nil] at hw
  refine hw.trans (congrArg some ?_)
  simp only [tokens, innerStart, joinStart, whereStart, havingStart, outerFragments,
    innerFragments, joinFragments, ReadQuery.opening, ReadQuery.inner, Nat.zero_add,
    List.append_assoc, List.cons_append, List.nil_append, params_text, params_append,
    params_source, List.length_append, List.length_nil, Nat.add_zero, Nat.add_assoc]

end ElementQuery

end Sql

end Proximity
