import Proximity.Proofs.QueryTokens
import Proximity.Proofs.Reading

/-!
# Reading back element queries

An expression or a condition that was written alone is read up to the token behind it and no
further: a comma, a closing parenthesis or the word of the next clause is no operator, and nothing
waits that it could complete. So every clause is read back where it stands, and the whole query is
read back clause by clause.
-/

namespace Proximity

namespace Sql

open Reader ReadQuery

variable {d : Dialect}

/-- Tokens that an expression or a condition does not go on with. -/
def Stops : List Token → Prop
  | [] => True
  | .comma :: _ | .rparen :: _ => True
  | .word w :: _ => w ∈ ["AS", "FROM", "INNER", "WHERE", "HAVING"]
  | _ => False

/-- Tokens that can be read are passed. -/
theorem tree?_append : ∀ {ts : List Token} {s s' : State} (rest : List Token),
    run s ts = some s' → tree? s (ts ++ rest) = tree? s' rest
  | [], _, _, _, h => by
    cases h
    rfl
  | token :: ts, s, s', rest, h => by
    rw [run_cons] at h
    rcases hs : step s token with _ | s₁ <;> rw [hs] at h
    · cases h
    · rw [List.cons_append, tree?, hs]
      exact tree?_append rest h

/-- Where nothing waits any more, none of these tokens is an operator. -/
theorem operator_of_stops {s : List Pending} {t t' : Tree} (h : reduce 0 s t = ([], t'))
    {token : Token} {rest : List Token} (hr : Stops (token :: rest)) :
    operator s t token = none := by
  rcases token with _ | w | _ | _ | _ | _ | _ | _ | _ | _ | _ | _ | _
  case word =>
    simp only [Stops, List.mem_cons, List.not_mem_nil, or_false] at hr
    rcases hr with rfl | rfl | rfl | rfl | rfl <;> rfl
  case comma => rw [operator, h]
  case rparen => rw [operator, h]
  all_goals exact hr.elim

theorem step_some (s : List Pending) (t : Tree) (token : Token) :
    step (s, some t) token = operator s t token := by
  simp only [step]

/-- What is complete once nothing waits is read up to the tokens that it does not go on with. -/
theorem tree?_of_ends {k : Nat} {ts rest : List Token} {t : Tree} (h : Ends k ts [] [] t)
    (hr : Stops rest) : tree? ([], none) (ts ++ rest) = some (t, rest) := by
  obtain ⟨s₁, t₁, hrun, hred⟩ := h.mono (Nat.zero_le k) trivial
  rw [tree?_append rest hrun]
  rcases rest with _ | ⟨token, rest⟩
  · rw [tree?, finish, hred]
    rfl
  · rw [tree?, step_some, operator_of_stops hred hr, finish, hred]
    rfl

theorem ofTokens?_of_ends {k : Nat} {ts : List Token} {t : Tree} (h : Ends k ts [] [] t) :
    Tree.ofTokens? ts = some t := by
  obtain ⟨s₁, t₁, hrun, hred⟩ := h.mono (Nat.zero_le k) trivial
  rw [Tree.ofTokens?, hrun, Option.bind_some, finish, hred]

-- `a - b - c * a <= b AND NOT c IS NULL OR TRUE`
example (a b c : Column) :
    Tree.ofTokens? [.column a, .arith .sub, .column b, .arith .sub, .column c, .arith .mul,
      .column a, .compare .le, .column b, .word "AND", .word "NOT", .column c, .word "IS",
      .word "NULL", .word "OR", .word "TRUE"] =
    some (.binary .disj
      (.binary .conj
        (.binary (.compare .le)
          (.binary (.arith .sub) (.binary (.arith .sub) (.column a) (.column b))
            (.binary (.arith .mul) (.column c) (.column a)))
          (.column b))
        (.neg (.isNull (.column c))))
      (.truth true)) := rfl

theorem Expr.tree?_tokens {e : Expr} (h : e.Plain) (n : Nat) {rest : List Token}
    (hr : Stops rest) : tree? ([], none) (e.tokens d n ++ rest) = some (e.tree d n none, rest) :=
  tree?_of_ends ((Expr.reads h).alone n trivial) hr

theorem Condition.tree?_tokens {c : Condition} (h : c.Plain) (n : Nat) {rest : List Token}
    (hr : Stops rest) : tree? ([], none) (c.tokens d n ++ rest) = some (c.tree d n, rest) :=
  tree?_of_ends ((Condition.reads h).whole n [] trivial) hr

theorem after?_append (ts rest : List Token) : after? ts (ts ++ rest) = some rest := by
  induction ts with
  | nil => rfl
  | cons t ts ih => rw [List.cons_append, after?, if_pos rfl, ih]

/-- The trees of columns behind `n` bound values, with their aliases. -/
def columnTrees (d : Dialect) (n : Nat) : List Projection → List (Tree × Option String)
  | [] => []
  | p :: ps => (p.expr.tree d n none, p.alias?) :: columnTrees d (n + p.bound d) ps

/-- What a column is followed by. -/
def BehindColumn (rest : List Token) : Prop :=
  ∃ more, rest = .comma :: more ∨ rest = .word "FROM" :: more

theorem alias?_aliasTokens {rest : List Token} (h : BehindColumn rest) :
    ∀ name? : Option String, alias? (aliasTokens name? ++ rest) = (name?, rest)
  | some _ => rfl
  | none => by
    obtain ⟨more, rfl | rfl⟩ := h <;> rfl

theorem stops_aliasTokens {rest : List Token} (h : BehindColumn rest) :
    ∀ name? : Option String, Stops (aliasTokens name? ++ rest)
  | some _ => List.mem_cons_self
  | none => by
    obtain ⟨more, rfl | rfl⟩ := h
    · exact trivial
    · exact List.mem_cons_of_mem _ List.mem_cons_self

theorem Projection.tree?_tokens {p : Projection} (h : p.expr.Plain) (n : Nat) {rest : List Token}
    (hr : BehindColumn rest) :
    tree? ([], none) (p.tokens d n ++ rest) =
      some (p.expr.tree d n none, aliasTokens p.alias? ++ rest) := by
  rw [Projection.tokens, List.append_assoc]
  exact Expr.tree?_tokens h n (stops_aliasTokens hr p.alias?)

theorem columns?_columnTokens : ∀ {ps : List Projection}, (∀ p ∈ ps, p.expr.Plain) → ps ≠ [] →
    ∀ (n : Nat) {rest : List Token}, (∃ more, rest = .word "FROM" :: more) →
      columns? (columnTokens d n ps ++ rest) = some (columnTrees d n ps, rest)
  | [], _, hne, _, _, _ => absurd rfl hne
  | [p], h, _, n, _, ⟨more, rfl⟩ => by
    have hr : BehindColumn (.word "FROM" :: more) := ⟨more, .inr rfl⟩
    rw [columns?, columnTokens, Projection.tree?_tokens (h p List.mem_cons_self) n hr]
    simp only [alias?_aliasTokens hr]
    rfl
  | p :: p' :: ps, h, _, n, rest, hf => by
    have hps : ∀ x ∈ p' :: ps, x.expr.Plain := fun x hx => h x (List.mem_cons_of_mem p hx)
    have ih := columns?_columnTokens hps (List.cons_ne_nil _ _) (n + p.bound d) hf
    have ht : columnTokens d n (p :: p' :: ps) ++ rest =
        p.tokens d n ++ .comma :: (columnTokens d (n + p.bound d) (p' :: ps) ++ rest) := by
      rw [columnTokens, List.append_assoc, List.cons_append]
      exact List.cons_ne_nil _ _
    have hr : BehindColumn (.comma :: (columnTokens d (n + p.bound d) (p' :: ps) ++ rest)) :=
      ⟨_, .inl rfl⟩
    rw [columns?, ht, Projection.tree?_tokens (h p List.mem_cons_self) n hr]
    simp only [alias?_aliasTokens hr, ih, Option.map_some]
    -- The reader goes on because the tokens behind the comma are fewer.
    rw [if_pos]
    · rfl
    · simp only [List.length_append, List.length_cons]
      omega

theorem moreColumns?_moreColumnTokens {ps : List Projection} (h : ∀ p ∈ ps, p.expr.Plain) (n : Nat)
    {rest : List Token} (hf : ∃ more, rest = .word "FROM" :: more) :
    moreColumns? (moreColumnTokens d n ps ++ rest) = some (columnTrees d n ps, rest) := by
  rcases ps with _ | ⟨p, ps⟩
  · obtain ⟨more, rfl⟩ := hf
    rfl
  · exact columns?_columnTokens h (List.cons_ne_nil _ _) n hf

/-- The trees of the conditions that tables are joined under, with their names and aliases. -/
def joinTrees (d : Dialect) (n : Nat) : List Join → List (String × Option String × Tree)
  | [] => []
  | j :: js => (j.table, some j.alias, j.on.tree d n) :: joinTrees d (n + j.bound d) js

/-- The tree of a clause, if there are conditions in it. -/
def clauseTree? (d : Dialect) (n : Nat) : List Condition → Option Tree
  | [] => none
  | cs => some (Condition.chain d .conj n none cs)

theorem joined?_joinedTokens (table : String) (rest : List Token) : ∀ name? : Option String,
    joined? (joinedTokens table name? ++ rest) = some (table, name?, rest)
  | some _ => rfl
  | none => rfl

theorem stops_joinTokens {rest : List Token} (hs : Stops rest) (n : Nat) :
    ∀ js : List Join, Stops (joinTokens d n js ++ rest)
  | [] => hs
  | _ :: _ => List.mem_cons_of_mem _ (List.mem_cons_of_mem _ List.mem_cons_self)

theorem joins?_joined {table : String} {name? : Option String} {c : Condition} (h : c.Plain)
    (n : Nat) {rest : List Token} (hs : Stops rest) :
    joins? (joinedTokens table name? ++ (c.tokens d n ++ rest)) =
      (joins? rest).map fun (joins, rest) => ((table, name?, c.tree d n) :: joins, rest) := by
  rw [joins?, joined?_joinedTokens]
  simp only [Condition.tree?_tokens h n hs]
  rw [if_pos]
  simp only [joinedTokens, List.length_append, List.length_cons]
  omega

theorem joins?_joinTokens {rest : List Token} (hj : joined? rest = none) (hs : Stops rest) :
    ∀ {js : List Join}, (∀ j ∈ js, j.on.Plain) → ∀ n,
      joins? (joinTokens d n js ++ rest) = some (joinTrees d n js, rest)
  | [], _, n => by
    rw [joinTokens, List.nil_append, joins?, hj]
    rfl
  | j :: js, h, n => by
    have ih := joins?_joinTokens hj hs (fun x hx => h x (List.mem_cons_of_mem j hx)) (n + j.bound d)
    rw [joinTokens, List.append_assoc, List.append_assoc,
      joins?_joined (h j List.mem_cons_self) n (stops_joinTokens hs _ js), ih]
    rfl

theorem clause?_clauseTokens {w : String} {cs : List Condition} (h : Condition.PlainAll cs)
    (n : Nat) {rest : List Token} (hs : Stops rest) (hw : ∀ more, rest ≠ .word w :: more) :
    clause? w (clauseTokens d w n cs ++ rest) = some (clauseTree? d n cs, rest) := by
  rcases cs with _ | ⟨c, cs⟩
  · rw [clauseTokens, List.nil_append]
    unfold clause?
    split
    · rename_i w' more
      rw [if_neg]
      · rfl
      · rintro rfl
        exact hw more rfl
    · rfl
  · have ht := tree?_of_ends
      (Condition.reads_all (d := d) joins_and h (List.cons_ne_nil c cs) n none [] trivial) hs
    rw [clauseTokens, List.cons_append, clause?, if_pos rfl, ht]
    · rfl
    · exact List.cons_ne_nil c cs

namespace ElementQuery

/-- An element query as it is read back. -/
def readBack (q : ElementQuery) : ReadQuery where
  selects := columnTrees q.dialect 0 q.selects
  subquerySelects := columnTrees q.dialect q.innerStart q.subquerySelects
  joins := (sitesTable, none, siteCondition.tree q.dialect q.joinStart) ::
    joinTrees q.dialect q.joinStart q.joins
  wheres := clauseTree? q.dialect q.whereStart q.wheres
  havings := clauseTree? q.dialect q.havingStart q.havings

variable {q : ElementQuery}

theorem stops_clauseTokens {w : String} (hw : w = "WHERE" ∨ w = "HAVING") {rest : List Token}
    (hs : Stops rest) (n : Nat) (cs : List Condition) : Stops (clauseTokens d w n cs ++ rest) := by
  rcases cs with _ | ⟨c, cs⟩
  · exact hs
  · rcases hw with rfl | rfl <;> simp [clauseTokens, Stops]

theorem joined?_clauseTokens {w : String} (hw : w = "WHERE" ∨ w = "HAVING") {rest : List Token}
    (hj : joined? rest = none) (n : Nat) (cs : List Condition) :
    joined? (clauseTokens d w n cs ++ rest) = none := by
  rcases cs with _ | ⟨c, cs⟩
  · exact hj
  · rcases hw with rfl | rfl <;> rfl

/-- The tokens from HAVING on. -/
def havingTokens (q : ElementQuery) : List Token :=
  clauseTokens q.dialect "HAVING" q.havingStart q.havings ++ closing

/-- The tokens from WHERE on. -/
def whereTokens (q : ElementQuery) : List Token :=
  clauseTokens q.dialect "WHERE" q.whereStart q.wheres ++ q.havingTokens

variable (q : ElementQuery)

theorem stops_havingTokens : Stops q.havingTokens :=
  stops_clauseTokens (.inr rfl) (show Stops closing from trivial) _ _

theorem stops_whereTokens : Stops q.whereTokens :=
  stops_clauseTokens (.inl rfl) q.stops_havingTokens _ _

theorem joined?_whereTokens : joined? q.whereTokens = none :=
  joined?_clauseTokens (.inl rfl) (joined?_clauseTokens (.inr rfl) rfl _ _) _ _

theorem havingTokens_ne (more : List Token) : q.havingTokens ≠ .word "WHERE" :: more := by
  unfold havingTokens
  rcases q.havings with _ | ⟨c, cs⟩ <;> simp [clauseTokens, closing]

variable {q}

theorem inner_append (ts : List Token) : ∃ more, ReadQuery.inner ++ ts = .word "FROM" :: more :=
  ⟨_, rfl⟩

theorem source_append (ts : List Token) : ∃ more, ReadQuery.source ++ ts = .word "FROM" :: more :=
  ⟨_, rfl⟩

theorem joins?_tables (h : ∀ j ∈ q.joins, j.on.Plain) :
    joins? (joinedTokens sitesTable none ++ (siteCondition.tokens q.dialect q.joinStart ++
      (joinTokens q.dialect q.joinStart q.joins ++ q.whereTokens))) =
        some (q.readBack.joins, q.whereTokens) := by
  have hsite : siteCondition.Plain := ⟨trivial, trivial⟩
  have hs := stops_joinTokens (d := q.dialect) q.stops_whereTokens q.joinStart q.joins
  rw [joins?_joined hsite q.joinStart hs,
    joins?_joinTokens q.joined?_whereTokens q.stops_whereTokens h q.joinStart]
  rfl

/-- The tokens of an element query are read back clause by clause. -/
theorem ofTokens?_tokens (h : q.Plain) (hne : q.subquerySelects ≠ []) :
    ReadQuery.ofTokens? q.tokens = some q.readBack := by
  have ht : q.tokens = opening ++ (moreColumnTokens q.dialect 0 q.selects ++ (ReadQuery.inner ++
      (columnTokens q.dialect q.innerStart q.subquerySelects ++ (ReadQuery.source ++
        (joinedTokens sitesTable none ++ (siteCondition.tokens q.dialect q.joinStart ++
          (joinTokens q.dialect q.joinStart q.joins ++ q.whereTokens))))))) := by
    simp only [tokens, whereTokens, havingTokens, List.append_assoc]
  have hw : clause? "WHERE" q.whereTokens = _ :=
    clause?_clauseTokens h.wheres q.whereStart q.stops_havingTokens q.havingTokens_ne
  have hh : clause? "HAVING" q.havingTokens = _ :=
    clause?_clauseTokens h.havings q.havingStart (show Stops closing from trivial)
      (by rintro _ ⟨⟩)
  unfold ReadQuery.ofTokens?
  rw [ht]
  simp only [Option.bind_eq_bind, after?_append, Option.bind_some,
    moreColumns?_moreColumnTokens h.selects 0 (inner_append _),
    columns?_columnTokens h.subquerySelects hne q.innerStart (source_append _),
    joins?_tables h.joins, hw, hh]
  rfl

theorem read?_statement (h : q.Plain) (hne : q.subquerySelects ≠ []) :
    ReadQuery.read? q.dialect q.statement.sql = some q.readBack := by
  rw [ReadQuery.read?, lex_statement h]
  exact ofTokens?_tokens h hne

end ElementQuery

end Sql

end Proximity
