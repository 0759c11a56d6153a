import Proximity.Proofs.Lexing

/-!
# The tokens of expressions and conditions

The text of a tree is taken apart into the tokens of its parts, one after the other. The bound
values in a part are numbered behind those of the parts before it, so that the tokens of a tree
depend on the number of values bound in front of it.
-/

namespace Proximity

namespace Sql

/-- A key without quotes and backslashes. -/
def PlainKey (key : String) : Prop :=
  '\'' ∉ key.toList ∧ '"' ∉ key.toList ∧ '\\' ∉ key.toList

mutual

/-- An expression that can be read back: its functions have plain names, its floats are finite and
its keys are free of quotes and backslashes. -/
def Expr.Plain : Expr → Prop
  | .float x => x.isFinite = true
  | .call function args => PlainName function ∧ Expr.PlainAll args
  | .binary _ left right => left.Plain ∧ right.Plain
  | .group e => e.Plain
  | .jsonNumber _ key => PlainKey key
  | _ => True

/-- Several expressions that can be read back. -/
def Expr.PlainAll : List Expr → Prop
  | [] => True
  | e :: es => e.Plain ∧ Expr.PlainAll es

end

mutual

/-- A condition whose expressions can be read back. -/
def Condition.Plain : Condition → Prop
  | .compare _ left right => left.Plain ∧ right.Plain
  | .isNull e => e.Plain
  | .neg c => c.Plain
  | .conj cs | .disj cs => Condition.PlainAll cs

/-- Several conditions whose expressions can be read back. -/
def Condition.PlainAll : List Condition → Prop
  | [] => True
  | c :: cs => c.Plain ∧ Condition.PlainAll cs

end

/-- The number of values that an expression binds. -/
def Expr.bound (d : Dialect) (e : Expr) : Nat :=
  (Fragment.params (e.fragments d)).length

/-- The number of values that a condition binds. -/
def Condition.bound (d : Dialect) (c : Condition) : Nat :=
  (Fragment.params (c.fragments d)).length

/-- Tokens in parentheses. -/
def enclosedTokens (ts : List Token) : List Token :=
  .lparen :: ts ++ [.rparen]

/-- The tokens of an operand. -/
def Expr.operandTokens (outer : ArithOp) (onRight : Bool) (e : Expr) (ts : List Token) :
    List Token :=
  if e.needsParens outer onRight then enclosedTokens ts else ts

/-- The tokens of the access to a key in a JSON column. -/
def jsonTokens (d : Dialect) (c : Column) (key : String) : List Token :=
  match d with
  | .mysql =>
    [.call "JSON_EXTRACT", .column c, .comma, .literal ("$.\"" ++ key ++ "\""), .rparen]
  | .postgres =>
    [.word "CAST", .lparen, .lparen, .column c, .arrow, .literal key, .rparen, .word "AS",
      .word "DOUBLE", .word "PRECISION", .rparen]

mutual

/-- The tokens of an expression behind `n` bound values. -/
def Expr.tokens (d : Dialect) (n : Nat) : Expr → List Token
  | .column c => [.column c]
  | .alias name => [.column (.bare name)]
  | .int m => signed (m < 0) m.natAbs
  | .float x => signed (Decimal.shortest .away x).negative (Decimal.shortest .away x).magnitude
  | .null => [.word "NULL"]
  | .param _ => [.placeholder (n + 1)]
  | .call function args => .call function :: Expr.tokensAll d n args ++ [.rparen]
  | .binary op left right =>
    left.operandTokens op false (left.tokens d n) ++
      .arith op :: right.operandTokens op true (right.tokens d (n + left.bound d))
  | .group e => enclosedTokens (e.tokens d n)
  | .jsonNumber c key => jsonTokens d c key

/-- The tokens of several expressions with commas between them. -/
def Expr.tokensAll (d : Dialect) (n : Nat) : List Expr → List Token
  | [] => []
  | [e] => e.tokens d n
  | e :: es => e.tokens d n ++ .comma :: Expr.tokensAll d (n + e.bound d) es

end

/-- The tokens of a condition that brings its own parentheses, or these tokens in new ones. -/
def Condition.enclosedTokens (c : Condition) (ts : List Token) : List Token :=
  match c with
  | .conj _ | .disj _ => ts
  | _ => Sql.enclosedTokens ts

/-- The tokens of conditions joined by a word; none of them are a constant. -/
def junctionTokens (none : String) (empty : Bool) (ts : List Token) : List Token :=
  if empty then [.word none] else enclosedTokens ts

mutual

/-- The tokens of a condition behind `n` bound values. -/
def Condition.tokens (d : Dialect) (n : Nat) : Condition → List Token
  | .compare op left right => left.tokens d n ++ .compare op :: right.tokens d (n + left.bound d)
  | .isNull e => e.tokens d n ++ [.word "IS", .word "NULL"]
  | .neg c => .word "NOT" :: c.enclosedTokens (c.tokens d n)
  | .conj cs => junctionTokens "TRUE" cs.isEmpty (Condition.tokensAll d "AND" n cs)
  | .disj cs => junctionTokens "FALSE" cs.isEmpty (Condition.tokensAll d "OR" n cs)

/-- The tokens of several conditions with a word between them. -/
def Condition.tokensAll (d : Dialect) (word : String) (n : Nat) : List Condition → List Token
  | [] => []
  | [c] => c.tokens d n
  | c :: cs => c.tokens d n ++ .word word :: Condition.tokensAll d word (n + c.bound d) cs

end

namespace Fragment

variable {d : Dialect} {n : Nat}

/-- The characters of a row of fragments behind `n` bound values. -/
def written (d : Dialect) (n : Nat) (fs : List Fragment) : List Char :=
  (spellAll d n fs).toList

@[simp] theorem written_nil : written d n [] = [] := rfl

@[simp] theorem written_text (s : String) (fs : List Fragment) :
    written d n (.text s :: fs) = s.toList ++ written d n fs := by
  simp [written, spellAll, spell, count, param?]

@[simp] theorem written_name (name : String) (fs : List Fragment) :
    written d n (.name name :: fs) = (d.quote name).toList ++ written d n fs := by
  simp [written, spellAll, spell, count, param?]

@[simp] theorem written_literal (s : String) (fs : List Fragment) :
    written d n (.literal s :: fs) = (enclosed '\'' s).toList ++ written d n fs := by
  simp [written, spellAll, spell, count, param?]

@[simp] theorem written_bound (p : Param) (fs : List Fragment) :
    written d n (.bound p :: fs) = (d.placeholder (n + 1)).toList ++ written d (n + 1) fs := by
  simp [written, spellAll, spell, count, param?]

@[simp] theorem written_append (fs gs : List Fragment) :
    written d n (fs ++ gs) = written d n fs ++ written d (n + (params fs).length) gs := by
  simp [written, spellAll_append]

@[simp] theorem params_nil : params [] = [] := rfl

@[simp] theorem params_text (s : String) (fs : List Fragment) :
    params (.text s :: fs) = params fs := rfl

@[simp] theorem params_name (name : String) (fs : List Fragment) :
    params (.name name :: fs) = params fs := rfl

@[simp] theorem params_literal (s : String) (fs : List Fragment) :
    params (.literal s :: fs) = params fs := rfl

@[simp] theorem params_bound (p : Param) (fs : List Fragment) :
    params (.bound p :: fs) = p :: params fs := rfl

end Fragment

open Fragment

/-! ## Expressions -/

variable {d : Dialect}

theorem boundary_nil : Boundary [] := by
  rintro c ⟨⟩

theorem boundary_blank (cs : List Char) : Boundary (' ' :: cs) := by
  rintro c ⟨⟩
  exact .inl rfl

theorem boundary_comma (cs : List Char) : Boundary (',' :: cs) := by
  rintro c ⟨⟩
  exact .inr (.inl rfl)

theorem boundary_rparen (cs : List Char) : Boundary (')' :: cs) := by
  rintro c ⟨⟩
  exact .inr (.inr rfl)

theorem boundary_arith (op : ArithOp) (cs : List Char) :
    Boundary ((" " ++ op.sign ++ " ").toList ++ cs) := by
  rcases op with _ | _ | _ <;> exact boundary_blank _

theorem boundary_compare (op : Comparison) (cs : List Char) :
    Boundary ((" " ++ op.sign ++ " ").toList ++ cs) := by
  rcases op with _ | _ <;> exact boundary_blank _

theorem Boundary.ne_nameMark {rest : List Char} (h : Boundary rest) :
    ∀ c ∈ rest.head?, c ≠ d.nameMark := by
  intro c hc
  rcases h c hc with rfl | rfl | rfl <;> rcases d with _ | _ <;> decide

theorem Boundary.ne_dot {rest : List Char} (h : Boundary rest) (more : List Char) :
    rest ≠ '.' :: more := by
  rintro rfl
  rcases h '.' rfl with h | h | h <;> cases h

/-- A row of fragments is taken apart into the tokens given, wherever it stands. -/
def Lexes (d : Dialect) (fs : List Fragment) (tokens : Nat → List Token) : Prop :=
  ∀ n rest, Boundary rest →
    lex d n (written d n fs ++ rest) =
      (lex d (n + (params fs).length) rest).map (tokens n ++ ·)

/-- What begins with a blank or is empty does not run into what stands in front of it. -/
def Starts (d : Dialect) (fs : List Fragment) : Prop :=
  ∀ n rest, Boundary rest → Boundary (written d n fs ++ rest)

theorem starts_nil : Starts d [] := fun _ _ h => h

theorem starts_text {s : String} (h : s.toList.head? = some ' ') (fs : List Fragment) :
    Starts d (.text s :: fs) := by
  intro n rest _
  rcases hs : s.toList with _ | ⟨c, cs⟩ <;> rw [hs] at h <;> cases h
  rw [written_text, hs]
  exact boundary_blank _

/-- Two rows of which the second begins with a blank. -/
theorem Lexes.append {fs gs : List Fragment} {ts us : Nat → List Token} (hf : Lexes d fs ts)
    (hg : Lexes d gs us) (hs : Starts d gs) :
    Lexes d (fs ++ gs) fun n => ts n ++ us (n + (params fs).length) := by
  intro n rest hr
  have ht : written d n (fs ++ gs) ++ rest =
      written d n fs ++ (written d (n + (params fs).length) gs ++ rest) := by
    simp
  have hp : n + (params (fs ++ gs)).length = n + (params fs).length + (params gs).length := by
    simp [Nat.add_assoc]
  rw [ht, hp, hf n _ (hs _ rest hr), hg _ rest hr]
  simp only [Option.map_map]
  simp [Function.comp_def]

/-- A row behind a text that is taken apart on its own. -/
theorem Lexes.text {s : String} {vs : List Token} {fs : List Fragment} {ts : Nat → List Token}
    (h : Lexes d fs ts)
    (hs : ∀ n rest, lex d n (s.toList ++ rest) = (lex d n rest).map (vs ++ ·)) :
    Lexes d (.text s :: fs) fun n => vs ++ ts n := by
  intro n rest hr
  rw [written_text, List.append_assoc, hs, h n rest hr, params_text]
  simp only [Option.map_map]
  simp [Function.comp_def]

theorem Lexes.parenthesized {fs : List Fragment} {tokens : Nat → List Token}
    (h : Lexes d fs tokens) :
    Lexes d (parenthesized fs) fun n => enclosedTokens (tokens n) := by
  intro n rest _
  have h' := h n (')' :: rest) (boundary_rparen rest)
  have hp : written d n (Sql.parenthesized fs) ++ rest =
      '(' :: (written d n fs ++ ')' :: rest) := by
    simp [Sql.parenthesized]
  rw [hp, lex_lparen, h', lex_rparen, Option.map_map, Option.map_map]
  simp [Sql.parenthesized, enclosedTokens, Function.comp_def]

theorem Lexes.operand {e : Expr} {fs : List Fragment} {tokens : Nat → List Token}
    (h : Lexes d fs tokens) (outer : ArithOp) (onRight : Bool) :
    Lexes d (e.operand outer onRight fs) fun n => e.operandTokens outer onRight (tokens n) := by
  unfold Expr.operand Expr.operandTokens
  split
  · exact h.parenthesized
  · exact h

theorem params_parenthesized (fs : List Fragment) : params (parenthesized fs) = params fs := by
  simp [parenthesized]

theorem params_operand (e : Expr) (outer : ArithOp) (onRight : Bool) (fs : List Fragment) :
    params (e.operand outer onRight fs) = params fs := by
  unfold Expr.operand
  split
  · exact params_parenthesized fs
  · rfl

theorem lexes_column (c : Column) {n : Nat} {rest : List Char}
    (hm : ∀ c ∈ rest.head?, c ≠ d.nameMark) (hd : ∀ more, rest ≠ '.' :: d.nameMark :: more) :
    lex d n (written d n c.fragments ++ rest) = (lex d n rest).map (.column c :: ·) := by
  obtain ⟨_ | table, name⟩ := c
  · have h := lex_name (n := n) name hm hd
    simpa [Column.fragments, Column.bare] using h
  · have h := lex_names (n := n) table name hm
    simpa [Column.fragments, Column.of] using h

theorem lexes_name (name : String) : Lexes d [.name name] fun _ => [.column (.bare name)] := by
  intro n rest hr
  have h := lex_name (d := d) (n := n) name hr.ne_nameMark fun more => hr.ne_dot _
  simpa using h

theorem params_column (c : Column) : params c.fragments = [] := by
  obtain ⟨_ | table, name⟩ := c <;> rfl

theorem lex_jsonExtract (c : Column) {key : String} (h : PlainKey key) (n : Nat)
    (rest : List Char) :
    lex .mysql n (written .mysql n (jsonAccess .mysql c.fragments key) ++ rest) =
      (lex .mysql n rest).map (jsonTokens .mysql c key ++ ·) := by
  obtain ⟨hq, hd, hb⟩ := h
  have hpath : '\\' ∉ ("$.\"" ++ key ++ "\"").toList := by
    simp [hb]
  have ht : written .mysql n (jsonAccess .mysql c.fragments key) ++ rest =
      "JSON_EXTRACT".toList ++ '(' :: (written .mysql n c.fragments ++ ',' :: ' ' ::
        ((enclosed '\'' ("$.\"" ++ key ++ "\"")).toList ++ ')' :: rest)) := by
    simp [jsonAccess, params_column]
  rw [ht, lex_call (by decide), lexes_column c (by rintro _ ⟨⟩; decide) (by rintro more ⟨⟩),
    lex_comma, lex_blank, lex_literal hpath (by rintro _ ⟨⟩; decide), lex_rparen]
  simp only [Option.map_map]
  rfl

theorem lex_jsonCast (c : Column) {key : String} (h : PlainKey key) (n : Nat)
    (rest : List Char) :
    lex .postgres n (written .postgres n (jsonAccess .postgres c.fragments key) ++ rest) =
      (lex .postgres n rest).map (jsonTokens .postgres c key ++ ·) := by
  obtain ⟨hq, hd, hb⟩ := h
  have ht : written .postgres n (jsonAccess .postgres c.fragments key) ++ rest =
      "CAST".toList ++ '(' :: '(' :: (written .postgres n c.fragments ++ '-' :: '>' :: '>' ::
        ((enclosed '\'' key).toList ++ ')' :: ' ' :: ("AS".toList ++ ' ' ::
          ("DOUBLE".toList ++ ' ' :: ("PRECISION".toList ++ ')' :: rest))))) := by
    simp [jsonAccess, params_column]
  rw [ht, lex_word (by decide) (by rintro _ ⟨⟩; decide), lex_lparen, lex_lparen,
    lexes_column c (by rintro _ ⟨⟩; decide) (by rintro more ⟨⟩), lex_arrow,
    lex_literal hb (by rintro _ ⟨⟩; decide), lex_rparen, lex_blank,
    lex_word (by decide) (by rintro _ ⟨⟩; decide), lex_blank,
    lex_word (by decide) (by rintro _ ⟨⟩; decide), lex_blank,
    lex_word (by decide) (by rintro _ ⟨⟩; decide), lex_rparen]
  simp only [Option.map_map]
  rfl

theorem params_jsonAccess (c : Column) (key : String) :
    params (jsonAccess d c.fragments key) = [] := by
  rcases d with _ | _ <;> simp [jsonAccess, params_column]

theorem lexes_jsonAccess (c : Column) {key : String} (h : PlainKey key) :
    Lexes d (jsonAccess d c.fragments key) fun _ => jsonTokens d c key := by
  intro n rest _
  rw [params_jsonAccess]
  rcases d with _ | _
  · exact lex_jsonExtract c h n rest
  · exact lex_jsonCast c h n rest

theorem Lexes.separated {fs gs : List Fragment} {sep : String} {t : Token}
    {ts us : Nat → List Token} (hf : Lexes d fs ts) (hg : Lexes d gs us)
    (hs : ∀ n rest, lex d n (sep.toList ++ rest) = (lex d n rest).map (t :: ·))
    (hb : ∀ rest, Boundary (sep.toList ++ rest)) :
    Lexes d (fs ++ .text sep :: gs) fun n => ts n ++ t :: us (n + (params fs).length) := by
  have hs' : ∀ n rest, lex d n (sep.toList ++ rest) = (lex d n rest).map ([t] ++ ·) := hs
  refine hf.append (hg.text hs') fun n rest _ => ?_
  rw [written_text, List.append_assoc]
  exact hb _

theorem lex_commaBlank (n : Nat) (rest : List Char) :
    lex d n (", ".toList ++ rest) = (lex d n rest).map (.comma :: ·) :=
  (lex_comma _).trans (congrArg (Option.map _) (lex_blank rest))

theorem lex_wordBlanks {w : String} (hw : w ∈ Token.words) (n : Nat) (rest : List Char) :
    lex d n ((" " ++ w ++ " ").toList ++ rest) = (lex d n rest).map (.word w :: ·) := by
  have ht : (" " ++ w ++ " ").toList ++ rest = ' ' :: (w.toList ++ ' ' :: rest) := by simp
  rw [ht, lex_blank, lex_word hw (by rintro _ ⟨⟩; decide), lex_blank]

theorem lex_wordBlank {w : String} (hw : w ∈ Token.words) (n : Nat) (rest : List Char) :
    lex d n ((w ++ " ").toList ++ rest) = (lex d n rest).map (.word w :: ·) := by
  have ht : (w ++ " ").toList ++ rest = w.toList ++ ' ' :: rest := by simp
  rw [ht, lex_word hw (by rintro _ ⟨⟩; decide), lex_blank]

theorem boundary_word (w : String) (rest : List Char) :
    Boundary ((" " ++ w ++ " ").toList ++ rest) := by
  have ht : (" " ++ w ++ " ").toList ++ rest = ' ' :: (w.toList ++ ' ' :: rest) := by simp
  rw [ht]
  exact boundary_blank _

mutual

/-- The text of an expression is taken apart into its tokens. -/
theorem Expr.lexes : ∀ {e : Expr}, e.Plain → Lexes d (e.fragments d) (e.tokens d · )
  | .column c, _ => by
    intro n rest hr
    have h := lexes_column (d := d) (n := n) c hr.ne_nameMark fun more => hr.ne_dot _
    rw [fragments, h, params_column]
    rfl
  | .alias ident, _ => lexes_name ident
  | .int m, _ => by
    intro n rest hr
    have h := lex_integer (d := d) (n := n) m hr
    simpa [fragments, tokens] using h
  | .float x, hx => by
    intro n rest hr
    have h := lex_float (d := d) (n := n) (show x.isFinite = true from hx) hr
    simpa [fragments, tokens] using h
  | .null, _ => by
    intro n rest hr
    have h := lex_word (d := d) (n := n) (w := "NULL") (by decide) hr.not_wordChar
    simpa [fragments, tokens] using h
  | .param p, _ => by
    intro n rest hr
    have h := lex_placeholder (d := d) (n := n) hr
    simpa [fragments, tokens] using h
  | .call function args, h => by
    intro n rest _
    have ht : written d n (fragments d (.call function args)) ++ rest = function.toList ++
        '(' :: (written d n (separate ", " (Expr.fragmentsAll d args)) ++ ')' :: rest) := by
      simp [fragments, parenthesized]
    have hp : params (fragments d (.call function args)) =
        params (separate ", " (Expr.fragmentsAll d args)) := by
      simp [fragments, parenthesized]
    rw [ht, hp, lex_call h.1, Expr.lexes_all h.2 n _ (boundary_rparen rest), lex_rparen]
    simp only [Option.map_map]
    simp [tokens, Function.comp_def]
  | .binary op left right, h => by
    have hs := ((Expr.lexes h.1).operand (e := left) op false).separated
      ((Expr.lexes h.2).operand (e := right) op true) (fun _ => lex_arith op) (boundary_arith op)
    simp only [params_operand] at hs
    exact hs
  | .group e, h => (Expr.lexes (e := e) h).parenthesized
  | .jsonNumber c key, h => lexes_jsonAccess c h

theorem Expr.lexes_all : ∀ {es : List Expr}, Expr.PlainAll es →
    Lexes d (separate ", " (Expr.fragmentsAll d es)) (Expr.tokensAll d · es)
  | [], _ => by
    intro n rest _
    simp [Expr.fragmentsAll, separate, Expr.tokensAll]
  | [e], h => Expr.lexes h.1
  | e :: e' :: es, h =>
    (Expr.lexes h.1).separated (Expr.lexes_all (show Expr.PlainAll (e' :: es) from h.2))
      lex_commaBlank boundary_comma

end

/-! ## Conditions -/

theorem Lexes.enclosed {c : Condition} {fs : List Fragment} {tokens : Nat → List Token}
    (h : Lexes d fs tokens) : Lexes d (c.enclosed fs) fun n => c.enclosedTokens (tokens n) := by
  rcases c with _ | _ | _ | _ | _
  · exact h.parenthesized
  · exact h.parenthesized
  · exact h.parenthesized
  · exact h
  · exact h

theorem lexes_word {w : String} (hw : w ∈ Token.words) : Lexes d [.text w] fun _ => [.word w] := by
  intro n rest hr
  have h := lex_word (d := d) (n := n) hw hr.not_wordChar
  simpa using h

theorem lexes_isNull : Lexes d [.text " IS NULL"] fun _ => [.word "IS", .word "NULL"] := by
  intro n rest hr
  have ht : written d n [.text " IS NULL"] ++ rest =
      (" " ++ "IS" ++ " ").toList ++ ("NULL".toList ++ rest) := by
    simp
  rw [ht, lex_wordBlanks (by decide), lex_word (by decide) hr.not_wordChar, Option.map_map]
  rfl

theorem Lexes.junction {rows : List (List Fragment)} {sep none : String}
    {tokens : Nat → List Token} (hn : none ∈ Token.words)
    (h : Lexes d (separate (" " ++ sep ++ " ") rows) tokens) :
    Lexes d (junction sep none rows) fun n => junctionTokens none rows.isEmpty (tokens n) := by
  rcases rows with _ | ⟨row, rows⟩
  · exact lexes_word hn
  · exact h.parenthesized

theorem params_enclosed (c : Condition) (fs : List Fragment) :
    params (c.enclosed fs) = params fs := by
  rcases c with _ | _ | _ | _ | _
  · exact params_parenthesized fs
  · exact params_parenthesized fs
  · exact params_parenthesized fs
  · rfl
  · rfl

theorem params_junction (sep none : String) (rows : List (List Fragment)) :
    params (junction sep none rows) = params (separate (" " ++ sep ++ " ") rows) := by
  rcases rows with _ | ⟨row, rows⟩
  · rfl
  · exact params_parenthesized _

theorem Condition.isEmpty_fragmentsAll (cs : List Condition) :
    (Condition.fragmentsAll d cs).isEmpty = cs.isEmpty := by
  rcases cs with _ | ⟨c, cs⟩ <;> rfl

mutual

/-- The text of a condition is taken apart into its tokens. -/
theorem Condition.lexes : ∀ {c : Condition}, c.Plain → Lexes d (c.fragments d) (c.tokens d ·)
  | .compare op left right, h =>
    (Expr.lexes h.1).separated (Expr.lexes h.2) (fun _ => lex_compare op) (boundary_compare op)
  | .isNull e, h => (Expr.lexes h).append lexes_isNull (starts_text rfl _)
  | .neg c, h => by
    have hnot : ∀ n rest, lex d n ("NOT ".toList ++ rest) =
        (lex d n rest).map ([.word "NOT"] ++ ·) := lex_wordBlank (w := "NOT") (by decide)
    exact (Condition.lexes (c := c) h).enclosed.text hnot
  | .conj cs, h => by
    have hj := (Condition.lexes_all (w := "AND") (by decide) h).junction
      (show "TRUE" ∈ Token.words by decide)
    rw [isEmpty_fragmentsAll] at hj
    exact hj
  | .disj cs, h => by
    have hj := (Condition.lexes_all (w := "OR") (by decide) h).junction
      (show "FALSE" ∈ Token.words by decide)
    rw [isEmpty_fragmentsAll] at hj
    exact hj

theorem Condition.lexes_all {w : String} (hw : w ∈ Token.words) :
    ∀ {cs : List Condition}, Condition.PlainAll cs →
      Lexes d (separate (" " ++ w ++ " ") (Condition.fragmentsAll d cs))
        (Condition.tokensAll d w · cs)
  | [], _ => by
    intro n rest _
    simp [Condition.fragmentsAll, separate, Condition.tokensAll]
  | [c], h => Condition.lexes h.1
  | c :: c' :: cs, h =>
    (Condition.lexes h.1).separated
      (Condition.lexes_all hw (show Condition.PlainAll (c' :: cs) from h.2)) (lex_wordBlanks hw)
      (boundary_word w)

end

end Sql

end Proximity
