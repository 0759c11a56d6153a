import Proximity.Proofs.WrittenTokens
import Proximity.Sql.Reader

/-!
# Reading back what was written

The reader goes through the tokens of an expression and comes out with a tree. A sum keeps no
parentheses around its right side, so the tree leans to the left where the expression leans to the
right: what waits in front of a sum is joined with its first member already. Everything else is
read as it was written, because an operand that binds weaker than its operator stands in
parentheses.

How far the tree is completed depends on what follows. A sum is complete only at the strength of
its operators, a product at that of its own, and an operand without operators at that of a sign.
-/

namespace Proximity

namespace Sql

open Reader

/-- Nothing that waits on top of the stack binds as strongly as `k`, and no token is required. -/
def Loose (k : Nat) : List Pending → Prop
  | .binary op _ :: _ => op.strength < k
  | .neg :: _ => negStrength < k
  | .minus :: _ => minusStrength < k
  | .expect _ _ :: _ => False
  | _ => True

theorem Loose.mono {j k : Nat} {s : List Pending} (h : Loose j s) (hjk : j ≤ k) : Loose k s := by
  rcases s with _ | ⟨_ | _ | _ | _ | _ | _ | _ | _, s⟩
  case cons.binary => exact Nat.lt_of_lt_of_le h hjk
  case cons.neg => exact Nat.lt_of_lt_of_le h hjk
  case cons.minus => exact Nat.lt_of_lt_of_le h hjk
  case cons.expect => exact h
  all_goals exact trivial

theorem Loose.reduce {k : Nat} {s : List Pending} (h : Loose k s) (t : Tree) :
    reduce k s t = (s, t) := by
  rcases s with _ | ⟨_ | _ | _ | _ | _ | _ | _ | _, s⟩
  case cons.binary => exact if_neg (Nat.not_le.mpr h)
  case cons.neg => exact if_neg (Nat.not_le.mpr h)
  case cons.minus => exact if_neg (Nat.not_le.mpr h)
  all_goals rfl

theorem Loose.step {k : Nat} {s : List Pending} (h : Loose k s) (token : Token) :
    step (s, none) token = operand s token := by
  rcases s with _ | ⟨_ | _ | _ | _ | _ | _ | _ | _, s⟩
  case cons.expect => exact h.elim
  all_goals rfl

/-- What is completed at one strength is completed at a lower one as before. -/
theorem reduce_reduce {j k : Nat} (h : j ≤ k) : ∀ (s : List Pending) (t : Tree),
    reduce j (reduce k s t).1 (reduce k s t).2 = reduce j s t
  | .binary op left :: s, t => by
    by_cases hk : k ≤ op.strength
    · have ih := reduce_reduce h s (.binary op left t)
      simp only [reduce, if_pos hk, if_pos (Nat.le_trans h hk), ih]
    · simp only [reduce, if_neg hk]
  | .neg :: s, t => by
    by_cases hk : k ≤ negStrength
    · have ih := reduce_reduce h s (.neg t)
      simp only [reduce, if_pos hk, if_pos (Nat.le_trans h hk), ih]
    · simp only [reduce, if_neg hk]
  | .minus :: s, t => by
    by_cases hk : k ≤ minusStrength
    · have ih := reduce_reduce h s (.minus t)
      simp only [reduce, if_pos hk, if_pos (Nat.le_trans h hk), ih]
    · simp only [reduce, if_neg hk]
  | [], _ | .group :: _, _ | .call _ _ :: _, _ | .cast :: _, _ | .key _ :: _, _
  | .expect _ _ :: _, _ => rfl

theorem run_append (s : State) (ts us : List Token) :
    run s (ts ++ us) = (run s ts).bind (run · us) := by
  unfold run
  rw [List.foldlM_append]
  rfl

theorem run_cons (s : State) (t : Token) (ts : List Token) :
    run s (t :: ts) = (step s t).bind (run · ts) := rfl

/-- Tokens read onto the stack `s` come out as the tree `t` on the stack `s'`, once all that binds
as strongly as `k` is completed. -/
def Ends (k : Nat) (ts : List Token) (s s' : List Pending) (t : Tree) : Prop :=
  ∃ s₁ t₁, run (s, none) ts = some (s₁, some t₁) ∧ reduce k s₁ t₁ = (s', t)

theorem Ends.of_run {k : Nat} {ts : List Token} {s : List Pending} {t : Tree}
    (h : run (s, none) ts = some (s, some t)) (hs : Loose k s) : Ends k ts s s t :=
  ⟨s, t, h, hs.reduce t⟩

/-- What comes out at one strength is completed further at a lower one. -/
theorem Ends.reduce {j k : Nat} {ts : List Token} {s s' s'' : List Pending} {t t' : Tree}
    (h : Ends k ts s s' t) (hjk : j ≤ k) (hr : reduce j s' t = (s'', t')) :
    Ends j ts s s'' t' := by
  obtain ⟨s₁, t₁, hrun, hred⟩ := h
  refine ⟨s₁, t₁, hrun, ?_⟩
  rw [← reduce_reduce hjk, hred, hr]

theorem Ends.mono {j k : Nat} {ts : List Token} {s s' : List Pending} {t : Tree}
    (h : Ends k ts s s' t) (hjk : j ≤ k) (hs : Loose j s') : Ends j ts s s' t :=
  h.reduce hjk (hs.reduce t)

/-- An operator completes what binds as strongly as it does. -/
theorem Ends.between {k : Nat} {ts us : List Token} {s s' : List Pending} {t : Tree} {op : Infix}
    {token : Token} (h : Ends k ts s s' t) (hk : op.strength ≤ k) (hs : Loose op.strength s')
    (htoken : ∀ s t, operator s t token = some (between op s t)) :
    run (s, none) (ts ++ token :: us) = run (.binary op t :: s', none) us := by
  obtain ⟨s₁, t₁, hrun, hred⟩ := h
  have hr : Reader.reduce op.strength s₁ t₁ = (s', t) := by
    rw [← reduce_reduce hk, hred, hs.reduce]
  rw [run_append, hrun, Option.bind_some, run_cons]
  simp only [Reader.step, htoken, Reader.between, hr, Option.bind_some]

/-- Tokens in parentheses are read as one operand. -/
theorem Ends.enclosed {k : Nat} {ts : List Token} {s : List Pending} {t : Tree}
    (h : Ends k ts (.group :: s) (.group :: s) t) {j : Nat} (hs : Loose j s) :
    run (s, none) (enclosedTokens ts) = some (s, some t) := by
  obtain ⟨s₁, t₁, hrun, hr⟩ := h.mono (Nat.zero_le k) trivial
  unfold enclosedTokens
  rw [List.cons_append, run_cons, hs.step]
  simp only [operand, Option.bind_some]
  rw [run_append, hrun, Option.bind_some, run_cons]
  simp only [Reader.step, operator, hr, Option.bind_some]
  rfl

theorem Ends.comma {k : Nat} {ts : List Token} {s : List Pending} {t : Tree} {function : String}
    {done : List Tree} (h : Ends k ts (.call function done :: s) (.call function done :: s) t)
    (us : List Token) :
    run (.call function done :: s, none) (ts ++ .comma :: us) =
      run (.call function (done ++ [t]) :: s, none) us := by
  obtain ⟨s₁, t₁, hrun, hr⟩ := h.mono (Nat.zero_le k) trivial
  rw [run_append, hrun, Option.bind_some, run_cons]
  simp only [Reader.step, operator, hr, Option.bind_some]

theorem Ends.last {k : Nat} {ts : List Token} {s : List Pending} {t : Tree} {function : String}
    {done : List Tree} (h : Ends k ts (.call function done :: s) (.call function done :: s) t) :
    run (.call function done :: s, none) (ts ++ [.rparen]) =
      some (s, some (.call function (done ++ [t]))) := by
  obtain ⟨s₁, t₁, hrun, hr⟩ := h.mono (Nat.zero_le k) trivial
  rw [run_append, hrun, Option.bind_some, run_cons]
  simp only [Reader.step, operator, hr, Option.bind_some]
  rfl

/-! ## The trees that come out -/

/-- The stack with a left side and its operator waiting, if there is one. -/
def pend (op : Infix) (join : Option Tree) (s : List Pending) : List Pending :=
  match join with
  | some left => .binary op left :: s
  | none => s

/-- A tree joined to a left side, if there is one. -/
def joined (op : Infix) (join : Option Tree) (t : Tree) : Tree :=
  match join with
  | some left => .binary op left t
  | none => t

theorem loose_pend {op : Infix} {k : Nat} {s : List Pending} (hs : Loose k s)
    (hk : op.strength < k) (join : Option Tree) : Loose k (pend op join s) := by
  rcases join with _ | left
  · exact hs
  · exact hk

theorem reduce_pend {op : Infix} {s : List Pending} (hs : Loose op.strength s)
    (join : Option Tree) (t : Tree) :
    reduce op.strength (pend op join s) t = (s, joined op join t) := by
  rcases join with _ | left
  · exact hs.reduce t
  · exact (if_pos le_rfl).trans (hs.reduce _)

/-- A number after its sign. -/
def signedTree (negative : Bool) (x : ℚ) : Tree :=
  if negative then .minus (.number x) else .number x

/-- The operator of sums. -/
abbrev plus : Infix := .arith .add

mutual

/-- The tree that an expression behind `n` bound values is read as, when a left side waits for it to
be added. -/
def Expr.tree (d : Dialect) (n : Nat) (join : Option Tree) : Expr → Tree
  | .binary .add left right =>
    right.tree d (n + left.bound d) (some (left.tree d n join))
  | .binary .sub left right =>
    .binary (.arith .sub) (left.tree d n join) (right.tree d (n + left.bound d) none)
  | .binary .mul left right =>
    joined plus join
      (.binary (.arith .mul) (left.tree d n none) (right.tree d (n + left.bound d) none))
  | .column c => joined plus join (.column c)
  | .alias name => joined plus join (.column (.bare name))
  | .int m => joined plus join (signedTree (m < 0) m.natAbs)
  | .float x => joined plus join
    (signedTree (Decimal.shortest .away x).negative (Decimal.shortest .away x).magnitude)
  | .null => joined plus join .null
  | .param _ => joined plus join (.placeholder (n + 1))
  | .call function args => joined plus join (.call function (Expr.trees d n args))
  | .group e => joined plus join (e.tree d n none)
  | .jsonNumber c key => joined plus join (.json c key)

/-- The trees that several expressions are read as. -/
def Expr.trees (d : Dialect) (n : Nat) : List Expr → List Tree
  | [] => []
  | e :: es => e.tree d n none :: Expr.trees d (n + e.bound d) es

end

/-- Whether an expression is a sum or a difference. -/
def Expr.isSum : Expr → Bool
  | .binary .add _ _ | .binary .sub _ _ => true
  | _ => false

/-- Whether an expression has an operator outside. -/
def Expr.isBinary : Expr → Bool
  | .binary _ _ _ => true
  | _ => false

/-- How an expression is read: with a left side waiting, as a product, and without an operator. -/
structure Expr.Reads (d : Dialect) (e : Expr) : Prop where
  sum : ∀ n join s, Loose 5 s → Ends 5 (e.tokens d n) (pend plus join s) s (e.tree d n join)
  product : e.isSum = false → ∀ n s, Loose 6 s → Ends 6 (e.tokens d n) s s (e.tree d n none)
  atom : e.isBinary = false → ∀ n s, Loose 7 s → Ends 7 (e.tokens d n) s s (e.tree d n none)

namespace Expr

variable {d : Dialect} {e : Expr}

theorem Reads.of_product (hj : ∀ n join, e.tree d n join = joined plus join (e.tree d n none))
    (hp : ∀ n s, Loose 6 s → Ends 6 (e.tokens d n) s s (e.tree d n none))
    (ha : e.isBinary = false → ∀ n s, Loose 7 s → Ends 7 (e.tokens d n) s s (e.tree d n none)) :
    e.Reads d where
  sum n join s hs := by
    have h := hp n (pend plus join s) (loose_pend (hs.mono (by decide)) (by decide) join)
    rw [hj]
    exact h.reduce (by decide) (reduce_pend (show Loose plus.strength s from hs) join _)
  product _ := hp
  atom := ha

/-- What is read as one operand is read as a product and as a member of a sum. -/
theorem Reads.of_atom (hj : ∀ n join, e.tree d n join = joined plus join (e.tree d n none))
    (ha : ∀ n s, Loose 7 s → Ends 7 (e.tokens d n) s s (e.tree d n none)) : e.Reads d :=
  .of_product hj (fun n s hs => (ha n s (hs.mono (by decide))).mono (by decide) hs) fun _ => ha

theorem Reads.alone (h : e.Reads d) (n : Nat) {s : List Pending} (hs : Loose 5 s) :
    Ends 5 (e.tokens d n) s s (e.tree d n none) :=
  h.sum n none s hs

theorem Reads.enclosed (h : e.Reads d) (n : Nat) {k : Nat} {s : List Pending} (hs : Loose k s) :
    run (s, none) (enclosedTokens (e.tokens d n)) = some (s, some (e.tree d n none)) :=
  (h.alone n (s := .group :: s) trivial).enclosed hs

/-- An operand is read in its parentheses, or as it is where it needs none. -/
theorem Reads.operand (h : e.Reads d) {op : ArithOp} {onRight : Bool} {k n : Nat}
    {s : List Pending} (hs : Loose k s)
    (hbare : e.needsParens op onRight = false → Ends k (e.tokens d n) s s (e.tree d n none)) :
    Ends k (e.operandTokens op onRight (e.tokens d n)) s s (e.tree d n none) := by
  unfold operandTokens
  split
  · exact .of_run (h.enclosed n hs) hs
  · rename_i hp
    exact hbare (Bool.eq_false_of_not_eq_true hp)

/-- Whatever stands bare on the left of a product is no sum. -/
theorem isSum_of_left_mul (h : e.needsParens .mul false = false) : e.isSum = false := by
  rcases e with _ | _ | _ | _ | _ | _ | _ | ⟨_ | _ | _, _, _⟩ | _ | _
  case binary.add => cases h
  case binary.sub => cases h
  all_goals rfl

theorem isSum_of_right_sub (h : e.needsParens .sub true = false) : e.isSum = false := by
  rcases e with _ | _ | _ | _ | _ | _ | _ | ⟨_ | _ | _, _, _⟩ | _ | _
  case binary.add => cases h
  case binary.sub => cases h
  all_goals rfl

theorem isBinary_of_right_mul (h : e.needsParens .mul true = false) : e.isBinary = false := by
  rcases e with _ | _ | _ | _ | _ | _ | _ | ⟨_ | _ | _, _, _⟩ | _ | _
  case binary.add => cases h
  case binary.sub => cases h
  case binary.mul => cases h
  all_goals rfl

theorem Reads.left_mul (h : e.Reads d) (n : Nat) {s : List Pending} (hs : Loose 6 s) :
    Ends 6 (e.operandTokens .mul false (e.tokens d n)) s s (e.tree d n none) :=
  h.operand hs fun hp => h.product (isSum_of_left_mul hp) n s hs

theorem Reads.right_mul (h : e.Reads d) (n : Nat) {s : List Pending} (hs : Loose 7 s) :
    Ends 7 (e.operandTokens .mul true (e.tokens d n)) s s (e.tree d n none) :=
  h.operand hs fun hp => h.atom (isBinary_of_right_mul hp) n s hs

theorem Reads.right_sub (h : e.Reads d) (n : Nat) {s : List Pending} (hs : Loose 6 s) :
    Ends 6 (e.operandTokens .sub true (e.tokens d n)) s s (e.tree d n none) :=
  h.operand hs fun hp => h.product (isSum_of_right_sub hp) n s hs

theorem operandTokens_add (onRight : Bool) (ts : List Token) :
    e.operandTokens .add onRight ts = ts := by
  have h : e.needsParens .add onRight = false := by
    rcases e with _ | _ | _ | _ | _ | _ | _ | ⟨_ | _ | _, _, _⟩ | _ | _ <;>
      rcases onRight with _ | _ <;> rfl
  rw [operandTokens, h, if_neg Bool.false_ne_true]

theorem operandTokens_sub_left (ts : List Token) : e.operandTokens .sub false ts = ts := by
  have h : e.needsParens .sub false = false := by
    rcases e with _ | _ | _ | _ | _ | _ | _ | ⟨_ | _ | _, _, _⟩ | _ | _ <;> rfl
  rw [operandTokens, h, if_neg Bool.false_ne_true]

variable {left right : Expr}

theorem operator_arith (op : ArithOp) (s : List Pending) (t : Tree) :
    operator s t (.arith op) = some (between (.arith op) s t) := rfl

/-- A sum is read member by member; the left side waits for the right one. -/
theorem Reads.add (hl : left.Reads d) (hr : right.Reads d) : (binary .add left right).Reads d where
  sum n join s hs := by
    have hs' : Loose plus.strength s := hs
    -- What waits for the sum is joined with its left side, and both wait for the right one.
    obtain ⟨s₁, t₁, hrun, hred⟩ :=
      hr.sum (n + left.bound d) (some (left.tree d n join)) s hs
    refine ⟨s₁, t₁, ?_, hred⟩
    rw [tokens, operandTokens_add, operandTokens_add,
      (hl.sum n join s hs).between (by decide) hs' (operator_arith .add)]
    exact hrun
  product h := by cases h
  atom h := by cases h

/-- A difference takes only its right side off. -/
theorem Reads.sub (hl : left.Reads d) (hr : right.Reads d) : (binary .sub left right).Reads d where
  sum n join s hs := by
    have hs' : Loose (Infix.arith .sub).strength s := hs
    have h : Ends 5 _ (.binary (.arith .sub) (left.tree d n join) :: s) s _ :=
      (hr.right_sub (n + left.bound d) (s := .binary (.arith .sub) (left.tree d n join) :: s)
        (show 5 < 6 by decide)).reduce (by decide) (reduce_pend hs' (some _) _)
    obtain ⟨s₁, t₁, hrun, hred⟩ := h
    refine ⟨s₁, t₁, ?_, hred⟩
    rw [tokens, operandTokens_sub_left,
      (hl.sum n join s hs).between (by decide) hs' (operator_arith .sub)]
    exact hrun
  product h := by cases h
  atom h := by cases h

/-- A product is complete before a sum goes on. -/
theorem Reads.mul (hl : left.Reads d) (hr : right.Reads d) : (binary .mul left right).Reads d := by
  refine .of_product (fun _ _ => rfl) (fun n s hs => ?_) fun h => by cases h
  have hs' : Loose (Infix.arith .mul).strength s := hs
  have h : Ends 6 _ (.binary (.arith .mul) (left.tree d n none) :: s) s _ :=
    (hr.right_mul (n + left.bound d) (s := .binary (.arith .mul) (left.tree d n none) :: s)
      (show 6 < 7 by decide)).reduce (by decide) (reduce_pend hs' (some _) _)
  obtain ⟨s₁, t₁, hrun, hred⟩ := h
  refine ⟨s₁, t₁, ?_, hred⟩
  rw [tokens, (hl.left_mul n hs).between (by decide) hs' (operator_arith .mul)]
  exact hrun

theorem Reads.of_token {t : Nat → Token} {tree : Nat → Tree}
    (hts : ∀ n, e.tokens d n = [t n])
    (htree : ∀ n join, e.tree d n join = joined plus join (tree n))
    (h : ∀ n s, Reader.operand s (t n) = some (s, some (tree n))) : e.Reads d := by
  refine .of_atom (fun n join => by rw [htree, htree]; rfl) fun n s hs => ?_
  rw [hts, htree]
  refine .of_run ?_ hs
  rw [run_cons, hs.step, h]
  rfl

theorem Reads.of_signed {negative : Bool} {x : ℚ} (hts : ∀ n, e.tokens d n = signed negative x)
    (htree : ∀ n join, e.tree d n join = joined plus join (signedTree negative x)) : e.Reads d := by
  refine .of_atom (fun n join => by rw [htree, htree]; rfl) fun n s hs => ?_
  rw [hts, htree]
  rcases negative with _ | _
  · refine .of_run ?_ hs
    rw [show signed false x = [.number x] from rfl, run_cons, hs.step]
    rfl
  · refine ⟨.minus :: s, .number x, ?_, ?_⟩
    · rw [show signed true x = [.arith .sub, .number x] from rfl, run_cons, hs.step]
      rfl
    · exact (if_pos (by decide)).trans (hs.reduce _)

end Expr

theorem quoted_of_not_mem {mark : Char} : ∀ {cs : List Char} (rest : List Char), mark ∉ cs →
    (∀ c ∈ rest.head?, c ≠ mark) → Token.quoted mark (cs ++ mark :: rest) = some (cs, rest)
  | [], rest, _, hr => by
    have h := Token.quoted_doubled [] hr
    exact h
  | c :: cs, rest, hm, hr => by
    have hc : c ≠ mark := fun h => hm (h ▸ List.mem_cons_self)
    have hcs : mark ∉ cs := fun h => hm (List.mem_cons_of_mem c h)
    have ih := quoted_of_not_mem rest hcs hr
    rw [List.cons_append]
    unfold Token.quoted
    rw [if_neg hc, ih]
    rfl

theorem pathKey?_path {key : String} (h : PlainKey key) :
    pathKey? ("$.\"" ++ key ++ "\"") = some key := by
  obtain ⟨-, hd, hb⟩ := h
  have hq := quoted_of_not_mem [] hd (by rintro c ⟨⟩)
  unfold pathKey?
  simp only [String.toList_append]
  rw [show "$.\"".toList = ['$', '.', '"'] from rfl, show "\"".toList = ['"'] from rfl]
  simp only [List.cons_append, List.nil_append, hq]
  simp [hd, hb]

theorem run_jsonTokens {d : Dialect} (c : Column) {key : String} (h : PlainKey key)
    {k : Nat} {s : List Pending} (hs : Loose k s) :
    run (s, none) (jsonTokens d c key) = some (s, some (.json c key)) := by
  rcases d with _ | _
  · have hl : step (.call "JSON_EXTRACT" [.column c] :: s, none)
        (.literal ("$.\"" ++ key ++ "\"")) = some (.expect [.rparen] (.json c key) :: s, none) := by
      change (pathKey? _).map _ = _
      rw [pathKey?_path h]
      rfl
    rw [jsonTokens, run_cons, hs.step]
    change (step (.call "JSON_EXTRACT" [.column c] :: s, none) _).bind (run · [.rparen]) = _
    rw [hl]
    rfl
  · rw [jsonTokens, run_cons, hs.step]
    rfl

/-! ## Expressions and conditions -/

variable {d : Dialect}

mutual

theorem Expr.reads : ∀ {e : Expr}, e.Plain → e.Reads d
  | .column c, _ => .of_token (fun _ => rfl) (fun _ _ => rfl) fun _ _ => rfl
  | .alias name, _ => .of_token (fun _ => rfl) (fun _ _ => rfl) fun _ _ => rfl
  | .int m, _ => .of_signed (fun _ => rfl) fun _ _ => rfl
  | .float x, _ => .of_signed (fun _ => rfl) fun _ _ => rfl
  | .null, _ => .of_token (fun _ => rfl) (fun _ _ => rfl) fun _ _ => rfl
  | .param p, _ => .of_token (fun _ => rfl) (fun _ _ => rfl) fun _ _ => rfl
  | .call function args, h => by
    refine .of_atom (fun _ _ => rfl) fun n s hs => .of_run ?_ hs
    have ha := Expr.run_tokensAll h.2 n function [] s fun _ => rfl
    rw [Expr.tokens, List.cons_append, run_cons, hs.step]
    exact ha
  | .binary .add left right, h => .add (Expr.reads h.1) (Expr.reads h.2)
  | .binary .sub left right, h => .sub (Expr.reads h.1) (Expr.reads h.2)
  | .binary .mul left right, h => .mul (Expr.reads h.1) (Expr.reads h.2)
  | .group e, h =>
    .of_atom (fun _ _ => rfl) fun n _ hs => .of_run ((Expr.reads (e := e) h).enclosed n hs) hs
  | .jsonNumber c key, h =>
    .of_atom (fun _ _ => rfl) fun _ _ hs => .of_run (run_jsonTokens c h hs) hs

/-- The arguments of a function are read one by one up to its closing parenthesis. -/
theorem Expr.run_tokensAll : ∀ {es : List Expr}, Expr.PlainAll es →
    ∀ (n : Nat) (function : String) (done : List Tree) (s : List Pending), (es = [] → done = []) →
      run (.call function done :: s, none) (Expr.tokensAll d n es ++ [.rparen]) =
        some (s, some (.call function (done ++ Expr.trees d n es)))
  | [], _, n, function, done, s, h => by
    rw [h rfl]
    rfl
  | [e], h, n, function, done, s, _ =>
    ((Expr.reads h.1).alone n (s := .call function done :: s) trivial).last
  | e :: e' :: es, h, n, function, done, s, _ => by
    have hs := ((Expr.reads h.1).alone n (s := .call function done :: s) trivial).comma
    have ht := Expr.run_tokensAll (show Expr.PlainAll (e' :: es) from h.2) (n + e.bound d) function
      (done ++ [e.tree d n none]) s (by rintro ⟨⟩)
    rw [show Expr.tokensAll d n (e :: e' :: es) =
      e.tokens d n ++ .comma :: Expr.tokensAll d (n + e.bound d) (e' :: es) from rfl,
      List.append_assoc, List.cons_append]
    refine (hs _).trans (ht.trans ?_)
    rw [List.append_assoc]
    rfl

end

mutual

/-- The tree that a condition behind `n` bound values is read as. -/
def Condition.tree (d : Dialect) (n : Nat) : Condition → Tree
  | .compare op left right =>
    .binary (.compare op) (left.tree d n none) (right.tree d (n + left.bound d) none)
  | .isNull e => .isNull (e.tree d n none)
  | .neg c => .neg (c.tree d n)
  | .conj cs => Condition.chain d .conj n none cs
  | .disj cs => Condition.chain d .disj n none cs

/-- The tree that conditions with an operator between them are read as, when a left side waits for
them. -/
def Condition.chain (d : Dialect) (op : Infix) (n : Nat) (join : Option Tree) :
    List Condition → Tree
  | [] => .truth (op != .disj)
  | [c] => joined op join (c.tree d n)
  | c :: cs => Condition.chain d op (n + c.bound d) (some (joined op join (c.tree d n))) cs

end

/-- How a condition is read, and how where it stands behind NOT. -/
structure Condition.Reads (d : Dialect) (c : Condition) : Prop where
  whole : ∀ n s, Loose 3 s → Ends 3 (c.tokens d n) s s (c.tree d n)
  negated : ∀ n s, Loose 7 s →
    run (s, none) (c.enclosedTokens (c.tokens d n)) = some (s, some (c.tree d n))

/-- A word that stands between conditions. -/
structure Joins (w : String) (op : Infix) : Prop where
  operator : ∀ s t, operator s t (.word w) = some (between op s t)
  weak : op.strength ≤ 2
  strong : 1 ≤ op.strength

theorem joins_and : Joins "AND" .conj := ⟨fun _ _ => rfl, by decide, by decide⟩

theorem joins_or : Joins "OR" .disj := ⟨fun _ _ => rfl, by decide, by decide⟩

namespace Condition

variable {c : Condition}

theorem Reads.of_whole (he : ∀ ts, c.enclosedTokens ts = Sql.enclosedTokens ts)
    (h : ∀ n s, Loose 3 s → Ends 3 (c.tokens d n) s s (c.tree d n)) : c.Reads d where
  whole := h
  negated n s hs := by
    rw [he]
    exact (h n (.group :: s) trivial).enclosed hs

theorem Reads.of_run (he : ∀ ts, c.enclosedTokens ts = ts)
    (h : ∀ n s, Loose 7 s → run (s, none) (c.tokens d n) = some (s, some (c.tree d n))) :
    c.Reads d where
  whole n s hs := .of_run (h n s (hs.mono (by decide))) hs
  negated n s hs := by
    rw [he]
    exact h n s hs

theorem Reads.compare (op : Comparison) {left right : Expr} (hl : left.Reads d)
    (hr : right.Reads d) : (Condition.compare op left right).Reads d := by
  refine .of_whole (fun _ => rfl) fun n s hs => ?_
  have hs' : Loose (Infix.compare op).strength s := hs.mono (show 3 ≤ 4 by decide)
  have h : Ends 3 _ (.binary (.compare op) (left.tree d n none) :: s) s _ :=
    (hr.alone (n + left.bound d) (s := .binary (.compare op) (left.tree d n none) :: s)
      (show 4 < 5 by decide)).reduce (show 3 ≤ 5 by decide)
        ((if_pos (show 3 ≤ 4 by decide)).trans (hs.reduce _))
  obtain ⟨s₁, t₁, hrun, hred⟩ := h
  refine ⟨s₁, t₁, ?_, hred⟩
  rw [tokens, (hl.alone n (hs.mono (by decide))).between
    (show (Infix.compare op).strength ≤ 5 from Nat.le_succ 4) hs' fun _ _ => rfl]
  exact hrun

theorem Reads.isNull {e : Expr} (h : e.Reads d) : (Condition.isNull e).Reads d := by
  refine .of_whole (fun _ => rfl) fun n s hs => .of_run ?_ hs
  obtain ⟨s₁, t₁, hrun, hred⟩ := h.alone n (s := s) (hs.mono (by decide))
  have hr : reduce isNullStrength s₁ t₁ = (s, e.tree d n none) := by
    rw [← reduce_reduce (show isNullStrength ≤ 5 by decide), hred]
    exact (hs.mono (show 3 ≤ 4 by decide)).reduce _
  rw [tokens, run_append, hrun, Option.bind_some, run_cons]
  simp only [step, operator, hr, Option.bind_some]
  rfl

theorem Reads.neg (h : c.Reads d) : (Condition.neg c).Reads d := by
  refine .of_whole (fun _ => rfl) fun n s hs => ⟨.neg :: s, c.tree d n, ?_, ?_⟩
  · rw [tokens, run_cons, hs.step]
    exact h.negated n (.neg :: s) (show 3 < 7 by decide)
  · exact (if_pos le_rfl).trans (hs.reduce _)

/-- Conditions between parentheses, or the constant that stands for none. -/
theorem run_junction {w none : String} {op : Infix} {cs : List Condition}
    (hn : ∀ s, operand s (.word none) = some (s, some (.truth (op != .disj))))
    (h : cs ≠ [] → ∀ n s, Loose 1 s →
      Ends op.strength (tokensAll d w n cs) s s (chain d op n .none cs))
    (n : Nat) {s : List Pending} (hs : Loose 7 s) :
    run (s, .none) (junctionTokens none cs.isEmpty (tokensAll d w n cs)) =
      some (s, some (chain d op n .none cs)) := by
  rcases cs with _ | ⟨c, cs⟩
  · rw [show junctionTokens none ([] : List Condition).isEmpty _ = [.word none] from rfl, run_cons,
      hs.step, hn]
    rfl
  · exact (h (List.cons_ne_nil _ _) n (.group :: s) trivial).enclosed hs

mutual

theorem reads : ∀ {c : Condition}, c.Plain → c.Reads d
  | .compare op _ _, h => .compare op (Expr.reads h.1) (Expr.reads h.2)
  | .isNull _, h => .isNull (Expr.reads h)
  | .neg c, h => .neg (reads (c := c) h)
  | .conj _, h => .of_run (fun _ => rfl) fun n _ hs =>
    run_junction (fun _ => rfl) (fun hne n s hs => reads_all joins_and h hne n none s hs) n hs
  | .disj _, h => .of_run (fun _ => rfl) fun n _ hs =>
    run_junction (fun _ => rfl) (fun hne n s hs => reads_all joins_or h hne n none s hs) n hs

/-- Conditions with a word between them are joined from the left. -/
theorem reads_all {w : String} {op : Infix} (hw : Joins w op) :
    ∀ {cs : List Condition}, Condition.PlainAll cs → cs ≠ [] → ∀ n join s, Loose 1 s →
      Ends op.strength (tokensAll d w n cs) (pend op join s) s (chain d op n join cs)
  | [], _, hne, _, _, _, _ => absurd rfl hne
  | [c], h, _, n, join, s, hs => by
    have hp : Loose 3 (pend op join s) :=
      loose_pend (hs.mono (by decide)) (Nat.lt_succ_of_le hw.weak) join
    exact ((reads h.1).whole n _ hp).reduce (Nat.le_succ_of_le hw.weak)
      (reduce_pend (hs.mono hw.strong) join _)
  | c :: c' :: cs, h, _, n, join, s, hs => by
    have hp : Loose 3 (pend op join s) :=
      loose_pend (hs.mono (by decide)) (Nat.lt_succ_of_le hw.weak) join
    have hc : Ends op.strength (c.tokens d n) (pend op join s) s (joined op join (c.tree d n)) :=
      ((reads h.1).whole n _ hp).reduce (Nat.le_succ_of_le hw.weak)
        (reduce_pend (hs.mono hw.strong) join _)
    -- The word behind the first condition completes it with all that waits for it, so for those
    -- that follow this is the left side.
    obtain ⟨s₁, t₁, hrun, hred⟩ := reads_all hw
      (show Condition.PlainAll (c' :: cs) from h.2) (List.cons_ne_nil _ _) (n + c.bound d)
      (some (joined op join (c.tree d n))) s hs
    refine ⟨s₁, t₁, ?_, hred⟩
    rw [show tokensAll d w n (c :: c' :: cs) =
      c.tokens d n ++ .word w :: tokensAll d w (n + c.bound d) (c' :: cs) from rfl,
      hc.between le_rfl (hs.mono hw.strong) hw.operator]
    exact hrun

end

end Condition

end Sql

end Proximity
