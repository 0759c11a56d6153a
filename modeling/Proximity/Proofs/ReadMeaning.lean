import Proximity.Decimal.Value
import Proximity.Proofs.Reading

/-!
# What is read back means what was written

The tree that an expression is read as may lean to another side, but exact arithmetic does not
tell sums apart by how they are put in parentheses. So whatever the columns, the functions and the
bound values are, the tree has the value of the expression, and the tree of a condition is true,
false or NULL as the condition is true, false or unknown.
-/

namespace Proximity

namespace Sql

/-- An alias and a column without a table are one name, and a float is the decimal number that it
is written as. -/
structure Interpretation.Literal (I : Interpretation ℚ) : Prop where
  names : ∀ name, I.alias name = I.column (.bare name)
  floats : ∀ x : Float, x.isFinite = true → I.float x = Decimal.ofFloat x

variable {I : Interpretation ℚ} {ps : List Param} {d : Dialect}

/-- Adding in front of a sum or a difference is adding in front of its left side. -/
theorem Interpretation.arith_add_arith {op : ArithOp} (h : op ≠ .mul) (u v w : Value ℚ) :
    I.arith .add u (I.arith op v w) = I.arith op (I.arith .add u v) w := by
  unfold arith
  rcases I.number? u with _ | x <;> rcases I.number? v with _ | y <;>
    rcases I.number? w with _ | z <;> try rfl
  rcases op with _ | _ | _
  · exact congrArg Value.number (add_assoc x y z).symm
  · exact congrArg Value.number (add_sub_assoc x y z).symm
  · exact absurd rfl h

/-- The value of what is added to a left side, if there is one. -/
def addTo (I : Interpretation ℚ) (ps : List Param) (join : Option Tree) (v : Value ℚ) : Value ℚ :=
  match join with
  | some left => I.arith .add (left.value I ps) v
  | none => v

theorem value_joined (join : Option Tree) (t : Tree) :
    (joined plus join t).value I ps = addTo I ps join (t.value I ps) := by
  rcases join with _ | left <;> rfl

theorem addTo_some (left : Tree) (v : Value ℚ) :
    addTo I ps (some left) v = I.arith .add (left.value I ps) v := rfl

theorem addTo_arith {op : ArithOp} (h : op ≠ .mul) (join : Option Tree) (v w : Value ℚ) :
    addTo I ps join (I.arith op v w) = I.arith op (addTo I ps join v) w := by
  rcases join with _ | left
  · rfl
  · exact I.arith_add_arith h _ v w

/-- Values that stand in a list from a place on stand there one part behind the other. -/
theorem prefix_append {qs rs : List Param} {n : Nat} (h : qs ++ rs <+: ps.drop n) :
    qs <+: ps.drop n ∧ rs <+: ps.drop (n + qs.length) := by
  obtain ⟨more, hm⟩ := h
  rw [List.append_assoc] at hm
  refine ⟨⟨rs ++ more, hm⟩, more, ?_⟩
  rw [← List.drop_drop, ← hm, List.drop_left]

theorem bound_eq {p : Param} {n : Nat} (h : [p] <+: ps.drop n) :
    I.bound ps (n + 1) = I.param p := by
  obtain ⟨more, hm⟩ := h
  have hp : ps[n]? = some p := by
    have := congrArg (·[0]?) hm
    simpa using this.symm
  rw [Interpretation.bound, hp]
  rfl

open Fragment

theorem params_separate {sep : String} (row : List Fragment) (rows : List (List Fragment)) :
    params (separate sep (row :: rows)) = params row ++ params (separate sep rows) := by
  rcases rows with _ | ⟨row', rows⟩
  · simp [separate]
  · simp [separate]

theorem params_binary (op : ArithOp) (left right : Expr) :
    params ((Expr.binary op left right).fragments d) =
      params (left.fragments d) ++ params (right.fragments d) := by
  simp [Expr.fragments, params_operand]

theorem params_call (function : String) (args : List Expr) :
    params ((Expr.call function args).fragments d) =
      params (separate ", " (Expr.fragmentsAll d args)) := by
  simp [Expr.fragments, parenthesized]

theorem value_signedTree (negative : Bool) (x : ℚ) :
    (signedTree negative x).value I ps = .number (if negative then -x else x) := by
  rcases negative with _ | _
  · rfl
  · exact congrArg Value.number (zero_sub x)

theorem int_of_sign (m : Int) :
    (if decide (m < 0) = true then -(m.natAbs : ℚ) else (m.natAbs : ℚ)) = m := by
  rcases lt_or_ge m 0 with h | h
  · rw [if_pos (by simpa using h), ← Int.cast_natCast, Int.ofNat_natAbs_of_nonpos h.le]
    simp
  · rw [if_neg (by simpa using h), ← Int.cast_natCast, Int.natAbs_of_nonneg h]

mutual

/-- The tree that an expression is read as has its value, added to that of the left side. -/
theorem Expr.value_tree (hI : I.Literal) : ∀ {e : Expr}, e.Plain → ∀ n,
    params (e.fragments d) <+: ps.drop n → ∀ join,
      (e.tree d n join).value I ps = addTo I ps join (e.value I)
  | .column c, _, _, _, join => value_joined join _
  | .alias ident, _, _, _, join => by
    rw [value, hI.names]
    exact value_joined join _
  | .int m, _, _, _, join => by
    rw [tree, value_joined, value_signedTree, int_of_sign]
    rfl
  | .float x, hx, _, _, join => by
    rw [tree, value_joined, value_signedTree, value, hI.floats x hx]
    rfl
  | .null, _, _, _, join => value_joined join _
  | .param p, _, n, hp, join => by
    rw [tree, value_joined, value, Tree.value, bound_eq hp]
  | .call function args, h, n, hp, join => by
    rw [params_call] at hp
    rw [tree, value_joined, value, Tree.value, Expr.values_trees hI h.2 n hp]
  | .binary .add left right, h, n, hp, join => by
    rw [params_binary] at hp
    obtain ⟨hl, hr⟩ := prefix_append hp
    -- The right side is added to the tree of the left one, which has been joined already.
    rw [tree, Expr.value_tree hI h.2 (n + left.bound d) hr, addTo_some,
      Expr.value_tree hI h.1 n hl, value, addTo_arith (by decide)]
  | .binary .sub left right, h, n, hp, join => by
    rw [params_binary] at hp
    obtain ⟨hl, hr⟩ := prefix_append hp
    rw [tree, Tree.value, Expr.value_tree hI h.2 (n + left.bound d) hr,
      Expr.value_tree hI h.1 n hl, value, addTo_arith (by decide)]
    rfl
  | .binary .mul left right, h, n, hp, join => by
    rw [params_binary] at hp
    obtain ⟨hl, hr⟩ := prefix_append hp
    rw [tree, value_joined, Tree.value, Expr.value_tree hI h.2 (n + left.bound d) hr,
      Expr.value_tree hI h.1 n hl, value]
    rfl
  | .group e, h, n, hp, join => by
    rw [fragments, params_parenthesized] at hp
    rw [tree, value_joined, Expr.value_tree hI (e := e) h n hp, value]
    rfl
  | .jsonNumber c key, _, _, _, join => value_joined join _

/-- So have the trees of several expressions. -/
theorem Expr.values_trees (hI : I.Literal) : ∀ {es : List Expr}, Expr.PlainAll es → ∀ n,
    params (separate ", " (Expr.fragmentsAll d es)) <+: ps.drop n →
      Tree.values I ps (Expr.trees d n es) = Expr.values I es
  | [], _, _, _ => rfl
  | e :: es, h, n, hp => by
    rw [Expr.fragmentsAll, params_separate] at hp
    obtain ⟨he, hes⟩ := prefix_append hp
    rw [Expr.trees, Tree.values, Expr.values, Expr.value_tree hI h.1 n he,
      Expr.values_trees hI h.2 (n + e.bound d) hes]
    rfl

end

@[simp] theorem Truth.toTruth_toValue (t : Truth) : t.toValue.toTruth = t := by
  rcases t with _ | b <;> rfl

/-- What an operator between conditions makes of two truth values. -/
def Infix.combine : Infix → Truth → Truth → Truth
  | .disj => Truth.either
  | _ => Truth.both

/-- What it makes of several. -/
def Infix.combineAll (op : Infix) (ts : List Truth) : Truth :=
  ts.foldr op.combine (some (op != .disj))

/-- The operators between conditions. -/
def Infix.Logical (op : Infix) : Prop :=
  op = .conj ∨ op = .disj

namespace Infix

variable {op : Infix}

theorem apply_logical (h : op.Logical) (v w : Value ℚ) :
    op.apply I v w = (op.combine v.toTruth w.toTruth).toValue := by
  rcases h with rfl | rfl <;> rfl

theorem combine_unit (h : op.Logical) (t : Truth) : op.combine t (some (op != .disj)) = t := by
  rcases h with rfl | rfl
  · exact Truth.both_true t
  · exact Truth.either_false t

theorem combine_assoc (h : op.Logical) (s t u : Truth) :
    op.combine (op.combine s t) u = op.combine s (op.combine t u) := by
  rcases h with rfl | rfl
  · exact Truth.both_assoc s t u
  · exact Truth.either_assoc s t u

end Infix

/-- The truth value of what is joined to a left side, if there is one. -/
def combineWith (I : Interpretation ℚ) (ps : List Param) (op : Infix) (join : Option Tree)
    (t : Truth) : Truth :=
  match join with
  | some left => op.combine (left.value I ps).toTruth t
  | none => t

theorem value_joined_logical {op : Infix} (h : op.Logical) (join : Option Tree) {t : Tree}
    {u : Truth} (ht : t.value I ps = u.toValue) :
    (joined op join t).value I ps = (combineWith I ps op join u).toValue := by
  rcases join with _ | left
  · exact ht
  · rw [joined, Tree.value, ht, Infix.apply_logical h, Truth.toTruth_toValue]
    rfl

theorem combineWith_combine {op : Infix} (h : op.Logical) (join : Option Tree) (t u : Truth) :
    op.combine (combineWith I ps op join t) u = combineWith I ps op join (op.combine t u) := by
  rcases join with _ | left
  · rfl
  · exact Infix.combine_assoc h _ t u

mutual

/-- The tree that a condition is read as is true, false or NULL as the condition is true, false or
unknown. -/
theorem Condition.value_tree (hI : I.Literal) : ∀ {c : Condition}, c.Plain → ∀ n,
    params (c.fragments d) <+: ps.drop n → (c.tree d n).value I ps = (c.truth I).toValue
  | .compare op left right, h, n, hp => by
    have hp : params (left.fragments d) ++ params (right.fragments d) <+: ps.drop n := by
      simpa [fragments] using hp
    obtain ⟨hl, hr⟩ := prefix_append hp
    rw [tree, Tree.value, Expr.value_tree hI h.1 n hl,
      Expr.value_tree hI h.2 (n + left.bound d) hr]
    rfl
  | .isNull e, h, n, hp => by
    have hp : params (e.fragments d) <+: ps.drop n := by
      simpa [fragments] using hp
    rw [tree, Tree.value, Expr.value_tree hI h n hp]
    rfl
  | .neg c, h, n, hp => by
    rw [fragments, params_text, params_enclosed] at hp
    rw [tree, Tree.value, Condition.value_tree hI (c := c) h n hp, Truth.toTruth_toValue, truth]
  | .conj cs, h, n, hp => by
    rw [fragments, params_junction] at hp
    exact Condition.value_chain hI (.inl rfl) h n none (fun _ => rfl) hp
  | .disj cs, h, n, hp => by
    rw [fragments, params_junction] at hp
    exact Condition.value_chain hI (.inr rfl) h n none (fun _ => rfl) hp

/-- Conditions with an operator between them are read as what it makes of all of them. -/
theorem Condition.value_chain (hI : I.Literal) {op : Infix} (hop : op.Logical) {sep : String} :
    ∀ {cs : List Condition}, Condition.PlainAll cs → ∀ n (join : Option Tree),
      (cs = [] → join = none) →
        params (separate sep (Condition.fragmentsAll d cs)) <+: ps.drop n →
          (Condition.chain d op n join cs).value I ps =
            (combineWith I ps op join (op.combineAll (Condition.truths I cs))).toValue
  | [], _, _, join, hj, _ => by
    rw [hj rfl]
    rfl
  | [c], h, n, join, _, hp => by
    have ht := Condition.value_tree hI h.1 n hp
    rw [Condition.chain, value_joined_logical hop join ht, Condition.truths, Condition.truths]
    rw [show op.combineAll [c.truth I] = op.combine (c.truth I) (some (op != .disj)) from rfl,
      Infix.combine_unit hop]
  | c :: c' :: cs, h, n, join, _, hp => by
    rw [Condition.fragmentsAll, params_separate] at hp
    obtain ⟨hc, hcs⟩ := prefix_append hp
    have ht := value_joined_logical hop join (Condition.value_tree hI h.1 n hc)
    have ih := Condition.value_chain hI hop (show Condition.PlainAll (c' :: cs) from h.2)
      (n + c.bound d) (some (joined op join (c.tree d n))) (by rintro ⟨⟩) hcs
    rw [show Condition.chain d op n join (c :: c' :: cs) =
      Condition.chain d op (n + c.bound d) (some (joined op join (c.tree d n))) (c' :: cs) from rfl,
      ih, combineWith, ht, Truth.toTruth_toValue, combineWith_combine hop, Condition.truths]
    rfl

end

end Sql

end Proximity
