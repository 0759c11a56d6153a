import Proximity.Sql.Meaning

/-!
# Aliases replaced by what they stand for

An alias names an expression that the subquery shows. Putting the expression in its place changes
no meaning, and neither does leaving parentheses out of a tree, whose shape says what belongs
together.
-/

namespace Proximity

namespace Sql

mutual

/-- An expression in which each alias is replaced by what defines it. -/
def Expr.substitute (definition? : String → Option Expr) : Expr → Expr
  | .alias name => (definition? name).getD (.alias name)
  | .call function args => .call function (Expr.substituteAll definition? args)
  | .binary op left right =>
    .binary op (left.substitute definition?) (right.substitute definition?)
  | .group e => .group (e.substitute definition?)
  | e => e

/-- Several expressions in which each alias is replaced by what defines it. -/
def Expr.substituteAll (definition? : String → Option Expr) : List Expr → List Expr
  | [] => []
  | e :: es => e.substitute definition? :: Expr.substituteAll definition? es

end

mutual

/-- A condition in which each alias is replaced by what defines it. -/
def Condition.substitute (definition? : String → Option Expr) : Condition → Condition
  | .compare op left right =>
    .compare op (left.substitute definition?) (right.substitute definition?)
  | .isNull e => .isNull (e.substitute definition?)
  | .neg c => .neg (c.substitute definition?)
  | .conj cs => .conj (Condition.substituteAll definition? cs)
  | .disj cs => .disj (Condition.substituteAll definition? cs)

/-- Several conditions in which each alias is replaced by what defines it. -/
def Condition.substituteAll (definition? : String → Option Expr) : List Condition → List Condition
  | [] => []
  | c :: cs => c.substitute definition? :: Condition.substituteAll definition? cs

end

mutual

/-- An expression without its parentheses. -/
def Expr.ungrouped : Expr → Expr
  | .call function args => .call function (Expr.ungroupedAll args)
  | .binary op left right => .binary op left.ungrouped right.ungrouped
  | .group e => e.ungrouped
  | e => e

/-- Several expressions without their parentheses. -/
def Expr.ungroupedAll : List Expr → List Expr
  | [] => []
  | e :: es => e.ungrouped :: Expr.ungroupedAll es

end

mutual

/-- A condition without the parentheses in its expressions. -/
def Condition.ungrouped : Condition → Condition
  | .compare op left right => .compare op left.ungrouped right.ungrouped
  | .isNull e => .isNull e.ungrouped
  | .neg c => .neg c.ungrouped
  | .conj cs => .conj (Condition.ungroupedAll cs)
  | .disj cs => .disj (Condition.ungroupedAll cs)

/-- Several conditions without the parentheses in their expressions. -/
def Condition.ungroupedAll : List Condition → List Condition
  | [] => []
  | c :: cs => c.ungrouped :: Condition.ungroupedAll cs

end

theorem Condition.substituteAll_eq_map (definition? : String → Option Expr) :
    ∀ cs, Condition.substituteAll definition? cs = cs.map (·.substitute definition?)
  | [] => rfl
  | c :: cs => by rw [Condition.substituteAll, substituteAll_eq_map definition? cs, List.map_cons]

/-- Replacing aliases leaves conditions as they are that it leaves as they are one by one. -/
theorem Condition.substituteAll_eq_self {definition? : String → Option Expr} {cs : List Condition}
    (h : ∀ c ∈ cs, c.substitute definition? = c) : Condition.substituteAll definition? cs = cs := by
  rw [substituteAll_eq_map, List.map_congr_left h, List.map_id']

theorem Condition.substitute_all {definition? : String → Option Expr} {cs : List Condition}
    (h : ∀ c ∈ cs, c.substitute definition? = c) :
    (Condition.all cs).substitute definition? = .all cs := by
  unfold Condition.all
  split
  · exact h _ (List.mem_singleton_self _)
  · rw [Condition.substitute, substituteAll_eq_self h]

theorem Condition.substitute_any {definition? : String → Option Expr} {cs : List Condition}
    (h : ∀ c ∈ cs, c.substitute definition? = c) :
    (Condition.any cs).substitute definition? = .any cs := by
  unfold Condition.any
  split
  · exact h _ (List.mem_singleton_self _)
  · rw [Condition.substitute, substituteAll_eq_self h]

variable {K : Type} [Ring K] (I : Interpretation K) (definition? : String → Option Expr)

mutual

/-- An alias replaced by its definition has the value that it stands for. -/
theorem Expr.value_substitute : ∀ e : Expr,
    (e.substitute definition?).value I = e.value (I.defining definition?)
  | .column _ | .int _ | .float _ | .null | .param _ | .jsonNumber _ _ => rfl
  | .alias name => by
    simp only [substitute, value, Interpretation.defining]
    rcases definition? name with _ | e <;> rfl
  | .call function args => by
    rw [substitute, value, value, Expr.values_substitute args]
    rfl
  | .binary op left right => by
    rw [substitute, value, value, value_substitute left, value_substitute right]
    rfl
  | .group e => value_substitute e

theorem Expr.values_substitute : ∀ es : List Expr,
    Expr.values I (Expr.substituteAll definition? es) = Expr.values (I.defining definition?) es
  | [] => rfl
  | e :: es => by
    rw [Expr.substituteAll, Expr.values, Expr.values, value_substitute e, values_substitute es]

end

mutual

theorem Expr.value_ungrouped : ∀ e : Expr, e.ungrouped.value I = e.value I
  | .column _ | .alias _ | .int _ | .float _ | .null | .param _ | .jsonNumber _ _ => rfl
  | .call function args => by rw [ungrouped, value, value, Expr.values_ungrouped args]
  | .binary op left right => by
    rw [ungrouped, value, value, value_ungrouped left, value_ungrouped right]
  | .group e => value_ungrouped e

theorem Expr.values_ungrouped : ∀ es : List Expr,
    Expr.values I (Expr.ungroupedAll es) = Expr.values I es
  | [] => rfl
  | e :: es => by
    rw [Expr.ungroupedAll, Expr.values, Expr.values, value_ungrouped e, values_ungrouped es]

end

variable [LinearOrder K]

theorem Interpretation.compare_defining (op : Comparison) (v w : Value K) :
    (I.defining definition?).compare op v w = I.compare op v w := rfl

mutual

/-- A condition with its aliases replaced holds where it holds with them defined. -/
theorem Condition.truth_substitute : ∀ c : Condition,
    (c.substitute definition?).truth I = c.truth (I.defining definition?)
  | .compare op left right => by
    rw [substitute, truth, truth, Expr.value_substitute, Expr.value_substitute,
      I.compare_defining]
  | .isNull e => by rw [substitute, truth, truth, Expr.value_substitute]
  | .neg c => by rw [substitute, truth, truth, truth_substitute c]
  | .conj cs => by rw [substitute, truth, truth, Condition.truths_substitute cs]
  | .disj cs => by rw [substitute, truth, truth, Condition.truths_substitute cs]

theorem Condition.truths_substitute : ∀ cs : List Condition,
    Condition.truths I (Condition.substituteAll definition? cs) =
      Condition.truths (I.defining definition?) cs
  | [] => rfl
  | c :: cs => by
    rw [Condition.substituteAll, Condition.truths, Condition.truths, truth_substitute c,
      truths_substitute cs]

end

mutual

theorem Condition.truth_ungrouped : ∀ c : Condition, c.ungrouped.truth I = c.truth I
  | .compare op left right => by
    rw [ungrouped, truth, truth, Expr.value_ungrouped, Expr.value_ungrouped]
  | .isNull e => by rw [ungrouped, truth, truth, Expr.value_ungrouped]
  | .neg c => by rw [ungrouped, truth, truth, truth_ungrouped c]
  | .conj cs => by rw [ungrouped, truth, truth, Condition.truths_ungrouped cs]
  | .disj cs => by rw [ungrouped, truth, truth, Condition.truths_ungrouped cs]

theorem Condition.truths_ungrouped : ∀ cs : List Condition,
    Condition.truths I (Condition.ungroupedAll cs) = Condition.truths I cs
  | [] => rfl
  | c :: cs => by
    rw [Condition.ungroupedAll, Condition.truths, Condition.truths, truth_ungrouped c,
      truths_ungrouped cs]

end

end Sql

end Proximity
